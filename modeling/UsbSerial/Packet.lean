import UsbSerial.Word

/-! Bulk packets. Each packet a chip sends starts with two bytes of modem status. -/

namespace UsbSerial.Packet

def statusBytes : Nat := 2

/-- What a chip sends of its queue into `limit` bytes, and what stays in the queue. A chip with
nothing to say still sends its status. -/
def send (size : Nat) (status : UInt16) (limit : Nat) (queue : List UInt8) :
    List UInt8 × List UInt8 :=
  if statusBytes ≤ limit then
    let payload := min (min (size - statusBytes) (limit - statusBytes)) queue.length
    let packet := Word.bytes status ++ queue.take payload
    if queue.drop payload = [] then (packet, [])
    else
      let (more, rest) := send size status (limit - (statusBytes + payload)) (queue.drop payload)
      (packet ++ more, rest)
  else ([], queue)
termination_by limit
decreasing_by simp only [statusBytes] at *; omega

def moveDown (data : Array UInt8) (source target : Nat) : Nat → Array UInt8
  | 0 => data
  | count + 1 =>
      moveDown (data.setIfInBounds target (data.getD source 0)) (source + 1) (target + 1) count

@[simp] theorem size_moveDown (data : Array UInt8) (source target count : Nat) :
    (moveDown data source target count).size = data.size := by
  induction count generalizing data source target with
  | zero => rfl
  | succ count ih => simp [moveDown, ih]

/-- Closes the gaps that status bytes leave, from the packet at `start` on, behind `kept` bytes
of payload. The number counts the payload. -/
def compact (size : Nat) (data : Array UInt8) (start kept : Nat) : Array UInt8 × Nat :=
  if statusBytes < size ∧ start < data.size then
    let payload := min (start + size) data.size - (start + statusBytes)
    compact size (moveDown data (start + statusBytes) kept payload) (start + size)
      (kept + payload)
  else (data, kept)
termination_by data.size - start
decreasing_by simp only [statusBytes, size_moveDown] at *; omega

def strip (size : Nat) (data : List UInt8) : List UInt8 :=
  let (compacted, kept) := compact size data.toArray 0 0
  compacted.toList.take kept

end UsbSerial.Packet
