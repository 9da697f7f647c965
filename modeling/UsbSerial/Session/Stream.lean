import UsbSerial.Packet
import UsbSerial.Session.Action

namespace UsbSerial.Session

def pieces (size : Nat) (size_pos : 0 < size) (data : List UInt8) : List (List UInt8) :=
  if data = [] then []
  else data.take size :: pieces size size_pos (data.drop size)
termination_by data.length
decreasing_by
  rename_i h
  have := List.length_pos_iff.mpr h
  simp only [List.length_drop]
  omega

variable {β δ κ : Type} [Transport β δ κ]

def writePieces (total : Nat) : List (List UInt8) → Nat → Action β κ Nat
  | [], written => pure written
  | piece :: rest, written => do
      let n ← bulkOut .write piece
      if n < piece.length then throw (.shortTransfer total (written + n))
      writePieces total rest (written + n)

def write (data : List UInt8) : Action β κ Nat := tracked do
  require .write State.isOpened
  let options := (← session).options
  writePieces data.length (pieces options.writeChunk options.writeChunk_pos data) 0

/-- Up to `room` bytes. What a bulk read brings beyond them is kept for the next call. -/
def read (room : Nat) : Action β κ (List UInt8) := tracked do
  require .read State.isOpened
  if room = 0 then return []
  let options := (← session).options
  let link ← link .read
  match link.leftover.unread with
  | [] =>
      let data ← onHost (Host.call .transport (Transport.bulkIn link.handle
        options.channel.inEndpoint options.readChunk options.readTimeout))
      let payload := Packet.strip link.packetBytes data
      modifyLink fun l => { l with leftover := { bytes := payload.drop room } }
      return payload.take room
  | pending =>
      modifyLink fun l => { l with leftover := l.leftover.advance room }
      return pending.take room

end UsbSerial.Session
