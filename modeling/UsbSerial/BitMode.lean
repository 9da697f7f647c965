namespace UsbSerial

inductive BitMode
  | reset
  | bitBang
  | mpsse
  | syncBitBang
  | mcu
  | opto
  | cbus
  | syncFifo
  deriving DecidableEq, Repr

namespace BitMode

def name : BitMode → String
  | reset => "Reset"
  | bitBang => "BitBang"
  | mpsse => "Mpsse"
  | syncBitBang => "SyncBB"
  | mcu => "Mcu"
  | opto => "Opto"
  | cbus => "Cbus"
  | syncFifo => "SyncFf"

def code : BitMode → UInt8
  | reset => 0x00
  | bitBang => 0x01
  | mpsse => 0x02
  | syncBitBang => 0x04
  | mcu => 0x08
  | opto => 0x10
  | cbus => 0x20
  | syncFifo => 0x40

theorem code_injective {m n : BitMode} (h : m.code = n.code) : m = n := by
  cases m <;> cases n <;> first | rfl | exact absurd h (by decide)

/-- Whether bytes written to the channel set the pins. The levels of `cbus` travel in the request
that selects the mode. -/
def drivesPins : BitMode → Bool
  | bitBang | syncBitBang => true
  | _ => false

end BitMode

end UsbSerial
