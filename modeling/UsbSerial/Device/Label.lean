/-! Texts of devices, kept to a length. Lengths count UTF-16 units. -/

namespace UsbSerial.Device

structure Label where
  text : String
  truncated : Bool := false
  deriving DecidableEq, Repr

namespace Label

def units (c : Char) : Nat := if c.toNat < 0x10000 then 1 else 2

def fitting : Nat → List Char → List Char
  | _, [] => []
  | room, c :: cs => if units c ≤ room then c :: fitting (room - units c) cs else []

def bounded (s : String) (room : Nat) : Label :=
  let kept := fitting room s.toList
  { text := String.ofList kept, truncated := kept.length < s.toList.length }

def display (l : Label) : String := if l.truncated then l.text ++ "..." else l.text

end Label

end UsbSerial.Device
