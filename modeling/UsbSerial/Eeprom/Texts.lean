import UsbSerial.Eeprom.Header

/-! The texts of an image. A table in the header says where each text's descriptor starts and how
long it is; a descriptor is its length, a type byte and two bytes for each character. -/

namespace UsbSerial.Eeprom.Texts

def descriptorType : UInt8 := 0x03

def start : Chip → Nat
  | .am | .bm => 0x94
  | .ft2232C => 0x96
  | .ft232R => 0x98
  | .ft2232H | .ft4232H => 0x9A

def hasBlock : Chip → Bool
  | .am | .bm => false
  | _ => true

def block (chip : Chip) (notPlugAndPlay : Bool) : List UInt8 :=
  if hasBlock chip then [0x02, 0x03, flag 1 notPlugAndPlay] else []

def isAscii (s : String) : Bool := s.toList.all fun c => c.toNat < 128

def slotIndex : Slot → Nat
  | .manufacturer => 0
  | .product => 1
  | .serial => 2

def length : Option String → Nat
  | none => 0
  | some s => 2 * s.toList.length + 2

def descriptor : Option String → List UInt8
  | none => []
  | some s =>
      (length (some s)).toUInt8 :: descriptorType ::
        s.toList.flatMap fun c => [c.toNat.toUInt8, 0]

def descriptors (texts : List (Option String)) : List UInt8 := texts.flatMap descriptor

def table (address : Nat) : List (Option String) → List UInt8
  | [] => []
  | t :: texts => address.toUInt8 :: (length t).toUInt8 :: table (address + length t) texts

def lengths : List (Option String) → Nat
  | [] => 0
  | t :: texts => length t + lengths texts

def footprint (chip : Chip) (texts : List (Option String)) : Nat :=
  lengths texts + if hasBlock chip then 3 else 0

def pointer (img : Image) (slot : Slot) : Nat :=
  (img.byte (Header.tableStart + 2 * slotIndex slot)).toNat % img.size.bytes

def lengthByte (img : Image) (slot : Slot) : Nat :=
  (img.byte (Header.tableStart + 2 * slotIndex slot + 1)).toNat

def characters (img : Image) (address count : Nat) : List Char :=
  (List.range count).map fun j => Char.ofNat (img.byte (address + 2 * j)).toNat

def read (img : Image) (slot : Slot) : Except ImageFault (Option String) :=
  let len := lengthByte img slot
  let address := pointer img slot
  if len = 0 then .ok none
  else if len < 2 ∨ len % 2 ≠ 0 ∨ img.size.bytes - 2 < len then .error (.textLength slot len)
  else if (img.byte address).toNat ≠ len ∨ img.byte (address + 1) ≠ descriptorType then
    .error (.descriptor slot address)
  else .ok (some (String.ofList (characters img (address + 2) ((len - 2) / 2))))

def blockStart (img : Image) : Nat :=
  let ends := [Slot.manufacturer, .product, .serial].filterMap fun slot =>
    if lengthByte img slot = 0 then none else some (pointer img slot + lengthByte img slot)
  ends.max?.getD (start img.chip % img.size.bytes)

def readNotPlugAndPlay (img : Image) : Bool :=
  hasBlock img.chip && img.byte (blockStart img + 2) != 0

end UsbSerial.Eeprom.Texts
