import UsbSerial.Error
import UsbSerial.Word

/-! Images of an EEPROM: a buffer as large as the largest part, of which a front is in use. The
last word in use is a checksum of the others. -/

namespace UsbSerial.Eeprom

inductive Size
  | bytes64
  | bytes128
  | bytes256
  deriving DecidableEq, Repr

namespace Size

def bytes : Size → Nat
  | bytes64 => 64
  | bytes128 => 128
  | bytes256 => 256

def words (s : Size) : Nat := s.bytes / 2

def ofBytes? : Nat → Option Size
  | 64 => some bytes64
  | 128 => some bytes128
  | 256 => some bytes256
  | _ => none

theorem bytes_pos (s : Size) : 0 < s.bytes := by cases s <;> decide

theorem bytes_le (s : Size) : s.bytes ≤ 256 := by cases s <;> decide

theorem mod_lt (s : Size) (address : Nat) : address % s.bytes < 256 :=
  Nat.lt_of_lt_of_le (Nat.mod_lt address s.bytes_pos) s.bytes_le

end Size

structure Image where
  chip : Chip
  size : Size
  buffer : Vector UInt8 256
  deriving DecidableEq

namespace Image

def ofList (chip : Chip) (size : Size) (bytes : List UInt8) : Image where
  chip
  size
  buffer := Vector.ofFn fun i => bytes.getD i 0

/-- The byte at an address; addresses beyond the size in use wrap around. -/
def byte (img : Image) (address : Nat) : UInt8 :=
  img.buffer.get ⟨address % img.size.bytes, img.size.mod_lt address⟩

def bytes (img : Image) : List UInt8 := img.buffer.toList.take img.size.bytes

def word (img : Image) (address : Nat) : UInt16 :=
  Word.ofBytes (img.byte (2 * address)) (img.byte (2 * address + 1))

def word? (img : Image) (address : Nat) : Option UInt16 :=
  if address < img.size.words then some (img.word address) else none

def words (img : Image) : List UInt16 := (List.range img.size.words).map img.word

def isBlank (img : Image) : Bool := img.bytes.all (· = 0xFF)

def checksumSeed : UInt16 := 0xAAAA

def checksumOf (words : List UInt16) : UInt16 :=
  words.foldl (fun sum w => Word.rotateLeft (sum ^^^ w)) checksumSeed

def storedChecksum (img : Image) : UInt16 := img.word (img.size.words - 1)

def checksum (img : Image) : UInt16 := checksumOf (img.words.take (img.size.words - 1))

def withChecksum (chip : Chip) (size : Size) (body : List UInt8) : Image :=
  let front := (body.take (size.bytes - 2)).rightpad (size.bytes - 2) 0
  ofList chip size (front ++ Word.bytes (ofList chip size front).checksum)

def corrected (img : Image) : Image := withChecksum img.chip img.size img.bytes

def ofBytes (chip : Chip) (bytes : List UInt8) : Except Error Image :=
  match Size.ofBytes? bytes.length with
  | some size =>
      if size.bytes ≤ chip.eepromBytes then .ok (ofList chip size bytes)
      else .error (.image (.size bytes.length chip))
  | none => .error (.image (.size bytes.length chip))

def display (img : Image) : String :=
  s!"RawEeprom \x7b chip_type: {img.chip.name}, size: {img.size.bytes}, checksum: " ++
    s!"{Text.Hex.marked 4 img.storedChecksum.toNat}, .. \x7d"

end Image

end UsbSerial.Eeprom
