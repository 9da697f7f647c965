namespace UsbSerial

inductive Chip
  | am
  | bm
  | ft2232C
  | ft232R
  | ft2232H
  | ft4232H
  deriving DecidableEq, Repr

namespace Chip

def all : List Chip := [am, bm, ft2232C, ft232R, ft2232H, ft4232H]

theorem mem_all (c : Chip) : c ∈ all := by cases c <;> simp [all]

def name : Chip → String
  | am => "Am"
  | bm => "Bm"
  | ft2232C => "Ft2232C"
  | ft232R => "Ft232R"
  | ft2232H => "Ft2232H"
  | ft4232H => "Ft4232H"

/-- The family of a device release number. A BM with a blank serial number reports the number
of an AM, so a device without a serial text is never an AM. -/
def detect (release : UInt16) (hasSerial : Bool) : Chip :=
  if release = 0x0200 then if hasSerial then am else bm
  else if release = 0x0500 then ft2232C
  else if release = 0x0600 then ft232R
  else if release = 0x0700 then ft2232H
  else if release = 0x0800 then ft4232H
  else bm

def release : Chip → UInt16
  | am => 0x0200
  | bm => 0x0400
  | ft2232C => 0x0500
  | ft232R => 0x0600
  | ft2232H => 0x0700
  | ft4232H => 0x0800

theorem detect_release (c : Chip) : detect c.release true = c := by cases c <;> rfl

def isHighSpeed : Chip → Bool
  | ft2232H | ft4232H => true
  | _ => false

def hasChipId (c : Chip) : Bool := c = ft232R

def channels : Chip → Nat
  | ft2232C | ft2232H => 2
  | ft4232H => 4
  | _ => 1

def eepromBytes : Chip → Nat
  | ft232R => 128
  | _ => 256

def eepromWords (c : Chip) : Nat := c.eepromBytes / 2

def productName : Chip → String
  | am => "AM"
  | bm => "BM"
  | ft2232C => "Dual RS232"
  | ft232R => "FT232R USB UART"
  | ft2232H => "Dual RS232-HS"
  | ft4232H => "FT4232H"

def productId : Chip → UInt16
  | am | bm | ft232R => 0x6001
  | ft2232C | ft2232H => 0x6010
  | ft4232H => 0x6011

def packetBytes (c : Chip) : Nat := if c.isHighSpeed then 512 else 64

end Chip

end UsbSerial
