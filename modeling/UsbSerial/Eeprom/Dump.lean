import UsbSerial.Eeprom.Image

namespace UsbSerial.Eeprom.Dump

/-- Smaller parts ignore the high address lines, so that what they hold repeats. The part of an R
chip is its own; of an erased part nothing can be told. -/
def size (chip : Chip) (dump : List UInt8) : Size :=
  if chip = .ft232R then .bytes128
  else if dump.all (· = 0xFF) then .bytes256
  else if dump.take 128 = dump.drop 128 then .bytes128
  else if dump.take 64 = (dump.drop 64).take 64 then .bytes64
  else .bytes256

def image (chip : Chip) (dump : List UInt8) : Image := Image.ofList chip (size chip dump) dump

def probeWord : UInt16 := 0x55AA

def probeAddress : UInt16 := 0xC0

def probes : List (UInt16 × UInt8) := [(0x00, 0x46), (0x40, 0x56), (0xC0, 0x66)]

end UsbSerial.Eeprom.Dump
