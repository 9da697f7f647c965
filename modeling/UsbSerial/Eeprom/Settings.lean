import UsbSerial.Chip

namespace UsbSerial.Eeprom

structure Drive where
  strength : UInt8 := 0
  schmitt : Bool := false
  slow : Bool := false
  deriving DecidableEq, Repr

def Drive.display (d : Drive) : String :=
  s!"DriveGroup \x7b drive: {d.strength}, schmitt: {d.schmitt}, slow_slew: {d.slow} \x7d"

structure Settings where
  vendor : UInt16 := 0x0403
  product : UInt16 := 0x6001
  release : UInt16 := 0
  selfPowered : Bool := false
  remoteWakeup : Bool := false
  -- in mA
  maxPower : UInt16 := 100
  notPlugAndPlay : Bool := false
  isochronousIn : Bool := false
  isochronousOut : Bool := false
  suspendPullDowns : Bool := false
  useSerial : Bool := false
  useUsbVersion : Bool := false
  usbVersion : UInt16 := 0x0200
  manufacturerText : Option String := none
  productText : Option String := none
  serialText : Option String := none
  -- 0 serial line, 1 FIFO, 2 CPU, 4 opto-isolated
  channelTypeA : UInt8 := 0
  channelTypeB : UInt8 := 0
  serialDriver : Vector Bool 4 := .replicate 4 false
  rs485 : Vector Bool 4 := .replicate 4 false
  suspendDbus7 : Bool := false
  highCurrent : Bool := false
  highCurrentA : Bool := false
  highCurrentB : Bool := false
  externalOscillator : Bool := false
  inverted : UInt8 := 0
  cbus : Vector UInt8 5 := .replicate 5 0
  drives : Vector Drive 4 := .replicate 4 {}
  -- 0x46, 0x56 or 0x66 for a 93x46, 93x56 or 93x66
  part : Option UInt8 := none
  size : Nat := 128
  deriving DecidableEq, Repr

namespace Settings

def defaults (chip : Chip) (manufacturer product serial : Option String) : Settings where
  product := chip.productId
  release := chip.release
  manufacturerText := some (manufacturer.getD "FTDI")
  productText := some (product.getD chip.productName)
  serialText := serial
  useSerial := serial.isSome
  serialDriver := .replicate 4 true
  usbVersion := if chip = .am then 0x0101 else 0x0200
  cbus := if chip = .ft232R then #v[3, 2, 0, 1, 5] else .replicate 5 0
  part :=
    match chip with
    | .ft2232C => some 0x46
    | .ft2232H | .ft4232H => some 0x56
    | _ => none
  size := if chip.isHighSpeed then 256 else 128

end Settings

end UsbSerial.Eeprom
