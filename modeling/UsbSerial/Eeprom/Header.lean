import UsbSerial.Eeprom.Image
import UsbSerial.Eeprom.Settings

namespace UsbSerial.Eeprom

namespace Drive

def nibble (d : Drive) : UInt8 := min d.strength 3 ||| flag 0x04 d.slow ||| flag 0x08 d.schmitt

def ofNibble (n : UInt8) : Drive where
  strength := n % 4
  schmitt := hasFlag n 0x08
  slow := hasFlag n 0x04

end Drive

namespace Header

def tableStart : Nat := 0x0E

def channelType (byte : UInt8) : UInt8 := byte % 8

def channelA (chip : Chip) (s : Settings) : UInt8 :=
  match chip with
  | .am | .bm => 0
  | .ft2232C =>
      channelType s.channelTypeA ||| flag 0x08 (s.serialDriver.getD 0 false) |||
        flag 0x10 s.highCurrentA
  | .ft232R =>
      flag 0x04 s.highCurrent ||| flag 0x08 (!s.serialDriver.getD 0 false) |||
        flag 0x02 s.externalOscillator
  | .ft2232H => channelType s.channelTypeA ||| flag 0x08 (s.serialDriver.getD 0 false)
  | .ft4232H => flag 0x08 (s.serialDriver.getD 0 false) ||| flag 0x80 (s.serialDriver.getD 2 false)

def channelB (chip : Chip) (s : Settings) : UInt8 :=
  match chip with
  | .am | .bm => 0
  | .ft2232C =>
      channelType s.channelTypeB ||| flag 0x08 (s.serialDriver.getD 1 false) |||
        flag 0x10 s.highCurrentB
  | .ft232R => 0x40
  | .ft2232H =>
      channelType s.channelTypeB ||| flag 0x08 (s.serialDriver.getD 1 false) |||
        flag 0x80 s.suspendDbus7
  | .ft4232H => flag 0x08 (s.serialDriver.getD 1 false) ||| flag 0x80 (s.serialDriver.getD 3 false)

def attributes (s : Settings) : UInt8 :=
  0x80 ||| flag 0x40 s.selfPowered ||| flag 0x20 s.remoteWakeup

def power (s : Settings) : UInt8 := (min (s.maxPower / 2) 255).toUInt8

def features (chip : Chip) (s : Settings) : UInt8 :=
  if chip = .am then 0
  else
    flag 0x01 s.isochronousIn ||| flag 0x02 s.isochronousOut ||| flag 0x04 s.suspendPullDowns |||
      flag 0x08 s.useSerial |||
      flag 0x10 (s.useUsbVersion && (chip = .bm || chip = .ft2232C))

def signals (chip : Chip) (s : Settings) : UInt8 :=
  match chip with
  | .ft232R => s.inverted
  | .ft4232H =>
      flag 0x10 (s.rs485.getD 0 false) ||| flag 0x20 (s.rs485.getD 1 false) |||
        flag 0x40 (s.rs485.getD 2 false) ||| flag 0x80 (s.rs485.getD 3 false)
  | _ => 0

def versionOrDrives (chip : Chip) (s : Settings) : List UInt8 :=
  match chip with
  | .am => [0, 0]
  | .bm | .ft2232C | .ft232R => Word.bytes s.usbVersion
  | .ft2232H | .ft4232H =>
      [Nibble.pair (s.drives.getD 0 {}).nibble (s.drives.getD 1 {}).nibble,
        Nibble.pair (s.drives.getD 2 {}).nibble (s.drives.getD 3 {}).nibble]

def tail (chip : Chip) (s : Settings) : List UInt8 :=
  match chip with
  | .am | .bm => []
  | .ft2232C => [s.part.getD 0, 0]
  | .ft232R =>
      [Nibble.pair (s.cbus.getD 0 0) (s.cbus.getD 1 0),
        Nibble.pair (s.cbus.getD 2 0) (s.cbus.getD 3 0), Nibble.pair (s.cbus.getD 4 0) 0, 0]
  | .ft2232H | .ft4232H => [0, 0, 0, 0, s.part.getD 0, 0]

def bytes (chip : Chip) (s : Settings) (table : List UInt8) : List UInt8 :=
  [channelA chip s, channelB chip s] ++ Word.bytes s.vendor ++ Word.bytes s.product ++
    Word.bytes s.release ++ [attributes s, power s, features chip s, signals chip s] ++
    versionOrDrives chip s ++ table ++ tail chip s

def readShared (img : Image) : Settings where
  vendor := img.word 1
  product := img.word 2
  release := img.word 3
  selfPowered := hasFlag (img.byte 0x08) 0x40
  remoteWakeup := hasFlag (img.byte 0x08) 0x20
  maxPower := (img.byte 0x09).toUInt16 * 2
  size := img.size.bytes

def readFeatures (img : Image) (s : Settings) : Settings :=
  if img.chip = .am then s
  else
    { s with
      isochronousIn := hasFlag (img.byte 0x0A) 0x01
      isochronousOut := hasFlag (img.byte 0x0A) 0x02
      suspendPullDowns := hasFlag (img.byte 0x0A) 0x04
      useSerial := hasFlag (img.byte 0x0A) 0x08
      useUsbVersion := hasFlag (img.byte 0x0A) 0x10 }

def readDrives (img : Image) : Vector Drive 4 :=
  #v[.ofNibble (Nibble.low (img.byte 0x0C)), .ofNibble (Nibble.high (img.byte 0x0C)),
    .ofNibble (Nibble.low (img.byte 0x0D)), .ofNibble (Nibble.high (img.byte 0x0D))]

def readOwn (img : Image) (s : Settings) : Settings :=
  match img.chip with
  | .am => s
  | .bm => { s with usbVersion := img.word 6 }
  | .ft2232C =>
      { s with
        channelTypeA := channelType (img.byte 0)
        channelTypeB := channelType (img.byte 1)
        serialDriver := #v[hasFlag (img.byte 0) 0x08, hasFlag (img.byte 1) 0x08, false, false]
        highCurrentA := hasFlag (img.byte 0) 0x10
        highCurrentB := hasFlag (img.byte 1) 0x10
        usbVersion := img.word 6
        part := some (img.byte 0x14) }
  | .ft232R =>
      { s with
        serialDriver := #v[!hasFlag (img.byte 0) 0x08, false, false, false]
        highCurrent := hasFlag (img.byte 0) 0x04
        externalOscillator := hasFlag (img.byte 0) 0x02
        inverted := img.byte 0x0B
        usbVersion := img.word 6
        cbus := #v[Nibble.low (img.byte 0x14), Nibble.high (img.byte 0x14),
          Nibble.low (img.byte 0x15), Nibble.high (img.byte 0x15), Nibble.low (img.byte 0x16)] }
  | .ft2232H =>
      { s with
        channelTypeA := channelType (img.byte 0)
        channelTypeB := channelType (img.byte 1)
        serialDriver := #v[hasFlag (img.byte 0) 0x08, hasFlag (img.byte 1) 0x08, false, false]
        suspendDbus7 := hasFlag (img.byte 1) 0x80
        drives := readDrives img
        part := some (img.byte 0x18) }
  | .ft4232H =>
      { s with
        serialDriver := #v[hasFlag (img.byte 0) 0x08, hasFlag (img.byte 1) 0x08,
          hasFlag (img.byte 0) 0x80, hasFlag (img.byte 1) 0x80]
        rs485 := #v[hasFlag (img.byte 0x0B) 0x10, hasFlag (img.byte 0x0B) 0x20,
          hasFlag (img.byte 0x0B) 0x40, hasFlag (img.byte 0x0B) 0x80]
        drives := readDrives img
        part := some (img.byte 0x18) }

end Header

end UsbSerial.Eeprom
