import UsbSerial.Eeprom.Texts

namespace UsbSerial.Eeprom

namespace Settings

def texts (s : Settings) : List (Option String) :=
  [s.manufacturerText, s.productText, s.serialText]

def imageSize? (chip : Chip) (s : Settings) : Option Size :=
  match s.size with
  | 128 => some .bytes128
  | 256 => if 256 ≤ chip.eepromBytes then some .bytes256 else none
  | _ => none

def body (chip : Chip) (size : Size) (s : Settings) : List UInt8 :=
  (Header.bytes chip s (Texts.table (Texts.start chip) s.texts)).rightpad
      (Texts.start chip % size.bytes) 0 ++
    Texts.descriptors s.texts ++ Texts.block chip s.notPlugAndPlay

def encode (chip : Chip) (s : Settings) : Except Error Image :=
  match s.imageSize? chip with
  | none => .error (.invalidArgument .eepromSize)
  | some size =>
      let needed := Texts.footprint chip s.texts
      let available := size.bytes - 2 - Texts.start chip % size.bytes
      if ¬ s.texts.all (·.all Texts.isAscii) then .error (.invalidArgument .eepromTexts)
      else if available < needed then .error (.eepromFull needed available)
      else .ok (Image.withChecksum chip size (s.body chip size))

end Settings

structure Decoded where
  image : Image
  settings : Settings
  deriving DecidableEq

namespace Image

def readSettings (img : Image) : Except ImageFault Settings := do
  let manufacturer ← Texts.read img .manufacturer
  let product ← Texts.read img .product
  let serial ← Texts.read img .serial
  let s := Header.readOwn img (Header.readFeatures img (Header.readShared img))
  return { s with
    manufacturerText := manufacturer
    productText := product
    serialText := serial
    notPlugAndPlay := Texts.readNotPlugAndPlay img }

def decode (img : Image) : Except Error Decoded :=
  if img.isBlank then .error (.image .blank)
  else if img.checksum ≠ img.storedChecksum then
    .error (.checksum img.storedChecksum img.checksum)
  else
    match img.readSettings with
    | .error fault => .error (.image fault)
    | .ok settings => .ok { image := img, settings }

end Image

end UsbSerial.Eeprom
