import UsbSerial.Eeprom.Codec

namespace UsbSerial.Eeprom.Decoded

open Text.Hex (marked)

def textLine (label : String) : Option String → List String
  | none => []
  | some s => [label ++ s]

def powerLine (s : Settings) : String :=
  (if s.selfPowered then "self" else "bus") ++ s!" powered, {s.maxPower} mA max" ++
    (if s.remoteWakeup then ", remote wakeup" else "")

def cbusLines (s : Settings) : List String :=
  ["CBUS functions: [" ++ ", ".intercalate (s.cbus.toList.map fun f => s!"{f}") ++ "]"] ++
    if s.inverted = 0 then [] else ["Inverted signals: " ++ marked 2 s.inverted.toNat]

def driveLine (s : Settings) : String :=
  "Drive groups: [" ++ ", ".intercalate (s.drives.toList.map Drive.display) ++ "]"

def lines (d : Decoded) : List String :=
  let chip := d.image.chip
  let s := d.settings
  [s!"{chip.name} EEPROM, {s.size} bytes",
    "VID:     " ++ marked 4 s.vendor.toNat,
    "PID:     " ++ marked 4 s.product.toNat,
    "Release: " ++ marked 4 s.release.toNat] ++
  textLine "Manufacturer: " s.manufacturerText ++
  textLine "Product:      " s.productText ++
  textLine "Serial:       " s.serialText ++
  [powerLine s] ++
  (if s.useUsbVersion then ["USB version: " ++ marked 4 s.usbVersion.toNat] else []) ++
  (if chip = .ft232R then cbusLines s else []) ++
  (if chip.isHighSpeed then [driveLine s] else [])

def summary (d : Decoded) : List Log.Entry := d.lines.map fun text => { level := .info, text }

end UsbSerial.Eeprom.Decoded
