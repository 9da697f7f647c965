import UsbSerial.Session.Basic
import UsbSerial.Text.Quoted

namespace UsbSerial.Session

variable {κ : Type}

def chipText : Option Chip → String
  | none => "None"
  | some chip => s!"Some({chip.name})"

def lastErrorText (s : Session κ) : String :=
  s!"LastError \x7b code: {s.lastCode}, message: {Text.Quoted.quote s.lastText} \x7d"

def display (s : Session κ) : String :=
  s!"DeviceContext \x7b state: {s.state.name}, chip_type: {chipText s.chip?}, " ++
    s!"baudrate: {s.baudRate}, interface: {s.options.channel.name}, " ++
    s!"last_error: {lastErrorText s}, .. \x7d"

end UsbSerial.Session
