import UsbSerial.Chip
import UsbSerial.State
import UsbSerial.Usb
import UsbSerial.Text.Hex

namespace UsbSerial

inductive AllocationFault
  | capacity
  | memory
  deriving DecidableEq, Repr

def AllocationFault.text : AllocationFault → String
  | capacity => "memory allocation failed because the computed capacity exceeded the " ++
      "collection's maximum"
  | memory => "memory allocation failed because the memory allocator returned an error"

inductive ArgumentFault
  | baudRateTooLarge
  | baudRateZero
  | latencyZero
  | eepromSize
  | eepromTexts
  | imageChip
  deriving DecidableEq, Repr

def ArgumentFault.text : ArgumentFault → String
  | baudRateTooLarge => "baud rate too large"
  | baudRateZero => "baud rate must be > 0"
  | latencyZero => "latency must be 1..=255 ms"
  | eepromSize => "EEPROM size must be 128 or 256 bytes"
  | eepromTexts => "EEPROM strings must be ASCII"
  | imageChip => "EEPROM image built for another chip type"

inductive Slot
  | manufacturer
  | product
  | serial
  deriving DecidableEq, Repr

def Slot.name : Slot → String
  | manufacturer => "manufacturer"
  | product => "product"
  | serial => "serial"

inductive ImageFault
  | size (bytes : Nat) (chip : Chip)
  | blank
  | textLength (slot : Slot) (length : Nat)
  | descriptor (slot : Slot) (start : Nat)
  deriving DecidableEq, Repr

def ImageFault.text : ImageFault → String
  | size bytes chip => s!"{bytes} byte image does not fit a {chip.name} EEPROM"
  | blank => "EEPROM is blank"
  | textLength slot length => s!"{slot.name} string length {length} invalid"
  | descriptor slot start =>
      s!"{slot.name} string descriptor at {Text.Hex.marked 2 start} malformed"

inductive Error
  | allocation (fault : AllocationFault)
  | enumeration (cause : Usb.Error)
  | notFound
  | notOpened (cause : Usb.Error)
  | notClaimed (reason : String)
  | notReset (cause : Error)
  | noDefaultBaudRate (cause : Error)
  | unsupportedBaudRate (requested nearest : Nat)
  | invalidArgument (fault : ArgumentFault)
  | unsupportedChip (chip : Chip)
  | invalidState (operation : Operation) (state : State)
  | transport (cause : Usb.Error)
  | shortTransfer (expected actual : Nat)
  | outOfRange (address max : UInt16)
  | eepromFull (needed available : Nat)
  | checksum (stored computed : UInt16)
  | image (fault : ImageFault)
  | destroyed
  deriving DecidableEq, Repr

namespace Error

inductive Kind
  | allocation
  | enumeration
  | opening
  | config
  | invalidState
  | transport
  | outOfRange
  | format
  | destroyed
  deriving DecidableEq, Repr

namespace Kind

def all : List Kind :=
  [allocation, enumeration, opening, config, invalidState, transport, outOfRange, format,
    destroyed]

def code : Kind → Int
  | allocation => -1
  | enumeration => -2
  | opening => -3
  | config => -4
  | invalidState => -5
  | transport => -6
  | outOfRange => -7
  | format => -8
  | destroyed => -9

def ofCode? (code : Int) : Option Kind := all.find? (·.code = code)

theorem ofCode?_code (k : Kind) : ofCode? k.code = some k := by cases k <;> rfl

def isRetryable : Kind → Bool
  | enumeration | transport => true
  | _ => false

end Kind

def kind : Error → Kind
  | allocation _ => .allocation
  | enumeration _ => .enumeration
  | notFound | notOpened _ | notClaimed _ | notReset _ | noDefaultBaudRate _ => .opening
  | unsupportedBaudRate _ _ | invalidArgument _ | unsupportedChip _ | eepromFull _ _ => .config
  | invalidState _ _ => .invalidState
  | transport _ | shortTransfer _ _ => .transport
  | outOfRange _ _ => .outOfRange
  | checksum _ _ | image _ => .format
  | destroyed => .destroyed

def code (e : Error) : Int := e.kind.code

inductive Stage
  | find
  | access
  | claim
  | reset
  | baudRate
  deriving DecidableEq, Repr

def Stage.code : Stage → Int
  | find => -3
  | access => -4
  | claim => -5
  | reset => -6
  | baudRate => -7

def stage? : Error → Option Stage
  | notFound => some .find
  | notOpened _ => some .access
  | notClaimed _ => some .claim
  | notReset _ => some .reset
  | noDefaultBaudRate _ => some .baudRate
  | _ => none

def Stage.text (stage : Stage) (reason : String) : String :=
  s!"unable to open device ({stage.code}): {reason}"

def text : Error → String
  | allocation fault => s!"allocation failed: {fault.text}"
  | enumeration cause => s!"device enumeration failed: {cause.text}"
  | notFound => Stage.find.text "device not found"
  | notOpened cause => Stage.access.text cause.text
  | notClaimed reason => Stage.claim.text reason
  | notReset cause => Stage.reset.text s!"reset failed: {text cause}"
  | noDefaultBaudRate cause => Stage.baudRate.text s!"default baud rate failed: {text cause}"
  | unsupportedBaudRate requested nearest =>
      s!"unsupported baud rate: requested {requested}, nearest achievable {nearest}"
  | invalidArgument fault => s!"invalid argument: {fault.text}"
  | unsupportedChip chip => s!"unsupported operation for chip type {chip.name}"
  | invalidState operation state =>
      s!"{operation.name} not allowed while session is {state.text}"
  | transport cause => s!"transfer failed: {cause.text}"
  | shortTransfer expected actual =>
      s!"short transfer: expected {expected} bytes, got {actual}"
  | outOfRange address max =>
      s!"EEPROM address {Text.Hex.marked 2 address.toNat} out of range " ++
        s!"(max {Text.Hex.marked 2 max.toNat})"
  | eepromFull needed available =>
      s!"EEPROM strings need {needed} bytes, only {available} available"
  | checksum stored computed =>
      s!"EEPROM checksum mismatch: stored {Text.Hex.marked 4 stored.toNat}, " ++
        s!"computed {Text.Hex.marked 4 computed.toNat}"
  | image fault => s!"EEPROM format error: {fault.text}"
  | destroyed => "context used after destroy"

end Error

def statusCode {α : Type} : Except Error α → Int
  | .ok _ => 0
  | .error e => e.code

/-- One number for a transfer: the byte count, or the code of the error. A count that does not
fit 31 bits is cut to the greatest that does. -/
def transferStatus : Except Error Nat → Int
  | .ok n => min n 2147483647
  | .error e => e.code

end UsbSerial
