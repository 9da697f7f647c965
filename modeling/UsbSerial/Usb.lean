import UsbSerial.Attempt
import UsbSerial.Duration
import UsbSerial.Log

/-! The boundary between sessions and the bus. Whatever carries the calls is an instance of
`Transport`; a call that fails may still change the bus. -/

namespace UsbSerial

namespace Usb

inductive Error
  | claim (reason : String)
  | timeout (after : Duration)
  | disconnected
  | bus (reason : String)
  deriving DecidableEq, Repr

def Error.text : Error → String
  | claim reason => s!"unable to claim interface: {reason}"
  | timeout after => s!"transfer timed out after {after.text}"
  | disconnected => "device disconnected"
  | bus reason => s!"bus error: {reason}"

structure Ids where
  vendor : UInt16
  product : UInt16
  release : UInt16
  deriving DecidableEq, Repr

structure Texts where
  manufacturer : Option String := none
  product : Option String := none
  serial : Option String := none
  deriving DecidableEq, Repr

structure Facts where
  release : UInt16
  hasSerial : Bool
  packetBytes : Nat
  deriving DecidableEq, Repr

structure Claim (κ : Type) where
  handle : κ
  facts : Facts
  notes : List Log.Entry := []
  deriving DecidableEq, Repr

end Usb

/-- Buses of type `β`, on which `δ` refers to a device and `κ` to a claimed channel of one. -/
class Transport (β : Type) (δ κ : outParam Type) where
  enumerate (vendor product : UInt16) : Attempt β Usb.Error (List δ)
  ids (device : δ) (bus : β) : Usb.Ids
  texts (device : δ) (timeout : Duration) : Attempt β Usb.Error Usb.Texts
  claim (device : δ) (channel : UInt8) : Attempt β Usb.Error (Usb.Claim κ)
  controlOut (handle : κ) (request : UInt8) (value index : UInt16) (timeout : Duration) :
    Attempt β Usb.Error Unit
  controlIn (handle : κ) (request : UInt8) (value index length : UInt16) (timeout : Duration) :
    Attempt β Usb.Error (List UInt8)
  bulkOut (handle : κ) (endpoint : UInt8) (data : List UInt8) (timeout : Duration) :
    Attempt β Usb.Error Nat
  bulkIn (handle : κ) (endpoint : UInt8) (limit : Nat) (timeout : Duration) :
    Attempt β Usb.Error (List UInt8)
  release (handle : κ) : Attempt β Usb.Error Unit

end UsbSerial
