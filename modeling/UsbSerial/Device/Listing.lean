import UsbSerial.Device.Label
import UsbSerial.Host
import UsbSerial.Session.Options
import UsbSerial.Text.Quoted

namespace UsbSerial.Device

structure Descriptor (δ : Type) where
  vendor : UInt16
  product : UInt16
  manufacturer : Option Label
  description : Option Label
  serial : Option Label
  device : δ
  deriving DecidableEq, Repr

structure Filter where
  vendor : UInt16 := 0x0403
  product : UInt16 := 0x6001
  description : Option String := none
  serial : Option String := none
  position : Nat := 0
  deriving DecidableEq, Repr

namespace Filter

def needsTexts (f : Filter) : Bool := f.description.isSome || f.serial.isSome

def accepts (f : Filter) (texts : Usb.Texts) : Bool :=
  (f.description.isNone || texts.product = f.description) &&
    (f.serial.isNone || texts.serial = f.serial)

end Filter

open Text.Hex (digits)
open Text.Quoted (quoteOption)

variable {β δ κ : Type} [Transport β δ κ]

def idText (vendor product : UInt16) : String :=
  digits 4 vendor.toNat ++ ":" ++ digits 4 product.toNat

def textsText (t : Usb.Texts) : String :=
  s!"manufacturer={quoteOption t.manufacturer} product={quoteOption t.product} " ++
    s!"serial={quoteOption t.serial}"

def Descriptor.ofTexts (device : δ) (ids : Usb.Ids) (texts : Usb.Texts) (limit : Nat) :
    Descriptor δ where
  vendor := ids.vendor
  product := ids.product
  manufacturer := texts.manufacturer.map (Label.bounded · limit)
  description := texts.product.map (Label.bounded · limit)
  serial := texts.serial.map (Label.bounded · limit)
  device

def readTexts (options : Session.Options) (device : δ) : Attempt (Host β) Error Usb.Texts :=
  Host.call .enumeration (Transport.texts device options.readTimeout)

def describe (options : Session.Options) (device : δ) :
    Attempt (Host β) Error (Descriptor δ) := do
  let ids := Transport.ids device (← get).bus
  let texts ← readTexts options device
  Host.note .trace (idText ids.vendor ids.product ++ " " ++ textsText texts)
  return .ofTexts device ids texts options.textLimit

def enumerate (vendor product : UInt16) : Attempt (Host β) Error (List δ) :=
  Host.call .enumeration (Transport.enumerate vendor product)

def findAll (options : Session.Options) (vendor product : UInt16) :
    Attempt (Host β) Error (List (Descriptor δ)) := do
  let found ← (← enumerate vendor product).mapM (describe options)
  Host.note .debug s!"found {found.length} device(s) matching {idText vendor product}"
  return found

def matching (options : Session.Options) (filter : Filter) (device : δ) :
    Attempt (Host β) Error Bool := do
  if filter.needsTexts then return filter.accepts (← readTexts options device)
  else return true

def pick (options : Session.Options) (filter : Filter) :
    Nat → List δ → Attempt (Host β) Error δ
  | _, [] => throw .notFound
  | skip, device :: devices => do
      if ← matching options filter device then
        match skip with
        | 0 => return device
        | skip + 1 => pick options filter skip devices
      else pick options filter skip devices

def find (options : Session.Options) (filter : Filter) : Attempt (Host β) Error δ := do
  pick options filter filter.position (← enumerate filter.vendor filter.product)

end UsbSerial.Device
