import UsbSerial.Chip
import UsbSerial.Device.Listing
import UsbSerial.Session.Serial

namespace UsbSerial.Session

open Text.Hex (marked)

variable {β δ κ : Type} [Transport β δ κ]

def findAll (vendor product : UInt16) : Action β κ (List (Device.Descriptor δ)) := tracked do
  require .findAll fun _ => true
  onHost (Device.findAll (← session).options vendor product)

def detach : Action β κ Unit := do
  match (← session).binding with
  | .opened link =>
      match ← onHost (Host.outcome (Transport.release link.handle)) with
      | .ok () => pure ()
      | .error e => note .warn s!"releasing device failed: {e.text}"
      modifySession fun s => { s with binding := .closed }
  | _ => pure ()

def orDetach (cause : Error → Error) (step : Action β κ Unit) : Action β κ Unit :=
  tryCatch step fun e => do
    detach
    throw (cause e)

def claimFault : Usb.Error → Error
  | .claim reason => .notClaimed reason
  | e => .notOpened e

def claim (device : δ) : Action β κ (Usb.Claim κ) := do
  let channel := (← session).options.channel
  let claim ← onHost (Host.call claimFault (Transport.claim device channel.number))
  onHost (Host.record claim.notes)
  return claim

def defaultBaudRate : UInt32 := 9600

def attach (device : δ) : Action β κ Unit := do
  let claim ← claim device
  let chip := Chip.detect claim.facts.release claim.facts.hasSerial
  note .debug (s!"opened {chip.name} (bcdDevice {marked 4 claim.facts.release.toNat}) " ++
    s!"on interface {(← session).options.channel.name}")
  modifySession fun s =>
    { s with
      binding := .opened
        { handle := claim.handle, chip, packetBytes := claim.facts.packetBytes } }
  orDetach .notReset resetEngine
  orDetach .noDefaultBaudRate (programBaudRate defaultBaudRate)

def beginOpening : Action β κ Unit := do
  require .openDevice (· = .closed)
  modifySession fun s => { s with lastError := none }

def openMatching (filter : Device.Filter) : Action β κ Unit := tracked do
  beginOpening
  attach (← onHost (Device.find (← session).options filter))

def openFirst (vendor product : UInt16) : Action β κ Unit := openMatching { vendor, product }

def openFound (descriptor : Device.Descriptor δ) : Action β κ Unit := tracked do
  beginOpening
  attach descriptor.device

def close : Action β κ Unit := tracked do
  require .close State.isOpened
  detach
  note .debug "context closed"

def destroy : Action β κ Unit := tracked do
  require .destroy (· = .closed)
  modifySession fun s => { s with binding := .destroyed }
  note .debug "context destroyed"

def setChannel (channel : Channel) : Action β κ Unit := tracked do
  require .setChannel (· = .closed)
  modifySession fun s => { s with options := { s.options with channel } }

def drop : Action β κ Unit := do
  if (← session).state.isOpened then
    note .warn "context dropped while open; releasing device"
    detach

end UsbSerial.Session
