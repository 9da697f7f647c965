import UsbSerial.Sim.Device

namespace UsbSerial.Sim

structure DeviceId where
  place : Nat
  deriving DecidableEq, Repr

structure Handle where
  device : DeviceId
  channel : UInt8
  facts : Usb.Facts
  deriving DecidableEq, Repr

structure Bus where
  devices : List Device := []
  failing : Bool := false
  deriving DecidableEq, Repr

namespace Bus

def device? (bus : Bus) (id : DeviceId) : Option Device := bus.devices[id.place]?

def attach (bus : Bus) (d : Device) : Bus :=
  { bus with devices := bus.devices ++ [d.plugged] }

def update (bus : Bus) (id : DeviceId) (f : Device → Device) : Bus :=
  { bus with devices := bus.devices.modify id.place f }

def free (bus : Bus) (h : Handle) : Bus := bus.update h.device (Device.release h.channel)

abbrev Transfer (α : Type) := Attempt Bus Usb.Error α

def on {α : Type} (id : DeviceId) (t : Device.Transfer α) : Transfer α :=
  .of fun bus =>
    match bus.device? id with
    | none => (.error .disconnected, bus)
    | some d =>
        let (result, d) := t.exec d
        (result, bus.update id fun _ => d)

def answersTo (vendor product : UInt16) (d : Device) : Bool :=
  !d.disconnected && d.ids.vendor = vendor && d.ids.product = product

def enumerate (vendor product : UInt16) : Transfer (List DeviceId) := do
  let bus ← get
  if bus.failing then throw (.bus "simulated bus failure")
  return (bus.devices.zipIdx.filter fun (d, _) => answersTo vendor product d).map
    fun (_, place) => { place }

def ids (id : DeviceId) (bus : Bus) : Usb.Ids :=
  match bus.device? id with
  | some d => d.ids
  | none => { vendor := 0, product := 0, release := 0 }

def texts (id : DeviceId) : Transfer Usb.Texts := on id do
  let d ← get
  if d.disconnected then throw .disconnected
  return d.texts

def claimNote (id : DeviceId) (channel : UInt8) : Log.Entry where
  level := .trace
  text := s!"mock: claimed MockDeviceId({id.place}) interface {channel}"

def claim (id : DeviceId) (channel : UInt8) : Transfer (Usb.Claim Handle) := do
  let facts ← on id (Device.claim channel)
  return { handle := { device := id, channel, facts }, facts, notes := [claimNote id channel] }

instance : Transport Bus DeviceId Handle where
  enumerate
  ids
  texts id _ := texts id
  claim
  controlOut h request value index timeout :=
    on h.device (Device.controlOut { request, value, index } timeout)
  controlIn h request value index length timeout :=
    on h.device (Device.controlIn { request, value, index } length timeout)
  bulkOut h _ data timeout := on h.device (Device.bulkOut data timeout)
  bulkIn h _ limit timeout := on h.device (Device.bulkIn limit timeout)
  release h := modify fun bus => bus.free h

end Bus

end UsbSerial.Sim
