import UsbSerial.Probe
import UsbSerial.Session.Call
import UsbSerial.Session.Display
import UsbSerial.Eeprom.Summary
import UsbSerial.Sim.Bus

/-! A bench: sessions and claims of their own on one simulated bus, with a probe in between. -/

namespace UsbSerial

open Sim (Bus DeviceId Handle)
open Eeprom (Image Decoded)

structure Bench where
  host : Host (Probe Bus) := { bus := { bus := {} } }
  sessions : List (Option (Session Handle)) := []
  claims : List (Option Handle) := []
  found : List (Device.Descriptor DeviceId) := []
  image : Option Image := none
  deriving DecidableEq

namespace Bench

inductive Tweak
  | failNext (n : Nat)
  | failRequest (request : Option UInt8)
  | shortWrite
  | disconnect
  | modemStatus (status : UInt16)
  | pins (levels : UInt8)
  | queue (data : List UInt8)
  deriving DecidableEq, Repr

def Tweak.apply (d : Sim.Device) : Tweak → Sim.Device
  | failNext n => { d with failing := n }
  | failRequest request => { d with failingRequest := request }
  | shortWrite => { d with shortWrite := true }
  | disconnect => { d with disconnected := true }
  | modemStatus status => { d with modemStatus := status }
  | pins levels => { d with pins := levels }
  | queue data => { d with queue := d.queue ++ data }

inductive Step
  | attach (device : Sim.Device)
  | failEnumeration (on : Bool)
  | tweak (device : DeviceId) (t : Tweak)
  | storage (device : DeviceId)
  | inspect (device : DeviceId)
  | seen
  | setUp (s : Probe.Setup)
  | enumerate (vendor product : UInt16)
  | ids (device : DeviceId)
  | texts (device : DeviceId) (timeout : Duration)
  | findAll (options : Session.Options) (vendor product : UInt16)
  | find (options : Session.Options) (filter : Device.Filter)
  | claim (device : DeviceId) (channel : UInt8)
  | controlOut (claim : Nat) (request : UInt8) (value index : UInt16) (timeout : Duration)
  | controlIn (claim : Nat) (request : UInt8) (value index length : UInt16)
      (timeout : Duration)
  | bulkOut (claim : Nat) (endpoint : UInt8) (data : List UInt8) (timeout : Duration)
  | bulkIn (claim : Nat) (endpoint : UInt8) (limit : Nat) (timeout : Duration)
  | release (claim : Nat)
  | create (options : Session.Options)
  | call (session : Nat) (c : Session.Call DeviceId)
  | openFound (session place : Nat)
  | writeBack (session : Nat)
  | decode (verbose : Bool)
  | options (session : Nat)
  | display (session : Nat)
  | drop (session : Nat)
  deriving DecidableEq

inductive Outcome
  | done
  | failed (e : Error)
  | refused (e : Usb.Error)
  | answered (a : Session.Answer DeviceId)
  | numbered (n : Nat)
  | granted (n : Nat) (facts : Usb.Facts)
  | listed (devices : List DeviceId)
  | located (device : DeviceId)
  | ids (ids : Usb.Ids)
  | texts (texts : Usb.Texts)
  | bytes (data : List UInt8)
  | count (n : Nat)
  | device (device : Sim.Device)
  | seen (calls : List Probe.Seen)
  | decoded (d : Decoded)
  | options (options : Session.Options)
  | text (s : String)
  | missing
  deriving DecidableEq

variable {α : Type}

def bus (b : Bench) : Bus := b.host.bus.bus

def mapBus (f : Bus → Bus) (b : Bench) : Bench :=
  { b with host.bus.bus := f b.host.bus.bus }

def device? (b : Bench) (id : DeviceId) : Option Sim.Device := b.bus.device? id

def session? (b : Bench) (n : Nat) : Option (Session Handle) := b.sessions[n]?.join

def claim? (b : Bench) (n : Nat) : Option Handle := b.claims[n]?.join

def onBus (t : Probe.Transfer Bus α) (f : α → Outcome) : StateM Bench Outcome := fun b =>
  let (result, bus) := t.exec b.host.bus
  let b := { b with host.bus := bus }
  match result with
  | .ok a => (f a, b)
  | .error e => (.refused e, b)

def onHost (m : Attempt (Host (Probe Bus)) Error α) (f : α → Outcome) :
    StateM Bench Outcome := fun b =>
  let (result, host) := m.exec b.host
  let b := { b with host }
  match result with
  | .ok a => (f a, b)
  | .error e => (.failed e, b)

def onClaim (n : Nat) (t : Handle → Probe.Transfer Bus α) (f : α → Outcome) :
    StateM Bench Outcome := fun b =>
  match b.claim? n with
  | some handle => onBus (t handle) f b
  | none => (.missing, b)

def onSession (n : Nat) (m : Session.Action (Probe Bus) Handle α) (f : α → Outcome) :
    StateM Bench Outcome := fun b =>
  match b.session? n with
  | none => (.missing, b)
  | some session =>
      let (result, w) := m.exec { b.host with session }
      let b := { b with host := w.toHost, sessions := b.sessions.set n (some w.session) }
      match result with
      | .ok a => (f a, b)
      | .error e => (.failed e, b)

def remember (outcome : Outcome) (b : Bench) : Bench :=
  match outcome with
  | .answered (.devices found) => { b with found }
  | .answered (.image image) => { b with image := some image }
  | _ => b

def call (n : Nat) (c : Session.Call DeviceId) : StateM Bench Outcome := do
  let outcome ← onSession n c.run .answered
  modify (remember outcome)
  return outcome

def claim (device : DeviceId) (channel : UInt8) : StateM Bench Outcome := do
  let number := (← get).claims.length
  let granted (c : Usb.Claim Handle) : StateM Bench Outcome := do
    modify fun b =>
      { b with host.log := b.host.log ++ c.notes, claims := b.claims ++ [some c.handle] }
    return .granted number c.facts
  let (result, bus) := Attempt.exec (Transport.claim device channel) (← get).host.bus
  modify fun b => { b with host.bus := bus }
  match result with
  | .ok c => granted c
  | .error e => return .refused e

def create (options : Session.Options) : StateM Bench Outcome := fun b =>
  match Session.create options with
  | .ok session =>
      (.numbered b.sessions.length, { b with sessions := b.sessions ++ [some session] })
  | .error e => (.failed e, { b with sessions := b.sessions ++ [none] })

def drop (n : Nat) : StateM Bench Outcome := do
  match (← get).sessions[n]? with
  | some none => return .done
  | _ =>
      let outcome ← onSession n Session.drop fun _ => .done
      modify fun b => { b with sessions := b.sessions.set n none }
      return outcome

def decode (verbose : Bool) : StateM Bench Outcome := fun b =>
  match b.image with
  | none => (.missing, b)
  | some image =>
      match image.decode with
      | .error e => (.failed e, b)
      | .ok d =>
          let log := if verbose then b.host.log ++ d.summary else b.host.log
          (.decoded d, { b with host.log := log })

def look (f : Bench → Option Outcome) : StateM Bench Outcome := do
  return (f (← get)).getD .missing

def step : Step → StateM Bench Outcome
  | .attach device => fun b => (.numbered b.bus.devices.length, b.mapBus (·.attach device))
  | .failEnumeration on => fun b => (.done, b.mapBus fun bus => { bus with failing := on })
  | .tweak device t => fun b => (.done, b.mapBus (·.update device t.apply))
  | .storage device => look fun b => (b.device? device).map fun d => .bytes d.storage
  | .inspect device => look fun b => (b.device? device).map .device
  | .seen => fun b => (.seen b.host.bus.seen, { b with host.bus.seen := [] })
  | .setUp s => fun b => (.done, { b with host.bus := b.host.bus.setUp s })
  | .enumerate vendor product => onBus (Transport.enumerate vendor product) .listed
  | .ids device => look fun b => some (.ids (Transport.ids device b.host.bus))
  | .texts device timeout => onBus (Transport.texts device timeout) .texts
  | .findAll options vendor product =>
      onHost (Device.findAll options vendor product) fun found => .answered (.devices found)
  | .find options filter => onHost (Device.find options filter) .located
  | .claim device channel => claim device channel
  | .controlOut n request value index timeout =>
      onClaim n (Transport.controlOut · request value index timeout) fun _ => .done
  | .controlIn n request value index length timeout =>
      onClaim n (Transport.controlIn · request value index length timeout) .bytes
  | .bulkOut n endpoint data timeout =>
      onClaim n (Transport.bulkOut · endpoint data timeout) .count
  | .bulkIn n endpoint limit timeout =>
      onClaim n (Transport.bulkIn · endpoint limit timeout) .bytes
  | .release n => do
      let outcome ← onClaim n Transport.release fun _ => .done
      modify fun b => { b with claims := b.claims.set n none }
      return outcome
  | .create options => create options
  | .call n c => call n c
  | .openFound n place => do
      match (← get).found[place]? with
      | some descriptor => call n (.openFound descriptor)
      | none => return .missing
  | .writeBack n => do
      match (← get).image with
      | some image => call n (.writeEeprom image)
      | none => return .missing
  | .decode verbose => decode verbose
  | .options n => look fun b => (b.session? n).map fun s => .options s.options
  | .display n => look fun b => (b.session? n).map fun s => .text s.display
  | .drop n => drop n

def run (b : Bench) : List Step → List Outcome × Bench
  | [] => ([], b)
  | s :: steps =>
      let (outcome, b) := (step s).run b
      let (outcomes, b) := run b steps
      (outcome :: outcomes, b)

def clear (b : Bench) : Bench :=
  let b := ((List.range b.sessions.length).forM fun n => discard (drop n)).run b |>.2
  { b.mapBus fun bus => b.claims.foldl (fun bus c => c.elim bus bus.free) bus with
    claims := b.claims.map fun _ => none }

end Bench

end UsbSerial
