import UsbSerial.Usb

/-! A probe between sessions and their bus. It records the calls that pass, and can be set up to
answer in place of the bus; each such answer is used once. -/

namespace UsbSerial

namespace Probe

inductive Seen
  | texts (timeout : Duration)
  | claim (channel : UInt8)
  | controlOut (request : UInt8) (value index : UInt16) (timeout : Duration)
  | controlIn (request : UInt8) (value index length : UInt16) (timeout : Duration)
  | bulkOut (endpoint : UInt8) (count : Nat) (timeout : Duration)
  | bulkIn (endpoint : UInt8) (limit : Nat) (timeout : Duration)
  deriving DecidableEq, Repr

inductive Site
  | enumerate
  | texts
  | claim
  | release
  deriving DecidableEq, Repr

inductive Fault
  | claim (reason : String)
  | bus (reason : String)
  | timeout
  | disconnected
  deriving DecidableEq, Repr

def Fault.error (timeout : Duration) : Fault → Usb.Error
  | .claim reason => .claim reason
  | .bus reason => .bus reason
  | .timeout => .timeout timeout
  | .disconnected => .disconnected

structure Disguise where
  release : Option UInt16 := none
  hasSerial : Option Bool := none
  packetBytes : Option Nat := none
  deriving DecidableEq, Repr

def Disguise.apply (g : Disguise) (f : Usb.Facts) : Usb.Facts where
  release := g.release.getD f.release
  hasSerial := g.hasSerial.getD f.hasSerial
  packetBytes := g.packetBytes.getD f.packetBytes

end Probe

open Probe in
structure Probe (β : Type) where
  bus : β
  seen : List Seen := []
  replyLimits : List Nat := []
  received : List (List UInt8) := []
  accepted : List Nat := []
  disguises : List Disguise := []
  faults : List (Site × Fault) := []
  deriving DecidableEq, Repr

namespace Probe

variable {β δ κ α : Type}

abbrev Transfer (β α : Type) := Attempt (Probe β) Usb.Error α

def pass (call : Attempt β Usb.Error α) : Transfer β α :=
  .of fun p =>
    let (result, bus) := call.exec p.bus
    (result, { p with bus })

def see (s : Seen) : Transfer β Unit := modify fun p => { p with seen := p.seen ++ [s] }

def takeFault (site : Site) : Transfer β (Option Fault) := do
  let p ← get
  match p.faults.find? (·.1 = site) with
  | none => return none
  | some (_, fault) =>
      set { p with faults := p.faults.eraseP (·.1 = site) }
      return some fault

def unlessFault (site : Site) (timeout : Duration) (t : Transfer β α) : Transfer β α := do
  match ← takeFault site with
  | some fault => throw (fault.error timeout)
  | none => t

variable [Transport β δ κ]

def enumerate (vendor product : UInt16) : Transfer β (List δ) :=
  unlessFault .enumerate .zero (pass (Transport.enumerate vendor product))

def texts (device : δ) (timeout : Duration) : Transfer β Usb.Texts := do
  see (.texts timeout)
  unlessFault .texts timeout (pass (Transport.texts device timeout))

def disguise (claim : Usb.Claim κ) : Transfer β (Usb.Claim κ) := do
  let p ← get
  match p.disguises with
  | [] => return claim
  | g :: rest =>
      set { p with disguises := rest }
      return { claim with facts := g.apply claim.facts }

def claim (device : δ) (channel : UInt8) : Transfer β (Usb.Claim κ) := do
  see (.claim channel)
  unlessFault .claim .zero do
    disguise (← pass (Transport.claim device channel))

def controlOut (handle : κ) (request : UInt8) (value index : UInt16) (timeout : Duration) :
    Transfer β Unit := do
  see (.controlOut request value index timeout)
  pass (Transport.controlOut handle request value index timeout)

def controlIn (handle : κ) (request : UInt8) (value index length : UInt16)
    (timeout : Duration) : Transfer β (List UInt8) := do
  see (.controlIn request value index length timeout)
  let data ← pass (Transport.controlIn handle request value index length timeout)
  let p ← get
  match p.replyLimits with
  | [] => return data
  | limit :: rest =>
      set { p with replyLimits := rest }
      return data.take limit

def bulkOut (handle : κ) (endpoint : UInt8) (data : List UInt8) (timeout : Duration) :
    Transfer β Nat := do
  see (.bulkOut endpoint data.length timeout)
  let p ← get
  match p.accepted with
  | [] => pass (Transport.bulkOut handle endpoint data timeout)
  | n :: rest =>
      set { p with accepted := rest }
      return n

def bulkIn (handle : κ) (endpoint : UInt8) (limit : Nat) (timeout : Duration) :
    Transfer β (List UInt8) := do
  see (.bulkIn endpoint limit timeout)
  let p ← get
  match p.received with
  | [] => pass (Transport.bulkIn handle endpoint limit timeout)
  | data :: rest =>
      set { p with received := rest }
      return data

def release (handle : κ) : Transfer β Unit := do
  let fault ← takeFault .release
  pass (Transport.release handle)
  match fault with
  | some fault => throw (fault.error .zero)
  | none => pure ()

instance : Transport (Probe β) δ κ where
  enumerate
  ids device p := Transport.ids device p.bus
  texts
  claim
  controlOut
  controlIn
  bulkOut
  bulkIn
  release

inductive Setup
  | limitReply (limit : Nat)
  | receive (data : List UInt8)
  | accept (n : Nat)
  | disguise (g : Disguise)
  | fail (site : Site) (fault : Fault)
  deriving DecidableEq, Repr

def setUp (p : Probe β) : Setup → Probe β
  | .limitReply limit => { p with replyLimits := p.replyLimits ++ [limit] }
  | .receive data => { p with received := p.received ++ [data] }
  | .accept n => { p with accepted := p.accepted ++ [n] }
  | .disguise g => { p with disguises := p.disguises ++ [g] }
  | .fail site fault => { p with faults := p.faults ++ [(site, fault)] }

end Probe

end UsbSerial
