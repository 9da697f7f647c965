import UsbSerial.Session.Basic
import UsbSerial.Request
import UsbSerial.Text.Hex
import UsbSerial.Word

namespace UsbSerial.Session

open Text.Hex (marked)

abbrev Action (β κ α : Type) := Attempt (Hosted β κ) Error α

variable {β δ κ α : Type}

def onHost (m : Attempt (Host β) Error α) : Action β κ α :=
  .of fun w =>
    let (result, host) := m.exec w.toHost
    (result, { w with toHost := host })

def note (level : Log.Level) (text : String) : Action β κ Unit := onHost (Host.note level text)

def session : Action β κ (Session κ) := do return (← get).session

def modifySession (f : Session κ → Session κ) : Action β κ Unit :=
  modify fun w => { w with session := f w.session }

def modifyLink (f : Link κ → Link κ) : Action β κ Unit := modifySession (mapLink f)

def tracked (m : Action β κ α) : Action β κ α :=
  tryCatch m fun e => do
    note .trace s!"operation failed: {e.text}"
    modifySession fun s => { s with lastError := some e }
    throw e

def require (operation : Operation) (allowed : State → Bool) : Action β κ Unit := do
  match (← session).state with
  | .destroyed => throw .destroyed
  | state => if allowed state then pure () else throw (.invalidState operation state)

def link (operation : Operation) : Action β κ (Link κ) := do
  match (← session).binding with
  | .opened link => pure link
  | .closed => throw (.invalidState operation .closed)
  | .destroyed => throw .destroyed

def channelIndex : Action β κ UInt16 := do return (← session).options.channel.index

section Exec

open Attempt (exec)

@[simp] theorem exec_onHost (m : Attempt (Host β) Error α) (w : Hosted β κ) :
    exec (onHost m) w = ((exec m w.toHost).1, { w with toHost := (exec m w.toHost).2 }) := rfl

@[simp] theorem exec_note (level : Log.Level) (text : String) (w : Hosted β κ) :
    exec (note level text) w = (.ok (), { w with log := w.log ++ [{ level, text }] }) := by
  simp [note]

@[simp] theorem exec_session (w : Hosted β κ) : exec session w = (.ok w.session, w) := by
  simp [session]

@[simp] theorem exec_modifySession (f : Session κ → Session κ) (w : Hosted β κ) :
    exec (modifySession f) w = (.ok (), { w with session := f w.session }) := by
  simp [modifySession]

@[simp] theorem exec_channelIndex (w : Hosted β κ) :
    exec channelIndex w = (.ok w.session.options.channel.index, w) := by
  simp [channelIndex]

theorem exec_tracked (m : Action β κ α) (w : Hosted β κ) :
    exec (tracked m) w =
      match exec m w with
      | (.ok a, v) => (.ok a, v)
      | (.error e, v) =>
          (.error e,
            { v with
              log := v.log ++ [{ level := .trace, text := s!"operation failed: {e.text}" }]
              session := { v.session with lastError := some e } }) := by
  rcases h : exec m w with ⟨e | a, v⟩ <;> simp [tracked, h]

theorem exec_link (operation : Operation) (w : Hosted β κ) :
    exec (link operation) w =
      match w.session.binding with
      | .opened link => (.ok link, w)
      | .closed => (.error (.invalidState operation .closed), w)
      | .destroyed => (.error .destroyed, w) := by
  cases h : w.session.binding <;> simp [link, h]

end Exec

variable [Transport β δ κ]

def controlOut (operation : Operation) (request : Request) (value index : UInt16) :
    Action β κ Unit := do
  let timeout := (← session).options.writeTimeout
  note .trace (s!"control out {marked 2 request.code.toNat} " ++
    s!"value={marked 4 value.toNat} index={marked 4 index.toNat}")
  let link ← link operation
  onHost (Host.call .transport
    (Transport.controlOut link.handle request.code value index timeout))

abbrev Reply (length : Nat) := { data : List UInt8 // length ≤ data.length }

def Reply.byte (r : Reply 1) : UInt8 := r.val.get ⟨0, r.property⟩

def Reply.word (r : Reply 2) : UInt16 :=
  Word.ofBytes (r.val.get ⟨0, Nat.lt_of_succ_lt r.property⟩) (r.val.get ⟨1, r.property⟩)

def controlIn (operation : Operation) (request : Request) (index length : UInt16) :
    Action β κ (Reply length.toNat) := do
  let timeout := (← session).options.readTimeout
  let link ← link operation
  let data ← onHost (Host.call .transport
    (Transport.controlIn link.handle request.code 0 index length timeout))
  note .trace (s!"control in {marked 2 request.code.toNat} index={marked 4 index.toNat} -> " ++
    Text.Hex.list data)
  if h : length.toNat ≤ data.length then return ⟨data, h⟩
  else throw (.shortTransfer length.toNat data.length)

def bulkOut (operation : Operation) (data : List UInt8) : Action β κ Nat := do
  let options := (← session).options
  let link ← link operation
  let n ← onHost (Host.call .transport
    (Transport.bulkOut link.handle options.channel.outEndpoint data options.writeTimeout))
  note .trace s!"bulk out {n} of {data.length} byte(s)"
  return n

end UsbSerial.Session
