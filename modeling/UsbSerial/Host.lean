import UsbSerial.Attempt
import UsbSerial.Error
import UsbSerial.Log

namespace UsbSerial

structure Host (β : Type) where
  bus : β
  log : List Log.Entry := []
  deriving DecidableEq, Repr

namespace Host

variable {β α : Type}

def record (entries : List Log.Entry) : Attempt (Host β) Error Unit :=
  modify fun h => { h with log := h.log ++ entries }

def note (level : Log.Level) (text : String) : Attempt (Host β) Error Unit :=
  record [{ level, text }]

def outcome (call : Attempt β Usb.Error α) : Attempt (Host β) Error (Except Usb.Error α) :=
  .of fun h =>
    let (result, bus) := call.exec h.bus
    (.ok result, { h with bus })

def call (cause : Usb.Error → Error) (c : Attempt β Usb.Error α) : Attempt (Host β) Error α := do
  match ← outcome c with
  | .ok a => pure a
  | .error e => throw (cause e)

open Attempt (exec)

@[simp] theorem mapError_ok {ε ε' : Type} (f : ε → ε') (a : α) :
    (Except.ok a).mapError f = .ok a := rfl

@[simp] theorem mapError_error {ε ε' : Type} (f : ε → ε') (e : ε) :
    (Except.error e : Except ε α).mapError f = .error (f e) := rfl

@[simp] theorem exec_record (entries : List Log.Entry) (h : Host β) :
    exec (record entries) h = (.ok (), { h with log := h.log ++ entries }) := rfl

@[simp] theorem exec_note (level : Log.Level) (text : String) (h : Host β) :
    exec (note level text) h = (.ok (), { h with log := h.log ++ [{ level, text }] }) := rfl

@[simp] theorem exec_outcome (c : Attempt β Usb.Error α) (h : Host β) :
    exec (outcome c) h = (.ok (exec c h.bus).1, { h with bus := (exec c h.bus).2 }) := rfl

@[simp] theorem exec_call (cause : Usb.Error → Error) (c : Attempt β Usb.Error α) (h : Host β) :
    exec (call cause c) h =
      ((exec c h.bus).1.mapError cause, { h with bus := (exec c h.bus).2 }) := by
  rcases hc : exec c h.bus with ⟨e | a, bus⟩ <;> simp [call, hc]

end Host

end UsbSerial
