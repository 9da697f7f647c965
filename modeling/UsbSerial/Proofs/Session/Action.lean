import Mathlib.Tactic.Lemma
import UsbSerial.Session.Action

namespace UsbSerial.Session

open Attempt (exec)

variable {β δ κ α : Type} {w : Hosted β κ} {link : Link κ}

lemma bus_tracked (m : Action β κ α) (w : Hosted β κ) :
    (exec (tracked m) w).2.bus = (exec m w).2.bus := by
  rw [exec_tracked]
  rcases exec m w with ⟨e | a, v⟩ <;> rfl

lemma exec_require (operation : Operation) (allowed : State → Bool) (w : Hosted β κ) :
    exec (require operation allowed) w =
      if w.session.state = .destroyed then (.error .destroyed, w)
      else if allowed w.session.state then (.ok (), w)
      else (.error (.invalidState operation w.session.state), w) := by
  cases hstate : w.session.state with
  | destroyed => simp [require, hstate]
  | closed => by_cases hallowed : allowed .closed <;> simp [require, hstate, hallowed]
  | opened mode =>
    by_cases hallowed : allowed (.opened mode) <;> simp [require, hstate, hallowed]

lemma exec_require_opened (h : w.session.binding = .opened link) (operation : Operation)
    {allowed : State → Bool} (hallowed : allowed w.session.state = true) :
    exec (require operation allowed) w = (.ok (), w) := by
  have hstate : w.session.state ≠ .destroyed := by simp [Session.state, h]
  rw [exec_require, if_neg hstate, if_pos hallowed]

variable [Transport β δ κ]

lemma exec_controlOut (h : w.session.binding = .opened link) (operation : Operation)
    (request : Request) (value index : UInt16) :
    ∃ log, exec (controlOut operation request value index) w =
      ((exec (Transport.controlOut link.handle request.code value index
          w.session.options.writeTimeout) w.bus).1.mapError .transport,
        { w with
          bus := (exec (Transport.controlOut link.handle request.code value index
            w.session.options.writeTimeout) w.bus).2
          log }) := by
  simp [controlOut, exec_link, h]

lemma exec_bulkOut (h : w.session.binding = .opened link) (operation : Operation)
    (data : List UInt8) :
    ∃ log, exec (bulkOut operation data) w =
      ((exec (Transport.bulkOut link.handle w.session.options.channel.outEndpoint data
          w.session.options.writeTimeout) w.bus).1.mapError .transport,
        { w with
          bus := (exec (Transport.bulkOut link.handle w.session.options.channel.outEndpoint data
            w.session.options.writeTimeout) w.bus).2
          log }) := by
  rcases hout : (exec (Transport.bulkOut link.handle w.session.options.channel.outEndpoint data
    w.session.options.writeTimeout) w.bus).1 with e | n
  · exact ⟨w.log, by simp [bulkOut, exec_link, h, hout]⟩
  · exact ⟨_, by simp only [bulkOut, Attempt.exec_bind, exec_session, exec_link, h, exec_onHost,
      Host.exec_call, hout, Host.mapError_ok, exec_note, Attempt.exec_pure]; rfl⟩

end UsbSerial.Session
