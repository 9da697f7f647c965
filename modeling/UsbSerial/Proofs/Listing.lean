import Mathlib.Data.Nat.Notation
import UsbSerial.Device.Listing
import UsbSerial.Proofs.Attempt

namespace UsbSerial.Device

open Attempt (exec Along)
open Relation (ReflTransGen)

variable {β δ κ τ α : Type} [Transport β δ κ]

structure Searches (timeout : Duration) (g : Host β → τ) (C : τ → τ → Prop) : Prop where
  record : ∀ h (entries : List Log.Entry),
    ReflTransGen C (g h) (g { h with log := h.log ++ entries })
  enumerate : ∀ h (vendor product : UInt16),
    ReflTransGen C (g h) (g { h with bus := (exec (Transport.enumerate vendor product) h.bus).2 })
  texts : ∀ h (device : δ),
    ReflTransGen C (g h) (g { h with bus := (exec (Transport.texts device timeout) h.bus).2 })

namespace Searches

variable {g : Host β → τ} {C : τ → τ → Prop} {options : Session.Options}
  (h : Searches options.readTimeout g C)

include h

lemma note (level : Log.Level) (text : String) :
    Along g C (Host.note level text : Attempt (Host β) Error Unit) :=
  fun host => h.record host _

lemma readTexts (device : δ) :
    Along g C (Device.readTexts options device : Attempt (Host β) Error Usb.Texts) := by
  intro host
  rw [Device.readTexts, Host.exec_call]
  exact h.texts host device

lemma enumerated (vendor product : UInt16) :
    Along g C (Device.enumerate vendor product : Attempt (Host β) Error (List δ)) := by
  intro host
  rw [Device.enumerate, Host.exec_call]
  exact h.enumerate host vendor product

lemma describe (device : δ) :
    Along g C (Device.describe options device : Attempt (Host β) Error (Descriptor δ)) := by
  have hget : Along g C (get : Attempt (Host β) Error (Host β)) := Along.still fun _ => rfl
  apply hget.bind
  intro host
  apply (h.readTexts device).bind
  intro texts
  exact (h.note _ _).bind fun _ => Along.pure _

lemma findAll (vendor product : UInt16) :
    Along g C (Device.findAll options vendor product :
      Attempt (Host β) Error (List (Descriptor δ))) := by
  apply (h.enumerated vendor product).bind
  intro devices
  apply (Along.mapM (h.describe) devices).bind
  intro found
  exact (h.note _ _).bind fun _ => Along.pure _

variable (filter : Filter)

lemma matching (device : δ) :
    Along g C (Device.matching options filter device : Attempt (Host β) Error Bool) := by
  unfold Device.matching
  split
  · exact (h.readTexts device).bind fun _ => Along.pure _
  · exact Along.pure true

lemma pick (skip : ℕ) (devices : List δ) :
    Along g C (Device.pick options filter skip devices : Attempt (Host β) Error δ) := by
  induction devices generalizing skip with
  | nil => exact Along.throw _
  | cons device devices ih =>
    apply (h.matching filter device).bind
    intro accepted
    cases accepted with
    | false => exact ih skip
    | true =>
      cases skip with
      | zero => exact Along.pure device
      | succ skip => exact ih skip

lemma find : Along g C (Device.find options filter : Attempt (Host β) Error δ) :=
  (h.enumerated filter.vendor filter.product).bind fun devices =>
    h.pick filter filter.position devices

end Searches

end UsbSerial.Device
