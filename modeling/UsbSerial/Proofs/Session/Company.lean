import UsbSerial.Proofs.Session.Apart

namespace UsbSerial.Session

open Attempt (exec)
open Sim (Bus Device DeviceId Handle)

section Keeping

variable {R : Device → Device → Prop} {bus bus' bus'' : Bus}

def Keeping (R : Device → Device → Prop) (bus bus' : Bus) : Prop :=
  ∀ id d, bus.device? id = some d → ∃ d', bus'.device? id = some d' ∧ R d d'

structure Lasting (R : Device → Device → Prop) : Prop where
  refl : ∀ d, R d d
  trans : ∀ {d d' d''}, R d d' → R d' d'' → R d d''
  change : ∀ {allowed : Use → Prop} {d d'}, Change allowed d d' → R d d'
  tweak : ∀ (t : Bench.Tweak) d, R d (t.apply d)

namespace Lasting

variable (h : Lasting R)
include h

lemma still (bus : Bus) : Keeping R bus bus := fun _ d hd => ⟨d, hd, h.refl d⟩

lemma comp (hbus : Keeping R bus bus') (hbus' : Keeping R bus' bus'') : Keeping R bus bus'' := by
  intro id d hd
  obtain ⟨d', hd', hR⟩ := hbus id d hd
  obtain ⟨d'', hd'', hR'⟩ := hbus' id d' hd'
  exact ⟨d'', hd'', h.trans hR hR'⟩

lemma attach (bus : Bus) (device : Device) : Keeping R bus (bus.attach device) :=
  fun _ d hd => ⟨d, device?_attach hd device, h.refl d⟩

lemma update {f : Device → Device} (hf : ∀ d, R d (f d)) (bus : Bus) (id : DeviceId) :
    Keeping R bus (bus.update id f) := by
  intro id' d hd
  rw [Bus.device?_update]
  split
  · exact ⟨f d, by rw [hd, Option.map_some], hf d⟩
  · exact ⟨d, hd, h.refl d⟩

lemma changed {allowed : Use → Prop} (hbus : Changed allowed bus bus') : Keeping R bus bus' := by
  intro id d hd
  obtain ⟨d', hd', hchange⟩ := hbus id d hd
  exact ⟨d', hd', h.change hchange⟩

lemma call (c : Call DeviceId) (w : Hosted Bus Handle) : Keeping R w.bus (c.step w).2.bus :=
  fun id d hd => c.keeps (fun _ _ hchange hR => h.trans hR (h.change hchange)) w id
    ⟨d, hd, h.refl d⟩

end Lasting

end Keeping

namespace Shared

variable {ι : Type} [DecidableEq ι]

inductive Event (ι : Type)
  | attach (device : Device)
  | failEnumeration (on : Bool)
  | tweak (device : DeviceId) (t : Bench.Tweak)
  | turn (i : ι) (c : Call DeviceId)
  deriving DecidableEq

def next (t : Shared ι) : Event ι → Shared ι
  | .attach device => { t with bus := t.bus.attach device }
  | .failEnumeration on => { t with bus := { t.bus with failing := on } }
  | .tweak device tweak => { t with bus := t.bus.update device tweak.apply }
  | .turn i c => t.step i c

def after (t : Shared ι) (events : List (Event ι)) : Shared ι := events.foldl next t

lemma floor_step (t : Shared ι) (i j : ι) (c : Call DeviceId) :
    (t.step j c).floor i =
      if i = j then (c.step (t.floor j)).2
      else { (c.step (t.floor j)).2 with session := t.sessions i } := by
  by_cases hij : i = j
  · subst hij
    simp [step, floor]
  · simp [step, floor, hij]

variable {R : Device → Device → Prop}

lemma keeping_next (h : Lasting R) (t : Shared ι) (e : Event ι) :
    Keeping R t.bus (t.next e).bus := by
  cases e with
  | attach device => exact h.attach t.bus device
  | failEnumeration on => exact h.still t.bus
  | tweak device tweak => exact h.update (h.tweak tweak) t.bus device
  | turn i c => exact h.call c (t.floor i)

lemma keeping_after (h : Lasting R) (t : Shared ι) (events : List (Event ι)) :
    Keeping R t.bus (t.after events).bus := by
  induction events generalizing t with
  | nil => exact h.still t.bus
  | cons e events ih => exact h.comp (keeping_next h t e) (ih (t.next e))

lemma floor_after {P : Hosted Bus Handle → Prop} (h : Lasting R)
    (hothers : ∀ w w' : Hosted Bus Handle, w'.session = w.session → Keeping R w.bus w'.bus → P w →
      P w')
    (hown : ∀ (c : Call DeviceId) w, P w → P (c.step w).2) {t : Shared ι} (ht : ∀ i, P (t.floor i))
    (events : List (Event ι)) : ∀ i, P ((t.after events).floor i) := by
  induction events generalizing t with
  | nil => exact ht
  | cons e events ih =>
    apply ih
    intro i
    have hbus := keeping_next h t e
    cases e with
    | turn j c =>
      rw [next, floor_step]
      split
      · exact hown c _ (ht j)
      · exact hothers (t.floor i) _ rfl hbus (ht i)
    | _ => exact hothers (t.floor i) _ rfl hbus (ht i)

end Shared

end UsbSerial.Session
