import UsbSerial.Proofs.Attempt
import UsbSerial.Proofs.Sim.Device
import UsbSerial.Sim.Bus

namespace UsbSerial.Sim.Bus

open Attempt (exec)

variable {α γ : Type} (bus : Bus)

lemma device?_update (id id' : DeviceId) (f : Device → Device) :
    (bus.update id f).device? id' =
      if id = id' then (bus.device? id').map f else bus.device? id' := by
  rw [device?, update, List.getElem?_modify]
  by_cases h : id = id'
  · rw [if_pos h, h]
    simp only [if_true]
    rfl
  · have hplace : ¬ id.place = id'.place := by
      intro heq
      cases id
      cases id'
      exact h (congrArg DeviceId.mk heq)
    rw [if_neg h]
    simp only [if_neg hplace]
    exact Option.map_id'

lemma device?_put {id : DeviceId} {d : Device} (h : bus.device? id = some d) (d' : Device) :
    (bus.update id fun _ => d').device? id = some d' := by
  rw [device?_update, if_pos rfl, h, Option.map_some]

lemma update_put (id : DeviceId) (d d' : Device) :
    (bus.update id fun _ => d).update id (fun _ => d') = bus.update id fun _ => d' := by
  simp only [update, List.modify_modify_eq]
  rfl

lemma update_self {bus : Bus} {id : DeviceId} {d : Device} (h : bus.device? id = some d) :
    (bus.update id fun _ => d) = bus := by
  have hdevices : bus.devices.modify id.place (fun _ => d) = bus.devices := by
    apply List.ext_getElem?
    intro place
    rw [List.getElem?_modify]
    split
    · rename_i hplace
      rw [device?, hplace] at h
      rw [h]
      rfl
    · exact Option.map_id'
  rw [update, hdevices]

lemma exec_on {bus} {id : DeviceId} {d : Device} (h : bus.device? id = some d)
    (t : Device.Transfer α) :
    exec (on id t) bus = ((exec t d).1, bus.update id fun _ => (exec t d).2) := by
  simp only [on, Attempt.exec_of, h]

lemma exec_on_none {bus} {id : DeviceId} (h : bus.device? id = none) (t : Device.Transfer α) :
    exec (on id t) bus = (.error .disconnected, bus) := by
  simp only [on, Attempt.exec_of, h]

lemma on_ok {bus bus' : Bus} {id : DeviceId} {t : Device.Transfer α} {a : α}
    (h : exec (on id t) bus = (.ok a, bus')) :
    ∃ d d', bus.device? id = some d ∧ exec t d = (.ok a, d') ∧
      bus' = bus.update id fun _ => d' := by
  cases hd : bus.device? id with
  | none =>
    rw [exec_on_none hd] at h
    cases h
  | some d =>
    rw [exec_on hd] at h
    rcases ht : exec t d with ⟨r, d'⟩
    rw [ht] at h
    cases h
    exact ⟨d, d', rfl, ht, rfl⟩

lemma claim_ok {bus bus' : Bus} {id : DeviceId} {channel : UInt8} {c : Usb.Claim Handle}
    (h : exec (claim id channel) bus = (.ok c, bus')) :
    ∃ d, bus.device? id = some d ∧ c.handle.device = id ∧ c.facts = d.facts ∧
      bus' = bus.update id fun _ =>
        { d with claimed := d.claimed.setIfInBounds channel.toNat true } := by
  obtain ⟨facts, v, hon, hc⟩ := Attempt.bind_ok h
  obtain ⟨d, d', hd, hdevice, rfl⟩ := on_ok hon
  obtain ⟨-, -, rfl, rfl⟩ := Device.claim_ok hdevice
  rw [Attempt.exec_pure] at hc
  cases hc
  exact ⟨d, hd, rfl, rfl, rfl⟩

lemma map_on {t : Device.Transfer α} {g : Device → γ} (hg : ∀ d, g (exec t d).2 = g d)
    (id id' : DeviceId) :
    ((exec (on id t) bus).2.device? id').map g = (bus.device? id').map g := by
  cases hd : bus.device? id with
  | none => rw [exec_on_none hd]
  | some d =>
    rw [exec_on hd, device?_update]
    by_cases h : id = id'
    · rw [if_pos h, ← h, hd, Option.map_some, Option.map_some, Option.map_some, hg]
    · rw [if_neg h]

lemma exec_enumerate_snd (vendor product : UInt16) :
    (exec (enumerate vendor product) bus).2 = bus := by
  by_cases hfailing : bus.failing
  · simp [enumerate, hfailing]
  · simp [enumerate, hfailing]

lemma device?_on {t : Device.Transfer α} (ht : ∀ d, (exec t d).2 = d) (id id' : DeviceId) :
    (exec (on id t) bus).2.device? id' = bus.device? id' := by
  have h := map_on bus (g := fun d => d) ht id id'
  simpa only [Option.map_id'] using h

lemma device?_texts (id id' : DeviceId) :
    (exec (texts id) bus).2.device? id' = bus.device? id' := by
  refine device?_on bus (fun d => ?_) id id'
  by_cases hd : d.disconnected
  · simp [hd]
  · simp [hd]

end UsbSerial.Sim.Bus
