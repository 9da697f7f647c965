import Mathlib.Data.Nat.Notation
import Mathlib.Tactic.Lemma
import UsbSerial.Proofs.Attempt
import UsbSerial.Sim.Device
namespace UsbSerial.Sim.Device

open Attempt (exec Along)

variable {α : Type}

lemma obey_eq (d : Device) (c : Control) :
    ∃ storage queue modemLines outputMask mode latency,
      d.obey c = { d with storage, queue, modemLines, outputMask, mode, latency } := by
  unfold obey
  split
  · split
    · exact ⟨_, _, _, _, _, _, rfl⟩
    · split <;> exact ⟨_, _, _, _, _, _, rfl⟩
  all_goals exact ⟨_, _, _, _, _, _, rfl⟩

lemma drive_eq (d : Device) (data : List UInt8) : ∃ pins, d.drive data = { d with pins } := by
  unfold drive
  split
  · split <;> exact ⟨_, rfl⟩
  · exact ⟨_, rfl⟩

lemma mode_obey (d : Device) (c : Control) :
    (d.obey c).mode =
      match Request.ofCode? c.request with
      | some .reset => if c.value = Request.resetEngine then 0 else d.mode
      | some .bitMode => Word.high c.value
      | _ => d.mode := by
  unfold obey
  rcases Request.ofCode? c.request with _ | request
  · rfl
  cases request with
  | reset =>
    dsimp only
    split
    · rfl
    · split <;> rfl
  | _ => rfl

lemma mode_drive (d : Device) (data : List UInt8) : (d.drive data).mode = d.mode := by
  obtain ⟨pins, h⟩ := drive_eq d data
  rw [h]

def fixed (d : Device) : Usb.Ids × Usb.Texts × (UInt16 × UInt16) × ℕ × Vector Bool 4 :=
  (d.ids, d.texts, d.chipId, d.packetBytes, d.claimed)

lemma exec_check (timeout : Duration) (d : Device) :
    exec (check timeout) d =
      if d.disconnected then (.error .disconnected, d)
      else
        match d.failing with
        | 0 => (.ok (), d)
        | n + 1 => (.error (.timeout timeout), { d with failing := n }) := by
  by_cases hd : d.disconnected
  · simp [check, hd]
  · cases hf : d.failing <;> simp [check, hd, hf]

lemma exec_check_ok {d : Device} (hconnected : d.disconnected = false) (hfailing : d.failing = 0)
    (timeout : Duration) : exec (check timeout) d = (.ok (), d) := by
  rw [exec_check, hconnected, hfailing]
  rfl

lemma check_ok {timeout : Duration} {d d' : Device} (h : exec (check timeout) d = (.ok (), d')) :
    d' = d ∧ d.disconnected = false ∧ d.failing = 0 := by
  rw [exec_check] at h
  split at h
  · cases h
  · rename_i hd
    split at h
    · rename_i hf
      cases h
      exact ⟨rfl, by simpa using hd, hf⟩
    · cases h

lemma check_error {timeout : Duration} {d d' : Device} {e : Usb.Error}
    (h : exec (check timeout) d = (.error e, d')) : d' = { d with failing := d'.failing } := by
  rw [exec_check] at h
  split at h
  · cases h
    rfl
  · split at h
    · cases h
    · cases h
      rfl

lemma fixed_obey (d : Device) (c : Control) : (d.obey c).fixed = d.fixed := by
  obtain ⟨_, _, _, _, _, _, h⟩ := obey_eq d c
  rw [h]
  rfl

lemma packetBytes_obey (d : Device) (c : Control) : (d.obey c).packetBytes = d.packetBytes := by
  have h := fixed_obey d c
  simp only [fixed, Prod.mk.injEq] at h
  exact h.2.2.2.1

lemma queue_obey (d : Device) (c : Control) :
    (d.obey c).queue =
      if Request.ofCode? c.request = some .reset ∧
          (c.value = Request.resetEngine ∨ c.value = Request.purgeReceive) then []
      else d.queue := by
  by_cases hreset : Request.ofCode? c.request = some .reset
  · simp only [obey, hreset, true_and]
    by_cases hengine : c.value = Request.resetEngine
    · rw [if_pos hengine, if_pos (.inl hengine)]
    by_cases hpurge : c.value = Request.purgeReceive
    · rw [if_neg hengine, if_pos hpurge, if_pos (.inr hpurge)]
    · rw [if_neg hengine, if_neg hpurge, if_neg (fun h => h.elim hengine hpurge)]
  · rw [if_neg (fun h => hreset h.1)]
    unfold obey
    split
    · contradiction
    all_goals rfl

lemma exec_accept (c : Control) (timeout : Duration) (d : Device) :
    (∃ e d', exec (accept c timeout) d = (.error e, d') ∧ d' = { d with failing := d'.failing }) ∨
      exec (accept c timeout) d = (.ok (), { d with controls := d.controls ++ [c] }) := by
  rcases hcheck : exec (check timeout) d with ⟨e | ⟨⟩, d'⟩
  · exact .inl ⟨e, d', by simp [accept, hcheck], check_error hcheck⟩
  · obtain ⟨rfl, -, -⟩ := check_ok hcheck
    by_cases hc : d'.failingRequest = some c.request
    · exact .inl ⟨.timeout timeout, d', by simp [accept, hcheck, hc], rfl⟩
    · exact .inr (by simp [accept, hcheck, hc])

lemma controlOut_error {c : Control} {timeout : Duration} {d d' : Device} {e : Usb.Error}
    (h : exec (controlOut c timeout) d = (.error e, d')) :
    d' = { d with failing := d'.failing } := by
  rcases exec_accept c timeout d with ⟨e', u, hu, hfailing⟩ | hu
  · simp only [controlOut, Attempt.exec_bind, hu] at h
    cases h
    exact hfailing
  · simp [controlOut, hu] at h

lemma controlOut_ok {c : Control} {timeout : Duration} {d d' : Device}
    (h : exec (controlOut c timeout) d = (.ok (), d')) :
    d' = obey { d with controls := d.controls ++ [c] } c := by
  rcases exec_accept c timeout d with ⟨e', u, hu, -⟩ | hu
  · simp [controlOut, hu] at h
  · simp only [controlOut, Attempt.exec_bind, hu, Attempt.exec_modify] at h
    cases h
    rfl

lemma controlOut_refused {c : Control} {d : Device} (hconnected : d.disconnected = false)
    (hfault : d.failing ≠ 0 ∨ d.failingRequest = some c.request) (timeout : Duration) :
    (exec (controlOut c timeout) d).1 = .error (.timeout timeout) := by
  cases hfailing : d.failing with
  | zero =>
    have hrequest := hfault.resolve_left (not_not_intro hfailing)
    simp [controlOut, accept, exec_check, hconnected, hfailing, hrequest]
  | succ n => simp [controlOut, accept, exec_check, hconnected, hfailing]

lemma controlOut_granted {c : Control} {d : Device} (hconnected : d.disconnected = false)
    (hfailing : d.failing = 0) (hrequest : d.failingRequest ≠ some c.request)
    (timeout : Duration) : exec (controlOut c timeout) d =
      (.ok (), obey { d with controls := d.controls ++ [c] } c) := by
  simp [controlOut, accept, exec_check, hconnected, hfailing, hrequest]

lemma exec_controlIn (c : Control) (length : UInt16) (timeout : Duration) (d : Device) :
    (∃ e d', exec (controlIn c length timeout) d = (.error e, d') ∧
        d' = { d with failing := d'.failing }) ∨
      exec (controlIn c length timeout) d =
        ((d.reply c).map (List.take length.toNat), { d with controls := d.controls ++ [c] }) := by
  rcases exec_accept c timeout d with ⟨e, u, hu, hfailing⟩ | hu
  · exact .inl ⟨e, u, by simp only [controlIn, Attempt.exec_bind, hu], hfailing⟩
  · have hreply : reply { d with controls := d.controls ++ [c] } c = d.reply c := rfl
    rcases h : d.reply c with e | data
    · exact .inr (by simp [controlIn, hu, hreply, h, Except.map])
    · exact .inr (by simp [controlIn, hu, hreply, h, Except.map])

lemma bulkOut_error {data : List UInt8} {timeout : Duration} {d d' : Device} {e : Usb.Error}
    (h : exec (bulkOut data timeout) d = (.error e, d')) :
    d' = { d with failing := d'.failing } := by
  rcases Attempt.bind_error h with hcheck | ⟨_, u, -, hrest⟩
  · exact check_error hcheck
  · simp at hrest

lemma bulkOut_ok {data : List UInt8} {timeout : Duration} {d d' : Device} {n : ℕ}
    (h : exec (bulkOut data timeout) d = (.ok n, d')) :
    ∃ taken, taken = (if d.shortWrite then data.dropLast else data) ∧ n = taken.length ∧
      d' = drive { d with shortWrite := false, written := d.written ++ taken } taken := by
  obtain ⟨_, u, hcheck, hrest⟩ := Attempt.bind_ok h
  obtain ⟨rfl, -, -⟩ := check_ok hcheck
  simp only [Attempt.exec_bind, Attempt.exec_get, Attempt.exec_set, Attempt.exec_pure] at hrest
  cases hrest
  exact ⟨_, rfl, rfl, rfl⟩

lemma bulkIn_error {limit : ℕ} {timeout : Duration} {d d' : Device} {e : Usb.Error}
    (h : exec (bulkIn limit timeout) d = (.error e, d')) :
    d' = { d with failing := d'.failing } := by
  rcases Attempt.bind_error h with hcheck | ⟨_, u, -, hrest⟩
  · exact check_error hcheck
  · simp at hrest

lemma bulkIn_ok {limit : ℕ} {timeout : Duration} {d d' : Device} {data : List UInt8}
    (h : exec (bulkIn limit timeout) d = (.ok data, d')) :
    data = (Packet.send d.packetBytes d.modemStatus limit d.queue).1 ∧
      d' = { d with queue := (Packet.send d.packetBytes d.modemStatus limit d.queue).2 } := by
  obtain ⟨_, u, hcheck, hrest⟩ := Attempt.bind_ok h
  obtain ⟨rfl, -, -⟩ := check_ok hcheck
  simp only [Attempt.exec_bind, Attempt.exec_get, Attempt.exec_set, Attempt.exec_pure] at hrest
  cases hrest
  exact ⟨rfl, rfl⟩

lemma fixed_drive (d : Device) (data : List UInt8) : (d.drive data).fixed = d.fixed := by
  obtain ⟨pins, h⟩ := drive_eq d data
  rw [h]
  rfl

section Fixed

lemma fixed_failing {d d' : Device} (h : d' = { d with failing := d'.failing }) :
    d'.fixed = d.fixed := by
  rw [h]
  rfl

lemma fixed_controlOut (c : Control) (timeout : Duration) (d : Device) :
    (exec (controlOut c timeout) d).2.fixed = d.fixed := by
  rcases h : exec (controlOut c timeout) d with ⟨e | ⟨⟩, d'⟩
  · exact fixed_failing (controlOut_error h)
  · rw [controlOut_ok h, fixed_obey]
    rfl

lemma fixed_controlIn (c : Control) (length : UInt16) (timeout : Duration) (d : Device) :
    (exec (controlIn c length timeout) d).2.fixed = d.fixed := by
  rcases exec_controlIn c length timeout d with ⟨e, d', h, hfailing⟩ | h
  · rw [h]
    exact fixed_failing hfailing
  · rw [h]
    rfl

lemma fixed_bulkOut (data : List UInt8) (timeout : Duration) (d : Device) :
    (exec (bulkOut data timeout) d).2.fixed = d.fixed := by
  rcases h : exec (bulkOut data timeout) d with ⟨e | n, d'⟩
  · exact fixed_failing (bulkOut_error h)
  · obtain ⟨taken, -, -, rfl⟩ := bulkOut_ok h
    exact fixed_drive _ _

lemma fixed_bulkIn (limit : ℕ) (timeout : Duration) (d : Device) :
    (exec (bulkIn limit timeout) d).2.fixed = d.fixed := by
  rcases h : exec (bulkIn limit timeout) d with ⟨e | data, d'⟩
  · exact fixed_failing (bulkIn_error h)
  · rw [(bulkIn_ok h).2]
    rfl

end Fixed

section Failing

abbrev Ebbs (t : Transfer α) : Prop := Along failing (fun n n' => n' ≤ n) t

lemma Ebbs.le {t : Transfer α} (h : Ebbs t) (d : Device) : (exec t d).2.failing ≤ d.failing := by
  have hpath : Relation.ReflTransGen (fun n n' : ℕ => n' ≤ n) d.failing (exec t d).2.failing := h d
  generalize (exec t d).2.failing = n at hpath ⊢
  induction hpath with
  | refl => exact Nat.le_refl _
  | tail _ hle ih => exact Nat.le_trans hle ih

lemma failing_obey (d : Device) (c : Control) : (d.obey c).failing = d.failing := by
  obtain ⟨_, _, _, _, _, _, h⟩ := obey_eq d c
  rw [h]

lemma failing_drive (d : Device) (data : List UInt8) : (d.drive data).failing = d.failing := by
  obtain ⟨pins, h⟩ := drive_eq d data
  rw [h]

lemma ebbs_get : Ebbs (get : Transfer Device) := Along.still fun _ => rfl

lemma ebbs_check (timeout : Duration) : Ebbs (check timeout) := by
  intro d
  apply Relation.ReflTransGen.single
  rw [exec_check]
  split
  · exact Nat.le_refl _
  · split
    · exact Nat.le_refl _
    · rename_i hfailing
      rw [hfailing]
      exact Nat.le_succ _

lemma ebbs_accept (c : Control) (timeout : Duration) : Ebbs (accept c timeout) := by
  apply (ebbs_check timeout).bind
  intro _
  apply ebbs_get.bind
  intro d
  split
  · exact (Along.throw _).bind fun _ => Along.still fun _ => rfl
  · exact Along.still fun _ => rfl

lemma ebbs_controlOut (c : Control) (timeout : Duration) : Ebbs (controlOut c timeout) :=
  (ebbs_accept c timeout).bind fun _ => Along.still fun d => failing_obey d c

lemma ebbs_controlIn (c : Control) (length : UInt16) (timeout : Duration) :
    Ebbs (controlIn c length timeout) :=
  (ebbs_accept c timeout).bind fun _ => ebbs_get.bind fun _ =>
    (Along.still fun _ => rfl).bind fun _ => Along.pure _

lemma ebbs_bulkOut (data : List UInt8) (timeout : Duration) : Ebbs (bulkOut data timeout) := by
  apply (ebbs_check timeout).bind
  intro _ d
  apply Relation.ReflTransGen.single
  simp [failing_drive]

lemma ebbs_bulkIn (limit : ℕ) (timeout : Duration) : Ebbs (bulkIn limit timeout) := by
  apply (ebbs_check timeout).bind
  intro _ d
  apply Relation.ReflTransGen.single
  simp

end Failing

section Claims

lemma exec_claim (channel : UInt8) (d : Device) :
    exec (claim channel) d =
      if d.disconnected then (.error .disconnected, d)
      else if d.chip.channels ≤ channel.toNat then (.error (.bus s!"no interface {channel}"), d)
      else if d.claimed.getD channel.toNat false then (.error (.claim "interface busy"), d)
      else (.ok d.facts, { d with claimed := d.claimed.setIfInBounds channel.toNat true }) := by
  by_cases hd : d.disconnected
  · simp [claim, hd]
  by_cases hc : d.chip.channels ≤ channel.toNat
  · simp [claim, hd, hc]
  by_cases hbusy : d.claimed.getD channel.toNat false
  · simp [claim, hd, hc, hbusy]
  · simp [claim, hd, hc, hbusy]

lemma claim_ok {channel : UInt8} {d d' : Device} {facts : Usb.Facts}
    (h : exec (claim channel) d = (.ok facts, d')) :
    channel.toNat < d.chip.channels ∧ d.claimed.getD channel.toNat false = false ∧
      facts = d.facts ∧ d' = { d with claimed := d.claimed.setIfInBounds channel.toNat true } := by
  rw [exec_claim] at h
  split at h
  · cases h
  split at h
  · cases h
  split at h
  · cases h
  rename_i _ hc hbusy
  cases h
  exact ⟨Nat.lt_of_not_le hc, Bool.not_eq_true _ ▸ hbusy, rfl, rfl⟩

lemma claim_error {channel : UInt8} {d d' : Device} {e : Usb.Error}
    (h : exec (claim channel) d = (.error e, d')) : d' = d := by
  rw [exec_claim] at h
  split at h
  · cases h
    rfl
  split at h
  · cases h
    rfl
  split at h
  · cases h
    rfl
  · cases h

end Claims

end UsbSerial.Sim.Device
