import UsbSerial.Proofs.Probe
import UsbSerial.Proofs.Sim.Bus

namespace UsbSerial.Sim

open Attempt (exec)

def Handle.on (id : DeviceId) (channel : UInt8) (h : Handle) : Bool :=
  h.device = id ∧ h.channel = channel

namespace Bus

def taken (bus : Bus) (id : DeviceId) (channel : UInt8) : Bool :=
  ((bus.device? id).map Device.claimed).elim false fun claimed => claimed.getD channel.toNat false

section Update

lemma getD_setIfInBounds (v : Vector Bool 4) (i j : ℕ) (b : Bool) :
    (v.setIfInBounds i b).getD j false = if i = j ∧ i < 4 then b else v.getD j false := by
  by_cases hij : i = j
  · subst hij
    by_cases hi : i < 4
    · simp [Vector.getD, hi]
    · simp [Vector.getD, hi]
  · by_cases hj : j < 4
    · simp [Vector.getD, hj, hij]
    · simp [Vector.getD, hj, hij]

lemma channels_le (c : Chip) : c.channels ≤ 4 := by
  cases c <;> decide

lemma taken_update {bus : Bus} {id : DeviceId} {f : Device → Device} {channel : UInt8} {b : Bool}
    (hf : ∀ d, bus.device? id = some d →
      (f d).claimed = d.claimed.setIfInBounds channel.toNat b)
    (hb : b = true → ∃ d, bus.device? id = some d ∧ channel.toNat < 4) (id' : DeviceId)
    (channel' : UInt8) :
    (bus.update id f).taken id' channel' =
      if id = id' ∧ channel = channel' then b else bus.taken id' channel' := by
  rw [taken, taken, device?_update]
  by_cases hid : id = id'
  · subst hid
    rw [if_pos rfl]
    cases hd : bus.device? id with
    | none =>
      cases b with
      | false => simp
      | true =>
        obtain ⟨d, hsome, -⟩ := hb rfl
        cases hd.symm.trans hsome
    | some d =>
      simp only [Option.map_some, Option.elim_some, hf d hd, getD_setIfInBounds, true_and,
        UInt8.toNat_inj]
      by_cases hchannel : channel = channel'
      · subst hchannel
        rw [if_pos rfl]
        by_cases hlt : channel.toNat < 4
        · rw [if_pos ⟨rfl, hlt⟩]
        · rw [if_neg (fun h => hlt h.2)]
          cases b with
          | false => simp [Vector.getD, hlt]
          | true =>
            obtain ⟨-, -, hlt'⟩ := hb rfl
            exact absurd hlt' hlt
      · rw [if_neg hchannel, if_neg (fun h => hchannel h.1)]
  · rw [if_neg hid, if_neg (fun h => hid h.1)]

lemma taken_same {bus : Bus} {id : DeviceId} {f : Device → Device}
    (hf : ∀ d, bus.device? id = some d → (f d).claimed = d.claimed) :
    (bus.update id f).taken = bus.taken := by
  funext id' channel
  rw [taken, taken, device?_update]
  by_cases hid : id = id'
  · subst hid
    rw [if_pos rfl]
    cases hd : bus.device? id with
    | none => rfl
    | some d => simp only [Option.map_some, Option.elim_some, hf d hd]
  · rw [if_neg hid]

end Update

section Transfers

variable {α : Type}

lemma taken_on {t : Device.Transfer α} (ht : ∀ d, (exec t d).2.fixed = d.fixed) (bus : Bus)
    (id : DeviceId) : (exec (on id t) bus).2.taken = bus.taken := by
  have hclaimed (d : Device) : (exec t d).2.claimed = d.claimed :=
    congrArg (fun f => f.2.2.2.2) (ht d)
  funext id' channel
  rw [taken, map_on bus hclaimed, taken]

lemma taken_claim_error {id : DeviceId} {channel : UInt8} {bus bus' : Bus} {e : Usb.Error}
    (h : exec (claim id channel) bus = (.error e, bus')) : bus'.taken = bus.taken := by
  rcases Attempt.bind_error h with hon | ⟨facts, bus'', -, hpure⟩
  · cases hd : bus.device? id with
    | none =>
      rw [exec_on_none hd] at hon
      cases hon
      rfl
    | some d =>
      rw [exec_on hd] at hon
      rcases hdevice : exec (Device.claim channel) d with ⟨e' | facts, d'⟩
      · rw [hdevice, Device.claim_error hdevice] at hon
        cases hon
        apply taken_same
        intro d' hd'
        cases hd.symm.trans hd'
        rfl
      · rw [hdevice] at hon
        cases hon
  · rw [Attempt.exec_pure] at hpure
    cases hpure

lemma taken_claim_ok {id : DeviceId} {channel : UInt8} {bus bus' : Bus} {c : Usb.Claim Handle}
    (h : exec (claim id channel) bus = (.ok c, bus')) :
    c.handle.device = id ∧ c.handle.channel = channel ∧ bus.taken id channel = false ∧
      ∀ id' channel', bus'.taken id' channel' =
        if id = id' ∧ channel = channel' then true else bus.taken id' channel' := by
  obtain ⟨facts, bus'', hon, hc⟩ := Attempt.bind_ok h
  rw [Attempt.exec_pure] at hc
  cases hc
  obtain ⟨d, d', hd, hdevice, rfl⟩ := on_ok hon
  obtain ⟨hchannel, hfree, rfl, rfl⟩ := Device.claim_ok hdevice
  refine ⟨rfl, rfl, ?_, taken_update ?_ ?_⟩
  · rw [taken, hd]
    exact hfree
  · intro d' hd'
    cases hd.symm.trans hd'
    rfl
  · intro _
    exact ⟨d, hd, Nat.lt_of_lt_of_le hchannel (channels_le d.chip)⟩

lemma taken_free (bus : Bus) (h : Handle) (id : DeviceId) (channel : UInt8) :
    (bus.free h).taken id channel =
      if h.device = id ∧ h.channel = channel then false else bus.taken id channel := by
  refine taken_update (fun _ _ => rfl) ?_ id channel
  intro hfalse
  cases hfalse

end Transfers

lemma taken_texts (bus : Bus) (id : DeviceId) : (exec (texts id) bus).2.taken = bus.taken := by
  funext id' channel
  rw [taken, taken, device?_texts]

section Probed

variable {device : DeviceId} {channel : UInt8} {p p' : Probe Bus}

lemma leaves_taken_enumerate (vendor product : UInt16) :
    Probe.Leaves taken (Transport.enumerate vendor product : Probe.Transfer Bus (List DeviceId)) :=
  Probe.leaves_enumerate fun bus => congrArg taken (exec_enumerate_snd bus vendor product)

lemma leaves_taken_texts (device : DeviceId) (timeout : Duration) :
    Probe.Leaves taken (Transport.texts device timeout : Probe.Transfer Bus Usb.Texts) :=
  Probe.leaves_texts fun bus => taken_texts bus device

lemma leaves_taken_controlOut (h : Handle) (request : UInt8) (value index : UInt16)
    (timeout : Duration) :
    Probe.Leaves taken
      (Transport.controlOut h request value index timeout : Probe.Transfer Bus Unit) :=
  Probe.leaves_controlOut fun bus => taken_on (Device.fixed_controlOut _ _) bus h.device

lemma leaves_taken_controlIn (h : Handle) (request : UInt8) (value index length : UInt16)
    (timeout : Duration) :
    Probe.Leaves taken
      (Transport.controlIn h request value index length timeout : Probe.Transfer Bus _) :=
  Probe.leaves_controlIn fun bus => taken_on (Device.fixed_controlIn _ _ _) bus h.device

lemma leaves_taken_bulkOut (h : Handle) (endpoint : UInt8) (data : List UInt8)
    (timeout : Duration) :
    Probe.Leaves taken (Transport.bulkOut h endpoint data timeout : Probe.Transfer Bus ℕ) :=
  Probe.leaves_bulkOut fun bus => taken_on (Device.fixed_bulkOut _ _) bus h.device

lemma leaves_taken_bulkIn (h : Handle) (endpoint : UInt8) (limit : ℕ) (timeout : Duration) :
    Probe.Leaves taken (Transport.bulkIn h endpoint limit timeout : Probe.Transfer Bus _) :=
  Probe.leaves_bulkIn fun bus => taken_on (Device.fixed_bulkIn _ _) bus h.device

lemma taken_release (h : Handle) (p : Probe Bus) (id : DeviceId) (channel : UInt8) :
    (exec (Transport.release h : Probe.Transfer Bus Unit) p).2.bus.taken id channel =
      if h.device = id ∧ h.channel = channel then false else p.bus.taken id channel := by
  rw [Probe.bus_release]
  exact taken_free p.bus h id channel

lemma taken_refused {e : Usb.Error}
    (h : exec (Transport.claim device channel : Probe.Transfer Bus (Usb.Claim Handle)) p =
      (.error e, p')) : p'.bus.taken = p.bus.taken := by
  rcases Probe.claim_error h with hbus | ⟨e', herror⟩
  · exact congrArg taken hbus
  · exact taken_claim_error herror

lemma taken_granted {c : Usb.Claim Handle}
    (h : exec (Transport.claim device channel : Probe.Transfer Bus (Usb.Claim Handle)) p =
      (.ok c, p')) :
    c.handle.device = device ∧ c.handle.channel = channel ∧
      p.bus.taken device channel = false ∧ ∀ id' channel', p'.bus.taken id' channel' =
        if device = id' ∧ channel = channel' then true else p.bus.taken id' channel' := by
  obtain ⟨c', hok, hhandle⟩ := Probe.claim_ok h
  rw [hhandle]
  exact taken_claim_ok hok

end Probed

end Bus

end UsbSerial.Sim
