import UsbSerial.Proofs.Sim.Claims

namespace UsbSerial.Sim

open Attempt (exec)

inductive Register
  | lines
  | latency
  deriving DecidableEq

namespace Register

def request : Register → Request
  | lines => .modemControl
  | latency => .setLatency

def value (r : Register) (d : Device) : UInt8 :=
  match r with
  | lines => d.modemLines
  | latency => d.latency

def set (r : Register) (old : UInt8) (value : UInt16) : UInt8 :=
  match r with
  | lines => Device.merge old (Word.high value) (Word.low value)
  | latency => Word.low value

variable {α : Type} (r : Register)

section Device

lemma value_obey (d : Device) (c : Control) :
    r.value (d.obey c) =
      if Request.ofCode? c.request = some r.request then r.set (r.value d) c.value
      else r.value d := by
  unfold Device.obey
  rcases Request.ofCode? c.request with _ | request
  · cases r <;> rfl
  cases request with
  | reset =>
    dsimp only
    split
    · cases r <;> rfl
    · split <;> cases r <;> rfl
  | _ => cases r <;> rfl

lemma value_failing {d d' : Device} (h : d' = { d with failing := d'.failing }) :
    r.value d' = r.value d := by
  rw [h]
  cases r <;> rfl

lemma value_controlOut (c : Control) (timeout : Duration) (d : Device) :
    r.value (exec (Device.controlOut c timeout) d).2 =
      if (exec (Device.controlOut c timeout) d).1.isOk ∧ Request.ofCode? c.request = some r.request
      then r.set (r.value d) c.value else r.value d := by
  rcases hout : exec (Device.controlOut c timeout) d with ⟨e | ⟨⟩, d'⟩
  · rw [if_neg (fun h => by cases h.1)]
    exact r.value_failing (Device.controlOut_error hout)
  · rw [Device.controlOut_ok hout, value_obey]
    simp only [Except.isOk, Except.toBool, true_and]
    cases r <;> rfl

lemma value_controlIn (c : Control) (length : UInt16) (timeout : Duration) (d : Device) :
    r.value (exec (Device.controlIn c length timeout) d).2 = r.value d := by
  rcases Device.exec_controlIn c length timeout d with ⟨e, d', hin, hfailing⟩ | hin
  · rw [hin]
    exact r.value_failing hfailing
  · rw [hin]
    cases r <;> rfl

lemma value_bulkOut (data : List UInt8) (timeout : Duration) (d : Device) :
    r.value (exec (Device.bulkOut data timeout) d).2 = r.value d := by
  rcases hout : exec (Device.bulkOut data timeout) d with ⟨e | n, d'⟩
  · exact r.value_failing (Device.bulkOut_error hout)
  · obtain ⟨taken, -, -, rfl⟩ := Device.bulkOut_ok hout
    obtain ⟨pins, hdrive⟩ := Device.drive_eq
      { d with shortWrite := false, written := d.written ++ taken } taken
    rw [hdrive]
    cases r <;> rfl

lemma value_bulkIn (limit : ℕ) (timeout : Duration) (d : Device) :
    r.value (exec (Device.bulkIn limit timeout) d).2 = r.value d := by
  rcases hin : exec (Device.bulkIn limit timeout) d with ⟨e | data, d'⟩
  · exact r.value_failing (Device.bulkIn_error hin)
  · rw [(Device.bulkIn_ok hin).2]
    cases r <;> rfl

lemma value_claim (channel : UInt8) (d : Device) :
    r.value (exec (Device.claim channel) d).2 = r.value d := by
  rcases hclaim : exec (Device.claim channel) d with ⟨e | facts, d'⟩
  · rw [Device.claim_error hclaim]
  · obtain ⟨-, -, -, rfl⟩ := Device.claim_ok hclaim
    cases r <;> rfl

lemma getLsbD_merge (old mask level : UInt8) (i : ℕ) :
    (Device.merge old mask level).toBitVec.getLsbD i =
      if mask.toBitVec.getLsbD i then level.toBitVec.getLsbD i else old.toBitVec.getLsbD i := by
  simp only [Device.merge, UInt8.toBitVec_or, UInt8.toBitVec_and, UInt8.toBitVec_not,
    BitVec.getLsbD_or, BitVec.getLsbD_and, BitVec.getLsbD_not]
  by_cases hi : i < 8
  · cases mask.toBitVec.getLsbD i <;> simp [hi]
  · simp [BitVec.getLsbD_of_ge _ i (Nat.le_of_not_lt hi)]

end Device

end Register

namespace Bus

variable (r : Register) (id : DeviceId)

def register (bus : Bus) : Option UInt8 := (bus.device? id).map r.value

lemma register_update (bus : Bus) {f : Device → Device} (hf : ∀ d, r.value (f d) = r.value d)
    (id' : DeviceId) : (bus.update id' f).register r id = bus.register r id := by
  rw [register, device?_update, register]
  split
  · rw [Option.map_map]
    exact Option.map_congr fun d _ => hf d
  · rfl

lemma register_claim (bus : Bus) (device : DeviceId) (channel : UInt8) :
    (exec (claim device channel) bus).2.register r id = bus.register r id := by
  have hon : (exec (on device (Device.claim channel)) bus).2.register r id = bus.register r id :=
    map_on bus (r.value_claim channel) device id
  rw [← hon, claim, Attempt.exec_bind]
  rcases exec (on device (Device.claim channel)) bus with ⟨e | facts, bus'⟩ <;> rfl

lemma register_controlOut (bus : Bus) (h : Handle) (request : UInt8) (value index : UInt16)
    (timeout : Duration) :
    (exec (Transport.controlOut h request value index timeout) bus).2.register r id =
      (bus.register r id).map fun old =>
        if h.device = id ∧
          (exec (Transport.controlOut h request value index timeout) bus).1.isOk ∧
          Request.ofCode? request = some r.request
        then r.set old value else old := by
  have hexec : exec (Transport.controlOut h request value index timeout) bus =
      exec (on h.device (Device.controlOut { request, value, index } timeout)) bus := rfl
  rw [hexec]
  cases hd : bus.device? h.device with
  | none =>
    rw [exec_on_none hd]
    simp [Except.isOk, Except.toBool]
  | some d =>
    rw [exec_on hd, register, register, device?_update]
    split
    · rename_i hid
      rw [← hid, hd]
      simp only [Option.map_some, r.value_controlOut, true_and]
    · rename_i hid
      simp only [hid, false_and, if_false, Option.map_id']

end Bus

section Probed

open Probe (Leaves Transfer)

variable (r : Register) (id : DeviceId)

lemma leaves_register_enumerate (vendor product : UInt16) :
    Leaves (Bus.register r id)
      (Transport.enumerate vendor product : Transfer Bus (List DeviceId)) :=
  Probe.leaves_enumerate fun bus => congrArg _ (Bus.exec_enumerate_snd bus vendor product)

lemma leaves_register_texts (device : DeviceId) (timeout : Duration) :
    Leaves (Bus.register r id) (Transport.texts device timeout : Transfer Bus Usb.Texts) :=
  Probe.leaves_texts fun bus => congrArg (Option.map r.value) (Bus.device?_texts bus device id)

lemma leaves_register_claim (device : DeviceId) (channel : UInt8) :
    Leaves (Bus.register r id)
      (Transport.claim device channel : Transfer Bus (Usb.Claim Handle)) := by
  intro p
  have hclaim := Bus.register_claim r id p.bus device channel
  rcases hexec : exec (Transport.claim device channel : Transfer Bus (Usb.Claim Handle)) p
    with ⟨e | c, p'⟩
  · rcases Probe.claim_error hexec with hbus | ⟨e', herror⟩
    · exact congrArg _ hbus
    · exact (congrArg (fun o => o.2.register r id) herror).symm.trans hclaim
  · obtain ⟨c', hok, -⟩ := Probe.claim_ok hexec
    exact (congrArg (fun o => o.2.register r id) hok).symm.trans hclaim

lemma leaves_register_release (h : Handle) :
    Leaves (Bus.register r id) (Transport.release h : Transfer Bus Unit) := by
  intro p
  rw [Probe.bus_release]
  exact Bus.register_update r id p.bus (fun d => by cases r <;> rfl) h.device

lemma leaves_register_controlIn (h : Handle) (request : UInt8) (value index length : UInt16)
    (timeout : Duration) :
    Leaves (Bus.register r id)
      (Transport.controlIn h request value index length timeout : Transfer Bus _) :=
  Probe.leaves_controlIn fun bus => Bus.map_on bus (r.value_controlIn _ _ _) h.device id

lemma leaves_register_bulkOut (h : Handle) (endpoint : UInt8) (data : List UInt8)
    (timeout : Duration) :
    Leaves (Bus.register r id) (Transport.bulkOut h endpoint data timeout : Transfer Bus ℕ) :=
  Probe.leaves_bulkOut fun bus => Bus.map_on bus (r.value_bulkOut _ _) h.device id

lemma leaves_register_bulkIn (h : Handle) (endpoint : UInt8) (limit : ℕ) (timeout : Duration) :
    Leaves (Bus.register r id) (Transport.bulkIn h endpoint limit timeout : Transfer Bus _) :=
  Probe.leaves_bulkIn fun bus => Bus.map_on bus (r.value_bulkIn _ _) h.device id

end Probed

end UsbSerial.Sim
