import UsbSerial.Proofs.Session.Uses
import UsbSerial.Proofs.Sim.Bus

namespace UsbSerial.Session

open Attempt (exec Along)
open Relation (ReflTransGen)
open Sim (Bus Control Device DeviceId Handle)

variable {allowed : Use → Prop} {bus bus' : Bus} {d d' : Device} {α : Type}

inductive Change (allowed : Use → Prop) (d : Device) : Device → Prop
  | same : Change allowed d d
  | failed (n : ℕ) : n ≤ d.failing → Change allowed d { d with failing := n }
  | claimed (claimed : Vector Bool 4) :
      allowed .claim ∨ allowed .release → Change allowed d { d with claimed }
  | obeyed (request : Request) (value index : UInt16) :
      allowed (.controlOut request value) →
      Change allowed d (Device.obey
        { d with controls := d.controls ++ [{ request := request.code, value, index }] }
        { request := request.code, value, index })
  | asked (request : Request) (c : Control) :
      allowed (.controlIn request) → Change allowed d { d with controls := d.controls ++ [c] }
  | wrote (data : List UInt8) :
      allowed .bulkOut → Change allowed d (Device.drive
        { d with shortWrite := false, written := d.written ++ data } data)
  | sent (queue : List UInt8) : allowed .bulkIn → Change allowed d { d with queue }

lemma Change.of_failed (h : d' = { d with failing := d'.failing }) (hle : d'.failing ≤ d.failing) :
    Change allowed d d' :=
  h ▸ .failed _ hle

lemma change_claim (h : allowed .claim) (channel : UInt8) (d : Device) :
    Change allowed d (exec (Device.claim channel) d).2 := by
  rcases hclaim : exec (Device.claim channel) d with ⟨e | facts, d'⟩
  · rw [Device.claim_error hclaim]
    exact .same
  · obtain ⟨-, -, -, rfl⟩ := Device.claim_ok hclaim
    exact .claimed _ (.inl h)

lemma change_controlOut {request : Request} {value : UInt16}
    (h : allowed (.controlOut request value)) (index : UInt16) (timeout : Duration) (d : Device) :
    Change allowed d
      (exec (Device.controlOut { request := request.code, value, index } timeout) d).2 := by
  have hle := (Device.ebbs_controlOut { request := request.code, value, index } timeout).le d
  rcases hout : exec (Device.controlOut { request := request.code, value, index } timeout) d
    with ⟨e | ⟨⟩, d'⟩
  · rw [hout] at hle
    exact .of_failed (Device.controlOut_error hout) hle
  · rw [Device.controlOut_ok hout]
    exact .obeyed request value index h

lemma change_controlIn {request : Request} (h : allowed (.controlIn request))
    (index length : UInt16) (timeout : Duration) (d : Device) :
    Change allowed d (exec
      (Device.controlIn { request := request.code, value := 0, index } length timeout) d).2 := by
  have hle := (Device.ebbs_controlIn { request := request.code, value := 0, index } length
    timeout).le d
  rcases Device.exec_controlIn { request := request.code, value := 0, index } length timeout d
    with ⟨e, d', hin, hfailing⟩ | hin
  · rw [hin] at hle ⊢
    exact .of_failed hfailing hle
  · rw [hin]
    exact .asked request _ h

lemma change_bulkOut (h : allowed .bulkOut) (data : List UInt8) (timeout : Duration) (d : Device) :
    Change allowed d (exec (Device.bulkOut data timeout) d).2 := by
  have hle := (Device.ebbs_bulkOut data timeout).le d
  rcases hout : exec (Device.bulkOut data timeout) d with ⟨e | n, d'⟩
  · rw [hout] at hle
    exact .of_failed (Device.bulkOut_error hout) hle
  · obtain ⟨taken, -, -, rfl⟩ := Device.bulkOut_ok hout
    exact .wrote taken h

lemma change_bulkIn (h : allowed .bulkIn) (limit : ℕ) (timeout : Duration) (d : Device) :
    Change allowed d (exec (Device.bulkIn limit timeout) d).2 := by
  have hle := (Device.ebbs_bulkIn limit timeout).le d
  rcases hin : exec (Device.bulkIn limit timeout) d with ⟨e | data, d'⟩
  · rw [hin] at hle
    exact .of_failed (Device.bulkIn_error hin) hle
  · rw [(Device.bulkIn_ok hin).2]
    exact .sent _ h

def Changed (allowed : Use → Prop) (bus bus' : Bus) : Prop :=
  ∀ id d, bus.device? id = some d → ∃ d', bus'.device? id = some d' ∧ Change allowed d d'

lemma changed_update {id : DeviceId} {f : Device → Device}
    (hf : ∀ d, bus.device? id = some d → Change allowed d (f d)) :
    Changed allowed bus (bus.update id f) := by
  intro id' d hd
  rw [Bus.device?_update]
  by_cases h : id = id'
  · subst h
    rw [if_pos rfl, hd]
    exact ⟨f d, rfl, hf d hd⟩
  · rw [if_neg h]
    exact ⟨d, hd, .same⟩

lemma changed_on {t : Device.Transfer α} (ht : ∀ d, Change allowed d (exec t d).2)
    (id : DeviceId) : Changed allowed bus (exec (Bus.on id t) bus).2 := by
  cases hd : bus.device? id with
  | none =>
    rw [Bus.exec_on_none hd]
    exact fun _ d hd => ⟨d, hd, .same⟩
  | some d =>
    rw [Bus.exec_on hd]
    apply changed_update
    intro d' hd'
    cases hd.symm.trans hd'
    exact ht d

lemma exec_claim_snd (id : DeviceId) (channel : UInt8) (bus : Bus) :
    (exec (Bus.claim id channel) bus).2 = (exec (Bus.on id (Device.claim channel)) bus).2 := by
  rcases h : exec (Bus.on id (Device.claim channel)) bus with ⟨e | facts, bus'⟩
  · simp [Bus.claim, h]
  · simp [Bus.claim, h]

lemma Contact.changed (h : Contact allowed bus bus') : Changed allowed bus bus' := by
  cases h with
  | enumerate vendor product =>
    intro id d hd
    exact ⟨d, (Bus.exec_enumerate_snd bus vendor product).symm ▸ hd, .same⟩
  | texts device timeout =>
    intro id d hd
    exact ⟨d, (Bus.device?_texts bus device id).trans hd, .same⟩
  | claim device channel hallowed =>
    have hchanged : Changed allowed bus (exec (Bus.on device (Device.claim channel)) bus).2 :=
      changed_on (change_claim hallowed channel) device
    rw [← exec_claim_snd] at hchanged
    exact hchanged
  | release handle hallowed => exact changed_update fun d _ => .claimed _ (.inr hallowed)
  | controlOut handle request value index timeout hallowed =>
    exact changed_on (change_controlOut hallowed index timeout) handle.device
  | controlIn handle request index length timeout hallowed =>
    exact changed_on (change_controlIn hallowed index length timeout) handle.device
  | bulkOut handle endpoint data timeout hallowed =>
    exact changed_on (change_bulkOut hallowed data timeout) handle.device
  | bulkIn handle endpoint limit timeout hallowed =>
    exact changed_on (change_bulkIn hallowed limit timeout) handle.device

section Device

variable {w : Hosted Bus Handle} {link : Link Handle}

lemma exec_controlOut_device (hl : w.session.binding = .opened link)
    (hd : w.bus.device? link.handle.device = some d) (operation : Operation) (request : Request)
    (value index : UInt16) :
    (∃ e log d', exec (controlOut operation request value index) w =
        (.error e,
          { w with
            bus := w.bus.update link.handle.device fun _ => d'
            log }) ∧
        d' = { d with failing := d'.failing }) ∨
      ∃ log, exec (controlOut operation request value index) w =
        (.ok (),
          { w with
            bus := w.bus.update link.handle.device fun _ => Device.obey
              { d with controls := d.controls ++ [{ request := request.code, value, index }] }
              { request := request.code, value, index }
            log }) := by
  obtain ⟨log, hexec⟩ := exec_controlOut hl operation request value index
  have hbus : exec (Transport.controlOut link.handle request.code value index
      w.session.options.writeTimeout) w.bus = _ :=
    Bus.exec_on hd (Device.controlOut { request := request.code, value, index }
      w.session.options.writeTimeout)
  rw [hexec, hbus]
  rcases hout : exec (Device.controlOut { request := request.code, value, index }
    w.session.options.writeTimeout) d with ⟨e | ⟨⟩, d'⟩
  · exact .inl ⟨.transport e, log, d', rfl, Device.controlOut_error hout⟩
  · rw [Device.controlOut_ok hout]
    exact .inr ⟨log, rfl⟩

lemma exec_bulkOut_device (hl : w.session.binding = .opened link)
    (hd : w.bus.device? link.handle.device = some d) (operation : Operation) (data : List UInt8) :
    ∃ log, exec (bulkOut operation data) w =
      ((exec (Device.bulkOut data w.session.options.writeTimeout) d).1.mapError .transport,
        { w with
          bus := w.bus.update link.handle.device fun _ =>
            (exec (Device.bulkOut data w.session.options.writeTimeout) d).2
          log }) := by
  obtain ⟨log, hexec⟩ := exec_bulkOut hl operation data
  have hbus : exec (Transport.bulkOut link.handle w.session.options.channel.outEndpoint data
      w.session.options.writeTimeout) w.bus = _ :=
    Bus.exec_on hd (Device.bulkOut data w.session.options.writeTimeout)
  rw [hbus] at hexec
  exact ⟨log, hexec⟩

end Device

theorem Call.keeps {c : Call DeviceId} {P : Device → Prop}
    (hP : ∀ d d', Change c.uses d d' → P d → P d') (w : Hosted Bus Handle) (id : DeviceId)
    (h : ∃ d, w.bus.device? id = some d ∧ P d) :
    ∃ d, (c.step w).2.bus.device? id = some d ∧ P d := by
  have hpath : ReflTransGen (Contact c.uses) w.bus (c.step w).2.bus := c.along (fun _ hu => hu) w
  generalize (c.step w).2.bus = bus at hpath ⊢
  induction hpath with
  | refl => exact h
  | tail _ hcontact ih =>
    obtain ⟨d, hd, hPd⟩ := ih
    obtain ⟨d', hd', hchange⟩ := Contact.changed hcontact id d hd
    exact ⟨d', hd', hP d d' hchange hPd⟩

end UsbSerial.Session
