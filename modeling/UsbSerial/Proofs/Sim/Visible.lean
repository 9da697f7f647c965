import UsbSerial.Proofs.Sim.Bus

/-! What is seen of the devices on a simulated bus without claiming them. No transfer changes it,
and enumeration depends on nothing else. A transfer depends on its own device, and changes that. -/

namespace UsbSerial.Sim

open Attempt (exec)

namespace Device

def visible (d : Device) : Usb.Ids × Usb.Texts × Bool := (d.ids, d.texts, d.disconnected)

lemma visible_obey (d : Device) (c : Control) : (d.obey c).visible = d.visible := by
  obtain ⟨_, _, _, _, _, _, h⟩ := obey_eq d c
  rw [h]
  rfl

lemma visible_drive (d : Device) (data : List UInt8) : (d.drive data).visible = d.visible := by
  obtain ⟨pins, h⟩ := drive_eq d data
  rw [h]
  rfl

end Device

namespace Bus

variable {α γ : Type} {bus bus' : Bus} {id : DeviceId}

def visible (bus : Bus) : Bool × List (Usb.Ids × Usb.Texts × Bool) :=
  (bus.failing, bus.devices.map Device.visible)

lemma visible_device? (h : bus'.visible = bus.visible) (id : DeviceId) :
    (bus'.device? id).map Device.visible = (bus.device? id).map Device.visible := by
  have hdevices : bus'.devices.map Device.visible = bus.devices.map Device.visible :=
    congrArg Prod.snd h
  rw [device?, device?, ← List.getElem?_map, ← List.getElem?_map, hdevices]

lemma visible_update {f : Device → Device}
    (hf : ∀ d, bus.device? id = some d → (f d).visible = d.visible) :
    (bus.update id f).visible = bus.visible := by
  refine Prod.ext rfl (List.ext_getElem? fun i => ?_)
  have hplace := device?_update bus id { place := i } f
  simp only [visible, List.getElem?_map]
  rw [device?, device?] at hplace
  rw [hplace]
  split
  · rename_i hi
    subst hi
    cases hd : bus.devices[i]? with
    | none => rfl
    | some d => exact congrArg some (hf d hd)
  · rfl

lemma ext_device? (hdevices : ∀ id, bus'.device? id = bus.device? id)
    (hvisible : bus'.visible = bus.visible) : bus' = bus := by
  cases bus
  cases bus'
  congr 1
  · exact List.ext_getElem? fun i => hdevices { place := i }
  · exact congrArg Prod.fst hvisible

section Search

def places (vendor product : UInt16) (seen : List (Usb.Ids × Usb.Texts × Bool)) : List DeviceId :=
  (seen.zipIdx.filter fun x =>
    !x.1.2.2 && x.1.1.vendor = vendor && x.1.1.product = product).map fun x => { place := x.2 }

lemma places_eq (vendor product : UInt16) (bus : Bus) : places vendor product bus.visible.2 =
    (bus.devices.zipIdx.filter fun d => answersTo vendor product d.1).map
      fun d => { place := d.2 } := by
  rw [places, visible, List.zipIdx_map, List.filter_map, List.map_map]
  rfl

lemma exec_enumerate (vendor product : UInt16) (bus : Bus) :
    exec (enumerate vendor product) bus =
      (if bus.visible.1 then .error (.bus "simulated bus failure")
        else .ok (places vendor product bus.visible.2), bus) := by
  rw [places_eq, visible]
  by_cases hfailing : bus.failing
  · simp [enumerate, hfailing]
  · simp [enumerate, hfailing]

lemma ids_eq (id : DeviceId) (bus : Bus) :
    ids id bus = (((bus.device? id).map Device.visible).map Prod.fst).getD
      { vendor := 0, product := 0, release := 0 } := by
  rw [ids]
  cases bus.device? id with
  | none => rfl
  | some d => rfl

lemma exec_texts (id : DeviceId) (bus : Bus) :
    exec (texts id) bus =
      (match (bus.device? id).map Device.visible with
        | none | some (_, _, true) => .error .disconnected
        | some (_, texts, false) => .ok texts, bus) := by
  cases hd : bus.device? id with
  | none => exact exec_on_none hd _
  | some d =>
    rw [texts, exec_on hd, Option.map_some, Device.visible]
    cases hdisconnected : d.disconnected with
    | true => simp [hdisconnected, update_self hd]
    | false => simp [hdisconnected, update_self hd]

end Search

section Transfers

/-- A transfer with one device: it depends on that device, and changes no other. -/
structure Local (id : DeviceId) (t : Transfer α) : Prop where
  result : ∀ bus bus', bus'.device? id = bus.device? id → (exec t bus').1 = (exec t bus).1
  own : ∀ bus bus', bus'.device? id = bus.device? id →
    (exec t bus').2.device? id = (exec t bus).2.device? id
  other : ∀ bus id', id ≠ id' → (exec t bus).2.device? id' = bus.device? id'
  visible : ∀ bus, (exec t bus).2.visible = bus.visible

lemma local_on {t : Device.Transfer α} (ht : ∀ d, (exec t d).2.visible = d.visible)
    (id : DeviceId) : Local id (on id t) where
  result bus bus' h := by
    cases hd : bus.device? id with
    | none => rw [exec_on_none hd, exec_on_none (h.trans hd)]
    | some d => rw [exec_on hd, exec_on (h.trans hd)]
  own bus bus' h := by
    cases hd : bus.device? id with
    | none => rw [exec_on_none hd, exec_on_none (h.trans hd), h]
    | some d =>
      rw [exec_on hd, exec_on (h.trans hd), device?_update, device?_update, if_pos rfl, if_pos rfl,
        h]
  other bus id' hid := by
    cases hd : bus.device? id with
    | none => rw [exec_on_none hd]
    | some d => rw [exec_on hd, device?_update, if_neg hid]
  visible bus := by
    cases hd : bus.device? id with
    | none => rw [exec_on_none hd]
    | some d =>
      rw [exec_on hd]
      apply visible_update
      intro d' hd'
      cases hd.symm.trans hd'
      exact ht d

lemma Local.map {t : Transfer α} (ht : Local id t) (f : α → γ) : Local id (f <$> t) := by
  have hexec (bus : Bus) : exec (f <$> t) bus = ((exec t bus).1.map f, (exec t bus).2) := by
    rw [Attempt.exec_map]
    rcases exec t bus with ⟨e | a, bus'⟩ <;> rfl
  constructor
  · intro bus bus' h
    rw [hexec, hexec, ht.result bus bus' h]
  · intro bus bus' h
    rw [hexec, hexec, ht.own bus bus' h]
  · intro bus id' hid
    rw [hexec, ht.other bus id' hid]
  · intro bus
    rw [hexec, ht.visible]

lemma local_claim {channel : UInt8} (hclaim : ∀ d, (exec (Device.claim channel) d).2.visible =
    d.visible) (id : DeviceId) : Local id (claim id channel) := by
  have hmap : claim id channel =
      (fun facts =>
        { handle := { device := id, channel, facts }
          facts
          notes := [claimNote id channel] }) <$> on id (Device.claim channel) :=
    (map_eq_pure_bind _ _).symm
  rw [hmap]
  exact (local_on hclaim id).map _

lemma local_release (h : Handle) : Local h.device (Transport.release h : Transfer Unit) where
  result _ _ _ := rfl
  own bus bus' hbus := by
    have hexec (bus : Bus) : (exec (Transport.release h : Transfer Unit) bus).2 = bus.free h := rfl
    rw [hexec, hexec, free, free, device?_update, device?_update, if_pos rfl, if_pos rfl, hbus]
  other bus id' hid := (device?_update bus _ _ _).trans (if_neg hid)
  visible bus := visible_update fun _ _ => rfl

end Transfers

end Bus

end UsbSerial.Sim
