import UsbSerial.Device.Listing
import UsbSerial.Proofs.Sim.Visible

namespace UsbSerial.Sim.Bus

open Attempt (exec)

variable {options : Session.Options} {filter : Device.Filter}

structure Meets (filter : Device.Filter) (d : Device) : Prop where
  connected : d.disconnected = false
  vendor : d.ids.vendor = filter.vendor
  product : d.ids.product = filter.product
  description : ∀ text, filter.description = some text → d.texts.product = some text
  serial : ∀ text, filter.serial = some text → d.texts.serial = some text

lemma accepts_iff (texts : Usb.Texts) : filter.accepts texts = true ↔
    (∀ text, filter.description = some text → texts.product = some text) ∧
      ∀ text, filter.serial = some text → texts.serial = some text := by
  rw [Device.Filter.accepts, Bool.and_eq_true]
  cases filter.description <;> cases filter.serial <;> simp

lemma meets_iff (d : Device) : Meets filter d ↔
    answersTo filter.vendor filter.product d = true ∧ filter.accepts d.texts = true := by
  rw [accepts_iff, answersTo]
  constructor
  · rintro ⟨hconnected, hvendor, hproduct, hdescription, hserial⟩
    exact ⟨by simp [hconnected, hvendor, hproduct], hdescription, hserial⟩
  · rintro ⟨hanswers, hdescription, hserial⟩
    simp only [Bool.and_eq_true, Bool.not_eq_true', decide_eq_true_eq] at hanswers
    exact ⟨hanswers.1.1, hanswers.1.2, hanswers.2, hdescription, hserial⟩

instance (filter : Device.Filter) (d : Device) : Decidable (Meets filter d) :=
  decidable_of_iff _ (meets_iff d).symm

def candidates (bus : Bus) (filter : Device.Filter) : List DeviceId :=
  (bus.devices.zipIdx.filter fun d => Meets filter d.1).map fun d => { place := d.2 }

def selected? (bus : Bus) (filter : Device.Filter) : Option DeviceId :=
  (bus.candidates filter)[filter.position]?

lemma device?_of_mem_zipIdx {bus : Bus} {d : Device} {place : ℕ}
    (h : (d, place) ∈ bus.devices.zipIdx) : bus.device? { place } = some d :=
  List.mem_zipIdx_iff_getElem?.mp h

lemma meets_of_selected {bus : Bus} {id : DeviceId} (h : bus.selected? filter = some id) :
    ∃ d, bus.device? id = some d ∧ Meets filter d := by
  obtain ⟨⟨d, place⟩, hmem, rfl⟩ := List.mem_map.mp (List.mem_of_getElem? h)
  obtain ⟨hmem, hmeets⟩ := List.mem_filter.mp hmem
  exact ⟨d, device?_of_mem_zipIdx hmem, of_decide_eq_true hmeets⟩

def accepted (bus : Bus) (filter : Device.Filter) (id : DeviceId) : Bool :=
  (bus.device? id).elim false fun d => filter.accepts d.texts

lemma exec_matching {h : Host Bus} {id : DeviceId} {d : Device} (hd : h.bus.device? id = some d)
    (hconnected : d.disconnected = false) :
    exec (Device.matching options filter id) h = (.ok (h.bus.accepted filter id), h) := by
  have hvisible : (h.bus.device? id).map Device.visible = some (d.ids, d.texts, false) := by
    rw [hd, Option.map_some, Device.visible, hconnected]
  have htexts : exec (Transport.texts id options.readTimeout) h.bus = (.ok d.texts, h.bus) := by
    refine (exec_texts id h.bus).trans ?_
    rw [hvisible]
  have haccepted : h.bus.accepted filter id = filter.accepts d.texts := by
    rw [accepted, hd, Option.elim_some]
  rw [haccepted]
  by_cases hneeds : filter.needsTexts = true
  · simp [Device.matching, Device.readTexts, hneeds, htexts]
  · have hall : filter.accepts d.texts = true := by
      rw [Device.Filter.needsTexts, Bool.or_eq_true, not_or] at hneeds
      rw [accepts_iff]
      simp_all
    simp [Device.matching, hneeds, hall]

lemma exec_pick {h : Host Bus} {ids : List DeviceId}
    (hids : ∀ id ∈ ids, ∃ d, h.bus.device? id = some d ∧ d.disconnected = false) (skip : ℕ) :
    exec (Device.pick options filter skip ids) h =
      ((ids.filter (h.bus.accepted filter))[skip]?.elim (.error .notFound) .ok, h) := by
  induction ids generalizing skip with
  | nil => rfl
  | cons id ids ih =>
    obtain ⟨d, hd, hconnected⟩ := hids id List.mem_cons_self
    have hrest := ih fun other hother => hids other (List.mem_cons_of_mem _ hother)
    rw [Device.pick.eq_def]
    dsimp only
    rw [Attempt.exec_bind, exec_matching hd hconnected]
    cases haccepted : h.bus.accepted filter id with
    | false =>
      rw [List.filter_cons_of_neg (by simp [haccepted])]
      exact hrest skip
    | true =>
      rw [List.filter_cons_of_pos haccepted]
      cases skip with
      | zero => rfl
      | succ skip => exact hrest skip

lemma filter_places (bus : Bus) (filter : Device.Filter) :
    (places filter.vendor filter.product bus.visible.2).filter (bus.accepted filter) =
      bus.candidates filter := by
  rw [places_eq, List.filter_map, List.filter_filter, candidates]
  congr 1
  apply List.filter_congr
  rintro ⟨d, place⟩ hmem
  have haccepted : bus.accepted filter { place } = filter.accepts d.texts := by
    rw [accepted, device?_of_mem_zipIdx hmem, Option.elim_some]
  have hmeets : Meets filter d ↔ _ := meets_iff d
  rw [Bool.eq_iff_iff, decide_eq_true_eq, hmeets, Bool.and_eq_true, and_comm, ← haccepted]
  rfl

lemma connected_of_mem_places {bus : Bus} {vendor product : UInt16} {id : DeviceId}
    (h : id ∈ places vendor product bus.visible.2) :
    ∃ d, bus.device? id = some d ∧ d.disconnected = false := by
  rw [places_eq] at h
  obtain ⟨⟨d, place⟩, hmem, rfl⟩ := List.mem_map.mp h
  obtain ⟨hmem, hanswers⟩ := List.mem_filter.mp hmem
  simp only [answersTo, Bool.and_eq_true, Bool.not_eq_true'] at hanswers
  exact ⟨d, device?_of_mem_zipIdx hmem, hanswers.1.1⟩

lemma exec_find (h : Host Bus) : exec (Device.find options filter) h =
    (if h.bus.failing then .error (.enumeration (.bus "simulated bus failure"))
      else (h.bus.selected? filter).elim (.error .notFound) .ok, h) := by
  have henumerate : exec (Device.enumerate filter.vendor filter.product) h =
      ((if h.bus.failing then .error (.bus "simulated bus failure")
        else .ok (places filter.vendor filter.product h.bus.visible.2) :
          Except Usb.Error _).mapError Error.enumeration, h) := by
    rw [Device.enumerate, Host.exec_call]
    have hexec : exec (Transport.enumerate filter.vendor filter.product) h.bus = _ :=
      exec_enumerate filter.vendor filter.product h.bus
    rw [hexec]
    rfl
  rw [Device.find, Attempt.exec_bind, henumerate]
  by_cases hfailing : h.bus.failing
  · simp only [if_pos hfailing, Host.mapError_error]
  · simp only [if_neg hfailing, Host.mapError_ok]
    rw [exec_pick fun _ => connected_of_mem_places, filter_places, selected?]

end UsbSerial.Sim.Bus
