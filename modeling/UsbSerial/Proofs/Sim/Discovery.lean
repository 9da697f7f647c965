import Mathlib.Data.List.Nodup
import UsbSerial.Proofs.Device.Label
import UsbSerial.Proofs.Sim.Search

namespace UsbSerial.Sim.Bus

open Attempt (exec)

section Positions

variable {α : Type} {p q : α → Bool} {l : List α} {i : ℕ} {a : α}

lemma getElem?_filter_countP (ha : l[i]? = some a) (hp : p a = true) :
    (l.filter p)[(l.take i).countP p]? = some a := by
  induction l generalizing i with
  | nil => cases ha
  | cons b l ih =>
    cases i with
    | zero =>
      rw [List.getElem?_cons_zero, Option.some_inj] at ha
      subst ha
      simp [hp]
    | succ i =>
      have hfound := ih ha
      cases hb : p b with
      | false => simpa [hb] using hfound
      | true => simpa [hb] using hfound

lemma countP_eq_iff (hpq : ∀ b ∈ l, p b = true → q b = true) :
    l.countP p = l.countP q ↔ ∀ b ∈ l, q b = true → p b = true := by
  induction l with
  | nil => simp
  | cons b l ih =>
    have hrest := ih fun c hc => hpq c (List.mem_cons_of_mem b hc)
    have hle : l.countP p ≤ l.countP q :=
      List.countP_mono_left fun c hc => hpq c (List.mem_cons_of_mem b hc)
    have hb := hpq b List.mem_cons_self
    rw [List.forall_mem_cons, ← hrest]
    cases hqb : q b with
    | false =>
      have hpb : p b = false := by simpa [hqb] using hb
      simp [hpb, hqb]
    | true =>
      cases hpb : p b with
      | false =>
        simp [hpb, hqb]
        omega
      | true => simp [hpb, hqb]

end Positions

section Listing

def entry (limit : ℕ) (x : Device × ℕ) : Device.Descriptor DeviceId where
  vendor := x.1.ids.vendor
  product := x.1.ids.product
  manufacturer := x.1.texts.manufacturer.map (Device.Label.bounded · limit)
  description := x.1.texts.product.map (Device.Label.bounded · limit)
  serial := x.1.texts.serial.map (Device.Label.bounded · limit)
  device := { place := x.2 }

def shown (bus : Bus) (vendor product : UInt16) : List (Device × ℕ) :=
  bus.devices.zipIdx.filter fun x =>
    x.1.disconnected = false ∧ x.1.ids.vendor = vendor ∧ x.1.ids.product = product

def listing (bus : Bus) (vendor product : UInt16) (limit : ℕ) : List (Device.Descriptor DeviceId) :=
  (bus.shown vendor product).map (entry limit)

variable {bus : Bus} {vendor product : UInt16} {limit : ℕ} {x : Device × ℕ}

lemma mem_shown : x ∈ bus.shown vendor product ↔ bus.device? { place := x.2 } = some x.1 ∧
    x.1.disconnected = false ∧ x.1.ids.vendor = vendor ∧ x.1.ids.product = product := by
  rw [shown, List.mem_filter, decide_eq_true_eq, List.mem_zipIdx_iff_getElem?]
  rfl

lemma places_shown (bus : Bus) (vendor product : UInt16) :
    places vendor product bus.visible.2 =
      (bus.shown vendor product).map fun x => { place := x.2 } := by
  rw [places_eq, shown]
  congr 1
  apply List.filter_congr
  intro x _
  simp [answersTo, Bool.and_assoc]

lemma nodup_listing (bus : Bus) (vendor product : UInt16) (limit : ℕ) :
    ((bus.listing vendor product limit).map Device.Descriptor.device).Nodup := by
  have hplaces : (bus.devices.zipIdx.map Prod.snd).Nodup := by
    rw [List.zipIdx_map_snd]
    exact List.nodup_range'
  have hshown : ((bus.shown vendor product).map Prod.snd).Nodup :=
    hplaces.sublist ((List.filter_sublist).map Prod.snd)
  have hdevices : (bus.listing vendor product limit).map Device.Descriptor.device =
      ((bus.shown vendor product).map Prod.snd).map DeviceId.mk := by
    rw [listing, List.map_map, List.map_map]
    rfl
  rw [hdevices]
  exact hshown.map fun _ _ => DeviceId.mk.inj

variable (options : Session.Options) {h : Host Bus}

def description (x : Device × ℕ) : Log.Entry where
  level := .trace
  text := Device.idText x.1.ids.vendor x.1.ids.product ++ " " ++ Device.textsText x.1.texts

lemma exec_describe (hx : x ∈ h.bus.shown vendor product) :
    exec (Device.describe options ({ place := x.2 } : DeviceId)) h =
      (.ok (entry options.textLimit x), { h with log := h.log ++ [description x] }) := by
  obtain ⟨hd, hconnected, -, -⟩ := mem_shown.mp hx
  have hids : Transport.ids ({ place := x.2 } : DeviceId) h.bus = x.1.ids := by
    refine (ids_eq _ h.bus).trans ?_
    rw [hd]
    rfl
  have htexts : exec (Transport.texts ({ place := x.2 } : DeviceId) options.readTimeout) h.bus =
      (.ok x.1.texts, h.bus) := by
    refine (exec_texts _ h.bus).trans ?_
    rw [hd, Option.map_some, Device.visible, hconnected]
  simp [Device.describe, Device.readTexts, hids, htexts, description, entry,
    Device.Descriptor.ofTexts]

lemma exec_mapM_describe {xs : List (Device × ℕ)}
    (hxs : ∀ x ∈ xs, x ∈ h.bus.shown vendor product) :
    exec ((xs.map fun x => ({ place := x.2 } : DeviceId)).mapM (Device.describe options)) h =
      (.ok (xs.map (entry options.textLimit)),
        { h with log := h.log ++ xs.map description }) := by
  induction xs generalizing h with
  | nil => simp
  | cons x xs ih =>
    have hdescribe := exec_describe options (hxs x List.mem_cons_self)
    have hrest := @ih { h with log := h.log ++ [description x] }
      fun y hy => hxs y (List.mem_cons_of_mem x hy)
    rw [List.map_cons, List.mapM_cons, Attempt.exec_bind, hdescribe]
    simp only [Attempt.exec_bind, hrest]
    simp

lemma exec_findAll (hbus : h.bus.failing = false) :
    exec (Device.findAll options vendor product) h =
      (.ok (h.bus.listing vendor product options.textLimit),
        { h with
          log := h.log ++ (h.bus.shown vendor product).map description ++
            [{ level := .debug
               text := s!"found {(h.bus.shown vendor product).length} device(s) matching " ++
                 s!"{Device.idText vendor product}" }] }) := by
  have henumerate : exec (Transport.enumerate vendor product) h.bus =
      (.ok ((h.bus.shown vendor product).map fun x => ({ place := x.2 } : DeviceId)), h.bus) := by
    refine (exec_enumerate vendor product h.bus).trans ?_
    rw [places_shown, visible, hbus]
    rfl
  have hlisted := @exec_mapM_describe vendor product options h _ fun _ hx => hx
  rw [Device.findAll, Attempt.exec_bind, Device.enumerate, Host.exec_call, henumerate]
  simp only [Host.mapError_ok, Attempt.exec_bind, hlisted]
  simp [listing]

end Listing

section Meeting

variable {bus : Bus} {filter : Device.Filter} {limit : ℕ}

def meeting (bus : Bus) (filter : Device.Filter) (limit : ℕ) :
    List (Device.Descriptor DeviceId) :=
  (bus.listing filter.vendor filter.product limit).filter fun e =>
    (bus.device? e.device).any fun d => Meets filter d

lemma devices_meeting (bus : Bus) (filter : Device.Filter) (limit : ℕ) :
    (bus.meeting filter limit).map Device.Descriptor.device = bus.candidates filter := by
  have hmeets : ∀ x ∈ bus.devices.zipIdx,
      ((bus.device? (entry limit x).device).any (fun d => Meets filter d) &&
        decide (x.1.disconnected = false ∧ x.1.ids.vendor = filter.vendor ∧
          x.1.ids.product = filter.product)) = decide (Meets filter x.1) := by
    rintro ⟨d, place⟩ hx
    have hd : bus.device? (entry limit (d, place)).device = some d := device?_of_mem_zipIdx hx
    rw [hd, Option.any_some, Bool.eq_iff_iff, Bool.and_eq_true, decide_eq_true_eq,
      decide_eq_true_eq]
    exact and_iff_left_of_imp fun hm => ⟨hm.connected, hm.vendor, hm.product⟩
  rw [meeting, listing, List.filter_map, shown, List.filter_filter, List.map_map, candidates]
  exact congrArg _ (List.filter_congr hmeets)

lemma exec_find_listing {options : Session.Options} {h : Host Bus}
    (hbus : h.bus.failing = false) :
    exec (Device.find options filter) h =
      ((h.bus.meeting filter limit)[filter.position]?.elim (.error .notFound)
        fun e => .ok e.device, h) := by
  have hselected : h.bus.selected? filter =
      (h.bus.meeting filter limit)[filter.position]?.map Device.Descriptor.device := by
    rw [selected?, ← devices_meeting h.bus filter limit, List.getElem?_map]
  rw [exec_find, hbus, hselected]
  cases (h.bus.meeting filter limit)[filter.position]? with
  | none => rfl
  | some e => rfl

lemma fails_iff {options : Session.Options} {h : Host Bus} (hbus : h.bus.failing = false) :
    (∃ e, (exec (Device.find options filter) h).1 = .error e ∧
        e.stage?.map Error.Stage.code = some (-3)) ↔
      (h.bus.meeting filter limit).length ≤ filter.position := by
  rw [exec_find_listing hbus, ← List.getElem?_eq_none_iff]
  cases (h.bus.meeting filter limit)[filter.position]? with
  | none => exact iff_of_true ⟨.notFound, rfl, rfl⟩ rfl
  | some e =>
    refine iff_of_false ?_ (Option.some_ne_none e)
    rintro ⟨_, hok, -⟩
    cases hok

end Meeting

section Own

variable {bus : Bus} {vendor product : UInt16} {limit : ℕ}
variable {e e' : Device.Descriptor DeviceId} {x y : Device × ℕ}

structure Whole (e : Device.Descriptor DeviceId) : Prop where
  description : ∀ l ∈ e.description, l.truncated = false
  serial : ∀ l ∈ e.serial, l.truncated = false

def own (e : Device.Descriptor DeviceId) (position : ℕ) : Device.Filter where
  vendor := e.vendor
  product := e.product
  description := e.description.map (·.text)
  serial := e.serial.map (·.text)
  position

def Agrees (e e' : Device.Descriptor DeviceId) : Prop :=
  (∀ l ∈ e.description, e'.description = some l) ∧ ∀ l ∈ e.serial, e'.serial = some l

def SameTexts (e e' : Device.Descriptor DeviceId) : Prop :=
  e'.description = e.description ∧ e'.serial = e.serial

instance (e e' : Device.Descriptor DeviceId) : Decidable (Agrees e e') :=
  inferInstanceAs (Decidable (_ ∧ _))

instance (e e' : Device.Descriptor DeviceId) : Decidable (SameTexts e e') :=
  inferInstanceAs (Decidable (_ ∧ _))

lemma SameTexts.agrees (h : SameTexts e e') : Agrees e e' :=
  ⟨fun _ hl => h.1.trans hl, fun _ hl => h.2.trans hl⟩

lemma Agrees.sameTexts (hdescription : e.description ≠ none) (hserial : e.serial ≠ none)
    (h : Agrees e e') : SameTexts e e' := by
  obtain ⟨l, hl⟩ := Option.ne_none_iff_exists'.mp hdescription
  obtain ⟨m, hm⟩ := Option.ne_none_iff_exists'.mp hserial
  exact ⟨(h.1 l hl).trans hl.symm, (h.2 m hm).trans hm.symm⟩

lemma agrees_self (e : Device.Descriptor DeviceId) : Agrees e e := ⟨fun _ => id, fun _ => id⟩

section Texts

variable {o o' : Option String}

lemma text_of_whole (ho : ∀ l ∈ o.map (Device.Label.bounded · limit), l.truncated = false) :
    (o.map (Device.Label.bounded · limit)).map Device.Label.text = o := by
  cases o with
  | none => rfl
  | some s =>
    have hflag : (Device.Label.bounded s limit).truncated = false := ho _ rfl
    have htext : (Device.Label.bounded s limit).text = s := by
      by_contra hne
      exact absurd ((Device.Label.truncated_iff s limit).mpr hne) (by rw [hflag]; decide)
    exact congrArg some htext

lemma wanted_iff (ho : ∀ l ∈ o.map (Device.Label.bounded · limit), l.truncated = false)
    (ho' : ∀ l ∈ o'.map (Device.Label.bounded · limit), l.truncated = false) :
    (∀ text, (o.map (Device.Label.bounded · limit)).map Device.Label.text = some text →
        o' = some text) ↔
      ∀ l ∈ o.map (Device.Label.bounded · limit),
        o'.map (Device.Label.bounded · limit) = some l := by
  rw [text_of_whole ho]
  constructor
  · intro hall l hl
    obtain ⟨text, rfl, rfl⟩ := Option.map_eq_some_iff.mp hl
    rw [hall text rfl]
    rfl
  · rintro hall text rfl
    have hlabel := hall _ rfl
    have htexts := congrArg (Option.map Device.Label.text) hlabel
    rw [text_of_whole ho'] at htexts
    exact htexts.trans (text_of_whole ho)

end Texts

lemma meets_own_iff (hx : x ∈ bus.shown vendor product) (hy : y ∈ bus.shown vendor product)
    (hwhole : Whole (entry limit x)) (hwhole' : Whole (entry limit y)) (position : ℕ) :
    Meets (own (entry limit x) position) y.1 ↔ Agrees (entry limit x) (entry limit y) := by
  obtain ⟨-, -, hvendor, hproduct⟩ := mem_shown.mp hx
  obtain ⟨-, hconnected, hvendor', hproduct'⟩ := mem_shown.mp hy
  have hdescription := wanted_iff hwhole.description hwhole'.description
  have hserial := wanted_iff hwhole.serial hwhole'.serial
  constructor
  · rintro ⟨-, -, -, hd, hs⟩
    exact ⟨hdescription.mp hd, hserial.mp hs⟩
  · rintro ⟨hd, hs⟩
    exact ⟨hconnected, hvendor'.trans hvendor.symm, hproduct'.trans hproduct.symm,
      hdescription.mpr hd, hserial.mpr hs⟩

variable (hwhole : ∀ e' ∈ bus.listing vendor product limit, Whole e')

include hwhole

lemma meeting_own (he : e ∈ bus.listing vendor product limit) (position : ℕ) :
    bus.meeting (own e position) limit =
      (bus.listing vendor product limit).filter fun e' => Agrees e e' := by
  obtain ⟨x, hx, rfl⟩ := List.mem_map.mp he
  obtain ⟨-, -, hvendor, hproduct⟩ := mem_shown.mp hx
  have hlisting : bus.listing (own (entry limit x) position).vendor
      (own (entry limit x) position).product limit = bus.listing vendor product limit := by
    rw [← hvendor, ← hproduct]
    rfl
  rw [meeting, hlisting]
  apply List.filter_congr
  intro e' he'
  obtain ⟨y, hy, rfl⟩ := List.mem_map.mp he'
  have hd : bus.device? (entry limit y).device = some y.1 := (mem_shown.mp hy).1
  rw [hd, Option.any_some, decide_eq_decide]
  exact meets_own_iff hx hy (hwhole _ he) (hwhole _ he') position

variable {i : ℕ}

lemma position_own_iff (hi : (bus.listing vendor product limit)[i]? = some e) (position : ℕ) :
    (bus.meeting (own e position) limit)[position]?.map Device.Descriptor.device =
        some e.device ↔
      position = ((bus.listing vendor product limit).take i).countP fun e' => Agrees e e' := by
  rw [meeting_own hwhole (List.mem_of_getElem? hi)]
  have hfound := getElem?_filter_countP (p := fun e' => decide (Agrees e e')) hi
    (decide_eq_true (agrees_self e))
  constructor
  · -- no two entries are of one device, so it is found at one position only
    intro hposition
    have hnodup : (((bus.listing vendor product limit).filter fun e' => Agrees e e').map
        Device.Descriptor.device).Nodup :=
      (nodup_listing bus vendor product limit).sublist (List.filter_sublist.map _)
    rw [← List.getElem?_map] at hposition
    have hlt := (List.getElem?_eq_some_iff.mp hposition).1
    apply (List.getElem?_inj hlt hnodup).mp
    rw [hposition, List.getElem?_map, hfound, Option.map_some]
  · rintro rfl
    rw [hfound, Option.map_some]

end Own

lemma find_own_iff {options : Session.Options} {h : Host Bus} {vendor product : UInt16}
    {limit i : ℕ} {e : Device.Descriptor DeviceId} (hbus : h.bus.failing = false)
    (hwhole : ∀ e' ∈ h.bus.listing vendor product limit, Whole e')
    (hi : (h.bus.listing vendor product limit)[i]? = some e) (position : ℕ) :
    exec (Device.find options (own e position)) h = (.ok e.device, h) ↔
      position = ((h.bus.listing vendor product limit).take i).countP fun e' => Agrees e e' := by
  have hposition : (own e position).position = position := rfl
  rw [← position_own_iff hwhole hi, @exec_find_listing _ limit _ _ hbus, hposition,
    Prod.mk.injEq, and_iff_left rfl]
  cases (h.bus.meeting (own e position) limit)[position]? with
  | none => simp
  | some e' => simp

/-- What the list says of a device finds that device when those before it are counted that agree in
every text the device has. -/
theorem search_agrees (h : Host Bus) (hbus : h.bus.failing = false) (options : Session.Options) :
    (∀ vendor product, ∃ log, exec (Device.findAll options vendor product) h =
      (.ok (h.bus.listing vendor product options.textLimit), { h with log })) ∧
    (∀ filter : Device.Filter, exec (Device.find options filter) h =
      ((h.bus.meeting filter options.textLimit)[filter.position]?.elim (.error .notFound)
        fun e => .ok e.device, h)) ∧
    (∀ filter : Device.Filter,
      (∃ e, (exec (Device.find options filter) h).1 = .error e ∧
        e.stage?.map Error.Stage.code = some (-3)) ↔
      (h.bus.meeting filter options.textLimit).length ≤ filter.position) ∧
    ∀ vendor product i e,
      let list := h.bus.listing vendor product options.textLimit
      let finds position := exec (Device.find options (own e position)) h = (.ok e.device, h)
      list[i]? = some e → (∀ e' ∈ list, Whole e') →
        finds ((list.take i).countP fun e' => Agrees e e') ∧
        (finds ((list.take i).countP fun e' => SameTexts e e') ↔
          ∀ e' ∈ list.take i, Agrees e e' → SameTexts e e') ∧
        (e.description ≠ none → e.serial ≠ none →
          finds ((list.take i).countP fun e' => SameTexts e e')) := by
  refine ⟨fun _ _ => ⟨_, exec_findAll options hbus⟩, fun _ => exec_find_listing hbus,
    fun _ => fails_iff hbus, ?_⟩
  intro vendor product i e list finds hi hwhole
  have hfinds (position : ℕ) : finds position ↔ _ := find_own_iff hbus hwhole hi position
  have hsame : finds ((list.take i).countP fun e' => SameTexts e e') ↔
      ∀ e' ∈ list.take i, Agrees e e' → SameTexts e e' := by
    have hagrees : ∀ e' ∈ list.take i, decide (SameTexts e e') = true →
        decide (Agrees e e') = true :=
      fun e' _ hs => decide_eq_true (of_decide_eq_true hs).agrees
    rw [hfinds, countP_eq_iff hagrees]
    simp only [decide_eq_true_eq]
  refine ⟨(hfinds _).mpr rfl, hsame, fun hdescription hserial => hsame.mpr ?_⟩
  intro e' _ hagrees
  exact hagrees.sameTexts hdescription hserial

section Sample

def twins : Host Bus where
  bus := { devices := [Device.ft232R "A", Device.blank 0x0403 0x6001 0x0600, Device.ft232R "A"] }

def unlabelled : Device.Descriptor DeviceId where
  vendor := 0x0403
  product := 0x6001
  manufacturer := none
  description := none
  serial := none
  device := { place := 1 }

instance (e : Device.Descriptor DeviceId) : Decidable (Whole e) :=
  decidable_of_iff ((∀ l ∈ e.description, l.truncated = false) ∧
    ∀ l ∈ e.serial, l.truncated = false) ⟨fun h => ⟨h.1, h.2⟩, fun h => ⟨h.1, h.2⟩⟩

lemma whole_twins : ∀ e ∈ twins.bus.listing 0x0403 0x6001 128, Whole e := by decide +kernel

theorem own_texts_find_other :
    (twins.bus.listing 0x0403 0x6001 128)[1]? = some unlabelled ∧
      (∀ e ∈ twins.bus.listing 0x0403 0x6001 128, Whole e) ∧
      ((twins.bus.listing 0x0403 0x6001 128).take 1).countP (SameTexts unlabelled ·) = 0 ∧
      (exec (Device.find {} (own unlabelled 0)) twins).1 = .ok { place := 0 } ∧
      unlabelled.device = { place := 1 } := by
  refine ⟨by decide +kernel, whole_twins, by decide +kernel, by decide +kernel, rfl⟩

theorem search_agrees_twins :
    twins.bus.failing = false ∧ (twins.bus.listing 0x0403 0x6001 128)[1]? = some unlabelled ∧
      (∀ e ∈ twins.bus.listing 0x0403 0x6001 128, Whole e) ∧
      exec (Device.find {} (own unlabelled 1)) twins = (.ok { place := 1 }, twins) := by
  have hi : (twins.bus.listing 0x0403 0x6001 128)[1]? = some unlabelled := by decide +kernel
  have hcount : ((twins.bus.listing 0x0403 0x6001 128).take 1).countP (Agrees unlabelled ·) = 1 :=
    by decide +kernel
  have hfinds := ((search_agrees twins rfl {}).2.2.2 0x0403 0x6001 1 unlabelled hi whole_twins).1
  exact ⟨rfl, hi, whole_twins, by rwa [hcount] at hfinds⟩

end Sample

end UsbSerial.Sim.Bus
