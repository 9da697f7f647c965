import Mathlib.Logic.Function.Basic
import UsbSerial.Proofs.Session.Confined
import UsbSerial.Proofs.Session.History

/-! Sessions side by side on one simulated bus. As long as they select different devices, each goes
on as if it were alone, in whatever order they take their turns. -/

namespace UsbSerial.Session

open Attempt (exec)
open Sim (Bus Device DeviceId Handle)

def selections (w : Hosted Bus Handle) : List (Call DeviceId) → List DeviceId
  | [] => []
  | c :: calls => (c.selects? w).toList ++ selections (c.step w).2 calls

structure Shared (ι : Type) extends Host Bus where
  sessions : ι → Session Handle

variable {ι : Type} [DecidableEq ι]

def callsOf (i : ι) : List (ι × Call DeviceId) → List (Call DeviceId)
  | [] => []
  | (j, c) :: turns => if j = i then c :: callsOf i turns else callsOf i turns

namespace Shared

def floor (t : Shared ι) (i : ι) : Hosted Bus Handle := { t with session := t.sessions i }

def step (t : Shared ι) (i : ι) (c : Call DeviceId) : Shared ι :=
  let w := (c.step (t.floor i)).2
  { w with sessions := Function.update t.sessions i w.session }

def play (t : Shared ι) : List (ι × Call DeviceId) → Shared ι
  | [] => t
  | (i, c) :: turns => (t.step i c).play turns

def historyOf (i : ι) (t : Shared ι) : List (ι × Call DeviceId) → List (Record DeviceId Handle)
  | [] => []
  | (j, c) :: turns =>
      (if j = i then [c.record (t.floor j)] else []) ++ historyOf i (t.step j c) turns

def selectionsOf (i : ι) (t : Shared ι) : List (ι × Call DeviceId) → List DeviceId
  | [] => []
  | (j, c) :: turns =>
      (if j = i then (c.selects? (t.floor j)).toList else []) ++ selectionsOf i (t.step j c) turns

def Apart (t : Shared ι) (turns : List (ι × Call DeviceId)) : Prop :=
  ∀ i j, i ≠ j → ∀ id ∈ t.selectionsOf i turns, id ∉ t.selectionsOf j turns

end Shared

lemma Call.record_twin {own : DeviceId → Prop} {v v' : Hosted Bus Handle} {c : Call DeviceId}
    (h : Twins own v v') (hc : ∀ id, c.selects? v = some id → own id) :
    c.record v' = c.record v := by
  rw [record, record, h.session, step, step, (Call.confined hc).result v' h]

section Tracking

variable {mine : ι → DeviceId → Prop} {start : Bus} {w : ι → Hosted Bus Handle} {t t' : Shared ι}
  {turns : List (ι × Call DeviceId)}

/-- Each session is as in `w`, where it is alone, and so are its devices; those of no session are
as they were at the start. -/
structure Tracks (mine : ι → DeviceId → Prop) (start : Bus) (w : ι → Hosted Bus Handle)
    (t : Shared ι) : Prop where
  twins : ∀ i, Twins (mine i) (w i) (t.floor i)
  visible : t.bus.visible = start.visible
  rest : ∀ id, (∀ i, ¬ mine i id) → t.bus.device? id = start.device? id

omit [DecidableEq ι] in
lemma tracks_start (t : Shared ι) : Tracks mine t.bus t.floor t where
  twins _ := ⟨rfl, rfl, fun _ _ => rfl⟩
  visible := rfl
  rest _ _ := rfl

omit [DecidableEq ι] in
lemma Tracks.bus_eq (h : Tracks mine start w t) (h' : Tracks mine start w t') : t'.bus = t.bus := by
  refine Bus.ext_device? (fun id => ?_) (h'.visible.trans h.visible.symm)
  by_cases hmine : ∃ i, mine i id
  · obtain ⟨i, hi⟩ := hmine
    exact ((h'.twins i).own id hi).trans ((h.twins i).own id hi).symm
  · have hnone : ∀ i, ¬ mine i id := fun i hi => hmine ⟨i, hi⟩
    exact (h'.rest id hnone).trans (h.rest id hnone).symm

omit [DecidableEq ι] in
lemma Tracks.sessions_eq (h : Tracks mine start w t) (h' : Tracks mine start w t') :
    t'.sessions = t.sessions :=
  funext fun i => ((h'.twins i).session).trans (h.twins i).session.symm

lemma Tracks.step (h : Tracks mine start w t)
    (hapart : ∀ i j id, i ≠ j → mine i id → ¬ mine j id) {j : ι} {c : Call DeviceId}
    (hc : ∀ id, c.selects? (w j) = some id → mine j id) :
    Tracks mine start (Function.update w j (c.step (w j)).2) (t.step j c) := by
  have halone : Confined (mine j) c.run (w j) := Call.confined hc
  have hshared : Confined (mine j) c.run (t.floor j) := by
    apply Call.confined
    rwa [Call.selects?_twin (h.twins j)]
  refine ⟨fun i => ?_, hshared.visible.trans h.visible, fun id hid => ?_⟩
  · by_cases hij : i = j
    · subst hij
      have hfloor : (t.step i c).floor i = (c.step (t.floor i)).2 := by
        simp [Shared.step, Shared.floor]
      rw [Function.update_self, hfloor]
      exact halone.twins _ (h.twins i)
    · -- The turn was another's, on devices that are not those of `i`.
      rw [Function.update_of_ne hij]
      refine ⟨?_, hshared.visible.trans (h.twins i).visible, fun id hid => ?_⟩
      · have hsession : ((t.step j c).floor i).session = (t.floor i).session :=
          Function.update_of_ne hij _ _
        exact hsession.trans (h.twins i).session
      · exact (hshared.other id (hapart i j id hij hid)).trans ((h.twins i).own id hid)
  · exact (hshared.other id (hid j)).trans (h.rest id hid)

section Turns

variable (w) (turns) (i j : ι) (c : Call DeviceId)

lemma turn_cases :
    (j = i ∧ callsOf i ((j, c) :: turns) = c :: callsOf i turns ∧
        Function.update w j (c.step (w j)).2 i = (c.step (w j)).2) ∨
      j ≠ i ∧ callsOf i ((j, c) :: turns) = callsOf i turns ∧
        Function.update w j (c.step (w j)).2 i = w i := by
  by_cases hij : j = i
  · subst hij
    exact .inl ⟨rfl, if_pos rfl, Function.update_self _ _ _⟩
  · exact .inr ⟨hij, if_neg hij, Function.update_of_ne (fun h => hij h.symm) _ _⟩

lemma run_turn :
    (run (w i) (callsOf i ((j, c) :: turns))).2 =
      (run (Function.update w j (c.step (w j)).2 i) (callsOf i turns)).2 := by
  rcases turn_cases w turns i j c with ⟨rfl, hcalls, hnext⟩ | ⟨-, hcalls, hnext⟩
  · rw [hcalls, hnext]
    rfl
  · rw [hcalls, hnext]

lemma history_turn :
    history (w i) (callsOf i ((j, c) :: turns)) = (if j = i then [c.record (w j)] else []) ++
      history (Function.update w j (c.step (w j)).2 i) (callsOf i turns) := by
  rcases turn_cases w turns i j c with ⟨rfl, hcalls, hnext⟩ | ⟨hij, hcalls, hnext⟩
  · rw [hcalls, hnext, if_pos rfl, history]
    rfl
  · rw [hcalls, hnext, if_neg hij, List.nil_append]

lemma selections_turn :
    selections (w i) (callsOf i ((j, c) :: turns)) =
      (if j = i then (c.selects? (w j)).toList else []) ++
        selections (Function.update w j (c.step (w j)).2 i) (callsOf i turns) := by
  rcases turn_cases w turns i j c with ⟨rfl, hcalls, hnext⟩ | ⟨hij, hcalls, hnext⟩
  · rw [hcalls, hnext, if_pos rfl, selections]
  · rw [hcalls, hnext, if_neg hij, List.nil_append]

end Turns

section Runs

variable (h : Tracks mine start w t) (hapart : ∀ i j id, i ≠ j → mine i id → ¬ mine j id)

include h hapart

lemma Tracks.selections_alone (hmine : ∀ i, ∀ id ∈ t.selectionsOf i turns, mine i id) :
    ∀ i, selections (w i) (callsOf i turns) = t.selectionsOf i turns := by
  induction turns generalizing w t with
  | nil => exact fun i => rfl
  | cons turn turns ih =>
    obtain ⟨j, c⟩ := turn
    have hselects : c.selects? (t.floor j) = c.selects? (w j) := Call.selects?_twin (h.twins j)
    have hown : ∀ id, c.selects? (w j) = some id → mine j id := by
      intro id hid
      apply hmine j
      simp [Shared.selectionsOf, hselects, hid]
    have hrest := ih (h.step hapart hown) fun i id hid =>
      hmine i id (List.mem_append_right _ hid)
    intro i
    rw [selections_turn, hrest i, Shared.selectionsOf, hselects]

lemma Tracks.play (hmine : ∀ i, ∀ id ∈ selections (w i) (callsOf i turns), mine i id) :
    Tracks mine start (fun i => (run (w i) (callsOf i turns)).2) (t.play turns) ∧
      ∀ i, t.historyOf i turns = history (w i) (callsOf i turns) ∧
        t.selectionsOf i turns = selections (w i) (callsOf i turns) := by
  induction turns generalizing w t with
  | nil => exact ⟨h, fun i => ⟨rfl, rfl⟩⟩
  | cons turn turns ih =>
    obtain ⟨j, c⟩ := turn
    have hown : ∀ id, c.selects? (w j) = some id → mine j id := by
      intro id hid
      apply hmine j
      simp [selections_turn, hid]
    obtain ⟨hplay, hrest⟩ := ih (h.step hapart hown) fun i id hid => hmine i id (by
      rw [selections_turn]
      exact List.mem_append_right _ hid)
    simp only [run_turn, history_turn, selections_turn]
    refine ⟨hplay, fun i => ?_⟩
    obtain ⟨hhistory, hselections⟩ := hrest i
    rw [Shared.historyOf, Shared.selectionsOf, hhistory, hselections,
      Call.record_twin (h.twins j) hown, Call.selects?_twin (h.twins j)]
    exact ⟨rfl, rfl⟩

end Runs

end Tracking

/-- Sessions that never select the same device go on as if they were alone, in whatever order they
take their turns. -/
theorem sessions_apart (t : Shared ι) {turns turns' : List (ι × Call DeviceId)}
    (hcalls : ∀ i, callsOf i turns' = callsOf i turns) (h : t.Apart turns) :
    (∀ i, t.selectionsOf i turns' = t.selectionsOf i turns ∧
      t.historyOf i turns' = t.historyOf i turns ∧
      t.historyOf i turns = history (t.floor i) (callsOf i turns)) ∧
    ((t.play turns').sessions = (t.play turns).sessions ∧
      ∀ i, (t.play turns).sessions i = (run (t.floor i) (callsOf i turns)).2.session) ∧
    (t.play turns').bus = (t.play turns).bus ∧
    ∀ (w : Hosted Bus Handle) (l : Link Handle) (c : Call DeviceId) (id : DeviceId),
      w.session.binding = .opened l → id ≠ l.handle.device →
      (c.step w).2.bus.device? id = w.bus.device? id := by
  let mine (i : ι) (id : DeviceId) : Prop := id ∈ t.selectionsOf i turns
  have hstart : Tracks mine t.bus t.floor t := tracks_start t
  have hapart : ∀ i j id, i ≠ j → mine i id → ¬ mine j id := fun i j id hij => h i j hij id
  have hselections := hstart.selections_alone hapart fun i id hid => hid
  have hmine : ∀ i, ∀ id ∈ selections (t.floor i) (callsOf i turns), mine i id := by
    intro i id hid
    rwa [hselections i] at hid
  obtain ⟨hplay, hhistory⟩ := hstart.play hapart hmine
  simp only [← hcalls] at hmine
  obtain ⟨hplay', hhistory'⟩ := hstart.play hapart hmine
  simp only [hcalls] at hplay' hhistory'
  refine ⟨fun i => ⟨?_, ?_, (hhistory i).1⟩, ⟨hplay.sessions_eq hplay', fun i => ?_⟩,
    hplay.bus_eq hplay', ?_⟩
  · exact (hhistory' i).2.trans (hhistory i).2.symm
  · exact (hhistory' i).1.trans (hhistory i).1.symm
  · exact (hplay.twins i).session
  · intro w l c id hl hid
    have hown : ∀ id', c.selects? w = some id' → id' = l.handle.device := by
      intro id' hselects
      rw [Call.selects?, hl] at hselects
      exact (Option.some_inj.mp hselects).symm
    exact (Call.confined hown).other id hid

section Sample

def sampleShared : Shared (Fin 2) where
  bus := { devices := [Receive.sampleDevice 0 [], Receive.sampleDevice 0 []] }
  sessions _ := sampleStart.session

def sampleTurns : List (Fin 2 × Call DeviceId) :=
  [(0, .openFirst 0x0403 0x6001), (1, .openMatching { position := 1 }), (0, .enableBitBang 0xFF),
    (1, .readWord 0x80), (0, .writeBitBang 3), (1, .write [1, 2]), (0, .close)]

def sampleQueued : List (Fin 2 × Call DeviceId) :=
  (callsOf 0 sampleTurns).map (0, ·) ++ (callsOf 1 sampleTurns).map (1, ·)

theorem sessions_apart_sample :
    sampleShared.Apart sampleTurns ∧
      (∀ i, sampleShared.historyOf i sampleQueued = sampleShared.historyOf i sampleTurns) ∧
      (sampleShared.play sampleQueued).sessions = (sampleShared.play sampleTurns).sessions ∧
      (sampleShared.play sampleQueued).bus = (sampleShared.play sampleTurns).bus ∧
      (sampleShared.play sampleTurns).bus.devices.map Device.written = [[3], [1, 2]] ∧
      ((Call.reset : Call DeviceId).step ((sampleShared.play sampleTurns).floor 1)).2.bus.device?
          { place := 0 } =
        (sampleShared.play sampleTurns).bus.device? { place := 0 } := by
  have hcalls : ∀ i, callsOf i sampleQueued = callsOf i sampleTurns := by decide
  have hselections : ∀ i : Fin 2,
      sampleShared.selectionsOf i sampleTurns = List.replicate (4 - i) { place := i } := by
    decide +kernel
  have hapart : sampleShared.Apart sampleTurns := by
    intro i j hij id hi hj
    rw [hselections] at hi hj
    have hplace := (List.eq_of_mem_replicate hi).symm.trans (List.eq_of_mem_replicate hj)
    exact hij (Fin.ext (congrArg DeviceId.place hplace))
  obtain ⟨hhistory, ⟨hsessions, -⟩, hbus, hlocal⟩ := sessions_apart sampleShared hcalls hapart
  have hlink : ((sampleShared.play sampleTurns).floor 1).session.link?.map
      (fun l => l.handle.device) = some { place := 1 } := by
    decide +kernel
  obtain ⟨l, hl, hdevice⟩ := Option.map_eq_some_iff.mp hlink
  refine ⟨hapart, fun i => (hhistory i).2.1, hsessions, hbus, by decide +kernel, ?_⟩
  exact hlocal _ l .reset { place := 0 } (link?_eq_some.mp hl) (by rw [hdevice]; decide)

end Sample

end UsbSerial.Session
