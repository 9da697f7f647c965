import UsbSerial.Probe
import UsbSerial.Proofs.Session.Effect
import UsbSerial.Proofs.Session.Loose
import UsbSerial.Sim.Bus

namespace UsbSerial

namespace State

inductive Next : State → State → Prop
  | stay (state : State) : Next state state
  | opened : Next .closed (.opened .reset)
  | changed (mode mode' : BitMode) : Next (.opened mode) (.opened mode')
  | closed (mode : BitMode) : Next (.opened mode) .closed
  | destroyed : Next .closed .destroyed

end State

namespace Session

open Attempt (exec)

variable {β δ κ α : Type} [Transport β δ κ] {s t : Session κ} {l : Link κ}

section Turns

def Settled (l : Link κ) : Prop :=
  l.baudRate ≠ 0 ∧ l.leftover.offset ≤ l.leftover.bytes.length

inductive Turn : Binding κ → Binding κ → Prop
  | stay (b : Binding κ) : Turn b b
  | opened (l : Link κ) : l.mode = .reset → Settled l → Turn .closed (.opened l)
  | relinked (l l' : Link κ) : (Settled l → Settled l') → Turn (.opened l) (.opened l')
  | closed (l : Link κ) : Turn (.opened l) .closed
  | destroyed : Turn .closed .destroyed

lemma Turn.next {b b' : Binding κ} (h : Turn b b') {s s' : Session κ} (hs : s.binding = b)
    (hs' : s'.binding = b') : State.Next s.state s'.state := by
  rw [Session.state, Session.state, hs, hs']
  cases h with
  | stay b => exact .stay _
  | opened l hmode _ =>
    dsimp only
    rw [hmode]
    exact .opened
  | relinked l l' _ => exact .changed l.mode l'.mode
  | closed l => exact .closed l.mode
  | destroyed => exact .destroyed

lemma Turn.settled {b b' : Binding κ} (h : Turn b b') (hb : ∀ l, b = .opened l → Settled l) :
    ∀ l, b' = .opened l → Settled l := by
  intro l' hl'
  cases h with
  | stay b => exact hb l' hl'
  | opened l _ hsettled =>
    cases hl'
    exact hsettled
  | relinked l l'' hsettled =>
    cases hl'
    exact hsettled (hb l rfl)
  | closed l => cases hl'
  | destroyed => cases hl'

end Turns

section Calls

lemma settled_opened (handle : κ) (chip : Chip) (packetBytes : ℕ) :
    Settled { handle, chip, packetBytes, baudRate := defaultBaudRate } := by
  have hbaud : defaultBaudRate ≠ 0 := by decide
  exact ⟨hbaud, Nat.le_refl 0⟩

lemma Opened.turn (h : Opened s t) (hs : s.binding = .closed) : Turn s.binding t.binding := by
  obtain ⟨handle, chip, packetBytes, rfl⟩ := h
  rw [hs]
  exact .opened _ rfl (settled_opened handle chip packetBytes)

lemma Relinked.turn {g : Link κ → Link κ} (h : Relinked g s t)
    (hg : ∀ l, Settled l → Settled (g l)) : Turn s.binding t.binding := by
  obtain ⟨l, hl, rfl⟩ := h
  rw [hl]
  exact .relinked l (g l) (hg l)

lemma Received.turn {room : ℕ} (h : Received room s t) : Turn s.binding t.binding := by
  obtain ⟨l, leftover, hl, hleftover, rfl⟩ := h
  rw [hl]
  refine .relinked l _ fun hsettled => ⟨hsettled.1, ?_⟩
  rcases hleftover with rfl | hzero
  · have hoffset := hsettled.2
    simp only [Leftover.advance, Leftover.unread, List.length_drop]
    omega
  · rw [hzero]
    exact Nat.zero_le _

lemma Call.Effect.turn {c : Call δ} (h : c.Effect s t) : Turn s.binding t.binding := by
  cases c with
  | findAll vendor product =>
    obtain ⟨-, rfl⟩ := h
    exact .stay _
  | openFirst vendor product => exact Opened.turn (s := { s with lastError := none }) h.2 h.1
  | openMatching filter => exact Opened.turn (s := { s with lastError := none }) h.2 h.1
  | openFound descriptor => exact Opened.turn (s := { s with lastError := none }) h.2 h.1
  | close =>
    obtain ⟨⟨l, hl⟩, rfl⟩ := h
    rw [hl]
    exact .closed l
  | destroy =>
    obtain ⟨hclosed, rfl⟩ := h
    rw [hclosed]
    exact .destroyed
  | setChannel channel =>
    obtain ⟨-, rfl⟩ := h
    exact .stay _
  | setReadTimeout timeout => exact h ▸ .stay _
  | setWriteTimeout timeout => exact h ▸ .stay _
  | setWriteChunk n => exact h ▸ .stay _
  | reset => exact Relinked.turn h fun l hl => ⟨hl.1, Nat.le_refl 0⟩
  | purgeReceive => exact Relinked.turn h fun l hl => ⟨hl.1, Nat.le_refl 0⟩
  | purge => exact Relinked.turn h fun l hl => ⟨hl.1, Nat.le_refl 0⟩
  | setBaudRate rate => exact Relinked.turn h.2 fun l hl => ⟨h.1, hl.2⟩
  | read room => exact Received.turn h
  | enableBitBang mask => exact Relinked.turn h.2 fun l hl => hl
  | disableBitBang => exact Relinked.turn h.2 fun l hl => hl
  | setBitMode mask mode => exact Relinked.turn h fun l hl => hl
  | _ =>
    obtain ⟨rfl, -⟩ := h
    exact .stay _

lemma Call.Failure.turn {c : Call δ} {e : Error} (h : c.Failure s t e) :
    Turn s.binding t.binding := by
  cases c with
  | purge =>
    -- It may have purged one of the two queues before it failed.
    rcases h with rfl | h
    · exact .stay _
    · have hturn := Relinked.turn h fun l hl => ⟨hl.1, Nat.le_refl 0⟩
      exact hturn
  | _ => exact h ▸ .stay _

lemma Call.turn (c : Call δ) (w : Hosted β κ) :
    Turn w.session.binding (c.step w).2.session.binding := by
  rcases hstep : c.step w with ⟨e | answer, w'⟩
  · exact Call.Failure.turn (Call.failure_of_error hstep)
  · exact Call.Effect.turn (Call.effect_of_ok hstep)

end Calls

section Runs

lemma state_destroyed : s.state = .destroyed ↔ s.binding = .destroyed := by
  cases hbinding : s.binding with
  | closed => simp [Session.state, hbinding]
  | opened l => simp [Session.state, hbinding]
  | destroyed => simp [Session.state, hbinding]

lemma run_cons (w : Hosted β κ) (c : Call δ) (calls : List (Call δ)) :
    (run w (c :: calls)).2 = (run (c.step w).2 calls).2 := rfl

lemma run_settled {w : Hosted β κ} (hw : ∀ l, w.session.binding = .opened l → Settled l)
    (calls : List (Call δ)) : ∀ l, (run w calls).2.session.binding = .opened l → Settled l := by
  induction calls generalizing w with
  | nil => exact hw
  | cons c calls ih =>
    rw [run_cons]
    exact ih ((c.turn w).settled hw)

lemma run_destroyed {w : Hosted β κ} (hw : w.session.binding = .destroyed)
    (calls : List (Call δ)) : (run w calls).2.session.binding = .destroyed := by
  induction calls generalizing w with
  | nil => exact hw
  | cons c calls ih =>
    have hturn := c.turn w
    rw [hw] at hturn
    rw [run_cons]
    apply ih
    generalize (c.step w).2.session.binding = b at hturn ⊢
    cases hturn with
    | stay => rfl

end Runs

end Session

namespace Loose

open Session (Call Settled)

variable {β δ κ : Type} {s : Session κ}

structure Sound (s : Fields κ) : Prop where
  bound : s.link.isSome = s.state.isOpened
  chip : s.chip?.isSome = s.state.isOpened
  mode : ∀ mode, s.mode? = some mode ↔ s.state = .opened mode
  packetBytes : s.packetBytes?.isSome = s.state.isOpened
  baudRate : s.baudRate = 0 ↔ s.state.isOpened = false
  offset_le : s.offset ≤ s.buffer.length
  buffer : s.state.isOpened = false → s.buffer = []

lemma sound_of_settled (h : ∀ l, s.binding = .opened l → Settled l) : Sound s.loose := by
  cases hbinding : s.binding with
  | opened l =>
    obtain ⟨hbaud, hoffset⟩ := h l hbinding
    rw [Session.loose_opened hbinding]
    constructor <;>
      simp [Fields.chip?, Fields.mode?, Fields.packetBytes?, State.isOpened, hbaud, hoffset]
  | closed =>
    rw [Session.loose_closed hbinding]
    constructor <;> simp [Fields.chip?, Fields.mode?, Fields.packetBytes?, State.isOpened]
  | destroyed =>
    rw [Session.loose_destroyed hbinding]
    constructor <;> simp [Fields.chip?, Fields.mode?, Fields.packetBytes?, State.isOpened]

lemma exists_of_create {o : Session.Options} {f : Fields κ} (hf : create o = .ok f) :
    ∃ s : Session κ, Session.create o = .ok s ∧ f = s.loose := by
  rw [create_eq] at hf
  rcases hcreate : Session.create (κ := κ) o with e | s
  · rw [hcreate] at hf
    cases hf
  · rw [hcreate] at hf
    cases hf
    exact ⟨s, rfl, rfl⟩

variable [Transport β δ κ]

/-- Whatever a bus does, the fields agree with each other after every run from the creation of a
session, and the state only moves along the edges of `State.Next`. -/
theorem lifecycle {o : Session.Options} {f : Fields κ} (hf : create o = .ok f) (host : Host β)
    (calls : List (Call δ)) :
    Sound (run { host with fields := f } calls).2.fields ∧
      (∀ c : Call δ, State.Next (run { host with fields := f } calls).2.fields.state
        (step c (run { host with fields := f } calls).2).2.fields.state) ∧
      ((run { host with fields := f } calls).2.fields.state = .destroyed →
        ∀ more : List (Call δ),
          (run (run { host with fields := f } calls).2 more).2.fields.state = .destroyed) := by
  obtain ⟨s, hs, rfl⟩ := exists_of_create hf
  have hclosed := Session.create_closed hs
  let w : Hosted β κ := { host with session := s }
  have hrun : run { host with fields := s.loose } calls = _ := run_loose w calls
  rw [hrun]
  refine ⟨sound_of_settled (Session.run_settled ?_ calls), fun c => ?_, ?_⟩
  · intro l hl
    cases hclosed.symm.trans hl
  · have hstep : step c (Session.run w calls).2.loose = _ :=
      shows_perform c (Session.run w calls).2
    rw [hstep]
    exact (c.turn _).next rfl rfl
  · intro hdestroyed more
    rw [run_loose]
    exact Session.state_destroyed.mpr
      (Session.run_destroyed (Session.state_destroyed.mp hdestroyed) more)

section Sample

def sampleFields : Fields Sim.Handle := { options := { writeChunk := 64 } }

def sampleHost : Host (Probe Sim.Bus) where
  bus :=
    { bus := { devices := [Sim.Device.blank 0x0403 0x6001 0x0600] }
      received := [[0x01, 0x60, 7, 8]]
      faults := [(.release, .disconnected)] }

def sample (calls : List (Call Sim.DeviceId)) : Kept (Probe Sim.Bus) Sim.Handle :=
  (run { sampleHost with fields := sampleFields } calls).2

def sampleService : List (Call Sim.DeviceId) :=
  [.openFirst 0x0403 0x6001, .enableBitBang 0xFF, .read 1, .setBaudRate 0]

theorem lifecycle_served :
    create sampleFields.options = .ok sampleFields ∧
      (sample sampleService).fields.state = .opened .bitBang ∧
      (sample sampleService).fields.baudRate = 9600 ∧
      (sample sampleService).fields.buffer = [8] ∧
      (sample sampleService).fields.lastCode = Error.Kind.config.code ∧
      Sound (sample sampleService).fields ∧
      (step .close (sample sampleService)).2.fields.state = .closed ∧
      State.Next (sample sampleService).fields.state
        (step .close (sample sampleService)).2.fields.state ∧
      Sound (sample (sampleService ++ [.close, .destroy])).fields ∧
      (sample (sampleService ++ [.close, .destroy])).fields.state = .destroyed ∧
      (run (sample (sampleService ++ [.close, .destroy]))
        [.openFirst 0x0403 0x6001]).2.fields.state = .destroyed := by
  have hcreate : create sampleFields.options = .ok sampleFields := rfl
  obtain ⟨hserved, hnext, -⟩ := lifecycle hcreate sampleHost sampleService
  obtain ⟨hended, -, hdestroyed⟩ :=
    lifecycle hcreate sampleHost (sampleService ++ [.close, .destroy])
  have hstate : (sample (sampleService ++ [.close, .destroy])).fields.state = .destroyed := by
    decide +kernel
  exact ⟨hcreate, by decide +kernel, by decide +kernel, by decide +kernel, by decide +kernel,
    hserved, by decide +kernel, hnext .close, hended, hstate, hdestroyed hstate _⟩

end Sample

end Loose

end UsbSerial
