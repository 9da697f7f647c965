import Mathlib.Data.List.Induction
import UsbSerial.Proofs.Session.Mode

namespace UsbSerial.Session

open Attempt (exec)
open Sim (Bus DeviceId Handle)

section Since

variable {α γ : Type} {p : α → Bool}

def since (p : α → Bool) : List α → List α
  | [] => []
  | a :: as => if as.any p then since p as else a :: as

lemma since_append_cons {a : α} (ha : p a = true) {as : List α} (h : as.any p = false)
    (before : List α) : since p (before ++ a :: as) = a :: as := by
  induction before with
  | nil => rw [List.nil_append, since, if_neg (by rw [h]; exact Bool.false_ne_true)]
  | cons b before ih =>
    have hany : (before ++ a :: as).any p = true := by simp [ha]
    rw [List.cons_append, since, if_pos hany, ih]

lemma since_append_singleton (as : List α) (a : α) :
    since p (as ++ [a]) = if p a then [a] else since p as ++ [a] := by
  cases ha : p a with
  | true => rw [if_pos rfl, since_append_cons ha rfl]
  | false =>
    rw [if_neg Bool.false_ne_true]
    induction as with
    | nil => rfl
    | cons b as ih =>
      have hany : (as ++ [a]).any p = as.any p := by simp [ha]
      rw [List.cons_append, since, hany, ih, since]
      split
      · rfl
      · rfl

lemma getLast?_filterMap_append_singleton (f : α → Option γ) (as : List α) (a : α) :
    ((as ++ [a]).filterMap f).getLast? = (f a).or (as.filterMap f).getLast? := by
  cases h : f a with
  | none => simp [h]
  | some c => simp [h]

end Since

variable {β δ κ : Type}

structure Record (δ κ : Type) where
  before : Session κ
  call : Call δ
  result : Except Error (Answer δ)

namespace Record

def failure? (r : Record δ κ) : Option Error :=
  match r.result with
  | .ok _ => none
  | .error e => some e

def starts (r : Record δ κ) : Bool := r.call.opens && r.before.state = .closed

lemma starts_eq_false {r : Record δ κ} (h : r.call.opens = false) : r.starts = false := by
  rw [starts, h, Bool.false_and]

end Record

variable [Transport β δ κ]

def Call.record (c : Call δ) (w : Hosted β κ) : Record δ κ where
  before := w.session
  call := c
  result := (c.step w).1

def history (w : Hosted β κ) : List (Call δ) → List (Record δ κ)
  | [] => []
  | c :: calls => c.record w :: history (c.step w).2 calls

section Runs

lemma run_append_singleton (w : Hosted β κ) (calls : List (Call δ)) (c : Call δ) :
    (run w (calls ++ [c])).2 = (c.step (run w calls).2).2 := by
  induction calls generalizing w with
  | nil => rfl
  | cons c' calls ih => exact ih _

lemma history_append_singleton (w : Hosted β κ) (calls : List (Call δ)) (c : Call δ) :
    history w (calls ++ [c]) = history w calls ++ [c.record (run w calls).2] := by
  induction calls generalizing w with
  | nil => rfl
  | cons c' calls ih => exact congrArg (c'.record w :: ·) (ih _)

end Runs

section LastError

variable {s t : Session κ} {w : Hosted β κ}

def lastFailure (records : List (Record δ κ)) : Option Error :=
  ((since Record.starts records).filterMap Record.failure?).getLast?

lemma lastFailure_append_singleton (records : List (Record δ κ)) (r : Record δ κ) :
    lastFailure (records ++ [r]) =
      r.failure?.or (if r.starts then none else lastFailure records) := by
  rw [lastFailure, since_append_singleton]
  split
  · exact getLast?_filterMap_append_singleton _ [] r
  · exact getLast?_filterMap_append_singleton _ _ r

lemma Call.Failure.lastError {c : Call δ} {e : Error} (h : c.Failure s t e) :
    t.lastError = some e := by
  cases c with
  | purge =>
    rcases h with rfl | ⟨l, -, rfl⟩
    · rfl
    · rfl
  | _ =>
    cases h
    rfl

lemma Relinked.lastError {g : Link κ → Link κ} (h : Relinked g s t) :
    t.lastError = s.lastError := by
  obtain ⟨l, -, rfl⟩ := h
  rfl

lemma Call.Effect.lastError {c : Call δ} (h : c.Effect s t) :
    t.lastError = if c.opens then none else s.lastError := by
  cases c with
  | openFirst vendor product =>
    obtain ⟨-, handle, chip, packetBytes, rfl⟩ := h
    rfl
  | openMatching filter =>
    obtain ⟨-, handle, chip, packetBytes, rfl⟩ := h
    rfl
  | openFound descriptor =>
    obtain ⟨-, handle, chip, packetBytes, rfl⟩ := h
    rfl
  | findAll vendor product => exact h.2 ▸ rfl
  | close => exact h.2 ▸ rfl
  | destroy => exact h.2 ▸ rfl
  | setChannel channel => exact h.2 ▸ rfl
  | setReadTimeout timeout => exact h ▸ rfl
  | setWriteTimeout timeout => exact h ▸ rfl
  | setWriteChunk n => exact h ▸ rfl
  | reset => exact Relinked.lastError h
  | purgeReceive => exact Relinked.lastError h
  | purge => exact Relinked.lastError h
  | setBaudRate rate => exact Relinked.lastError h.2
  | read room =>
    obtain ⟨l, leftover, -, -, rfl⟩ := h
    rfl
  | enableBitBang mask => exact Relinked.lastError h.2
  | disableBitBang => exact Relinked.lastError h.2
  | setBitMode mask mode => exact Relinked.lastError h
  | _ => exact h.1 ▸ rfl

lemma Call.Effect.closed {c : Call δ} (h : c.Effect s t) (hopens : c.opens = true) :
    s.binding = .closed := by
  cases c with
  | openFirst vendor product => exact h.1
  | openMatching filter => exact h.1
  | openFound descriptor => exact h.1
  | _ => cases hopens

lemma Call.lastError_of_error {c : Call δ} {w' : Hosted β κ} {e : Error}
    (h : c.step w = (.error e, w')) : w'.session.lastError = some e :=
  Call.Failure.lastError (Call.failure_of_error h)

lemma Call.lastError_of_ok {c : Call δ} {w' : Hosted β κ} {answer : Answer δ}
    (h : c.step w = (.ok answer, w')) :
    w'.session.lastError = if c.opens then none else w.session.lastError :=
  Call.Effect.lastError (Call.effect_of_ok h)

lemma Call.closed_of_ok {c : Call δ} {w' : Hosted β κ} {answer : Answer δ}
    (h : c.step w = (.ok answer, w')) (hopens : c.opens = true) : w.session.binding = .closed :=
  Call.Effect.closed (Call.effect_of_ok h) hopens

lemma Call.starts_of_ok {c : Call δ} {w' : Hosted β κ} {answer : Answer δ}
    (h : c.step w = (.ok answer, w')) : (c.record w).starts = c.opens := by
  cases hopens : c.opens with
  | false => exact Record.starts_eq_false hopens
  | true =>
    have hclosed := Call.closed_of_ok h hopens
    simp [Record.starts, Call.record, hopens, Session.state, hclosed]

lemma lastError_run (hs : w.session.lastError = none) (calls : List (Call δ)) :
    (run w calls).2.session.lastError = lastFailure (history w calls) := by
  induction calls using List.reverseRecOn with
  | nil => exact hs
  | append_singleton calls c ih =>
    rw [run_append_singleton, history_append_singleton, lastFailure_append_singleton, ← ih]
    rcases hstep : c.step (run w calls).2 with ⟨e | answer, w'⟩
    · rw [Call.lastError_of_error hstep]
      simp only [Call.record, Record.failure?, hstep, Option.some_or]
    · rw [Call.lastError_of_ok hstep]
      rw [Call.starts_of_ok hstep]
      simp only [Call.record, Record.failure?, hstep, Option.none_or]

lemma Call.exec_setter {c : Call δ} (hc : c.window = none) (w : Hosted β κ) :
    ∃ w', c.step w = (.ok .done, w') ∧ w'.session.lastError = w.session.lastError := by
  cases c with
  | setReadTimeout timeout => exact ⟨_, Prod.ext rfl rfl, rfl⟩
  | setWriteTimeout timeout => exact ⟨_, Prod.ext rfl rfl, rfl⟩
  | setWriteChunk n => exact ⟨_, Prod.ext rfl rfl, rfl⟩
  | _ => cases hc

lemma Call.rejects_opened {c : Call δ} (hc : c.opens = true)
    (hstate : w.session.state.isOpened = true) :
    Rejects c.run w (.invalidState .openDevice w.session.state) := by
  obtain ⟨l, hl⟩ := state_isOpened hstate
  have hnotClosed : decide (w.session.state = .closed) = false := by simp [Session.state, hl]
  have hrefusal : Session.refusal .openDevice w.session.state =
      .invalidState .openDevice w.session.state := by
    rw [Session.state, hl]
    rfl
  rw [← hrefusal]
  cases c with
  | openFirst vendor product => exact (rejects_beginOpening hnotClosed _).done
  | openMatching filter => exact (rejects_beginOpening hnotClosed _).done
  | openFound descriptor => exact (rejects_beginOpening hnotClosed _).done
  | _ => cases hc

end LastError

/-- The last error is that of the last call that failed since an attempt was made to open the closed
session, that attempt included. -/
theorem lastError_followed {o : Options} {s : Session κ} (hs : create o = .ok s) (host : Host β)
    (calls : List (Call δ)) {w : Hosted β κ} (hw : (run { host with session := s } calls).2 = w) :
    (w.session.lastCode =
      ((lastFailure (history { host with session := s } calls)).map Error.code).getD 0) ∧
    (w.session.lastText =
      ((lastFailure (history { host with session := s } calls)).map Error.text).getD "") ∧
    (∀ (c : Call δ) (answer : Answer δ) (w' : Hosted β κ), (c.record w).starts = false →
      c.step w = (.ok answer, w') → w'.session.lastError = w.session.lastError) ∧
    (∀ c : Call δ, c.window = none →
      ∃ w', c.step w = (.ok .done, w') ∧ w'.session.lastError = w.session.lastError) ∧
    ∀ c : Call δ, c.opens = true → w.session.state.isOpened = true →
      ∃ w', c.step w = (.error (.invalidState .openDevice w.session.state), w') ∧
        w'.session.lastError = some (.invalidState .openDevice w.session.state) := by
  have hnone : s.lastError = none := by
    unfold create at hs
    split at hs
    · cases hs
    · cases hs
      rfl
  have hlast : w.session.lastError = lastFailure (history { host with session := s } calls) :=
    hw ▸ lastError_run (w := { host with session := s }) hnone calls
  refine ⟨by rw [lastCode, hlast], by rw [lastText, hlast], ?_, fun c hc => c.exec_setter hc w, ?_⟩
  · intro c answer w' hstarts hstep
    rw [Call.starts_of_ok hstep] at hstarts
    rw [Call.lastError_of_ok hstep, hstarts, if_neg Bool.false_ne_true]
  · intro c hopens hstate
    obtain ⟨log, hexec⟩ := Call.rejects_opened hopens hstate
    exact ⟨_, hexec, rfl⟩

section Sample

def sampleFailing : List (Call DeviceId) :=
  [.openFirst 0x0403 0x6001, .readWord 0x80, .openFirst 0x0403 0x6001]

def sampleReopened : List (Call DeviceId) := sampleFailing ++ [.close, .openFirst 0x0403 0x6001]

theorem lastError_followed_sample :
    let w := (run sampleStart sampleFailing).2
    w.session.lastCode = -5 ∧
      (run sampleStart sampleReopened).2.session.lastText = "" ∧
      (∃ w', (Call.readPins : Call DeviceId).step w = (.ok (.byte 0), w') ∧
        w'.session.lastError = w.session.lastError) ∧
      (∃ w', (Call.setWriteChunk 0 : Call DeviceId).step w = (.ok .done, w') ∧
        w'.session.lastError = w.session.lastError) ∧
      ∃ w', (Call.openFirst 0x0403 0x6001 : Call DeviceId).step w =
          (.error (.invalidState .openDevice (.opened .reset)), w') ∧
        w'.session.lastError = some (.invalidState .openDevice (.opened .reset)) := by
  intro w
  obtain ⟨hcode, -, hsuccess, hsetter, hopened⟩ :=
    lastError_followed sampleStart_created sampleStart.toHost sampleFailing (w := w) rfl
  obtain ⟨-, htext, -⟩ := lastError_followed sampleStart_created sampleStart.toHost
    sampleReopened (w := (run sampleStart sampleReopened).2) rfl
  have hstate : w.session.state = .opened .reset := by decide +kernel
  have hread : (Call.readPins : Call DeviceId).step w = (.ok (.byte 0), _) :=
    Prod.ext (by decide +kernel) rfl
  refine ⟨hcode.trans (by decide +kernel), htext.trans (by decide +kernel), ⟨_, hread, ?_⟩,
    hsetter (.setWriteChunk 0) rfl, ?_⟩
  · exact hsuccess .readPins _ _ (Record.starts_eq_false rfl) hread
  · rw [← hstate]
    exact hopened (.openFirst 0x0403 0x6001) rfl (by rw [hstate]; rfl)

end Sample

end UsbSerial.Session
