import UsbSerial.Proofs.Session.Action
import UsbSerial.Session.Call
import UsbSerial.Sim.Bus

namespace UsbSerial.Session

open Attempt (exec)

variable {β δ κ α γ : Type}

def refusal (operation : Operation) : State → Error
  | .destroyed => .destroyed
  | state => .invalidState operation state

def Refuses (m : Action β κ α) (w : Hosted β κ) (e : Error) : Prop :=
  ∃ log, exec m w = (.error e, { w with log })

def Rejects (m : Action β κ α) (w : Hosted β κ) (e : Error) : Prop :=
  ∃ log, exec m w = (.error e, { w with log, session.lastError := some e })

section Rules

variable {w : Hosted β κ} {e : Error} {operation : Operation}

lemma Refuses.bind {m : Action β κ α} (h : Refuses m w e) (f : α → Action β κ γ) :
    Refuses (m >>= f) w e := by
  obtain ⟨log, hexec⟩ := h
  exact ⟨log, by rw [Attempt.exec_bind, hexec]⟩

lemma Refuses.tracked {m : Action β κ α} (h : Refuses m w e) : Rejects (tracked m) w e := by
  obtain ⟨log, hexec⟩ := h
  exact ⟨_, by rw [exec_tracked, hexec]⟩

lemma Rejects.bind {m : Action β κ α} (h : Rejects m w e) (f : α → Action β κ γ) :
    Rejects (m >>= f) w e := by
  obtain ⟨log, hexec⟩ := h
  exact ⟨log, by rw [Attempt.exec_bind, hexec]⟩

lemma Rejects.map {m : Action β κ α} (h : Rejects m w e) (f : α → γ) : Rejects (f <$> m) w e := by
  obtain ⟨log, hexec⟩ := h
  exact ⟨log, by rw [Attempt.exec_map, hexec]⟩

lemma Rejects.done {m : Action β κ Unit} (h : Rejects m w e) :
    Rejects (Call.run.done m : Action β κ (Answer δ)) w e :=
  h.bind _

lemma refuses_require {allowed : State → Bool}
    (h : w.session.state = .destroyed ∨ allowed w.session.state = false) :
    Refuses (require operation allowed) w (refusal operation w.session.state) := by
  refine ⟨w.log, ?_⟩
  rw [exec_require]
  by_cases hdestroyed : w.session.state = .destroyed
  · rw [if_pos hdestroyed, hdestroyed]
    rfl
  · have hallowed : ¬ allowed w.session.state = true := by
      simpa using h.resolve_left hdestroyed
    rw [if_neg hdestroyed, if_neg hallowed, refusal]
    exact hdestroyed

lemma exec_link_refused (h : w.session.state.isOpened = false) :
    exec (link operation) w = (.error (refusal operation w.session.state), w) := by
  rw [exec_link]
  cases hbinding : w.session.binding with
  | closed => simp only [Session.state, hbinding, refusal]
  | opened link => simp [Session.state, hbinding, State.isOpened] at h
  | destroyed => simp only [Session.state, hbinding, refusal]

lemma refuses_link (h : w.session.state.isOpened = false) :
    Refuses (link operation) w (refusal operation w.session.state) :=
  ⟨w.log, exec_link_refused h⟩

variable [Transport β δ κ]

lemma rejects_request (h : w.session.state.isOpened = false) (request : Request)
    (value : UInt16) (index : UInt16 → UInt16) :
    Rejects (tracked do controlOut operation request value (index (← channelIndex))) w
      (refusal operation w.session.state) := by
  apply Refuses.tracked
  simp [Refuses, controlOut, exec_link_refused, h]

lemma rejects_query (h : w.session.state.isOpened = false) (request : Request)
    (length : UInt16) (f : Reply length.toNat → α) :
    Rejects (tracked do return f (← controlIn operation request (← channelIndex) length)) w
      (refusal operation w.session.state) :=
  Refuses.tracked ⟨w.log, by simp [controlIn, exec_link_refused, h]⟩

end Rules

section Calls

variable [Transport β δ κ]

/-- What a call is refused as, and the states it is allowed in. The setters never fail. -/
def Call.window : Call δ → Option (Operation × (State → Bool))
  | .findAll _ _ => some (.findAll, (· ≠ .destroyed))
  | .openFirst _ _ | .openMatching _ | .openFound _ => some (.openDevice, (· = .closed))
  | .close => some (.close, State.isOpened)
  | .destroy => some (.destroy, (· = .closed))
  | .setChannel _ => some (.setChannel, (· = .closed))
  | .setReadTimeout _ | .setWriteTimeout _ | .setWriteChunk _ => none
  | .reset => some (.reset, State.isOpened)
  | .purgeReceive | .purge => some (.purgeReceive, State.isOpened)
  | .purgeTransmit => some (.purgeTransmit, State.isOpened)
  | .setBaudRate _ => some (.setBaudRate, State.isOpened)
  | .setLineFormat _ => some (.setLineFormat, State.isOpened)
  | .setLatency _ => some (.setLatency, State.isOpened)
  | .latency => some (.latency, State.isOpened)
  | .setHandshake _ => some (.setHandshake, State.isOpened)
  | .setDtr _ => some (.setDtr, State.isOpened)
  | .setRts _ => some (.setRts, State.isOpened)
  | .setDtrRts _ _ => some (.setDtrRts, State.isOpened)
  | .setEventCharacter _ _ => some (.setEventCharacter, State.isOpened)
  | .setErrorCharacter _ _ => some (.setErrorCharacter, State.isOpened)
  | .modemStatus => some (.modemStatus, State.isOpened)
  | .write _ => some (.write, State.isOpened)
  | .read _ => some (.read, State.isOpened)
  | .enableBitBang _ => some (.enableBitBang, (· = .opened .reset))
  | .writeBitBang _ => some (.writeBitBang, State.drivesPins)
  | .disableBitBang => some (.disableBitBang, State.drivesPins)
  | .setBitMode _ _ => some (.setBitMode, State.isOpened)
  | .readPins => some (.readPins, State.isOpened)
  | .readChipId => some (.readChipId, State.isOpened)
  | .readWord _ => some (.readWord, State.isOpened)
  | .writeWord _ _ => some (.writeWord, State.isOpened)
  | .readEeprom => some (.readEeprom, State.isOpened)
  | .writeEeprom _ => some (.writeEeprom, State.isOpened)
  | .eraseEeprom => some (.eraseEeprom, State.isOpened)

def Call.refusal : Call δ → Operation → State → Error
  | .setLatency ms, operation, state =>
      if ms = 0 then .invalidArgument .latencyZero else Session.refusal operation state
  | _, operation, state => Session.refusal operation state

variable {w : Hosted β κ} {e : Error} {operation : Operation}

lemma rejects_beginOpening (h : decide (w.session.state = .closed) = false)
    (f : Unit → Action β κ Unit) :
    Rejects (tracked (beginOpening >>= f)) w (refusal .openDevice w.session.state) :=
  (((refuses_require (.inr h)).bind _).bind f).tracked

lemma rejects_resetEngine (h : w.session.state.isOpened = false) :
    Rejects (tracked resetEngine) w (refusal .reset w.session.state) := by
  apply Refuses.tracked
  simp [Refuses, resetEngine, controlOut, exec_link_refused, h]

lemma rejects_purgeReceive (h : w.session.state.isOpened = false) :
    Rejects purgeReceive w (refusal .purgeReceive w.session.state) := by
  apply Refuses.tracked
  simp [Refuses, controlOut, exec_link_refused, h]

lemma rejects_setLatency (h : w.session.state.isOpened = false) (ms : UInt8) :
    Rejects (setLatency ms) w
      (if ms = 0 then .invalidArgument .latencyZero else refusal .setLatency w.session.state) := by
  apply Refuses.tracked
  by_cases hzero : ms = 0
  · rw [if_pos hzero]
    exact ⟨w.log, by simp [hzero]⟩
  · rw [if_neg hzero]
    simp [Refuses, controlOut, exec_link_refused, hzero, h]

theorem Call.rejected_outside (c : Call δ) {operation : Operation} {allowed : State → Bool}
    (hwindow : c.window = some (operation, allowed)) (w : Hosted β κ)
    (hstate : allowed w.session.state = false) :
    ∃ log, c.step w = (.error (c.refusal operation w.session.state),
      { w with
        log
        session.lastError := some (c.refusal operation w.session.state) }) := by
  change Rejects c.run w _
  cases c <;> cases hwindow
  case findAll.refl =>
    have hdestroyed : w.session.state = .destroyed := by simpa using hstate
    exact ((refuses_require (.inl hdestroyed)).bind _).tracked.map _
  case openFirst.refl | openMatching.refl | openFound.refl =>
    exact (rejects_beginOpening hstate _).done
  case close.refl | destroy.refl | setChannel.refl | enableBitBang.refl | disableBitBang.refl |
      setBitMode.refl =>
    exact ((refuses_require (.inr hstate)).bind _).tracked.done
  case write.refl | read.refl | writeBitBang.refl =>
    exact ((refuses_require (.inr hstate)).bind _).tracked.map _
  case reset.refl => exact (rejects_resetEngine hstate).done
  case purgeReceive.refl => exact (rejects_purgeReceive hstate).done
  case purge.refl => exact ((rejects_purgeReceive hstate).bind _).done
  case purgeTransmit.refl | setLineFormat.refl | setDtr.refl | setRts.refl | setDtrRts.refl |
      setEventCharacter.refl | setErrorCharacter.refl =>
    exact (rejects_request hstate _ _ fun index => index).done
  case setHandshake.refl handshake =>
    exact (rejects_request hstate _ _ fun index => handshake.code ||| index).done
  case setLatency.refl ms => exact (rejects_setLatency hstate ms).done
  case setBaudRate.refl | writeEeprom.refl =>
    exact ((refuses_link hstate).bind _).tracked.done
  case latency.refl | modemStatus.refl | readPins.refl => exact (rejects_query hstate _ _ _).map _
  case readChipId.refl | readEeprom.refl | eraseEeprom.refl =>
    exact ((refuses_link hstate).bind _).tracked.map _
  case readWord.refl => exact (((refuses_link hstate).bind _).bind _).tracked.map _
  case writeWord.refl => exact (((refuses_link hstate).bind _).bind _).tracked.done

end Calls

theorem Call.rejected_outside_read :
    let w : Hosted Sim.Bus Sim.Handle := { bus := {}, session := { binding := .destroyed } }
    (Call.read 16 : Call Sim.DeviceId).window = some (.read, State.isOpened) ∧
      w.session.state.isOpened = false ∧
      ∃ log, (Call.read 16).step w =
        (.error .destroyed, { w with log, session.lastError := some .destroyed }) := by
  intro w
  exact ⟨rfl, rfl, Call.rejected_outside (.read 16) rfl w rfl⟩

theorem Call.latency_zero_slips :
    ¬ ∀ (c : Call Sim.DeviceId) (operation : Operation) (allowed : State → Bool),
      c.window = some (operation, allowed) → ∀ w : Hosted Sim.Bus Sim.Handle,
        allowed w.session.state = false →
          (c.step w).1 = .error (Session.refusal operation w.session.state) := by
  intro h
  let w : Hosted Sim.Bus Sim.Handle := { bus := {}, session := { binding := .destroyed } }
  have hrefused := h (.setLatency 0) .setLatency State.isOpened rfl w rfl
  have hresult : ((Call.setLatency 0).step w).1 = .error (.invalidArgument .latencyZero) := rfl
  rw [hresult] at hrefused
  cases hrefused

end UsbSerial.Session
