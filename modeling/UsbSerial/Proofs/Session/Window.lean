import UsbSerial.Proofs.Probe
import UsbSerial.Proofs.Session.Confined
import UsbSerial.Proofs.Session.Delivery
import UsbSerial.Proofs.Session.History

/-! The bit mode over a history. It is the mode selected last, and while it drives the pins, and
only then, frames are sent; a device without faults receives them with all else that is written. -/

namespace UsbSerial.Session

open Attempt (exec)
open Sim (Bus Device DeviceId Handle)

section LastMode

variable {β δ κ : Type}

def Call.mode? : Call δ → Option BitMode
  | .enableBitBang _ => some .bitBang
  | .disableBitBang => some .reset
  | .setBitMode _ mode => some mode
  | _ => none

namespace Record

def succeeds (r : Record δ κ) : Bool := r.failure?.isNone

def opens (r : Record δ κ) : Bool := r.succeeds && r.call.opens

def mode? (r : Record δ κ) : Option BitMode := if r.succeeds then r.call.mode? else none

end Record

def lastMode (records : List (Record δ κ)) : BitMode :=
  ((since Record.opens records).filterMap Record.mode?).getLast?.getD .reset

lemma lastMode_append_singleton (records : List (Record δ κ)) (r : Record δ κ) :
    lastMode (records ++ [r]) = r.mode?.getD (if r.opens then .reset else lastMode records) := by
  rw [lastMode, since_append_singleton]
  split
  · rw [← List.nil_append [r], getLast?_filterMap_append_singleton]
    cases r.mode? <;> rfl
  · rw [getLast?_filterMap_append_singleton]
    cases r.mode? <;> rfl

section Steps

variable {s t : Session κ}

lemma mode?_opened {l : Link κ} (h : s.binding = .opened l) : s.mode? = some l.mode := by
  simp [Session.mode?, link?, h]

lemma mode?_closed (h : s.binding = .closed) : s.mode? = none := by
  simp [Session.mode?, link?, h]

lemma isOpened_iff : s.state.isOpened = true ↔ ∃ mode, s.mode? = some mode := by
  cases hbinding : s.binding <;>
    simp [Session.state, Session.mode?, link?, State.isOpened, hbinding]

lemma Relinked.mode? {g : Link κ → Link κ} (h : Relinked g s t)
    (hg : ∀ l, (g l).mode = l.mode) : t.mode? = s.mode? := by
  obtain ⟨l, hl, rfl⟩ := h
  rw [mode?_opened hl, mode?_opened rfl, hg]

lemma Relinked.mode?_eq {g : Link κ → Link κ} {mode : BitMode} (h : Relinked g s t)
    (hg : ∀ l, (g l).mode = mode) : t.mode? = some mode := by
  obtain ⟨l, hl, rfl⟩ := h
  rw [mode?_opened rfl, hg]

lemma Opened.mode? (h : Opened s t) : t.mode? = some .reset := by
  obtain ⟨handle, chip, packetBytes, rfl⟩ := h
  rfl

lemma Call.Failure.mode? {c : Call δ} {e : Error} (h : c.Failure s t e) : t.mode? = s.mode? := by
  cases c with
  | purge =>
    rcases h with rfl | h
    · rfl
    · exact Relinked.mode? (s := { s with lastError := some e }) h fun _ => rfl
  | _ =>
    cases h
    rfl

lemma Call.Effect.mode? {c : Call δ} (h : c.Effect s t) (hclose : c ≠ .close) :
    t.mode? = if c.opens then some .reset else c.mode?.or s.mode? := by
  cases c with
  | findAll vendor product => exact h.2 ▸ rfl
  | openFirst vendor product => exact Opened.mode? h.2
  | openMatching filter => exact Opened.mode? h.2
  | openFound descriptor => exact Opened.mode? h.2
  | close => exact absurd rfl hclose
  | destroy =>
    obtain ⟨hclosed, rfl⟩ := h
    exact (mode?_closed hclosed).symm
  | setChannel channel => exact h.2 ▸ rfl
  | setReadTimeout timeout => exact h ▸ rfl
  | setWriteTimeout timeout => exact h ▸ rfl
  | setWriteChunk n => exact h ▸ rfl
  | reset => exact Relinked.mode? h fun _ => rfl
  | purgeReceive => exact Relinked.mode? h fun _ => rfl
  | purge => exact Relinked.mode? h fun _ => rfl
  | setBaudRate rate => exact Relinked.mode? h.2 fun _ => rfl
  | read room =>
    obtain ⟨l, leftover, hl, -, rfl⟩ := h
    exact (mode?_opened hl).symm
  | enableBitBang mask => exact Relinked.mode?_eq h.2 fun _ => rfl
  | disableBitBang => exact Relinked.mode?_eq h.2 fun _ => rfl
  | setBitMode mask mode => exact Relinked.mode?_eq h fun _ => rfl
  | _ => exact h.1 ▸ rfl

variable [Transport β δ κ] {w w' : Hosted β κ}

lemma Call.mode?_of_error {c : Call δ} {e : Error} (h : c.step w = (.error e, w')) :
    w'.session.mode? = w.session.mode? :=
  Call.Failure.mode? (Call.failure_of_error h)

lemma Call.mode?_of_ok {c : Call δ} {answer : Answer δ} (h : c.step w = (.ok answer, w'))
    (hclose : c ≠ .close) :
    w'.session.mode? = if c.opens then some .reset else c.mode?.or w.session.mode? :=
  Call.Effect.mode? (Call.effect_of_ok h) hclose

lemma Call.mode?_of_close {answer : Answer δ}
    (h : (Call.close : Call δ).step w = (.ok answer, w')) :
    w'.session.mode? = none := by
  obtain ⟨-, hclosed⟩ := Call.effect_of_ok h
  exact mode?_closed (congrArg Session.binding hclosed)

lemma Call.mode?_of_opens {c : Call δ} (h : c.opens = true) : c.mode? = none := by
  cases c with
  | openFirst vendor product => rfl
  | openMatching filter => rfl
  | openFound descriptor => rfl
  | _ => cases h

end Steps

section Runs

variable [Transport β δ κ] {w w' : Hosted β κ} {c : Call δ}

lemma Call.succeeds_of_ok {answer : Answer δ} (h : c.step w = (.ok answer, w')) :
    (c.record w).succeeds = true := by
  rw [Record.succeeds, Record.failure?, Call.record, h]
  rfl

lemma Call.succeeds_of_error {e : Error} (h : c.step w = (.error e, w')) :
    (c.record w).succeeds = false := by
  rw [Record.succeeds, Record.failure?, Call.record, h]
  rfl

lemma lastMode_step {records : List (Record δ κ)} {mode : BitMode}
    (hw : ∀ before, w.session.mode? = some before → lastMode records = before)
    (h : (c.step w).2.session.mode? = some mode) :
    lastMode (records ++ [c.record w]) = mode := by
  rw [lastMode_append_singleton]
  rcases hstep : c.step w with ⟨e | answer, w'⟩
  · rw [hstep, Call.mode?_of_error hstep] at h
    simp only [Record.mode?, Record.opens, Call.succeeds_of_error hstep, Bool.false_and,
      Bool.false_eq_true, if_false, Option.getD_none]
    exact hw mode h
  · have hopens : (c.record w).opens = c.opens := by
      rw [Record.opens, Call.succeeds_of_ok hstep]
      rfl
    have hmode : (c.record w).mode? = c.mode? := if_pos (Call.succeeds_of_ok hstep)
    rw [hopens, hmode]
    rw [hstep] at h
    -- A session that was closed has no mode to compare, and closing is no selection.
    by_cases hclose : c = .close
    · subst hclose
      rw [Call.mode?_of_close hstep] at h
      cases h
    rw [Call.mode?_of_ok hstep hclose] at h
    by_cases hopen : c.opens = true
    · rw [if_pos hopen] at h
      rw [Call.mode?_of_opens hopen, if_pos hopen]
      exact Option.some_inj.mp h
    · rw [if_neg hopen] at h
      rw [if_neg hopen]
      cases hselected : c.mode? with
      | some selected =>
        rw [hselected] at h
        exact Option.some_inj.mp h
      | none =>
        rw [hselected] at h
        exact hw mode h

lemma lastMode_run (hw : w.session.mode? = none) (calls : List (Call δ)) :
    ∀ mode, (run w calls).2.session.mode? = some mode → lastMode (history w calls) = mode := by
  induction calls using List.reverseRecOn with
  | nil =>
    intro mode h
    cases hw.symm.trans h
  | append_singleton calls c ih =>
    rw [run_append_singleton, history_append_singleton]
    exact fun mode => lastMode_step ih

end Runs

end LastMode

section Pins

variable {β δ κ α γ : Type}

lemma bus_allowed (operation : Operation) {allowed : State → Bool}
    (hdestroyed : allowed .destroyed = false) (m : Action β κ α) (w : Hosted β κ) :
    (exec (tracked do
      require operation allowed
      m) w).2.bus = if allowed w.session.state then (exec m w).2.bus else w.bus := by
  rw [bus_tracked, Attempt.exec_bind, exec_require]
  by_cases hstate : w.session.state = .destroyed
  · rw [if_pos hstate, hstate, hdestroyed, if_neg Bool.false_ne_true]
  · rw [if_neg hstate]
    by_cases hallowed : allowed w.session.state = true
    · rw [if_pos hallowed, if_pos hallowed]
    · rw [if_neg hallowed, if_neg hallowed]

lemma drivesPins_iff {s : Session κ} : s.state.drivesPins = true ↔
    s.mode? = some .bitBang ∨ s.mode? = some .syncBitBang := by
  cases hbinding : s.binding with
  | opened l =>
    cases hmode : l.mode <;>
      simp [Session.state, Session.mode?, link?, State.drivesPins, BitMode.drivesPins, hbinding,
        hmode]
  | _ => simp [Session.state, Session.mode?, link?, State.drivesPins, hbinding]

lemma opened_reset_iff {s : Session κ} : s.state = .opened .reset ↔ s.mode? = some .reset := by
  cases hbinding : s.binding <;> simp [Session.state, Session.mode?, link?, hbinding]

def Sees (m : Action (Probe β) κ α) (w : Hosted (Probe β) κ) (seen : List Probe.Seen) : Prop :=
  (exec m w).2.bus.seen = w.bus.seen ++ seen

variable {m : Action (Probe β) κ α} {w : Hosted (Probe β) κ} {seen : List Probe.Seen}

lemma Sees.then {f : α → Action (Probe β) κ γ} (h : Sees m w seen)
    (hf : ∀ a v, (exec (f a) v).2.bus = v.bus) : Sees (m >>= f) w seen := by
  rw [Sees, ← h, Attempt.exec_bind]
  rcases exec m w with ⟨e | a, v⟩
  · rfl
  · exact congrArg Probe.seen (hf a v)

lemma Sees.allowed {operation : Operation} {allowed : State → Bool} {P : Prop} [Decidable P]
    (hallowed : ∀ state, allowed state = true → state.isOpened = true)
    (hP : allowed w.session.state = true ↔ P)
    (h : w.session.state.isOpened = true → Sees m w seen) :
    Sees (tracked do
      require operation allowed
      m) w (if P then seen else []) := by
  have hdestroyed : allowed .destroyed = false := by
    rw [← Bool.not_eq_true]
    intro h
    cases hallowed _ h
  rw [Sees, bus_allowed operation hdestroyed]
  by_cases hstate : allowed w.session.state = true
  · rw [if_pos hstate, if_pos (hP.mp hstate)]
    exact h (hallowed _ hstate)
  · rw [if_neg hstate, if_neg fun hp => hstate (hP.mpr hp), List.append_nil]

variable [Transport β δ κ]

lemma sees_bulkOut (h : w.session.state.isOpened = true) (operation : Operation)
    (data : List UInt8) :
    Sees (bulkOut operation data) w [.bulkOut w.session.options.channel.outEndpoint data.length
      w.session.options.writeTimeout] := by
  obtain ⟨link, hl⟩ := state_isOpened h
  obtain ⟨log, hexec⟩ := exec_bulkOut hl operation data
  rw [Sees, hexec]
  exact Probe.seen_bulkOut _ _ _ _ _

lemma sees_programBitMode (h : w.session.state.isOpened = true) (operation : Operation)
    (mask : UInt8) (mode : BitMode) :
    Sees (programBitMode operation mask mode) w [.controlOut Request.bitMode.code
      (Word.ofBytes mask mode.code) w.session.options.channel.index
      w.session.options.writeTimeout] := by
  obtain ⟨link, hl⟩ := state_isOpened h
  obtain ⟨log, hexec⟩ := exec_controlOut hl operation .bitMode (Word.ofBytes mask mode.code)
    w.session.options.channel.index
  have hrequest : Sees (controlOut operation .bitMode (Word.ofBytes mask mode.code)
      w.session.options.channel.index) w [.controlOut Request.bitMode.code
        (Word.ofBytes mask mode.code) w.session.options.channel.index
        w.session.options.writeTimeout] := by
    rw [Sees, hexec]
    exact Probe.seen_controlOut _ _ _ _ _ _
  have hindex (f : UInt16 → Action (Probe β) κ Unit) :
      exec (channelIndex >>= f) w = exec (f w.session.options.channel.index) w := by
    rw [Attempt.exec_bind, exec_channelIndex]
  rw [Sees, programBitMode, hindex]
  exact hrequest.then fun _ v => by simp [modifyLink]

/-- Frames are sent in the modes that drive the pins, and in no other. Bit-bang is entered from the
serial line, and left from those modes. -/
structure Windowed (w : Hosted (Probe β) κ) : Prop where
  frame : ∀ frame, Sees (writeBitBang frame) w
    (if w.session.mode? = some .bitBang ∨ w.session.mode? = some .syncBitBang then
      [.bulkOut w.session.options.channel.outEndpoint 1 w.session.options.writeTimeout]
    else [])
  enter : ∀ mask, Sees (enableBitBang mask) w
    (if w.session.mode? = some .reset then
      [.controlOut Request.bitMode.code (Word.ofBytes mask BitMode.bitBang.code)
        w.session.options.channel.index w.session.options.writeTimeout]
    else [])
  leave : Sees disableBitBang w
    (if w.session.mode? = some .bitBang ∨ w.session.mode? = some .syncBitBang then
      [.controlOut Request.bitMode.code (Word.ofBytes 0 BitMode.reset.code)
        w.session.options.channel.index w.session.options.writeTimeout]
    else [])

lemma windowed (w : Hosted (Probe β) κ) : Windowed w where
  frame frame := by
    apply Sees.allowed drivesPins_isOpened drivesPins_iff
    intro hopened
    apply (sees_bulkOut hopened .writeBitBang [frame]).then
    intro n v
    split <;> rfl
  enter mask := by
    refine Sees.allowed ?_ (decide_eq_true_iff.trans opened_reset_iff) fun hopened =>
      sees_programBitMode hopened _ _ _
    intro state hstate
    rw [of_decide_eq_true hstate]
    rfl
  leave :=
    Sees.allowed drivesPins_isOpened drivesPins_iff fun hopened => sees_programBitMode hopened _ _ _

end Pins

section Written

variable {w : Hosted Bus Handle} {link : Link Handle} {d d' : Device} {id : DeviceId}
  {bytes : List UInt8}

def Got (w : Hosted Bus Handle) (id : DeviceId) (bytes : List UInt8) : Prop :=
  ∃ d, w.bus.device? id = some d ∧ Faultless d ∧ d.written = bytes

lemma Got.bulkOut (hl : w.session.binding = .opened link) (h : Got w link.handle.device bytes)
    (operation : Operation) (data : List UInt8) :
    ∃ w', exec (bulkOut operation data) w = (.ok data.length, w') ∧
      Got w' link.handle.device (bytes ++ data) := by
  obtain ⟨d, hd, hfaultless, rfl⟩ := h
  obtain ⟨r, w', d', taken, hexec, -, hbus, htook, -, hresult⟩ :=
    bulkOut_outcome hl hd operation data
  obtain ⟨hfaultless', rfl, rfl⟩ := hresult hfaultless
  refine ⟨w', hexec, d', ?_, hfaultless', htook.written⟩
  rw [hbus, Bus.device?_put w.bus hd]

def Call.payload {δ : Type} : Call δ → List UInt8
  | .write data => data
  | .writeBitBang frame => [frame]
  | _ => []

def Record.sent (id : DeviceId) (r : Record DeviceId Handle) : List UInt8 :=
  if r.succeeds ∧ r.before.handle?.map Handle.device = some id then r.call.payload else []

variable {c : Call DeviceId}

lemma Got.write (hl : w.session.binding = .opened link) (h : Got w link.handle.device bytes)
    (data : List UInt8) :
    ∃ w', (Call.write data).step w = (.ok (.count data.length), w') ∧
      Got w' link.handle.device (bytes ++ data) := by
  obtain ⟨d, hd, hfaultless, rfl⟩ := h
  obtain ⟨r, w', d', taken, hexec, hbus, htook, -, hresult⟩ := exec_write hl hd data
  obtain ⟨hfaultless', rfl, rfl⟩ := hresult hfaultless
  refine ⟨w', ?_, d', ?_, hfaultless', htook.written⟩
  · rw [Call.step, Call.run, Attempt.exec_map, hexec]
  · rw [hbus, Bus.device?_put w.bus hd]

lemma Got.writeBitBang (hl : w.session.binding = .opened link)
    (h : Got w link.handle.device bytes) (hdrives : w.session.state.drivesPins = true)
    (frame : UInt8) :
    ∃ w', (Call.writeBitBang frame).step w = (.ok (.count 1), w') ∧
      Got w' link.handle.device (bytes ++ [frame]) := by
  have hrequire := exec_require_opened hl .writeBitBang hdrives
  obtain ⟨w', hexec, hgot⟩ := h.bulkOut hl .writeBitBang [frame]
  refine ⟨w', ?_, hgot⟩
  simp [Call.step, Call.run, Session.writeBitBang, exec_tracked, hrequire, hexec]

lemma Call.unbound (hc : c.exchanges = true)
    (hid : w.session.handle?.map Handle.device ≠ some id) :
    (c.step w).2.bus.device? id = w.bus.device? id := by
  -- A session does nothing to a device that it is not opened for, unless it opens it.
  have hwithin : Within (· ≠ id) w.session := by
    rintro h hh rfl
    exact hid (by rw [hh, Option.map_some])
  exact ((c.orderly hc fun _ hu => hu).confined hwithin).other id fun h => h rfl

lemma Change.got {allowed : Use → Prop} (hbulk : ¬ allowed .bulkOut) (h : Change allowed d d')
    (hd : Faultless d ∧ d.written = bytes) : Faultless d' ∧ d'.written = bytes := by
  obtain ⟨⟨hconnected, hsucceeding, hwhole⟩, rfl⟩ := hd
  cases h with
  | failed n hn =>
    rw [hsucceeding] at hn
    exact ⟨⟨hconnected, Nat.le_zero.mp hn, hwhole⟩, rfl⟩
  | obeyed request value index _ =>
    obtain ⟨_, _, _, _, _, _, hobeyed⟩ := Device.obey_eq
      { d with controls := d.controls ++ [{ request := request.code, value, index }] }
      { request := request.code, value, index }
    rw [hobeyed]
    exact ⟨⟨hconnected, hsucceeding, hwhole⟩, rfl⟩
  | wrote data hallowed => exact absurd hallowed hbulk
  | _ => exact ⟨⟨hconnected, hsucceeding, hwhole⟩, rfl⟩

lemma sent_of_ok {w' : Hosted Bus Handle} {answer : Answer DeviceId}
    (hid : w.session.handle?.map Handle.device = some id) (h : c.step w = (.ok answer, w')) :
    (c.record w).sent id = c.payload :=
  if_pos ⟨Call.succeeds_of_ok h, hid⟩

lemma Got.silent (h : Got w id bytes) (hbulk : ¬ c.uses .bulkOut) (hpayload : c.payload = []) :
    Got (c.step w).2 id (bytes ++ (c.record w).sent id) := by
  have hsent : (c.record w).sent id = [] := by
    rw [Record.sent]
    split
    · exact hpayload
    · rfl
  rw [hsent, List.append_nil]
  exact c.keeps (fun _ _ hchange => hchange.got hbulk) w id h

lemma Got.unbound (h : Got w id bytes) (hc : c.exchanges = true)
    (hid : w.session.handle?.map Handle.device ≠ some id) :
    Got (c.step w).2 id (bytes ++ (c.record w).sent id) := by
  have hsent : (c.record w).sent id = [] := if_neg fun hboth => hid hboth.2
  rw [hsent, List.append_nil]
  obtain ⟨d, hd, hgot⟩ := h
  exact ⟨d, (Call.unbound hc hid).trans hd, hgot⟩

lemma opened_of_device (h : w.session.handle?.map Handle.device = some id) :
    ∃ link, w.session.binding = .opened link ∧ link.handle.device = id := by
  cases hbinding : w.session.binding with
  | opened link =>
    rw [handle?_opened hbinding, Option.map_some] at h
    exact ⟨link, rfl, Option.some_inj.mp h⟩
  | _ =>
    rw [handle?_not_opened (by simp [hbinding])] at h
    cases h

lemma Got.step (h : Got w id bytes) (c : Call DeviceId) :
    Got (c.step w).2 id (bytes ++ (c.record w).sent id) := by
  cases c with
  | write data =>
    by_cases hid : w.session.handle?.map Handle.device = some id
    · obtain ⟨link, hl, rfl⟩ := opened_of_device hid
      obtain ⟨w', hstep, hgot⟩ := h.write hl data
      rw [sent_of_ok hid hstep, hstep]
      exact hgot
    · exact h.unbound rfl hid
  | writeBitBang frame =>
    by_cases hid : w.session.handle?.map Handle.device = some id
    · obtain ⟨link, hl, rfl⟩ := opened_of_device hid
      by_cases hdrives : w.session.state.drivesPins = true
      · obtain ⟨w', hstep, hgot⟩ := h.writeBitBang hl hdrives frame
        rw [sent_of_ok hid hstep, hstep]
        exact hgot
      · -- Refused before the bus is asked, so neither the device nor what it was sent moves.
        obtain ⟨log, hexec⟩ : Rejects (Call.writeBitBang frame : Call DeviceId).run w
            (refusal .writeBitBang w.session.state) :=
          ((refuses_require (.inr (by simpa using hdrives))).bind _).tracked.map _
        have hstep : (Call.writeBitBang frame).step w = (.error _, _) := hexec
        have hsent : ((Call.writeBitBang frame).record w).sent link.handle.device = [] := by
          simp [Record.sent, Call.succeeds_of_error hstep]
        rw [hsent, List.append_nil, hstep]
        exact h
    · exact h.unbound rfl hid
  | _ => exact h.silent (by simp [Call.uses, Use.opens]) rfl

lemma Got.run (h : Got w id bytes) (calls : List (Call DeviceId)) :
    Got (run w calls).2 id (bytes ++ (history w calls).flatMap (Record.sent id)) := by
  induction calls generalizing w bytes with
  | nil => rwa [history, List.flatMap_nil, List.append_nil]
  | cons c calls ih =>
    rw [history, List.flatMap_cons, ← List.append_assoc]
    exact ih (h.step c)

end Written

variable {β δ κ : Type}

/-- While a session is opened, its mode is the one last selected since it was opened, or the serial
line's, and frames are sent in the modes that drive the pins only. -/
theorem mode_windowed [Transport β δ κ] {o : Options} {s : Session κ} (hs : create o = .ok s)
    (host : Host β) (calls : List (Call δ)) {w : Hosted β κ}
    (hw : (run { host with session := s } calls).2 = w) :
    (w.session.state.isOpened = true →
      w.session.mode? = some (lastMode (history { host with session := s } calls))) ∧
    (∀ (c : Call δ) (e : Error) (w' : Hosted β κ), c.step w = (.error e, w') →
      w'.session.mode? = w.session.mode?) ∧
    (∀ (c : Call δ) (answer : Answer δ) (w' : Hosted β κ), c.mode? = none → c.opens = false →
      c ≠ .close → c.step w = (.ok answer, w') → w'.session.mode? = w.session.mode?) ∧
    (∀ bus : Probe β, Windowed { bus, log := w.log, session := w.session }) ∧
    ∀ (u : Hosted Bus Handle) (more : List (Call DeviceId)) (id : DeviceId) (d : Device),
      u.bus.device? id = some d → Faultless d →
      ∃ d', (run u more).2.bus.device? id = some d' ∧
        d'.written = d.written ++ (history u more).flatMap (Record.sent id) := by
  have hlast : ∀ mode, w.session.mode? = some mode →
      lastMode (history { host with session := s } calls) = mode :=
    hw ▸ lastMode_run (w := { host with session := s }) (mode?_closed (create_closed hs)) calls
  refine ⟨?_, fun c e w' => c.mode?_of_error, ?_, fun bus => windowed _, ?_⟩
  · intro hopened
    obtain ⟨mode, hmode⟩ := isOpened_iff.mp hopened
    rw [hlast mode hmode, hmode]
  · intro c answer w' hmode hopens hclose hstep
    rw [c.mode?_of_ok hstep hclose, hopens, if_neg Bool.false_ne_true, hmode, Option.none_or]
  · intro u more id d hd hfaultless
    obtain ⟨d', hd', -, hwritten⟩ := Got.run ⟨d, hd, hfaultless, rfl⟩ more
    exact ⟨d', hd', hwritten⟩

section Sample

def sampleBanged : List (Call DeviceId) :=
  [.openFirst 0x0403 0x6001, .enableBitBang 0xFF, .enableBitBang 0x0F, .writeBitBang 0x3C]

def sampleLeft : List (Call DeviceId) :=
  sampleBanged ++ [.disableBitBang, .writeBitBang 0xC3, .write [1, 2]]

theorem mode_windowed_sample :
    let w := (run sampleStart sampleBanged).2
    let v : Hosted (Probe Bus) Handle :=
      { bus := { bus := w.bus }, log := w.log, session := w.session }
    w.session.mode? = some .bitBang ∧
      (∃ e w', (Call.enableBitBang 0xFF : Call DeviceId).step w = (.error e, w') ∧
        w'.session.mode? = w.session.mode?) ∧
      (∃ w', (Call.readPins : Call DeviceId).step w = (.ok (.byte 0x3C), w') ∧
        w'.session.mode? = w.session.mode?) ∧
      Sees (writeBitBang 0xC3) v [.bulkOut 0x02 1 (.ofSeconds 5)] ∧
      ∃ d', (run sampleStart sampleLeft).2.bus.device? { place := 0 } = some d' ∧
        d'.written = [0x3C, 1, 2] := by
  intro w v
  obtain ⟨hlast, hfails, hsucceeds, hprobed, hwritten⟩ :=
    mode_windowed sampleStart_created sampleStart.toHost sampleBanged (w := w) rfl
  have hmode : w.session.mode? = some .bitBang :=
    (hlast (by decide +kernel)).trans (by decide +kernel)
  have hrefused : (Call.enableBitBang 0xFF : Call DeviceId).step w =
      (.error (.invalidState .enableBitBang (.opened .bitBang)), _) :=
    Prod.ext (by decide +kernel) rfl
  have hread : (Call.readPins : Call DeviceId).step w = (.ok (.byte 0x3C), _) :=
    Prod.ext (by decide +kernel) rfl
  have hframe := (hprobed { bus := w.bus }).frame 0xC3
  rw [if_pos (.inl hmode)] at hframe
  have hsent : (Receive.sampleDevice 0 []).written ++
      (history sampleStart sampleLeft).flatMap (Record.sent { place := 0 }) = [0x3C, 1, 2] := by
    decide +kernel
  obtain ⟨d', hd', hbytes⟩ := hwritten sampleStart sampleLeft { place := 0 }
    (Receive.sampleDevice 0 []) rfl ⟨rfl, rfl, rfl⟩
  refine ⟨hmode, ⟨_, _, hrefused, hfails _ _ _ hrefused⟩,
    ⟨_, hread, hsucceeds .readPins _ _ rfl rfl nofun hread⟩, ?_, d', hd', hbytes.trans hsent⟩
  have hseen : [Probe.Seen.bulkOut w.session.options.channel.outEndpoint 1
      w.session.options.writeTimeout] = [.bulkOut 0x02 1 (.ofSeconds 5)] := by decide +kernel
  rw [hseen] at hframe
  exact hframe

end Sample

end UsbSerial.Session
