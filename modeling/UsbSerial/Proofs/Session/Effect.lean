import UsbSerial.Proofs.Session.Ends
import UsbSerial.Proofs.Session.Opening
import UsbSerial.Proofs.Session.Stream

namespace UsbSerial.Session

open Attempt (exec)

variable {β δ κ α : Type} [Transport β δ κ] {s : Session κ} {l : Link κ}

section Binding

omit [Transport β δ κ]

def handle? (s : Session κ) : Option κ := s.link?.map Link.handle

lemma handle?_opened (h : s.binding = .opened l) : s.handle? = some l.handle := by
  simp [handle?, link?, h]

lemma handle?_not_opened (h : ∀ l, s.binding ≠ .opened l) : s.handle? = none := by
  cases hbinding : s.binding with
  | opened l => exact absurd hbinding (h l)
  | closed => simp [handle?, link?, hbinding]
  | destroyed => simp [handle?, link?, hbinding]

lemma handle?_closed (h : s.binding = .closed) : s.handle? = none := by
  refine handle?_not_opened fun l hl => ?_
  cases h.symm.trans hl

lemma handle?_mapLink {g : Link κ → Link κ} (hg : ∀ l, (g l).handle = l.handle) (s : Session κ) :
    (s.mapLink g).handle? = s.handle? := by
  cases hbinding : s.binding with
  | opened l => rw [mapLink_opened hbinding, handle?_opened rfl, handle?_opened hbinding, hg]
  | closed => simp only [mapLink, hbinding]
  | destroyed => simp only [mapLink, hbinding]

end Binding

section Closing

lemma state_isOpened (h : s.state.isOpened = true) : ∃ l, s.binding = .opened l := by
  cases hbinding : s.binding with
  | opened l => exact ⟨l, rfl⟩
  | closed => simp [Session.state, hbinding, State.isOpened] at h
  | destroyed => simp [Session.state, hbinding, State.isOpened] at h

lemma state_closed (h : decide (s.state = .closed) = true) : s.binding = .closed := by
  cases hbinding : s.binding with
  | closed => rfl
  | opened l => simp [Session.state, hbinding] at h
  | destroyed => simp [Session.state, hbinding] at h

lemma create_closed {o : Options} (h : create o = .ok s) : s.binding = .closed := by
  unfold create at h
  split at h
  · cases h
  · cases h
    rfl

lemma ends_detach (hl : s.binding = .opened l) :
    Ends (detach : Action β κ Unit) s fun r t =>
      r = .ok () ∧ t = { s with binding := .closed } := by
  rintro w rfl
  obtain ⟨entries, hexec⟩ := exec_detach hl
  rw [hexec]
  exact ⟨⟨rfl, rfl⟩, (Move.released w l hl).path.trans (Move.log _ entries).path⟩

lemma ends_orDetach {cause : Error → Error} {step : Action β κ Unit} {G : Session κ → Prop}
    (hl : s.binding = .opened l) (h : Ends step s (Outcome G s)) :
    Ends (orDetach cause step) s (Outcome G { s with binding := .closed }) := by
  refine Ends.tryCatch h (fun _ _ ht => ht) ?_
  rintro e t rfl
  apply Ends.bind (ends_detach hl)
  · rintro - t ⟨-, rfl⟩
    exact Ends.throw rfl
  · rintro e' t ⟨hr, -⟩
    cases hr

end Closing

section Serial

lemma ends_controlOut_relink (operation : Operation) (request : Request) (value index : UInt16)
    {g : Link κ → Link κ}
    (hg : ∀ l, ∃ mode baudRate leftover, g l = { l with mode, baudRate, leftover }) :
    Ends (do controlOut operation request value index; modifyLink g : Action β κ Unit) s (Outcome
      (fun t => ∃ l, s.binding = .opened l ∧ t = { s with binding := .opened (g l) }) s) := by
  apply (transfers_controlOut _ _ _ _).then
  intro _ l hl
  exact Ends.modifyLink hl (hg l) ⟨l, hl, rfl⟩

lemma ends_resetEngine :
    Ends (resetEngine : Action β κ Unit) s (Outcome
      (fun t => ∃ l, s.binding = .opened l ∧
        t = { s with binding := .opened { l with leftover := {} } }) s) := by
  apply keeps_channelIndex.then
  intro index
  exact ends_controlOut_relink _ _ _ _ fun l => ⟨l.mode, l.baudRate, {}, rfl⟩

lemma baudSetting_zero (chip : Chip) (mode : BitMode) (channel : Channel) :
    baudSetting chip mode channel 0 = .error (.invalidArgument .baudRateZero) := by
  simp [baudSetting, Baud.setting?]

lemma ends_programBaudRate (rate : UInt32) :
    Ends (programBaudRate rate : Action β κ Unit) s (Outcome
      (fun t => rate ≠ 0 ∧ ∃ l, s.binding = .opened l ∧
        t = { s with binding := .opened { l with baudRate := rate } }) s) := by
  apply Ends.link
  intro l hl
  apply Ends.session
  apply Ends.lift
  intro setting hsetting
  have hrate : rate ≠ 0 := by
    rintro rfl
    rw [baudSetting_zero] at hsetting
    cases hsetting
  apply (transfers_controlOut _ _ _ _).then
  intro _ _ _
  refine Ends.modifyLink_then hl ⟨l.mode, rate, l.leftover, rfl⟩ ?_
  exact Ends.note ⟨hrate, l, hl, rfl⟩

lemma ends_programBitMode (operation : Operation) (mask : UInt8) (mode : BitMode) :
    Ends (programBitMode operation mask mode : Action β κ Unit) s (Outcome
      (fun t => ∃ l, s.binding = .opened l ∧
        t = { s with binding := .opened { l with mode } }) s) := by
  apply keeps_channelIndex.then
  intro index
  apply (transfers_controlOut _ _ _ _).then
  intro _ l hl
  refine Ends.modifyLink_then hl ⟨mode, l.baudRate, l.leftover, rfl⟩ ?_
  exact Ends.note ⟨l, hl, rfl⟩

end Serial

section Opening

def Opened (s t : Session κ) : Prop :=
  ∃ handle chip packetBytes,
    t = { s with binding := .opened { handle, chip, packetBytes, baudRate := defaultBaudRate } }

lemma ends_start (hl : s.binding = .opened l) :
    Ends (start : Action β κ Unit) s
      (Outcome
        (fun t => t =
          { s with binding := .opened { l with leftover := {}, baudRate := defaultBaudRate } })
        { s with binding := .closed }) := by
  refine Ends.bind (ends_orDetach hl ends_resetEngine) ?_ (fun _ _ ht => ht)
  rintro - t ⟨l', hl', rfl⟩
  cases hl.symm.trans hl'
  apply (ends_orDetach rfl (ends_programBaudRate defaultBaudRate)).mono
  rintro (e | ⟨⟩) t ht
  · exact ht
  · obtain ⟨-, l', hl', rfl⟩ := ht
    cases hl'
    rfl

lemma binding_of_start {w w' : Hosted β κ} (hl : w.session.binding = .opened l)
    (h : exec start w = (.ok (), w')) : w'.session.binding =
      .opened { l with leftover := {}, baudRate := defaultBaudRate } := by
  obtain ⟨hends, -⟩ := ends_start hl w rfl
  rw [h] at hends
  exact congrArg Session.binding hends

lemma ends_attach (hs : s.binding = .closed) (device : δ) :
    Ends (attach device : Action β κ Unit) s (Outcome (Opened s) s) := by
  rintro w rfl
  rcases hclaim : exec (Transport.claim device w.session.options.channel.number) w.bus
    with ⟨e | c, bus⟩
  · rw [exec_attach_refused hclaim]
    exact ⟨rfl, (Move.refused w device e bus hs hclaim).path⟩
  · obtain ⟨u, entries, hexec, hu⟩ := exec_attach hclaim
    have hpath : Path w u := by
      rw [hu]
      exact (Move.claimed w device c bus hs hclaim).path.trans (Move.log _ entries).path
    have hbinding : u.session.binding = .opened
        { handle := c.handle
          chip := Chip.detect c.facts.release c.facts.hasSerial
          packetBytes := c.facts.packetBytes } := by rw [hu]
    have hclosed : { u.session with binding := .closed } = w.session := by rw [hu, ← hs]
    obtain ⟨hstart, hrest⟩ := ends_start hbinding u rfl
    rw [hclosed] at hstart
    rw [hexec]
    refine ⟨?_, hpath.trans hrest⟩
    rcases hresult : (exec start u).1 with e | ⟨⟩
    · rw [hresult] at hstart
      exact hstart
    · rw [hresult] at hstart
      exact ⟨c.handle, Chip.detect c.facts.release c.facts.hasSerial, c.facts.packetBytes,
        hstart.trans (by rw [hu])⟩

lemma ends_beginOpening :
    Ends (beginOpening : Action β κ Unit) s
      (Outcome (fun t => s.binding = .closed ∧ t = { s with lastError := none }) s) := by
  apply Ends.require
  intro _ hallowed
  refine Ends.modifySession ?_ ⟨state_closed hallowed, rfl⟩
  rintro w rfl
  exact Move.noted w none

lemma ends_opening {next : Action β κ Unit}
    (hnext : ∀ t : Session κ, t.binding = .closed → Ends next t (Outcome (Opened t) t)) :
    Ends (tracked do beginOpening; next) s
      (Tracked (fun t => s.binding = .closed ∧ Opened { s with lastError := none } t) s) := by
  have hinner : Ends (do beginOpening; next) s fun r t =>
      match r with
      | .ok _ => s.binding = .closed ∧ Opened { s with lastError := none } t
      | .error _ => t = s ∨ t = { s with lastError := none } := by
    refine Ends.bind ends_beginOpening ?_ (fun _ _ ht => .inl ht)
    rintro - t ⟨hclosed, rfl⟩
    apply (hnext { s with lastError := none } hclosed).mono
    rintro (e | ⟨⟩) t ht
    · exact .inr ht
    · exact ⟨hclosed, ht⟩
  refine Ends.tracked hinner (fun _ _ ht => ht) ?_
  rintro e t (rfl | rfl)
  · rfl
  · rfl

lemma ends_openMatching (filter : Device.Filter) :
    Ends (openMatching filter : Action β κ Unit) s
      (Tracked (fun t => s.binding = .closed ∧ Opened { s with lastError := none } t) s) := by
  apply ends_opening
  intro t ht
  apply Ends.session
  exact (keeps_onHost (asks_find _ _)).then fun device => ends_attach ht device

lemma ends_openFound (descriptor : Device.Descriptor δ) :
    Ends (openFound descriptor : Action β κ Unit) s
      (Tracked (fun t => s.binding = .closed ∧ Opened { s with lastError := none } t) s) :=
  ends_opening fun _ ht => ends_attach ht descriptor.device

lemma ends_close :
    Ends (close : Action β κ Unit) s (Tracked (fun t =>
      (∃ l, s.binding = .opened l) ∧ t = { s with binding := .closed }) s) := by
  apply Ends.outcome_tracked
  apply Ends.require
  intro _ hopened
  obtain ⟨l, hl⟩ := state_isOpened hopened
  apply Ends.bind (ends_detach hl)
  · rintro - t ⟨-, rfl⟩
    exact Ends.note ⟨⟨l, hl⟩, rfl⟩
  · rintro e t ⟨hr, -⟩
    cases hr

lemma ends_destroy :
    Ends (destroy : Action β κ Unit) s (Tracked (fun t =>
      s.binding = .closed ∧ t = { s with binding := .destroyed }) s) := by
  apply Ends.outcome_tracked
  apply Ends.require
  intro _ hallowed
  have hclosed := state_closed hallowed
  refine Ends.modifySession_then ?_ (Ends.note ⟨hclosed, rfl⟩)
  rintro w rfl
  exact Move.destroyed w hclosed

lemma ends_setChannel (channel : Channel) :
    Ends (setChannel channel : Action β κ Unit) s (Tracked (fun t =>
      s.binding = .closed ∧ t = { s with options.channel := channel }) s) := by
  apply Ends.outcome_tracked
  apply Ends.require
  intro _ hallowed
  have hclosed := state_closed hallowed
  refine Ends.modifySession ?_ ⟨hclosed, rfl⟩
  rintro w rfl
  exact Move.tuned w _ (.inl hclosed)

end Opening

section Idle

abbrev Idle (s t : Session κ) : Prop := t = s ∧ ∃ l, s.binding = .opened l

lemma ends_request (operation : Operation) (request : Request) (value : UInt16)
    (index : UInt16 → UInt16) :
    Ends (tracked do controlOut operation request value (index (← channelIndex)) : Action β κ Unit)
      s (Tracked (Idle s) s) := by
  apply Ends.outcome_tracked
  exact keeps_channelIndex.then fun _ => transfers_controlOut _ _ _ _

lemma ends_setLatency (ms : UInt8) :
    Ends (setLatency ms : Action β κ Unit) s (Tracked (Idle s) s) := by
  apply Ends.outcome_tracked
  split
  · exact Ends.throw rfl
  · exact keeps_channelIndex.then fun _ => transfers_controlOut _ _ _ _

lemma ends_query (operation : Operation) (request : Request) (length : UInt16)
    (g : Reply length.toNat → α) :
    Ends (tracked do return g (← controlIn operation request (← channelIndex) length) :
      Action β κ α) s (Tracked (Idle s) s) := by
  apply Ends.outcome_tracked
  apply keeps_channelIndex.then
  intro _
  exact (transfers_controlIn _ _ _ _).then fun _ l hl => Ends.pure ⟨rfl, l, hl⟩

lemma keeps_writePieces (total : ℕ) (data : List (List UInt8)) (written : ℕ) :
    Keeps (writePieces total data written : Action β κ ℕ) s := by
  induction data generalizing written with
  | nil => exact Ends.pure rfl
  | cons piece rest ih =>
    apply (transfers_bulkOut _ _).keeps.bind
    intro n
    split
    · exact Ends.throw rfl
    · exact ih (written + n)

lemma ends_write (data : List UInt8) :
    Ends (write data : Action β κ ℕ) s (Tracked (Idle s) s) := by
  apply Ends.outcome_tracked
  apply Ends.require
  intro _ hopened
  obtain ⟨l, hl⟩ := state_isOpened hopened
  apply Ends.session
  exact (keeps_writePieces _ _ _).transfers hl

lemma ends_writeBitBang (frame : UInt8) :
    Ends (writeBitBang frame : Action β κ ℕ) s (Tracked (Idle s) s) := by
  apply Ends.outcome_tracked
  apply Ends.require
  intro _ _
  apply (transfers_bulkOut _ _).then
  intro n l hl
  split
  · exact Ends.pure ⟨rfl, l, hl⟩
  · exact Ends.throw rfl

end Idle

section Memory

lemma keeps_memoryWord (operation : Operation) (address : UInt16) :
    Keeps (memoryWord operation address : Action β κ UInt16) s :=
  (transfers_controlIn _ _ _ _).keeps.bind fun _ => Ends.pure rfl

lemma keeps_putMemoryWord (operation : Operation) (address value : UInt16) :
    Keeps (putMemoryWord operation address value : Action β κ Unit) s :=
  (transfers_controlOut _ _ _ _).keeps

lemma ends_readChipId : Ends (readChipId : Action β κ UInt32) s (Tracked (Idle s) s) := by
  apply Ends.outcome_tracked
  refine Ends.link fun l hl => Keeps.transfers ?_ hl
  split
  · exact Ends.throw rfl
  apply (keeps_memoryWord _ _).bind
  intro high
  apply (keeps_memoryWord _ _).bind
  intro low
  exact (keeps_note _ _).bind fun _ => Ends.pure rfl

lemma transfers_requireAddress (operation : Operation) (address : UInt16) :
    Transfers (requireAddress operation address : Action β κ Unit) s := by
  refine Ends.link fun l hl => Keeps.transfers ?_ hl
  dsimp only
  split
  · exact Ends.throw rfl
  · exact Ends.pure rfl

lemma ends_readWord (address : UInt16) :
    Ends (readWord address : Action β κ UInt16) s (Tracked (Idle s) s) := by
  apply Ends.outcome_tracked
  exact (transfers_requireAddress _ _).then fun _ l hl => (keeps_memoryWord _ _).transfers hl

lemma ends_writeWord (address value : UInt16) :
    Ends (writeWord address value : Action β κ Unit) s (Tracked (Idle s) s) := by
  apply Ends.outcome_tracked
  exact (transfers_requireAddress _ _).then fun _ l hl => (keeps_putMemoryWord _ _ _).transfers hl

lemma ends_readEeprom : Ends (readEeprom : Action β κ Eeprom.Image) s (Tracked (Idle s) s) := by
  apply Ends.outcome_tracked
  refine Ends.link fun l hl => Keeps.transfers ?_ hl
  apply (Keeps.mapM (fun _ => keeps_memoryWord _ _) _).bind
  intro words
  exact (keeps_note _ _).bind fun _ => Ends.pure rfl

lemma ends_writeEeprom (image : Eeprom.Image) :
    Ends (writeEeprom image : Action β κ Unit) s (Tracked (Idle s) s) := by
  apply Ends.outcome_tracked
  refine Ends.link fun l hl => Keeps.transfers ?_ hl
  dsimp only
  split
  · exact Ends.throw rfl
  apply keeps_channelIndex.bind
  intro _
  apply (transfers_controlOut _ _ _ _).keeps.bind
  intro _
  apply keeps_channelIndex.bind
  intro _
  apply (transfers_controlOut _ _ _ _).keeps.bind
  intro _
  apply (Keeps.forM (fun _ => keeps_putMemoryWord _ _ _) _).bind
  intro _
  exact keeps_note _ _

lemma keeps_findProbe (probes : List (UInt16 × UInt8)) :
    Keeps (findProbe probes : Action β κ (Option UInt8)) s := by
  induction probes with
  | nil => exact Ends.pure rfl
  | cons probe rest ih =>
    apply (keeps_memoryWord _ _).bind
    intro word
    split
    · exact Ends.pure rfl
    · exact ih

lemma ends_eraseEeprom :
    Ends (eraseEeprom : Action β κ (Option UInt8)) s (Tracked (Idle s) s) := by
  apply Ends.outcome_tracked
  refine Ends.link fun l hl => Keeps.transfers ?_ hl
  dsimp only
  split
  · exact Ends.throw rfl
  apply (transfers_controlOut _ _ _ _).keeps.bind
  intro _
  apply (keeps_putMemoryWord _ _ _).bind
  intro _
  apply (keeps_findProbe _).bind
  intro part
  apply (transfers_controlOut _ _ _ _).keeps.bind
  intro _
  exact (keeps_note _ _).bind fun _ => Ends.pure rfl

end Memory

section Line

abbrev Relinked (g : Link κ → Link κ) (s t : Session κ) : Prop :=
  ∃ l, s.binding = .opened l ∧ t = { s with binding := .opened (g l) }

lemma ends_reset :
    Ends (reset : Action β κ Unit) s
      (Tracked (Relinked (fun l => { l with leftover := {} }) s) s) :=
  Ends.outcome_tracked ends_resetEngine

lemma ends_purgeReceive :
    Ends (purgeReceive : Action β κ Unit) s
      (Tracked (Relinked (fun l => { l with leftover := {} }) s) s) := by
  apply Ends.outcome_tracked
  apply keeps_channelIndex.then
  intro index
  exact ends_controlOut_relink _ _ _ _ fun l => ⟨l.mode, l.baudRate, {}, rfl⟩

lemma ends_setBaudRate (rate : UInt32) :
    Ends (setBaudRate rate : Action β κ Unit) s (Tracked (fun t =>
      rate ≠ 0 ∧ Relinked (fun l => { l with baudRate := rate }) s t) s) :=
  Ends.outcome_tracked (ends_programBaudRate rate)

lemma ends_setBitMode (mask : UInt8) (mode : BitMode) :
    Ends (setBitMode mask mode : Action β κ Unit) s
      (Tracked (Relinked (fun l => { l with mode }) s) s) := by
  apply Ends.outcome_tracked
  exact Ends.require fun _ _ => ends_programBitMode _ _ _

lemma ends_enableBitBang (mask : UInt8) :
    Ends (enableBitBang mask : Action β κ Unit) s (Tracked (fun t =>
      s.state = .opened .reset ∧ Relinked (fun l => { l with mode := .bitBang }) s t) s) := by
  apply Ends.outcome_tracked
  apply Ends.require
  intro _ hallowed
  apply (ends_programBitMode _ _ _).mono
  rintro (e | ⟨⟩) t ht
  · exact ht
  · exact ⟨of_decide_eq_true hallowed, ht⟩

lemma ends_disableBitBang :
    Ends (disableBitBang : Action β κ Unit) s (Tracked (fun t =>
      s.state.drivesPins ∧ Relinked (fun l => { l with mode := .reset }) s t) s) := by
  apply Ends.outcome_tracked
  apply Ends.require
  intro _ hallowed
  apply (ends_programBitMode _ _ _).mono
  rintro (e | ⟨⟩) t ht
  · exact ht
  · exact ⟨hallowed, ht⟩

lemma ends_purge :
    Ends (purge : Action β κ Unit) s fun r t =>
      match r with
      | .ok _ => Relinked (fun l => { l with leftover := {} }) s t
      | .error e => t = { s with lastError := some e } ∨
          Relinked (fun l => { l with leftover := {} }) { s with lastError := some e } t := by
  refine Ends.bind ends_purgeReceive ?_ (fun _ _ ht => .inl ht)
  rintro - t ⟨l, hl, rfl⟩
  refine Ends.mono (ends_request _ _ _ fun index => index) ?_
  rintro (e | ⟨⟩) u hu
  · exact .inr ⟨l, hl, hu⟩
  · exact ⟨l, hl, hu.1⟩

def Received (room : ℕ) (s t : Session κ) : Prop :=
  ∃ l leftover, s.binding = .opened l ∧
    (leftover = l.leftover.advance room ∨ leftover.offset = 0) ∧
    t = { s with binding := .opened { l with leftover } }

lemma advance_zero (leftover : Leftover) : leftover.advance 0 = leftover := by
  rw [Leftover.advance, Nat.zero_min, Nat.add_zero]

lemma ends_read (room : ℕ) :
    Ends (read room : Action β κ (List UInt8)) s (Tracked (Received room s) s) := by
  apply Ends.outcome_tracked
  apply Ends.require
  intro _ hopened
  obtain ⟨l, hl⟩ := state_isOpened hopened
  split
  · rename_i hroom
    refine Ends.pure ⟨l, l.leftover, hl, .inl ?_, ?_⟩
    · rw [hroom, advance_zero]
    · rw [← hl]
  apply Ends.session
  apply Ends.link
  intro l hl
  split
  · refine Keeps.then (keeps_call ?_) fun data => ?_
    · rintro w rfl
      exact Move.bulkIn w l hl
    refine Ends.modifyLink_then hl ⟨l.mode, l.baudRate, _, rfl⟩ ?_
    exact Ends.pure ⟨l, _, hl, .inr rfl, rfl⟩
  · refine Ends.modifyLink_then hl ⟨l.mode, l.baudRate, _, rfl⟩ ?_
    exact Ends.pure ⟨l, _, hl, .inl rfl, rfl⟩

end Line

section Calls

/-- What an operation that succeeds makes of the session `s`. -/
def Call.Effect (s t : Session κ) : Call δ → Prop
  | .findAll _ _ => s.binding ≠ .destroyed ∧ t = s
  | .openFirst _ _ | .openMatching _ | .openFound _ =>
      s.binding = .closed ∧ Opened { s with lastError := none } t
  | .close => (∃ l, s.binding = .opened l) ∧ t = { s with binding := .closed }
  | .destroy => s.binding = .closed ∧ t = { s with binding := .destroyed }
  | .setChannel channel => s.binding = .closed ∧ t = { s with options.channel := channel }
  | .setReadTimeout timeout => t = { s with options.readTimeout := timeout }
  | .setWriteTimeout timeout => t = { s with options.writeTimeout := timeout }
  | .setWriteChunk n => t = { s with options := s.options.withWriteChunk n }
  | .reset | .purgeReceive | .purge => Relinked (fun l => { l with leftover := {} }) s t
  | .setBaudRate rate => rate ≠ 0 ∧ Relinked (fun l => { l with baudRate := rate }) s t
  | .read room => Received room s t
  | .enableBitBang _ =>
      s.state = .opened .reset ∧ Relinked (fun l => { l with mode := .bitBang }) s t
  | .disableBitBang => s.state.drivesPins ∧ Relinked (fun l => { l with mode := .reset }) s t
  | .setBitMode _ mode => Relinked (fun l => { l with mode }) s t
  | _ => Idle s t

def Call.Failure (s t : Session κ) (e : Error) : Call δ → Prop
  | .purge => t = { s with lastError := some e } ∨
      Relinked (fun l => { l with leftover := {} }) { s with lastError := some e } t
  | _ => t = { s with lastError := some e }

def Call.Ending (c : Call δ) (s : Session κ) : Except Error α → Session κ → Prop
  | .ok _, t => c.Effect s t
  | .error e, t => c.Failure s t e

lemma Ends.ending {m : Action β κ α} {c : Call δ} (h : Ends m s (Tracked (c.Effect s) s))
    (hc : ∀ t e, t = { s with lastError := some e } → c.Failure s t e) : Ends m s (c.Ending s) := by
  apply h.mono
  rintro (e | a) t ht
  · exact hc t e ht
  · exact ht

lemma Ends.done {m : Action β κ Unit} {G : Session κ → Prop} (h : Ends m s (Tracked G s)) :
    Ends (Call.run.done m : Action β κ (Answer δ)) s (Tracked G s) :=
  Ends.bind h (fun _ _ ht => Ends.pure ht) (fun _ _ ht => ht)

lemma ends_findAll (vendor product : UInt16) :
    Ends (findAll vendor product : Action β κ (List (Device.Descriptor δ))) s
      (Tracked (fun t => s.binding ≠ .destroyed ∧ t = s) s) := by
  apply Ends.outcome_tracked
  apply Ends.require
  intro hstate _
  have hbinding : s.binding ≠ .destroyed := by
    intro hbinding
    rw [Session.state, hbinding] at hstate
    exact hstate rfl
  apply Ends.session
  apply (keeps_onHost (asks_findAll _ _ _)).mono
  rintro (e | found) t rfl
  · rfl
  · exact ⟨hbinding, rfl⟩

lemma ends_tune (g : Options → Options) (hg : (g s.options).channel = s.options.channel) :
    Ends (modifySession fun s => { s with options := g s.options } : Action β κ Unit) s
      (Tracked (fun t => t = { s with options := g s.options }) s) := by
  refine Ends.modifySession ?_ rfl
  rintro w rfl
  exact Move.tuned w _ (.inr hg)

theorem Call.ends (c : Call δ) (s : Session κ) :
    Ends (c.run : Action β κ (Answer δ)) s (c.Ending s) := by
  cases c with
  | findAll vendor product => exact (ends_findAll vendor product).answer.ending fun _ _ ht => ht
  | openFirst vendor product =>
    exact (ends_openMatching { vendor, product }).done.ending fun _ _ ht => ht
  | openMatching filter => exact (ends_openMatching filter).done.ending fun _ _ ht => ht
  | openFound descriptor => exact (ends_openFound descriptor).done.ending fun _ _ ht => ht
  | close => exact ends_close.done.ending fun _ _ ht => ht
  | destroy => exact ends_destroy.done.ending fun _ _ ht => ht
  | setChannel channel => exact (ends_setChannel channel).done.ending fun _ _ ht => ht
  | setReadTimeout timeout =>
    exact (ends_tune (fun o => { o with readTimeout := timeout }) rfl).done.ending fun _ _ ht => ht
  | setWriteTimeout timeout =>
    exact (ends_tune (fun o => { o with writeTimeout := timeout }) rfl).done.ending fun _ _ ht => ht
  | setWriteChunk n => exact (ends_tune (Options.withWriteChunk n) rfl).done.ending fun _ _ ht => ht
  | reset => exact ends_reset.done.ending fun _ _ ht => ht
  | purgeReceive => exact ends_purgeReceive.done.ending fun _ _ ht => ht
  | purgeTransmit => exact (ends_request _ _ _ fun index => index).done.ending fun _ _ ht => ht
  | purge => exact Ends.bind ends_purge (fun _ _ ht => Ends.pure ht) (fun _ _ ht => ht)
  | setBaudRate rate => exact (ends_setBaudRate rate).done.ending fun _ _ ht => ht
  | setLineFormat format =>
    exact (ends_request _ _ _ fun index => index).done.ending fun _ _ ht => ht
  | setLatency ms => exact (ends_setLatency ms).done.ending fun _ _ ht => ht
  | latency => exact (ends_query _ _ _ _).answer.ending fun _ _ ht => ht
  | setHandshake handshake =>
    exact (ends_request _ _ _ fun index => handshake.code ||| index).done.ending fun _ _ ht => ht
  | setDtr high => exact (ends_request _ _ _ fun index => index).done.ending fun _ _ ht => ht
  | setRts high => exact (ends_request _ _ _ fun index => index).done.ending fun _ _ ht => ht
  | setDtrRts dtr rts => exact (ends_request _ _ _ fun index => index).done.ending fun _ _ ht => ht
  | setEventCharacter c enabled =>
    exact (ends_request _ _ _ fun index => index).done.ending fun _ _ ht => ht
  | setErrorCharacter c enabled =>
    exact (ends_request _ _ _ fun index => index).done.ending fun _ _ ht => ht
  | modemStatus => exact (ends_query _ _ _ _).answer.ending fun _ _ ht => ht
  | write data => exact (ends_write data).answer.ending fun _ _ ht => ht
  | read room => exact (ends_read room).answer.ending fun _ _ ht => ht
  | enableBitBang mask => exact (ends_enableBitBang mask).done.ending fun _ _ ht => ht
  | writeBitBang frame => exact (ends_writeBitBang frame).answer.ending fun _ _ ht => ht
  | disableBitBang => exact ends_disableBitBang.done.ending fun _ _ ht => ht
  | setBitMode mask mode => exact (ends_setBitMode mask mode).done.ending fun _ _ ht => ht
  | readPins => exact (ends_query _ _ _ _).answer.ending fun _ _ ht => ht
  | readChipId => exact ends_readChipId.answer.ending fun _ _ ht => ht
  | readWord address => exact (ends_readWord address).answer.ending fun _ _ ht => ht
  | writeWord address value => exact (ends_writeWord address value).done.ending fun _ _ ht => ht
  | readEeprom => exact ends_readEeprom.answer.ending fun _ _ ht => ht
  | writeEeprom image => exact (ends_writeEeprom image).done.ending fun _ _ ht => ht
  | eraseEeprom => exact ends_eraseEeprom.answer.ending fun _ _ ht => ht

variable {c : Call δ} {w w' : Hosted β κ}

lemma Call.effect_of_ok {answer : Answer δ} (h : c.step w = (.ok answer, w')) :
    c.Effect w.session w'.session := by
  obtain ⟨hending, -⟩ := c.ends w.session w rfl
  rw [← Call.step, h] at hending
  exact hending

lemma Call.failure_of_error {e : Error} (h : c.step w = (.error e, w')) :
    c.Failure w.session w'.session e := by
  obtain ⟨hending, -⟩ := c.ends w.session w rfl
  rw [← Call.step, h] at hending
  exact hending

end Calls

end UsbSerial.Session
