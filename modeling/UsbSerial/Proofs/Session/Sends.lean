import UsbSerial.Proofs.Listing
import UsbSerial.Proofs.Probe
import UsbSerial.Proofs.Session.Exchange
import UsbSerial.Proofs.Session.Opening

namespace UsbSerial.Session

open Attempt (exec)
open Probe (Seen)
open Relation (ReflTransGen)

variable {β δ κ α γ : Type}

def Adds (P : Seen → Prop) (seen seen' : List Seen) : Prop := ∃ e, P e ∧ seen' = seen ++ [e]

structure Has (o : Options) (chip? : Option Chip) (s : Session κ) : Prop where
  options : s.options = o
  chip : s.chip? = chip?

def Sends (P : Seen → Prop) (o : Options) (chip? : Option Chip) (m : Action (Probe β) κ α) : Prop :=
  ∀ w : Hosted (Probe β) κ, Has o chip? w.session →
    ReflTransGen (Adds P) w.bus.seen (exec m w).2.bus.seen ∧
      ∀ a v, exec m w = (.ok a, v) → Has o chip? v.session

variable {P : Seen → Prop} {o : Options} {chip? : Option Chip} {m : Action (Probe β) κ α}

section Rules

lemma Sends.of_same (h : ∀ w, (exec m w).2.session = w.session ∧ (exec m w).2.bus = w.bus) :
    Sends P o chip? m := by
  intro w hw
  obtain ⟨hsession, hbus⟩ := h w
  refine ⟨hbus ▸ .refl, fun a v hexec => ?_⟩
  rw [hexec] at hsession
  exact hsession ▸ hw

lemma Decides.sends (h : Decides m) : Sends P o chip? m := by
  apply Sends.of_same
  intro w
  obtain ⟨log, hlog⟩ := h.still w
  rw [hlog]
  exact ⟨rfl, rfl⟩

lemma Sends.bind {f : α → Action (Probe β) κ γ} (hm : Sends P o chip? m)
    (hf : ∀ a, Sends P o chip? (f a)) : Sends P o chip? (m >>= f) := by
  intro w hw
  obtain ⟨hadds, hkeeps⟩ := hm w hw
  rw [Attempt.exec_bind]
  rcases hexec : exec m w with ⟨e | a, v⟩
  · rw [hexec] at hadds
    exact ⟨hadds, fun _ _ h => by cases h⟩
  · rw [hexec] at hadds
    obtain ⟨hadds', hkeeps'⟩ := hf a v (hkeeps a v hexec)
    exact ⟨hadds.trans hadds', hkeeps'⟩

lemma Sends.map {f : α → γ} (hm : Sends P o chip? m) : Sends P o chip? (f <$> m) := by
  rw [map_eq_pure_bind]
  exact hm.bind fun a => (decides_pure (f a)).sends

lemma Sends.done {m : Action (Probe β) κ Unit} (hm : Sends P o chip? m) :
    Sends P o chip? (Call.run.done m : Action (Probe β) κ (Answer δ)) :=
  hm.bind fun _ => (decides_pure _).sends

lemma Sends.tryCatch {g : Error → Action (Probe β) κ α} (hm : Sends P o chip? m)
    (hg : ∀ e w, ∃ e' v, exec (g e) w = (.error e', v) ∧ v.bus.seen = w.bus.seen) :
    Sends P o chip? (tryCatch m g) := by
  intro w hw
  obtain ⟨hadds, hkeeps⟩ := hm w hw
  rw [Attempt.exec_tryCatch]
  rcases hexec : exec m w with ⟨e | a, v⟩
  · rw [hexec] at hadds
    obtain ⟨e', u, herror, hseen⟩ := hg e v
    dsimp only
    rw [herror, hseen]
    exact ⟨hadds, fun _ _ h => by cases h⟩
  · rw [hexec] at hadds hkeeps
    exact ⟨hadds, hkeeps⟩

lemma Sends.tracked (hm : Sends P o chip? m) : Sends P o chip? (tracked m) :=
  hm.tryCatch fun e w => by
    rw [Attempt.exec_bind, exec_note]
    dsimp only
    rw [Attempt.exec_bind, exec_modifySession]
    exact ⟨e, _, rfl, rfl⟩

lemma Sends.mapM {ι : Type} {f : ι → Action (Probe β) κ α} (is : List ι)
    (hf : ∀ i ∈ is, Sends P o chip? (f i)) : Sends P o chip? (is.mapM f) := by
  induction is with
  | nil => exact (decides_pure []).sends
  | cons i is ih =>
    rw [List.mapM_cons]
    apply (hf i List.mem_cons_self).bind
    intro a
    exact (ih fun j hj => hf j (List.mem_cons_of_mem i hj)).bind fun _ => (decides_pure _).sends

lemma Sends.forM {ι : Type} {f : ι → Action (Probe β) κ PUnit} (is : List ι)
    (hf : ∀ i ∈ is, Sends P o chip? (f i)) : Sends P o chip? (is.forM f) := by
  induction is with
  | nil => exact (decides_pure PUnit.unit).sends
  | cons i is ih =>
    exact (hf i List.mem_cons_self).bind fun _ => ih fun j hj => hf j (List.mem_cons_of_mem i hj)

lemma sends_session_bind {f : Session κ → Action (Probe β) κ α}
    (hf : ∀ s, Has o chip? s → Sends P o chip? (f s)) :
    Sends P o chip? (session >>= f) := by
  intro w hw
  rw [Attempt.exec_bind, exec_session]
  exact hf w.session hw w hw

lemma sends_channelIndex_bind {f : UInt16 → Action (Probe β) κ α}
    (hf : Sends P o chip? (f o.channel.index)) : Sends P o chip? (channelIndex >>= f) := by
  intro w hw
  rw [Attempt.exec_bind, exec_channelIndex, hw.options]
  exact hf w hw

lemma sends_link_bind (operation : Operation) {f : Link κ → Action (Probe β) κ α}
    (hf : ∀ l, chip? = some l.chip → Sends P o chip? (f l)) :
    Sends P o chip? (link operation >>= f) := by
  intro w hw
  cases hbinding : w.session.binding with
  | opened l =>
    have hchip : chip? = some l.chip := by rw [← hw.chip, Session.chip?, link?, hbinding]; rfl
    have hlink : exec (link operation) w = (.ok l, w) := by rw [exec_link, hbinding]
    rw [Attempt.exec_bind, hlink]
    exact hf l hchip w hw
  | closed =>
    have hlink : exec (link operation) w = (.error (.invalidState operation .closed), w) := by
      rw [exec_link, hbinding]
    rw [Attempt.exec_bind, hlink]
    exact ⟨.refl, fun _ _ h => by cases h⟩
  | destroyed =>
    have hlink : exec (link operation) w = (.error .destroyed, w) := by rw [exec_link, hbinding]
    rw [Attempt.exec_bind, hlink]
    exact ⟨.refl, fun _ _ h => by cases h⟩

lemma sends_lift_bind {r : Except Error γ} {f : γ → Action (Probe β) κ α}
    (hf : ∀ a, r = .ok a → Sends P o chip? (f a)) :
    Sends P o chip? ((liftM r : Action (Probe β) κ γ) >>= f) := by
  cases r with
  | error e => exact (decides_throw e).sends
  | ok a => exact hf a rfl

lemma sends_note (level : Log.Level) (text : String) :
    Sends P o chip? (note level text : Action (Probe β) κ Unit) :=
  (decides_note level text).sends

lemma sends_modifyLink {g : Link κ → Link κ} (hg : ∀ l, (g l).chip = l.chip) :
    Sends P o chip? (modifyLink g : Action (Probe β) κ Unit) := by
  intro w hw
  rw [modifyLink, exec_modifySession]
  refine ⟨.refl, fun a v hexec => ?_⟩
  cases hexec
  cases hbinding : w.session.binding with
  | opened l =>
    dsimp only
    rw [mapLink_opened hbinding]
    refine ⟨hw.options, ?_⟩
    rw [← hw.chip, Session.chip?, Session.chip?, link?, link?, hbinding]
    exact congrArg some (hg l)
  | closed =>
    dsimp only
    rwa [mapLink, hbinding]
  | destroyed =>
    dsimp only
    rwa [mapLink, hbinding]

lemma sends_call {c : Probe.Transfer β α} {cause : Usb.Error → Error} {e : Seen}
    (hc : ∀ p, (exec c p).2.seen = p.seen ++ [e]) (h : P e) :
    Sends P o chip? (onHost (Host.call cause c) : Action (Probe β) κ α) := by
  intro w hw
  rw [exec_onHost, Host.exec_call]
  refine ⟨?_, fun a v hexec => ?_⟩
  · dsimp only
    rw [hc]
    exact .single ⟨e, h, rfl⟩
  · rw [← (Prod.mk.inj hexec).2]
    exact hw

end Rules

variable [Transport β δ κ]

section Searches

lemma searches_adds {timeout : Duration} (h : P (.texts timeout)) :
    Device.Searches timeout (fun host : Host (Probe β) => host.bus.seen) (Adds P) where
  record _ _ := .refl
  enumerate host vendor product := by
    rw [Probe.quiet_enumerate vendor product host.bus]
  texts host device := .single ⟨_, h, Probe.seen_texts device timeout host.bus⟩

lemma sends_onHost {m : Attempt (Host (Probe β)) Error α}
    (hm : Attempt.Along (fun host => host.bus.seen) (Adds P) m) :
    Sends P o chip? (onHost m : Action (Probe β) κ α) := by
  intro w hw
  rw [exec_onHost]
  refine ⟨hm w.toHost, fun a v hexec => ?_⟩
  rw [← (Prod.mk.inj hexec).2]
  exact hw

lemma sends_findAll (h : P (.texts o.readTimeout)) (vendor product : UInt16) :
    Sends P o chip? (findAll vendor product :
      Action (Probe β) κ (List (Device.Descriptor δ))) := by
  apply Sends.tracked
  apply (decides_require _ _).sends.bind
  intro _
  apply sends_session_bind
  intro s hs
  rw [hs.options]
  exact sends_onHost ((searches_adds h).findAll vendor product)

end Searches

section Transfers

lemma sends_controlOut (operation : Operation) (request : Request) (value index : UInt16)
    (h : ∀ chip, chip? = some chip → P (.controlOut request.code value index o.writeTimeout)) :
    Sends P o chip? (controlOut operation request value index : Action (Probe β) κ Unit) := by
  apply sends_session_bind
  intro s hs
  apply (sends_note _ _).bind
  intro _
  apply sends_link_bind
  intro l hl
  rw [hs.options]
  exact sends_call (Probe.seen_controlOut _ _ _ _ _) (h l.chip hl)

lemma sends_controlIn (operation : Operation) (request : Request) (index length : UInt16)
    (h : ∀ chip, chip? = some chip → P (.controlIn request.code 0 index length o.readTimeout)) :
    Sends P o chip? (controlIn operation request index length : Action (Probe β) κ _) := by
  apply sends_session_bind
  intro s hs
  apply sends_link_bind
  intro l hl
  rw [hs.options]
  apply (sends_call (Probe.seen_controlIn _ _ _ _ _ _) (h l.chip hl)).bind
  intro data
  apply (sends_note _ _).bind
  intro _
  split
  · exact (decides_pure _).sends
  · exact (decides_throw _).sends

lemma sends_bulkOut (operation : Operation)
    (h : ∀ count chip, chip? = some chip →
      P (.bulkOut o.channel.outEndpoint count o.writeTimeout)) (data : List UInt8) :
    Sends P o chip? (bulkOut operation data : Action (Probe β) κ ℕ) := by
  apply sends_session_bind
  intro s hs
  apply sends_link_bind
  intro l hl
  rw [hs.options]
  apply (sends_call (Probe.seen_bulkOut _ _ _ _) (h data.length l.chip hl)).bind
  intro n
  exact (sends_note _ _).bind fun _ => (decides_pure n).sends

end Transfers

section Operations

lemma sends_request (operation : Operation) (request : Request) (value : UInt16)
    (index : UInt16 → UInt16)
    (h : ∀ chip, chip? = some chip →
      P (.controlOut request.code value (index o.channel.index) o.writeTimeout)) :
    Sends P o chip? (tracked do
      controlOut operation request value (index (← channelIndex)) : Action (Probe β) κ Unit) :=
  Sends.tracked (sends_channelIndex_bind (sends_controlOut _ _ _ _ h))

lemma sends_query (operation : Operation) (request : Request) (length : UInt16)
    (h : ∀ chip, chip? = some chip →
      P (.controlIn request.code 0 o.channel.index length o.readTimeout))
    (f : Reply length.toNat → α) :
    Sends P o chip? (tracked do
      return f (← controlIn operation request (← channelIndex) length) :
        Action (Probe β) κ α) := by
  apply Sends.tracked
  apply sends_channelIndex_bind
  exact (sends_controlIn _ _ _ _ h).bind fun _ => (decides_pure _).sends

lemma sends_resetEngine
    (h : ∀ chip, chip? = some chip →
      P (.controlOut Request.reset.code Request.resetEngine o.channel.index o.writeTimeout)) :
    Sends P o chip? (resetEngine : Action (Probe β) κ Unit) :=
  sends_channelIndex_bind ((sends_controlOut _ _ _ _ h).bind fun _ => sends_modifyLink fun _ => rfl)

lemma sends_purgeReceive
    (h : ∀ chip, chip? = some chip →
      P (.controlOut Request.reset.code Request.purgeReceive o.channel.index o.writeTimeout)) :
    Sends P o chip? (purgeReceive : Action (Probe β) κ Unit) :=
  Sends.tracked (sends_channelIndex_bind
    ((sends_controlOut _ _ _ _ h).bind fun _ => sends_modifyLink fun _ => rfl))

lemma sends_programBaudRate (rate : UInt32)
    (h : ∀ chip mode setting, chip? = some chip →
      baudSetting chip mode o.channel rate = .ok setting →
      P (.controlOut Request.baudRate.code setting.value setting.index o.writeTimeout)) :
    Sends P o chip? (programBaudRate rate : Action (Probe β) κ Unit) := by
  apply sends_link_bind
  intro l hl
  apply sends_session_bind
  intro s hs
  rw [hs.options]
  apply sends_lift_bind
  intro setting hsetting
  apply (sends_controlOut _ _ _ _ fun _ _ => h l.chip l.mode setting hl hsetting).bind
  intro _
  exact Sends.bind (sends_modifyLink fun _ => rfl) fun _ => sends_note _ _

lemma sends_setLatency (ms : UInt8)
    (h : ∀ chip, chip? = some chip →
      P (.controlOut Request.setLatency.code ms.toUInt16 o.channel.index o.writeTimeout)) :
    Sends P o chip? (setLatency ms : Action (Probe β) κ Unit) := by
  apply Sends.tracked
  split
  · exact (decides_throw _).sends
  · exact sends_channelIndex_bind (sends_controlOut _ _ _ _ h)

lemma sends_select (operation : Operation) (accepts : State → Bool) (mask : UInt8) (mode : BitMode)
    (h : ∀ chip, chip? = some chip → P (.controlOut Request.bitMode.code
      (Word.ofBytes mask mode.code) o.channel.index o.writeTimeout)) :
    Sends P o chip? (tracked do
      require operation accepts
      programBitMode operation mask mode : Action (Probe β) κ Unit) := by
  apply Sends.tracked
  apply (decides_require _ _).sends.bind
  intro _
  apply sends_channelIndex_bind
  apply (sends_controlOut _ _ _ _ h).bind
  intro _
  exact Sends.bind (sends_modifyLink fun _ => rfl) fun _ => sends_note _ _

section Streams

variable (h : ∀ count chip, chip? = some chip →
  P (.bulkOut o.channel.outEndpoint count o.writeTimeout))

include h

lemma sends_writeBitBang (frame : UInt8) :
    Sends P o chip? (writeBitBang frame : Action (Probe β) κ ℕ) := by
  apply Sends.tracked
  apply (decides_require _ _).sends.bind
  intro _
  apply (sends_bulkOut _ h _).bind
  intro n
  split
  · exact (decides_pure 1).sends
  · exact (decides_throw _).sends

lemma sends_writePieces (total : ℕ) (data : List (List UInt8)) (written : ℕ) :
    Sends P o chip? (writePieces total data written : Action (Probe β) κ ℕ) := by
  induction data generalizing written with
  | nil => exact (decides_pure written).sends
  | cons piece rest ih =>
    apply (sends_bulkOut _ h _).bind
    intro n
    split
    · exact (decides_throw _).sends
    · exact ih _

lemma sends_write (data : List UInt8) :
    Sends P o chip? (write data : Action (Probe β) κ ℕ) := by
  apply Sends.tracked
  apply (decides_require _ _).sends.bind
  intro _
  exact sends_session_bind fun _ _ => sends_writePieces h _ _ _

end Streams

lemma sends_read (h : ∀ chip, chip? = some chip →
      P (.bulkIn o.channel.inEndpoint o.readChunk o.readTimeout)) (room : ℕ) :
    Sends P o chip? (read room : Action (Probe β) κ (List UInt8)) := by
  apply Sends.tracked
  apply (decides_require _ _).sends.bind
  intro _
  split
  · exact (decides_pure _).sends
  apply sends_session_bind
  intro s hs
  rw [hs.options]
  apply sends_link_bind
  intro l hl
  split
  · apply (sends_call (Probe.seen_bulkIn _ _ _ _) (h l.chip hl)).bind
    intro data
    exact Sends.bind (sends_modifyLink fun _ => rfl) fun _ => (decides_pure _).sends
  · exact Sends.bind (sends_modifyLink fun _ => rfl) fun _ => (decides_pure _).sends

lemma sends_memoryWord (operation : Operation) (address : UInt16)
    (h : ∀ chip, chip? = some chip →
      P (.controlIn Request.readWord.code 0 address 2 o.readTimeout)) :
    Sends P o chip? (memoryWord operation address : Action (Probe β) κ UInt16) :=
  (sends_controlIn _ _ _ _ h).bind fun _ => (decides_pure _).sends

lemma sends_readChipId (h : ∀ address, address = ChipId.addressHigh ∨ address = ChipId.addressLow →
      ∀ chip, chip? = some chip →
        P (.controlIn Request.readWord.code 0 address 2 o.readTimeout)) :
    Sends P o chip? (readChipId : Action (Probe β) κ UInt32) := by
  apply Sends.tracked
  apply sends_link_bind
  intro l hl
  split
  · exact (decides_throw _).sends
  apply (sends_memoryWord _ _ (h _ (.inl rfl))).bind
  intro high
  apply (sends_memoryWord _ _ (h _ (.inr rfl))).bind
  intro low
  exact (sends_note _ _).bind fun _ => (decides_pure _).sends

lemma sends_readEeprom (h : ∀ chip, chip? = some chip → ∀ address : ℕ, address < chip.eepromWords →
      P (.controlIn Request.readWord.code 0 address.toUInt16 2 o.readTimeout)) :
    Sends P o chip? (readEeprom : Action (Probe β) κ Eeprom.Image) := by
  apply Sends.tracked
  apply sends_link_bind
  intro l hl
  apply Sends.bind
  · apply Sends.mapM
    intro address haddress
    exact sends_memoryWord _ _ fun _ _ => h l.chip hl address (List.mem_range.mp haddress)
  · intro words
    exact (sends_note _ _).bind fun _ => (decides_pure _).sends

lemma sends_writeEeprom (image : Eeprom.Image)
    (hreset : ∀ chip, chip? = some chip →
      P (.controlOut Request.reset.code Request.resetEngine o.channel.index o.writeTimeout))
    (hlatency : ∀ chip, chip? = some chip →
      P (.controlOut Request.setLatency.code writingLatency o.channel.index o.writeTimeout))
    (hword : ∀ (address : ℕ) value, image.words[address]? = some value →
      ∀ chip, chip? = some chip →
        P (.controlOut Request.writeWord.code value address.toUInt16 o.writeTimeout)) :
    Sends P o chip? (writeEeprom image : Action (Probe β) κ Unit) := by
  apply Sends.tracked
  apply sends_link_bind
  intro l hl
  dsimp only
  split
  · exact (decides_throw _).sends
  apply sends_channelIndex_bind
  apply (sends_controlOut _ _ _ _ hreset).bind
  intro _
  apply sends_channelIndex_bind
  apply (sends_controlOut _ _ _ _ hlatency).bind
  intro _
  apply Sends.bind
  · apply Sends.forM
    rintro ⟨value, address⟩ hmem
    exact sends_controlOut _ _ _ _ (hword address value (List.mem_zipIdx_iff_getElem?.mp hmem))
  · exact fun _ => sends_note _ _

lemma sends_findProbe (probes : List (UInt16 × UInt8))
    (h : ∀ address ∈ probes.map Prod.fst, ∀ chip, chip? = some chip →
      P (.controlIn Request.readWord.code 0 address 2 o.readTimeout)) :
    Sends P o chip? (findProbe probes : Action (Probe β) κ (Option UInt8)) := by
  induction probes with
  | nil => exact (decides_pure none).sends
  | cons probe rest ih =>
    apply (sends_memoryWord _ _ (h probe.1 List.mem_cons_self)).bind
    intro word
    split
    · exact (decides_pure _).sends
    · exact ih fun address haddress => h address (List.mem_cons_of_mem _ haddress)

lemma sends_eraseEeprom
    (herase : ∀ chip, chip? = some chip →
      P (.controlOut Request.eraseEeprom.code 0 0 o.writeTimeout))
    (hprobe : ∀ chip, chip? = some chip → P (.controlOut Request.writeWord.code
      Eeprom.Dump.probeWord Eeprom.Dump.probeAddress o.writeTimeout))
    (hread : ∀ address ∈ Eeprom.Dump.probes.map Prod.fst, ∀ chip, chip? = some chip →
      P (.controlIn Request.readWord.code 0 address 2 o.readTimeout)) :
    Sends P o chip? (eraseEeprom : Action (Probe β) κ (Option UInt8)) := by
  apply Sends.tracked
  apply sends_link_bind
  intro l hl
  dsimp only
  split
  · exact (decides_throw _).sends
  apply (sends_controlOut _ _ _ _ herase).bind
  intro _
  apply (sends_controlOut _ _ _ _ hprobe).bind
  intro _
  apply (sends_findProbe _ hread).bind
  intro part
  apply (sends_controlOut _ _ _ _ herase).bind
  intro _
  exact (sends_note _ _).bind fun _ => (decides_pure _).sends

lemma exec_detach_seen (w : Hosted (Probe β) κ) :
    ∃ v, exec detach w = (.ok (), v) ∧ v.bus.seen = w.bus.seen := by
  cases hbinding : w.session.binding with
  | opened l =>
    obtain ⟨entries, hexec⟩ := exec_detach hbinding
    exact ⟨_, hexec, Probe.quiet_release l.handle w.bus⟩
  | closed => exact ⟨w, by simp [detach, hbinding], rfl⟩
  | destroyed => exact ⟨w, by simp [detach, hbinding], rfl⟩

lemma Sends.orDetach {step : Action (Probe β) κ Unit} (hstep : Sends P o chip? step)
    (cause : Error → Error) : Sends P o chip? (orDetach cause step) :=
  hstep.tryCatch fun e w => by
    obtain ⟨v, hdetach, hseen⟩ := exec_detach_seen w
    rw [Attempt.exec_bind, hdetach]
    exact ⟨cause e, v, rfl, hseen⟩

end Operations

end UsbSerial.Session
