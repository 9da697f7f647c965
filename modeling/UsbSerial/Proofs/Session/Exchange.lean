import Mathlib.Data.Nat.Notation
import UsbSerial.Proofs.Session.Action
import UsbSerial.Session.Call

/-! How an operation of an opened session goes about its work: it looks at the session and at what
it was given, and only then exchanges anything with the device. -/

namespace UsbSerial

def Error.rejects (e : Error) : Bool :=
  match e.kind with
  | .invalidState | .destroyed | .config | .outOfRange => true
  | _ => false

namespace Session

open Attempt (exec)

variable {β δ κ α γ : Type}

section Decisions

structure Decides (m : Action β κ α) : Prop where
  still : ∀ w, ∃ log, (exec m w).2 = { w with log }
  same : ∀ w w', w'.session = w.session → (exec m w').1 = (exec m w).1

lemma Decides.of_still {m : Action β κ α} (hstill : ∀ w, (exec m w).2 = w)
    (hsame : ∀ w w', w'.session = w.session → (exec m w').1 = (exec m w).1) : Decides m where
  still w := ⟨w.log, hstill w⟩
  same := hsame

lemma decides_pure (a : α) : Decides (pure a : Action β κ α) :=
  .of_still (fun _ => rfl) fun _ _ _ => rfl

lemma decides_throw (e : Error) : Decides (throw e : Action β κ α) :=
  .of_still (fun _ => rfl) fun _ _ _ => rfl

lemma decides_lift (r : Except Error α) : Decides (liftM r : Action β κ α) :=
  .of_still (fun _ => rfl) fun _ _ _ => rfl

lemma decides_session : Decides (session : Action β κ (Session κ)) := by
  refine .of_still (fun w => by rw [exec_session]) fun w w' h => ?_
  rw [exec_session, exec_session, h]

lemma decides_note (level : Log.Level) (text : String) :
    Decides (note level text : Action β κ Unit) where
  still w := ⟨_, by rw [exec_note]⟩
  same _ _ _ := rfl

lemma decides_link (operation : Operation) : Decides (link operation : Action β κ (Link κ)) := by
  refine .of_still (fun w => ?_) fun w w' h => ?_
  · rw [exec_link]
    split <;> rfl
  · rw [exec_link, exec_link, h]
    split <;> rfl

lemma decides_require (operation : Operation) (allowed : State → Bool) :
    Decides (require operation allowed : Action β κ Unit) := by
  refine .of_still (fun w => ?_) fun w w' h => ?_
  · rw [exec_require]
    split
    · rfl
    · split <;> rfl
  · rw [exec_require, exec_require, h]
    split
    · rfl
    · split <;> rfl

lemma Decides.bind {m : Action β κ α} {f : α → Action β κ γ} (hm : Decides m)
    (hf : ∀ a, Decides (f a)) : Decides (m >>= f) where
  still w := by
    obtain ⟨log, hlog⟩ := hm.still w
    rw [Attempt.exec_bind]
    rcases hexec : exec m w with ⟨e | a, v⟩
    · rw [hexec] at hlog
      exact ⟨log, hlog⟩
    · rw [hexec] at hlog
      cases hlog
      exact (hf a).still { w with log }
  same w w' h := by
    have hsame := hm.same w w' h
    obtain ⟨log, hlog⟩ := hm.still w
    obtain ⟨log', hlog'⟩ := hm.still w'
    rw [Attempt.exec_bind, Attempt.exec_bind]
    rcases hexec : exec m w with ⟨r, v⟩
    rcases hexec' : exec m w' with ⟨r', v'⟩
    rw [hexec] at hsame hlog
    rw [hexec'] at hsame hlog'
    cases hsame
    cases hlog
    cases hlog'
    cases r with
    | error e => rfl
    | ok a => exact (hf a).same { w with log } { w' with log := log' } h

end Decisions

inductive Use
  | enumerate
  | texts
  | claim
  | release
  | controlOut (request : Request) (value : UInt16)
  | controlIn (request : Request)
  | bulkOut
  | bulkIn
  deriving DecidableEq

variable [Transport β δ κ]

/-- Made of allowed transfers, with handles of one's own. Nothing is rejected on the way. -/
inductive Exchanges (own : κ → Prop) (allowed : Use → Prop) : {α : Type} → Action β κ α → Prop
  | pure {α : Type} (a : α) : Exchanges own allowed (Pure.pure a)
  | fail {α : Type} (e : Error) :
      e.rejects = false → Exchanges own allowed (throw e : Action β κ α)
  | bind {α γ : Type} {m : Action β κ α} {f : α → Action β κ γ} :
      Exchanges own allowed m → (∀ a, Exchanges own allowed (f a)) → Exchanges own allowed (m >>= f)
  | tracked {α : Type} {m : Action β κ α} :
      Exchanges own allowed m → Exchanges own allowed (tracked m)
  | note (level : Log.Level) (text : String) : Exchanges own allowed (note level text)
  | session : Exchanges own allowed session
  | modifyLink (g : Link κ → Link κ) :
      (∀ l, (g l).handle = l.handle) → Exchanges own allowed (modifyLink g)
  | controlOut (operation : Operation) (request : Request) (value index : UInt16) :
      allowed (.controlOut request value) →
      Exchanges own allowed (controlOut operation request value index)
  | controlIn (operation : Operation) (request : Request) (index length : UInt16) :
      allowed (.controlIn request) →
      Exchanges own allowed (controlIn operation request index length)
  | bulkOut (operation : Operation) (data : List UInt8) :
      allowed .bulkOut → Exchanges own allowed (bulkOut operation data)
  | bulkIn (handle : κ) (endpoint : UInt8) (limit : ℕ) (timeout : Duration) :
      own handle → allowed .bulkIn →
      Exchanges own allowed
        (onHost (Host.call .transport (Transport.bulkIn handle endpoint limit timeout)))

/-- Whatever is rejected is rejected before the first transfer. -/
inductive Orderly (own : κ → Prop) (allowed : Use → Prop) : {α : Type} → Action β κ α → Prop
  | exchanges {α : Type} {m : Action β κ α} : Exchanges own allowed m → Orderly own allowed m
  | decides {α : Type} {m : Action β κ α} : Decides m → Orderly own allowed m
  | after {α γ : Type} {m : Action β κ α} {f : α → Action β κ γ} :
      Decides m → (∀ a, Orderly own allowed (f a)) → Orderly own allowed (m >>= f)
  | linked {α : Type} (operation : Operation) {f : Link κ → Action β κ α} :
      (∀ l, own l.handle → Orderly own allowed (f l)) →
      Orderly own allowed (link operation >>= f)
  | tracked {α : Type} {m : Action β κ α} : Orderly own allowed m → Orderly own allowed (tracked m)
  | map {α γ : Type} (f : α → γ) {m : Action β κ α} :
      Orderly own allowed m → Orderly own allowed (f <$> m)

variable {own : κ → Prop} {allowed : Use → Prop}

section Rules

lemma Exchanges.mapM {ι : Type} {f : ι → Action β κ α} (hf : ∀ i, Exchanges own allowed (f i))
    (is : List ι) : Exchanges own allowed (is.mapM f) := by
  induction is with
  | nil => exact .pure []
  | cons i is ih =>
    rw [List.mapM_cons]
    exact (hf i).bind fun _ => ih.bind fun _ => .pure _

lemma Exchanges.forM {ι : Type} {f : ι → Action β κ PUnit} (hf : ∀ i, Exchanges own allowed (f i))
    (is : List ι) : Exchanges own allowed (is.forM f) := by
  induction is with
  | nil => exact .pure PUnit.unit
  | cons i is ih => exact (hf i).bind fun _ => ih

lemma Orderly.done {m : Action β κ Unit} (h : Orderly own allowed m) :
    Orderly own allowed (Call.run.done m : Action β κ (Answer δ)) := by
  have hmap : (Call.run.done m : Action β κ (Answer δ)) = (fun _ => .done) <$> m :=
    (map_eq_pure_bind _ _).symm
  rw [hmap]
  exact h.map _

lemma exchanges_channelIndex : Exchanges own allowed (channelIndex : Action β κ UInt16) :=
  Exchanges.session.bind fun _ => .pure _

end Rules

section Operations

lemma exchanges_request (operation : Operation) {request : Request} {value : UInt16}
    (h : allowed (.controlOut request value)) (index : UInt16 → UInt16) :
    Exchanges own allowed
      (do controlOut operation request value (index (← channelIndex)) : Action β κ Unit) :=
  exchanges_channelIndex.bind fun _ => .controlOut operation request value _ h

lemma orderly_request (operation : Operation) {request : Request} {value : UInt16}
    (h : allowed (.controlOut request value)) (index : UInt16 → UInt16) :
    Orderly own allowed (tracked do
      controlOut operation request value (index (← channelIndex)) : Action β κ Unit) :=
  .exchanges (exchanges_request operation h index).tracked

lemma orderly_query (operation : Operation) {request : Request} (h : allowed (.controlIn request))
    (length : UInt16) (f : Reply length.toNat → α) :
    Orderly own allowed (tracked do
      return f (← controlIn operation request (← channelIndex) length) : Action β κ α) :=
  .exchanges (.tracked (exchanges_channelIndex.bind fun _ =>
    (Exchanges.controlIn operation request _ length h).bind fun _ => .pure _))

lemma exchanges_resetEngine (h : allowed (.controlOut .reset Request.resetEngine)) :
    Exchanges own allowed (resetEngine : Action β κ Unit) :=
  .bind exchanges_channelIndex fun _ =>
    .bind (.controlOut _ _ _ _ h) fun _ => .modifyLink _ fun _ => rfl

lemma exchanges_purgeReceive (h : allowed (.controlOut .reset Request.purgeReceive)) :
    Exchanges own allowed (purgeReceive : Action β κ Unit) :=
  .tracked (.bind exchanges_channelIndex fun _ =>
    .bind (.controlOut _ _ _ _ h) fun _ => .modifyLink _ fun _ => rfl)

lemma orderly_programBaudRate (h : ∀ value, allowed (.controlOut .baudRate value))
    (rate : UInt32) : Orderly own allowed (programBaudRate rate : Action β κ Unit) := by
  apply Orderly.after (decides_link _)
  intro link
  apply Orderly.after decides_session
  intro s
  apply Orderly.after (decides_lift _)
  intro setting
  apply Orderly.exchanges
  apply (Exchanges.controlOut _ _ _ _ (h setting.value)).bind
  intro _
  exact .bind (.modifyLink _ fun _ => rfl) fun _ => .note _ _

lemma orderly_setLatency (ms : UInt8) (h : allowed (.controlOut .setLatency ms.toUInt16)) :
    Orderly own allowed (setLatency ms : Action β κ Unit) := by
  apply Orderly.tracked
  split
  · exact .decides (decides_throw _)
  · exact .exchanges (exchanges_request _ h fun index => index)

lemma exchanges_programBitMode (operation : Operation) (mask : UInt8) (mode : BitMode)
    (h : allowed (.controlOut .bitMode (Word.ofBytes mask mode.code))) :
    Exchanges own allowed (programBitMode operation mask mode : Action β κ Unit) := by
  apply exchanges_channelIndex.bind
  intro index
  apply (Exchanges.controlOut _ _ _ _ h).bind
  intro _
  exact .bind (.modifyLink _ fun _ => rfl) fun _ => .note _ _

lemma orderly_select (operation : Operation) (accepts : State → Bool) (mask : UInt8)
    (mode : BitMode) (h : allowed (.controlOut .bitMode (Word.ofBytes mask mode.code))) :
    Orderly own allowed (tracked do
      require operation accepts
      programBitMode operation mask mode : Action β κ Unit) :=
  .tracked (.after (decides_require _ _) fun _ => .exchanges (exchanges_programBitMode _ _ _ h))

lemma orderly_writeBitBang (h : allowed .bulkOut) (frame : UInt8) :
    Orderly own allowed (writeBitBang frame : Action β κ ℕ) := by
  refine .tracked (.after (decides_require _ _) fun _ => .exchanges ?_)
  apply (Exchanges.bulkOut _ _ h).bind
  intro n
  split
  · exact .pure 1
  · exact .fail _ rfl

lemma exchanges_writePieces (h : allowed .bulkOut) (total : ℕ) (data : List (List UInt8))
    (written : ℕ) : Exchanges own allowed (writePieces total data written : Action β κ ℕ) := by
  induction data generalizing written with
  | nil => exact .pure written
  | cons piece rest ih =>
    apply (Exchanges.bulkOut _ _ h).bind
    intro n
    split
    · exact .fail _ rfl
    · exact ih _

lemma orderly_write (h : allowed .bulkOut) (data : List UInt8) :
    Orderly own allowed (write data : Action β κ ℕ) :=
  .tracked (.after (decides_require _ _) fun _ => .after decides_session fun _ =>
    .exchanges (exchanges_writePieces h _ _ _))

lemma orderly_read (h : allowed .bulkIn) (room : ℕ) :
    Orderly own allowed (read room : Action β κ (List UInt8)) := by
  apply Orderly.tracked
  apply Orderly.after (decides_require _ _)
  intro _
  split
  · exact .decides (decides_pure _)
  apply Orderly.after decides_session
  intro s
  apply Orderly.linked
  intro link hown
  apply Orderly.exchanges
  split
  · apply (Exchanges.bulkIn _ _ _ _ hown h).bind
    intro data
    exact .bind (.modifyLink _ fun _ => rfl) fun _ => .pure _
  · exact .bind (.modifyLink _ fun _ => rfl) fun _ => .pure _

lemma exchanges_memoryWord (operation : Operation) (h : allowed (.controlIn .readWord))
    (address : UInt16) : Exchanges own allowed (memoryWord operation address : Action β κ UInt16) :=
  (Exchanges.controlIn _ _ _ _ h).bind fun _ => .pure _

lemma decides_requireAddress (operation : Operation) (address : UInt16) :
    Decides (requireAddress operation address : Action β κ Unit) := by
  apply (decides_link _).bind
  intro link
  dsimp only
  split
  · exact decides_throw _
  · exact decides_pure _

lemma orderly_readChipId (h : allowed (.controlIn .readWord)) :
    Orderly own allowed (readChipId : Action β κ UInt32) := by
  apply Orderly.tracked
  apply Orderly.after (decides_link _)
  intro link
  split
  · exact .decides (decides_throw _)
  apply Orderly.exchanges
  apply (exchanges_memoryWord _ h _).bind
  intro high
  apply (exchanges_memoryWord _ h _).bind
  intro low
  exact (Exchanges.note _ _).bind fun _ => .pure _

lemma orderly_readEeprom (h : allowed (.controlIn .readWord)) :
    Orderly own allowed (readEeprom : Action β κ Eeprom.Image) := by
  apply Orderly.tracked
  apply Orderly.after (decides_link _)
  intro link
  apply Orderly.exchanges
  apply (Exchanges.mapM (fun _ => exchanges_memoryWord _ h _) _).bind
  intro words
  exact (Exchanges.note _ _).bind fun _ => .pure _

lemma orderly_writeEeprom (hreset : allowed (.controlOut .reset Request.resetEngine))
    (hlatency : allowed (.controlOut .setLatency writingLatency))
    (hword : ∀ value, allowed (.controlOut .writeWord value)) (image : Eeprom.Image) :
    Orderly own allowed (writeEeprom image : Action β κ Unit) := by
  apply Orderly.tracked
  apply Orderly.after (decides_link _)
  intro link
  dsimp only
  split
  · exact .decides (decides_throw _)
  apply Orderly.exchanges
  apply exchanges_channelIndex.bind
  intro _
  apply (Exchanges.controlOut _ _ _ _ hreset).bind
  intro _
  apply exchanges_channelIndex.bind
  intro _
  apply (Exchanges.controlOut _ _ _ _ hlatency).bind
  intro _
  apply (Exchanges.forM (fun word => Exchanges.controlOut _ _ _ _ (hword _)) _).bind
  intro _
  exact .note _ _

lemma exchanges_findProbe (h : allowed (.controlIn .readWord)) (probes : List (UInt16 × UInt8)) :
    Exchanges own allowed (findProbe probes : Action β κ (Option UInt8)) := by
  induction probes with
  | nil => exact .pure none
  | cons probe rest ih =>
    apply (exchanges_memoryWord _ h _).bind
    intro word
    split
    · exact .pure _
    · exact ih

lemma orderly_eraseEeprom (herase : allowed (.controlOut .eraseEeprom 0))
    (hprobe : allowed (.controlOut .writeWord Eeprom.Dump.probeWord))
    (hread : allowed (.controlIn .readWord)) :
    Orderly own allowed (eraseEeprom : Action β κ (Option UInt8)) := by
  apply Orderly.tracked
  apply Orderly.after (decides_link _)
  intro link
  dsimp only
  split
  · exact .decides (decides_throw _)
  apply Orderly.exchanges
  apply (Exchanges.controlOut _ _ _ _ herase).bind
  intro _
  apply (Exchanges.controlOut _ _ _ _ hprobe).bind
  intro _
  apply (exchanges_findProbe hread _).bind
  intro part
  apply (Exchanges.controlOut _ _ _ _ herase).bind
  intro _
  exact (Exchanges.note _ _).bind fun _ => .pure _

end Operations

section Calls

def Use.opens (u : Use) : Prop :=
  u = .enumerate ∨ u = .texts ∨ u = .claim ∨ u = .release ∨
    u = .controlOut .reset Request.resetEngine ∨ ∃ value, u = .controlOut .baudRate value

def Call.uses (u : Use) : Call δ → Prop
  | .findAll _ _ => u = .enumerate ∨ u = .texts
  | .openFirst _ _ | .openMatching _ | .openFound _ => u.opens
  | .close => u = .release
  | .destroy | .setChannel _ | .setReadTimeout _ | .setWriteTimeout _ | .setWriteChunk _ => False
  | .reset => u = .controlOut .reset Request.resetEngine
  | .purgeReceive => u = .controlOut .reset Request.purgeReceive
  | .purgeTransmit => u = .controlOut .reset Request.purgeTransmit
  | .purge =>
      u = .controlOut .reset Request.purgeReceive ∨ u = .controlOut .reset Request.purgeTransmit
  | .setBaudRate _ => ∃ value, u = .controlOut .baudRate value
  | .setLineFormat format => u = .controlOut .lineFormat format.word
  | .setLatency ms => u = .controlOut .setLatency ms.toUInt16
  | .latency => u = .controlIn .latency
  | .setHandshake handshake => u = .controlOut .handshake handshake.characters
  | .setDtr high => u = .controlOut .modemControl (Line.dtrLevel high)
  | .setRts high => u = .controlOut .modemControl (Line.rtsLevel high)
  | .setDtrRts dtr rts =>
      u = .controlOut .modemControl (Line.dtrLevel dtr ||| Line.rtsLevel rts)
  | .setEventCharacter c enabled =>
      u = .controlOut .eventCharacter (Word.ofBytes c (flag 1 enabled))
  | .setErrorCharacter c enabled =>
      u = .controlOut .errorCharacter (Word.ofBytes c (flag 1 enabled))
  | .modemStatus => u = .controlIn .modemStatus
  | .write _ | .writeBitBang _ => u = .bulkOut
  | .read _ => u = .bulkIn
  | .enableBitBang mask => u = .controlOut .bitMode (Word.ofBytes mask BitMode.bitBang.code)
  | .disableBitBang => u = .controlOut .bitMode (Word.ofBytes 0 BitMode.reset.code)
  | .setBitMode mask mode => u = .controlOut .bitMode (Word.ofBytes mask mode.code)
  | .readPins => u = .controlIn .pins
  | .readChipId | .readWord _ | .readEeprom => u = .controlIn .readWord
  | .writeWord _ value => u = .controlOut .writeWord value
  | .writeEeprom _ => u = .controlOut .reset Request.resetEngine ∨
      u = .controlOut .setLatency writingLatency ∨ ∃ value, u = .controlOut .writeWord value
  | .eraseEeprom => u = .controlOut .eraseEeprom 0 ∨
      u = .controlOut .writeWord Eeprom.Dump.probeWord ∨ u = .controlIn .readWord

def Call.exchanges : Call δ → Bool
  | .findAll _ _ | .openFirst _ _ | .openMatching _ | .openFound _ | .close | .destroy
  | .setChannel _ | .setReadTimeout _ | .setWriteTimeout _ | .setWriteChunk _ => false
  | _ => true

theorem Call.orderly (c : Call δ) (hc : c.exchanges = true) (h : ∀ u, c.uses u → allowed u) :
    Orderly own allowed (c.run : Action β κ (Answer δ)) := by
  cases c with
  | reset => exact (Orderly.exchanges (exchanges_resetEngine (h _ rfl)).tracked).done
  | purgeReceive => exact (Orderly.exchanges (exchanges_purgeReceive (h _ rfl))).done
  | purgeTransmit => exact (orderly_request _ (h _ rfl) fun index => index).done
  | purge =>
    exact (Orderly.exchanges ((exchanges_purgeReceive (h _ (.inl rfl))).bind fun _ =>
      (exchanges_request _ (h _ (.inr rfl)) fun index => index).tracked)).done
  | setBaudRate rate =>
    exact (orderly_programBaudRate (fun value => h _ ⟨value, rfl⟩) rate).tracked.done
  | setLineFormat format => exact (orderly_request _ (h _ rfl) fun index => index).done
  | setLatency ms => exact (orderly_setLatency ms (h _ rfl)).done
  | latency => exact (orderly_query _ (h _ rfl) _ _).map _
  | setHandshake handshake =>
    exact (orderly_request _ (h _ rfl) fun index => handshake.code ||| index).done
  | setDtr high => exact (orderly_request _ (h _ rfl) fun index => index).done
  | setRts high => exact (orderly_request _ (h _ rfl) fun index => index).done
  | setDtrRts dtr rts => exact (orderly_request _ (h _ rfl) fun index => index).done
  | setEventCharacter c enabled => exact (orderly_request _ (h _ rfl) fun index => index).done
  | setErrorCharacter c enabled => exact (orderly_request _ (h _ rfl) fun index => index).done
  | modemStatus => exact (orderly_query _ (h _ rfl) _ _).map _
  | write data => exact (orderly_write (h _ rfl) data).map _
  | read room => exact (orderly_read (h _ rfl) room).map _
  | enableBitBang mask => exact (orderly_select _ _ mask .bitBang (h _ rfl)).done
  | writeBitBang frame => exact (orderly_writeBitBang (h _ rfl) frame).map _
  | disableBitBang => exact (orderly_select _ _ 0 .reset (h _ rfl)).done
  | setBitMode mask mode => exact (orderly_select _ _ mask mode (h _ rfl)).done
  | readPins => exact (orderly_query _ (h _ rfl) _ _).map _
  | readChipId => exact (orderly_readChipId (h _ rfl)).map _
  | readWord address =>
    exact (Orderly.tracked (.after (decides_requireAddress _ _) fun _ =>
      .exchanges (exchanges_memoryWord _ (h _ rfl) _))).map _
  | writeWord address value =>
    exact (Orderly.tracked (.after (decides_requireAddress _ _) fun _ =>
      .exchanges (.controlOut _ _ _ _ (h _ rfl)))).done
  | readEeprom => exact (orderly_readEeprom (h _ rfl)).map _
  | writeEeprom image =>
    exact (orderly_writeEeprom (h _ (.inl rfl)) (h _ (.inr (.inl rfl)))
      (fun value => h _ (.inr (.inr ⟨value, rfl⟩))) image).done
  | eraseEeprom =>
    exact (orderly_eraseEeprom (h _ (.inl rfl)) (h _ (.inr (.inl rfl)))
      (h _ (.inr (.inr rfl)))).map _
  | _ => cases hc

end Calls

end Session

end UsbSerial
