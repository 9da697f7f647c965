import Mathlib.Data.Nat.Notation
import Mathlib.Tactic.Lemma
import UsbSerial.Session.Call

/-! Views of a bus. What a session does hangs on the answers of its bus, and on nothing else of it:
on a bus and on a view of that bus it gets the same results and ends the same. -/

namespace UsbSerial

open Attempt (exec)

section Shows

variable {σ τ ε α γ ι : Type} {g : σ → τ} {m : Attempt σ ε α} {m' : Attempt τ ε α}

namespace Attempt

def Shows (g : σ → τ) (m : Attempt σ ε α) (m' : Attempt τ ε α) : Prop :=
  ∀ s, exec m' (g s) = ((exec m s).1, g (exec m s).2)

namespace Shows

lemma pure (a : α) : Shows g (Pure.pure a : Attempt σ ε α) (Pure.pure a) := fun _ => rfl

lemma throw (e : ε) : Shows g (MonadExcept.throw e : Attempt σ ε α) (MonadExcept.throw e) :=
  fun _ => rfl

lemma lift (r : Except ε α) : Shows g (liftM r : Attempt σ ε α) (liftM r) := fun _ => rfl

lemma bind {f : α → Attempt σ ε γ} {f' : α → Attempt τ ε γ} (hm : Shows g m m')
    (hf : ∀ a, Shows g (f a) (f' a)) : Shows g (m >>= f) (m' >>= f') := by
  intro s
  rw [exec_bind, exec_bind, hm s]
  rcases exec m s with ⟨e | a, t⟩
  · rfl
  · exact hf a t

lemma map (f : α → γ) (hm : Shows g m m') : Shows g (f <$> m) (f <$> m') := by
  intro s
  rw [exec_map, exec_map, hm s]
  rcases exec m s with ⟨e | a, t⟩ <;> rfl

lemma tryCatch {f : ε → Attempt σ ε α} {f' : ε → Attempt τ ε α} (hm : Shows g m m')
    (hf : ∀ e, Shows g (f e) (f' e)) : Shows g (tryCatch m f) (tryCatch m' f') := by
  intro s
  rw [exec_tryCatch, exec_tryCatch, hm s]
  rcases exec m s with ⟨e | a, t⟩
  · exact hf e t
  · rfl

lemma ite {n : Attempt σ ε α} {n' : Attempt τ ε α} {p : Prop} [Decidable p] (hm : Shows g m m')
    (hn : Shows g n n') : Shows g (if p then m else n) (if p then m' else n') := by
  split
  · exact hm
  · exact hn

lemma mapM {f : ι → Attempt σ ε α} {f' : ι → Attempt τ ε α} (hf : ∀ i, Shows g (f i) (f' i))
    (is : List ι) : Shows g (is.mapM f) (is.mapM f') := by
  induction is with
  | nil => exact Shows.pure []
  | cons i is ih =>
    rw [List.mapM_cons, List.mapM_cons]
    exact (hf i).bind fun _ => ih.bind fun _ => Shows.pure _

lemma forM {f : ι → Attempt σ ε PUnit} {f' : ι → Attempt τ ε PUnit}
    (hf : ∀ i, Shows g (f i) (f' i)) (is : List ι) : Shows g (is.forM f) (is.forM f') := by
  induction is with
  | nil => exact Shows.pure PUnit.unit
  | cons i is ih => exact (hf i).bind fun _ => ih

end Shows

end Attempt

end Shows

open Attempt (Shows)

variable {β β' δ κ α : Type} [Transport β δ κ] [Transport β' δ κ] {f : β → β'}

structure Transport.View (f : β → β') : Prop where
  enumerate (vendor product : UInt16) :
    Shows f (Transport.enumerate vendor product) (Transport.enumerate vendor product)
  ids (device : δ) (bus : β) : Transport.ids device (f bus) = Transport.ids device bus
  texts (device : δ) (timeout : Duration) :
    Shows f (Transport.texts device timeout) (Transport.texts device timeout)
  claim (device : δ) (channel : UInt8) :
    Shows f (Transport.claim device channel) (Transport.claim device channel)
  controlOut (handle : κ) (request : UInt8) (value index : UInt16) (timeout : Duration) :
    Shows f (Transport.controlOut handle request value index timeout)
      (Transport.controlOut handle request value index timeout)
  controlIn (handle : κ) (request : UInt8) (value index length : UInt16) (timeout : Duration) :
    Shows f (Transport.controlIn handle request value index length timeout)
      (Transport.controlIn handle request value index length timeout)
  bulkOut (handle : κ) (endpoint : UInt8) (data : List UInt8) (timeout : Duration) :
    Shows f (Transport.bulkOut handle endpoint data timeout)
      (Transport.bulkOut handle endpoint data timeout)
  bulkIn (handle : κ) (endpoint : UInt8) (limit : ℕ) (timeout : Duration) :
    Shows f (Transport.bulkIn handle endpoint limit timeout)
      (Transport.bulkIn handle endpoint limit timeout)
  release (handle : κ) : Shows f (Transport.release handle) (Transport.release handle)

def Host.view (f : β → β') (h : Host β) : Host β' := { bus := f h.bus, log := h.log }

def Hosted.view (f : β → β') (w : Hosted β κ) : Hosted β' κ :=
  { w.toHost.view f with session := w.session }

namespace Device

variable (h : Transport.View f) (options : Session.Options)

lemma shows_note (level : Log.Level) (text : String) :
    Shows (Host.view f) (Host.note level text) (Host.note level text) := fun _ => rfl

lemma shows_call {c : Attempt β Usb.Error α} {c' : Attempt β' Usb.Error α} (hc : Shows f c c')
    (cause : Usb.Error → Error) : Shows (Host.view f) (Host.call cause c) (Host.call cause c') := by
  intro host
  rw [Host.exec_call, Host.exec_call, Host.view, hc host.bus]
  rfl

include h

lemma shows_readTexts (device : δ) :
    Shows (Host.view f) (readTexts options device) (readTexts options device) :=
  shows_call (h.texts device options.readTimeout) .enumeration

lemma shows_enumerate (vendor product : UInt16) :
    Shows (Host.view f) (enumerate vendor product) (enumerate vendor product) :=
  shows_call (h.enumerate vendor product) .enumeration

lemma shows_describe (device : δ) :
    Shows (Host.view f) (describe options device) (describe options device) := by
  intro host
  have hids : Transport.ids device (host.view f).bus = Transport.ids device host.bus :=
    h.ids device host.bus
  have htexts := shows_readTexts h options device host
  simp only [describe, Attempt.exec_bind, Attempt.exec_get, htexts, hids]
  rcases exec (readTexts options device) host with ⟨e | texts, host'⟩ <;> rfl

lemma shows_findAll (vendor product : UInt16) :
    Shows (Host.view f) (findAll options vendor product) (findAll options vendor product) := by
  apply (shows_enumerate h vendor product).bind
  intro devices
  apply (Shows.mapM (shows_describe h options) devices).bind
  intro found
  exact (shows_note _ _).bind fun _ => .pure found

lemma shows_matching (filter : Filter) (device : δ) :
    Shows (Host.view f) (matching options filter device) (matching options filter device) :=
  .ite ((shows_readTexts h options device).bind fun _ => .pure _) (.pure true)

lemma shows_pick (filter : Filter) (skip : ℕ) (devices : List δ) :
    Shows (Host.view f) (pick options filter skip devices) (pick options filter skip devices) := by
  induction devices generalizing skip with
  | nil => exact .throw _
  | cons device devices ih =>
    apply (shows_matching h options filter device).bind
    intro accepted
    cases accepted with
    | false => exact ih skip
    | true =>
      cases skip with
      | zero => exact .pure device
      | succ skip => exact ih skip

lemma shows_find (filter : Filter) :
    Shows (Host.view f) (find options filter) (find options filter) :=
  (shows_enumerate h filter.vendor filter.product).bind fun devices =>
    shows_pick h options filter filter.position devices

end Device

namespace Session

section Steps

lemma shows_onHost {m : Attempt (Host β) Error α} {m' : Attempt (Host β') Error α}
    (hm : Shows (Host.view f) m m') :
    Shows (Hosted.view f) (onHost m : Action β κ α) (onHost m') := by
  intro w
  rw [exec_onHost, exec_onHost]
  have hexec : exec m' (w.view f).toHost = _ := hm w.toHost
  rw [hexec]
  rfl

lemma shows_note (level : Log.Level) (text : String) :
    Shows (Hosted.view f) (note level text : Action β κ Unit) (note level text) := fun _ => rfl

lemma shows_session : Shows (Hosted.view f) (session : Action β κ (Session κ)) session :=
  fun _ => rfl

lemma shows_modifySession (g : Session κ → Session κ) :
    Shows (Hosted.view f) (modifySession g : Action β κ Unit) (modifySession g) := fun _ => rfl

lemma shows_tracked {m : Action β κ α} {m' : Action β' κ α} (hm : Shows (Hosted.view f) m m') :
    Shows (Hosted.view f) (tracked m) (tracked m') :=
  hm.tryCatch fun _ => (shows_note _ _).bind fun _ => (shows_modifySession _).bind fun _ => .throw _

omit [Transport β δ κ] [Transport β' δ κ] in
lemma shows_done {m : Action β κ Unit} {m' : Action β' κ Unit} (hm : Shows (Hosted.view f) m m') :
    Shows (Hosted.view f) (Call.run.done m : Action β κ (Answer δ)) (Call.run.done m') :=
  hm.bind fun _ => .pure _

lemma shows_require (operation : Operation) (allowed : State → Bool) :
    Shows (Hosted.view f) (require operation allowed : Action β κ Unit)
      (require operation allowed) := by
  apply shows_session.bind
  intro s
  cases s.state with
  | destroyed => exact .throw _
  | closed => exact .ite (.pure ()) (.throw _)
  | opened mode => exact .ite (.pure ()) (.throw _)

lemma shows_link (operation : Operation) :
    Shows (Hosted.view f) (link operation : Action β κ (Link κ)) (link operation) := by
  apply shows_session.bind
  intro s
  cases s.binding with
  | opened link => exact .pure link
  | closed => exact .throw _
  | destroyed => exact .throw _

lemma shows_channelIndex :
    Shows (Hosted.view f) (channelIndex : Action β κ UInt16) channelIndex :=
  shows_session.bind fun _ => .pure _

end Steps

variable (h : Transport.View f)
include h

section Transfers

lemma shows_controlOut (operation : Operation) (request : Request) (value index : UInt16) :
    Shows (Hosted.view f) (controlOut operation request value index : Action β κ Unit)
      (controlOut operation request value index) := by
  apply shows_session.bind
  intro s
  apply (shows_note _ _).bind
  intro _
  apply (shows_link operation).bind
  intro link
  exact shows_onHost (Device.shows_call (h.controlOut _ _ _ _ _) _)

lemma shows_controlIn (operation : Operation) (request : Request) (index length : UInt16) :
    Shows (Hosted.view f) (controlIn operation request index length : Action β κ _)
      (controlIn operation request index length) := by
  apply shows_session.bind
  intro s
  apply (shows_link operation).bind
  intro link
  apply (shows_onHost (Device.shows_call (h.controlIn _ _ _ _ _ _) _)).bind
  intro data
  apply (shows_note _ _).bind
  intro _
  split
  · exact .pure _
  · exact .throw _

lemma shows_bulkOut (operation : Operation) (data : List UInt8) :
    Shows (Hosted.view f) (bulkOut operation data : Action β κ ℕ) (bulkOut operation data) := by
  apply shows_session.bind
  intro s
  apply (shows_link operation).bind
  intro link
  apply (shows_onHost (Device.shows_call (h.bulkOut _ _ _ _) _)).bind
  intro n
  exact (shows_note _ _).bind fun _ => .pure n

lemma shows_request (operation : Operation) (request : Request) (value : UInt16)
    (index : UInt16 → UInt16) :
    Shows (Hosted.view f)
      (do controlOut operation request value (index (← channelIndex)) : Action β κ Unit)
      (do controlOut operation request value (index (← channelIndex))) :=
  shows_channelIndex.bind fun _ => shows_controlOut h operation request value _

lemma shows_query (operation : Operation) (request : Request) (length : UInt16)
    (g : Reply length.toNat → α) :
    Shows (Hosted.view f)
      (tracked do return g (← controlIn operation request (← channelIndex) length) : Action β κ α)
      (tracked do return g (← controlIn operation request (← channelIndex) length)) :=
  shows_tracked (shows_channelIndex.bind fun _ =>
    (shows_controlIn h operation request _ length).bind fun _ => .pure _)

end Transfers

section Operations

lemma shows_resetEngine :
    Shows (Hosted.view f) (resetEngine : Action β κ Unit) resetEngine := by
  apply shows_channelIndex.bind
  intro _
  exact (shows_controlOut h _ _ _ _).bind fun _ => shows_modifySession _

lemma shows_purgeReceive :
    Shows (Hosted.view f) (purgeReceive : Action β κ Unit) purgeReceive := by
  apply shows_tracked
  apply shows_channelIndex.bind
  intro _
  exact (shows_controlOut h _ _ _ _).bind fun _ => shows_modifySession _

lemma shows_programBaudRate (rate : UInt32) :
    Shows (Hosted.view f) (programBaudRate rate : Action β κ Unit) (programBaudRate rate) := by
  apply (shows_link _).bind
  intro link
  apply shows_session.bind
  intro s
  apply (Shows.lift _).bind
  intro setting
  apply (shows_controlOut h _ _ _ _).bind
  intro _
  exact (shows_modifySession _).bind fun _ => shows_note _ _

lemma shows_setLatency (ms : UInt8) :
    Shows (Hosted.view f) (setLatency ms : Action β κ Unit) (setLatency ms) :=
  shows_tracked (.ite (.throw _) (shows_request h _ _ _ fun index => index))

lemma shows_programBitMode (operation : Operation) (mask : UInt8) (mode : BitMode) :
    Shows (Hosted.view f) (programBitMode operation mask mode : Action β κ Unit)
      (programBitMode operation mask mode) := by
  apply shows_channelIndex.bind
  intro _
  apply (shows_controlOut h _ _ _ _).bind
  intro _
  exact (shows_modifySession _).bind fun _ => shows_note _ _

lemma shows_select (operation : Operation) (accepts : State → Bool) (mask : UInt8)
    (mode : BitMode) :
    Shows (Hosted.view f)
      (tracked do
        require operation accepts
        programBitMode operation mask mode : Action β κ Unit)
      (tracked do
        require operation accepts
        programBitMode operation mask mode) :=
  shows_tracked ((shows_require _ _).bind fun _ => shows_programBitMode h _ _ _)

lemma shows_writeBitBang (frame : UInt8) :
    Shows (Hosted.view f) (writeBitBang frame : Action β κ ℕ) (writeBitBang frame) := by
  apply shows_tracked
  apply (shows_require _ _).bind
  intro _
  exact (shows_bulkOut h _ _).bind fun n => .ite (.pure 1) (.throw _)

lemma shows_writePieces (total : ℕ) (data : List (List UInt8)) (written : ℕ) :
    Shows (Hosted.view f) (writePieces total data written : Action β κ ℕ)
      (writePieces total data written) := by
  induction data generalizing written with
  | nil => exact .pure written
  | cons piece rest ih => exact (shows_bulkOut h _ _).bind fun n => .ite (.throw _) (ih _)

lemma shows_write (data : List UInt8) :
    Shows (Hosted.view f) (write data : Action β κ ℕ) (write data) := by
  apply shows_tracked
  apply (shows_require _ _).bind
  intro _
  exact shows_session.bind fun _ => shows_writePieces h _ _ _

lemma shows_read (room : ℕ) :
    Shows (Hosted.view f) (read room : Action β κ (List UInt8)) (read room) := by
  apply shows_tracked
  apply (shows_require _ _).bind
  intro _
  refine .ite (.pure _) (shows_session.bind fun s => (shows_link _).bind fun link => ?_)
  split
  · apply (shows_onHost (Device.shows_call (h.bulkIn _ _ _ _) _)).bind
    intro data
    exact (shows_modifySession _).bind fun _ => .pure _
  · exact (shows_modifySession _).bind fun _ => .pure _

lemma shows_memoryWord (operation : Operation) (address : UInt16) :
    Shows (Hosted.view f) (memoryWord operation address : Action β κ UInt16)
      (memoryWord operation address) :=
  (shows_controlIn h _ _ _ _).bind fun _ => .pure _

omit h in
lemma shows_requireAddress (operation : Operation) (address : UInt16) :
    Shows (Hosted.view f) (requireAddress operation address : Action β κ Unit)
      (requireAddress operation address) :=
  (shows_link _).bind fun _ => .ite (.throw _) (.pure _)

lemma shows_readChipId :
    Shows (Hosted.view f) (readChipId : Action β κ UInt32) readChipId := by
  apply shows_tracked
  apply (shows_link _).bind
  intro link
  refine .ite (.throw _) ?_
  apply (shows_memoryWord h _ _).bind
  intro high
  apply (shows_memoryWord h _ _).bind
  intro low
  exact (shows_note _ _).bind fun _ => .pure _

lemma shows_readEeprom :
    Shows (Hosted.view f) (readEeprom : Action β κ Eeprom.Image) readEeprom := by
  apply shows_tracked
  apply (shows_link _).bind
  intro link
  apply (Shows.mapM (fun _ => shows_memoryWord h _ _) _).bind
  intro words
  exact (shows_note _ _).bind fun _ => .pure _

lemma shows_writeEeprom (image : Eeprom.Image) :
    Shows (Hosted.view f) (writeEeprom image : Action β κ Unit) (writeEeprom image) := by
  apply shows_tracked
  apply (shows_link _).bind
  intro link
  refine .ite (.throw _) ?_
  apply shows_channelIndex.bind
  intro _
  apply (shows_controlOut h _ _ _ _).bind
  intro _
  apply shows_channelIndex.bind
  intro _
  apply (shows_controlOut h _ _ _ _).bind
  intro _
  apply (Shows.forM (fun _ => shows_controlOut h _ _ _ _) _).bind
  intro _
  exact shows_note _ _

lemma shows_findProbe (probes : List (UInt16 × UInt8)) :
    Shows (Hosted.view f) (findProbe probes : Action β κ (Option UInt8)) (findProbe probes) := by
  induction probes with
  | nil => exact .pure none
  | cons probe rest ih => exact (shows_memoryWord h _ _).bind fun _ => .ite (.pure _) ih

lemma shows_eraseEeprom :
    Shows (Hosted.view f) (eraseEeprom : Action β κ (Option UInt8)) eraseEeprom := by
  apply shows_tracked
  apply (shows_link _).bind
  intro link
  refine .ite (.throw _) ?_
  apply (shows_controlOut h _ _ _ _).bind
  intro _
  apply (shows_controlOut h _ _ _ _).bind
  intro _
  apply (shows_findProbe h _).bind
  intro part
  apply (shows_controlOut h _ _ _ _).bind
  intro _
  exact (shows_note _ _).bind fun _ => .pure part

end Operations

section Opening

lemma shows_detach : Shows (Hosted.view f) (detach : Action β κ Unit) detach := by
  apply shows_session.bind
  intro s
  cases s.binding with
  | opened link =>
    have houtcome : Shows (Host.view f) (Host.outcome (Transport.release link.handle))
        (Host.outcome (Transport.release link.handle)) := by
      intro host
      rw [Host.exec_outcome, Host.exec_outcome, Host.view, h.release link.handle host.bus]
      rfl
    apply (shows_onHost houtcome).bind
    rintro (e | ⟨⟩)
    · exact (shows_note _ _).bind fun _ => shows_modifySession _
    · exact shows_modifySession _
  | closed => exact .pure ()
  | destroyed => exact .pure ()

lemma shows_orDetach (cause : Error → Error) {step : Action β κ Unit} {step' : Action β' κ Unit}
    (hstep : Shows (Hosted.view f) step step') :
    Shows (Hosted.view f) (orDetach cause step) (orDetach cause step') :=
  hstep.tryCatch fun _ => (shows_detach h).bind fun _ => .throw _

lemma shows_attach (device : δ) :
    Shows (Hosted.view f) (attach device : Action β κ Unit) (attach device) := by
  have hclaim : Shows (Hosted.view f) (claim device : Action β κ (Usb.Claim κ)) (claim device) := by
    apply shows_session.bind
    intro s
    apply (shows_onHost (Device.shows_call (h.claim _ _) _)).bind
    intro claim
    have hrecord : Shows (Host.view f) (Host.record claim.notes) (Host.record claim.notes) :=
      fun _ => rfl
    exact (shows_onHost hrecord).bind fun _ => .pure claim
  apply hclaim.bind
  intro claim
  apply shows_session.bind
  intro s
  apply (shows_note _ _).bind
  intro _
  apply (shows_modifySession _).bind
  intro _
  exact (shows_orDetach h _ (shows_resetEngine h)).bind fun _ =>
    shows_orDetach h _ (shows_programBaudRate h _)

omit h in
lemma shows_beginOpening :
    Shows (Hosted.view f) (beginOpening : Action β κ Unit) beginOpening :=
  (shows_require _ _).bind fun _ => shows_modifySession _

lemma shows_openMatching (filter : Device.Filter) :
    Shows (Hosted.view f) (openMatching filter : Action β κ Unit) (openMatching filter) := by
  apply shows_tracked
  apply shows_beginOpening.bind
  intro _
  apply shows_session.bind
  intro s
  exact (shows_onHost (Device.shows_find h s.options filter)).bind (shows_attach h)

lemma shows_openFound (descriptor : Device.Descriptor δ) :
    Shows (Hosted.view f) (openFound descriptor : Action β κ Unit) (openFound descriptor) :=
  shows_tracked (shows_beginOpening.bind fun _ => shows_attach h descriptor.device)

lemma shows_findAll (vendor product : UInt16) :
    Shows (Hosted.view f) (findAll vendor product : Action β κ (List (Device.Descriptor δ)))
      (findAll vendor product) := by
  apply shows_tracked
  apply (shows_require _ _).bind
  intro _
  exact shows_session.bind fun s => shows_onHost (Device.shows_findAll h s.options vendor product)

lemma shows_close : Shows (Hosted.view f) (close : Action β κ Unit) close := by
  apply shows_tracked
  apply (shows_require _ _).bind
  intro _
  exact (shows_detach h).bind fun _ => shows_note _ _

end Opening

theorem Call.shows (c : Call δ) :
    Shows (Hosted.view f) (c.run : Action β κ (Answer δ)) c.run := by
  cases c with
  | findAll vendor product => exact (shows_findAll h vendor product).map _
  | openFirst vendor product => exact shows_done (shows_openMatching h _)
  | openMatching filter => exact shows_done (shows_openMatching h filter)
  | openFound descriptor => exact shows_done (shows_openFound h descriptor)
  | close => exact shows_done (shows_close h)
  | destroy =>
    exact shows_done (shows_tracked ((shows_require _ _).bind fun _ =>
      (shows_modifySession _).bind fun _ => shows_note _ _))
  | setChannel channel =>
    exact shows_done (shows_tracked ((shows_require _ _).bind fun _ => shows_modifySession _))
  | setReadTimeout timeout => exact shows_done (shows_modifySession _)
  | setWriteTimeout timeout => exact shows_done (shows_modifySession _)
  | setWriteChunk n => exact shows_done (shows_modifySession _)
  | reset => exact shows_done (shows_tracked (shows_resetEngine h))
  | purgeReceive => exact shows_done (shows_purgeReceive h)
  | purgeTransmit => exact shows_done (shows_tracked (shows_request h _ _ _ fun index => index))
  | purge =>
    exact shows_done ((shows_purgeReceive h).bind fun _ =>
      shows_tracked (shows_request h _ _ _ fun index => index))
  | setBaudRate rate => exact shows_done (shows_tracked (shows_programBaudRate h rate))
  | setLineFormat format =>
    exact shows_done (shows_tracked (shows_request h _ _ _ fun index => index))
  | setLatency ms => exact shows_done (shows_setLatency h ms)
  | latency => exact (shows_query h _ _ _ _).map _
  | setHandshake handshake =>
    exact shows_done (shows_tracked (shows_request h _ _ _ fun index => handshake.code ||| index))
  | setDtr high => exact shows_done (shows_tracked (shows_request h _ _ _ fun index => index))
  | setRts high => exact shows_done (shows_tracked (shows_request h _ _ _ fun index => index))
  | setDtrRts dtr rts => exact shows_done (shows_tracked (shows_request h _ _ _ fun index => index))
  | setEventCharacter c enabled =>
    exact shows_done (shows_tracked (shows_request h _ _ _ fun index => index))
  | setErrorCharacter c enabled =>
    exact shows_done (shows_tracked (shows_request h _ _ _ fun index => index))
  | modemStatus => exact (shows_query h _ _ _ _).map _
  | write data => exact (shows_write h data).map _
  | read room => exact (shows_read h room).map _
  | enableBitBang mask => exact shows_done (shows_select h _ _ mask .bitBang)
  | writeBitBang frame => exact (shows_writeBitBang h frame).map _
  | disableBitBang => exact shows_done (shows_select h _ _ 0 .reset)
  | setBitMode mask mode => exact shows_done (shows_select h _ _ mask mode)
  | readPins => exact (shows_query h _ _ _ _).map _
  | readChipId => exact (shows_readChipId h).map _
  | readWord address =>
    exact (shows_tracked ((shows_requireAddress _ _).bind fun _ => shows_memoryWord h _ _)).map _
  | writeWord address value =>
    exact shows_done (shows_tracked ((shows_requireAddress _ _).bind fun _ =>
      shows_controlOut h _ _ _ _))
  | readEeprom => exact (shows_readEeprom h).map _
  | writeEeprom image => exact shows_done (shows_writeEeprom h image)
  | eraseEeprom => exact (shows_eraseEeprom h).map _

end Session

end UsbSerial
