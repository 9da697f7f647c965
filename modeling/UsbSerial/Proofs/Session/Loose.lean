import UsbSerial.Proofs.Session.Effect
import UsbSerial.Proofs.Session.Views
import UsbSerial.Session.Loose

/-! The fields of a session, kept one by one, stay those of a session: every operation on them
answers, and leaves the bus and the log, as the operation on the session does. -/

namespace UsbSerial

open Attempt (exec Shows)

section Once

variable {σ τ ε α γ : Type} {g : σ → τ} {m : Attempt σ ε α} {m' : Attempt τ ε α} {s : σ}

namespace Attempt

def ShowsAt (g : σ → τ) (m : Attempt σ ε α) (m' : Attempt τ ε α) (s : σ) : Prop :=
  exec m' (g s) = ((exec m s).1, g (exec m s).2)

namespace ShowsAt

lemma bind {f : α → Attempt σ ε γ} {f' : α → Attempt τ ε γ} (hm : ShowsAt g m m' s)
    (hf : ∀ a t, exec m s = (.ok a, t) → ShowsAt g (f a) (f' a) t) :
    ShowsAt g (m >>= f) (m' >>= f') s := by
  rw [ShowsAt, exec_bind, exec_bind, hm]
  rcases hexec : exec m s with ⟨e | a, t⟩
  · rfl
  · exact hf a t hexec

lemma tryCatch {f : ε → Attempt σ ε α} {f' : ε → Attempt τ ε α} (hm : ShowsAt g m m' s)
    (hf : ∀ e t, exec m s = (.error e, t) → ShowsAt g (f e) (f' e) t) :
    ShowsAt g (tryCatch m f) (tryCatch m' f') s := by
  rw [ShowsAt, exec_tryCatch, exec_tryCatch, hm]
  rcases hexec : exec m s with ⟨e | a, t⟩
  · exact hf e t hexec
  · rfl

end ShowsAt

end Attempt

end Once

open Attempt (ShowsAt)

open Session (Call)

variable {β δ κ α : Type}

section Apart

def Link.loose (l : Link κ) : Loose.Bound κ :=
  { handle := l.handle, chip := l.chip, packetBytes := l.packetBytes }

def Session.loose (s : Session κ) : Loose.Fields κ where
  options := s.options
  state := s.state
  link := s.link?.map Link.loose
  baudRate := s.baudRate
  buffer := s.leftover.bytes
  offset := s.leftover.offset
  lastCode := s.lastCode
  lastText := s.lastText

def Hosted.loose (w : Hosted β κ) : Loose.Kept β κ :=
  { w.toHost with fields := w.session.loose }

variable {s : Session κ} {l : Link κ}

lemma Session.loose_opened (h : s.binding = .opened l) :
    s.loose =
      { options := s.options
        state := .opened l.mode
        link := some l.loose
        baudRate := l.baudRate
        buffer := l.leftover.bytes
        offset := l.leftover.offset
        lastCode := s.lastCode
        lastText := s.lastText } := by
  simp [loose, Session.state, link?, baudRate, leftover, h]

lemma Session.loose_closed (h : s.binding = .closed) :
    s.loose =
      { options := s.options
        state := .closed
        lastCode := s.lastCode
        lastText := s.lastText } := by
  simp [loose, Session.state, link?, baudRate, leftover, h]

lemma Session.loose_destroyed (h : s.binding = .destroyed) :
    s.loose =
      { options := s.options
        state := .destroyed
        lastCode := s.lastCode
        lastText := s.lastText } := by
  simp [loose, Session.state, link?, baudRate, leftover, h]

lemma Loose.create_eq (o : Session.Options) :
    (create o : Except Error (Fields κ)) = Session.loose <$> Session.create o := by
  rw [create, Session.create]
  cases o.allocationFault? <;> rfl

end Apart

namespace Loose

section Parts

lemma shows_onHost (m : Attempt (Host β) Error α) :
    Shows Hosted.loose (Session.onHost m : Session.Action β κ α) (onHost m) := fun _ => rfl

lemma shows_note (level : Log.Level) (text : String) :
    Shows Hosted.loose (Session.note level text : Session.Action β κ Unit) (note level text) :=
  fun _ => rfl

lemma shows_fields {f : Session κ → Session.Action β κ α} {f' : Fields κ → Action β κ α}
    (h : ∀ s, Shows Hosted.loose (f s) (f' s.loose)) :
    Shows Hosted.loose (Session.session >>= f) (fields >>= f') :=
  fun w => h w.session w

lemma showsAt_fields {f : Session κ → Session.Action β κ α} {f' : Fields κ → Action β κ α}
    {w : Hosted β κ} (h : ShowsAt Hosted.loose (f w.session) (f' w.session.loose) w) :
    ShowsAt Hosted.loose (Session.session >>= f) (fields >>= f') w := h

lemma showsAt_modify {g : Session κ → Session κ} {g' : Fields κ → Fields κ} {w : Hosted β κ}
    (h : (g w.session).loose = g' w.session.loose) :
    ShowsAt Hosted.loose (Session.modifySession g : Session.Action β κ Unit) (modifyFields g')
      w := by
  rw [ShowsAt, Session.exec_modifySession, exec_modifyFields]
  simp only [Hosted.loose, h]

lemma shows_modify {g : Session κ → Session κ} {g' : Fields κ → Fields κ}
    (h : ∀ s, (g s).loose = g' s.loose) :
    Shows Hosted.loose (Session.modifySession g : Session.Action β κ Unit) (modifyFields g') :=
  fun w => showsAt_modify (h w.session)

lemma showsAt_modify_twice {g : Session κ → Session κ} {f f' : Fields κ → Fields κ}
    {w : Hosted β κ} {m : Session.Action β κ α} {m' : Action β κ α}
    (h : (g w.session).loose = f' (f w.session.loose))
    (hm : ShowsAt Hosted.loose m m' { w with session := g w.session }) :
    ShowsAt Hosted.loose
      (do
        Session.modifySession g
        m)
      (do
        modifyFields f
        modifyFields f'
        m') w := by
  have hfields : ({ w.loose with fields := f' (f w.loose.fields) } : Kept β κ) =
      Hosted.loose { w with session := g w.session } := by
    simp only [Hosted.loose, h]
  simp only [ShowsAt, Attempt.exec_bind, Session.exec_modifySession, exec_modifyFields]
  rw [hfields, hm]

lemma shows_tracked {m : Session.Action β κ α} {m' : Action β κ α}
    (hm : Shows Hosted.loose m m') : Shows Hosted.loose (Session.tracked m) (tracked m') :=
  hm.tryCatch fun _ => (shows_note _ _).bind fun _ => (shows_modify fun _ => rfl).bind fun _ =>
    .throw _

lemma shows_done {m : Session.Action β κ Unit} {m' : Action β κ Unit}
    (hm : Shows Hosted.loose m m') :
    Shows Hosted.loose (Session.Call.run.done m : Session.Action β κ (Session.Answer δ))
      (perform.done m') :=
  hm.bind fun _ => .pure _

lemma shows_require (operation : Operation) (allowed : State → Bool) :
    Shows Hosted.loose (Session.require operation allowed : Session.Action β κ Unit)
      (require operation allowed) := by
  apply shows_fields
  intro s
  have hstate : s.loose.state = s.state := rfl
  rw [hstate]
  cases s.state with
  | destroyed => exact .throw _
  | closed => exact .ite (.pure ()) (.throw _)
  | opened mode => exact .ite (.pure ()) (.throw _)

lemma shows_require_then {operation : Operation} {allowed : State → Bool}
    {m : Session.Action β κ α} {m' : Action β κ α}
    (hm : ∀ w : Hosted β κ, allowed w.session.state = true → ShowsAt Hosted.loose m m' w) :
    Shows Hosted.loose
      (do
        Session.require operation allowed
        m)
      (do
        require operation allowed
        m') := by
  intro w
  refine ShowsAt.bind (shows_require operation allowed w) ?_
  rintro ⟨⟩ t ht
  rw [Session.exec_require] at ht
  split at ht
  · cases ht
  split at ht
  · rename_i hallowed
    cases ht
    exact hm w hallowed
  · cases ht

lemma exec_link (operation : Operation) (w : Hosted β κ) :
    exec (link operation) w.loose =
      match w.session.binding with
      | .opened l => (.ok l.loose, w.loose)
      | .closed => (.error (.invalidState operation .closed), w.loose)
      | .destroyed => (.error .destroyed, w.loose) := by
  have hfields : exec fields w.loose = (.ok w.session.loose, w.loose) := rfl
  rw [link, Attempt.exec_bind, hfields]
  cases hbinding : w.session.binding with
  | opened l => simp [Session.loose_opened hbinding]
  | closed => simp [Session.loose_closed hbinding]
  | destroyed => simp [Session.loose_destroyed hbinding]

lemma showsAt_link {operation : Operation} {f : Link κ → Session.Action β κ α}
    {f' : Bound κ → Action β κ α} {w : Hosted β κ}
    (h : ∀ l, w.session.binding = .opened l → ShowsAt Hosted.loose (f l) (f' l.loose) w) :
    ShowsAt Hosted.loose (Session.link operation >>= f) (link operation >>= f') w := by
  rw [ShowsAt, Attempt.exec_bind, Attempt.exec_bind, exec_link, Session.exec_link]
  cases hbinding : w.session.binding with
  | opened l => exact h l hbinding
  | closed => rfl
  | destroyed => rfl

lemma showsAt_linked {operation : Operation} {f : Link κ → Session.Action β κ α}
    {m : Action β κ α} {w : Hosted β κ} {l : Link κ} (hl : w.session.binding = .opened l)
    (h : ShowsAt Hosted.loose (f l) m w) :
    ShowsAt Hosted.loose (Session.link operation >>= f) m w := by
  rw [ShowsAt, Attempt.exec_bind, Session.exec_link, hl]
  exact h

lemma shows_link {operation : Operation} {f : Link κ → Session.Action β κ α}
    {f' : Bound κ → Action β κ α} (h : ∀ l, Shows Hosted.loose (f l) (f' l.loose)) :
    Shows Hosted.loose (Session.link operation >>= f) (link operation >>= f') :=
  fun w => showsAt_link fun l _ => h l w

lemma shows_channelIndex :
    Shows Hosted.loose (Session.channelIndex : Session.Action β κ UInt16) channelIndex :=
  shows_fields fun _ => .pure _

end Parts

variable [Transport β δ κ]

section Transfers

lemma shows_controlOut (operation : Operation) (request : Request) (value index : UInt16) :
    Shows Hosted.loose (Session.controlOut operation request value index : Session.Action β κ Unit)
      (controlOut operation request value index) := by
  apply shows_fields
  intro s
  apply (shows_note _ _).bind
  intro _
  exact shows_link fun l => shows_onHost _

lemma shows_controlIn (operation : Operation) (request : Request) (index length : UInt16) :
    Shows Hosted.loose (Session.controlIn operation request index length : Session.Action β κ _)
      (controlIn operation request index length) := by
  apply shows_fields
  intro s
  apply shows_link
  intro l
  apply (shows_onHost _).bind
  intro data
  apply (shows_note _ _).bind
  intro _
  split
  · exact .pure _
  · exact .throw _

lemma shows_bulkOut (operation : Operation) (data : List UInt8) :
    Shows Hosted.loose (Session.bulkOut operation data : Session.Action β κ ℕ)
      (bulkOut operation data) := by
  apply shows_fields
  intro s
  apply shows_link
  intro l
  apply (shows_onHost _).bind
  intro n
  exact (shows_note _ _).bind fun _ => .pure n

lemma shows_request (operation : Operation) (code : Request) (value : UInt16) :
    Shows Hosted.loose
      (do Session.controlOut operation code value (← Session.channelIndex) :
        Session.Action β κ Unit)
      (request operation code value) :=
  shows_channelIndex.bind fun _ => shows_controlOut operation code value _

lemma shows_request_then {operation : Operation} {code : Request} {value : UInt16}
    {m : Session.Action β κ α} {m' : Action β κ α} (hm : Shows Hosted.loose m m') :
    Shows Hosted.loose
      (do
        Session.controlOut operation code value (← Session.channelIndex)
        m)
      (do
        request operation code value
        m') := by
  rw [request, bind_assoc]
  exact shows_channelIndex.bind fun _ => (shows_controlOut operation code value _).bind fun _ => hm

lemma shows_query (operation : Operation) (code : Request) (length : UInt16)
    (g : Session.Reply length.toNat → α) :
    Shows Hosted.loose
      (Session.tracked do
        return g (← Session.controlIn operation code (← Session.channelIndex) length) :
        Session.Action β κ α)
      (tracked do return g (← query operation code length)) := by
  rw [query]
  apply shows_tracked
  rw [bind_assoc]
  exact shows_channelIndex.bind fun _ => (shows_controlIn operation code _ length).bind fun _ =>
    .pure _

lemma session_of_controlOut {operation : Operation} {request : Request} {value index : UInt16}
    {w t : Hosted β κ}
    (h : exec (Session.controlOut operation request value index) w = (.ok (), t)) :
    t.session = w.session := by
  obtain ⟨hsession, -⟩ := Session.transfers_controlOut operation request value index w rfl
  rw [h] at hsession
  exact hsession.1

end Transfers

section Line

lemma loose_emptied (s : Session κ) :
    (s.mapLink fun l => { l with leftover := {} }).loose = s.loose.clear := by
  cases hbinding : s.binding with
  | opened l =>
    rw [Session.mapLink_opened hbinding, Session.loose_opened hbinding, Session.loose_opened rfl]
    rfl
  | closed => simp [Session.mapLink, hbinding, Session.loose_closed hbinding, Fields.clear]
  | destroyed => simp [Session.mapLink, hbinding, Session.loose_destroyed hbinding, Fields.clear]

lemma loose_moded (mode : BitMode) (s : Session κ) :
    (s.mapLink fun l => { l with mode }).loose = s.loose.setMode mode := by
  cases hbinding : s.binding with
  | opened l =>
    rw [Session.mapLink_opened hbinding, Session.loose_opened hbinding, Session.loose_opened rfl]
    rfl
  | closed => simp [Session.mapLink, hbinding, Session.loose_closed hbinding, Fields.setMode,
      State.isOpened]
  | destroyed => simp [Session.mapLink, hbinding, Session.loose_destroyed hbinding, Fields.setMode,
      State.isOpened]

lemma shows_resetEngine :
    Shows Hosted.loose (Session.resetEngine : Session.Action β κ Unit) resetEngine :=
  shows_request_then (shows_modify loose_emptied)

lemma shows_purgeReceive :
    Shows Hosted.loose (Session.purgeReceive : Session.Action β κ Unit) purgeReceive :=
  shows_tracked (shows_request_then (shows_modify loose_emptied))

lemma shows_purgeTransmit :
    Shows Hosted.loose (Session.purgeTransmit : Session.Action β κ Unit) purgeTransmit :=
  shows_tracked (shows_request _ _ _)

lemma showsAt_programBaudRate {w : Hosted β κ} {l : Link κ} (hl : w.session.binding = .opened l)
    (setting : Baud.Setting) (rate : UInt32) :
    ShowsAt Hosted.loose
      (do
        Session.controlOut .setBaudRate .baudRate setting.value setting.index
        Session.modifyLink fun l => { l with baudRate := rate }
        Session.note .debug s!"baud rate {rate} (actual {setting.actual})")
      (do
        controlOut .setBaudRate .baudRate setting.value setting.index
        modifyFields fun s => { s with baudRate := rate }
        note .debug s!"baud rate {rate} (actual {setting.actual})") w := by
  refine ShowsAt.bind (shows_controlOut _ _ _ _ w) ?_
  rintro ⟨⟩ t ht
  rw [← session_of_controlOut ht] at hl
  have hrated : (t.session.mapLink fun l => { l with baudRate := rate }).loose =
      { t.session.loose with baudRate := rate } := by
    rw [Session.mapLink_opened hl, Session.loose_opened hl, Session.loose_opened rfl]
    rfl
  exact ShowsAt.bind (showsAt_modify hrated) fun _ t _ => shows_note _ _ t

lemma shows_programBaudRate (rate : UInt32) :
    Shows Hosted.loose (Session.programBaudRate rate : Session.Action β κ Unit)
      (programBaudRate rate) := by
  intro w
  apply showsAt_link
  intro l hl
  apply showsAt_fields
  have hmode : w.session.loose.mode?.getD .reset = l.mode := by
    rw [Session.loose_opened hl]
    rfl
  rw [hmode]
  refine ShowsAt.bind (Shows.lift _ w) ?_
  intro setting t ht
  obtain rfl : w = t := congrArg Prod.snd ht
  exact showsAt_programBaudRate hl setting rate

lemma shows_setLatency (ms : UInt8) :
    Shows Hosted.loose (Session.setLatency ms : Session.Action β κ Unit) (setLatency ms) :=
  shows_tracked (.ite (.throw _) (shows_request _ _ _))

lemma shows_setHandshake (handshake : Line.Handshake) :
    Shows Hosted.loose (Session.setHandshake handshake : Session.Action β κ Unit)
      (setHandshake handshake) :=
  shows_tracked (shows_channelIndex.bind fun _ => shows_controlOut _ _ _ _)

end Line

section Opening

lemma shows_findAll (vendor product : UInt16) :
    Shows Hosted.loose
      (Session.findAll vendor product : Session.Action β κ (List (Device.Descriptor δ)))
      (findAll vendor product) := by
  apply shows_tracked
  apply (shows_require _ _).bind
  intro _
  exact shows_fields fun s => shows_onHost _

lemma shows_setOptions {g : Session κ → Session κ} (f : Session.Options → Session.Options)
    (hg : ∀ s, g s = { s with options := f s.options }) :
    Shows Hosted.loose (Session.modifySession g : Session.Action β κ Unit) (setOptions f) := by
  apply shows_modify
  intro s
  rw [hg]
  rfl

lemma shows_setChannel (channel : Channel) :
    Shows Hosted.loose (Session.setChannel channel : Session.Action β κ Unit)
      (setChannel channel) :=
  shows_tracked ((shows_require _ _).bind fun _ => shows_setOptions _ fun _ => rfl)

variable {w : Hosted β κ} {l : Link κ}

lemma showsAt_detach (hl : w.session.binding = .opened l) :
    ShowsAt Hosted.loose (Session.detach : Session.Action β κ Unit) detach w := by
  have hclosed : ({ w.session with binding := .closed } : Session κ).loose =
      { w.session.loose with
        state := .closed, link := none, baudRate := 0, buffer := [], offset := 0 } := by
    rw [Session.loose_opened hl, Session.loose_closed rfl]
    rfl
  have hlink : w.session.loose.link = some l.loose := by rw [Session.loose_opened hl]
  rcases hrelease : exec (Transport.release l.handle) w.bus with ⟨e | ⟨⟩, bus⟩
  · simp [ShowsAt, detach, Session.detach, Hosted.loose, Link.loose, Fields.clear, hl, hlink,
      hclosed, hrelease]
  · simp [ShowsAt, detach, Session.detach, Hosted.loose, Link.loose, Fields.clear, hl, hlink,
      hclosed, hrelease]

lemma showsAt_orDetach {cause : Error → Error} {step : Session.Action β κ Unit}
    {step' : Action β κ Unit} (hl : w.session.binding = .opened l)
    (hstep : Shows Hosted.loose step step')
    (hkept : ∀ e t, exec step w = (.error e, t) → t.session = w.session) :
    ShowsAt Hosted.loose (Session.orDetach cause step) (orDetach cause step') w := by
  -- The step leaves the session opened when it fails.
  refine ShowsAt.tryCatch (hstep w) fun e t ht => ?_
  rw [← hkept e t ht] at hl
  exact ShowsAt.bind (showsAt_detach hl) fun _ t _ => Shows.throw _ t

lemma shows_close : Shows Hosted.loose (Session.close : Session.Action β κ Unit) close := by
  apply shows_tracked
  apply shows_require_then
  intro w hopened
  obtain ⟨l, hl⟩ := Session.state_isOpened hopened
  exact ShowsAt.bind (showsAt_detach hl) fun _ t _ => shows_note _ _ t

lemma shows_destroy : Shows Hosted.loose (Session.destroy : Session.Action β κ Unit) destroy := by
  apply shows_tracked
  apply shows_require_then
  intro w hallowed
  have hclosed := Session.state_closed hallowed
  have hdestroyed : ({ w.session with binding := .destroyed } : Session κ).loose =
      { w.session.loose.clear with state := .destroyed } := by
    rw [Session.loose_closed hclosed, Session.loose_destroyed rfl]
    rfl
  simp [ShowsAt, Hosted.loose, hdestroyed]

lemma shows_drop : Shows Hosted.loose (Session.drop : Session.Action β κ Unit) drop := by
  intro w
  apply showsAt_fields
  cases hbinding : w.session.binding with
  | opened l =>
    have hopened : w.session.state.isOpened = true := by
      rw [Session.state, hbinding]
      rfl
    have hlink : w.session.loose.link.isSome = true := by
      rw [Session.loose_opened hbinding]
      rfl
    rw [if_pos hopened, if_pos hlink]
    refine ShowsAt.bind (shows_note _ _ w) ?_
    rintro ⟨⟩ t ht
    rw [Session.exec_note] at ht
    cases ht
    exact showsAt_detach hbinding
  | closed => simp [ShowsAt, Session.loose_closed hbinding, Session.state, hbinding, State.isOpened]
  | destroyed =>
    simp [ShowsAt, Session.loose_destroyed hbinding, Session.state, hbinding, State.isOpened]

lemma shows_claim (device : δ) :
    Shows Hosted.loose (Session.claim device : Session.Action β κ (Usb.Claim κ))
      (claim device) := by
  apply shows_fields
  intro s
  apply (shows_onHost _).bind
  intro claim
  exact (shows_onHost _).bind fun _ => .pure claim

lemma showsAt_start (hl : w.session.binding = .opened l) :
    ShowsAt Hosted.loose (Session.start : Session.Action β κ Unit)
      (do
        orDetach .notReset resetEngine
        orDetach .noDefaultBaudRate (programBaudRate Session.defaultBaudRate)) w := by
  refine ShowsAt.bind (showsAt_orDetach hl shows_resetEngine ?_) ?_
  · intro e t ht
    obtain ⟨hkept, -⟩ := Session.ends_resetEngine w rfl
    rw [ht] at hkept
    exact hkept
  · rintro ⟨⟩ t ht
    obtain ⟨hreset, -⟩ := Session.ends_resetEngine w rfl
    rw [Session.orDetach_ok ht] at hreset
    obtain ⟨l', -, ht'⟩ := hreset
    have hl' : t.session.binding = .opened { l' with leftover := {} } :=
      congrArg Session.binding ht'
    refine showsAt_orDetach hl' (shows_programBaudRate _) ?_
    intro e u hu
    obtain ⟨hkept, -⟩ := Session.ends_programBaudRate Session.defaultBaudRate t rfl
    rw [hu] at hkept
    exact hkept

lemma loose_bound {s : Session κ} (hclosed : s.binding = .closed) (l : Link κ)
    (hl : l = { handle := l.handle, chip := l.chip, packetBytes := l.packetBytes }) :
    ({ s with binding := .opened l } : Session κ).loose =
      { s.loose with link := some l.loose, state := .opened .reset } := by
  -- What is not set keeps the values it has in a closed session.
  rw [Session.loose_closed hclosed, Session.loose_opened rfl, hl]
  rfl

lemma showsAt_attach (hclosed : w.session.binding = .closed) (device : δ) :
    ShowsAt Hosted.loose (Session.attach device : Session.Action β κ Unit) (attach device) w := by
  refine ShowsAt.bind (shows_claim device w) ?_
  intro c t ht
  have ht' : t.session.binding = .closed := by
    rw [Session.exec_claim] at ht
    split at ht
    · cases ht
      exact hclosed
    · cases ht
  apply showsAt_fields
  refine ShowsAt.bind (shows_note _ _ t) ?_
  rintro ⟨⟩ u hu
  rw [Session.exec_note] at hu
  cases hu
  exact showsAt_modify_twice (loose_bound ht' _ rfl) (showsAt_start rfl)

lemma shows_beginOpening :
    Shows Hosted.loose (Session.beginOpening : Session.Action β κ Unit) beginOpening :=
  (shows_require _ _).bind fun _ => shows_modify fun _ => rfl

lemma shows_opening {m : Session.Action β κ Unit} {m' : Action β κ Unit}
    (hm : ∀ w : Hosted β κ, w.session.binding = .closed → ShowsAt Hosted.loose m m' w) :
    Shows Hosted.loose
      (Session.tracked do
        Session.beginOpening
        m)
      (tracked do
        beginOpening
        m') := by
  apply shows_tracked
  intro w
  refine ShowsAt.bind (shows_beginOpening w) ?_
  rintro ⟨⟩ t ht
  obtain ⟨hclosed, rfl⟩ := Session.beginOpening_ok ht
  exact hm _ hclosed

lemma shows_openFound (descriptor : Device.Descriptor δ) :
    Shows Hosted.loose (Session.openFound descriptor : Session.Action β κ Unit)
      (openFound descriptor) :=
  shows_opening fun _ hclosed => showsAt_attach hclosed descriptor.device

lemma shows_openMatching (filter : Device.Filter) :
    Shows Hosted.loose (Session.openMatching filter : Session.Action β κ Unit)
      (openMatching filter) := by
  apply shows_opening
  intro w hclosed
  apply showsAt_fields
  refine ShowsAt.bind (shows_onHost _ w) ?_
  intro device t ht
  rw [Session.exec_onHost] at ht
  injection ht with hdevice ht
  have ht' : t.session.binding = .closed := by rw [← ht]; exact hclosed
  exact showsAt_attach ht' device

end Opening

section Stream

lemma shows_writePieces (total : ℕ) (data : List (List UInt8)) (written : ℕ) :
    Shows Hosted.loose (Session.writePieces total data written : Session.Action β κ ℕ)
      (writePieces total data written) := by
  induction data generalizing written with
  | nil => exact .pure written
  | cons piece rest ih => exact (shows_bulkOut _ _).bind fun n => .ite (.throw _) (ih _)

lemma shows_write (data : List UInt8) :
    Shows Hosted.loose (Session.write data : Session.Action β κ ℕ) (write data) := by
  apply shows_tracked
  apply (shows_require _ _).bind
  intro _
  exact shows_fields fun s => shows_writePieces _ _ _

section Read

variable {w : Hosted β κ} {l : Link κ} {room : ℕ}

lemma take_min_length (bytes : List UInt8) (n : ℕ) :
    bytes.take (min bytes.length n) = bytes.take n := by
  rw [Nat.min_comm, ← List.take_eq_take_min]

lemma drop_min_length (bytes : List UInt8) (n : ℕ) :
    bytes.drop (min bytes.length n) = bytes.drop n := by
  rw [Nat.min_comm, ← List.drop_eq_drop_min]

lemma loose_advance (hl : w.session.binding = .opened l) (room : ℕ) :
    (w.session.mapLink fun l => { l with leftover := l.leftover.advance room }).loose =
      { w.session.loose with
        offset := w.session.loose.offset +
          min (w.session.loose.buffer.drop w.session.loose.offset).length room } := by
  rw [Session.mapLink_opened hl, Session.loose_opened hl, Session.loose_opened rfl]
  simp only [Leftover.advance, Leftover.unread, Nat.min_comm]
  rfl

lemma loose_kept (hl : w.session.binding = .opened l) (payload : List UInt8) (room : ℕ) :
    (w.session.mapLink fun l => { l with leftover := { bytes := payload.drop room } }).loose =
      { w.session.loose.clear with
        buffer := w.session.loose.clear.buffer ++ payload.drop (min payload.length room) } := by
  rw [Session.mapLink_opened hl, Session.loose_opened hl, Session.loose_opened rfl, drop_min_length]
  rfl

lemma shows_read (room : ℕ) :
    Shows Hosted.loose (Session.read room : Session.Action β κ (List UInt8)) (read room) := by
  apply shows_tracked
  apply shows_require_then
  intro w hopened
  obtain ⟨l, hl⟩ := Session.state_isOpened hopened
  split
  · exact Shows.pure [] w
  apply showsAt_fields
  split
  · rename_i hoffset
    have hunread : l.leftover.unread = w.session.loose.buffer.drop w.session.loose.offset := by
      rw [Session.loose_opened hl]
      rfl
    refine showsAt_linked hl ?_
    split
    · rename_i hnil
      rw [hunread, List.drop_eq_nil_iff] at hnil
      omega
    · refine ShowsAt.bind (showsAt_modify (loose_advance hl room)) fun _ t _ => ?_
      rw [take_min_length, ← hunread]
      exact Shows.pure _ t
  · rename_i hoffset
    apply showsAt_link
    intro l' hl'
    cases hl.symm.trans hl'
    have hunread : l.leftover.unread = [] := by
      rw [Session.loose_opened hl] at hoffset
      exact List.drop_eq_nil_of_le (Nat.le_of_not_lt hoffset)
    rw [hunread]
    refine ShowsAt.bind (shows_onHost _ w) ?_
    intro data t ht
    rw [Session.exec_onHost] at ht
    injection ht with hdata ht
    have hl' : t.session.binding = .opened l := by rw [← ht]; exact hl
    apply showsAt_modify_twice (loose_kept hl' _ room)
    rw [take_min_length]
    exact Shows.pure _ _

end Read

end Stream

section Pins

lemma shows_programBitMode (operation : Operation) (mask : UInt8) (mode : BitMode) :
    Shows Hosted.loose (Session.programBitMode operation mask mode : Session.Action β κ Unit)
      (programBitMode operation mask mode) :=
  shows_request_then ((shows_modify (loose_moded mode)).bind fun _ => shows_note _ _)

lemma shows_switchMode (operation : Operation) (allowed : State → Bool) (mask : UInt8)
    (mode : BitMode) :
    Shows Hosted.loose
      (Session.tracked do
        Session.require operation allowed
        Session.programBitMode operation mask mode : Session.Action β κ Unit)
      (switchMode operation allowed mask mode) :=
  shows_tracked ((shows_require _ _).bind fun _ => shows_programBitMode _ _ _)

lemma shows_writeBitBang (frame : UInt8) :
    Shows Hosted.loose (Session.writeBitBang frame : Session.Action β κ ℕ)
      (writeBitBang frame) := by
  apply shows_tracked
  apply (shows_require _ _).bind
  intro _
  exact (shows_bulkOut _ _).bind fun n => .ite (.pure 1) (.throw _)

end Pins

section Memory

lemma shows_memoryWord (operation : Operation) (address : UInt16) :
    Shows Hosted.loose (Session.memoryWord operation address : Session.Action β κ UInt16)
      (memoryWord operation address) :=
  (shows_controlIn _ _ _ _).bind fun _ => .pure _

lemma shows_requireAddress (operation : Operation) (address : UInt16) :
    Shows Hosted.loose (Session.requireAddress operation address : Session.Action β κ Unit)
      (requireAddress operation address) :=
  shows_link fun _ => .ite (.throw _) (.pure _)

lemma shows_readChipId :
    Shows Hosted.loose (Session.readChipId : Session.Action β κ UInt32) readChipId := by
  apply shows_tracked
  apply shows_link
  intro l
  refine .ite (.throw _) ?_
  apply (shows_memoryWord _ _).bind
  intro high
  apply (shows_memoryWord _ _).bind
  intro low
  exact (shows_note _ _).bind fun _ => .pure _

lemma shows_readWord (address : UInt16) :
    Shows Hosted.loose (Session.readWord address : Session.Action β κ UInt16) (readWord address) :=
  shows_tracked ((shows_requireAddress _ _).bind fun _ => shows_memoryWord _ _)

lemma shows_writeWord (address value : UInt16) :
    Shows Hosted.loose (Session.writeWord address value : Session.Action β κ Unit)
      (writeWord address value) :=
  shows_tracked ((shows_requireAddress _ _).bind fun _ => shows_controlOut _ _ _ _)

lemma shows_readEeprom :
    Shows Hosted.loose (Session.readEeprom : Session.Action β κ Eeprom.Image) readEeprom := by
  apply shows_tracked
  apply shows_link
  intro l
  apply (Shows.mapM (fun _ => shows_memoryWord _ _) _).bind
  intro words
  exact (shows_note _ _).bind fun _ => .pure _

lemma shows_writeEeprom (image : Eeprom.Image) :
    Shows Hosted.loose (Session.writeEeprom image : Session.Action β κ Unit)
      (writeEeprom image) := by
  apply shows_tracked
  apply shows_link
  intro l
  refine .ite (.throw _) ?_
  apply shows_request_then
  apply shows_request_then
  exact (Shows.forM (fun _ => shows_controlOut _ _ _ _) _).bind fun _ => shows_note _ _

lemma shows_findProbe (probes : List (UInt16 × UInt8)) :
    Shows Hosted.loose (Session.findProbe probes : Session.Action β κ (Option UInt8))
      (findProbe probes) := by
  induction probes with
  | nil => exact .pure none
  | cons probe rest ih => exact (shows_memoryWord _ _).bind fun _ => .ite (.pure _) ih

lemma shows_eraseEeprom :
    Shows Hosted.loose (Session.eraseEeprom : Session.Action β κ (Option UInt8)) eraseEeprom := by
  apply shows_tracked
  apply shows_link
  intro l
  refine .ite (.throw _) ?_
  apply (shows_controlOut _ _ _ _).bind
  intro _
  apply (shows_controlOut _ _ _ _).bind
  intro _
  apply (shows_findProbe _).bind
  intro part
  apply (shows_controlOut _ _ _ _).bind
  intro _
  exact (shows_note _ _).bind fun _ => .pure part

end Memory

theorem shows_perform (c : Call δ) :
    Shows Hosted.loose (c.run : Session.Action β κ (Session.Answer δ)) (perform c) := by
  cases c with
  | findAll vendor product => exact (shows_findAll vendor product).map _
  | openFirst vendor product => exact shows_done (shows_openMatching _)
  | openMatching filter => exact shows_done (shows_openMatching filter)
  | openFound descriptor => exact shows_done (shows_openFound descriptor)
  | close => exact shows_done shows_close
  | destroy => exact shows_done shows_destroy
  | setChannel channel => exact shows_done (shows_setChannel channel)
  | setReadTimeout timeout => exact shows_done (shows_setOptions _ fun _ => rfl)
  | setWriteTimeout timeout => exact shows_done (shows_setOptions _ fun _ => rfl)
  | setWriteChunk n => exact shows_done (shows_setOptions _ fun _ => rfl)
  | reset => exact shows_done (shows_tracked shows_resetEngine)
  | purgeReceive => exact shows_done shows_purgeReceive
  | purgeTransmit => exact shows_done shows_purgeTransmit
  | purge => exact shows_done (shows_purgeReceive.bind fun _ => shows_purgeTransmit)
  | setBaudRate rate => exact shows_done (shows_tracked (shows_programBaudRate rate))
  | setLineFormat format => exact shows_done (shows_tracked (shows_request _ _ _))
  | setLatency ms => exact shows_done (shows_setLatency ms)
  | latency => exact (shows_query _ _ _ _).map _
  | setHandshake handshake => exact shows_done (shows_setHandshake handshake)
  | setDtr high => exact shows_done (shows_tracked (shows_request _ _ _))
  | setRts high => exact shows_done (shows_tracked (shows_request _ _ _))
  | setDtrRts dtr rts => exact shows_done (shows_tracked (shows_request _ _ _))
  | setEventCharacter c enabled => exact shows_done (shows_tracked (shows_request _ _ _))
  | setErrorCharacter c enabled => exact shows_done (shows_tracked (shows_request _ _ _))
  | modemStatus => exact (shows_query _ _ _ _).map _
  | write data => exact (shows_write data).map _
  | read room => exact (shows_read room).map _
  | enableBitBang mask => exact shows_done (shows_switchMode _ _ mask .bitBang)
  | writeBitBang frame => exact (shows_writeBitBang frame).map _
  | disableBitBang => exact shows_done (shows_switchMode _ _ 0 .reset)
  | setBitMode mask mode => exact shows_done (shows_switchMode _ _ mask mode)
  | readPins => exact (shows_query _ _ _ _).map _
  | readChipId => exact shows_readChipId.map _
  | readWord address => exact (shows_readWord address).map _
  | writeWord address value => exact shows_done (shows_writeWord address value)
  | readEeprom => exact shows_readEeprom.map _
  | writeEeprom image => exact shows_done (shows_writeEeprom image)
  | eraseEeprom => exact shows_eraseEeprom.map _

theorem run_loose (w : Hosted β κ) (calls : List (Call δ)) :
    run w.loose calls = ((Session.run w calls).1, (Session.run w calls).2.loose) := by
  induction calls generalizing w with
  | nil => rfl
  | cons c calls ih =>
    have hstep : step c w.loose = ((c.step w).1, (c.step w).2.loose) := shows_perform c w
    rw [run, Session.run, hstep]
    dsimp only
    rw [ih]

end Loose

end UsbSerial
