import UsbSerial.Proofs.Session.Contact
import UsbSerial.Proofs.Session.Effect
import UsbSerial.Proofs.Sim.Visible

/-! What a session on a simulated bus depends on and what it changes: its own devices. Of the others
it depends on no more than everyone sees of them. -/

namespace UsbSerial.Session

open Attempt (exec)
open Sim (Bus Device DeviceId Handle)

lemma Change.visible {allowed : Use → Prop} {d d' : Device} (h : Change allowed d d') :
    d'.visible = d.visible := by
  cases h with
  | obeyed request value index _ => exact Device.visible_obey _ _
  | wrote data _ => exact Device.visible_drive _ _
  | _ => rfl

variable {α γ ι : Type}

section Searching

structure Looks (m : Attempt (Host Bus) Error α) : Prop where
  still : ∀ host, (exec m host).2.bus = host.bus
  same : ∀ host host', host'.bus.visible = host.bus.visible →
    (exec m host').1 = (exec m host).1

lemma looks_pure (a : α) : Looks (pure a : Attempt (Host Bus) Error α) :=
  ⟨fun _ => rfl, fun _ _ _ => rfl⟩

lemma looks_throw (e : Error) : Looks (throw e : Attempt (Host Bus) Error α) :=
  ⟨fun _ => rfl, fun _ _ _ => rfl⟩

lemma looks_note (level : Log.Level) (text : String) :
    Looks (Host.note level text : Attempt (Host Bus) Error Unit) :=
  ⟨fun _ => rfl, fun _ _ _ => rfl⟩

lemma Looks.bind {m : Attempt (Host Bus) Error α} {f : α → Attempt (Host Bus) Error γ}
    (hm : Looks m) (hf : ∀ a, Looks (f a)) : Looks (m >>= f) where
  still host := by
    have hstill := hm.still host
    rw [Attempt.exec_bind]
    rcases hexec : exec m host with ⟨e | a, t⟩
    · rwa [hexec] at hstill
    · rw [hexec] at hstill
      exact ((hf a).still t).trans hstill
  same host host' h := by
    have hsame := hm.same host host' h
    have hstill := hm.still host
    have hstill' := hm.still host'
    rw [Attempt.exec_bind, Attempt.exec_bind]
    rcases hexec : exec m host with ⟨r, t⟩
    rcases hexec' : exec m host' with ⟨r', t'⟩
    rw [hexec] at hsame hstill
    rw [hexec'] at hsame hstill'
    cases hsame
    cases r with
    | error e => rfl
    | ok a =>
      refine (hf a).same t t' ?_
      rw [hstill, hstill', h]

lemma Looks.mapM {f : ι → Attempt (Host Bus) Error α} (hf : ∀ i, Looks (f i)) (is : List ι) :
    Looks (is.mapM f) := by
  induction is with
  | nil => exact looks_pure []
  | cons i is ih =>
    rw [List.mapM_cons]
    exact (hf i).bind fun _ => ih.bind fun _ => looks_pure _

variable (options : Options)

lemma looks_readTexts (device : DeviceId) :
    Looks (Device.readTexts options device : Attempt (Host Bus) Error Usb.Texts) := by
  have hexec (bus : Bus) : exec (Transport.texts device options.readTimeout) bus = _ :=
    Bus.exec_texts device bus
  constructor
  · intro host
    rw [Device.readTexts, Host.exec_call, hexec]
  · intro host host' h
    rw [Device.readTexts, Host.exec_call, Host.exec_call, hexec, hexec, Bus.visible_device? h]

lemma looks_enumerate (vendor product : UInt16) :
    Looks (Device.enumerate vendor product : Attempt (Host Bus) Error (List DeviceId)) := by
  have hexec (bus : Bus) : exec (Transport.enumerate vendor product) bus = _ :=
    Bus.exec_enumerate vendor product bus
  constructor
  · intro host
    rw [Device.enumerate, Host.exec_call, hexec]
  · intro host host' h
    rw [Device.enumerate, Host.exec_call, Host.exec_call, hexec, hexec, h]

def describeAs (device : DeviceId) (ids : Usb.Ids) :
    Attempt (Host Bus) Error (Device.Descriptor DeviceId) := do
  let texts ← Device.readTexts options device
  Host.note .trace (Device.idText ids.vendor ids.product ++ " " ++ Device.textsText texts)
  return .ofTexts device ids texts options.textLimit

lemma exec_describe (device : DeviceId) (host : Host Bus) :
    exec (Device.describe options device) host =
      exec (describeAs options device (Bus.ids device host.bus)) host := by
  rw [Device.describe, Attempt.exec_bind, Attempt.exec_get, describeAs]
  rfl

lemma looks_describe (device : DeviceId) :
    Looks (Device.describe options device :
      Attempt (Host Bus) Error (Device.Descriptor DeviceId)) := by
  have hrest (ids : Usb.Ids) : Looks (describeAs options device ids) :=
    (looks_readTexts options device).bind fun _ => (looks_note _ _).bind fun _ => looks_pure _
  constructor
  · intro host
    rw [exec_describe, (hrest _).still]
  · intro host host' h
    rw [exec_describe, exec_describe, Bus.ids_eq, Bus.ids_eq, Bus.visible_device? h,
      (hrest _).same host host' h]

lemma looks_findAll (vendor product : UInt16) :
    Looks (Device.findAll options vendor product :
      Attempt (Host Bus) Error (List (Device.Descriptor DeviceId))) :=
  (looks_enumerate vendor product).bind fun devices =>
    (Looks.mapM (looks_describe options) devices).bind fun _ =>
      (looks_note _ _).bind fun _ => looks_pure _

lemma looks_pick (filter : Device.Filter) (skip : ℕ) (devices : List DeviceId) :
    Looks (Device.pick options filter skip devices : Attempt (Host Bus) Error DeviceId) := by
  induction devices generalizing skip with
  | nil => exact looks_throw _
  | cons device devices ih =>
    have hmatching :
        Looks (Device.matching options filter device : Attempt (Host Bus) Error Bool) := by
      unfold Device.matching
      split
      · exact (looks_readTexts options device).bind fun _ => looks_pure _
      · exact looks_pure true
    apply hmatching.bind
    intro accepted
    cases accepted with
    | false => exact ih skip
    | true =>
      cases skip with
      | zero => exact looks_pure device
      | succ skip => exact ih skip

lemma looks_find (filter : Device.Filter) :
    Looks (Device.find options filter : Attempt (Host Bus) Error DeviceId) :=
  (looks_enumerate filter.vendor filter.product).bind fun devices =>
    looks_pick options filter filter.position devices

end Searching

section Confinement

variable {mine : DeviceId → Prop} {w w' : Hosted Bus Handle} {m : Action Bus Handle α}
  {f : α → Action Bus Handle γ}

structure Twins (mine : DeviceId → Prop) (w w' : Hosted Bus Handle) : Prop where
  session : w'.session = w.session
  visible : w'.bus.visible = w.bus.visible
  own : ∀ id, mine id → w'.bus.device? id = w.bus.device? id

def Within (mine : DeviceId → Prop) (s : Session Handle) : Prop :=
  ∀ h, s.handle? = some h → mine h.device

structure Confined (mine : DeviceId → Prop) (m : Action Bus Handle α) (w : Hosted Bus Handle) :
    Prop where
  within : Within mine (exec m w).2.session
  visible : (exec m w).2.bus.visible = w.bus.visible
  other : ∀ id, ¬ mine id → (exec m w).2.bus.device? id = w.bus.device? id
  result : ∀ w', Twins mine w w' → (exec m w').1 = (exec m w).1
  twins : ∀ w', Twins mine w w' → Twins mine (exec m w).2 (exec m w').2

lemma Decides.confined (h : Decides m) (hw : Within mine w.session) : Confined mine m w := by
  obtain ⟨log, hlog⟩ := h.still w
  refine ⟨?_, ?_, ?_, fun w' htwins => h.same w w' htwins.session, fun w' htwins => ?_⟩
  · rwa [hlog]
  · rw [hlog]
  · intro id _
    rw [hlog]
  · obtain ⟨log', hlog'⟩ := h.still w'
    rw [hlog, hlog']
    exact ⟨htwins.session, htwins.visible, htwins.own⟩

lemma confined_modifySession {g : Session Handle → Session Handle}
    (hg : Within mine (g w.session)) : Confined mine (modifySession g) w where
  within := hg
  visible := rfl
  other _ _ := rfl
  result _ _ := rfl
  twins _ h := ⟨congrArg g h.session, h.visible, h.own⟩

lemma Looks.confined {m : Attempt (Host Bus) Error α} (h : Looks m)
    (hw : Within mine w.session) : Confined mine (onHost m) w where
  within := hw
  visible := congrArg Bus.visible (h.still w.toHost)
  other id _ := congrArg (Bus.device? · id) (h.still w.toHost)
  result w' htwins := h.same w.toHost w'.toHost htwins.visible
  twins w' htwins := by
    refine ⟨htwins.session, ?_, fun id hid => ?_⟩
    · rw [exec_onHost, exec_onHost, h.still, h.still]
      exact htwins.visible
    · rw [exec_onHost, exec_onHost, h.still, h.still]
      exact htwins.own id hid

lemma Bus.Local.confined {id : DeviceId} {t : Bus.Transfer α} (ht : Bus.Local id t) (hid : mine id)
    (hw : Within mine w.session) {n : Action Bus Handle γ} (r : Except Usb.Error α → Except Error γ)
    (hn : ∀ u, exec n u = (r (exec t u.bus).1, { u with bus := (exec t u.bus).2 })) :
    Confined mine n w where
  within := by rwa [hn]
  visible := by
    rw [hn]
    exact ht.visible w.bus
  other id' hid' := by
    rw [hn]
    refine ht.other w.bus id' ?_
    rintro rfl
    exact hid' hid
  result w' htwins := by rw [hn, hn, ht.result w.bus w'.bus (htwins.own id hid)]
  twins w' htwins := by
    rw [hn, hn]
    refine ⟨htwins.session, ?_, fun id' hid' => ?_⟩
    · rw [ht.visible, ht.visible]
      exact htwins.visible
    · by_cases h : id = id'
      · subst h
        exact ht.own w.bus w'.bus (htwins.own id hid)
      · rw [ht.other _ _ h, ht.other _ _ h]
        exact htwins.own id' hid'

lemma confined_call {id : DeviceId} {t : Bus.Transfer α} (ht : Bus.Local id t) (hid : mine id)
    (cause : Usb.Error → Error) (hw : Within mine w.session) :
    Confined mine (onHost (Host.call cause t)) w :=
  Bus.Local.confined ht hid hw (Except.mapError cause) fun u => by rw [exec_onHost, Host.exec_call]

lemma Confined.then {n : Action Bus Handle γ} (hm : Confined mine m w)
    (next : Except Error α → Action Bus Handle γ)
    (hn : ∀ u, exec n u = exec (next (exec m u).1) (exec m u).2)
    (hnext : Confined mine (next (exec m w).1) (exec m w).2) : Confined mine n w where
  within := by
    rw [hn]
    exact hnext.within
  visible := by
    rw [hn]
    exact hnext.visible.trans hm.visible
  other id hid := by
    rw [hn]
    exact (hnext.other id hid).trans (hm.other id hid)
  result w' h := by
    rw [hn, hn, hm.result w' h]
    exact hnext.result _ (hm.twins w' h)
  twins w' h := by
    rw [hn, hn, hm.result w' h]
    exact hnext.twins _ (hm.twins w' h)

lemma confined_pure (a : α) (hw : Within mine w.session) :
    Confined mine (pure a : Action Bus Handle α) w :=
  (decides_pure a).confined hw

lemma confined_throw (e : Error) (hw : Within mine w.session) :
    Confined mine (throw e : Action Bus Handle α) w :=
  (decides_throw e).confined hw

lemma Confined.bind (hm : Confined mine m w)
    (hf : ∀ a v, exec m w = (.ok a, v) → Within mine v.session → Confined mine (f a) v) :
    Confined mine (m >>= f) w := by
  refine hm.then (fun r => liftM r >>= f) (fun u => ?_) ?_
  · rw [Attempt.exec_bind, Attempt.exec_bind, Attempt.exec_liftM]
  · have hwithin := hm.within
    rcases hexec : exec m w with ⟨e | a, v⟩
    · rw [hexec] at hwithin
      exact confined_throw e hwithin
    · rw [hexec] at hwithin
      exact hf a v hexec hwithin

lemma Confined.tryCatch {g : Error → Action Bus Handle α} (hm : Confined mine m w)
    (hg : ∀ e v, exec m w = (.error e, v) → Within mine v.session → Confined mine (g e) v) :
    Confined mine (tryCatch m g) w := by
  refine hm.then (fun r => MonadExcept.tryCatch (liftM r) g) (fun u => ?_) ?_
  · rw [Attempt.exec_tryCatch, Attempt.exec_tryCatch, Attempt.exec_liftM]
  · have hwithin := hm.within
    rcases hexec : exec m w with ⟨e | a, v⟩
    · rw [hexec] at hwithin
      exact hg e v hexec hwithin
    · rw [hexec] at hwithin
      exact confined_pure a hwithin

lemma Confined.map {g : α → γ} (hm : Confined mine m w) : Confined mine (g <$> m) w := by
  rw [map_eq_pure_bind]
  exact hm.bind fun _ _ _ hv => confined_pure _ hv

lemma Confined.done {m : Action Bus Handle Unit} (hm : Confined mine m w) :
    Confined mine (Call.run.done m : Action Bus Handle (Answer DeviceId)) w :=
  hm.bind fun _ _ _ hv => confined_pure _ hv

lemma confined_noteError (e : Error) (hw : Within mine w.session) :
    Confined mine (modifySession fun s => { s with lastError := some e }) w :=
  confined_modifySession hw

lemma Confined.tracked (hm : Confined mine m w) : Confined mine (tracked m) w := by
  apply hm.tryCatch
  intro e v _ hv
  apply ((decides_note _ _).confined hv).bind
  intro _ u _ hu
  exact (confined_noteError e hu).bind fun _ _ _ h => confined_throw e h

end Confinement

section Transfers

variable {mine : DeviceId → Prop} {allowed : Use → Prop} {w : Hosted Bus Handle}
  {m : Action Bus Handle α}

lemma Within.own {s : Session Handle} (h : Within mine s) {l : Link Handle}
    (hl : s.binding = .opened l) : mine l.handle.device :=
  h l.handle (handle?_opened hl)

lemma confined_linked (operation : Operation) {f : Link Handle → Action Bus Handle α}
    (hw : Within mine w.session)
    (hf : ∀ l, mine l.handle.device → Confined mine (f l) w) :
    Confined mine (link operation >>= f) w := by
  apply ((decides_link operation).confined hw).bind
  intro l v hexec _
  rw [exec_link] at hexec
  cases hbinding : w.session.binding with
  | opened l' =>
    rw [hbinding] at hexec
    cases hexec
    exact hf l (hw.own hbinding)
  | _ =>
    rw [hbinding] at hexec
    cases hexec

lemma confined_transfer {id : DeviceId} {t : Device.Transfer α}
    (ht : ∀ d, Change (fun _ => True) d (exec t d).2) (hid : mine id) (hw : Within mine w.session) :
    Confined mine (onHost (Host.call .transport (Bus.on id t))) w :=
  confined_call (Bus.local_on (fun d => (ht d).visible) id) hid _ hw

lemma confined_controlOut (operation : Operation) (request : Request) (value index : UInt16)
    (hw : Within mine w.session) : Confined mine (controlOut operation request value index) w := by
  apply (decides_session.confined hw).bind
  intro s v _ hv
  apply ((decides_note _ _).confined hv).bind
  intro _ v _ hv
  exact confined_linked operation hv fun l hl =>
    confined_transfer (change_controlOut trivial index _) hl hv

lemma confined_controlIn (operation : Operation) (request : Request) (index length : UInt16)
    (hw : Within mine w.session) :
    Confined mine (controlIn operation request index length) w := by
  apply (decides_session.confined hw).bind
  intro s v _ hv
  apply confined_linked operation hv
  intro l hl
  apply (confined_transfer (change_controlIn trivial index length _) hl hv).bind
  intro data v _ hv
  apply ((decides_note _ _).confined hv).bind
  intro _ v _ hv
  split
  · exact confined_pure _ hv
  · exact confined_throw _ hv

lemma confined_bulkOut (operation : Operation) (data : List UInt8) (hw : Within mine w.session) :
    Confined mine (bulkOut operation data) w := by
  apply (decides_session.confined hw).bind
  intro s v _ hv
  apply confined_linked operation hv
  intro l hl
  apply (confined_transfer (change_bulkOut trivial data _) hl hv).bind
  intro n v _ hv
  exact ((decides_note _ _).confined hv).bind fun _ _ _ hu => confined_pure n hu

lemma Exchanges.confined (h : Exchanges (fun h : Handle => mine h.device) allowed m)
    (hw : Within mine w.session) : Confined mine m w := by
  induction h generalizing w with
  | pure a => exact confined_pure a hw
  | fail e _ => exact confined_throw e hw
  | bind _ _ ihm ihf => exact (ihm hw).bind fun a v _ hv => ihf a hv
  | tracked _ ih => exact (ih hw).tracked
  | note level text => exact (decides_note level text).confined hw
  | session => exact decides_session.confined hw
  | modifyLink g hg =>
    apply confined_modifySession
    rw [Within, handle?_mapLink hg]
    exact hw
  | controlOut operation request value index _ =>
    exact confined_controlOut operation request value index hw
  | controlIn operation request index length _ =>
    exact confined_controlIn operation request index length hw
  | bulkOut operation data _ => exact confined_bulkOut operation data hw
  | bulkIn handle endpoint limit timeout hown _ =>
    exact confined_transfer (change_bulkIn trivial limit timeout) hown hw

lemma Orderly.confined (h : Orderly (fun h : Handle => mine h.device) allowed m)
    (hw : Within mine w.session) : Confined mine m w := by
  induction h generalizing w with
  | exchanges h => exact h.confined hw
  | decides h => exact h.confined hw
  | after h _ ih => exact (h.confined hw).bind fun a v _ hv => ih a hv
  | linked operation _ ih => exact confined_linked operation hw fun l hl => ih l hl hw
  | tracked _ ih => exact (ih hw).tracked
  | map f _ ih => exact (ih hw).map

end Transfers

section Opening

variable {mine : DeviceId → Prop} {w : Hosted Bus Handle} {device : DeviceId}

lemma confined_detach (hw : Within mine w.session) : Confined mine detach w := by
  apply (decides_session.confined hw).bind
  intro s v hexec hv
  rw [exec_session] at hexec
  cases hexec
  cases hbinding : w.session.binding with
  | opened l =>
    have hreleased : Confined mine (onHost (Host.outcome (Transport.release l.handle))) w :=
      Bus.Local.confined (Bus.local_release l.handle) (hw.own hbinding) hw .ok fun u => by
        rw [exec_onHost, Host.exec_outcome]
    have hclose (u : Hosted Bus Handle) :
        Confined mine (modifySession fun s => { s with binding := .closed }) u :=
      confined_modifySession fun h hh => by cases hh
    apply hreleased.bind
    intro r v _ hv
    cases r with
    | ok _ => exact hclose v
    | error e => exact ((decides_note _ _).confined hv).bind fun _ u _ _ => hclose u
  | closed => exact confined_pure () hw
  | destroyed => exact confined_pure () hw

lemma Confined.orDetach {step : Action Bus Handle Unit} (h : Confined mine step w)
    (cause : Error → Error) : Confined mine (orDetach cause step) w := by
  apply h.tryCatch
  intro e v _ hv
  exact (confined_detach hv).bind fun _ _ _ hu => confined_throw _ hu

lemma confined_claim (hdevice : mine device) (hw : Within mine w.session) :
    Confined mine (claim device) w := by
  apply (decides_session.confined hw).bind
  intro s v _ hv
  have hchange (d : Device) :
      Change (fun _ => True) d (exec (Device.claim s.options.channel.number) d).2 :=
    change_claim trivial _ d
  have hlocal := Bus.local_claim (fun d => (hchange d).visible) device
  apply (confined_call hlocal hdevice claimFault hv).bind
  intro c v _ hv
  have hrecord : Decides (onHost (Host.record c.notes) : Action Bus Handle Unit) :=
    ⟨fun u => ⟨u.log ++ c.notes, rfl⟩, fun _ _ _ => rfl⟩
  exact (hrecord.confined hv).bind fun _ _ _ hu => confined_pure c hu

lemma claimed_device {c : Usb.Claim Handle} {v : Hosted Bus Handle}
    (h : exec (claim device) w = (.ok c, v)) : c.handle.device = device := by
  rw [exec_claim] at h
  rcases hclaim : exec (Transport.claim device w.session.options.channel.number) w.bus
    with ⟨e | c', bus⟩
  · rw [hclaim] at h
    cases h
  · rw [hclaim] at h
    cases h
    obtain ⟨-, -, hhandle, -, -⟩ := Bus.claim_ok hclaim
    exact hhandle

lemma confined_attach (hdevice : mine device) (hw : Within mine w.session) :
    Confined mine (attach device) w := by
  have hreset : Exchanges (fun h : Handle => mine h.device) (fun _ => True)
      (resetEngine : Action Bus Handle Unit) := exchanges_resetEngine trivial
  have hrate : Orderly (fun h : Handle => mine h.device) (fun _ => True)
      (programBaudRate defaultBaudRate : Action Bus Handle Unit) :=
    orderly_programBaudRate (fun _ => trivial) _
  apply (confined_claim hdevice hw).bind
  intro c v hexec hv
  have hclaimed : mine c.handle.device := by
    rw [claimed_device hexec]
    exact hdevice
  apply (decides_session.confined hv).bind
  intro s v _ hv
  apply ((decides_note _ _).confined hv).bind
  intro _ v _ hv
  have hopened (s : Session Handle) (l : Link Handle) (hl : l.handle = c.handle) :
      Within mine { s with binding := .opened l } := by
    intro h hh
    rw [handle?_opened rfl, hl] at hh
    cases hh
    exact hclaimed
  apply (confined_modifySession (hopened v.session _ rfl)).bind
  intro _ v _ hv
  apply ((hreset.confined hv).orDetach _).bind
  intro _ v _ hv
  exact (hrate.confined hv).orDetach _

lemma confined_opening {next : Action Bus Handle Unit} (hw : Within mine w.session)
    (hnext : w.session.binding = .closed → ∀ v : Hosted Bus Handle, v.toHost = w.toHost →
      v.session.options = w.session.options → Within mine v.session → Confined mine next v) :
    Confined mine (tracked (beginOpening >>= fun _ => next)) w := by
  apply Confined.tracked
  have hbegin : Confined mine beginOpening w :=
    ((decides_require _ _).confined hw).bind fun _ v _ hv => confined_modifySession hv
  apply hbegin.bind
  intro _ v hexec hv
  obtain ⟨hclosed, hstart⟩ := beginOpening_ok hexec
  exact hnext hclosed v (by rw [hstart]) (by rw [hstart]) hv

lemma confined_openMatching (filter : Device.Filter) (hw : Within mine w.session)
    (hfound : w.session.binding = .closed → ∀ id,
      (exec (Device.find w.session.options filter) w.toHost).1 = .ok id → mine id) :
    Confined mine (openMatching filter) w := by
  apply confined_opening hw
  intro hclosed v hhost hoptions hv
  apply (decides_session.confined hv).bind
  intro s u hexec hu
  rw [exec_session] at hexec
  cases hexec
  apply ((looks_find _ filter).confined hu).bind
  intro id u hfind hu
  rw [exec_onHost, hhost, hoptions] at hfind
  injection hfind with hid _
  exact confined_attach (hfound hclosed id hid) hu

end Opening

section Calls

def Call.target? (options : Options) (host : Host Bus) : Call DeviceId → Option DeviceId
  | .openFirst vendor product => found { vendor, product }
  | .openMatching filter => found filter
  | .openFound descriptor => some descriptor.device
  | _ => none
where
  found (filter : Device.Filter) : Option DeviceId :=
    (exec (Device.find options filter) host).1.toOption

def Call.selects? (c : Call DeviceId) (w : Hosted Bus Handle) : Option DeviceId :=
  match w.session.binding with
  | .opened l => some l.handle.device
  | .closed => c.target? w.session.options w.toHost
  | .destroyed => none

variable {mine : DeviceId → Prop} {w w' : Hosted Bus Handle} {c : Call DeviceId}

lemma Call.selects?_twin (h : Twins mine w w') : c.selects? w' = c.selects? w := by
  rw [selects?, selects?, h.session]
  cases w.session.binding with
  | closed =>
    have hfound (filter : Device.Filter) :
        target?.found w.session.options w'.toHost filter =
          target?.found w.session.options w.toHost filter :=
      congrArg Except.toOption ((looks_find _ filter).same w.toHost w'.toHost h.visible)
    cases c with
    | openFirst vendor product => exact hfound { vendor, product }
    | openMatching filter => exact hfound filter
    | _ => rfl
  | _ => rfl

lemma within_of_selects (h : ∀ id, c.selects? w = some id → mine id) : Within mine w.session := by
  intro handle hhandle
  cases hbinding : w.session.binding with
  | opened l =>
    rw [handle?_opened hbinding] at hhandle
    cases hhandle
    exact h _ (by rw [Call.selects?, hbinding])
  | _ =>
    rw [handle?_not_opened (by simp [hbinding])] at hhandle
    cases hhandle

theorem Call.confined (h : ∀ id, c.selects? w = some id → mine id) : Confined mine c.run w := by
  have hw : Within mine w.session := within_of_selects h
  have htarget (hclosed : w.session.binding = .closed) (id : DeviceId)
      (hid : c.target? w.session.options w.toHost = some id) : mine id := by
    apply h id
    rw [selects?, hclosed]
    exact hid
  by_cases hexchanges : c.exchanges = true
  · exact (c.orderly hexchanges fun _ hu => hu).confined hw
  cases c with
  | findAll vendor product =>
    apply Confined.map
    apply Confined.tracked
    apply ((decides_require _ _).confined hw).bind
    intro _ v _ hv
    apply (decides_session.confined hv).bind
    intro s v _ hv
    exact (looks_findAll _ vendor product).confined hv
  | openFirst vendor product =>
    refine (confined_openMatching _ hw fun hclosed id hid => htarget hclosed id ?_).done
    exact congrArg Except.toOption hid
  | openMatching filter =>
    refine (confined_openMatching _ hw fun hclosed id hid => htarget hclosed id ?_).done
    exact congrArg Except.toOption hid
  | openFound descriptor =>
    refine (confined_opening hw fun hclosed v _ _ hv => ?_).done
    exact confined_attach (htarget hclosed _ rfl) hv
  | close =>
    refine Confined.done (Confined.tracked ?_)
    apply ((decides_require _ _).confined hw).bind
    intro _ v _ hv
    apply (confined_detach hv).bind
    intro _ v _ hv
    exact (decides_note _ _).confined hv
  | destroy =>
    refine Confined.done (Confined.tracked ?_)
    apply ((decides_require _ _).confined hw).bind
    intro _ v _ hv
    have hgone : Within mine { v.session with binding := .destroyed } := fun h hh => by cases hh
    exact (confined_modifySession hgone).bind fun _ u _ hu => (decides_note _ _).confined hu
  | setChannel channel =>
    refine Confined.done (Confined.tracked ?_)
    exact ((decides_require _ _).confined hw).bind fun _ v _ hv => confined_modifySession hv
  | setReadTimeout timeout => exact (confined_modifySession hw).done
  | setWriteTimeout timeout => exact (confined_modifySession hw).done
  | setWriteChunk n => exact (confined_modifySession hw).done
  | _ => exact absurd rfl hexchanges

end Calls

end UsbSerial.Session
