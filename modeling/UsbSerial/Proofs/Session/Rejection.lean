import UsbSerial.Proofs.Session.Effect
import UsbSerial.Proofs.Session.Receive
import UsbSerial.Proofs.Session.Uses

namespace UsbSerial.Session

open Attempt (exec bind_error)
open Relation (ReflTransGen)

section Failures

variable {σ α γ ι : Type} {e : Error}

def Unrejected (m : Attempt σ Error α) : Prop :=
  ∀ s t e, exec m s = (.error e, t) → e.rejects = false

lemma Unrejected.of_ok {m : Attempt σ Error α} (h : ∀ s, ∃ a t, exec m s = (.ok a, t)) :
    Unrejected m := by
  intro s t e hexec
  obtain ⟨a, u, hok⟩ := h s
  cases hok.symm.trans hexec

lemma unrejected_pure (a : α) : Unrejected (pure a : Attempt σ Error α) :=
  .of_ok fun s => ⟨a, s, rfl⟩

lemma unrejected_throw (h : e.rejects = false) : Unrejected (throw e : Attempt σ Error α) := by
  rintro s t e' hexec
  cases hexec
  exact h

lemma Unrejected.bind {m : Attempt σ Error α} {f : α → Attempt σ Error γ} (hm : Unrejected m)
    (hf : ∀ a, Unrejected (f a)) : Unrejected (m >>= f) := by
  intro s t e hexec
  rcases bind_error hexec with hfirst | ⟨a, u, -, hrest⟩
  · exact hm s t e hfirst
  · exact hf a u t e hrest

lemma Unrejected.tryCatch {m : Attempt σ Error α} {f : Error → Attempt σ Error α}
    (hf : ∀ e, Unrejected (f e)) : Unrejected (tryCatch m f) := by
  intro s t e hexec
  rw [Attempt.exec_tryCatch] at hexec
  rcases hm : exec m s with ⟨e' | a, u⟩
  · rw [hm] at hexec
    exact hf e' u t e hexec
  · rw [hm] at hexec
    cases hexec

lemma Unrejected.mapM {f : ι → Attempt σ Error α} (hf : ∀ i, Unrejected (f i)) (is : List ι) :
    Unrejected (is.mapM f) := by
  induction is with
  | nil => exact unrejected_pure []
  | cons i is ih =>
    rw [List.mapM_cons]
    exact (hf i).bind fun _ => ih.bind fun _ => unrejected_pure _

lemma unrejected_call {c : Attempt σ Usb.Error α} {cause : Usb.Error → Error}
    (h : ∀ e, (cause e).rejects = false) : Unrejected (Host.call cause c) := by
  intro host t e hexec
  rw [Host.exec_call] at hexec
  rcases hc : (exec c host.bus).1 with e' | a
  · rw [hc] at hexec
    cases hexec
    exact h e'
  · rw [hc] at hexec
    cases hexec

lemma Unrejected.onHost {β κ : Type} {m : Attempt (Host β) Error α} (hm : Unrejected m) :
    Unrejected (onHost m : Action β κ α) := by
  intro w v e hexec
  rw [exec_onHost] at hexec
  injection hexec with hresult _
  exact hm w.toHost _ e (Prod.ext hresult rfl)

end Failures

variable {β δ κ α γ : Type}

section Exchanging

structure Exchanged (w : Hosted β κ) (o : Except Error α × Hosted β κ) : Prop where
  handle : o.2.session.handle? = w.session.handle?
  unbound : w.session.handle? = none → o.2.bus = w.bus
  bound : w.session.handle? ≠ none → ∀ e, o.1 = .error e → e.rejects = false

variable {m : Action β κ α} {f : α → Action β κ γ} {w : Hosted β κ}

lemma Exchanged.of_ok {a : α} {v : Hosted β κ} (h : exec m w = (.ok a, v))
    (hhandle : v.session.handle? = w.session.handle?) (hbus : v.bus = w.bus) :
    Exchanged w (exec m w) := by
  rw [h]
  exact ⟨hhandle, fun _ => hbus, fun _ => nofun⟩

lemma exchanged_pure (a : α) : Exchanged w (exec (pure a : Action β κ α) w) := .of_ok rfl rfl rfl

lemma exchanged_throw {e : Error} (h : e.rejects = false) :
    Exchanged w (exec (throw e : Action β κ α) w) := by
  refine ⟨rfl, fun _ => rfl, fun _ e' he => ?_⟩
  cases he
  exact h

lemma exchanged_note (level : Log.Level) (text : String) :
    Exchanged w (exec (note level text) w) :=
  .of_ok (exec_note level text w) rfl rfl

lemma exchanged_session : Exchanged w (exec session w) := .of_ok (exec_session w) rfl rfl

lemma Exchanged.bind (hm : Exchanged w (exec m w))
    (hf : ∀ a v, v.session.handle? = w.session.handle? → Exchanged v (exec (f a) v)) :
    Exchanged w (exec (m >>= f) w) := by
  rw [Attempt.exec_bind]
  rcases hexec : exec m w with ⟨e | a, v⟩
  · rw [hexec] at hm
    refine ⟨hm.handle, hm.unbound, fun hw e' he => ?_⟩
    cases he
    exact hm.bound hw e rfl
  · rw [hexec] at hm
    have hrest := hf a v hm.handle
    exact ⟨hrest.handle.trans hm.handle,
      fun hw => (hrest.unbound (hm.handle.trans hw)).trans (hm.unbound hw),
      fun hw => hrest.bound (by rwa [hm.handle])⟩

lemma Exchanged.tracked (hm : Exchanged w (exec m w)) : Exchanged w (exec (tracked m) w) := by
  rw [exec_tracked]
  rcases hexec : exec m w with ⟨e | a, v⟩
  · rw [hexec] at hm
    exact ⟨hm.handle, hm.unbound, hm.bound⟩
  · rwa [hexec] at hm

lemma exchanged_linked (operation : Operation) {f : Link κ → Action β κ γ}
    (hf : ∀ l, w.session.handle? = some l.handle → Exchanged w (exec (f l) w)) :
    Exchanged w (exec (link operation >>= f) w) := by
  rw [Attempt.exec_bind, exec_link]
  cases hbinding : w.session.binding with
  | opened l => exact hf l (handle?_opened hbinding)
  | _ =>
    have hnone : w.session.handle? = none := handle?_not_opened (by simp [hbinding])
    exact ⟨rfl, fun _ => rfl, fun hw => absurd hnone hw⟩

lemma exchanged_call {handle : κ} (hw : w.session.handle? = some handle)
    (c : Attempt β Usb.Error α) :
    Exchanged w (exec (onHost (Host.call .transport c) : Action β κ α) w) where
  handle := by rw [exec_onHost]
  unbound h := by
    rw [hw] at h
    cases h
  bound _ e he := (unrejected_call fun _ => rfl).onHost w _ e (Prod.ext he rfl)

end Exchanging

section Rejecting

variable {m : Action β κ α} {f : α → Action β κ γ} {w : Hosted β κ}

def Unsent (w : Hosted β κ) (o : Except Error α × Hosted β κ) : Prop :=
  ∀ e, o.1 = .error e → e.rejects = true → o.2.bus = w.bus

lemma Unrejected.unsent (h : Unrejected m) : Unsent w (exec m w) := by
  intro e hexec he
  rw [h w _ e (Prod.ext hexec rfl)] at he
  cases he

lemma Unsent.tracked (h : Unsent w (exec m w)) : Unsent w (exec (tracked m) w) := by
  rw [exec_tracked]
  rcases hexec : exec m w with ⟨e | a, v⟩
  · rw [hexec] at h
    exact h
  · exact fun _ => nofun

lemma Unsent.after (hbus : (exec m w).2.bus = w.bus)
    (hf : ∀ a v, exec m w = (.ok a, v) → Unsent v (exec (f a) v)) :
    Unsent w (exec (m >>= f) w) := by
  rw [Attempt.exec_bind]
  rcases hexec : exec m w with ⟨e | a, v⟩
  · rw [hexec] at hbus
    exact fun _ _ _ => hbus
  · rw [hexec] at hbus
    exact fun e he hrejects => (hf a v hexec e he hrejects).trans hbus

lemma Decides.unsent (hm : Decides m)
    (hf : ∀ a v, v.session = w.session → Unsent v (exec (f a) v)) :
    Unsent w (exec (m >>= f) w) := by
  obtain ⟨log, hlog⟩ := hm.still w
  refine .after (by rw [hlog]) fun a v hexec => hf a v ?_
  rw [hexec] at hlog
  dsimp only at hlog
  rw [hlog]

lemma unsent_opening {next : Action β κ Unit} (h : Unrejected next) :
    Unsent w (exec (tracked (beginOpening >>= fun _ => next)) w) := by
  apply Unsent.tracked
  rw [beginOpening, bind_assoc]
  apply (decides_require _ _).unsent
  intro _ v _
  exact .after (by rw [exec_modifySession]) fun _ _ _ => h.unsent

lemma Unsent.map {g : α → γ} (h : Unsent w (exec m w)) : Unsent w (exec (g <$> m) w) := by
  rw [Attempt.exec_map]
  rcases hexec : exec m w with ⟨e | a, v⟩
  · rw [hexec] at h
    intro e' he'
    cases he'
    exact h e rfl
  · exact fun _ => nofun

lemma Unsent.done {m : Action β κ Unit} (h : Unsent w (exec m w)) :
    Unsent w (exec (Call.run.done m : Action β κ (Answer δ)) w) := by
  have hmap : (Call.run.done m : Action β κ (Answer δ)) = (fun _ => .done) <$> m :=
    (map_eq_pure_bind _ _).symm
  rw [hmap]
  exact h.map

end Rejecting

variable [Transport β δ κ]

section Listing

variable (options : Options)

lemma unrejected_readTexts (device : δ) :
    Unrejected (Device.readTexts options device : Attempt (Host β) Error Usb.Texts) :=
  unrejected_call fun _ => rfl

lemma unrejected_enumerate (vendor product : UInt16) :
    Unrejected (Device.enumerate vendor product : Attempt (Host β) Error (List δ)) :=
  unrejected_call fun _ => rfl

lemma unrejected_findAll (vendor product : UInt16) :
    Unrejected (Device.findAll options vendor product :
      Attempt (Host β) Error (List (Device.Descriptor δ))) := by
  have hnote (level : Log.Level) (text : String) :
      Unrejected (Host.note level text : Attempt (Host β) Error Unit) :=
    .of_ok fun _ => ⟨_, _, Host.exec_note _ _ _⟩
  have hdescribe (device : δ) : Unrejected
      (Device.describe options device : Attempt (Host β) Error (Device.Descriptor δ)) := by
    have hget : Unrejected (get : Attempt (Host β) Error (Host β)) := .of_ok fun _ => ⟨_, _, rfl⟩
    exact hget.bind fun _ => (unrejected_readTexts options device).bind fun _ =>
      (hnote _ _).bind fun _ => unrejected_pure _
  exact (unrejected_enumerate vendor product).bind fun _ =>
    (Unrejected.mapM hdescribe _).bind fun _ => (hnote _ _).bind fun _ => unrejected_pure _

lemma unrejected_pick (filter : Device.Filter) (skip : ℕ) (devices : List δ) :
    Unrejected (Device.pick options filter skip devices : Attempt (Host β) Error δ) := by
  induction devices generalizing skip with
  | nil => exact unrejected_throw rfl
  | cons device devices ih =>
    have hmatching :
        Unrejected (Device.matching options filter device : Attempt (Host β) Error Bool) := by
      unfold Device.matching
      split
      · exact (unrejected_readTexts options device).bind fun _ => unrejected_pure _
      · exact unrejected_pure true
    apply hmatching.bind
    intro accepted
    cases accepted with
    | false => exact ih skip
    | true =>
      cases skip with
      | zero => exact unrejected_pure device
      | succ skip => exact ih skip

lemma unrejected_find (filter : Device.Filter) :
    Unrejected (Device.find options filter : Attempt (Host β) Error δ) :=
  (unrejected_enumerate _ _).bind fun _ => unrejected_pick options filter _ _

end Listing

section Opening

lemma unrejected_session : Unrejected (session : Action β κ (Session κ)) :=
  .of_ok fun _ => ⟨_, _, exec_session _⟩

lemma unrejected_note (level : Log.Level) (text : String) :
    Unrejected (note level text : Action β κ Unit) :=
  .of_ok fun _ => ⟨_, _, exec_note _ _ _⟩

lemma unrejected_modifySession (f : Session κ → Session κ) :
    Unrejected (modifySession f : Action β κ Unit) :=
  .of_ok fun _ => ⟨_, _, exec_modifySession _ _⟩

lemma unrejected_detach : Unrejected (detach : Action β κ Unit) := by
  refine .of_ok fun w => ?_
  cases hbinding : w.session.binding with
  | opened l =>
    obtain ⟨entries, hexec⟩ := exec_detach hbinding
    exact ⟨_, _, hexec⟩
  | closed => exact ⟨(), w, by simp [detach, hbinding]⟩
  | destroyed => exact ⟨(), w, by simp [detach, hbinding]⟩

lemma unrejected_orDetach {cause : Error → Error} (h : ∀ e, (cause e).rejects = false)
    (step : Action β κ Unit) : Unrejected (orDetach cause step) :=
  .tryCatch fun e => unrejected_detach.bind fun _ => unrejected_throw (h e)

lemma unrejected_attach (device : δ) : Unrejected (attach device : Action β κ Unit) := by
  -- Even a rate that is found wrong is reported as a failure to open.
  have hclaim : Unrejected (claim device : Action β κ (Usb.Claim κ)) := by
    apply unrejected_session.bind
    intro s
    have hfault (e : Usb.Error) : (claimFault e).rejects = false := by cases e <;> rfl
    have hrecord (notes : List Log.Entry) :
        Unrejected (onHost (Host.record notes) : Action β κ Unit) :=
      .onHost (.of_ok fun _ => ⟨_, _, Host.exec_record _ _⟩)
    exact (unrejected_call hfault).onHost.bind fun _ =>
      (hrecord _).bind fun _ => unrejected_pure _
  apply hclaim.bind
  intro claim
  apply unrejected_session.bind
  intro s
  apply (unrejected_note _ _).bind
  intro _
  apply (unrejected_modifySession _).bind
  intro _
  exact (unrejected_orDetach (fun _ => rfl) _).bind fun _ => unrejected_orDetach (fun _ => rfl) _

end Opening

section Calls

variable {m : Action β κ α} {w : Hosted β κ} {bound : Option κ} {allowed : Use → Prop}

lemma Exchanges.exchanged (h : Exchanges (fun k => bound = some k) allowed m)
    (hw : w.session.handle? = bound) : Exchanged w (exec m w) := by
  induction h generalizing w with
  | pure a => exact exchanged_pure a
  | fail e he => exact exchanged_throw he
  | bind _ _ ihm ihf => exact (ihm hw).bind fun a v hv => ihf a (hv.trans hw)
  | tracked _ ih => exact (ih hw).tracked
  | note level text => exact exchanged_note level text
  | session => exact exchanged_session
  | modifyLink g hg => exact .of_ok (exec_modifySession _ w) (handle?_mapLink hg _) rfl
  | controlOut operation request value index _ =>
    apply exchanged_session.bind
    intro s v _
    apply (exchanged_note _ _).bind
    intro _ v _
    exact exchanged_linked operation fun l hl => exchanged_call hl _
  | controlIn operation request index length _ =>
    apply exchanged_session.bind
    intro s v _
    apply exchanged_linked operation
    intro l hl
    apply (exchanged_call hl _).bind
    intro data v _
    apply (exchanged_note _ _).bind
    intro _ v _
    split
    · exact exchanged_pure _
    · exact exchanged_throw rfl
  | bulkOut operation data _ =>
    apply exchanged_session.bind
    intro s v _
    apply exchanged_linked operation
    intro l hl
    apply (exchanged_call hl _).bind
    intro n v _
    exact (exchanged_note _ _).bind fun _ _ _ => exchanged_pure n
  | bulkIn handle endpoint limit timeout hown _ => exact exchanged_call (hw.trans hown) _

lemma Uses.bus_eq (h : Uses (fun _ => False) m) (w : Hosted β κ) : (exec m w).2.bus = w.bus := by
  have hpath : ReflTransGen _ w.bus (exec m w).2.bus := h w
  generalize (exec m w).2.bus = bus at hpath ⊢
  cases hpath with
  | refl => rfl
  | tail _ hcontact => cases hcontact <;> contradiction

lemma Orderly.unsent (h : Orderly (fun k => bound = some k) allowed m)
    (hw : w.session.handle? = bound) : Unsent w (exec m w) := by
  induction h generalizing w with
  | exchanges h =>
    have hexchanged := h.exchanged hw
    cases bound with
    | none => exact fun _ _ _ => hexchanged.unbound hw
    | some k =>
      intro e hexec he
      rw [hexchanged.bound (by rw [hw]; nofun) e hexec] at he
      cases he
  | decides h => exact fun _ _ _ => (h.along.bus_eq w)
  | after h _ ih => exact h.unsent fun a v hv => ih a (by rwa [hv])
  | linked operation _ ih =>
    rw [Attempt.exec_bind, exec_link]
    cases hbinding : w.session.binding with
    | opened l => exact ih l (hw.symm.trans (handle?_opened hbinding)) hw
    | _ => exact fun _ _ _ => rfl
  | tracked _ ih => exact (ih hw).tracked
  | map f _ ih => exact (ih hw).map

lemma unsent_openMatching (filter : Device.Filter) :
    Unsent w (exec (openMatching filter : Action β κ Unit) w) :=
  unsent_opening (unrejected_session.bind fun s =>
    (unrejected_find s.options filter).onHost.bind fun device => unrejected_attach device)

theorem Call.rejected_unsent (c : Call δ) {w w' : Hosted β κ} {e : Error}
    (h : c.step w = (.error e, w')) (he : e.rejects = true) : w'.bus = w.bus := by
  suffices hunsent : Unsent w (c.step w) by
    rw [h] at hunsent
    exact hunsent e rfl he
  have hquiet (hc : ∀ u, ¬ c.uses u) : Unsent w (c.step w) :=
    fun _ _ _ => (c.along hc).bus_eq w
  by_cases hexchanges : c.exchanges = true
  · exact (c.orderly hexchanges fun _ hu => hu).unsent rfl
  cases c with
  | findAll vendor product =>
    refine Unsent.map (Unsent.tracked ?_)
    refine (decides_require _ _).unsent fun _ v _ => Unrejected.unsent ?_
    exact unrejected_session.bind fun s => (unrejected_findAll s.options _ _).onHost
  | openFirst vendor product => exact (unsent_openMatching _).done
  | openMatching filter => exact (unsent_openMatching filter).done
  | openFound descriptor => exact (unsent_opening (unrejected_attach descriptor.device)).done
  | close =>
    refine Unsent.done (Unsent.tracked ?_)
    refine (decides_require _ _).unsent fun _ v _ => Unrejected.unsent ?_
    exact unrejected_detach.bind fun _ => unrejected_note _ _
  | destroy => exact hquiet fun _ => id
  | setChannel channel => exact hquiet fun _ => id
  | setReadTimeout timeout => exact hquiet fun _ => id
  | setWriteTimeout timeout => exact hquiet fun _ => id
  | setWriteChunk n => exact hquiet fun _ => id
  | _ => exact absurd rfl hexchanges

end Calls

theorem Call.rejected_unsent_address :
    let w := Receive.sample 1 [0x2A] (.opened Receive.sampleLink)
    ∃ w', (Call.readWord 0x80).step w = (.error (.outOfRange 0x80 0x3F), w') ∧ w'.bus = w.bus := by
  intro w
  have hstep : (Call.readWord 0x80).step w = (.error (.outOfRange 0x80 0x3F), _) := Prod.ext rfl rfl
  exact ⟨_, hstep, Call.rejected_unsent (.readWord 0x80) hstep rfl⟩

end UsbSerial.Session
