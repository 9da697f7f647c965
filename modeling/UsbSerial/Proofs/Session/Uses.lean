import UsbSerial.Proofs.Listing
import UsbSerial.Proofs.Session.Exchange
import UsbSerial.Proofs.Session.Opening

namespace UsbSerial.Session

open Attempt (exec Along)
open Relation (ReflTransGen)

variable {β δ κ α : Type} [Transport β δ κ]

inductive Contact (allowed : Use → Prop) : β → β → Prop
  | enumerate (bus : β) (vendor product : UInt16) :
      allowed .enumerate →
      Contact allowed bus (exec (Transport.enumerate vendor product) bus).2
  | texts (bus : β) (device : δ) (timeout : Duration) :
      allowed .texts → Contact allowed bus (exec (Transport.texts device timeout) bus).2
  | claim (bus : β) (device : δ) (channel : UInt8) :
      allowed .claim → Contact allowed bus (exec (Transport.claim device channel) bus).2
  | release (bus : β) (handle : κ) :
      allowed .release → Contact allowed bus (exec (Transport.release handle) bus).2
  | controlOut (bus : β) (handle : κ) (request : Request) (value index : UInt16)
      (timeout : Duration) :
      allowed (.controlOut request value) →
      Contact allowed bus
        (exec (Transport.controlOut handle request.code value index timeout) bus).2
  | controlIn (bus : β) (handle : κ) (request : Request) (index length : UInt16)
      (timeout : Duration) :
      allowed (.controlIn request) →
      Contact allowed bus
        (exec (Transport.controlIn handle request.code 0 index length timeout) bus).2
  | bulkOut (bus : β) (handle : κ) (endpoint : UInt8) (data : List UInt8) (timeout : Duration) :
      allowed .bulkOut →
      Contact allowed bus (exec (Transport.bulkOut handle endpoint data timeout) bus).2
  | bulkIn (bus : β) (handle : κ) (endpoint : UInt8) (limit : ℕ) (timeout : Duration) :
      allowed .bulkIn →
      Contact allowed bus (exec (Transport.bulkIn handle endpoint limit timeout) bus).2

abbrev Uses (allowed : Use → Prop) (m : Action β κ α) : Prop :=
  Along (fun w : Hosted β κ => w.bus) (Contact allowed) m

variable {allowed : Use → Prop} {m : Action β κ α}

section Rules

lemma uses_note (level : Log.Level) (text : String) :
    Uses allowed (note level text : Action β κ Unit) :=
  Along.still fun _ => by rw [exec_note]

lemma uses_modifySession (f : Session κ → Session κ) :
    Uses allowed (modifySession f : Action β κ Unit) :=
  Along.still fun _ => by rw [exec_modifySession]

lemma Decides.along (h : Decides m) : Uses allowed m := by
  refine Along.still fun w => ?_
  obtain ⟨log, hlog⟩ := h.still w
  rw [hlog]

lemma Uses.tracked (h : Uses allowed m) : Uses allowed (tracked m) :=
  Along.tryCatch h fun _ =>
    (uses_note _ _).bind fun _ => (uses_modifySession _).bind fun _ => Along.throw _

lemma Uses.done {m : Action β κ Unit} (h : Uses allowed m) :
    Uses allowed (Call.run.done m : Action β κ (Answer δ)) :=
  h.bind fun _ => Along.pure _

lemma uses_call {c : Attempt β Usb.Error α} {cause : Usb.Error → Error}
    (h : ∀ bus, Contact allowed bus (exec c bus).2) :
    Uses allowed (onHost (Host.call cause c) : Action β κ α) := by
  intro w
  rw [exec_onHost, Host.exec_call]
  exact .single (h w.bus)

lemma searches_contact (timeout : Duration) (h : allowed .enumerate ∧ allowed .texts) :
    Device.Searches timeout (fun h : Host β => h.bus) (Contact allowed : β → β → Prop) where
  record _ _ := .refl
  enumerate host vendor product := .single (.enumerate host.bus vendor product h.1)
  texts host device := .single (.texts host.bus device timeout h.2)

lemma uses_onHost {m : Attempt (Host β) Error α}
    (h : Along (fun h : Host β => h.bus) (Contact allowed : β → β → Prop) m) :
    Uses allowed (onHost m : Action β κ α) := by
  intro w
  rw [exec_onHost]
  exact h w.toHost

end Rules

section Exchanging

lemma uses_controlOut (operation : Operation) {request : Request} {value : UInt16}
    (h : allowed (.controlOut request value)) (index : UInt16) :
    Uses allowed (controlOut operation request value index : Action β κ Unit) := by
  apply decides_session.along.bind
  intro s
  apply (uses_note _ _).bind
  intro _
  apply (decides_link operation).along.bind
  intro link
  exact uses_call fun bus => .controlOut bus link.handle request value index _ h

lemma uses_controlIn (operation : Operation) {request : Request} (h : allowed (.controlIn request))
    (index length : UInt16) :
    Uses allowed (controlIn operation request index length : Action β κ _) := by
  apply decides_session.along.bind
  intro s
  apply (decides_link operation).along.bind
  intro link
  apply Along.bind (uses_call fun bus => .controlIn bus link.handle request index length _ h)
  intro data
  apply (uses_note _ _).bind
  intro _
  split
  · exact Along.pure _
  · exact Along.throw _

lemma uses_bulkOut (operation : Operation) (h : allowed .bulkOut) (data : List UInt8) :
    Uses allowed (bulkOut operation data : Action β κ ℕ) := by
  apply decides_session.along.bind
  intro s
  apply (decides_link operation).along.bind
  intro link
  apply Along.bind (uses_call fun bus => .bulkOut bus link.handle _ data _ h)
  intro n
  exact (uses_note _ _).bind fun _ => Along.pure n

variable {own : κ → Prop}

lemma Exchanges.along (h : Exchanges own allowed m) : Uses allowed m := by
  induction h with
  | pure a => exact Along.pure a
  | fail e _ => exact Along.throw e
  | bind _ _ ihm ihf => exact ihm.bind ihf
  | tracked _ ih => exact ih.tracked
  | note level text => exact uses_note level text
  | session => exact decides_session.along
  | modifyLink g _ => exact uses_modifySession _
  | controlOut operation request value index h => exact uses_controlOut operation h index
  | controlIn operation request index length h => exact uses_controlIn operation h index length
  | bulkOut operation data h => exact uses_bulkOut operation h data
  | bulkIn handle endpoint limit timeout _ h =>
    exact uses_call fun bus => .bulkIn bus handle endpoint limit timeout h

lemma Orderly.along (h : Orderly (fun _ => True) allowed m) : Uses allowed m := by
  induction h with
  | exchanges h => exact h.along
  | decides h => exact h.along
  | after h _ ih => exact h.along.bind ih
  | linked operation _ ih => exact (decides_link operation).along.bind fun l => ih l trivial
  | tracked _ ih => exact ih.tracked
  | map f _ ih => exact ih.map

end Exchanging

section Opening

lemma uses_detach (h : allowed .release) : Uses allowed (detach : Action β κ Unit) := by
  intro w
  cases hbinding : w.session.binding with
  | opened l =>
    obtain ⟨entries, hexec⟩ := exec_detach hbinding
    rw [hexec]
    exact .single (.release w.bus l.handle h)
  | closed => simp [detach, hbinding, Relation.ReflTransGen.refl]
  | destroyed => simp [detach, hbinding, Relation.ReflTransGen.refl]

lemma Uses.orDetach {step : Action β κ Unit} (hstep : Uses allowed step)
    (h : allowed .release) (cause : Error → Error) : Uses allowed (orDetach cause step) :=
  Along.tryCatch hstep fun _ => (uses_detach h).bind fun _ => Along.throw _

lemma uses_claim (h : allowed .claim) (device : δ) :
    Uses allowed (claim device : Action β κ (Usb.Claim κ)) := by
  apply decides_session.along.bind
  intro s
  apply Along.bind (uses_call fun bus => .claim bus device _ h)
  intro claim
  have hrecord : Uses allowed (onHost (Host.record claim.notes) : Action β κ Unit) :=
    Along.still fun _ => by rw [exec_onHost, Host.exec_record]
  exact hrecord.bind fun _ => Along.pure claim

lemma uses_attach (h : ∀ u : Use, u.opens → allowed u) (device : δ) :
    Uses allowed (attach device : Action β κ Unit) := by
  have hrelease : allowed .release := h _ (by simp [Use.opens])
  have hreset : Exchanges (fun _ => True) allowed (resetEngine : Action β κ Unit) :=
    exchanges_resetEngine (h _ (by simp [Use.opens]))
  have hrate : Orderly (fun _ => True) allowed
      (programBaudRate defaultBaudRate : Action β κ Unit) :=
    orderly_programBaudRate (fun _ => h _ (by simp [Use.opens])) _
  apply (uses_claim (h _ (by simp [Use.opens])) device).bind
  intro claim
  apply decides_session.along.bind
  intro s
  apply (uses_note _ _).bind
  intro _
  apply (uses_modifySession _).bind
  intro _
  exact (hreset.along.orDetach hrelease _).bind fun _ => hrate.along.orDetach hrelease _

lemma uses_beginOpening : Uses allowed (beginOpening : Action β κ Unit) :=
  (decides_require _ _).along.bind fun _ => uses_modifySession _

lemma uses_openMatching (h : ∀ u : Use, u.opens → allowed u) (filter : Device.Filter) :
    Uses allowed (openMatching filter : Action β κ Unit) := by
  apply Uses.tracked
  apply uses_beginOpening.bind
  intro _
  apply decides_session.along.bind
  intro s
  have hfind := (searches_contact (β := β) s.options.readTimeout
    ⟨h _ (.inl rfl), h _ (.inr (.inl rfl))⟩).find filter
  exact (uses_onHost hfind).bind (uses_attach h)

lemma uses_openFound (h : ∀ u : Use, u.opens → allowed u) (descriptor : Device.Descriptor δ) :
    Uses allowed (openFound descriptor : Action β κ Unit) :=
  Uses.tracked (uses_beginOpening.bind fun _ => uses_attach h descriptor.device)

end Opening

theorem Call.along (c : Call δ) {allowed : Use → Prop} (h : ∀ u, c.uses u → allowed u) :
    Uses allowed (c.run : Action β κ (Answer δ)) := by
  by_cases hexchanges : c.exchanges = true
  · exact (c.orderly hexchanges h).along
  cases c with
  | findAll vendor product =>
    apply Along.map
    apply Uses.tracked
    apply (decides_require _ _).along.bind
    intro _
    apply decides_session.along.bind
    intro s
    have hfindAll := (searches_contact (β := β) s.options.readTimeout
      ⟨h _ (.inl rfl), h _ (.inr rfl)⟩).findAll vendor product
    exact uses_onHost hfindAll
  | openFirst vendor product => exact (uses_openMatching h _).done
  | openMatching filter => exact (uses_openMatching h filter).done
  | openFound descriptor => exact (uses_openFound h descriptor).done
  | close =>
    apply Uses.done
    apply Uses.tracked
    exact (decides_require _ _).along.bind fun _ =>
      (uses_detach (h _ rfl)).bind fun _ => uses_note _ _
  | destroy =>
    apply Uses.done
    apply Uses.tracked
    exact (decides_require _ _).along.bind fun _ =>
      (uses_modifySession _).bind fun _ => uses_note _ _
  | setChannel channel =>
    exact (Uses.tracked ((decides_require _ _).along.bind fun _ => uses_modifySession _)).done
  | setReadTimeout timeout => exact Uses.done (uses_modifySession _)
  | setWriteTimeout timeout => exact Uses.done (uses_modifySession _)
  | setWriteChunk n => exact Uses.done (uses_modifySession _)
  | _ => exact absurd rfl hexchanges

end UsbSerial.Session
