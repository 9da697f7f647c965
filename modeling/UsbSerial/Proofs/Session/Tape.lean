import UsbSerial.Proofs.Session.Uses
import UsbSerial.Proofs.Session.Views

/-! A tape that is kept of all that is asked of a bus. A reply that is too short is the last thing
an operation leaves on it. -/

namespace UsbSerial

open Attempt (exec Shows)

namespace Tape

inductive Entry
  | reply (length : UInt16) (data : List UInt8)
  | other
  deriving DecidableEq, Repr

end Tape

structure Tape (β : Type) where
  bus : β
  entries : List Tape.Entry := []
  deriving DecidableEq, Repr

namespace Tape

variable {β δ κ α : Type}

def taped (call : Attempt β Usb.Error α) (entry : α → Entry) : Attempt (Tape β) Usb.Error α :=
  .of fun t =>
    match exec call t.bus with
    | (.ok a, bus) => (.ok a, { bus, entries := t.entries ++ [entry a] })
    | (.error e, bus) => (.error e, { bus, entries := t.entries ++ [.other] })

instance [Transport β δ κ] : Transport (Tape β) δ κ where
  enumerate vendor product := taped (Transport.enumerate vendor product) fun _ => .other
  ids device t := Transport.ids device t.bus
  texts device timeout := taped (Transport.texts device timeout) fun _ => .other
  claim device channel := taped (Transport.claim device channel) fun _ => .other
  controlOut handle request value index timeout :=
    taped (Transport.controlOut handle request value index timeout) fun _ => .other
  controlIn handle request value index length timeout :=
    taped (Transport.controlIn handle request value index length timeout) (.reply length)
  bulkOut handle endpoint data timeout :=
    taped (Transport.bulkOut handle endpoint data timeout) fun _ => .other
  bulkIn handle endpoint limit timeout :=
    taped (Transport.bulkIn handle endpoint limit timeout) fun _ => .other
  release handle := taped (Transport.release handle) fun _ => .other

lemma exec_taped (call : Attempt β Usb.Error α) (entry : α → Entry) (t : Tape β) :
    exec (taped call entry) t =
      match exec call t.bus with
      | (.ok a, bus) => (.ok a, { bus, entries := t.entries ++ [entry a] })
      | (.error e, bus) => (.error e, { bus, entries := t.entries ++ [.other] }) := rfl

lemma shows_taped (call : Attempt β Usb.Error α) (entry : α → Entry) :
    Shows Tape.bus (taped call entry) call := by
  intro t
  rw [exec_taped]
  rcases exec call t.bus with ⟨e | a, bus⟩ <;> rfl

lemma view [Transport β δ κ] : Transport.View (Tape.bus : Tape β → β) where
  enumerate _ _ := shows_taped _ _
  ids _ _ := rfl
  texts _ _ := shows_taped _ _
  claim _ _ := shows_taped _ _
  controlOut _ _ _ _ _ := shows_taped _ _
  controlIn _ _ _ _ _ _ := shows_taped _ _
  bulkOut _ _ _ _ := shows_taped _ _
  bulkIn _ _ _ _ := shows_taped _ _
  release _ := shows_taped _ _

def Entry.Short : Entry → Prop
  | .reply length data => data.length < length.toNat
  | .other => False

/-- The entries of an operation with the given result: no reply is too short but the last one, and
that is what the operation failed of. -/
inductive Cut : List Entry → Except Error α → Prop
  | whole {entries : List Entry} (r : Except Error α) :
      (∀ e ∈ entries, ¬ e.Short) → Cut entries r
  | short {entries : List Entry} (length : UInt16) (data : List UInt8) :
      (∀ e ∈ entries, ¬ e.Short) → data.length < length.toNat →
      Cut (entries ++ [.reply length data]) (.error (.shortTransfer length.toNat data.length))

lemma Cut.nil (r : Except Error α) : Cut [] r := .whole r (by simp)

lemma Cut.other (r : Except Error α) : Cut [.other] r := .whole r (by simp [Entry.Short])

lemma Cut.of_error {γ : Type} {entries : List Entry} {e : Error}
    (h : Cut entries (.error e : Except Error α)) : Cut entries (.error e : Except Error γ) := by
  cases h with
  | whole _ hwhole => exact .whole _ hwhole
  | short length data hwhole hshort => exact .short length data hwhole hshort

lemma Cut.of_ok {entries : List Entry} {a : α} (h : Cut entries (.ok a)) :
    ∀ e ∈ entries, ¬ e.Short := by
  cases h with
  | whole _ hwhole => exact hwhole

lemma Cut.prepend {entries more : List Entry} {r : Except Error α}
    (hentries : ∀ e ∈ entries, ¬ e.Short) (h : Cut more r) : Cut (entries ++ more) r := by
  cases h with
  | whole _ hmore => exact .whole r (List.forall_mem_append.mpr ⟨hentries, hmore⟩)
  | short length data hmore hshort =>
    rw [← List.append_assoc]
    exact .short length data (List.forall_mem_append.mpr ⟨hentries, hmore⟩) hshort

lemma Cut.last {earlier later : List Entry} {length : UInt16} {data : List UInt8}
    {r : Except Error α} (h : Cut (earlier ++ .reply length data :: later) r)
    (hshort : data.length < length.toNat) :
    later = [] ∧ r = .error (.shortTransfer length.toNat data.length) := by
  generalize hentries : earlier ++ Entry.reply length data :: later = entries at h
  cases h with
  | whole _ hwhole =>
    exact absurd hshort (hwhole (.reply length data) (by simp [← hentries]))
  | @short front length' data' hwhole hshort' =>
    rcases List.eq_nil_or_concat later with rfl | ⟨later, e, rfl⟩
    · obtain ⟨-, hlast⟩ := List.append_inj' hentries rfl
      cases hlast
      exact ⟨rfl, rfl⟩
    · have hfront : front = earlier ++ .reply length data :: later := by
        rw [List.concat_eq_append, ← List.cons_append, ← List.append_assoc] at hentries
        exact (List.append_inj' hentries rfl).1.symm
      exact absurd hshort (hwhole (.reply length data) (by simp [hfront]))

end Tape

namespace Session

open Relation (ReflTransGen)
open Tape (Cut taped)

variable {β δ κ α γ : Type}

def Cuts (m : Action (Tape β) κ α) : Prop :=
  ∀ w, ∃ more, (exec m w).2.bus.entries = w.bus.entries ++ more ∧ Cut more (exec m w).1

section Rules

variable {m : Action (Tape β) κ α} {f : α → Action (Tape β) κ γ}

lemma Cuts.still (h : ∀ w, (exec m w).2.bus.entries = w.bus.entries) : Cuts m :=
  fun w => ⟨[], by rw [h w, List.append_nil], .nil _⟩

lemma Decides.cuts (h : Decides m) : Cuts m := by
  refine .still fun w => ?_
  obtain ⟨log, hlog⟩ := h.still w
  rw [hlog]

lemma Cuts.bind (hm : Cuts m) (hf : ∀ a, Cuts (f a)) : Cuts (m >>= f) := by
  intro w
  obtain ⟨entries, hentries, hcut⟩ := hm w
  rw [Attempt.exec_bind]
  rcases hexec : exec m w with ⟨e | a, v⟩
  · rw [hexec] at hentries hcut
    exact ⟨entries, hentries, hcut.of_error⟩
  · rw [hexec] at hentries hcut
    obtain ⟨more, hmore, hrest⟩ := hf a v
    refine ⟨entries ++ more, ?_, hrest.prepend hcut.of_ok⟩
    rw [hmore, hentries, List.append_assoc]

lemma Cuts.map (f : α → γ) (hm : Cuts m) : Cuts (f <$> m) := by
  rw [map_eq_pure_bind]
  exact hm.bind fun _ => .still fun _ => rfl

lemma Cuts.tracked (hm : Cuts m) : Cuts (tracked m) := by
  intro w
  obtain ⟨entries, hentries, hcut⟩ := hm w
  rw [exec_tracked]
  rcases hexec : exec m w with ⟨e | a, v⟩
  · rw [hexec] at hentries hcut
    exact ⟨entries, hentries, hcut⟩
  · rw [hexec] at hentries hcut
    exact ⟨entries, hentries, hcut⟩

lemma cuts_other (call : Attempt β Usb.Error α) (cause : Usb.Error → Error) :
    Cuts (onHost (Host.call cause (taped call fun _ => .other)) : Action (Tape β) κ α) := by
  intro w
  rw [exec_onHost, Host.exec_call, Tape.exec_taped]
  rcases exec call w.bus.bus with ⟨e | a, bus⟩
  · exact ⟨[.other], rfl, .other _⟩
  · exact ⟨[.other], rfl, .other _⟩

end Rules

variable [Transport β δ κ] {own : κ → Prop} {allowed : Use → Prop} {m : Action (Tape β) κ α}

lemma cuts_controlIn (operation : Operation) (request : Request) (index length : UInt16) :
    Cuts (controlIn operation request index length : Action (Tape β) κ _) := by
  apply decides_session.cuts.bind
  intro s
  apply (decides_link operation).cuts.bind
  intro link w
  rcases hreply : exec (Transport.controlIn link.handle request.code 0 index length
    s.options.readTimeout) w.bus.bus with ⟨e | data, bus⟩
  · exact ⟨[.other], by simp [Transport.controlIn, Tape.exec_taped, hreply], .other _⟩
  by_cases hlength : length.toNat ≤ data.length
  · have hwhole : ∀ e ∈ [Tape.Entry.reply length data], ¬ e.Short := by
      simpa [Tape.Entry.Short] using hlength
    exact ⟨[.reply length data],
      by simp [Transport.controlIn, Tape.exec_taped, hreply, hlength], .whole _ hwhole⟩
  · have hcut : Cut ([] ++ [.reply length data])
        (.error (.shortTransfer length.toNat data.length) : Except Error (Reply length.toNat)) :=
      .short length data (by simp) (Nat.lt_of_not_le hlength)
    exact ⟨[.reply length data],
      by simp [Transport.controlIn, Tape.exec_taped, hreply, hlength],
      by simpa [Transport.controlIn, Tape.exec_taped, hreply, hlength] using hcut⟩

lemma Exchanges.cuts (h : Exchanges own allowed m) : Cuts m := by
  induction h with
  | pure a => exact (decides_pure a).cuts
  | fail e _ => exact (decides_throw e).cuts
  | bind _ _ ihm ihf => exact ihm.bind ihf
  | tracked _ ih => exact ih.tracked
  | note level text => exact (decides_note level text).cuts
  | session => exact decides_session.cuts
  | modifyLink g _ => exact .still fun _ => by rw [Session.modifyLink, exec_modifySession]
  | controlOut operation request value index _ =>
    apply decides_session.cuts.bind
    intro s
    apply (decides_note _ _).cuts.bind
    intro _
    exact (decides_link _).cuts.bind fun _ => cuts_other _ _
  | controlIn operation request index length _ => exact cuts_controlIn _ _ _ _
  | bulkOut operation data _ =>
    apply decides_session.cuts.bind
    intro s
    apply (decides_link _).cuts.bind
    intro link
    exact (cuts_other _ _).bind fun n => (decides_note _ _).cuts.bind fun _ => (decides_pure n).cuts
  | bulkIn handle endpoint limit timeout _ _ => exact cuts_other _ _

lemma Orderly.cuts (h : Orderly (fun _ => True) allowed m) : Cuts m := by
  induction h with
  | exchanges h => exact h.cuts
  | decides h => exact h.cuts
  | after h _ ih => exact h.cuts.bind ih
  | linked operation _ ih => exact (decides_link operation).cuts.bind fun l => ih l trivial
  | tracked _ ih => exact ih.tracked
  | map f _ ih => exact ih.map f

lemma entries_other (call : Attempt β Usb.Error α) (t : Tape β) :
    (exec (taped call fun _ => .other) t).2.entries = t.entries ++ [.other] := by
  rw [Tape.exec_taped]
  rcases exec call t.bus with ⟨e | a, bus⟩ <;> rfl

lemma Contact.other (hallowed : ∀ request, ¬ allowed (.controlIn request)) {t t' : Tape β}
    (h : Contact allowed t t') : t'.entries = t.entries ++ [.other] := by
  cases h with
  | controlIn _ request _ _ _ h => exact absurd h (hallowed request)
  | _ => exact entries_other _ _

lemma cuts_of_uses (hallowed : ∀ request, ¬ allowed (.controlIn request))
    (h : Uses allowed m) : Cuts m := by
  intro w
  have hmore {t t' : Tape β} (hpath : ReflTransGen (Contact allowed) t t') :
      ∃ more, t'.entries = t.entries ++ more ∧ ∀ e ∈ more, ¬ e.Short := by
    induction hpath with
    | refl => exact ⟨[], (List.append_nil _).symm, by simp⟩
    | tail _ hcontact ih =>
      obtain ⟨more, hentries, hwhole⟩ := ih
      refine ⟨more ++ [.other], by rw [hcontact.other hallowed, hentries, List.append_assoc], ?_⟩
      exact List.forall_mem_append.mpr ⟨hwhole, by simp [Tape.Entry.Short]⟩
  obtain ⟨more, hentries, hwhole⟩ := hmore (h w)
  exact ⟨more, hentries, .whole _ hwhole⟩

lemma Call.asks_no_reply {c : Call δ} (h : c.exchanges = false) (request : Request) :
    ¬ c.uses (.controlIn request) := by
  cases c <;> simp_all [uses, Use.opens, exchanges]

theorem Call.cuts (c : Call δ) : Cuts (c.run : Action (Tape β) κ (Answer δ)) := by
  cases hexchanges : c.exchanges with
  | true => exact (c.orderly hexchanges fun _ h => h).cuts
  | false => exact cuts_of_uses (c.asks_no_reply hexchanges) (c.along fun _ h => h)

end Session

end UsbSerial
