import Mathlib.Data.Nat.Notation
import UsbSerial.Proofs.Session.Action
import UsbSerial.Proofs.Session.Path

/-! How actions end. The judgement `Ends` follows a session through an action, and keeps the path
that leads there. -/

namespace UsbSerial.Session

open Attempt (exec)

variable {β δ κ α γ : Type} [Transport β δ κ] {s : Session κ}

def Ends (m : Action β κ α) (s : Session κ) (Q : Except Error α → Session κ → Prop) : Prop :=
  ∀ w : Hosted β κ, w.session = s →
    Q (exec m w).1 (exec m w).2.session ∧ Path w (exec m w).2

def Outcome (G : Session κ → Prop) (s : Session κ) : Except Error α → Session κ → Prop
  | .ok _, t => G t
  | .error _, t => t = s

section Rules

variable {m : Action β κ α} {f : α → Action β κ γ} {P Q : Except Error α → Session κ → Prop}
  {R : Except Error γ → Session κ → Prop} {G : Session κ → Prop}

lemma Ends.mono (h : Ends m s P) (hPQ : ∀ r t, P r t → Q r t) : Ends m s Q := by
  intro w hw
  obtain ⟨hP, hpath⟩ := h w hw
  exact ⟨hPQ _ _ hP, hpath⟩

lemma Ends.pure {a : α} (h : Q (.ok a) s) : Ends (Pure.pure a : Action β κ α) s Q := by
  intro w hw
  rw [Attempt.exec_pure]
  exact ⟨hw ▸ h, Path.refl w⟩

lemma Ends.throw {e : Error} (h : Q (.error e) s) : Ends (throw e : Action β κ α) s Q := by
  intro w hw
  rw [Attempt.exec_throw]
  exact ⟨hw ▸ h, Path.refl w⟩

lemma Ends.bind (hm : Ends m s P) (hok : ∀ a t, P (.ok a) t → Ends (f a) t R)
    (herror : ∀ e t, P (.error e) t → R (.error e) t) : Ends (m >>= f) s R := by
  intro w hw
  obtain ⟨hP, hpath⟩ := hm w hw
  rw [Attempt.exec_bind]
  rcases hexec : exec m w with ⟨e | a, v⟩
  · rw [hexec] at hP hpath
    exact ⟨herror e _ hP, hpath⟩
  · rw [hexec] at hP hpath
    obtain ⟨hR, hrest⟩ := hok a _ hP v rfl
    exact ⟨hR, hpath.trans hrest⟩

lemma Ends.tryCatch {g : Error → Action β κ α} (hm : Ends m s P)
    (hok : ∀ a t, P (.ok a) t → Q (.ok a) t)
    (herror : ∀ e t, P (.error e) t → Ends (g e) t Q) : Ends (tryCatch m g) s Q := by
  intro w hw
  obtain ⟨hP, hpath⟩ := hm w hw
  rw [Attempt.exec_tryCatch]
  rcases hexec : exec m w with ⟨e | a, v⟩
  · rw [hexec] at hP hpath
    obtain ⟨hQ, hrest⟩ := herror e _ hP v rfl
    exact ⟨hQ, hpath.trans hrest⟩
  · rw [hexec] at hP hpath
    exact ⟨hok a _ hP, hpath⟩

lemma Ends.map {g : α → γ} (hm : Ends m s P) (hok : ∀ a t, P (.ok a) t → R (.ok (g a)) t)
    (herror : ∀ e t, P (.error e) t → R (.error e) t) : Ends (g <$> m) s R := by
  intro w hw
  obtain ⟨hP, hpath⟩ := hm w hw
  rw [Attempt.exec_map]
  rcases hexec : exec m w with ⟨e | a, v⟩
  · rw [hexec] at hP hpath
    exact ⟨herror e _ hP, hpath⟩
  · rw [hexec] at hP hpath
    exact ⟨hok a _ hP, hpath⟩

abbrev Keeps (m : Action β κ α) (s : Session κ) : Prop := Ends m s fun _ t => t = s

lemma Keeps.bind (hm : Keeps m s) (hf : ∀ a, Keeps (f a) s) : Keeps (m >>= f) s :=
  Ends.bind hm (fun a _ ht => ht ▸ hf a) (fun _ _ ht => ht)

lemma Keeps.then (hm : Keeps m s) (hf : ∀ a, Ends (f a) s (Outcome G s)) :
    Ends (m >>= f) s (Outcome G s) :=
  Ends.bind hm (fun a _ ht => ht ▸ hf a) (fun _ _ ht => ht)

lemma Keeps.mapM {ι : Type} {g : ι → Action β κ γ} (hg : ∀ i, Keeps (g i) s) (is : List ι) :
    Keeps (is.mapM g) s := by
  induction is with
  | nil => exact Ends.pure rfl
  | cons i is ih =>
    rw [List.mapM_cons]
    exact (hg i).bind fun _ => ih.bind fun _ => Ends.pure rfl

lemma Keeps.forM {ι : Type} {g : ι → Action β κ PUnit} (hg : ∀ i, Keeps (g i) s) (is : List ι) :
    Keeps (is.forM g) s := by
  induction is with
  | nil => exact Ends.pure rfl
  | cons i is ih => exact (hg i).bind fun _ => ih

end Rules

section Primitives

variable {f : α → Action β κ γ} {Q : Except Error γ → Session κ → Prop} {G : Session κ → Prop}

lemma Ends.note {level : Log.Level} {text : String} {Q : Except Error Unit → Session κ → Prop}
    (hQ : Q (.ok ()) s) : Ends (Session.note level text : Action β κ Unit) s Q := by
  rintro w rfl
  rw [exec_note]
  exact ⟨hQ, (Move.log w _).path⟩

lemma keeps_note (level : Log.Level) (text : String) :
    Keeps (note level text : Action β κ Unit) s :=
  Ends.note rfl

lemma keeps_channelIndex : Keeps (channelIndex : Action β κ UInt16) s := by
  intro w hw
  rw [exec_channelIndex]
  exact ⟨hw, Path.refl w⟩

lemma Ends.session {f : Session κ → Action β κ γ} (hf : Ends (f s) s Q) :
    Ends (Session.session >>= f) s Q := by
  intro w hw
  rw [Attempt.exec_bind, exec_session, hw]
  exact hf w hw

lemma Ends.modifySession_then {g : Session κ → Session κ} {f : Unit → Action β κ γ}
    (hmove : ∀ w : Hosted β κ, w.session = s → Move w { w with session := g s })
    (hf : Ends (f ()) (g s) Q) : Ends (Session.modifySession g >>= f) s Q := by
  rintro w rfl
  rw [Attempt.exec_bind, exec_modifySession]
  obtain ⟨hQ, hpath⟩ := hf { w with session := g w.session } rfl
  exact ⟨hQ, (hmove w rfl).path.trans hpath⟩

lemma Ends.modifySession {g : Session κ → Session κ} {Q : Except Error Unit → Session κ → Prop}
    (hmove : ∀ w : Hosted β κ, w.session = s → Move w { w with session := g s })
    (hQ : Q (.ok ()) (g s)) : Ends (Session.modifySession g : Action β κ Unit) s Q := by
  rintro w rfl
  rw [exec_modifySession]
  exact ⟨hQ, (hmove w rfl).path⟩

lemma Ends.link {f : Link κ → Action β κ γ} {operation : Operation}
    (hf : ∀ l, s.binding = .opened l → Ends (f l) s (Outcome G s)) :
    Ends (Session.link operation >>= f) s (Outcome G s) := by
  intro w hw
  rw [Attempt.exec_bind, exec_link, hw]
  cases hbinding : s.binding with
  | closed => exact ⟨hw, Path.refl w⟩
  | opened l => exact hf l hbinding w hw
  | destroyed => exact ⟨hw, Path.refl w⟩

lemma Ends.require {f : Unit → Action β κ γ} {operation : Operation} {allowed : State → Bool}
    (hf : s.state ≠ .destroyed → allowed s.state = true → Ends (f ()) s (Outcome G s)) :
    Ends (Session.require operation allowed >>= f) s (Outcome G s) := by
  intro w hw
  rw [Attempt.exec_bind, exec_require, hw]
  by_cases hdestroyed : s.state = .destroyed
  · rw [if_pos hdestroyed]
    exact ⟨hw, Path.refl w⟩
  by_cases hallowed : allowed s.state = true
  · rw [if_neg hdestroyed, if_pos hallowed]
    exact hf hdestroyed hallowed w hw
  · rw [if_neg hdestroyed, if_neg hallowed]
    exact ⟨hw, Path.refl w⟩

lemma Ends.lift {r : Except Error α} (hok : ∀ a, r = .ok a → Ends (f a) s (Outcome G s)) :
    Ends ((liftM r : Action β κ α) >>= f) s (Outcome G s) := by
  intro w hw
  rw [Attempt.exec_bind, Attempt.exec_liftM]
  cases r with
  | error e => exact ⟨hw, Path.refl w⟩
  | ok a => exact hok a rfl w hw

end Primitives

section Tracking

def Tracked (G : Session κ → Prop) (s : Session κ) : Except Error α → Session κ → Prop
  | .ok _, t => G t
  | .error e, t => t = { s with lastError := some e }

variable {m : Action β κ α} {G : Session κ → Prop}

lemma Ends.tracked {P Q : Except Error α → Session κ → Prop} (hm : Ends m s P)
    (hok : ∀ a t, P (.ok a) t → Q (.ok a) t)
    (herror : ∀ e t, P (.error e) t → Q (.error e) { t with lastError := some e }) :
    Ends (Session.tracked m) s Q := by
  intro w hw
  obtain ⟨hP, hpath⟩ := hm w hw
  rw [exec_tracked]
  rcases hexec : exec m w with ⟨e | a, v⟩
  · rw [hexec] at hP hpath
    exact ⟨herror e _ hP, hpath.trans ((Move.log v _).path.trans (Move.noted _ (some e)).path)⟩
  · rw [hexec] at hP hpath
    exact ⟨hok a _ hP, hpath⟩

lemma Ends.outcome_tracked (hm : Ends m s (Outcome G s)) :
    Ends (Session.tracked m) s (Tracked G s) := by
  refine Ends.tracked hm (fun _ _ ht => ht) ?_
  rintro e t rfl
  rfl

lemma Ends.answer {g : α → γ} (hm : Ends m s (Tracked G s)) :
    Ends (g <$> m) s (Tracked G s) :=
  Ends.map hm (fun _ _ ht => ht) (fun _ _ ht => ht)

end Tracking

section Transfers

variable {l : Link κ}

lemma keeps_onHost {m : Attempt (Host β) Error α} (h : Asks m) :
    Keeps (onHost m : Action β κ α) s := by
  intro w hw
  rw [exec_onHost]
  exact ⟨hw, h w⟩

lemma keeps_call {c : Attempt β Usb.Error α} {cause : Usb.Error → Error}
    (hmove : ∀ w : Hosted β κ, w.session = s → Move w { w with bus := (exec c w.bus).2 }) :
    Keeps (onHost (Host.call cause c) : Action β κ α) s := by
  intro w hw
  rw [exec_onHost, Host.exec_call]
  exact ⟨hw, (hmove w hw).path⟩

abbrev Transfers (m : Action β κ α) (s : Session κ) : Prop :=
  Ends m s (Outcome (fun t => t = s ∧ ∃ l, s.binding = .opened l) s)

lemma Keeps.transfers {m : Action β κ α} (h : Keeps m s) (hl : s.binding = .opened l) :
    Transfers m s := by
  apply h.mono
  rintro (e | a) t ht
  · exact ht
  · exact ⟨ht, l, hl⟩

lemma Transfers.keeps {m : Action β κ α} (h : Transfers m s) : Keeps m s := by
  apply h.mono
  rintro (e | a) t ht
  · exact ht
  · exact ht.1

lemma Transfers.then {m : Action β κ α} {f : α → Action β κ γ} {G : Session κ → Prop}
    (hm : Transfers m s) (hf : ∀ a l, s.binding = .opened l → Ends (f a) s (Outcome G s)) :
    Ends (m >>= f) s (Outcome G s) := by
  refine Ends.bind hm ?_ (fun _ _ ht => ht)
  rintro a t ⟨rfl, l, hl⟩
  exact hf a l hl

lemma transfers_controlOut (operation : Operation) (request : Request) (value index : UInt16) :
    Transfers (controlOut operation request value index : Action β κ Unit) s := by
  apply Ends.session
  apply (keeps_note _ _).then
  intro _
  apply Ends.link
  intro l hl
  refine (keeps_call ?_).transfers hl
  rintro w rfl
  exact Move.controlOut w l request value index hl

lemma transfers_controlIn (operation : Operation) (request : Request) (index length : UInt16) :
    Transfers (controlIn operation request index length : Action β κ _) s := by
  apply Ends.session
  apply Ends.link
  intro l hl
  refine (Keeps.transfers (keeps_call ?_) hl).then fun data _ _ => ?_
  · rintro w rfl
    exact Move.controlIn w l request index length hl
  apply (keeps_note _ _).then
  intro _
  by_cases h : length.toNat ≤ data.length
  · rw [dif_pos h]
    exact Ends.pure ⟨rfl, l, hl⟩
  · rw [dif_neg h]
    exact Ends.throw rfl

lemma transfers_bulkOut (operation : Operation) (data : List UInt8) :
    Transfers (bulkOut operation data : Action β κ ℕ) s := by
  apply Ends.session
  apply Ends.link
  intro l hl
  refine (Keeps.transfers (keeps_call ?_) hl).then fun n _ _ => ?_
  · rintro w rfl
    exact Move.bulkOut w l data hl
  apply (keeps_note _ _).then
  intro _
  exact Ends.pure ⟨rfl, l, hl⟩

lemma Ends.modifyLink_then {g : Link κ → Link κ} {f : Unit → Action β κ γ}
    {Q : Except Error γ → Session κ → Prop} (hl : s.binding = .opened l)
    (hg : ∃ mode baudRate leftover, g l = { l with mode, baudRate, leftover })
    (hf : Ends (f ()) { s with binding := .opened (g l) } Q) :
    Ends (Session.modifyLink g >>= f) s Q := by
  obtain ⟨mode, baudRate, leftover, hg⟩ := hg
  have hlink := mapLink_opened hl g
  refine Ends.modifySession_then ?_ (hlink ▸ hf)
  rintro w rfl
  rw [hlink, hg]
  exact Move.relink w l mode baudRate leftover hl

lemma Ends.modifyLink {g : Link κ → Link κ} {Q : Except Error Unit → Session κ → Prop}
    (hl : s.binding = .opened l)
    (hg : ∃ mode baudRate leftover, g l = { l with mode, baudRate, leftover })
    (hQ : Q (.ok ()) { s with binding := .opened (g l) }) :
    Ends (Session.modifyLink g : Action β κ Unit) s Q := by
  have hunit : (Session.modifyLink g : Action β κ Unit) =
      Session.modifyLink g >>= fun _ => Pure.pure () := bind_pure_unit.symm
  rw [hunit]
  exact Ends.modifyLink_then hl hg (Ends.pure hQ)

end Transfers

end UsbSerial.Session
