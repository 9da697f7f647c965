import Mathlib.Data.Nat.Notation
import Mathlib.Tactic.Lemma
import UsbSerial.Probe
import UsbSerial.Proofs.Attempt

/-! A probe changes its bus only by the calls that pass. What such calls leave alone, the probe
leaves alone. -/

namespace UsbSerial.Probe

open Attempt (exec)

variable {β δ κ α γ : Type} [Transport β δ κ] {g : β → γ}

section Leaving

def Leaves (g : β → γ) (t : Transfer β α) : Prop := ∀ p : Probe β, g (exec t p).2.bus = g p.bus

lemma Leaves.pass {c : Attempt β Usb.Error α} (hc : ∀ b, g (exec c b).2 = g b) :
    Leaves g (Probe.pass c) := fun p => hc p.bus

lemma Leaves.bind {t : Transfer β α} {f : α → Transfer β α'} (ht : Leaves g t)
    (hf : ∀ a, Leaves g (f a)) : Leaves g (t >>= f) := by
  intro p
  have h := ht p
  rw [Attempt.exec_bind]
  rcases hexec : exec t p with ⟨e | a, u⟩
  · rw [hexec] at h
    exact h
  · rw [hexec] at h
    exact (hf a u).trans h

lemma leaves_see (s : Seen) : Leaves g (see s : Transfer β Unit) := fun _ => rfl

lemma exec_takeFault (site : Site) (p : Probe β) :
    ∃ fault u, exec (takeFault site) p = (.ok fault, u) ∧ u.bus = p.bus := by
  cases hfind : p.faults.find? (·.1 = site) with
  | none => exact ⟨none, p, by simp [takeFault, hfind], rfl⟩
  | some f =>
    exact ⟨some f.2, { p with faults := p.faults.eraseP (·.1 = site) },
      by simp [takeFault, hfind], rfl⟩

lemma exec_unlessFault (site : Site) (timeout : Duration) (t : Transfer β α) (p : Probe β) :
    (∃ e u, exec (unlessFault site timeout t) p = (.error e, u) ∧ u.bus = p.bus) ∨
      ∃ u, exec (unlessFault site timeout t) p = exec t u ∧ u.bus = p.bus := by
  obtain ⟨fault, u, hexec, hbus⟩ := exec_takeFault site p
  cases fault with
  | none => exact .inr ⟨u, by simp [unlessFault, hexec], hbus⟩
  | some fault => exact .inl ⟨fault.error timeout, u, by simp [unlessFault, hexec], hbus⟩

lemma Leaves.unlessFault {t : Transfer β α} (ht : Leaves g t) (site : Site) (timeout : Duration) :
    Leaves g (Probe.unlessFault site timeout t) := by
  intro p
  rcases exec_unlessFault site timeout t p with ⟨e, u, hexec, hbus⟩ | ⟨u, hexec, hbus⟩
  · rw [hexec, hbus]
  · rw [hexec, ht u, hbus]

end Leaving

section Calls

lemma leaves_enumerate {vendor product : UInt16}
    (hg : ∀ b : β, g (exec (Transport.enumerate vendor product) b).2 = g b) :
    Leaves g (Transport.enumerate vendor product : Transfer β (List δ)) :=
  (Leaves.pass hg).unlessFault .enumerate .zero

lemma leaves_texts {device : δ} {timeout : Duration}
    (hg : ∀ b : β, g (exec (Transport.texts device timeout) b).2 = g b) :
    Leaves g (Transport.texts device timeout : Transfer β Usb.Texts) :=
  (leaves_see _).bind fun _ => (Leaves.pass hg).unlessFault .texts timeout

lemma leaves_controlOut {handle : κ} {request : UInt8} {value index : UInt16} {timeout : Duration}
    (hg : ∀ b : β, g (exec (Transport.controlOut handle request value index timeout) b).2 = g b) :
    Leaves g (Transport.controlOut handle request value index timeout : Transfer β Unit) :=
  (leaves_see _).bind fun _ => Leaves.pass hg

lemma leaves_controlIn {handle : κ} {request : UInt8} {value index length : UInt16}
    {timeout : Duration}
    (hg : ∀ b : β,
      g (exec (Transport.controlIn handle request value index length timeout) b).2 = g b) :
    Leaves g (Transport.controlIn handle request value index length timeout :
      Transfer β (List UInt8)) := by
  refine (leaves_see _).bind fun _ => (Leaves.pass hg).bind fun data p => ?_
  cases hlimits : p.replyLimits with
  | nil => simp [hlimits]
  | cons limit rest => simp [hlimits]

lemma leaves_bulkOut {handle : κ} {endpoint : UInt8} {data : List UInt8} {timeout : Duration}
    (hg : ∀ b : β, g (exec (Transport.bulkOut handle endpoint data timeout) b).2 = g b) :
    Leaves g (Transport.bulkOut handle endpoint data timeout : Transfer β ℕ) := by
  apply (leaves_see _).bind
  intro _ p
  cases haccepted : p.accepted with
  | nil =>
    simp only [Attempt.exec_bind, Attempt.exec_get, haccepted]
    exact Leaves.pass hg p
  | cons n rest => simp [haccepted]

lemma leaves_bulkIn {handle : κ} {endpoint : UInt8} {limit : ℕ} {timeout : Duration}
    (hg : ∀ b : β, g (exec (Transport.bulkIn handle endpoint limit timeout) b).2 = g b) :
    Leaves g (Transport.bulkIn handle endpoint limit timeout : Transfer β (List UInt8)) := by
  apply (leaves_see _).bind
  intro _ p
  cases hreceived : p.received with
  | nil =>
    simp only [Attempt.exec_bind, Attempt.exec_get, hreceived]
    exact Leaves.pass hg p
  | cons data rest => simp [hreceived]

lemma exec_disguise (c : Usb.Claim κ) (p : Probe β) :
    ∃ c' u, exec (disguise c) p = (.ok c', u) ∧ c'.handle = c.handle ∧ u.bus = p.bus := by
  cases hdisguises : p.disguises with
  | nil => exact ⟨c, p, by simp [disguise, hdisguises], rfl, rfl⟩
  | cons g rest =>
    exact ⟨{ c with facts := g.apply c.facts }, { p with disguises := rest },
      by simp [disguise, hdisguises], rfl, rfl⟩

lemma exec_claim (device : δ) (channel : UInt8) (p : Probe β) :
    (∃ e u, exec (Transport.claim device channel : Transfer β (Usb.Claim κ)) p = (.error e, u) ∧
        u.bus = p.bus) ∨
      ∃ u, u.bus = p.bus ∧ exec (Transport.claim device channel : Transfer β (Usb.Claim κ)) p =
        exec (pass (Transport.claim device channel) >>= disguise) u := by
  have hseen : exec (Transport.claim device channel : Transfer β (Usb.Claim κ)) p =
      exec (unlessFault .claim .zero (pass (Transport.claim device channel) >>= disguise))
        { p with seen := p.seen ++ [.claim channel] } := rfl
  rw [hseen]
  rcases exec_unlessFault .claim .zero (pass (Transport.claim device channel) >>= disguise)
    { p with seen := p.seen ++ [.claim channel] } with ⟨e, u, hexec, hbus⟩ | ⟨u, hexec, hbus⟩
  · exact .inl ⟨e, u, hexec, hbus⟩
  · exact .inr ⟨u, hbus, hexec⟩

lemma claim_ok {device : δ} {channel : UInt8} {p p' : Probe β} {c : Usb.Claim κ}
    (h : exec (Transport.claim device channel : Transfer β (Usb.Claim κ)) p = (.ok c, p')) :
    ∃ c' : Usb.Claim κ,
      exec (Transport.claim device channel) p.bus = (.ok c', p'.bus) ∧ c.handle = c'.handle := by
  rcases exec_claim device channel p with ⟨e, u, hexec, -⟩ | ⟨u, hbus, hexec⟩
  · cases hexec.symm.trans h
  obtain ⟨c', v, hpass, hdisguise⟩ := Attempt.bind_ok (hexec.symm.trans h)
  obtain ⟨c'', v', hexec', hhandle, hv⟩ := exec_disguise c' v
  cases hexec'.symm.trans hdisguise
  rw [pass, Attempt.exec_of] at hpass
  injection hpass with hresult hprobe
  refine ⟨c', ?_, hhandle⟩
  rw [hv, ← hbus, ← hprobe, ← hresult]
  rfl

lemma claim_error {device : δ} {channel : UInt8} {p p' : Probe β} {e : Usb.Error}
    (h : exec (Transport.claim device channel : Transfer β (Usb.Claim κ)) p = (.error e, p')) :
    p'.bus = p.bus ∨
      ∃ e', exec (Transport.claim device channel : Attempt β Usb.Error (Usb.Claim κ)) p.bus =
        (.error e', p'.bus) := by
  rcases exec_claim device channel p with ⟨e', u, hexec, hbus⟩ | ⟨u, hbus, hexec⟩
  · cases hexec.symm.trans h
    exact .inl hbus
  rcases Attempt.bind_error (hexec.symm.trans h) with hpass | ⟨c', v, -, hdisguise⟩
  · rw [pass, Attempt.exec_of] at hpass
    injection hpass with hresult hprobe
    refine .inr ⟨e, ?_⟩
    rw [← hbus, ← hprobe, ← hresult]
    rfl
  · obtain ⟨c'', v', hexec', -, -⟩ := exec_disguise c' v
    cases hexec'.symm.trans hdisguise

lemma bus_release (handle : κ) (p : Probe β) :
    (exec (Transport.release handle : Transfer β Unit) p).2.bus =
      (exec (Transport.release handle) p.bus).2 := by
  obtain ⟨fault, u, hfault, hbus⟩ := exec_takeFault .release p
  have hexec : exec (Transport.release handle : Transfer β Unit) p = exec (release handle) p := rfl
  rw [hexec, ← hbus]
  rcases hrelease : exec (Transport.release handle) u.bus with ⟨e | ⟨⟩, b⟩
  · simp [release, hfault, pass, hrelease]
  · cases fault with
    | none => simp [release, hfault, pass, hrelease]
    | some fault => simp [release, hfault, pass, hrelease]

end Calls

section Seen

def Quiet (t : Transfer β α) : Prop := ∀ p : Probe β, (exec t p).2.seen = p.seen

lemma quiet_pure (a : α) : Quiet (pure a : Transfer β α) := fun _ => rfl

lemma quiet_pass (c : Attempt β Usb.Error α) : Quiet (pass c) := fun _ => rfl

lemma Quiet.bind {t : Transfer β α} {f : α → Transfer β α'} (ht : Quiet t)
    (hf : ∀ a, Quiet (f a)) : Quiet (t >>= f) := by
  intro p
  have h := ht p
  rw [Attempt.exec_bind]
  rcases hexec : exec t p with ⟨e | a, u⟩
  · rw [hexec] at h
    exact h
  · rw [hexec] at h
    exact (hf a u).trans h

lemma quiet_takeFault (site : Site) : Quiet (takeFault site : Transfer β (Option Fault)) := by
  intro p
  cases hfind : p.faults.find? (·.1 = site) with
  | none => simp [takeFault, hfind]
  | some f => simp [takeFault, hfind]

lemma Quiet.unlessFault {t : Transfer β α} (ht : Quiet t) (site : Site) (timeout : Duration) :
    Quiet (Probe.unlessFault site timeout t) := by
  apply (quiet_takeFault site).bind
  rintro (_ | fault)
  · exact ht
  · exact fun _ => rfl

lemma quiet_disguise (c : Usb.Claim κ) : Quiet (disguise c : Transfer β (Usb.Claim κ)) := by
  intro p
  cases hdisguises : p.disguises with
  | nil => simp [disguise, hdisguises]
  | cons g rest => simp [disguise, hdisguises]

lemma seen_see_bind (s : Seen) {f : Unit → Transfer β α} (hf : Quiet (f ())) (p : Probe β) :
    (exec (see s >>= f) p).2.seen = p.seen ++ [s] :=
  hf { p with seen := p.seen ++ [s] }

lemma quiet_enumerate (vendor product : UInt16) :
    Quiet (Transport.enumerate vendor product : Transfer β (List δ)) :=
  (quiet_pass _).unlessFault .enumerate .zero

lemma seen_texts (device : δ) (timeout : Duration) (p : Probe β) :
    (exec (Transport.texts device timeout) p).2.seen = p.seen ++ [.texts timeout] :=
  seen_see_bind _ ((quiet_pass _).unlessFault .texts timeout) p

lemma seen_claim (device : δ) (channel : UInt8) (p : Probe β) :
    (exec (Transport.claim device channel) p).2.seen = p.seen ++ [.claim channel] :=
  seen_see_bind _ (((quiet_pass _).bind quiet_disguise).unlessFault .claim .zero) p

lemma seen_controlOut (handle : κ) (request : UInt8) (value index : UInt16) (timeout : Duration)
    (p : Probe β) :
    (exec (Transport.controlOut handle request value index timeout) p).2.seen =
      p.seen ++ [.controlOut request value index timeout] :=
  seen_see_bind _ (quiet_pass _) p

lemma seen_controlIn (handle : κ) (request : UInt8) (value index length : UInt16)
    (timeout : Duration) (p : Probe β) :
    (exec (Transport.controlIn handle request value index length timeout) p).2.seen =
      p.seen ++ [.controlIn request value index length timeout] := by
  refine seen_see_bind _ ((quiet_pass _).bind fun data p => ?_) p
  cases hlimits : p.replyLimits with
  | nil => simp [hlimits]
  | cons limit rest => simp [hlimits]

lemma seen_bulkOut (handle : κ) (endpoint : UInt8) (data : List UInt8) (timeout : Duration)
    (p : Probe β) :
    (exec (Transport.bulkOut handle endpoint data timeout) p).2.seen =
      p.seen ++ [.bulkOut endpoint data.length timeout] := by
  refine seen_see_bind _ (fun p => ?_) p
  cases haccepted : p.accepted with
  | nil => simp [pass, haccepted]
  | cons n rest => simp [haccepted]

lemma seen_bulkIn (handle : κ) (endpoint : UInt8) (limit : ℕ) (timeout : Duration)
    (p : Probe β) :
    (exec (Transport.bulkIn handle endpoint limit timeout) p).2.seen =
      p.seen ++ [.bulkIn endpoint limit timeout] := by
  refine seen_see_bind _ (fun p => ?_) p
  cases hreceived : p.received with
  | nil => simp [pass, hreceived]
  | cons data rest => simp [hreceived]

lemma quiet_release (handle : κ) : Quiet (Transport.release handle : Transfer β Unit) := by
  apply (quiet_takeFault .release).bind
  intro fault
  apply (quiet_pass _).bind
  intro _
  cases fault with
  | none => exact quiet_pure ()
  | some fault => exact fun _ => rfl

end Seen

end UsbSerial.Probe
