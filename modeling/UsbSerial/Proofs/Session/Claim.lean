import UsbSerial.Proofs.Probe
import UsbSerial.Proofs.Session.History

namespace UsbSerial.Session

open Attempt (exec)
open Probe (Seen)

variable {β δ κ : Type}

def claimed? : Seen → Option UInt8
  | .claim channel => some channel
  | _ => none

def lastClaim? (seen : List Seen) : Option UInt8 := (seen.filterMap claimed?).getLast?

lemma lastClaim?_append_singleton (seen : List Seen) (e : Seen) :
    lastClaim? (seen ++ [e]) = (claimed? e).or (lastClaim? seen) :=
  getLast?_filterMap_append_singleton claimed? seen e

lemma lastClaim?_append {since : List Seen} (h : ∀ e ∈ since, claimed? e = none)
    (seen : List Seen) : lastClaim? (seen ++ since) = lastClaim? seen := by
  rw [lastClaim?, List.filterMap_append, List.filterMap_eq_nil_iff.mpr h, List.append_nil]
  rfl

variable [Transport β δ κ] {v w : Hosted (Probe β) κ} {l l' : Link κ}

def Granted (w : Hosted (Probe β) κ) (l : Link κ) : Prop :=
  ∃ (device : δ) (p p' : Probe β) (c : Usb.Claim κ) (since : List Seen),
    exec (Transport.claim device w.session.options.channel.number) p = (.ok c, p') ∧
    l.handle = c.handle ∧ l.chip = Chip.detect c.facts.release c.facts.hasSerial ∧
    w.bus.seen = p'.seen ++ since ∧ ∀ e ∈ since, claimed? e = none

lemma Granted.lastClaim (h : Granted w l) :
    lastClaim? w.bus.seen = some w.session.options.channel.number := by
  obtain ⟨device, p, p', c, since, hexec, -, -, hseen, hsince⟩ := h
  have hclaim := Probe.seen_claim device w.session.options.channel.number p
  rw [hexec] at hclaim
  rw [hseen, lastClaim?_append hsince]
  dsimp only at hclaim
  rw [hclaim, lastClaim?_append_singleton]
  rfl

lemma Granted.next (h : Granted v l)
    (hchannel : w.session.options.channel = v.session.options.channel)
    (hhandle : l'.handle = l.handle) (hchip : l'.chip = l.chip) {since : List Seen}
    (hseen : w.bus.seen = v.bus.seen ++ since) (hsince : ∀ e ∈ since, claimed? e = none) :
    Granted w l' := by
  obtain ⟨device, p, p', c, since', hexec, hc, hfacts, hseen', hsince'⟩ := h
  refine ⟨device, p, p', c, since' ++ since, by rw [hchannel, hexec], by rw [hhandle, hc],
    by rw [hchip, hfacts], by rw [hseen, hseen', List.append_assoc], ?_⟩
  intro e he
  rcases List.mem_append.mp he with he | he
  · exact hsince' e he
  · exact hsince e he

def Grounded (w : Hosted (Probe β) κ) : Prop := ∀ l, w.session.binding = .opened l → Granted w l

lemma Grounded.same (h : Grounded v) (hbinding : w.session.binding = v.session.binding)
    (hchannel : w.session.options.channel = v.session.options.channel) {since : List Seen}
    (hseen : w.bus.seen = v.bus.seen ++ since) (hsince : ∀ e ∈ since, claimed? e = none) :
    Grounded w :=
  fun l hl => (h l (hbinding ▸ hl)).next hchannel rfl rfl hseen hsince

lemma Grounded.quiet (h : Grounded v) (hbinding : w.session.binding = v.session.binding)
    (hchannel : w.session.options.channel = v.session.options.channel)
    (hseen : w.bus.seen = v.bus.seen) : Grounded w :=
  h.same hbinding hchannel (hseen.trans (List.append_nil _).symm)
    fun _ he => absurd he List.not_mem_nil

lemma Grounded.sent (h : Grounded v) (hsession : w.session = v.session) {e : Seen}
    (hseen : w.bus.seen = v.bus.seen ++ [e]) (he : claimed? e = none) : Grounded w :=
  h.same (by rw [hsession]) (by rw [hsession]) hseen
    fun _ he' => List.mem_singleton.mp he' ▸ he

lemma Move.grounded (h : Move v w) (hv : Grounded v) : Grounded w := by
  cases h with
  | log entries => exact hv.quiet rfl rfl rfl
  | enumerate vendor product => exact hv.quiet rfl rfl (Probe.quiet_enumerate _ _ _)
  | texts device timeout => exact hv.sent rfl (Probe.seen_texts _ _ _) rfl
  | refused device e bus hclosed _ =>
    intro l hl
    cases hclosed.symm.trans hl
  | claimed device c bus _ hclaim =>
    rintro l ⟨⟩
    exact ⟨device, v.bus, bus, c, [], hclaim, rfl, rfl, (List.append_nil _).symm,
      fun _ he => absurd he List.not_mem_nil⟩
  | released link _ => rintro l ⟨⟩
  | controlOut link request value index _ =>
    exact hv.sent rfl (Probe.seen_controlOut _ _ _ _ _ _) rfl
  | controlIn link request index length _ =>
    exact hv.sent rfl (Probe.seen_controlIn _ _ _ _ _ _ _) rfl
  | bulkOut link data _ => exact hv.sent rfl (Probe.seen_bulkOut _ _ _ _ _) rfl
  | bulkIn link _ => exact hv.sent rfl (Probe.seen_bulkIn _ _ _ _ _) rfl
  | relink link mode baudRate leftover hopened =>
    rintro l ⟨⟩
    exact (hv link hopened).next rfl rfl rfl (List.append_nil _).symm
      fun _ he => absurd he List.not_mem_nil
  | destroyed _ => rintro l ⟨⟩
  | tuned options hchannel =>
    rcases hchannel with hclosed | hsame
    · intro l hl
      cases hclosed.symm.trans hl
    · exact hv.quiet rfl hsame rfl
  | noted lastError => exact hv.quiet rfl rfl rfl

lemma Call.grounded (c : Call δ) (h : Grounded w) : Grounded (c.step w).2 := by
  have hpath : Path w (c.step w).2 := (c.ends w.session w rfl).2
  exact hpath.keeps (fun _ _ hmove => hmove.grounded) h

lemma run_grounded (h : Grounded w) (calls : List (Call δ)) : Grounded (run w calls).2 := by
  induction calls generalizing w with
  | nil => exact h
  | cons c calls ih => exact ih (c.grounded h)

end UsbSerial.Session
