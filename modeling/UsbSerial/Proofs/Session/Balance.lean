import UsbSerial.Proofs.Session.Effect
import UsbSerial.Proofs.Sim.Claims

namespace UsbSerial.Session

open Attempt (exec)
open Sim (Bus DeviceId Handle)

def tally (p : Handle → Bool) : Option Handle → ℕ
  | some h => if p h then 1 else 0
  | none => 0

lemma tally_on (id : DeviceId) (channel : UInt8) (h : Handle) :
    tally (Handle.on id channel) (some h) =
      if h.device = id ∧ h.channel = channel then 1 else 0 := by
  simp only [tally, Handle.on, decide_eq_true_eq]

variable {δ : Type} {v w : Hosted (Probe Bus) Handle}

def Balanced (v w : Hosted (Probe Bus) Handle) : Prop :=
  ∀ id channel,
    tally (Handle.on id channel) v.session.handle? ≤ (v.bus.bus.taken id channel).toNat →
    tally (Handle.on id channel) w.session.handle? ≤ (w.bus.bus.taken id channel).toNat ∧
      (w.bus.bus.taken id channel).toNat + tally (Handle.on id channel) v.session.handle? =
        (v.bus.bus.taken id channel).toNat + tally (Handle.on id channel) w.session.handle?

lemma Balanced.trans {u : Hosted (Probe Bus) Handle} (h : Balanced u v) (h' : Balanced v w) :
    Balanced u w := by
  intro id channel hle
  obtain ⟨hv, heq⟩ := h id channel hle
  obtain ⟨hw, heq'⟩ := h' id channel hv
  refine ⟨hw, ?_⟩
  omega

lemma balanced_of_same (htaken : w.bus.bus.taken = v.bus.bus.taken)
    (hhandle : w.session.handle? = v.session.handle?) : Balanced v w := by
  intro id channel hle
  rw [htaken, hhandle]
  exact ⟨hle, rfl⟩

lemma Move.balanced (h : Move v w) : Balanced v w := by
  cases h with
  | log entries => exact balanced_of_same rfl rfl
  | enumerate vendor product =>
    exact balanced_of_same (Bus.leaves_taken_enumerate _ _ v.bus) rfl
  | texts device timeout => exact balanced_of_same (Bus.leaves_taken_texts _ _ v.bus) rfl
  | refused device e bus _ hclaim => exact balanced_of_same (Bus.taken_refused hclaim) rfl
  | claimed device c bus hclosed hclaim =>
    obtain ⟨hdevice, hchannel, hfree, htaken⟩ := Bus.taken_granted hclaim
    have hown : handle? { v.session with
        binding := .opened
          { handle := c.handle
            chip := Chip.detect c.facts.release c.facts.hasSerial
            packetBytes := c.facts.packetBytes } } = some c.handle := rfl
    intro id channel _
    -- Only a free channel is granted, so that both sides go from 0 to 1 there.
    rw [handle?_closed hclosed, hown, htaken, tally_on, hdevice, hchannel]
    by_cases hpair : device = id ∧ v.session.options.channel.number = channel
    · obtain ⟨rfl, rfl⟩ := hpair
      simp [tally, hfree]
    · simp [tally, hpair]
  | released link hopened =>
    have hgone : ({ v.session with binding := .closed } : Session Handle).handle? = none := rfl
    intro id channel
    rw [handle?_opened hopened, hgone, Bus.taken_release, tally_on]
    by_cases hpair : link.handle.device = id ∧ link.handle.channel = channel
    · -- That the channel was taken is known from the session's own handle.
      cases htaken : v.bus.bus.taken id channel with
      | false => simp [tally, hpair]
      | true => simp [tally, hpair]
    · simp [tally, hpair]
  | controlOut link request value index _ =>
    exact balanced_of_same (Bus.leaves_taken_controlOut _ _ _ _ _ v.bus) rfl
  | controlIn link request index length _ =>
    exact balanced_of_same (Bus.leaves_taken_controlIn _ _ _ _ _ _ v.bus) rfl
  | bulkOut link data _ => exact balanced_of_same (Bus.leaves_taken_bulkOut _ _ _ _ v.bus) rfl
  | bulkIn link _ => exact balanced_of_same (Bus.leaves_taken_bulkIn _ _ _ _ v.bus) rfl
  | relink link mode baudRate leftover hopened =>
    refine balanced_of_same rfl ?_
    rw [handle?_opened hopened]
    rfl
  | destroyed hclosed =>
    refine balanced_of_same rfl ?_
    rw [handle?_closed hclosed]
    rfl
  | tuned options _ => exact balanced_of_same rfl rfl
  | noted lastError => exact balanced_of_same rfl rfl

lemma Call.Failure.handle? {c : Call δ} {s t : Session Handle} {e : Error}
    (h : c.Failure s t e) : t.handle? = s.handle? := by
  cases c with
  | purge =>
    rcases h with rfl | ⟨l, hl, rfl⟩
    · rfl
    · exact (handle?_opened hl).symm
  | _ => exact h ▸ rfl

lemma Path.balanced (h : Path v w) : Balanced v w := by
  induction h with
  | refl => exact balanced_of_same rfl rfl
  | tail _ hmove ih => exact ih.trans hmove.balanced

def Bound (s : Session Handle) : Prop :=
  ∀ l, s.binding = .opened l → l.handle.channel = s.options.channel.number

lemma Move.bound (h : Move v w) (hv : Bound v.session) : Bound w.session := by
  cases h with
  | claimed device c bus _ hclaim =>
    obtain ⟨-, hchannel, -⟩ := Bus.taken_granted hclaim
    rintro l ⟨⟩
    exact hchannel
  | released link _ => rintro l ⟨⟩
  | relink link mode baudRate leftover hopened =>
    rintro l ⟨⟩
    exact hv link hopened
  | destroyed _ => rintro l ⟨⟩
  | tuned options hchannel =>
    intro l hl
    rcases hchannel with hclosed | hsame
    · cases hclosed.symm.trans hl
    · exact hsame ▸ hv l hl
  | log entries => exact hv
  | enumerate vendor product => exact hv
  | texts device timeout => exact hv
  | refused device e bus _ _ => exact hv
  | controlOut link request value index _ => exact hv
  | controlIn link request index length _ => exact hv
  | bulkOut link data _ => exact hv
  | bulkIn link _ => exact hv
  | noted lastError => exact hv

lemma Path.bound (h : Path v w) (hv : Bound v.session) : Bound w.session :=
  h.keeps (fun _ _ hmove => hmove.bound) hv

end UsbSerial.Session
