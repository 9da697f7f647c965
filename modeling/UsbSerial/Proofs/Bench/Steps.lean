import UsbSerial.Proofs.Bench.Holders

namespace UsbSerial.Bench

open Attempt (exec)
open Session (tally)
open Sim (Bus DeviceId Handle)

variable {α γ : Type} {n : ℕ}

def Safe (m : StateM Bench α) : Prop := ∀ b, Exact b → Exact (m.run b).2

lemma Safe.bind {m : StateM Bench α} {f : α → StateM Bench γ} (hm : Safe m)
    (hf : ∀ a, Safe (f a)) : Safe (m >>= f) :=
  fun b h => hf _ _ (hm b h)

lemma run_onBus (t : Probe.Transfer Bus α) (f : α → Outcome) (b : Bench) :
    ((onBus t f).run b).2 = { b with host.bus := (exec t b.host.bus).2 } := by
  rcases hexec : exec t b.host.bus with ⟨e | a, p⟩
  · simp [onBus, StateT.run, hexec]
  · simp [onBus, StateT.run, hexec]

lemma run_onClaim_none {b : Bench} (h : b.claim? n = none) (t : Handle → Probe.Transfer Bus α)
    (f : α → Outcome) : (onClaim n t f).run b = (.missing, b) := by
  simp [onClaim, StateT.run, h]

lemma run_onClaim {b : Bench} {handle : Handle} (h : b.claim? n = some handle)
    (t : Handle → Probe.Transfer Bus α) (f : α → Outcome) :
    (onClaim n t f).run b = (onBus (t handle) f).run b := by
  simp [onClaim, StateT.run, h]

lemma run_claim (device : DeviceId) (channel : UInt8) (b : Bench) :
    (claim device channel).run b =
      match exec (Transport.claim device channel : Probe.Transfer Bus (Usb.Claim Handle))
        b.host.bus with
      | (.ok c, bus) => (.granted b.claims.length c.facts,
          { b with
            host := { bus, log := b.host.log ++ c.notes }
            claims := b.claims ++ [some c.handle] })
      | (.error e, bus) => (.refused e, { b with host.bus := bus }) := by
  rcases hexec : exec (Transport.claim device channel : Probe.Transfer Bus (Usb.Claim Handle))
    b.host.bus with ⟨e | c, p⟩
  · simp only [claim, StateT.run_bind, StateT.run_get, StateT.run_modify, pure_bind, hexec]
    rfl
  · simp only [claim, StateT.run_bind, StateT.run_get, StateT.run_modify, pure_bind, hexec]
    rfl

lemma run_release (n : ℕ) (b : Bench) :
    ((step (.release n)).run b).2 =
      let b' := ((onClaim n Transport.release fun _ => .done).run b).2
      { b' with claims := b'.claims.set n none } := rfl

lemma run_onSession_none {b : Bench} (h : b.session? n = none)
    (m : Session.Action (Probe Bus) Handle α) (f : α → Outcome) :
    (onSession n m f).run b = (.missing, b) := by
  simp [onSession, StateT.run, h]

lemma run_onSession {b : Bench} {s : Session Handle} (h : b.session? n = some s)
    (m : Session.Action (Probe Bus) Handle α) (f : α → Outcome) :
    (onSession n m f).run b =
      (match (exec m { b.host with session := s }).1 with
        | .ok a => f a
        | .error e => .failed e,
       { b with
        host := (exec m { b.host with session := s }).2.toHost
        sessions := b.sessions.set n (some (exec m { b.host with session := s }).2.session) }) := by
  rcases hexec : exec m { b.host with session := s } with ⟨e | a, w⟩
  · simp [onSession, StateT.run, h, hexec]
  · simp [onSession, StateT.run, h, hexec]

lemma run_drop_none {b : Bench} (h : b.session? n = none) : ((drop n).run b).2 = b := by
  cases hget : b.sessions[n]? with
  | none =>
    have hrun : ((drop n).run b).2 =
        let b' := ((onSession n Session.drop fun _ => .done).run b).2
        { b' with sessions := b'.sessions.set n none } := by
      simp only [drop, StateT.run_bind, StateT.run_get, pure_bind, hget]
      rfl
    rw [hrun, run_onSession_none h]
    dsimp only
    rw [set_none_of_join h]
  | some x =>
    have hx : x = none := by rw [session?, hget] at h; exact h
    simp only [drop, StateT.run_bind, StateT.run_get, pure_bind, hget, hx]
    rfl

lemma run_drop {b : Bench} {s : Session Handle} (h : b.session? n = some s) :
    ((drop n).run b).2 =
      { b with
        host := (exec Session.drop { b.host with session := s }).2.toHost
        sessions := b.sessions.set n none } := by
  have hrun : ((drop n).run b).2 =
      let b' := ((onSession n Session.drop fun _ => .done).run b).2
      { b' with sessions := b'.sessions.set n none } := by
    simp only [drop, StateT.run_bind, StateT.run_get, pure_bind, getElem?_of_session? h]
    rfl
  rw [hrun, run_onSession h]
  dsimp only
  rw [List.set_set]

end UsbSerial.Bench
