import UsbSerial.Bench
import UsbSerial.Proofs.Session.Balance

namespace UsbSerial.Bench

open Session (tally)
open Sim (Bus DeviceId Handle)

section Lists

variable {α : Type} {p : Handle → Bool} {f : α → Option Handle} {xs : List α} {n : ℕ}
  {x : α}

lemma countP_filterMap_cons (y : α) (xs : List α) :
    ((y :: xs).filterMap f).countP p = (xs.filterMap f).countP p + tally p (f y) := by
  cases hf : f y with
  | none => rw [List.filterMap_cons_none hf, tally, Nat.add_zero]
  | some h => rw [List.filterMap_cons_some hf, List.countP_cons, tally]

lemma countP_filterMap_set (h : xs[n]? = some x) (y : α) :
    ((xs.set n y).filterMap f).countP p + tally p (f x) =
      (xs.filterMap f).countP p + tally p (f y) := by
  induction xs generalizing n with
  | nil => cases h
  | cons z xs ih =>
    cases n with
    | zero =>
      cases h
      rw [List.set_cons_zero, countP_filterMap_cons, countP_filterMap_cons]
      omega
    | succ n =>
      rw [List.getElem?_cons_succ] at h
      have hset := ih h
      rw [List.set_cons_succ, countP_filterMap_cons, countP_filterMap_cons]
      omega

lemma tally_le_countP (h : xs[n]? = some x) : tally p (f x) ≤ (xs.filterMap f).countP p := by
  induction xs generalizing n with
  | nil => cases h
  | cons z xs ih =>
    rw [countP_filterMap_cons]
    cases n with
    | zero =>
      cases h
      omega
    | succ n =>
      rw [List.getElem?_cons_succ] at h
      have hle := ih h
      omega

lemma set_none_of_join {xs : List (Option α)} (h : xs[n]?.join = none) : xs.set n none = xs := by
  apply List.ext_getElem?
  intro i
  rw [List.getElem?_set]
  by_cases hi : n = i
  · subst hi
    rw [if_pos rfl]
    cases hx : xs[n]? with
    | none => rw [if_neg (Nat.not_lt.mpr (List.getElem?_eq_none_iff.mp hx))]
    | some x =>
      rw [hx] at h
      cases h
      rw [if_pos (List.getElem?_eq_some_iff.mp hx).1]
  · rw [if_neg hi]

lemma eq_of_toNat_eq {c d : Bool} (h : c.toNat = d.toNat) : c = d := by
  rw [Bool.eq_iff_iff, ← Bool.toNat_eq_one, h, Bool.toNat_eq_one]

end Lists

section Holding

def held (x : Option (Session Handle)) : Option Handle := x.bind Session.handle?

def holders (b : Bench) : List Handle := b.sessions.filterMap held ++ b.claims.filterMap id

/-- What is claimed on the bus is held once, and nothing else is held. -/
structure Exact (b : Bench) : Prop where
  counts : ∀ device channel,
    b.holders.countP (Handle.on device channel) = (b.bus.taken device channel).toNat
  bound : ∀ s, some s ∈ b.sessions → s.Bound

variable {b b' : Bench} {n : ℕ} {s : Session Handle}

lemma Exact.same (h : Exact b) (htaken : b'.bus.taken = b.bus.taken)
    (hsessions : b'.sessions = b.sessions) (hclaims : b'.claims = b.claims) : Exact b' where
  counts device channel := by
    have hcounts := h.counts device channel
    rw [holders] at hcounts ⊢
    rw [hsessions, hclaims, htaken, hcounts]
  bound := hsessions ▸ h.bound

lemma getElem?_of_session? (hs : b.session? n = some s) : b.sessions[n]? = some (some s) :=
  Option.join_eq_some_iff.mp hs

lemma Exact.session {w : Hosted (Probe Bus) Handle} (h : Exact b) (hs : b.session? n = some s)
    (hpath : Session.Path { b.host with session := s } w) :
    Exact { b with host := w.toHost, sessions := b.sessions.set n (some w.session) } where
  counts device channel := by
    have hget := getElem?_of_session? hs
    have hcounts := h.counts device channel
    have hown : tally (Handle.on device channel) s.handle? ≤
        (b.sessions.filterMap held).countP (Handle.on device channel) :=
      tally_le_countP (f := held) hget
    have hset :
        ((b.sessions.set n (some w.session)).filterMap held).countP (Handle.on device channel) +
        tally (Handle.on device channel) s.handle? =
        (b.sessions.filterMap held).countP (Handle.on device channel) +
          tally (Handle.on device channel) w.session.handle? :=
      countP_filterMap_set (f := held) hget _
    rw [holders, List.countP_append] at hcounts ⊢
    -- The session's own handle is one of those counted, so it is on a channel that is taken.
    have hle : tally (Handle.on device channel) s.handle? ≤
        (b.bus.taken device channel).toNat := by omega
    obtain ⟨-, hbalance⟩ := hpath.balanced device channel hle
    dsimp only [bus] at hcounts hbalance ⊢
    omega
  bound s' hs' := by
    rcases List.mem_or_eq_of_mem_set hs' with hmem | heq
    · exact h.bound s' hmem
    · cases heq
      exact hpath.bound (h.bound s (List.mem_of_getElem? (getElem?_of_session? hs)))

lemma Exact.created (h : Exact b) {x : Option (Session Handle)} (hs : held x = none)
    (hbound : ∀ s, x = some s → s.Bound) :
    Exact { b with sessions := b.sessions ++ [x] } where
  counts device channel := by
    have hcounts := h.counts device channel
    rw [holders, List.countP_append] at hcounts ⊢
    rw [List.filterMap_append, List.filterMap_cons_none hs, List.filterMap_nil, List.append_nil]
    exact hcounts
  bound s hmem := by
    rcases List.mem_append.mp hmem with hold | hnew
    · exact h.bound s hold
    · exact hbound s (List.mem_singleton.mp hnew).symm

lemma Exact.claims (h : Exact b) {host : Host (Probe Bus)} {claims : List (Option Handle)}
    (hclaims : ∀ device channel,
      (claims.filterMap id).countP (Handle.on device channel) + (b.bus.taken device channel).toNat =
        (b.claims.filterMap id).countP (Handle.on device channel) +
          (host.bus.bus.taken device channel).toNat) :
    Exact { b with host, claims } where
  counts device channel := by
    have hcounts := h.counts device channel
    have hsum := hclaims device channel
    rw [holders, List.countP_append] at hcounts ⊢
    dsimp only [bus] at hcounts hsum ⊢
    omega
  bound := h.bound

end Holding

end UsbSerial.Bench
