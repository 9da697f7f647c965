import Mathlib.Tactic.Linarith
import UsbSerial.Proofs.Baud.Divisor

/-! Rounded quotients. The divisor for a rate and the rate of a divisor are such quotients of the
same clock, so that going back and forth soon comes to rest. -/

namespace UsbSerial.Baud

variable {n d e : ℕ}

section Bounds

lemma roundDiv_le (n d : ℕ) : 2 * d * roundDiv n d ≤ 2 * n + d := Nat.mul_div_le _ _

lemma lt_roundDiv (hd : 0 < d) : 2 * n < 2 * d * roundDiv n d + d := by
  have h : 2 * n + d < 2 * d * (roundDiv n d + 1) := Nat.lt_mul_div_succ _ (by omega)
  rw [Nat.mul_add_one] at h
  omega

lemma le_roundDiv {q : ℕ} (hd : 0 < d) (h : 2 * d * q ≤ 2 * n + d) : q ≤ roundDiv n d := by
  rw [roundDiv, Nat.le_div_iff_mul_le (by omega)]
  linarith

lemma roundDiv_eq {q : ℕ} (hd : 0 < d) (hle : 2 * d * q ≤ 2 * n + d)
    (hlt : 2 * n < 2 * d * q + d) : roundDiv n d = q := by
  refine Nat.le_antisymm (Nat.lt_succ_iff.mp ?_) (le_roundDiv hd hle)
  rw [roundDiv, Nat.div_lt_iff_lt_mul (by omega)]
  linarith

lemma roundDiv_anti (hd : 0 < d) (hle : d ≤ e) : roundDiv n e ≤ roundDiv n d := by
  have hbelow := roundDiv_le n e
  apply le_roundDiv hd
  cases hk : roundDiv n e with
  | zero => omega
  | succ k =>
    rw [hk] at hbelow
    have hscaled := Nat.mul_le_mul_left (2 * k + 1) hle
    linarith

end Bounds

section Twice

lemma roundDiv_roundDiv_of_lt (hd : 0 < d) (h : d < roundDiv n d) :
    roundDiv n (roundDiv n d) = d := by
  have hle := roundDiv_le n d
  have hlt := lt_roundDiv (n := n) hd
  apply roundDiv_eq (hd.trans h)
  · linarith
  · linarith

lemma le_roundDiv_roundDiv_of_lt (h : roundDiv n d < d) :
    roundDiv n d ≤ roundDiv n (roundDiv n d) := by
  have hle := roundDiv_le n d
  have hlt := lt_roundDiv (n := n) (Nat.zero_lt_of_lt h)
  cases hq : roundDiv n d with
  | zero => exact Nat.zero_le _
  | succ k =>
    rw [hq] at h hle hlt
    apply le_roundDiv k.succ_pos
    have hscaled := Nat.mul_le_mul_left (2 * k + 1) (Nat.succ_le_of_lt h)
    linarith

theorem roundDiv_thrice (hd : 0 < d) :
    roundDiv n (roundDiv n (roundDiv n d)) = roundDiv n d := by
  rcases Nat.lt_trichotomy d (roundDiv n d) with hlt | heq | hgt
  · rw [roundDiv_roundDiv_of_lt hd hlt]
  · rw [← heq, ← heq, ← heq]
  · rcases (le_roundDiv_roundDiv_of_lt hgt).eq_or_lt with heq | hlt
    · rw [← heq, ← heq]
    · obtain hzero | hpos := Nat.eq_zero_or_pos (roundDiv n d)
      · rw [hzero, roundDiv, Nat.mul_zero, Nat.div_zero] at hlt
        exact absurd hlt (Nat.lt_irrefl 0)
      · exact roundDiv_roundDiv_of_lt hpos hlt

end Twice

section Closeness

lemma close_iff {actual rate : ℕ} :
    close actual rate = true ↔ actual * 20 ≤ rate * 21 ∧ rate * 20 ≤ actual * 21 := by
  rw [close, decide_eq_true_iff]
  omega

lemma close_self (rate : ℕ) : close rate rate = true := close_iff.mpr (by omega)

lemma close_roundDiv {rate : ℕ} (hn : 2 ^ 17 ≤ n) (hrate : 0 < rate) (hd : 16 ≤ roundDiv n rate) :
    close (roundDiv n (roundDiv n rate)) rate = true := by
  rcases Nat.lt_or_ge rate (roundDiv n rate) with hlt | hge
  · rw [roundDiv_roundDiv_of_lt hrate hlt]
    exact close_self rate
  · -- The divisor is at most a half from its quotient, and the rate it leads to at most a half from
    -- its own. Together this is less than a twentieth, as neither of the two is small.
    have hdle := roundDiv_le n rate
    have hdlt := lt_roundDiv (n := n) hrate
    generalize roundDiv n rate = d at hd hge hdle hdlt ⊢
    have hale := roundDiv_le n d
    have halt := lt_roundDiv (n := n) (d := d) (by omega)
    generalize roundDiv n d = actual at hale halt ⊢
    have hlarge : 184 ≤ rate := by
      by_contra hsmall
      have hproduct : d * rate ≤ 183 * 183 := Nat.mul_le_mul (by omega) (by omega)
      linarith
    have hrates : 16 * rate ≤ d * rate := Nat.mul_le_mul_right rate hd
    have hdivisors : d * 184 ≤ d * rate := Nat.mul_le_mul_left d hlarge
    rw [close_iff]
    constructor
    · by_contra hfar
      have hscaled : d * (rate * 21 + 1) ≤ d * (actual * 20) := Nat.mul_le_mul_left d (by omega)
      linarith
    · by_contra hfar
      have hscaled : d * (actual * 21 + 1) ≤ d * (rate * 20) := Nat.mul_le_mul_left d (by omega)
      linarith

end Closeness

end UsbSerial.Baud
