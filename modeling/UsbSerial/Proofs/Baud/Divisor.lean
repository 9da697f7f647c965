import Mathlib.Algebra.Order.Round
import Mathlib.Data.Rat.Floor
import Mathlib.Tactic.FieldSimp
import Mathlib.Tactic.Lemma
import UsbSerial.Baud

namespace UsbSerial.Baud

section Codes

def fraction : ℕ → ℕ
  | 1 => 4
  | 2 => 2
  | 3 => 1
  | 4 => 3
  | 5 => 5
  | 6 => 6
  | 7 => 7
  | _ => 0

def eighths : ℕ → ℕ
  | 0 => 8
  | 1 => 12
  | code => 8 * (code % 2 ^ 14) + fraction (code / 2 ^ 14 % 8)

lemma fractionCode_lt (n : ℕ) : fractionCode n < 8 := by
  unfold fractionCode
  split <;> decide

lemma fraction_fractionCode {n : ℕ} (hn : n < 8) : fraction (fractionCode n) = n := by
  decide +revert

variable {d : ℕ}

lemma encode_mod (hd : d < 2 ^ 17) : encode d % 2 ^ 14 = d / 8 := by
  unfold encode
  omega

lemma encode_div (hd : d < 2 ^ 17) : encode d / 2 ^ 14 = fractionCode (d % 8) := by
  unfold encode
  omega

lemma encode_lt (hd : d < 2 ^ 17) : encode d < 2 ^ 17 := by
  have hcode := fractionCode_lt (d % 8)
  unfold encode
  omega

lemma two_le_encode (hlow : 16 ≤ d) : 2 ≤ encode d := by
  unfold encode
  omega

lemma eighths_of_two_le {code : ℕ} (h : 2 ≤ code) :
    eighths code = 8 * (code % 2 ^ 14) + fraction (code / 2 ^ 14 % 8) := by
  match code, h with
  | _ + 2, _ => rfl

lemma eighths_encode (hlow : 16 ≤ d) (hd : d < 2 ^ 17) : eighths (encode d) = d := by
  rw [eighths_of_two_le (two_le_encode hlow), encode_mod hd, encode_div hd,
    Nat.mod_eq_of_lt (fractionCode_lt _), fraction_fractionCode (Nat.mod_lt _ (by decide))]
  exact Nat.div_add_mod d 8

def Possible (d : ℕ) : Prop := d = 8 ∨ d = 12 ∨ 16 ≤ d ∧ d < 2 ^ 17

def codeOf (d : ℕ) : ℕ := if d = 8 then 0 else if d = 12 then 1 else encode d

lemma codeOf_of_le (hlow : 16 ≤ d) : codeOf d = encode d := by
  rw [codeOf, if_neg (by omega), if_neg (by omega)]

lemma Possible.eight_le (h : Possible d) : 8 ≤ d := by
  obtain rfl | rfl | ⟨hlow, -⟩ := h
  · decide
  · decide
  · omega

lemma Possible.pos (h : Possible d) : 0 < d := (by decide : 0 < 8).trans_le h.eight_le

lemma Possible.lt (h : Possible d) : d < 2 ^ 17 := by
  obtain rfl | rfl | ⟨-, hd⟩ := h
  · decide
  · decide
  · exact hd

lemma Possible.codeOf_lt (h : Possible d) : codeOf d < 2 ^ 17 := by
  obtain rfl | rfl | ⟨hlow, hd⟩ := h
  · decide
  · decide
  · rw [codeOf_of_le hlow]
    exact encode_lt hd

theorem Possible.eighths_codeOf (h : Possible d) : eighths (codeOf d) = d := by
  obtain rfl | rfl | ⟨hlow, hd⟩ := h
  · rfl
  · rfl
  · rw [codeOf_of_le hlow, eighths_encode hlow hd]

lemma Possible.codeOf_le_one (h : Possible d) : codeOf d ≤ 1 ↔ d = 8 ∨ d = 12 := by
  obtain rfl | rfl | ⟨hlow, hd⟩ := h
  · decide
  · decide
  · have := two_le_encode hlow
    rw [codeOf_of_le hlow]
    omega

end Codes

section Rates

def roundDiv (n d : ℕ) : ℕ := (2 * n + d) / (2 * d)

lemma round_div (n : ℕ) {d : ℕ} (hd : 0 < d) : round ((n : ℚ) / d) = (roundDiv n d : ℤ) := by
  have hd' : (d : ℚ) ≠ 0 := Nat.cast_ne_zero.mpr hd.ne'
  have hsum : (n : ℚ) / d + 1 / 2 = ((2 * n + d : ℕ) : ℚ) / ((2 * d : ℕ) : ℚ) := by
    push_cast
    field_simp
  rw [round_eq, hsum, Rat.floor_natCast_div_natCast]
  rfl

lemma amRate_eq (d : ℕ) : amRate d = roundDiv amClock d := by
  have hhalf : (2 * amClock + d) / 2 = amClock + d / 2 := by omega
  rw [amRate, roundDiv, ← Nat.div_div_eq_div_mul, hhalf]

lemma half_quotient (n : ℕ) {d : ℕ} (hd : 0 < d) : (2 * n / d + 1) / 2 = roundDiv n d := by
  rw [roundDiv, ← Nat.add_div_right _ hd, Nat.div_div_eq_div_mul, Nat.mul_comm d]

lemma rateOf_eq {clock prediv n d : ℕ} (hclock : clock * 16 / prediv = 2 * n) (hd : 0 < d) :
    rateOf clock prediv d = roundDiv n d := by
  have hhalf (q : ℕ) : q / 2 + q % 2 = (q + 1) / 2 := by omega
  rw [rateOf, hclock, hhalf, half_quotient n hd]

end Rates

section Am

variable (rate : ℕ)

lemma possible_amCandidate (base step : ℕ) : Possible (amCandidate base step) := by
  have hlargest : amLargest = 0x1FFF8 := rfl
  unfold amCandidate
  dsimp only
  split_ifs with hsmall hbase
  · exact .inl rfl
  · exact .inr (.inr (by decide))
  · exact .inr (.inr (by omega))

lemma possible_amDivisor : Possible (amDivisor rate) := by
  unfold amDivisor
  dsimp only
  split_ifs
  · exact possible_amCandidate _ _
  · exact possible_amCandidate _ _

lemma amCode_eq {d : ℕ} (h : Possible d) : amCode d = codeOf d := by
  obtain rfl | rfl | ⟨hlow, hd⟩ := h
  · rfl
  · rfl
  · have hone : encode d ≠ 0x0001 := by
      have := two_le_encode hlow
      omega
    have honeAndHalf : encode d ≠ 0x4001 := by
      have := encode_mod hd
      omega
    rw [codeOf_of_le hlow]
    unfold amCode
    split
    · contradiction
    · contradiction
    · rfl

end Am

section Nearest

/-- A divided clock runs at `n` eighths of a rate. At `edge` the divisor has just become too large
for its bits, one above it has room to spare. -/
structure Clocked (clock prediv n edge : ℕ) : Prop where
  doubled : clock * 16 / prediv = 2 * n
  one : clock / prediv = roundDiv n 8
  oneAndHalf : clock / (prediv + prediv / 2) = roundDiv n 12
  two : clock / (2 * prediv) = roundDiv n 16
  above : 0x40000 < 2 * n / edge
  below : 2 * n / (edge + 1) < 0x3FFFF

lemma slow_clocked : Clocked slowClock 16 24000000 183 := by constructor <;> decide

lemma fast_clocked : Clocked fastClock 10 96000000 732 := by constructor <;> decide

def nearestDivisor (clock prediv rate : ℕ) : ℕ :=
  if clock / prediv ≤ rate then 8
  else if clock / (prediv + prediv / 2) ≤ rate then 12
  else if clock / (2 * prediv) ≤ rate then 16
  else divisor clock prediv rate

namespace Clocked

variable {clock prediv n edge : ℕ} (h : Clocked clock prediv n edge) (rate : ℕ)

include h

lemma divisor_eq : divisor clock prediv rate =
    if 0x20000 < (2 * n / rate + 1) / 2 then 0x1FFFF else (2 * n / rate + 1) / 2 := by
  have hhalf (q : ℕ) : q / 2 + q % 2 = (q + 1) / 2 := by omega
  unfold divisor
  dsimp only
  rw [h.doubled, hhalf]

lemma gap : 2 * n / rate < 0x3FFFF ∨ 0x40000 < 2 * n / rate := by
  -- No rate has a quotient that would round to `0x20000`, which the clamp lets through.
  obtain hlt | hle := Nat.lt_or_ge edge rate
  · exact .inl ((Nat.div_le_div_left hlt (Nat.succ_pos edge)).trans_lt h.below)
  · obtain rfl | hpos := Nat.eq_zero_or_pos rate
    · rw [Nat.div_zero]
      exact .inl (by decide)
    · exact .inr (h.above.trans_le (Nat.div_le_div_left hle hpos))

lemma divisor_bounds (hrate : rate ≠ 0) (htwo : ¬ clock / (2 * prediv) ≤ rate) :
    16 ≤ divisor clock prediv rate ∧ divisor clock prediv rate < 2 ^ 17 := by
  rw [h.two, Nat.not_le] at htwo
  have hquotient : 31 ≤ 2 * n / rate := by
    rw [Nat.le_div_iff_mul_le (Nat.pos_of_ne_zero hrate)]
    unfold roundDiv at htwo
    omega
  have hgap := h.gap rate
  rw [h.divisor_eq]
  split_ifs with hclamp
  · decide
  · omega

lemma possible (hrate : rate ≠ 0) : Possible (nearestDivisor clock prediv rate) := by
  unfold nearestDivisor
  split_ifs with hone honeAndHalf htwo
  · exact .inl rfl
  · exact .inr (.inl rfl)
  · exact .inr (.inr (by decide))
  · exact .inr (.inr (h.divisor_bounds rate hrate htwo))

theorem nearest_eq (hrate : rate ≠ 0) :
    nearest clock prediv rate = (codeOf (nearestDivisor clock prediv rate),
      roundDiv n (nearestDivisor clock prediv rate)) := by
  unfold nearest nearestDivisor
  split_ifs with hone honeAndHalf htwo
  · rw [h.one]
    rfl
  · rw [h.oneAndHalf]
    rfl
  · rw [h.two]
    rfl
  · have hlow := (h.divisor_bounds rate hrate htwo).1
    rw [codeOf_of_le hlow]
    exact congrArg _ (rateOf_eq h.doubled (by omega))

end Clocked

end Nearest

end UsbSerial.Baud
