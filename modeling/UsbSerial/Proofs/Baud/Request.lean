import Mathlib.Data.Nat.Bitwise
import UsbSerial.Channel
import UsbSerial.Proofs.Baud.Divisor

namespace UsbSerial.Baud

section Choice

def chosen (chip : Chip) (rate : ℕ) : ℕ :=
  match chip with
  | .am => amDivisor rate
  | .bm | .ft2232C | .ft232R => nearestDivisor slowClock 16 rate
  | .ft2232H | .ft4232H =>
      if fastClock / 0x3FFF < rate * 10 then nearestDivisor fastClock 10 rate
      else nearestDivisor slowClock 16 rate

def usesFastClock (chip : Chip) (rate : ℕ) : Bool :=
  chip.isHighSpeed && decide (fastClock / 0x3FFF < rate * 10)

def baseRate (fast : Bool) : ℕ := if fast then 12000000 else 3000000

lemma baseRate_bounds (fast : Bool) : 3000000 ≤ baseRate fast ∧ baseRate fast ≤ 12000000 := by
  cases fast <;> decide

variable (chip : Chip) {rate : ℕ} (hrate : rate ≠ 0)

include hrate

lemma possible_chosen : Possible (chosen chip rate) := by
  have hslow := slow_clocked.possible rate hrate
  have hfast := fast_clocked.possible rate hrate
  cases chip with
  | am => exact possible_amDivisor rate
  | bm | ft2232C | ft232R => exact hslow
  | ft2232H | ft4232H =>
    unfold chosen
    split_ifs
    · exact hfast
    · exact hslow

theorem code_eq : code chip rate =
    (codeOf (chosen chip rate) + 2 ^ 17 * (usesFastClock chip rate).toNat,
      roundDiv (8 * baseRate (usesFastClock chip rate)) (chosen chip rate)) := by
  have hslow := slow_clocked.nearest_eq rate hrate
  have hfast := fast_clocked.nearest_eq rate hrate
  cases chip with
  | am => simp [code, chosen, usesFastClock, Chip.isHighSpeed, baseRate, amClock,
      amCode_eq (possible_amDivisor rate), amRate_eq]
  | bm | ft2232C | ft232R =>
    simp [code, chosen, usesFastClock, Chip.isHighSpeed, baseRate, hslow]
  | ft2232H | ft4232H =>
    by_cases hclock : fastClock / 0x3FFF < rate * 10
    · simp [code, chosen, usesFastClock, Chip.isHighSpeed, baseRate, hfast, hclock, fastBit]
    · simp [code, chosen, usesFastClock, Chip.isHighSpeed, baseRate, hslow, hclock]

end Choice

section Reading

def hasPort (chip : Chip) : Bool := chip.isHighSpeed || chip = .ft2232C

def received (chip : Chip) (s : Setting) : ℕ :=
  s.value.toNat + 2 ^ 16 * (if hasPort chip then s.index.toNat / 2 ^ 8 else s.index.toNat)

lemma and_highByte {n : ℕ} (hn : n < 2 ^ 16) : n &&& 0xFF00 = 2 ^ 8 * (n / 2 ^ 8) := by
  have hmask : 0xFF00 = (2 ^ 8 - 1) <<< 8 := by decide
  apply Nat.eq_of_testBit_eq
  intro i
  rw [hmask, Nat.testBit_and, Nat.testBit_shiftLeft, Nat.testBit_two_pow_sub_one,
    Nat.testBit_two_pow_mul, Nat.testBit_div_two_pow]
  by_cases hlow : 8 ≤ i
  · rw [Nat.sub_add_cancel hlow]
    by_cases hhigh : i - 8 < 8
    · simp [hlow, hhigh]
    · have hout : n.testBit i = false :=
        Nat.testBit_lt_two_pow (hn.trans_le (Nat.pow_le_pow_right (by decide) (by omega)))
      simp [hout]
  · simp [hlow]

lemma index_lt (channel : Channel) : channel.index.toNat < 2 ^ 8 := by
  cases channel <;> decide

lemma index_of_hasPort {chip : Chip} (hport : hasPort chip) (channel : Channel) {code : ℕ}
    (hcode : code < 2 ^ 18) :
    (index chip channel.index code).toNat = 2 ^ 8 * (code / 2 ^ 16) + channel.index.toNat := by
  have hquotient : code / 256 < 2 ^ 16 := by omega
  have hdiv : code / 256 / 2 ^ 8 = code / 2 ^ 16 := by omega
  unfold hasPort at hport
  rw [index, if_pos hport, UInt16.toNat_or, UInt16.toNat_and, UInt16.toNat_ofNat',
    Nat.mod_eq_of_lt hquotient]
  change (code / 256 &&& 0xFF00) ||| _ = _
  rw [and_highByte hquotient, hdiv, Nat.two_pow_add_eq_or_of_lt (index_lt channel)]

lemma index_of_single {chip : Chip} (hport : ¬ hasPort chip) (channel : UInt16) {code : ℕ}
    (hcode : code < 2 ^ 18) : (index chip channel code).toNat = code / 2 ^ 16 := by
  unfold hasPort at hport
  rw [index, if_neg hport, UInt16.toNat_ofNat', Nat.mod_eq_of_lt (by omega)]
  rfl

lemma received_eq (chip : Chip) (channel : Channel) (actual : ℕ) {code : ℕ}
    (hcode : code < 2 ^ 18) :
    received chip ⟨actual, code.toUInt16, index chip channel.index code⟩ = code := by
  have hchannel := index_lt channel
  have hvalue : code.toUInt16.toNat = code % 2 ^ 16 := UInt16.toNat_ofNat'
  unfold received
  rw [hvalue]
  by_cases hport : hasPort chip
  · rw [if_pos hport, index_of_hasPort hport channel hcode]
    omega
  · rw [if_neg hport, index_of_single hport _ hcode]
    omega

end Reading

lemma toNat_ne_zero {rate : UInt32} (hrate : rate ≠ 0) : rate.toNat ≠ 0 :=
  fun h => hrate (UInt32.toNat_inj.mp h)

section Setting

variable (chip : Chip) (channel : Channel) {rate : ℕ} (hrate : rate ≠ 0)

include hrate

lemma actual_ne_zero : (code chip rate).2 ≠ 0 := by
  have hlt := (possible_chosen chip hrate).lt
  have hpos := (possible_chosen chip hrate).pos
  have hbase := baseRate_bounds (usesFastClock chip rate)
  rw [code_eq chip hrate]
  exact (Nat.div_pos (by omega) (by omega)).ne'

lemma setting_of_port (port : UInt16) : setting? chip port rate =
    some ⟨(code chip rate).2, (code chip rate).1.toUInt16, index chip port (code chip rate).1⟩ := by
  rw [setting?, if_neg hrate]
  exact if_neg (actual_ne_zero chip hrate)

theorem setting_eq : setting? chip channel.index rate =
    some ⟨(code chip rate).2, (code chip rate).1.toUInt16,
      index chip channel.index (code chip rate).1⟩ :=
  setting_of_port chip hrate channel.index

lemma code_lt : (code chip rate).1 < 2 ^ 18 := by
  have hcode := (possible_chosen chip hrate).codeOf_lt
  have hclock := Bool.toNat_le (usesFastClock chip rate)
  rw [code_eq chip hrate]
  dsimp only
  omega

lemma code_mod : (code chip rate).1 % 2 ^ 17 = codeOf (chosen chip rate) := by
  have hcode := (possible_chosen chip hrate).codeOf_lt
  rw [code_eq chip hrate]
  dsimp only
  omega

lemma testBit_code : (code chip rate).1.testBit 17 = usesFastClock chip rate := by
  have hcode := (possible_chosen chip hrate).codeOf_lt
  rw [code_eq chip hrate]
  cases usesFastClock chip rate with
  | false => exact Nat.testBit_lt_two_pow hcode
  | true =>
    dsimp only [Bool.toNat_true]
    rw [Nat.mul_one, Nat.add_comm, Nat.testBit_two_pow_add_eq, Nat.testBit_lt_two_pow hcode]
    rfl

end Setting

/-- What the chip finds in a request for a rate. -/
structure Faithful (chip : Chip) (channel : Channel) (rate : ℕ) (s : Setting) : Prop where
  port : hasPort chip → s.index.toNat % 2 ^ 8 = channel.index.toNat
  bits : received chip s < 2 ^ 18
  clock : (received chip s).testBit 17 → chip.isHighSpeed
  divisor : eighths (received chip s % 2 ^ 17) = chosen chip rate
  whole : chosen chip rate / 8 < 2 ^ 14
  special : received chip s % 2 ^ 17 ≤ 1 ↔ chosen chip rate = 8 ∨ chosen chip rate = 12
  actual : (s.actual : ℤ) =
    round ((8 * baseRate ((received chip s).testBit 17) : ℚ) / eighths (received chip s % 2 ^ 17))

theorem exists_faithful (chip : Chip) (channel : Channel) (rate : UInt32) (hrate : rate ≠ 0) :
    ∃ s, setting? chip channel.index rate.toNat = some s ∧
      Faithful chip channel rate.toNat s := by
  have hrate := toNat_ne_zero hrate
  have hpossible := possible_chosen chip hrate
  have hcode := code_lt chip hrate
  have hreceived := received_eq chip channel (code chip rate.toNat).2 hcode
  have hdivisor := code_mod chip hrate
  have hclock := testBit_code chip hrate
  rw [← hreceived] at hdivisor hclock
  refine ⟨_, setting_eq chip channel hrate, ?port, ?bits, ?clock, ?divisor, ?whole, ?special,
    ?actual⟩
  case port =>
    intro hport
    have hchannel := index_lt channel
    dsimp only
    rw [index_of_hasPort hport channel hcode]
    omega
  case bits => rwa [hreceived]
  case clock =>
    rw [hclock]
    exact fun h => (Bool.and_eq_true_iff.mp h).1
  case divisor => rw [hdivisor, hpossible.eighths_codeOf]
  case whole =>
    have := hpossible.lt
    omega
  case special => rw [hdivisor, hpossible.codeOf_le_one]
  case actual =>
    have hround := round_div (8 * baseRate (usesFastClock chip rate.toNat)) hpossible.pos
    rw [hdivisor, hclock, hpossible.eighths_codeOf, code_eq chip hrate, ← hround]
    push_cast
    rfl

theorem exists_faithful_fast : (921600 : UInt32) ≠ 0 ∧ usesFastClock .ft2232H 921600 ∧
    ∃ s, setting? .ft2232H Channel.b.index 921600 = some s ∧
      Faithful .ft2232H .b 921600 s :=
  ⟨by decide, by decide, exists_faithful .ft2232H .b 921600 (by decide)⟩

example : setting? .ft2232H Channel.b.index 921600 = some ⟨923077, 0x000D, 0x0202⟩ := by decide

end UsbSerial.Baud
