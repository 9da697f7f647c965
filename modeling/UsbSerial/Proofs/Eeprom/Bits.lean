import Mathlib.Data.Nat.Bitwise
import Mathlib.Tactic.Lemma
import Mathlib.Tactic.SplitIfs
import UsbSerial.Eeprom.Header

namespace UsbSerial

namespace Nibble

lemma low_pair (lo hi : UInt8) : low (pair lo hi) = lo % 16 := by
  apply UInt8.toNat_inj.mp
  simp only [low, pair, UInt8.toNat_mod, UInt8.toNat_add, UInt8.toNat_mul, UInt8.reduceToNat]
  omega

lemma high_pair (lo hi : UInt8) : high (pair lo hi) = hi % 16 := by
  apply UInt8.toNat_inj.mp
  simp only [high, pair, UInt8.toNat_mod, UInt8.toNat_add, UInt8.toNat_mul, UInt8.toNat_div,
    UInt8.reduceToNat]
  omega

lemma and_fifteen (b : UInt8) : b &&& 0x0F = low b := by
  apply UInt8.toNat_inj.mp
  rw [low, UInt8.toNat_and, UInt8.toNat_mod]
  exact Nat.and_two_pow_sub_one_eq_mod b.toNat 4

lemma shiftRight_four (b : UInt8) : b >>> 4 = high b := by
  apply UInt8.toNat_inj.mp
  simp only [high, UInt8.toNat_shiftRight, UInt8.toNat_div, UInt8.reduceToNat, Nat.reduceMod,
    Nat.shiftRight_eq_div_pow, Nat.reducePow]

lemma or_shiftLeft {lo hi : UInt8} (hlo : lo.toNat < 16) (hhi : hi.toNat < 16) :
    lo ||| (hi <<< 4) = pair lo hi := by
  have hor := Nat.shiftLeft_add_eq_or_of_lt (i := 4) hlo hi.toNat
  have hshift : hi.toNat <<< 4 = 16 * hi.toNat := by rw [Nat.shiftLeft_eq, Nat.mul_comm]
  apply UInt8.toNat_inj.mp
  simp only [pair, UInt8.toNat_or, UInt8.toNat_shiftLeft, UInt8.toNat_add, UInt8.toNat_mul,
    UInt8.toNat_mod, UInt8.reduceToNat]
  rw [hshift] at hor ⊢
  rw [Nat.mod_eq_of_lt (by omega : 16 * hi.toNat < 2 ^ 8), Nat.or_comm, ← hor]
  omega

lemma toNat_low_lt (b : UInt8) : (low b).toNat < 16 := by
  rw [low, UInt8.toNat_mod]
  exact Nat.mod_lt _ (by decide)

lemma pair_digits (lo hi : UInt8) :
    (lo &&& 0x0F : UInt8) ||| ((hi &&& 0x0F : UInt8) <<< (4 : UInt8)) = pair lo hi := by
  rw [and_fifteen, and_fifteen, or_shiftLeft (toNat_low_lt lo) (toNat_low_lt hi)]
  apply UInt8.toNat_inj.mp
  simp only [pair, low, UInt8.toNat_add, UInt8.toNat_mul, UInt8.toNat_mod, Nat.mod_mod]

lemma pair_zero (lo : UInt8) : (lo &&& 0x0F : UInt8) = pair lo 0 := by
  rw [and_fifteen, pair]
  exact (UInt8.add_zero _).symm

end Nibble

lemma hasFlag_shiftRight (b : UInt8) : hasFlag (b >>> 4) 0x08 = hasFlag b 0x80 := by
  have hlow : ((b >>> 4) &&& 0x08).toNat = (b.toNat.testBit 7).toNat * 2 ^ 3 := by
    rw [UInt8.toNat_and, UInt8.toNat_shiftRight]
    exact (Nat.and_two_pow _ 3).trans (by rw [Nat.testBit_shiftRight]; rfl)
  have hhigh : (b &&& 0x80).toNat = (b.toNat.testBit 7).toNat * 2 ^ 7 := Nat.and_two_pow _ 7
  cases hbit : b.toNat.testBit 7 with
  | false =>
    rw [hbit] at hlow hhigh
    have hlow' : (b >>> 4) &&& 0x08 = 0 := UInt8.toNat_inj.mp hlow
    have hhigh' : b &&& 0x80 = 0 := UInt8.toNat_inj.mp hhigh
    rw [hasFlag, hasFlag, hlow', hhigh']
  | true =>
    rw [hbit] at hlow hhigh
    have hlow' : (b >>> 4) &&& 0x08 = 0x08 := UInt8.toNat_inj.mp hlow
    have hhigh' : b &&& 0x80 = 0x80 := UInt8.toNat_inj.mp hhigh
    rw [hasFlag, hasFlag, hlow', hhigh']
    rfl

namespace Eeprom

namespace Drive

def capped (d : Drive) : Drive := { d with strength := min d.strength 3 }

lemma strength_capped (d : Drive) : d.capped.strength = 0 ∨ d.capped.strength = 1 ∨
    d.capped.strength = 2 ∨ d.capped.strength = 3 := by
  have hmin : d.capped.strength = if d.strength ≤ 3 then d.strength else 3 := rfl
  rw [hmin]
  split_ifs with h
  · rw [UInt8.le_iff_toNat_le] at h
    simp only [← UInt8.toNat_inj, UInt8.reduceToNat] at h ⊢
    omega
  · exact Or.inr (Or.inr (Or.inr rfl))

lemma ofNibble_nibble (d : Drive) : ofNibble (d.nibble % 16) = d.capped := by
  have hs := d.strength_capped
  obtain ⟨strength, schmitt, slow⟩ := d
  simp only [capped] at hs
  rcases hs with h | h | h | h <;> cases schmitt <;> cases slow <;>
    simp only [nibble, capped, h] <;> rfl

lemma toNat_nibble_lt (d : Drive) : d.nibble.toNat < 16 := by
  have hs := d.strength_capped
  obtain ⟨strength, schmitt, slow⟩ := d
  simp only [capped] at hs
  rcases hs with h | h | h | h <;> cases schmitt <;> cases slow <;> simp only [nibble, h] <;>
    decide

lemma pair_nibbles (d d' : Drive) :
    d.nibble ||| (d'.nibble <<< 4) = Nibble.pair d.nibble d'.nibble :=
  Nibble.or_shiftLeft d.toNat_nibble_lt d'.toNat_nibble_lt

end Drive

namespace Header

lemma channelType_mod (b : UInt8) : channelType b % 8 = channelType b := by
  apply UInt8.toNat_inj.mp
  simp only [channelType, UInt8.toNat_mod, UInt8.reduceToNat]
  omega

lemma and_seven (b : UInt8) : b &&& 0x07 = channelType b := by
  apply UInt8.toNat_inj.mp
  rw [channelType, UInt8.toNat_and, UInt8.toNat_mod]
  exact Nat.and_two_pow_sub_one_eq_mod b.toNat 3

lemma mod_eight_cases (a : UInt8) : a % 8 = 0 ∨ a % 8 = 1 ∨ a % 8 = 2 ∨ a % 8 = 3 ∨ a % 8 = 4 ∨
    a % 8 = 5 ∨ a % 8 = 6 ∨ a % 8 = 7 := by
  simp only [← UInt8.toNat_inj, UInt8.toNat_mod, UInt8.reduceToNat]
  omega

lemma channel_bits {m : UInt8} (hm : m = 0x10 ∨ m = 0x80) (type : UInt8) (driver other : Bool)
    {c : UInt8} (hc : c = channelType type ||| flag 0x08 driver ||| flag m other) :
    channelType c = type % 8 ∧ hasFlag c 0x08 = driver ∧ hasFlag c m = other := by
  subst hc
  simp only [channelType]
  rcases hm with rfl | rfl <;>
    rcases mod_eight_cases type with h | h | h | h | h | h | h | h <;>
      cases driver <;> cases other <;> rw [h] <;> decide

lemma channelA_2232H (s : Settings) :
    channelType (channelA .ft2232H s) = s.channelTypeA % 8 ∧
      hasFlag (channelA .ft2232H s) 0x08 = s.serialDriver.getD 0 false := by
  have hother : channelA .ft2232H s =
      channelType s.channelTypeA ||| flag 0x08 (s.serialDriver.getD 0 false) |||
        flag 0x10 false := by
    rw [show flag 0x10 false = 0 from rfl, UInt8.or_zero, channelA]
  obtain ⟨htype, hdriver, -⟩ := channel_bits (m := 0x10) (Or.inl rfl) _ _ _ hother
  exact ⟨htype, hdriver⟩

lemma channelA_232R (s : Settings) :
    hasFlag (channelA .ft232R s) 0x08 = !s.serialDriver.getD 0 false ∧
    hasFlag (channelA .ft232R s) 0x04 = s.highCurrent ∧
      hasFlag (channelA .ft232R s) 0x02 = s.externalOscillator := by
  rw [channelA]
  cases s.serialDriver.getD 0 false <;> cases s.highCurrent <;> cases s.externalOscillator <;>
    decide

lemma driver_bits (low high : Bool) {c : UInt8} (hc : c = flag 0x08 low ||| flag 0x80 high) :
    hasFlag c 0x08 = low ∧ hasFlag c 0x80 = high := by
  subst hc
  cases low <;> cases high <;> decide

lemma signals_4232H (s : Settings) :
    hasFlag (signals .ft4232H s) 0x10 = s.rs485.getD 0 false ∧
    hasFlag (signals .ft4232H s) 0x20 = s.rs485.getD 1 false ∧
      hasFlag (signals .ft4232H s) 0x40 = s.rs485.getD 2 false ∧
        hasFlag (signals .ft4232H s) 0x80 = s.rs485.getD 3 false := by
  rw [signals]
  cases s.rs485.getD 0 false <;> cases s.rs485.getD 1 false <;> cases s.rs485.getD 2 false <;>
    cases s.rs485.getD 3 false <;> decide

lemma attributes_bits (s : Settings) : hasFlag (attributes s) 0x40 = s.selfPowered ∧
    hasFlag (attributes s) 0x20 = s.remoteWakeup := by
  rw [attributes]
  cases s.selfPowered <;> cases s.remoteWakeup <;> decide

lemma feature_bits (a b c d e : Bool) {byte : UInt8}
    (hb : byte = flag 0x01 a ||| flag 0x02 b ||| flag 0x04 c ||| flag 0x08 d ||| flag 0x10 e) :
    hasFlag byte 0x01 = a ∧ hasFlag byte 0x02 = b ∧ hasFlag byte 0x04 = c ∧
      hasFlag byte 0x08 = d ∧ hasFlag byte 0x10 = e := by
  subst hb
  cases a <;> cases b <;> cases c <;> cases d <;> cases e <;> decide

lemma units_byte (b : UInt8) : min (b.toUInt16 * 2 / 2) 255 = b.toUInt16 := by
  have hb : b.toNat < 2 ^ 8 := b.toNat_lt
  have hhalf : b.toUInt16 * 2 / 2 = b.toUInt16 := by
    apply UInt16.toNat_inj.mp
    simp only [UInt16.toNat_div, UInt16.toNat_mul, UInt8.toNat_toUInt16, UInt16.reduceToNat]
    omega
  have hle : b.toUInt16 ≤ 255 := by
    rw [UInt16.le_iff_toNat_le, UInt8.toNat_toUInt16]
    exact Nat.le_of_lt_succ hb
  have hmin : min b.toUInt16 255 = b.toUInt16 := if_pos hle
  rw [hhalf, hmin]

lemma power_units (s : Settings) : (power s).toUInt16 * 2 = 2 * min (s.maxPower / 2) 255 := by
  have hmin : min (s.maxPower / 2) 255 = if s.maxPower / 2 ≤ 255 then s.maxPower / 2 else 255 := rfl
  have hle : (min (s.maxPower / 2) 255).toNat ≤ 255 := by
    rw [hmin]
    split_ifs with h
    · exact UInt16.le_iff_toNat_le.mp h
    · decide
  apply UInt16.toNat_inj.mp
  simp only [power, UInt16.toNat_mul, UInt8.toNat_toUInt16, UInt16.toNat_toUInt8,
    UInt16.reduceToNat]
  omega

end Header

end Eeprom

end UsbSerial
