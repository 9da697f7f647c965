import Mathlib.Algebra.GroupWithZero.Nat
import Mathlib.Data.Fin.VecNotation
import Mathlib.Logic.Equiv.Defs
import UsbSerial.ChipId
import UsbSerial.Proofs.Word

namespace UsbSerial.ChipId

section Shuffle

def places : Equiv.Perm (Fin 8) where
  toFun := ![1, 6, 0, 7, 3, 4, 2, 5]
  invFun := ![2, 0, 6, 4, 5, 7, 1, 3]
  left_inv := by
    rw [Function.LeftInverse]
    decide
  right_inv := by
    rw [Function.RightInverse, Function.LeftInverse]
    decide

lemma getLsbD_shuffle (b : UInt8) (i : Fin 8) :
    (shuffle b).toBitVec.getLsbD (places i) = b.toBitVec.getLsbD i := by
  have hall : ∀ n : Fin 256, ∀ i : Fin 8,
      (shuffle (UInt8.ofNat n)).toBitVec.getLsbD (places i) =
        (UInt8.ofNat n).toBitVec.getLsbD i := by
    decide +kernel
  have hb := hall ⟨b.toNat, b.toNat_lt⟩ i
  rwa [UInt8.ofNat_toNat] at hb

lemma shuffle_injective : Function.Injective shuffle := by
  intro b c h
  apply UInt8.eq_of_toBitVec_eq
  apply BitVec.eq_of_getLsbD_eq
  intro i hi
  have hbit := getLsbD_shuffle b ⟨i, hi⟩
  rw [h, getLsbD_shuffle] at hbit
  exact hbit.symm

end Shuffle

section Bytes

lemma toNat_ofBytes (b₃ b₂ b₁ b₀ : UInt8) : (ofBytes b₃ b₂ b₁ b₀).toNat =
    2 ^ 24 * b₃.toNat + 2 ^ 16 * b₂.toNat + 2 ^ 8 * b₁.toNat + b₀.toNat := by
  have h₃ : b₃.toNat < 2 ^ 8 := b₃.toNat_lt
  have h₂ : b₂.toNat < 2 ^ 8 := b₂.toNat_lt
  have h₁ : b₁.toNat < 2 ^ 8 := b₁.toNat_lt
  have h₀ : b₀.toNat < 2 ^ 8 := b₀.toNat_lt
  have hshift₃ : b₃.toNat <<< 24 % 2 ^ 32 = 2 ^ 24 * b₃.toNat := by
    rw [Nat.shiftLeft_eq]
    omega
  have hshift₂ : b₂.toNat <<< 16 % 2 ^ 32 = 2 ^ 16 * b₂.toNat := by
    rw [Nat.shiftLeft_eq]
    omega
  have hshift₁ : b₁.toNat <<< 8 % 2 ^ 32 = 2 ^ 8 * b₁.toNat := by
    rw [Nat.shiftLeft_eq]
    omega
  -- from the top, each byte is put under what is there already
  have hor₂ : 2 ^ 24 * b₃.toNat ||| 2 ^ 16 * b₂.toNat = 2 ^ 16 * (2 ^ 8 * b₃.toNat + b₂.toNat) := by
    rw [← Nat.two_pow_add_eq_or_of_lt (by omega)]
    omega
  have hor₁ : 2 ^ 16 * (2 ^ 8 * b₃.toNat + b₂.toNat) ||| 2 ^ 8 * b₁.toNat =
      2 ^ 8 * (2 ^ 16 * b₃.toNat + 2 ^ 8 * b₂.toNat + b₁.toNat) := by
    rw [← Nat.two_pow_add_eq_or_of_lt (by omega)]
    omega
  simp only [ofBytes, UInt32.toNat_or, UInt8.toNat_toUInt32, UInt32.toNat_shiftLeft,
    UInt32.reduceToNat, Nat.reduceMod, hshift₃, hshift₂, hshift₁, hor₂, hor₁]
  rw [← Nat.two_pow_add_eq_or_of_lt h₀]
  omega

lemma ofBytes_inj {b₃ b₂ b₁ b₀ c₃ c₂ c₁ c₀ : UInt8}
    (h : ofBytes b₃ b₂ b₁ b₀ = ofBytes c₃ c₂ c₁ c₀) :
    b₃ = c₃ ∧ b₂ = c₂ ∧ b₁ = c₁ ∧ b₀ = c₀ := by
  have hsum := congrArg UInt32.toNat h
  rw [toNat_ofBytes, toNat_ofBytes] at hsum
  have hlt (b : UInt8) : b.toNat < 2 ^ 8 := b.toNat_lt
  have h₂ := hlt b₂
  have h₁ := hlt b₁
  have h₀ := hlt b₀
  have h₂' := hlt c₂
  have h₁' := hlt c₁
  have h₀' := hlt c₀
  refine ⟨UInt8.toNat_inj.mp ?_, UInt8.toNat_inj.mp ?_, UInt8.toNat_inj.mp ?_,
    UInt8.toNat_inj.mp ?_⟩
  all_goals omega

end Bytes

section Decode

lemma decode_eq (high low : UInt16) : decode high low =
    ofBytes (shuffle (Word.high (Word.swap high))) (shuffle (Word.low (Word.swap high)))
      (shuffle (Word.high (Word.swap low))) (shuffle (Word.low (Word.swap low))) ^^^ key := by
  simp only [Word.swap, Word.low_ofBytes, Word.high_ofBytes, decode]

lemma decode_injective : Function.Injective fun words : UInt16 × UInt16 =>
    decode words.1 words.2 := by
  rintro ⟨high, low⟩ ⟨high', low'⟩ h
  obtain ⟨h₃, h₂, h₁, h₀⟩ := ofBytes_inj ((UInt32.xor_left_inj key).mp h)
  have hhigh : Word.ofBytes (Word.low high) (Word.high high) =
      Word.ofBytes (Word.low high') (Word.high high') := by
    rw [shuffle_injective h₃, shuffle_injective h₂]
  have hlow : Word.ofBytes (Word.low low) (Word.high low) =
      Word.ofBytes (Word.low low') (Word.high low') := by
    rw [shuffle_injective h₁, shuffle_injective h₀]
  rw [Word.ofBytes_low_high, Word.ofBytes_low_high] at hhigh hlow
  rw [hhigh, hlow]

end Decode

end UsbSerial.ChipId
