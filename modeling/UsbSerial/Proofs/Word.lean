import Mathlib.Data.List.GetD
import Mathlib.Data.Nat.Notation
import Mathlib.Logic.Function.Basic
import Mathlib.Tactic.Lemma
import UsbSerial.Word

namespace UsbSerial.Word

lemma toNat_ofBytes (l h : UInt8) : (ofBytes l h).toNat = 256 * h.toNat + l.toNat := by
  have hl : l.toNat < 2 ^ 8 := l.toNat_lt
  have hh : h.toNat < 2 ^ 8 := h.toNat_lt
  have hshift : h.toNat <<< 8 % 2 ^ 16 = 2 ^ 8 * h.toNat := by
    rw [Nat.shiftLeft_eq]
    omega
  simp only [ofBytes, UInt16.toNat_or, UInt8.toNat_toUInt16, UInt16.toNat_shiftLeft,
    UInt16.reduceToNat, Nat.reduceMod, hshift]
  rw [Nat.or_comm, Nat.two_pow_add_eq_or_of_lt hl]

lemma toNat_low (w : UInt16) : (low w).toNat = w.toNat % 256 := UInt16.toNat_toUInt8 w

lemma toNat_high (w : UInt16) : (high w).toNat = w.toNat / 256 := by
  have hw : w.toNat < 2 ^ 16 := w.toNat_lt
  simp only [high, UInt16.toNat_toUInt8, UInt16.toNat_shiftRight, UInt16.reduceToNat, Nat.reduceMod,
    Nat.shiftRight_eq_div_pow]
  omega

@[simp] lemma ofBytes_low_high (w : UInt16) : ofBytes (low w) (high w) = w := by
  apply UInt16.toNat_inj.mp
  rw [toNat_ofBytes, toNat_low, toNat_high]
  omega

@[simp] lemma low_ofBytes (l h : UInt8) : low (ofBytes l h) = l := by
  have hl : l.toNat < 2 ^ 8 := l.toNat_lt
  apply UInt8.toNat_inj.mp
  rw [toNat_low, toNat_ofBytes]
  omega

@[simp] lemma high_ofBytes (l h : UInt8) : high (ofBytes l h) = h := by
  have hl : l.toNat < 2 ^ 8 := l.toNat_lt
  apply UInt8.toNat_inj.mp
  rw [toNat_high, toNat_ofBytes]
  omega

@[simp] lemma bytes_ofBytes (l h : UInt8) : bytes (ofBytes l h) = [l, h] := by
  rw [bytes, low_ofBytes, high_ofBytes]

def read (bytes : List UInt8) (k : ℕ) : UInt16 :=
  ofBytes (bytes.getD (2 * k) 0) (bytes.getD (2 * k + 1) 0)

lemma read_set {l : List UInt8} {k : ℕ} (h : 2 * k + 1 < l.length) (value : UInt16) :
    read ((l.set (2 * k) (low value)).set (2 * k + 1) (high value)) =
      Function.update (read l) k value := by
  funext j
  rcases eq_or_ne j k with rfl | hne
  · have hlow : 2 * j < l.length := by omega
    rw [Function.update_self, read]
    simp [h, hlow]
  · have heven : ¬ 2 * k = 2 * j ∧ ¬ 2 * k + 1 = 2 * j := by omega
    have hodd : ¬ 2 * k = 2 * j + 1 ∧ ¬ k = j := by omega
    rw [Function.update_of_ne hne, read, read]
    simp only [List.getD_eq_getElem?_getD, List.getElem?_set, heven, hodd, if_false,
      Nat.add_right_cancel_iff]

lemma flatMap_read {n : ℕ} {l : List UInt8} (h : l.length = 2 * n) :
    ((List.range n).map (read l)).flatMap bytes = l := by
  induction n generalizing l with
  | zero => exact (List.eq_nil_of_length_eq_zero h).symm
  | succ n ih =>
    match l, h with
    | b :: c :: rest, h =>
      have hrest : rest.length = 2 * n := by
        simp only [List.length_cons] at h
        omega
      have htail : (read (b :: c :: rest)) ∘ Nat.succ = read rest := rfl
      rw [List.range_succ_eq_map, List.map_cons, List.map_map, htail, List.flatMap_cons, ih hrest]
      exact congrArg (· ++ rest) (bytes_ofBytes b c)

end UsbSerial.Word
