import Mathlib.Data.List.GetD
import Mathlib.Tactic.Lemma
import Mathlib.Tactic.SplitIfs
import UsbSerial.Eeprom.Image
import UsbSerial.Proofs.Word

namespace UsbSerial

lemma getD_rightpad (bytes : List UInt8) (n k : ℕ) :
    (bytes.rightpad n 0).getD k 0 = bytes.getD k 0 := by
  simp only [List.rightpad, List.getD_eq_getElem?_getD, List.getElem?_append,
    List.getElem?_replicate]
  split_ifs with h₁ h₂
  · rfl
  · rw [List.getElem?_eq_none (by omega)]
    rfl
  · rw [List.getElem?_eq_none (by omega)]

namespace Eeprom

lemma Size.two_mul_words (s : Size) : 2 * s.words = s.bytes := by cases s <;> rfl

lemma Size.bytes_eq (s : Size) : s.bytes = 2 * (s.words - 1) + 2 := by cases s <;> rfl

namespace Image

variable {chip : Chip} {size : Size}

lemma byte_eq_getElem (img : Image) (address : ℕ) (h : address % img.size.bytes < 256) :
    img.byte address = img.buffer[address % img.size.bytes] := rfl

lemma byte_mod (img : Image) (address : ℕ) :
    img.byte (address % img.size.bytes) = img.byte address := by
  rw [byte, byte]
  congr 2
  exact Nat.mod_mod _ _

lemma bytes_eq_map (img : Image) : img.bytes = (List.range img.size.bytes).map img.byte := by
  have hsize := img.size.bytes_le
  apply List.ext_getElem
  · simp only [bytes, List.length_take, Vector.length_toList, List.length_map, List.length_range]
    omega
  · intro k hk hk'
    simp only [List.length_map, List.length_range] at hk'
    have hmod := Nat.mod_eq_of_lt hk'
    simp only [bytes, List.getElem_take, Vector.getElem_toList, List.getElem_map,
      List.getElem_range, byte_eq_getElem img k (by omega), hmod]

@[simp] lemma length_bytes (img : Image) : img.bytes.length = img.size.bytes := by
  rw [bytes_eq_map, List.length_map, List.length_range]

lemma getD_bytes (img : Image) {k : ℕ} (hk : k < img.size.bytes) :
    img.bytes.getD k 0 = img.byte k := by
  rw [bytes_eq_map, List.getD_eq_getElem?_getD, List.getElem?_map, List.getElem?_range hk]
  rfl

lemma words_eq_map (img : Image) :
    img.words = (List.range img.size.words).map (Word.read img.bytes) := by
  have hwords := img.size.two_mul_words
  apply List.map_congr_left
  intro k hk
  rw [List.mem_range] at hk
  rw [word, Word.read, getD_bytes img (by omega), getD_bytes img (by omega)]

lemma flatMap_words (img : Image) : img.words.flatMap Word.bytes = img.bytes := by
  have hlen : img.bytes.length = 2 * img.size.words := by
    rw [length_bytes, Size.two_mul_words]
  rw [words_eq_map, Word.flatMap_read hlen]

@[simp] lemma byte_ofList (bytes : List UInt8) (address : ℕ) :
    (ofList chip size bytes).byte address = bytes.getD (address % size.bytes) 0 := by
  rw [byte_eq_getElem _ _ (size.mod_lt address)]
  simp only [ofList, Vector.getElem_ofFn]

lemma word?_ofList (bytes : List UInt8) {address : ℕ} (h : address < size.words) :
    (ofList chip size bytes).word? address = some (Word.read bytes address) := by
  have hsize := size.two_mul_words
  have hlow : 2 * address % size.bytes = 2 * address := Nat.mod_eq_of_lt (by omega)
  have hhigh : (2 * address + 1) % size.bytes = 2 * address + 1 := Nat.mod_eq_of_lt (by omega)
  have hin : address < (ofList chip size bytes).size.words := h
  rw [word?, if_pos hin, word, byte_ofList, byte_ofList, hlow, hhigh, Word.read]

lemma checksum_congr {img other : Image} (hs : img.size = other.size)
    (h : ∀ address < img.size.bytes - 2, img.byte address = other.byte address) :
    img.checksum = other.checksum := by
  have hn := img.size.bytes_eq
  have hwords : img.words.take (img.size.words - 1) = other.words.take (other.size.words - 1) := by
    simp only [words, ← hs, ← List.map_take, List.take_range]
    apply List.map_congr_left
    intro k hk
    rw [List.mem_range] at hk
    simp only [word, h (2 * k) (by omega), h (2 * k + 1) (by omega)]
  rw [checksum, checksum, hwords]

def front (size : Size) (body : List UInt8) : List UInt8 :=
  (body.take (size.bytes - 2)).rightpad (size.bytes - 2) 0

lemma withChecksum_eq (body : List UInt8) :
    withChecksum chip size body = ofList chip size
      (front size body ++ Word.bytes (ofList chip size (front size body)).checksum) :=
  rfl

@[simp] lemma length_front (body : List UInt8) : (front size body).length = size.bytes - 2 := by
  simp only [front, List.rightpad, List.length_append, List.length_take, List.length_replicate]
  omega

lemma getD_front (body : List UInt8) {address : ℕ} (h : address < size.bytes - 2) :
    (front size body).getD address 0 = body.getD address 0 := by
  rw [front, getD_rightpad, List.getD_eq_getElem?_getD, List.getElem?_take, if_pos h,
    ← List.getD_eq_getElem?_getD]

@[simp] lemma size_withChecksum (body : List UInt8) : (withChecksum chip size body).size = size :=
  rfl

lemma byte_withChecksum (body : List UInt8) {address : ℕ} (h : address < size.bytes - 2) :
    (withChecksum chip size body).byte address = body.getD address 0 := by
  rw [withChecksum_eq, byte_ofList, Nat.mod_eq_of_lt (by omega),
    List.getD_append _ _ _ _ (by rwa [length_front]), getD_front body h]

lemma buffer_ofList (bytes : List UInt8) {address : ℕ} (h : address < 256) :
    (ofList chip size bytes).buffer[address] = bytes.getD address 0 := by
  simp only [ofList, Vector.getElem_ofFn]

lemma buffer_withChecksum (body : List UInt8) {address : ℕ} (h : address < 256)
    (habove : size.bytes ≤ address) : (withChecksum chip size body).buffer[address] = 0 := by
  have hlength (sum : UInt16) : (front size body ++ Word.bytes sum).length = size.bytes := by
    rw [List.length_append, length_front, size.bytes_eq]
    rfl
  simp only [withChecksum_eq, buffer_ofList]
  exact List.getD_eq_default _ _ (by rwa [hlength])

@[simp] lemma checksum_withChecksum (body : List UInt8) :
    (withChecksum chip size body).checksum = (ofList chip size (front size body)).checksum := by
  have hs : (withChecksum chip size body).size = (ofList chip size (front size body)).size := rfl
  apply checksum_congr hs
  intro address h
  rw [size_withChecksum] at h
  rw [byte_withChecksum body h, byte_ofList, Nat.mod_eq_of_lt (by omega), getD_front body h]

@[simp] lemma storedChecksum_withChecksum (body : List UInt8) :
    (withChecksum chip size body).storedChecksum =
      (ofList chip size (front size body)).checksum := by
  have hs := size.bytes_eq
  have hbyte (k : ℕ) (hk : k < 2) :
      (withChecksum chip size body).byte (2 * (size.words - 1) + k) =
        (Word.bytes (ofList chip size (front size body)).checksum).getD k 0 := by
    rw [withChecksum_eq, byte_ofList, Nat.mod_eq_of_lt (by omega),
      List.getD_append_right _ _ _ _ (by rw [length_front]; omega), length_front]
    congr 1
    omega
  rw [storedChecksum, word, size_withChecksum, hbyte 1 (by decide), ← Nat.add_zero (2 * _),
    hbyte 0 (by decide)]
  exact Word.ofBytes_low_high _

lemma byte_mem_bytes (img : Image) {address : ℕ} (h : address < img.size.bytes) :
    img.byte address ∈ img.bytes := by
  rw [bytes_eq_map]
  exact List.mem_map_of_mem (List.mem_range.mpr h)

lemma isBlank_iff {img : Image} : img.isBlank = true ↔ ∀ b ∈ img.bytes, b = 0xFF := by
  simp only [isBlank, List.all_eq_true, decide_eq_true_eq]

lemma isBlank_eq_false_iff {img : Image} : img.isBlank = false ↔ ∃ b ∈ img.bytes, b ≠ 0xFF := by
  simp only [isBlank, List.all_eq_false, decide_eq_true_eq, ne_eq]

lemma not_isBlank {img : Image} {address : ℕ} (h : address < img.size.bytes)
    (hb : img.byte address ≠ 0xFF) : img.isBlank = false :=
  isBlank_eq_false_iff.mpr ⟨_, img.byte_mem_bytes h, hb⟩

end Image

end Eeprom

end UsbSerial
