import UsbSerial.Proofs.Eeprom.Dump

namespace UsbSerial

namespace Word

lemma toNat_rotateLeft (w : UInt16) :
    (rotateLeft w).toNat = 2 * (w.toNat % 0x8000) + w.toNat / 0x8000 := by
  have hw : w.toNat < 2 ^ 16 := w.toNat_lt
  have hbit : w.toNat / 0x8000 < 2 ^ 1 := by omega
  have hshift : w.toNat <<< 1 % 2 ^ 16 = 2 ^ 1 * (w.toNat % 0x8000) := by
    rw [Nat.shiftLeft_eq]
    omega
  simp only [rotateLeft, UInt16.toNat_or, UInt16.toNat_shiftLeft, UInt16.toNat_shiftRight,
    UInt16.reduceToNat, Nat.reduceMod, Nat.shiftRight_eq_div_pow, hshift]
  rw [← Nat.two_pow_add_eq_or_of_lt hbit]

lemma rotateLeft_injective : Function.Injective rotateLeft := by
  intro v w h
  have hv : v.toNat / 0x8000 < 2 := Nat.div_lt_of_lt_mul v.toNat_lt
  have hw : w.toNat / 0x8000 < 2 := Nat.div_lt_of_lt_mul w.toNat_lt
  have hnat := congrArg UInt16.toNat h
  rw [toNat_rotateLeft, toNat_rotateLeft] at hnat
  have hparts : v.toNat % 0x8000 = w.toNat % 0x8000 ∧ v.toNat / 0x8000 = w.toNat / 0x8000 := by
    generalize v.toNat % 0x8000 = low, w.toNat % 0x8000 = low', v.toNat / 0x8000 = top,
      w.toNat / 0x8000 = top' at hv hw hnat ⊢
    omega
  apply UInt16.toNat_inj.mp
  rw [← Nat.div_add_mod v.toNat 0x8000, ← Nat.div_add_mod w.toNat 0x8000, hparts.1, hparts.2]

end Word

namespace Eeprom

namespace Image

def mix (sum w : UInt16) : UInt16 := Word.rotateLeft (sum ^^^ w)

lemma checksumOf_eq (words : List UInt16) : checksumOf words = words.foldl mix checksumSeed := rfl

lemma mix_left_injective (w : UInt16) : Function.Injective fun sum => mix sum w := by
  intro sum other h
  exact (UInt16.xor_left_inj w).mp (Word.rotateLeft_injective h)

lemma mix_right_injective (sum : UInt16) : Function.Injective (mix sum) := by
  intro w other h
  exact (UInt16.xor_right_inj sum).mp (Word.rotateLeft_injective h)

lemma foldl_mix_injective (words : List UInt16) :
    Function.Injective fun sum => words.foldl mix sum := by
  induction words with
  | nil => exact Function.injective_id
  | cons w words ih => exact ih.comp (mix_left_injective w)

lemma checksumOf_set_ne {words : List UInt16} {k : ℕ} {w : UInt16} (hk : k < words.length)
    (hw : w ≠ words[k]) : checksumOf (words.set k w) ≠ checksumOf words := by
  intro h
  have hold : words = words.take k ++ words[k] :: words.drop (k + 1) := by
    rw [List.getElem_cons_drop, List.take_append_drop]
  rw [checksumOf_eq, checksumOf_eq, List.set_eq_take_append_cons_drop, if_pos hk, List.foldl_append,
    List.foldl_cons] at h
  conv at h =>
    rhs
    rw [hold, List.foldl_append, List.foldl_cons]
  exact hw (mix_right_injective _ (foldl_mix_injective _ h))

def withWord (img : Image) (k : ℕ) (w : UInt16) : Image :=
  { img with
    buffer :=
      (img.buffer.setIfInBounds (2 * k) (Word.low w)).setIfInBounds (2 * k + 1) (Word.high w) }

variable {img : Image} {k : ℕ} {w : UInt16}

lemma bytes_withWord (img : Image) (k : ℕ) (w : UInt16) :
    (img.withWord k w).bytes =
      (img.bytes.set (2 * k) (Word.low w)).set (2 * k + 1) (Word.high w) := by
  simp only [bytes, withWord, Vector.toList_setIfInBounds, List.take_set]

lemma words_withWord (hk : k < img.size.words) :
    (img.withWord k w).words = img.words.set k w := by
  have hbytes : 2 * k + 1 < img.bytes.length := by
    rw [length_bytes, ← Size.two_mul_words]
    omega
  have hsize : (img.withWord k w).size = img.size := rfl
  rw [words_eq_map, words_eq_map, bytes_withWord, Word.read_set hbytes, hsize]
  apply List.ext_getElem
  · simp
  · intro j _ _
    rcases eq_or_ne k j with rfl | hne
    · simp
    · simp [hne, Function.update_of_ne hne.symm]

lemma length_words (img : Image) : img.words.length = img.size.words := by
  rw [words, List.length_map, List.length_range]

lemma getElem_words (img : Image) {j : ℕ} (hj : j < img.words.length) :
    img.words[j] = img.word j := by
  simp only [words, List.getElem_map, List.getElem_range]

lemma word_withWord (hk : k < img.size.words) {j : ℕ} (hj : j < img.size.words) :
    (img.withWord k w).word j = if k = j then w else img.word j := by
  have hlen : j < (img.withWord k w).words.length := by rwa [length_words]
  rw [← getElem_words _ hlen]
  simp only [words_withWord hk, List.getElem_set, getElem_words]

lemma storedChecksum_withWord (hk : k < img.size.words) : (img.withWord k w).storedChecksum =
    if k = img.size.words - 1 then w else img.storedChecksum := by
  have hlast : img.size.words - 1 < img.size.words := by omega
  exact word_withWord hk hlast

lemma checksum_withWord (hk : k < img.size.words) : (img.withWord k w).checksum =
    checksumOf ((img.words.take (img.size.words - 1)).set k w) := by
  have hsize : (img.withWord k w).size = img.size := rfl
  rw [checksum, hsize, words_withWord hk, List.take_set]

lemma checksum_withWord_last (hk : k < img.size.words) (hlast : k = img.size.words - 1) :
    (img.withWord k w).checksum = img.checksum := by
  have hlen : (img.words.take (img.size.words - 1)).length ≤ k := by
    rw [List.length_take]
    omega
  rw [checksum_withWord hk, List.set_eq_of_length_le hlen, checksum]

lemma checksum_withWord_ne (hsum : img.storedChecksum = img.checksum) (hk : k < img.size.words)
    (hw : w ≠ img.word k) :
    (img.withWord k w).checksum ≠ (img.withWord k w).storedChecksum := by
  intro h
  by_cases hlast : k = img.size.words - 1
  · rw [checksum_withWord_last hk hlast, storedChecksum_withWord hk, if_pos hlast, ← hsum,
      storedChecksum, ← hlast] at h
    exact hw h.symm
  · have hlen : k < (img.words.take (img.size.words - 1)).length := by
      rw [List.length_take, length_words]
      omega
    have hold : w ≠ (img.words.take (img.size.words - 1))[k] := by
      rwa [List.getElem_take, getElem_words]
    rw [checksum_withWord hk, storedChecksum_withWord hk, if_neg hlast, hsum] at h
    exact checksumOf_set_ne hlen hold h

lemma byte_withWord_of_ne (img : Image) {address : ℕ} (w : UInt16) (ha : address < img.size.bytes)
    (hk : address / 2 ≠ k) : (img.withWord k w).byte address = img.byte address := by
  have hlow : 2 * k ≠ address := by omega
  have hhigh : 2 * k + 1 ≠ address := by omega
  have hin : address < (img.withWord k w).size.bytes := ha
  rw [← getD_bytes _ hin, ← getD_bytes _ ha, bytes_withWord]
  simp only [List.getD_eq_getElem?_getD, List.getElem?_set_ne hhigh, List.getElem?_set_ne hlow]

lemma not_isBlank_withWord {chip : Chip} {size : Size} {s : Settings} (k : ℕ) (w : UInt16)
    (h : Settings.Fits chip size s) : ((s.image chip size).withWord k w).isBlank = false := by
  -- In an image that was encoded at least two words have a byte that is not 0xFF.
  obtain ⟨-, hsize, -⟩ := Settings.imageSize?_eq_some h.size_eq
  have hroom : 0x20 < size.bytes - 2 := by rcases hsize with rfl | rfl <;> decide
  have hlow : 0x08 < (s.image chip size).size.bytes := by
    rw [Settings.size_image]
    omega
  have hhigh : 0x20 < (s.image chip size).size.bytes := by
    rw [Settings.size_image]
    omega
  by_cases hk : 0x08 / 2 = k
  · have hne : 0x20 / 2 ≠ k := by omega
    have hlt : ((s.image chip size).byte 0x20).toNat < 0x80 :=
      h.byte_lt (by decide) hroom
    refine not_isBlank hhigh ?_
    rw [byte_withWord_of_ne _ _ hhigh hne]
    intro heq
    rw [heq] at hlt
    exact absurd hlt (by decide)
  · refine not_isBlank hlow ?_
    rw [byte_withWord_of_ne _ _ hlow hk, h.byte_attributes]
    exact (Header.attributes_bounds s).2

theorem decode_withWord (img : Image) (k : ℕ) (w : UInt16)
    (hsum : img.storedChecksum = img.checksum) (hk : k < img.size.words) (hw : w ≠ img.word k) :
    ∃ e, (img.withWord k w).decode = .error e ∧ e.kind = .format ∧
      ((∃ b ∈ (img.withWord k w).bytes, b ≠ 0xFF) →
        e = .checksum (img.withWord k w).storedChecksum (img.withWord k w).checksum) ∧
      ((∃ chip s, Settings.encode chip s = .ok img) →
        e = .checksum (img.withWord k w).storedChecksum (img.withWord k w).checksum) := by
  cases hblank : (img.withWord k w).isBlank with
  | false =>
    have hdecode := decode_of_checksum_ne hblank (checksum_withWord_ne hsum hk hw)
    exact ⟨_, hdecode, rfl, fun _ => rfl, fun _ => rfl⟩
  | true =>
    refine ⟨_, decode_of_isBlank hblank, rfl, ?_, ?_⟩
    · rintro ⟨b, hb, hset⟩
      exact absurd (isBlank_iff.mp hblank b hb) hset
    · rintro ⟨chip, s, hencode⟩
      obtain ⟨size, hfits, rfl⟩ := Settings.fits_of_encode hencode
      rw [not_isBlank_withWord k w hfits] at hblank
      exact absurd hblank Bool.false_ne_true

theorem decode_withWord_vendor :
    ∃ img : Image, Settings.encode .ft232R {} = .ok img ∧ img.storedChecksum = img.checksum ∧
      1 < img.size.words ∧ 0x1234 ≠ img.word 1 ∧ (img.withWord 1 0x1234).decode =
        .error (.checksum img.storedChecksum (img.withWord 1 0x1234).checksum) := by
  have hfits : Settings.Fits .ft232R .bytes128 {} := ⟨rfl, by decide, by decide⟩
  let img : Image := Settings.image .ft232R .bytes128 {}
  have hsum : img.storedChecksum = img.checksum :=
    (storedChecksum_withChecksum _).trans (checksum_withChecksum _).symm
  have hword : 0x1234 ≠ img.word 1 := by decide +kernel
  obtain ⟨e, hdecode, -, -, hbuilt⟩ := decode_withWord img 1 0x1234 hsum (by decide) hword
  rw [hbuilt ⟨_, _, hfits.encode_eq⟩, storedChecksum_withWord (by decide),
    if_neg (by decide)] at hdecode
  exact ⟨img, hfits.encode_eq, hsum, by decide, hword, hdecode⟩

example : ((withChecksum .bm .bytes64 (List.replicate 62 0xFF)).withWord 31 0xFFFF).isBlank := by
  decide +kernel

end Image

end Eeprom

end UsbSerial
