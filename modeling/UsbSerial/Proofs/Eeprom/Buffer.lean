import UsbSerial.Eeprom.InPlace
import UsbSerial.Proofs.Eeprom.Layout

namespace UsbSerial.Eeprom

lemma Size.le_bytes (s : Size) : 64 ≤ s.bytes := by cases s <;> decide

lemma Size.and_mask (s : Size) (n : ℕ) : n &&& s.mask = n % s.bytes := by
  cases s with
  | bytes64 => exact Nat.and_two_pow_sub_one_eq_mod n 6
  | bytes128 => exact Nat.and_two_pow_sub_one_eq_mod n 7
  | bytes256 => exact Nat.and_two_pow_sub_one_eq_mod n 8

namespace Buffer

lemma getD_zeros (n k : ℕ) : (List.replicate n (0 : UInt8)).getD k 0 = 0 := by
  rw [List.getD_eq_getElem?_getD, List.getElem?_getD_replicate_default_eq]

lemma list_zeros : zeros.list = List.replicate 256 0 := rfl

lemma length_list (b : Buffer) : b.list.length = 256 := Vector.length_toList

lemma list_put (address : Fin 256) (byte : UInt8) (b : Buffer) :
    (b.put address byte).list = b.list.set address byte := Vector.toList_set _

lemma byte_eq_getD (b : Buffer) (address : Fin 256) :
    b.byte address = b.list.getD address 0 := by
  have hlt : address.val < b.list.length := by rw [length_list]; exact address.isLt
  rw [List.getD_eq_getElem _ _ hlt]
  rfl

lemma list_mark (address : Fin 256) (mask : UInt8) (on : Bool) (b : Buffer) :
    (b.mark address mask on).list =
      b.list.set address (b.list.getD address 0 ||| flag mask on) := by
  have hlt : address.val < b.list.length := by rw [length_list]; exact address.isLt
  cases on with
  | true =>
    rw [mark, if_pos rfl, list_put, byte_eq_getD]
    rfl
  | false =>
    rw [mark, if_neg (by decide), flag, if_neg (by decide), UInt8.or_zero,
      List.getD_eq_getElem _ _ hlt, List.set_getElem_self]

def Starts (front rest : List UInt8) (b : Buffer) : Prop := b.list = front ++ rest

variable {b : Buffer} {front rest : List UInt8}

lemma Starts.regroup {more : List UInt8} (h : Starts (front ++ more) rest b) :
    Starts front (more ++ rest) b := by rw [Starts, h, List.append_assoc]

lemma Starts.put (h : Starts front rest b) (address : Fin 256)
    (hlt : Nat.blt address front.length = true) (byte : UInt8) :
    Starts (front.set address byte) rest (b.put address byte) := by
  rw [Nat.blt_eq] at hlt
  rw [Starts, list_put, h, List.set_append_left _ _ hlt]

lemma Starts.mark (h : Starts front rest b) (address : Fin 256)
    (hlt : Nat.blt address front.length = true) (mask : UInt8) (on : Bool) :
    Starts (front.set address (front.getD address 0 ||| flag mask on)) rest
      (b.mark address mask on) := by
  rw [Nat.blt_eq] at hlt
  rw [Starts, list_mark, h, List.set_append_left _ _ hlt, List.getD_append _ _ _ _ hlt]

lemma Starts.putWord (h : Starts front rest b) (address : Fin 128)
    (hlt : Nat.blt (2 * address + 1) front.length = true) (w : UInt16) :
    Starts ((front.set (2 * address) (Word.low w)).set (2 * address + 1) (Word.high w)) rest
      (b.putWord address w) := by
  rw [Nat.blt_eq] at hlt
  refine (h.put _ ?_ _).put _ ?_ _
  · rw [Nat.blt_eq]
    exact Nat.lt_of_succ_lt hlt
  · rw [Nat.blt_eq, List.length_set]
    exact hlt

lemma Starts.put_next {x : UInt8} (h : Starts front (x :: rest) b) (address : Fin 256)
    (hplace : address.val = front.length) (byte : UInt8) :
    Starts (front ++ [byte]) rest (b.put address byte) := by
  rw [Starts, list_put, h, hplace, List.set_append_right _ _ (Nat.le_refl _), Nat.sub_self,
    List.set_cons_zero, List.append_assoc]
  rfl

lemma Starts.putWord_next {x y : UInt8} (h : Starts front (x :: y :: rest) b) (address : Fin 128)
    (hplace : 2 * address.val = front.length) (w : UInt16) :
    Starts (front ++ Word.bytes w) rest (b.putWord address w) := by
  have hlow := h.put_next ⟨2 * address, by omega⟩ hplace (Word.low w)
  have hhigh := hlow.put_next ⟨2 * address + 1, by omega⟩ (by
    rw [List.length_append, List.length_singleton, ← hplace]) (Word.high w)
  rwa [List.append_assoc] at hhigh

lemma Starts.image (chip : Chip) (size : Size) {n : ℕ} (h : Starts front (List.replicate n 0) b) :
    ({ chip, size, buffer := b } : Image) = Image.ofList chip size front := by
  have hlist : b.list = List.ofFn fun i : Fin 256 => front.getD i 0 := by
    apply List.ext_getElem
    · rw [length_list, List.length_ofFn]
    · intro k hk _
      rw [List.getElem_ofFn, ← List.getD_eq_getElem _ 0 hk, h]
      rcases Nat.lt_or_ge k front.length with hlt | hge
      · exact List.getD_append _ _ _ _ hlt
      · rw [List.getD_append_right _ _ _ _ hge, List.getD_eq_default _ _ hge, getD_zeros]
  have hbuffer : b = Vector.ofFn fun i => front.getD i 0 :=
    Vector.toList_inj.mp (hlist.trans Vector.toList_ofFn.symm)
  rw [Image.ofList, hbuffer]

end Buffer

namespace Image

section Raw

variable (img : Image)

lemma byte_raw {address : ℕ} (h : address < img.size.bytes) (hlt : address < 256) :
    img.raw.byte ⟨address, hlt⟩ = img.byte address := by
  simp only [byte, Nat.mod_eq_of_lt h]
  rfl

lemma byte_raw_front {address : ℕ} (h : address < 64) (hlt : address < 256) :
    img.raw.byte ⟨address, hlt⟩ = img.byte address :=
  img.byte_raw (Nat.lt_of_lt_of_le h img.size.le_bytes) hlt

lemma wrapped_raw (address : ℕ) : img.raw.wrapped img.size address = img.byte address := by
  simp only [Buffer.wrapped, Size.and_mask]
  rfl

lemma word_raw {k : ℕ} (h : k < img.size.words) (hlt : 2 * k < 255) :
    img.raw.word ⟨2 * k, hlt⟩ = img.word k := by
  have hsize := img.size.two_mul_words
  have hlow : 2 * k < img.size.bytes := by omega
  have hhigh : 2 * k + 1 < img.size.bytes := by omega
  rw [Buffer.word, byte_raw img hlow, byte_raw img hhigh, word]

lemma storedChecksum_raw : img.raw.storedChecksum img.size = img.storedChecksum := by
  have hwords : img.size.words - 1 < img.size.words := by cases img.size <;> decide
  exact img.word_raw hwords _

lemma sumFrom_words (sum : UInt16) (words : List UInt16) :
    Buffer.sumFrom sum (words.flatMap Word.bytes) =
      words.foldl (fun sum w => Word.rotateLeft (sum ^^^ w)) sum := by
  induction words generalizing sum with
  | nil => rfl
  | cons w words ih =>
    rw [List.flatMap_cons, Word.bytes, List.cons_append, List.cons_append, List.nil_append,
      Buffer.sumFrom, Word.ofBytes_low_high, ih, List.foldl_cons]

lemma length_flatMap_bytes (words : List UInt16) :
    (words.flatMap Word.bytes).length = 2 * words.length := by
  induction words with
  | nil => rfl
  | cons w words ih =>
    rw [List.flatMap_cons, List.length_append, ih, List.length_cons, Nat.mul_succ, Nat.add_comm]
    rfl

lemma take_raw : img.raw.list.take (img.size.bytes - 2) =
    (img.words.take (img.size.words - 1)).flatMap Word.bytes := by
  have hsize := img.size.bytes_eq
  have hbytes : img.raw.list.take (img.size.bytes - 2) = img.bytes.take (img.size.bytes - 2) := by
    rw [bytes, List.take_take, Nat.min_eq_left (Nat.sub_le _ _)]
    rfl
  have hwords : (img.words.take (img.size.words - 1)).length = img.size.words - 1 := by
    rw [List.length_take, words, List.length_map, List.length_range,
      Nat.min_eq_left (Nat.sub_le _ 1)]
  have hsplit : img.bytes = (img.words.take (img.size.words - 1)).flatMap Word.bytes ++
      (img.words.drop (img.size.words - 1)).flatMap Word.bytes := by
    rw [← List.flatMap_append, List.take_append_drop, flatMap_words]
  rw [hbytes, hsplit]
  exact List.take_left' (by rw [length_flatMap_bytes, hwords]; omega)

lemma checksum_raw : img.raw.checksum img.size = img.checksum := by
  rw [Buffer.checksum, take_raw, sumFrom_words, checksum, checksumOf]

end Raw

end Image

end UsbSerial.Eeprom
