import Mathlib.Algebra.GroupWithZero.Nat
import Mathlib.Data.List.ReduceOption
import UsbSerial.Proofs.Eeprom.Acceptance
import UsbSerial.Proofs.Eeprom.Writer

namespace UsbSerial.Eeprom

open Texts (start)

section Descriptors

structure DescriptorAt (bytes : List UInt8) (address : ℕ) (text : String) : Prop where
  length : (bytes.getD address 0).toNat = 2 * text.length + 2
  type : bytes.getD (address + 1) 0 = 0x03
  low : ∀ j (hj : j < text.toList.length),
    (bytes.getD (address + 2 + 2 * j) 0).toNat = text.toList[j].toNat
  high : ∀ j < text.length, bytes.getD (address + 2 + 2 * j + 1) 0 = 0

def taken (texts : List (Option String)) : ℕ :=
  (texts.reduceOption.map fun text => 2 * text.length + 2).sum

lemma lengths_eq_taken (texts : List (Option String)) : Texts.lengths texts = taken texts := by
  induction texts with
  | nil => rfl
  | cons t texts ih =>
    cases t with
    | none =>
      rw [Texts.lengths, ih, taken, taken, List.reduceOption_cons_of_none]
      exact Nat.zero_add _
    | some text =>
      rw [Texts.lengths, ih, taken, taken, List.reduceOption_cons_of_some, List.map_cons,
        List.sum_cons, Texts.length, String.length_toList]

end Descriptors

namespace Settings

def front (chip : Chip) (s : Settings) : ℕ := start chip % s.size

def needed (chip : Chip) (s : Settings) : ℕ :=
  taken s.texts + if chip = .am ∨ chip = .bm then 0 else 3

structure Proper (chip : Chip) (s : Settings) : Prop where
  size : s.size = 128 ∨ s.size = 256
  size_le : s.size ≤ chip.eepromBytes
  ascii : ∀ text, some text ∈ s.texts → ∀ c ∈ text.toList, c.toNat < 128

/-- The texts one behind the other from the front on, in the order of the table, which points to
them; behind them the block, if the chip has one, and zeros on to the checksum. -/
structure Placed (chip : Chip) (s : Settings) (img : Image) : Prop where
  size : img.size.bytes = s.size
  header : ∀ address < s.front chip, img.bytes.getD address 0 =
    (Header.bytes chip s (Texts.table (start chip) s.texts)).getD address 0
  start_eq : ∀ slot text, s.text slot = some text →
    listedStart img.bytes slot = s.front chip + taken (s.before slot)
  length_eq : ∀ slot text, s.text slot = some text →
    listedLength img.bytes slot = 2 * text.length + 2
  descriptor : ∀ slot text, s.text slot = some text →
    DescriptorAt img.bytes (s.front chip + taken (s.before slot)) text
  block : chip ≠ .am → chip ≠ .bm → ∀ k < 3,
    img.bytes.getD (s.front chip + taken s.texts + k) 0 =
      [0x02, 0x03, if s.notPlugAndPlay then 1 else 0].getD k 0
  room : s.front chip + s.needed chip ≤ s.size - 2
  wrapped : ∀ k < s.needed chip, (start chip + k) &&& img.size.mask = s.front chip + k
  put : (s.described chip img.size).2.position = start chip + s.needed chip
  untouched : ∀ address : Fin 256,
    address < s.front chip ∨ s.front chip + s.needed chip ≤ address →
      (s.described chip img.size).2.buffer.byte address =
        (s.cursor chip img.size).buffer.byte address
  padding : ∀ address, s.front chip + s.needed chip ≤ address → address < s.size - 2 →
    img.bytes.getD address 0 = 0
  checksum : img.storedChecksum = img.checksum
  above : ∀ address (h : address < 256), s.size ≤ address → img.buffer[address] = 0

variable {chip : Chip} {size : Size} {s : Settings}

lemma footprint_eq_needed (chip : Chip) (s : Settings) :
    Texts.footprint chip s.texts = s.needed chip := by
  rw [Texts.footprint, needed, lengths_eq_taken]
  cases chip <;> rfl

lemma isAscii_iff {text : String} : Texts.isAscii text ↔ ∀ c ∈ text.toList, c.toNat < 128 := by
  simp only [Texts.isAscii, List.all_eq_true, decide_eq_true_eq]

lemma ascii_iff : (∀ t ∈ s.texts, t.all Texts.isAscii) ↔
    ∀ text, some text ∈ s.texts → ∀ c ∈ text.toList, c.toNat < 128 := by
  constructor
  · exact fun h text htext => isAscii_iff.mp (h _ htext)
  · intro h t ht
    cases t with
    | none => rfl
    | some text => exact isAscii_iff.mpr (h text ht)

lemma Proper.imageSize?_eq (h : Proper chip s) :
    ∃ size : Size, s.imageSize? chip = some size ∧ size.bytes = s.size := by
  have hle := h.size_le
  unfold imageSize?
  rcases h.size with hsize | hsize
  · rw [hsize]
    exact ⟨.bytes128, rfl, rfl⟩
  · rw [hsize] at hle ⊢
    exact ⟨.bytes256, if_pos hle, rfl⟩

lemma exists_fits_iff :
    (∃ size, Fits chip size s) ↔ Proper chip s ∧ s.front chip + s.needed chip ≤ s.size - 2 := by
  constructor
  · rintro ⟨size, h⟩
    obtain ⟨hbytes, hsize, hle⟩ := imageSize?_eq_some h.size_eq
    have hroom := h.room
    rw [footprint_eq_needed, ← hbytes] at hroom
    refine ⟨⟨?_, hbytes ▸ hle, ascii_iff.mp h.ascii⟩, hroom⟩
    rw [hbytes]
    exact hsize.imp (congrArg Size.bytes) (congrArg Size.bytes)
  · rintro ⟨h, hroom⟩
    obtain ⟨size, hsize, hbytes⟩ := h.imageSize?_eq
    refine ⟨size, hsize, ascii_iff.mpr h.ascii, ?_⟩
    rwa [footprint_eq_needed, hbytes]

lemma Proper.encode_full (h : Proper chip s)
    (hroom : ¬ s.front chip + s.needed chip ≤ s.size - 2) :
    s.encode chip = .error (.eepromFull (s.needed chip) (s.size - 2 - s.front chip)) ∧
      s.size - 2 - s.front chip < s.needed chip := by
  obtain ⟨size, hsize, hbytes⟩ := h.imageSize?_eq
  have hascii : s.texts.all (·.all Texts.isAscii) = true :=
    List.all_eq_true.mpr (ascii_iff.mpr h.ascii)
  have hstart : s.front chip ≤ s.size - 2 := by
    rw [front, ← hbytes]
    exact start_le (imageSize?_eq_some hsize).2.1 chip
  have hlt : s.size - 2 - s.front chip < s.needed chip := by omega
  refine ⟨?_, hlt⟩
  simp only [encode, hsize, hascii, not_true_eq_false, if_false, footprint_eq_needed, hbytes]
  exact if_pos hlt

lemma getD_high (cs : List Char) (k : ℕ) :
    (cs.flatMap fun c => [c.toNat.toUInt8, 0]).getD (2 * k + 1) 0 = 0 := by
  induction cs generalizing k with
  | nil => rfl
  | cons c cs ih =>
    cases k with
    | zero => rfl
    | succ k => exact ih k

lemma block_eq {notPlugAndPlay : Bool} (ham : chip ≠ .am) (hbm : chip ≠ .bm) :
    Texts.block chip notPlugAndPlay = [0x02, 0x03, if notPlugAndPlay then 1 else 0] := by
  have hblock : Texts.hasBlock chip = true := by
    cases chip with
    | am => exact absurd rfl ham
    | bm => exact absurd rfl hbm
    | _ => rfl
  rw [Texts.block, if_pos hblock, flag]

lemma length_block (chip : Chip) (notPlugAndPlay : Bool) :
    (Texts.block chip notPlugAndPlay).length = if chip = .am ∨ chip = .bm then 0 else 3 := by
  cases chip <;> rfl

namespace Fits

variable (h : Fits chip size s)
include h

lemma size_bytes : size.bytes = s.size := (imageSize?_eq_some h.size_eq).1.symm

lemma place_eq (slot : Slot) : place chip size s slot = s.front chip + taken (s.before slot) := by
  rw [place, front, lengths_eq_taken, h.size_bytes]

lemma getD_descriptor {slot : Slot} {text : String} (htext : s.text slot = some text) {k : ℕ}
    (hk : k < 2 * text.length + 2) :
    (s.image chip size).bytes.getD (s.front chip + taken (s.before slot) + k) 0 =
      (Texts.descriptor (some text)).getD k 0 := by
  have hplace := h.place_le slot
  have hlength : Texts.length (s.text slot) = 2 * text.length + 2 := by
    rw [htext, Texts.length, String.length_toList]
  rw [← h.place_eq, Image.getD_bytes _ (by rw [size_image]; omega),
    h.byte_descriptor slot (by omega), htext]

lemma descriptorAt {slot : Slot} {text : String} (htext : s.text slot = some text) :
    DescriptorAt (s.image chip size).bytes (s.front chip + taken (s.before slot)) text := by
  have hplace := h.place_le slot
  have hsize := size.bytes_le
  have hlength : Texts.length (some text) = 2 * text.length + 2 := by
    rw [Texts.length, String.length_toList]
  have hascii := h.text_ascii htext
  rw [htext, hlength] at hplace
  have hcharacter (k : ℕ) (hk : k < 2 * text.length) :
      (s.image chip size).bytes.getD (s.front chip + taken (s.before slot) + 2 + k) 0 =
        (text.toList.flatMap fun c => [c.toNat.toUInt8, 0]).getD k 0 := by
    rw [Nat.add_assoc _ 2, h.getD_descriptor htext (by omega), Nat.add_comm 2]
    rfl
  constructor
  case length =>
    rw [← Nat.add_zero (_ + _), h.getD_descriptor htext (by omega), Texts.descriptor,
      List.getD_cons_zero, hlength, Nat.toUInt8, UInt8.toNat_ofNat']
    exact Nat.mod_eq_of_lt (by omega)
  case type =>
    rw [h.getD_descriptor htext (by omega)]
    rfl
  case low =>
    intro j hj
    have hlow : text.toList[j].toNat < 128 := hascii _ (List.getElem_mem hj)
    rw [hcharacter _ (by rw [← String.length_toList]; omega), getD_characters,
      List.getD_eq_getElem _ _ (by rwa [List.length_map]), List.getElem_map, Nat.toUInt8,
      UInt8.toNat_ofNat']
    exact Nat.mod_eq_of_lt (by omega)
  case high =>
    intro j hj
    rw [Nat.add_assoc _ (2 * j), hcharacter _ (by omega), getD_high]

lemma byte_behind {k : ℕ} (hk : s.front chip + taken s.texts + k < s.size - 2) :
    (s.image chip size).bytes.getD (s.front chip + taken s.texts + k) 0 =
      (Texts.block chip s.notPlugAndPlay).getD k 0 := by
  have hlength : (Texts.descriptors s.texts).length = taken s.texts := by
    rw [length_descriptors, lengths_eq_taken]
  rw [front, ← h.size_bytes, Nat.add_assoc] at hk ⊢
  rw [Image.getD_bytes _ (by rw [size_image]; omega), h.byte_texts hk,
    List.getD_append_right _ _ _ _ (by omega), hlength, Nat.add_sub_cancel_left]

lemma placed : Placed chip s (s.image chip size) := by
  have hroom : s.front chip + s.needed chip ≤ s.size - 2 := (exists_fits_iff.mp ⟨size, h⟩).2
  constructor
  case size => exact h.size_bytes
  case header =>
    intro address hfront
    rw [front, ← h.size_bytes] at hfront
    have hlt : address < size.bytes := Nat.lt_trans hfront (Nat.mod_lt _ size.bytes_pos)
    rw [Image.getD_bytes _ (by rwa [size_image]), h.byte_header hfront]
  case room => exact hroom
  case wrapped =>
    intro k hk
    rw [Size.and_mask, size_image, h.size_bytes, ← Nat.mod_add_mod]
    exact Nat.mod_eq_of_lt (by rw [front] at hroom; omega)
  case put =>
    rw [size_image, ← footprint_eq_needed]
    exact position_described h
  case untouched =>
    intro address hout
    rw [front, ← h.size_bytes, ← footprint_eq_needed] at hout
    exact byte_described h hout
  case start_eq =>
    intro slot text _
    rw [← Texts.pointer_eq_listed, h.pointer_eq, h.place_eq]
  case length_eq =>
    intro slot text htext
    rw [← Texts.lengthByte_eq_listed, h.lengthByte_eq, htext, Texts.length, String.length_toList]
  case descriptor => exact fun slot text => h.descriptorAt
  case block =>
    intro ham hbm k hk
    rw [needed, if_neg (not_or.mpr ⟨ham, hbm⟩)] at hroom
    rw [h.byte_behind (by omega), block_eq ham hbm]
  case padding =>
    intro address hbehind hbefore
    obtain ⟨k, rfl⟩ := Nat.exists_eq_add_of_le hbehind
    rw [needed, ← Nat.add_assoc, Nat.add_assoc _ _ k] at hbefore ⊢
    rw [h.byte_behind hbefore, List.getD_eq_default _ _ (by rw [length_block]; omega)]
  case above =>
    intro address hlt habove
    rw [← h.size_bytes] at habove
    exact Image.buffer_withChecksum _ hlt habove
  case checksum =>
    exact (Image.storedChecksum_withChecksum _).trans (Image.checksum_withChecksum _).symm

end Fits

/-- Settings are written just when their texts fit, and then every part of them is in its place. -/
theorem write_outcome (chip : Chip) (s : Settings) :
    ((∃ img, s.write chip = .ok img) ↔
        Proper chip s ∧ s.front chip + s.needed chip ≤ s.size - 2) ∧
      (Proper chip s → s.size - 2 < s.front chip + s.needed chip →
        s.write chip = .error (.eepromFull (s.needed chip) (s.size - 2 - s.front chip)) ∧
          s.size - 2 - s.front chip < s.needed chip) ∧
      (∀ img, s.write chip = .ok img → Placed chip s img) ∧
      s.write chip = s.encode chip := by
  rw [write_eq_encode]
  refine ⟨?_, fun h hroom => h.encode_full (Nat.not_le_of_lt hroom), ?_, rfl⟩
  · rw [← exists_fits_iff]
    constructor
    · rintro ⟨img, himg⟩
      obtain ⟨size, h, -⟩ := fits_of_encode himg
      exact ⟨size, h⟩
    · rintro ⟨size, h⟩
      exact ⟨_, h.encode_eq⟩
  · intro img himg
    obtain ⟨size, h, rfl⟩ := fits_of_encode himg
    exact h.placed

theorem write_outcome_filled :
    let filled : Settings := { manufacturerText := some (String.ofList (List.replicate 52 'y')) }
    let longer : Settings := { manufacturerText := some (String.ofList (List.replicate 53 'y')) }
    (∃ img, filled.write .bm = .ok img ∧ Placed .bm filled img) ∧
      longer.write .bm = .error (.eepromFull 108 106) := by
  intro filled longer
  have hfilled : Proper .bm filled := ⟨by decide, by decide, ascii_iff.mp (by decide)⟩
  have hlonger : Proper .bm longer := ⟨by decide, by decide, ascii_iff.mp (by decide)⟩
  obtain ⟨hwrites, -, hplaced, -⟩ := write_outcome .bm filled
  obtain ⟨img, himg⟩ := hwrites.mpr ⟨hfilled, by decide⟩
  obtain ⟨herror, -⟩ := (write_outcome .bm longer).2.1 hlonger (by decide)
  have hneeded : needed .bm longer = 108 := by decide
  have havailable : longer.size - 2 - front .bm longer = 106 := by decide
  rw [hneeded, havailable] at herror
  exact ⟨⟨img, himg, hplaced img himg⟩, herror⟩

end Settings

end UsbSerial.Eeprom
