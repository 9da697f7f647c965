import Mathlib.Data.List.GetD
import UsbSerial.Eeprom.Codec
import UsbSerial.Proofs.Eeprom.Layout

namespace UsbSerial.Eeprom

open Texts (start table descriptor descriptors block footprint hasBlock length lengths)

namespace Settings

def text (s : Settings) : Slot → Option String
  | .manufacturer => s.manufacturerText
  | .product => s.productText
  | .serial => s.serialText

def before (s : Settings) : Slot → List (Option String)
  | .manufacturer => []
  | .product => [s.manufacturerText]
  | .serial => [s.manufacturerText, s.productText]

def after (s : Settings) : Slot → List (Option String)
  | .manufacturer => [s.productText, s.serialText]
  | .product => [s.serialText]
  | .serial => []

lemma texts_eq (s : Settings) (slot : Slot) :
    s.texts = s.before slot ++ s.text slot :: s.after slot := by
  cases slot <;> rfl

structure Fits (chip : Chip) (size : Size) (s : Settings) : Prop where
  size_eq : s.imageSize? chip = some size
  ascii : ∀ t ∈ s.texts, t.all Texts.isAscii
  room : start chip % size.bytes + footprint chip s.texts ≤ size.bytes - 2

def image (chip : Chip) (size : Size) (s : Settings) : Image :=
  Image.withChecksum chip size (s.body chip size)

@[simp] lemma chip_image (chip : Chip) (size : Size) (s : Settings) :
    (s.image chip size).chip = chip := rfl

@[simp] lemma size_image (chip : Chip) (size : Size) (s : Settings) :
    (s.image chip size).size = size := rfl

lemma imageSize?_eq_some {chip : Chip} {size : Size} {s : Settings}
    (h : s.imageSize? chip = some size) :
    s.size = size.bytes ∧ (size = .bytes128 ∨ size = .bytes256) ∧
      size.bytes ≤ chip.eepromBytes := by
  unfold imageSize? at h
  split at h
  · obtain rfl := Option.some.inj h
    exact ⟨‹_›, Or.inl rfl, by cases chip <;> decide⟩
  · split_ifs at h with hc
    obtain rfl := Option.some.inj h
    exact ⟨‹_›, Or.inr rfl, hc⟩
  · cases h

lemma start_le {size : Size} (h : size = .bytes128 ∨ size = .bytes256) (chip : Chip) :
    start chip % size.bytes ≤ size.bytes - 2 := by
  rcases h with rfl | rfl <;> cases chip <;> decide

lemma Fits.encode_eq {chip : Chip} {size : Size} {s : Settings} (h : Fits chip size s) :
    s.encode chip = .ok (s.image chip size) := by
  have ha : s.texts.all (·.all Texts.isAscii) = true := List.all_eq_true.mpr h.ascii
  have hr : ¬ size.bytes - 2 - start chip % size.bytes < footprint chip s.texts := by
    have := h.room
    omega
  simp only [encode, h.size_eq, ha, not_true_eq_false, if_false, if_neg hr]
  rfl

lemma fits_of_encode {chip : Chip} {s : Settings} {img : Image} (h : s.encode chip = .ok img) :
    ∃ size, Fits chip size s ∧ img = s.image chip size := by
  unfold encode at h
  cases hs : s.imageSize? chip with
  | none => simp only [hs, reduceCtorEq] at h
  | some size =>
    have hstart := start_le (imageSize?_eq_some hs).2.1 chip
    simp only [hs] at h
    split_ifs at h with ha hr
    refine ⟨size, ⟨hs, List.all_eq_true.mp ha, by omega⟩, ?_⟩
    exact (Except.ok.inj h).symm

def place (chip : Chip) (size : Size) (s : Settings) (slot : Slot) : ℕ :=
  start chip % size.bytes + lengths (s.before slot)

lemma length_header (chip : Chip) (s : Settings) (address : ℕ) :
    (Header.bytes chip s (table address s.texts)).length = 0x14 + (Header.tail chip s).length := by
  cases chip <;> rfl

lemma getD_header_pointer (chip : Chip) (s : Settings) (address : ℕ) (slot : Slot) :
    (Header.bytes chip s (table address s.texts)).getD
        (Header.tableStart + 2 * Texts.slotIndex slot) 0 =
      (address + lengths (s.before slot)).toUInt8 := by
  cases slot with
  | manufacturer => cases chip <;> rfl
  | product => cases chip <;> rfl
  | serial =>
    simp only [before, lengths, Nat.add_zero, ← Nat.add_assoc]
    cases chip <;> rfl

lemma getD_header_length (chip : Chip) (s : Settings) (address : ℕ) (slot : Slot) :
    (Header.bytes chip s (table address s.texts)).getD
        (Header.tableStart + 2 * Texts.slotIndex slot + 1) 0 = (length (s.text slot)).toUInt8 := by
  cases slot <;> cases chip <;> rfl

lemma length_descriptor (t : Option String) : (descriptor t).length = length t := by
  cases t with
  | none => rfl
  | some s =>
    simp only [descriptor, length, List.length_cons, List.length_flatMap, List.length_nil,
      List.map_const', List.sum_replicate_nat]
    omega

lemma length_descriptors (texts : List (Option String)) :
    (descriptors texts).length = lengths texts := by
  induction texts with
  | nil => rfl
  | cons t texts ih =>
    rw [lengths, ← ih, ← length_descriptor t, ← List.length_append]
    rfl

lemma lengths_append (texts more : List (Option String)) :
    lengths (texts ++ more) = lengths texts + lengths more := by
  induction texts with
  | nil => exact (Nat.zero_add _).symm
  | cons t texts ih => rw [List.cons_append, lengths, lengths, ih, Nat.add_assoc]

lemma lengths_texts (s : Settings) (slot : Slot) : lengths s.texts =
    lengths (s.before slot) + length (s.text slot) + lengths (s.after slot) := by
  rw [texts_eq s slot, lengths_append, lengths, Nat.add_assoc]

namespace Fits

variable {chip : Chip} {size : Size} {s : Settings} (h : Fits chip size s)
include h

lemma header_le : (Header.bytes chip s (table (start chip) s.texts)).length ≤
    start chip % size.bytes := by
  rw [length_header]
  obtain ⟨-, rfl | rfl, -⟩ := imageSize?_eq_some h.size_eq <;> cases chip <;>
    simp [Header.tail, start, Size.bytes]

lemma byte_header {address : ℕ} (ha : address < start chip % size.bytes) :
    (s.image chip size).byte address =
      (Header.bytes chip s (table (start chip) s.texts)).getD address 0 := by
  have hstart := start_le (imageSize?_eq_some h.size_eq).2.1 chip
  have hpad : start chip % size.bytes ≤ ((Header.bytes chip s (table (start chip) s.texts)).rightpad
      (start chip % size.bytes) 0).length := by
    simp only [List.rightpad, List.length_append, List.length_replicate]
    omega
  rw [image, Image.byte_withChecksum _ (by omega), body, List.append_assoc,
    List.getD_append _ _ _ _ (by omega), getD_rightpad]

lemma byte_texts {k : ℕ} (hk : start chip % size.bytes + k < size.bytes - 2) :
    (s.image chip size).byte (start chip % size.bytes + k) =
      (descriptors s.texts ++ block chip s.notPlugAndPlay).getD k 0 := by
  have hlen := h.header_le
  have hpad : ((Header.bytes chip s (table (start chip) s.texts)).rightpad
      (start chip % size.bytes) 0).length = start chip % size.bytes := by
    simp only [List.rightpad, List.length_append, List.length_replicate]
    omega
  rw [image, Image.byte_withChecksum _ hk, body, List.append_assoc,
    List.getD_append_right _ _ _ _ (by omega), hpad]
  congr 1
  omega

lemma place_le (slot : Slot) : place chip size s slot + length (s.text slot) +
    lengths (s.after slot) + (if hasBlock chip then 3 else 0) ≤ size.bytes - 2 := by
  have := h.room
  rw [footprint, lengths_texts s slot] at this
  simp only [place]
  omega

lemma table_lt (slot : Slot) :
    Header.tableStart + 2 * Texts.slotIndex slot + 1 < start chip % size.bytes := by
  have hlen := h.header_le
  rw [length_header] at hlen
  have hslot : Header.tableStart + 2 * Texts.slotIndex slot + 1 < 0x14 := by
    cases slot <;> decide
  omega

lemma pointer_eq (slot : Slot) :
    Texts.pointer (s.image chip size) slot = place chip size s slot := by
  -- The table holds whole addresses, of which only what is left in the image's size counts.
  have hplace := h.place_le slot
  have htable := h.table_lt slot
  have hpos := size.bytes_pos
  have hdvd : size.bytes ∣ 2 ^ 8 := by cases size <;> decide
  rw [Texts.pointer, h.byte_header (by omega), getD_header_pointer, Nat.toUInt8,
    UInt8.toNat_ofNat', size_image, Nat.mod_mod_of_dvd _ hdvd,
    ← Nat.mod_add_mod]
  exact Nat.mod_eq_of_lt (by simp only [place] at hplace; omega)

lemma lengthByte_eq (slot : Slot) :
    Texts.lengthByte (s.image chip size) slot = length (s.text slot) := by
  have hplace := h.place_le slot
  have hsize := size.bytes_le
  rw [Texts.lengthByte, h.byte_header (h.table_lt slot), getD_header_length, Nat.toUInt8,
    UInt8.toNat_ofNat']
  exact Nat.mod_eq_of_lt (by omega)

lemma byte_descriptor (slot : Slot) {k : ℕ} (hk : k < length (s.text slot)) :
    (s.image chip size).byte (place chip size s slot + k) =
      (descriptor (s.text slot)).getD k 0 := by
  have hplace := h.place_le slot
  have hsum : (descriptors (s.before slot)).length = lengths (s.before slot) :=
    length_descriptors _
  have htexts : descriptors s.texts =
      descriptors (s.before slot) ++ (descriptor (s.text slot) ++ descriptors (s.after slot)) := by
    rw [texts_eq s slot]
    simp only [descriptors, List.flatMap_append, List.flatMap_cons]
  rw [place, Nat.add_assoc, h.byte_texts (by simp only [place] at hplace; omega), htexts,
    List.append_assoc, List.getD_append_right _ _ _ _ (by omega), List.append_assoc,
    List.getD_append _ _ _ _ (by rw [length_descriptor]; omega), hsum, Nat.add_sub_cancel_left]

lemma text_ascii {slot : Slot} {text : String} (ht : s.text slot = some text) :
    ∀ c ∈ text.toList, c.toNat < 128 := by
  have hmem : some text ∈ s.texts := by
    rw [texts_eq s slot, ht]
    exact List.mem_append_right _ List.mem_cons_self
  have hascii := h.ascii _ hmem
  simpa only [Option.all_some, Texts.isAscii, List.all_eq_true, decide_eq_true_eq] using hascii

end Fits

lemma getD_characters (cs : List Char) (k : ℕ) :
    (cs.flatMap fun c => [c.toNat.toUInt8, 0]).getD (2 * k) 0 =
      (cs.map fun c => c.toNat.toUInt8).getD k 0 := by
  induction cs generalizing k with
  | nil => rfl
  | cons c cs ih =>
    cases k with
    | zero => rfl
    | succ k => exact ih k

lemma ofNat_toUInt8 {c : Char} (h : c.toNat < 128) : Char.ofNat c.toNat.toUInt8.toNat = c := by
  rw [Nat.toUInt8, UInt8.toNat_ofNat', Nat.mod_eq_of_lt (by omega), Char.ofNat_toNat]

lemma Fits.characters_eq {chip : Chip} {size : Size} {s : Settings} (h : Fits chip size s)
    {slot : Slot} {text : String} (ht : s.text slot = some text) :
    Texts.characters (s.image chip size) (place chip size s slot + 2) text.toList.length =
      text.toList := by
  apply List.ext_getElem
  · simp only [Texts.characters, List.length_map, List.length_range]
  · intro k _ hk
    have hbyte : (s.image chip size).byte (place chip size s slot + 2 + 2 * k) =
        text.toList[k].toNat.toUInt8 := by
      have hroom : 2 * k + 2 < length (s.text slot) := by
        simp only [ht, length]
        omega
      rw [Nat.add_assoc, Nat.add_comm 2, h.byte_descriptor slot hroom, ht, descriptor,
        List.getD_cons_succ, List.getD_cons_succ, getD_characters]
      simp only [List.getD_eq_getElem?_getD, List.getElem?_map, List.getElem?_eq_getElem hk,
        Option.map_some, Option.getD_some]
    simp only [Texts.characters, List.getElem_map, List.getElem_range, hbyte]
    exact ofNat_toUInt8 (h.text_ascii ht _ (List.getElem_mem hk))

lemma Fits.read_eq {chip : Chip} {size : Size} {s : Settings} (h : Fits chip size s) (slot : Slot) :
    Texts.read (s.image chip size) slot = .ok (s.text slot) := by
  have hplace := h.place_le slot
  have hsize := size.bytes_le
  rw [Texts.read, h.lengthByte_eq, h.pointer_eq]
  cases ht : s.text slot with
  | none => rfl
  | some text =>
    have hlen : length (some text) = 2 * text.toList.length + 2 := rfl
    rw [ht] at hplace
    have hfirst := h.byte_descriptor slot (k := 0) (by rw [ht]; omega)
    have hsecond := h.byte_descriptor slot (k := 1) (by rw [ht]; omega)
    rw [ht, descriptor, Nat.add_zero, List.getD_cons_zero] at hfirst
    rw [ht, descriptor, List.getD_cons_succ, List.getD_cons_zero] at hsecond
    have hbyte : (length (some text)).toUInt8.toNat = length (some text) := by
      rw [Nat.toUInt8, UInt8.toNat_ofNat', Nat.mod_eq_of_lt (by omega)]
    have hcount : (length (some text) - 2) / 2 = text.toList.length := by omega
    have hbad : ¬ (length (some text) < 2 ∨ length (some text) % 2 ≠ 0 ∨
        (s.image chip size).size.bytes - 2 < length (some text)) := by
      rw [size_image]
      omega
    simp only [hfirst, hsecond, hbyte, hcount, if_neg hbad, ne_eq, not_true_eq_false, or_self,
      if_false, h.characters_eq ht, String.ofList_toList]
    rw [if_neg (by omega)]

lemma Fits.blockStart_eq {chip : Chip} {size : Size} {s : Settings} (h : Fits chip size s) :
    Texts.blockStart (s.image chip size) =
      start chip % size.bytes + lengths s.texts := by
  -- Descriptors follow each other, so that the furthest end is that of them all.
  have hm : place chip size s .manufacturer = start chip % size.bytes := rfl
  have hp : place chip size s .product =
      start chip % size.bytes + length s.manufacturerText := rfl
  have hr : place chip size s .serial =
      start chip % size.bytes + (length s.manufacturerText + length s.productText) := rfl
  have hsum : lengths s.texts =
      length s.manufacturerText + (length s.productText + length s.serialText) := rfl
  simp only [Texts.blockStart, h.pointer_eq, h.lengthByte_eq, chip_image, size_image]
  -- A missing text has no end of its own, hence a case for each choice of texts.
  by_cases h₁ : length s.manufacturerText = 0 <;> by_cases h₂ : length s.productText = 0 <;>
    by_cases h₃ : length s.serialText = 0 <;>
      simp only [List.filterMap_cons, List.filterMap_nil, text, hm, hp, hr, hsum, h₁, h₂, h₃,
        if_true, if_false, List.max?_cons, List.max?_nil, Option.elim_some, Option.elim_none,
        Option.getD_some, Option.getD_none] <;> omega

lemma Fits.readNotPlugAndPlay_eq {chip : Chip} {size : Size} {s : Settings}
    (h : Fits chip size s) :
    Texts.readNotPlugAndPlay (s.image chip size) = (hasBlock chip && s.notPlugAndPlay) := by
  rw [Texts.readNotPlugAndPlay, chip_image, h.blockStart_eq]
  cases hb : hasBlock chip with
  | false => rw [Bool.false_and, Bool.false_and]
  | true =>
    have hroom := h.room
    simp only [footprint, hb, if_true] at hroom
    have hflag : (s.image chip size).byte
        (start chip % size.bytes + (lengths s.texts + 2)) = flag 1 s.notPlugAndPlay := by
      rw [h.byte_texts (by omega), List.getD_append_right _ _ _ _
        (by rw [length_descriptors]; omega), length_descriptors, Nat.add_sub_cancel_left, block,
        if_pos hb]
      rfl
    rw [Nat.add_assoc, hflag]
    cases s.notPlugAndPlay <;> rfl

end Settings

end UsbSerial.Eeprom
