import Mathlib.Order.WellFounded
import UsbSerial.Proofs.Eeprom.Alike
import UsbSerial.Proofs.Eeprom.Texts

namespace UsbSerial.Eeprom

section Listed

variable (bytes : List UInt8)

def wrapped (address : ℕ) : UInt8 := bytes.getD (address % bytes.length) 0

def entry : Slot → ℕ
  | .manufacturer => 0x0E
  | .product => 0x10
  | .serial => 0x12

def listedStart (slot : Slot) : ℕ := (bytes.getD (entry slot) 0).toNat % bytes.length

def listedLength (slot : Slot) : ℕ := (bytes.getD (entry slot + 1) 0).toNat

def LengthSound (slot : Slot) : Prop :=
  listedLength bytes slot % 2 = 0 ∧ 2 ≤ listedLength bytes slot ∧
    listedLength bytes slot ≤ bytes.length - 2

instance (slot : Slot) : Decidable (LengthSound bytes slot) := inferInstanceAs (Decidable (_ ∧ _))

def StartSound (slot : Slot) : Prop :=
  (wrapped bytes (listedStart bytes slot)).toNat = listedLength bytes slot ∧
    wrapped bytes (listedStart bytes slot + 1) = 0x03

instance (slot : Slot) : Decidable (StartSound bytes slot) := inferInstanceAs (Decidable (_ ∧ _))

def SlotSound (slot : Slot) : Prop :=
  listedLength bytes slot = 0 ∨ LengthSound bytes slot ∧ StartSound bytes slot

instance (slot : Slot) : Decidable (SlotSound bytes slot) := inferInstanceAs (Decidable (_ ∨ _))

def listedCharacters (slot : Slot) : List Char :=
  (List.range ((listedLength bytes slot - 2) / 2)).map fun j =>
    Char.ofNat (wrapped bytes (listedStart bytes slot + 2 + 2 * j)).toNat

def listedText (slot : Slot) : Option String :=
  if listedLength bytes slot = 0 then none else some (String.ofList (listedCharacters bytes slot))

def slotFault (slot : Slot) : ImageFault :=
  if LengthSound bytes slot then .descriptor slot (listedStart bytes slot)
  else .textLength slot (listedLength bytes slot)

lemma exists_first_unsound {bytes : List UInt8} (h : ∃ slot, ¬ SlotSound bytes slot) :
    ∃ slot, ¬ SlotSound bytes slot ∧
      ∀ other, entry other < entry slot → SlotSound bytes other := by
  obtain ⟨slot, hslot, hfirst⟩ := (measure entry).wf.has_min {slot | ¬ SlotSound bytes slot} h
  exact ⟨slot, hslot, fun other hbefore => not_not.mp fun hother => hfirst other hother hbefore⟩

end Listed

namespace Texts

variable (img : Image) (slot : Slot)

lemma wrapped_bytes (address : ℕ) : wrapped img.bytes address = img.byte address := by
  rw [wrapped, Image.length_bytes, Image.getD_bytes _ (Nat.mod_lt _ img.size.bytes_pos),
    Image.byte_mod]

lemma entry_lt : entry slot + 1 < img.size.bytes := by
  cases slot <;> cases img.size <;> decide

lemma entry_eq : Header.tableStart + 2 * slotIndex slot = entry slot := by cases slot <;> rfl

lemma pointer_eq_listed : pointer img slot = listedStart img.bytes slot := by
  have hlt := entry_lt img slot
  rw [pointer, entry_eq, listedStart, Image.length_bytes, Image.getD_bytes _ (by omega)]

lemma lengthByte_eq_listed : lengthByte img slot = listedLength img.bytes slot := by
  rw [lengthByte, entry_eq, listedLength, Image.getD_bytes _ (entry_lt img slot)]

lemma characters_eq_listed :
    characters img (pointer img slot + 2) ((lengthByte img slot - 2) / 2) =
      listedCharacters img.bytes slot := by
  simp only [characters, listedCharacters, pointer_eq_listed, lengthByte_eq_listed, wrapped_bytes]

lemma lengthSound_iff : LengthSound img.bytes slot ↔ ¬ (lengthByte img slot < 2 ∨
    lengthByte img slot % 2 ≠ 0 ∨ img.size.bytes - 2 < lengthByte img slot) := by
  rw [LengthSound, ← lengthByte_eq_listed, Image.length_bytes]
  omega

lemma startSound_iff : StartSound img.bytes slot ↔
    ¬ ((img.byte (pointer img slot)).toNat ≠ lengthByte img slot ∨
      img.byte (pointer img slot + 1) ≠ descriptorType) := by
  rw [StartSound, wrapped_bytes, wrapped_bytes, pointer_eq_listed, lengthByte_eq_listed, not_or,
    not_not, not_not]
  rfl

variable {img slot}

lemma read_of_sound (h : SlotSound img.bytes slot) :
    read img slot = .ok (listedText img.bytes slot) := by
  rw [SlotSound, ← lengthByte_eq_listed, lengthSound_iff, startSound_iff] at h
  rw [read, listedText, ← lengthByte_eq_listed, characters_eq_listed]
  by_cases hzero : lengthByte img slot = 0
  · rw [if_pos hzero, if_pos hzero]
  · obtain ⟨hlength, hstart⟩ := h.resolve_left hzero
    rw [if_neg hzero, if_neg hlength, if_neg hstart, if_neg hzero]

lemma read_of_unsound (h : ¬ SlotSound img.bytes slot) :
    read img slot = .error (slotFault img.bytes slot) := by
  obtain ⟨hzero, hunsound⟩ := not_or.mp h
  rw [← lengthByte_eq_listed] at hzero
  rw [read, if_neg hzero, slotFault, ← lengthByte_eq_listed, ← pointer_eq_listed]
  by_cases hlength : LengthSound img.bytes slot
  · have hstart : ¬ StartSound img.bytes slot := fun hstart => hunsound ⟨hlength, hstart⟩
    rw [if_pos hlength]
    rw [lengthSound_iff] at hlength
    rw [startSound_iff, not_not] at hstart
    rw [if_neg hlength, if_pos hstart]
  · rw [if_neg hlength]
    rw [lengthSound_iff, not_not] at hlength
    rw [if_pos hlength]

end Texts

namespace Image

variable {img : Image}

lemma readSettings_of_sound (h : ∀ slot, SlotSound img.bytes slot) :
    ∃ s, img.readSettings = .ok s ∧ ∀ slot, s.text slot = listedText img.bytes slot := by
  simp only [readSettings, Texts.read_of_sound (h _)]
  refine ⟨_, rfl, fun slot => ?_⟩
  cases slot <;> rfl

lemma readSettings_of_unsound {slot : Slot} (h : ¬ SlotSound img.bytes slot)
    (hbefore : ∀ other, entry other < entry slot → SlotSound img.bytes other) :
    img.readSettings = .error (slotFault img.bytes slot) := by
  rw [readSettings]
  cases slot with
  | manufacturer =>
    rw [Texts.read_of_unsound h]
    rfl
  | product =>
    rw [Texts.read_of_sound (hbefore .manufacturer (by decide)), Texts.read_of_unsound h]
    rfl
  | serial =>
    rw [Texts.read_of_sound (hbefore .manufacturer (by decide)),
      Texts.read_of_sound (hbefore .product (by decide)), Texts.read_of_unsound h]
    rfl

lemma decode_of_sound (hset : ∃ b ∈ img.bytes, b ≠ 0xFF)
    (hsum : img.storedChecksum = img.checksum) (h : ∀ slot, SlotSound img.bytes slot) :
    ∃ s, img.decode = .ok { image := img, settings := s } ∧
      ∀ slot, s.text slot = listedText img.bytes slot := by
  obtain ⟨s, hread, htext⟩ := readSettings_of_sound h
  refine ⟨s, ?_, htext⟩
  rw [decode_of_checksum_eq (isBlank_eq_false_iff.mpr hset) hsum.symm, hread]
  rfl

lemma decode_of_unsound (hset : ∃ b ∈ img.bytes, b ≠ 0xFF)
    (hsum : img.storedChecksum = img.checksum) (h : ∃ slot, ¬ SlotSound img.bytes slot) :
    ∃ slot, ¬ SlotSound img.bytes slot ∧
      (∀ other, entry other < entry slot → SlotSound img.bytes other) ∧
      img.decode = .error (.image (slotFault img.bytes slot)) := by
  obtain ⟨slot, hslot, hbefore⟩ := exists_first_unsound h
  refine ⟨slot, hslot, hbefore, ?_⟩
  rw [decode_of_checksum_eq (isBlank_eq_false_iff.mpr hset) hsum.symm,
    readSettings_of_unsound hslot hbefore]
  rfl

lemma checks_of_decode {d : Decoded} (h : img.decode = .ok d) :
    (∃ b ∈ img.bytes, b ≠ 0xFF) ∧ img.storedChecksum = img.checksum ∧
      ∀ slot, SlotSound img.bytes slot := by
  have hset : ∃ b ∈ img.bytes, b ≠ 0xFF := by
    rw [← isBlank_eq_false_iff, Bool.eq_false_iff]
    intro hblank
    rw [decode_of_isBlank hblank] at h
    cases h
  have hsum : img.storedChecksum = img.checksum := by
    by_contra hne
    rw [decode_of_checksum_ne (isBlank_eq_false_iff.mpr hset) (Ne.symm hne)] at h
    cases h
  refine ⟨hset, hsum, ?_⟩
  by_contra hunsound
  obtain ⟨slot, -, -, herror⟩ := decode_of_unsound hset hsum (not_forall.mp hunsound)
  rw [herror] at h
  cases h

/-- Whether an image decodes, to which texts, and what is reported of one that does not. -/
theorem decode_outcome (img : Image) :
    ((∃ d, img.decode = .ok d) ↔ (∃ b ∈ img.bytes, b ≠ 0xFF) ∧ img.storedChecksum = img.checksum ∧
        ∀ slot, SlotSound img.bytes slot) ∧
      (∀ d, img.decode = .ok d →
        d.image = img ∧ ∀ slot, d.settings.text slot = listedText img.bytes slot) ∧
      ((∀ b ∈ img.bytes, b = 0xFF) → img.decode = .error (.image .blank)) ∧
      ((∃ b ∈ img.bytes, b ≠ 0xFF) → img.storedChecksum ≠ img.checksum →
        img.decode = .error (.checksum img.storedChecksum img.checksum)) ∧
      ((∃ b ∈ img.bytes, b ≠ 0xFF) → img.storedChecksum = img.checksum →
        (∃ slot, ¬ SlotSound img.bytes slot) →
        ∃ slot, ¬ SlotSound img.bytes slot ∧
          (∀ other, entry other < entry slot → SlotSound img.bytes other) ∧
          img.decode = .error (.image (slotFault img.bytes slot))) := by
  refine ⟨⟨?_, ?_⟩, ?_, ?_, ?_, ?_⟩
  · rintro ⟨d, h⟩
    exact checks_of_decode h
  · rintro ⟨hset, hsum, hsound⟩
    obtain ⟨s, hdecode, -⟩ := decode_of_sound hset hsum hsound
    exact ⟨_, hdecode⟩
  · intro d h
    obtain ⟨hset, hsum, hsound⟩ := checks_of_decode h
    obtain ⟨s, hdecode, htext⟩ := decode_of_sound hset hsum hsound
    obtain rfl := Except.ok.inj (h.symm.trans hdecode)
    exact ⟨rfl, htext⟩
  · exact fun hblank => decode_of_isBlank (isBlank_iff.mpr hblank)
  · exact fun hset hsum => decode_of_checksum_ne (isBlank_eq_false_iff.mpr hset) (Ne.symm hsum)
  · exact decode_of_unsound

theorem decode_around :
    let img := withChecksum .bm .bytes64
      ((0x5A :: (List.replicate 13 0 ++ [0x3C, 0x06])).rightpad 0x3C 0 ++ [0x06, 0x03])
    ∃ d, img.decode = .ok d ∧ d.image = img ∧ d.settings.manufacturerText = some "rZ" := by
  intro img
  obtain ⟨haccepted, htexts, -⟩ := decode_outcome img
  have hfirst : img.byte 0 ∈ img.bytes := img.byte_mem_bytes (by decide)
  have hset : ∃ b ∈ img.bytes, b ≠ 0xFF := ⟨_, hfirst, by decide +kernel⟩
  have hsum : img.storedChecksum = img.checksum :=
    (storedChecksum_withChecksum _).trans (checksum_withChecksum _).symm
  have hsound : ∀ slot, SlotSound img.bytes slot := by
    intro slot
    cases slot <;> decide +kernel
  obtain ⟨d, hdecode⟩ := haccepted.mpr ⟨hset, hsum, hsound⟩
  obtain ⟨himage, htext⟩ := htexts d hdecode
  have hlisted : listedText img.bytes .manufacturer = some "rZ" := by decide +kernel
  exact ⟨d, hdecode, himage, (htext .manufacturer).trans hlisted⟩

end Image

end UsbSerial.Eeprom
