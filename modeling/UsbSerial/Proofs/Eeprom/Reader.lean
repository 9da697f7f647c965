import UsbSerial.Proofs.Eeprom.Bits
import UsbSerial.Proofs.Eeprom.Buffer

/-! An image decodes in place as it does with every address wrapped around: the fixed addresses are
within the smallest size, and the others are masked before they are used. -/

namespace UsbSerial.Eeprom

namespace Image

variable (img : Image)

section Texts

lemma length_raw (slot : Slot) : Reader.length img.raw slot = Texts.lengthByte img slot := by
  have h : 0x0F + 2 * Texts.slotIndex slot < 64 := by cases slot <;> decide
  rw [Reader.length, byte_raw_front img h, Texts.lengthByte, Header.tableStart,
    Nat.add_right_comm]

lemma start_raw (slot : Slot) :
    Reader.start img.size img.raw slot = Texts.pointer img slot := by
  have h : 0x0E + 2 * Texts.slotIndex slot < 64 := by cases slot <;> decide
  rw [Reader.start, byte_raw_front img h, Size.and_mask, Texts.pointer, Header.tableStart]

lemma byte_pointer (slot : Slot) (h : Texts.pointer img slot < 256) :
    img.raw.byte ⟨Texts.pointer img slot, h⟩ = img.byte (Texts.pointer img slot) :=
  img.byte_raw (Nat.mod_lt _ img.size.bytes_pos) h

lemma text_raw (slot : Slot) : Reader.text img.size img.raw slot = Texts.read img slot := by
  simp only [Reader.text, Texts.read, Texts.characters, length_raw, start_raw, byte_pointer,
    wrapped_raw]

lemma ends_raw (slots : List Slot) :
    (slots.filter fun slot => Reader.length img.raw slot ≠ 0).map
        (fun slot => Reader.start img.size img.raw slot + Reader.length img.raw slot) =
      slots.filterMap fun slot =>
        if Texts.lengthByte img slot = 0 then none
        else some (Texts.pointer img slot + Texts.lengthByte img slot) := by
  -- To leave out the texts that are not there is to take the others.
  induction slots with
  | nil => rfl
  | cons slot slots ih =>
    rw [List.filter_cons, List.filterMap_cons, length_raw]
    by_cases hlength : Texts.lengthByte img slot = 0
    · simpa [hlength] using ih
    · simpa [hlength, length_raw, start_raw] using ih

lemma notPlugAndPlay_raw (hblock : Texts.hasBlock img.chip = true) :
    Reader.notPlugAndPlay img.chip img.size img.raw = Texts.readNotPlugAndPlay img := by
  simp only [Reader.notPlugAndPlay, Texts.readNotPlugAndPlay, Texts.blockStart, ends_raw,
    wrapped_raw, Size.and_mask, hblock, Bool.true_and]

end Texts

section Header

lemma word_raw_front {k : ℕ} (h : k < 32) : img.raw.word ⟨2 * k, by omega⟩ = img.word k := by
  have hsize := img.size.two_mul_words
  have hle := img.size.le_bytes
  exact img.word_raw (by omega) _

lemma byte_fixed (address : Fin 256) (h : address.val < 64) :
    img.raw.byte address = img.byte address := img.byte_raw_front h address.isLt

lemma drives_raw : Reader.drives img.raw = Header.readDrives img := by
  simp (disch := decide) only [Reader.drives, Header.readDrives, byte_fixed,
    Nibble.and_fifteen, Nibble.shiftRight_four]
  rfl

lemma drivers_raw : Reader.drivers img.raw =
    #v[hasFlag (img.byte 0) 0x08, hasFlag (img.byte 1) 0x08, hasFlag (img.byte 0) 0x80,
      hasFlag (img.byte 1) 0x80] := by
  have hports (f : Fin 4 → Bool) : Vector.ofFn f = #v[f 0, f 1, f 2, f 3] := rfl
  have hfirst : img.raw.byte 0 = img.byte 0 := img.byte_fixed 0 (by decide)
  have hsecond : img.raw.byte 1 = img.byte 1 := img.byte_fixed 1 (by decide)
  have hnone (b : UInt8) : hasFlag (b >>> 0) 0x08 = hasFlag b 0x08 := by rw [UInt8.shiftRight_zero]
  rw [Reader.drivers, hports, ← hfirst, ← hsecond, ← hasFlag_shiftRight, ← hasFlag_shiftRight,
    ← hnone (img.raw.byte 0), ← hnone (img.raw.byte 1)]
  rfl

lemma own_raw {s : Settings} (h : s.serialDriver = .replicate 4 false) :
    Reader.own img.chip img.raw s = Header.readOwn img s := by
  have hversion : img.raw.word 0x0C = img.word 6 := img.word_raw_front (k := 6) (by decide)
  unfold Reader.own Header.readOwn
  cases img.chip with
  | am => rfl
  | bm => simp only [hversion]
  | ft2232C =>
    simp (disch := decide) only [byte_fixed, hversion, h, Header.and_seven]
    rfl
  | ft232R =>
    simp (disch := decide) only [byte_fixed, hversion, h, Nibble.and_fifteen,
      Nibble.shiftRight_four]
    rfl
  | ft2232H =>
    simp (disch := decide) only [byte_fixed, drives_raw, h, Header.and_seven]
    rfl
  | ft4232H =>
    simp (disch := decide) only [byte_fixed, drives_raw, drivers_raw]
    rfl

lemma shared_raw (manufacturer product serial : Option String) :
    Reader.shared img.size img.raw manufacturer product serial =
      { Header.readShared img with
        manufacturerText := manufacturer
        productText := product
        serialText := serial } := by
  have hvendor : img.raw.word 0x02 = img.word 1 := img.word_raw_front (k := 1) (by decide)
  have hproduct : img.raw.word 0x04 = img.word 2 := img.word_raw_front (k := 2) (by decide)
  have hrelease : img.raw.word 0x06 = img.word 3 := img.word_raw_front (k := 3) (by decide)
  simp (disch := decide) only [Reader.shared, hvendor, hproduct, hrelease, byte_fixed]
  rfl

lemma features_raw (s : Settings) :
    Reader.features img.chip img.raw s = Header.readFeatures img s := by
  simp (disch := decide) only [Reader.features, byte_fixed]
  rfl

lemma serialDriver_block (s : Settings) :
    (Reader.block img.chip img.size img.raw s).serialDriver = s.serialDriver := by
  rw [Reader.block]
  split <;> rfl

lemma serialDriver_readFeatures (s : Settings) :
    (Header.readFeatures img s).serialDriver = s.serialDriver := by
  rw [Header.readFeatures]
  split <;> rfl

end Header

lemma settings_raw : Reader.settings img.chip img.size img.raw = img.readSettings := by
  simp only [Reader.settings, readSettings, text_raw]
  refine bind_congr fun manufacturer => bind_congr fun product => bind_congr fun serial => ?_
  have hdriver : (Reader.block img.chip img.size img.raw (Reader.features img.chip img.raw
      (Reader.shared img.size img.raw manufacturer product serial))).serialDriver =
      .replicate 4 false := by
    rw [serialDriver_block, features_raw, serialDriver_readFeatures]
    rfl
  rw [own_raw img hdriver, features_raw, shared_raw, Reader.block]
  congr 1
  cases hchip : img.chip with
  | am =>
    simp only [Header.readOwn, Header.readFeatures, Texts.readNotPlugAndPlay, hchip]
    rfl
  | bm =>
    simp only [Header.readOwn, Header.readFeatures, Texts.readNotPlugAndPlay, hchip]
    rfl
  | _ =>
    have hblock : Texts.hasBlock img.chip = true := by rw [hchip]; rfl
    rw [← hchip, notPlugAndPlay_raw img hblock]
    simp only [Header.readOwn, Header.readFeatures, hchip]
    rfl

lemma decodeInPlace_eq : img.decodeInPlace = img.decode := by
  have hblank : (img.raw.bytes img.size).all (· = 0xFF) = img.isBlank := rfl
  rw [decodeInPlace, hblank, checksum_raw, storedChecksum_raw, settings_raw]
  rfl

end Image

end UsbSerial.Eeprom
