import UsbSerial.Proofs.Eeprom.Reader

/-! Decoding depends on the bytes in use alone, and gives back how many there are. -/

namespace UsbSerial.Eeprom

namespace Image

section Alike

structure Alike (img other : Image) : Prop where
  chip : img.chip = other.chip
  size : img.size = other.size
  byte : img.byte = other.byte

variable {img other : Image} (h : Alike img other)
include h

lemma Alike.bytes : img.bytes = other.bytes := by
  rw [bytes_eq_map, bytes_eq_map, h.byte, h.size]

lemma Alike.isBlank : img.isBlank = other.isBlank := by
  rw [Image.isBlank, Image.isBlank, h.bytes]

lemma Alike.word : img.word = other.word := by
  funext k
  rw [Image.word, Image.word, h.byte]

lemma Alike.checksum : img.checksum = other.checksum :=
  checksum_congr h.size fun address _ => congrFun h.byte address

lemma Alike.storedChecksum : img.storedChecksum = other.storedChecksum := by
  rw [Image.storedChecksum, Image.storedChecksum, h.word, h.size]

lemma Alike.pointer : Texts.pointer img = Texts.pointer other := by
  funext slot
  rw [Texts.pointer, Texts.pointer, h.byte, h.size]

lemma Alike.lengthByte : Texts.lengthByte img = Texts.lengthByte other := by
  funext slot
  rw [Texts.lengthByte, Texts.lengthByte, h.byte]

lemma Alike.characters : Texts.characters img = Texts.characters other := by
  funext address count
  rw [Texts.characters, Texts.characters, h.byte]

lemma Alike.read : Texts.read img = Texts.read other := by
  funext slot
  rw [Texts.read, Texts.read, h.lengthByte, h.pointer, h.characters, h.byte, h.size]

lemma Alike.readNotPlugAndPlay :
    Texts.readNotPlugAndPlay img = Texts.readNotPlugAndPlay other := by
  rw [Texts.readNotPlugAndPlay, Texts.readNotPlugAndPlay, Texts.blockStart, Texts.blockStart,
    h.lengthByte, h.pointer, h.byte, h.size, h.chip]

lemma Alike.readSettings : img.readSettings = other.readSettings := by
  have hshared : Header.readShared img = Header.readShared other := by
    simp only [Header.readShared, h.word, h.byte, h.size]
  have hfeatures (s : Settings) : Header.readFeatures img s = Header.readFeatures other s := by
    simp only [Header.readFeatures, h.byte, h.chip]
  have hown (s : Settings) : Header.readOwn img s = Header.readOwn other s := by
    simp only [Header.readOwn, Header.readDrives, h.word, h.byte, h.chip]
  simp only [Image.readSettings, h.read, h.readNotPlugAndPlay, hshared, hfeatures, hown]

lemma Alike.decode :
    img.decode.map Decoded.settings = other.decode.map Decoded.settings := by
  simp only [Image.decode, h.isBlank, h.checksum, h.storedChecksum, h.readSettings]
  split
  · rfl
  split
  · rfl
  · cases other.readSettings <;> rfl

lemma Alike.word? : img.word? = other.word? := by
  funext address
  rw [Image.word?, Image.word?, h.word, h.size]

end Alike

section InPlace

def whole (img : Image) : Image := { img with size := .bytes256 }

lemma byte_whole (img : Image) {address : ℕ} (h : address < img.size.bytes) :
    img.byte address = img.whole.byte address := by
  have hmod : address % img.size.bytes = address % 256 := by
    rw [Nat.mod_eq_of_lt h, Nat.mod_eq_of_lt (Nat.lt_of_lt_of_le h img.size.bytes_le)]
  rw [byte, byte]
  exact congrArg img.buffer.get (Fin.ext hmod)

/-- Words and header are read where they are in the buffer: only what a pointer of the table leads
to wraps around. -/
structure InPlace (img : Image) : Prop where
  word : ∀ k < img.size.words, img.word k = img.whole.word k
  shared : Header.readShared img = { Header.readShared img.whole with size := img.size.bytes }
  features : Header.readFeatures img = Header.readFeatures img.whole
  own : Header.readOwn img = Header.readOwn img.whole
  lengthByte : Texts.lengthByte img = Texts.lengthByte img.whole
  pointer : ∀ slot, Texts.pointer img slot = Texts.pointer img.whole slot % img.size.bytes

lemma inPlace (img : Image) : InPlace img := by
  -- All fixed places are within the smallest size.
  have hbyte (address : ℕ) (h : address < 64) : img.byte address = img.whole.byte address :=
    img.byte_whole (Nat.lt_of_lt_of_le h img.size.le_bytes)
  have hword (k : ℕ) (hk : k < img.size.words) : img.word k = img.whole.word k := by
    have hsize := img.size.two_mul_words
    rw [Image.word, Image.word, byte_whole img (by omega), byte_whole img (by omega)]
  have hfront (k : ℕ) (hk : k < 32) : img.word k = img.whole.word k := by
    rw [Image.word, Image.word, hbyte _ (by omega), hbyte _ (by omega)]
  have hchip : img.whole.chip = img.chip := rfl
  have htable (slot : Slot) : Header.tableStart + 2 * Texts.slotIndex slot + 1 < 64 := by
    cases slot <;> decide
  refine ⟨hword, ?_, ?_, ?_, ?_, ?_⟩
  · simp [Header.readShared, hfront, hbyte]
  · funext s
    rw [Header.readFeatures, Header.readFeatures, hchip, hbyte _ (by decide)]
  · funext s
    simp [Header.readOwn, Header.readDrives, hchip, hfront, hbyte]
  · funext slot
    rw [Texts.lengthByte, Texts.lengthByte, hbyte _ (htable slot)]
  · intro slot
    have hmod : ∀ b : UInt8, b.toNat % img.whole.size.bytes = b.toNat := fun b =>
      Nat.mod_eq_of_lt b.toNat_lt
    rw [Texts.pointer, Texts.pointer, hmod, hbyte _ (Nat.lt_of_succ_lt (htable slot))]

end InPlace

section InUse

variable {img other : Image}

lemma alike_of_bytes_eq (hchip : img.chip = other.chip) (hsize : img.size = other.size)
    (hbytes : img.bytes = other.bytes) : Alike img other where
  chip := hchip
  size := hsize
  byte := by
    funext address
    have hlt : address % img.size.bytes < img.size.bytes := Nat.mod_lt _ img.size.bytes_pos
    have hlt' : address % img.size.bytes < other.size.bytes := hsize ▸ hlt
    rw [← byte_mod, ← getD_bytes img hlt, hbytes, getD_bytes other hlt', hsize, byte_mod]

lemma bytes_congr (hsize : img.size = other.size)
    (hbyte : ∀ k < img.size.bytes, img.byte k = other.byte k) : img.bytes = other.bytes := by
  rw [bytes_eq_map img, bytes_eq_map other, ← hsize]
  exact List.map_congr_left fun k hk => hbyte k (List.mem_range.mp hk)

lemma bytes_ofList_append (img : Image) (above : List UInt8) :
    (ofList img.chip img.size (img.bytes ++ above)).bytes = img.bytes := by
  have hsize : (ofList img.chip img.size (img.bytes ++ above)).size = img.size := by rw [ofList]
  refine bytes_congr hsize fun k hk => ?_
  rw [hsize] at hk
  have hlen : k < img.bytes.length := by rwa [length_bytes]
  rw [byte_ofList, Nat.mod_eq_of_lt hk, List.getD_append _ _ _ _ hlen, getD_bytes img hk]

theorem decode_of_bytes_eq (hchip : img.chip = other.chip) (hsize : img.size = other.size)
    (hbytes : img.bytes = other.bytes) :
    img.decode.map Decoded.settings = other.decode.map Decoded.settings ∧
      img.storedChecksum = other.storedChecksum ∧ img.checksum = other.checksum ∧
      img.isBlank = other.isBlank ∧ (∀ address, img.word? address = other.word? address) ∧
      InPlace img ∧ img.decodeInPlace = img.decode := by
  have halike : Alike img other := alike_of_bytes_eq hchip hsize hbytes
  exact ⟨halike.decode, halike.storedChecksum, halike.checksum, halike.isBlank,
    congrFun halike.word?, inPlace img, decodeInPlace_eq img⟩

theorem decode_of_bytes_eq_stale :
    let img := withChecksum .bm .bytes64
      ((0x5A :: (List.replicate 13 0 ++ [0x3C, 0x06])).rightpad 0x3C 0 ++ [0x06, 0x03])
    let stale := ofList .bm .bytes64 (img.bytes ++ List.replicate 192 0x41)
    stale.buffer ≠ img.buffer ∧ stale.bytes = img.bytes ∧
      Texts.pointer img .manufacturer + Texts.lengthByte img .manufacturer = 0x42 ∧
      stale.decode.map Decoded.settings = img.decode.map Decoded.settings := by
  intro img stale
  have hbuffer : stale.buffer[0x40] ≠ img.buffer[0x40] := by decide +kernel
  have hbytes : stale.bytes = img.bytes := bytes_ofList_append img _
  have hends : Texts.pointer img .manufacturer + Texts.lengthByte img .manufacturer = 0x42 := by
    decide +kernel
  have hchip : stale.chip = img.chip := by decide
  have hsize : stale.size = img.size := by decide
  have hdiffer : stale.buffer ≠ img.buffer := fun h =>
    hbuffer (congrArg (fun buffer : Vector UInt8 256 => buffer[0x40]) h)
  exact ⟨hdiffer, hbytes, hends, (decode_of_bytes_eq hchip hsize hbytes).1⟩

end InUse

section Decoding

variable {img : Image}

lemma readSettings_ok {s : Settings} (h : img.readSettings = .ok s) :
    ∃ manufacturer product serial,
      s =
        { Header.readOwn img (Header.readFeatures img (Header.readShared img)) with
          manufacturerText := manufacturer
          productText := product
          serialText := serial
          notPlugAndPlay := Texts.readNotPlugAndPlay img } := by
  simp only [readSettings, bind, Except.bind] at h
  split at h
  · cases h
  split at h
  · cases h
  split at h
  · cases h
  · cases h
    exact ⟨_, _, _, rfl⟩

lemma decode_of_isBlank (hblank : img.isBlank = true) : img.decode = .error (.image .blank) := by
  rw [decode, hblank, if_pos rfl]

lemma decode_of_checksum_ne (hblank : img.isBlank = false)
    (hsum : img.checksum ≠ img.storedChecksum) :
    img.decode = .error (.checksum img.storedChecksum img.checksum) := by
  rw [decode, hblank, if_neg Bool.false_ne_true, if_pos hsum]

lemma decode_of_checksum_eq (hblank : img.isBlank = false)
    (hsum : img.checksum = img.storedChecksum) :
    img.decode = (img.readSettings.mapError Error.image).map fun s =>
      { image := img, settings := s } := by
  rw [decode, hblank, if_neg Bool.false_ne_true, if_neg (not_not_intro hsum)]
  cases img.readSettings <;> rfl

lemma readSettings_of_decode {s : Settings} (h : img.decode.map Decoded.settings = .ok s) :
    img.readSettings = .ok s := by
  unfold decode at h
  split at h
  · cases h
  split at h
  · cases h
  split at h
  · cases h
  · rename_i hread
    cases h
    exact hread

lemma size_readOwn (s : Settings) : (Header.readOwn img s).size = s.size := by
  unfold Header.readOwn
  split <;> rfl

lemma size_readFeatures (s : Settings) : (Header.readFeatures img s).size = s.size := by
  unfold Header.readFeatures
  split <;> rfl

lemma size_of_decode {s : Settings} (h : img.decode.map Decoded.settings = .ok s) :
    s.size = img.size.bytes := by
  obtain ⟨manufacturer, product, serial, rfl⟩ := readSettings_ok (readSettings_of_decode h)
  exact (size_readOwn _).trans (size_readFeatures _)

end Decoding

end Image

lemma Image.decode_error {img : Image} {fault : ImageFault}
    (h : Texts.read img .manufacturer = .error fault) : ∃ e, img.decode = .error e := by
  rw [Image.decode, Image.readSettings, h]
  split
  · exact ⟨_, rfl⟩
  split
  · exact ⟨_, rfl⟩
  · exact ⟨_, rfl⟩

end UsbSerial.Eeprom
