import UsbSerial.Eeprom.Dump
import UsbSerial.Proofs.Eeprom.Alike
import UsbSerial.Proofs.Eeprom.RoundTrip

namespace UsbSerial.Eeprom

open Texts (start table descriptor descriptors block hasBlock lengths)

namespace Dump

variable {chip : Chip} {dump : List UInt8}

lemma eepromBytes_eq (h : chip ≠ .ft232R) : chip.eepromBytes = 256 := by
  cases chip with
  | ft232R => exact absurd rfl h
  | _ => rfl

lemma size_le (chip : Chip) (dump : List UInt8) : (size chip dump).bytes ≤ chip.eepromBytes := by
  by_cases hchip : chip = .ft232R
  · rw [size, if_pos hchip, hchip]
    decide
  · rw [eepromBytes_eq hchip]
    exact (size chip dump).bytes_le

lemma not_repeated {n k : ℕ} (hk : k < n) (h : dump.getD k 0 ≠ dump.getD (n + k) 0) :
    dump.take n ≠ dump.drop n ∧ dump.take n ≠ (dump.drop n).take n := by
  constructor
  all_goals
    intro heq
    have hget := congrArg (fun l => l.getD k 0) heq
    simp only [List.getD_eq_getElem?_getD, List.getElem?_take, List.getElem?_drop,
      if_pos hk] at hget
    exact h hget

lemma size_eq (hchip : chip ≠ .ft232R) (hlen : 0x08 < dump.length) (hset : dump.getD 0x08 0 ≠ 0xFF)
    (hquarter : dump.getD 0x08 0 ≠ dump.getD 0x48 0) :
    size chip dump = if dump.take 128 = dump.drop 128 then .bytes128 else .bytes256 := by
  have hblank : dump.all (· = 0xFF) ≠ true := by
    intro hall
    rw [List.all_eq_true] at hall
    apply hset
    rw [List.getD_eq_getElem _ _ hlen]
    simpa using hall _ (List.getElem_mem hlen)
  rw [size, if_neg hchip, if_neg hblank, if_neg (not_repeated (by decide) hquarter).2]

end Dump

lemma Header.attributes_bounds (s : Settings) :
    0x80 ≤ (Header.attributes s).toNat ∧ Header.attributes s ≠ 0xFF := by
  rw [Header.attributes]
  cases s.selfPowered <;> cases s.remoteWakeup <;> decide

namespace Texts

lemma length_le_lengths {t : Option String} {texts : List (Option String)} (h : t ∈ texts) :
    length t ≤ lengths texts := by
  induction texts with
  | nil => cases h
  | cons u texts ih =>
    rw [lengths]
    rcases List.mem_cons.mp h with rfl | h
    · exact Nat.le_add_right _ _
    · exact Nat.le_trans (ih h) (Nat.le_add_left _ _)

lemma descriptor_lt {t : Option String} (hascii : t.all isAscii)
    (hlen : length t < 0x80) : ∀ b ∈ descriptor t, b.toNat < 0x80 := by
  cases t with
  | none => simp [descriptor]
  | some text =>
    have hchars : ∀ c ∈ text.toList, c.toNat < 128 := by
      simpa only [Option.all_some, isAscii, List.all_eq_true, decide_eq_true_eq] using hascii
    intro b hb
    simp only [descriptor, List.mem_cons, List.mem_flatMap] at hb
    rcases hb with rfl | rfl | ⟨c, hc, rfl | rfl | hb⟩
    · rw [Nat.toUInt8, UInt8.toNat_ofNat']
      omega
    · decide
    · have := hchars c hc
      rw [Nat.toUInt8, UInt8.toNat_ofNat']
      omega
    · decide
    · cases hb

lemma block_lt (chip : Chip) (notPlugAndPlay : Bool) :
    ∀ b ∈ block chip notPlugAndPlay, b.toNat < 0x80 := by
  intro b hb
  unfold block at hb
  split at hb
  · simp only [List.mem_cons, List.not_mem_nil, or_false] at hb
    rcases hb with rfl | rfl | rfl
    · decide
    · decide
    · cases notPlugAndPlay <;> decide
  · cases hb

end Texts

namespace Settings

namespace Fits

variable {chip : Chip} {size : Size} {s : Settings}

variable (h : Fits chip size s)
include h

lemma byte_lt {address : ℕ} (hlow : 0x1A ≤ address) (hhigh : address < size.bytes - 2) :
    ((s.image chip size).byte address).toNat < 0x80 := by
  -- Behind the header there is nothing but padding, texts and the block, and in none of them a
  -- byte has its top bit set.
  obtain ⟨-, hsize, -⟩ := imageSize?_eq_some h.size_eq
  have hroom := h.room
  have hstart : size.bytes - 2 < start chip % size.bytes + 0x80 := by
    rcases hsize with rfl | rfl <;> cases chip <;> decide
  by_cases hpadding : address < start chip % size.bytes
  · have hlen : (Header.bytes chip s (table (start chip) s.texts)).length ≤ address := by
      rw [length_header]
      cases chip <;> simp only [Header.tail, List.length_cons, List.length_nil] <;> omega
    rw [h.byte_header hpadding, List.getD_eq_default _ _ hlen]
    decide
  · obtain ⟨k, rfl⟩ := Nat.exists_eq_add_of_le (Nat.le_of_not_lt hpadding)
    have hall : ∀ b ∈ descriptors s.texts ++ block chip s.notPlugAndPlay, b.toNat < 0x80 := by
      intro b hb
      rcases List.mem_append.mp hb with hb | hb
      · obtain ⟨t, ht, hb⟩ := List.mem_flatMap.mp hb
        have hlen := Texts.length_le_lengths ht
        rw [Texts.footprint] at hroom
        exact Texts.descriptor_lt (h.ascii t ht) (by omega) b hb
      · exact Texts.block_lt chip s.notPlugAndPlay b hb
    rw [h.byte_texts hhigh]
    by_cases hk : k < (descriptors s.texts ++ block chip s.notPlugAndPlay).length
    · rw [List.getD_eq_getElem _ _ hk]
      exact hall _ (List.getElem_mem hk)
    · rw [List.getD_eq_default _ _ (by omega)]
      decide

lemma byte_attributes : (s.image chip size).byte 0x08 = Header.attributes s :=
  h.byte_eq 0x08 (by omega)

omit h in
lemma getD_dump (above : List UInt8) {k : ℕ} (hk : k < size.bytes) :
    ((s.image chip size).bytes ++ above).getD k 0 = (s.image chip size).byte k := by
  rw [List.getD_append _ _ _ _ (by rw [Image.length_bytes]; exact hk)]
  exact Image.getD_bytes _ hk

lemma attributes_ne (above : List UInt8) {k : ℕ} (hlow : 0x1A ≤ k) (hhigh : k < size.bytes - 2) :
    ((s.image chip size).bytes ++ above).getD 0x08 0 ≠
      ((s.image chip size).bytes ++ above).getD k 0 := by
  have hlt := h.byte_lt hlow hhigh
  have hge := (Header.attributes_bounds s).1
  rw [getD_dump above (by omega), getD_dump above (by omega), h.byte_attributes]
  intro heq
  rw [← heq] at hlt
  omega

lemma size_dump {above : List UInt8} (habove : size.bytes + above.length = chip.eepromBytes) :
    Dump.size chip ((s.image chip size).bytes ++ above) =
      if size.bytes = chip.eepromBytes ∨ above = (s.image chip size).bytes then size
      else .bytes256 := by
  obtain ⟨-, hsize, hle⟩ := imageSize?_eq_some h.size_eq
  have hlen : (s.image chip size).bytes.length = size.bytes := Image.length_bytes _
  by_cases hchip : chip = .ft232R
  · subst hchip
    have hfull : size = .bytes128 := by
      rcases hsize with rfl | rfl
      · rfl
      · exact absurd hle (by decide)
    rw [Dump.size, if_pos rfl, hfull, if_pos (.inl rfl)]
  have hbytes := Dump.eepromBytes_eq hchip
  have hsmall : 0x48 < size.bytes - 2 := by rcases hsize with rfl | rfl <;> decide
  have hset : ((s.image chip size).bytes ++ above).getD 0x08 0 ≠ 0xFF := by
    rw [getD_dump above (by omega), h.byte_attributes]
    exact (Header.attributes_bounds s).2
  rw [Dump.size_eq hchip (by rw [List.length_append]; omega) hset
    (h.attributes_ne above (by decide) hsmall)]
  rcases hsize with rfl | rfl
  · have htake : ((s.image chip .bytes128).bytes ++ above).take 128 = _ := List.take_left' hlen
    have hdrop : ((s.image chip .bytes128).bytes ++ above).drop 128 = _ := List.drop_left' hlen
    rw [htake, hdrop, hbytes]
    by_cases heq : above = (s.image chip .bytes128).bytes
    · rw [if_pos heq.symm, if_pos (.inr heq)]
    · rw [if_neg (Ne.symm heq), if_neg (not_or.mpr ⟨by decide, heq⟩)]
  · have hhalves := Dump.not_repeated (n := 128) (by decide)
      (h.attributes_ne above (k := 0x88) (by decide) (by decide))
    rw [if_neg hhalves.1, if_pos (.inl hbytes.symm)]

omit h in
lemma alike_dump {above : List UInt8}
    (hsize : Dump.size chip ((s.image chip size).bytes ++ above) = size) :
    Image.Alike (Dump.image chip ((s.image chip size).bytes ++ above)) (s.image chip size) := by
  rw [Dump.image, hsize]
  exact Image.alike_of_bytes_eq rfl rfl (Image.bytes_ofList_append (s.image chip size) above)

lemma decode_dump {above : List UInt8} (habove : size.bytes + above.length = chip.eepromBytes) :
    (∃ kept, (Dump.image chip ((s.image chip size).bytes ++ above)).decode.map Decoded.settings =
        .ok kept ∧ (s.image chip size).decode.map Decoded.settings = .ok kept) ↔
      size.bytes = chip.eepromBytes ∨ above = (s.image chip size).bytes := by
  have hsize := h.size_dump habove
  constructor
  · rintro ⟨kept, hread, himage⟩
    refine Decidable.of_not_not fun hcond => ?_
    rw [if_neg hcond] at hsize
    have hchip : chip.eepromBytes ≤ 256 := by cases chip <;> decide
    have hfull : kept.size = 256 := by
      rw [Image.size_of_decode hread]
      exact congrArg Size.bytes hsize
    have hkept : kept.size = size.bytes := Image.size_of_decode himage
    exact hcond (.inl (by omega))
  · intro hcond
    rw [if_pos hcond] at hsize
    have himage : (s.image chip size).decode.map Decoded.settings = .ok (s.normal chip) := by
      rw [Image.decode_image h]
      rfl
    exact ⟨s.normal chip, (alike_dump hsize).decode.trans himage, himage⟩

omit h in
lemma read_above (h : Fits chip .bytes128 s) {above : List UInt8}
    (hsize : Dump.size chip ((s.image chip .bytes128).bytes ++ above) = .bytes256)
    (htext : s.manufacturerText.isSome)
    (habove : (above.getD (start chip - 128) 0).toNat ≠ Texts.length s.manufacturerText) :
    Texts.read (Dump.image chip ((s.image chip .bytes128).bytes ++ above)) .manufacturer =
      .error (.descriptor .manufacturer (start chip)) := by
  -- The table holds whole addresses: in a reading of twice the size of the image, the texts are
  -- looked for above it.
  have hstart : 128 ≤ start chip ∧ start chip < 256 := by cases chip <;> decide
  have hplace := h.place_le .manufacturer
  generalize hread : Dump.image chip ((s.image chip .bytes128).bytes ++ above) = read
  have hbytes : read.size.bytes = 256 := by
    rw [← hread]
    exact congrArg Size.bytes hsize
  have hbyte {k : ℕ} (hk : k < 256) :
      read.byte k = ((s.image chip .bytes128).bytes ++ above).getD k 0 := by
    rw [← hread, Dump.image, Image.byte_ofList, hsize]
    exact congrArg (List.getD _ · 0) (Nat.mod_eq_of_lt hk)
  have hlength : Texts.lengthByte read .manufacturer = Texts.length s.manufacturerText := by
    rw [Texts.lengthByte, hbyte (by decide), getD_dump above (by decide)]
    exact h.lengthByte_eq .manufacturer
  have hpointer : Texts.pointer read .manufacturer = start chip := by
    have htable := getD_header_pointer chip s (start chip) .manufacturer
    rw [Texts.pointer, hbyte (by decide), getD_dump above (by decide),
      h.byte_header (by have := h.table_lt .manufacturer; omega), htable, hbytes, Nat.toUInt8,
      UInt8.toNat_ofNat']
    exact (Nat.mod_mod _ _).trans (Nat.mod_eq_of_lt hstart.2)
  have hdescriptor : read.byte (start chip) = above.getD (start chip - 128) 0 := by
    have hlen : (s.image chip .bytes128).bytes.length = 128 := Image.length_bytes _
    rw [hbyte hstart.2, List.getD_append_right _ _ _ _ (by omega), hlen]
  obtain ⟨text, htext⟩ := Option.isSome_iff_exists.mp htext
  have hroom : 2 ≤ Texts.length s.manufacturerText ∧ Texts.length s.manufacturerText % 2 = 0 := by
    rw [htext, Texts.length]
    omega
  have hsize : Texts.length s.manufacturerText ≤ 126 := by
    simp only [Settings.text, Size.bytes] at hplace
    omega
  rw [Texts.read, hlength, hpointer, hdescriptor, hbytes,
    if_neg (by omega), if_neg (by omega), if_pos (.inl habove)]

end Fits

end Settings

end UsbSerial.Eeprom
