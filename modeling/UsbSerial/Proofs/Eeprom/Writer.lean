import UsbSerial.Proofs.Eeprom.Bits
import UsbSerial.Proofs.Eeprom.Buffer
import UsbSerial.Proofs.Eeprom.Texts

/-! The image that is written in place is the one that is put together from its parts: the cursor
wraps around to where the texts belong, and no store gets in the way of another. -/

namespace UsbSerial.Eeprom

open Buffer (Starts)

namespace Cursor

/-- The bytes of the list are written, nothing is behind them, and the cursor is right there. -/
structure Behind (size : Size) (base : ℕ) (written : List UInt8) (c : Cursor) : Prop where
  size_eq : c.size = size
  starts : Starts written (List.replicate (256 - written.length) 0) c.buffer
  position_eq : c.position = base + written.length
  base_mod : base % size.bytes = 0

section Putting

variable {size : Size} {base : ℕ} {written : List UInt8} {c : Cursor}

lemma position_put (byte : UInt8) (c : Cursor) : (c.put byte).position = c.position + 1 := rfl

lemma Behind.put (h : Behind size base written c) (hlt : written.length < size.bytes)
    (byte : UInt8) : Behind size base (written ++ [byte]) (c.put byte) := by
  have hplace : c.position &&& c.size.mask = written.length := by
    rw [Size.and_mask, h.size_eq, h.position_eq, Nat.add_mod, h.base_mod, Nat.zero_add, Nat.mod_mod,
      Nat.mod_eq_of_lt hlt]
  have hsize := size.bytes_le
  have hzeros : List.replicate (256 - written.length) (0 : UInt8) =
      0 :: List.replicate (256 - (written ++ [byte]).length) 0 := by
    rw [← List.replicate_succ, List.length_append, List.length_singleton]
    congr 1
    omega
  have hstarts := h.starts
  rw [hzeros] at hstarts
  refine ⟨h.size_eq, hstarts.put_next _ hplace byte, ?_, h.base_mod⟩
  rw [position_put, h.position_eq, List.length_append, List.length_singleton, Nat.add_assoc]

lemma Behind.put_put (h : Behind size base written c) (hlt : written.length + 1 < size.bytes)
    (byte byte' : UInt8) :
    Behind size base (written ++ [byte, byte']) ((c.put byte).put byte') := by
  have hput := (h.put (by omega) byte).put (by simpa using hlt) byte'
  rwa [List.append_assoc] at hput

lemma Behind.put_characters (h : Behind size base written c) (bytes : List UInt8)
    (hlt : written.length + 2 * bytes.length < size.bytes) :
    Behind size base (written ++ bytes.flatMap fun byte => [byte, 0])
      (bytes.foldl (fun c byte => (c.put byte).put 0) c) := by
  induction bytes generalizing written c with
  | nil => rwa [List.flatMap_nil, List.append_nil]
  | cons byte bytes ih =>
    rw [List.length_cons] at hlt
    have hput := ih (h.put_put (by omega) byte 0) (by
      simp only [List.length_append, List.length_cons, List.length_nil]
      omega)
    rwa [List.append_assoc] at hput

end Putting

section Texts

lemma utf8_of_ascii {text : String} (h : ∀ c ∈ text.toList, c.toNat < 128) :
    text.toUTF8.data.toList = text.toList.map fun c => c.toNat.toUInt8 := by
  have hencode : ∀ cs : List Char, (∀ c ∈ cs, c.toNat < 128) →
      cs.flatMap String.utf8EncodeChar = cs.map fun c => c.toNat.toUInt8 := by
    intro cs hcs
    induction cs with
    | nil => rfl
    | cons c cs ih =>
      have hc : c.val.toNat ≤ 127 := Nat.le_of_lt_succ (hcs c List.mem_cons_self)
      rw [List.flatMap_cons, List.map_cons, ih fun d hd => hcs d (List.mem_cons_of_mem _ hd),
        String.utf8EncodeChar, if_pos hc]
      rfl
  rw [String.toUTF8, ← String.utf8Encode_toList, List.utf8Encode, hencode _ h,
    List.data_toByteArray]

lemma utf8ByteSize_of_ascii {text : String} (h : ∀ c ∈ text.toList, c.toNat < 128) :
    text.utf8ByteSize = text.toList.length := by
  have hlength := congrArg List.length (utf8_of_ascii h)
  rwa [List.length_map, Array.length_toList] at hlength

lemma or_high {n : ℕ} (hle : 0x80 ≤ n) (hlt : n < 0x100) : n.toUInt8 ||| 0x80 = n.toUInt8 := by
  obtain ⟨r, rfl⟩ := Nat.exists_eq_add_of_le hle
  have hor : 0x80 + r = 0x80 ||| r := Nat.shiftLeft_add_eq_or_of_lt (i := 7) (by omega) 1
  apply UInt8.toNat_inj.mp
  rw [UInt8.toNat_or, Nat.toUInt8, UInt8.toNat_ofNat', Nat.mod_eq_of_lt hlt, hor]
  have hmask : (0x80 : UInt8).toNat = 0x80 := rfl
  rw [hmask, Nat.or_comm 0x80 r, Nat.or_assoc, Nat.or_self]

variable {size : Size} {base : ℕ} {written : List UInt8} {c : Cursor}

lemma Behind.putText (h : Behind size base written c) {text : String}
    (hascii : ∀ c ∈ text.toList, c.toNat < 128)
    (hlt : written.length + Texts.length (some text) < size.bytes) :
    (c.putText text).1 = (Texts.length (some text)).toUInt8 ∧
      Behind size base (written ++ Texts.descriptor (some text)) (c.putText text).2 := by
  rw [Texts.length] at hlt
  have hlength : text.utf8ByteSize * 2 + 2 = Texts.length (some text) := by
    rw [utf8ByteSize_of_ascii hascii, Texts.length, Nat.mul_comm]
  have hput := (h.put_put (by omega) (Texts.length (some text)).toUInt8
    Texts.descriptorType).put_characters (text.toList.map fun c => c.toNat.toUInt8) (by
      simp only [List.length_append, List.length_cons, List.length_nil, List.length_map]
      omega)
  rw [List.append_assoc, List.flatMap_map] at hput
  rw [Cursor.putText, hlength, utf8_of_ascii hascii]
  exact ⟨rfl, hput⟩

lemma Behind.putSlot (h : Behind size base written c) (slot : Fin 3) {text : Option String}
    (hascii : text.all Texts.isAscii) (hlt : written.length + Texts.length text < size.bytes)
    (hlow : 0x80 ≤ base + written.length) (hhigh : base + size.bytes ≤ 0x100) :
    ∃ c', c.putSlot slot text =
        (((base + written.length).toUInt8, (Texts.length text).toUInt8), c') ∧
      Behind size base (written ++ Texts.descriptor text) c' := by
  have hstart : (c.position.toUInt8 ||| if slot = 0 then 0 else 0x80) =
      (base + written.length).toUInt8 := by
    rw [h.position_eq]
    split
    · exact UInt8.or_zero
    · exact or_high hlow (by omega)
  cases text with
  | none =>
    rw [Cursor.putSlot, hstart, Texts.descriptor, List.append_nil]
    exact ⟨c, rfl, h⟩
  | some text =>
    have hcharacters : ∀ c ∈ text.toList, c.toNat < 128 := by
      simpa only [Option.all_some, Texts.isAscii, List.all_eq_true, decide_eq_true_eq] using hascii
    obtain ⟨hlength, hput⟩ := h.putText hcharacters hlt
    rw [Cursor.putSlot, hstart]
    exact ⟨_, Prod.ext (Prod.ext rfl hlength) rfl, hput⟩

def entries (address : ℕ) : List (Fin 3 × Option String) → List (Fin 3 × UInt8 × UInt8)
  | [] => []
  | (slot, text) :: slots =>
      (slot, address.toUInt8, (Texts.length text).toUInt8) ::
        entries (address + Texts.length text) slots

lemma Behind.putSlots (h : Behind size base written c) (slots : List (Fin 3 × Option String))
    (hascii : ∀ t ∈ slots.map Prod.snd, t.all Texts.isAscii)
    (hlt : written.length + Texts.lengths (slots.map Prod.snd) < size.bytes)
    (hlow : 0x80 ≤ base + written.length) (hhigh : base + size.bytes ≤ 0x100) :
    ∃ c', c.putSlots slots = (entries (base + written.length) slots, c') ∧
      Behind size base (written ++ Texts.descriptors (slots.map Prod.snd)) c' := by
  induction slots generalizing written c with
  | nil =>
    refine ⟨c, rfl, ?_⟩
    rwa [List.map_nil, Texts.descriptors, List.flatMap_nil, List.append_nil]
  | cons entry slots ih =>
    obtain ⟨slot, text⟩ := entry
    simp only [List.map_cons, Texts.lengths] at hlt
    have hfirst : text.all Texts.isAscii := hascii _ List.mem_cons_self
    have hlength : (written ++ Texts.descriptor text).length =
        written.length + Texts.length text := by
      rw [List.length_append, Settings.length_descriptor]
    obtain ⟨c₁, hslot, hc₁⟩ := h.putSlot slot hfirst (by omega) hlow hhigh
    obtain ⟨c₂, hslots, hc₂⟩ := ih hc₁ (fun t ht => hascii t (List.mem_cons_of_mem _ ht)) (by omega)
      (by omega)
    refine ⟨c₂, ?_, ?_⟩
    · rw [Cursor.putSlots, hslot]
      dsimp only
      rw [hslots, hlength, entries, Nat.add_assoc]
    · rwa [List.append_assoc] at hc₂

lemma Behind.putBlock (h : Behind size base written c) (chip : Chip) (notPlugAndPlay : Bool)
    (hlt : written.length + (if Texts.hasBlock chip then 3 else 0) < size.bytes) :
    Behind size base (written ++ Texts.block chip notPlugAndPlay)
      (c.putBlock chip notPlugAndPlay) := by
  rw [Cursor.putBlock, Texts.block]
  split
  · rename_i hblock
    rw [if_pos hblock] at hlt
    have hput := (h.put_put (by omega) 0x02 0x03).put (by
      simp only [List.length_append, List.length_cons, List.length_nil]
      omega) (if notPlugAndPlay then 1 else 0)
    rwa [List.append_assoc] at hput
  · rwa [List.append_nil]

end Texts

end Cursor

namespace Settings

section Header

def frame (chip : Chip) (s : Settings) (a b signals low high : UInt8) (table tail : List UInt8) :
    List UInt8 :=
  [a, b] ++ Word.bytes s.vendor ++ Word.bytes s.product ++ Word.bytes s.release ++
    [Header.attributes s, Header.power s, Header.features chip s, signals, low, high] ++ table ++
    tail

def outline (chip : Chip) (s : Settings) (n : ℕ) : List UInt8 :=
  frame chip s 0 0 0 0 0 (List.replicate 6 0) (List.replicate n 0)

lemma length_outline (chip : Chip) (s : Settings) (n : ℕ) :
    (outline chip s n).length = 20 + n := by
  simp only [outline, frame, List.length_append, List.length_replicate]
  rfl

lemma outline_add (chip : Chip) (s : Settings) (m n : ℕ) :
    outline chip s (m + n) = outline chip s m ++ List.replicate n 0 := by
  rw [outline, outline, frame, frame, ← List.replicate_append_replicate, ← List.append_assoc]

variable {chip : Chip} {s : Settings} {a b signals low high m₁ m₂ p₁ p₂ s₁ s₂ : UInt8}
  {table tail rest : List UInt8} {buffer : Buffer}

lemma starts_zeros {n : ℕ} (hn : n ≤ 236) :
    Starts (List.replicate 20 0 ++ List.replicate n 0) (List.replicate (236 - n) 0) .zeros := by
  rw [Starts, List.replicate_append_replicate, List.replicate_append_replicate, Buffer.list_zeros]
  congr 1
  omega

lemma starts_shared (chip : Chip) (s : Settings) {n : ℕ} (hn : n ≤ 236) :
    Starts (outline chip s n) (List.replicate (236 - n) 0)
      (s.putFeatures chip (s.putShared .zeros)) := by
  have hshared : Starts ([0, 0] ++ Word.bytes s.vendor ++ Word.bytes s.product ++
      Word.bytes s.release ++ [Header.attributes s, Header.power s] ++ List.replicate 10 0 ++
      List.replicate n 0) (List.replicate (236 - n) 0) (s.putShared .zeros) :=
    (((((starts_zeros hn).putWord 1 rfl s.vendor).putWord 2 rfl s.product).putWord 3 rfl
      s.release).put 0x08 rfl _).put 0x09 rfl _
  rw [putFeatures, outline, frame, Header.features]
  by_cases ham : chip = .am
  · rw [if_pos ham, if_pos ham]
    exact hshared
  · have hfirst : flag 0x01 s.isochronousIn = 0 ||| flag 0x01 s.isochronousIn :=
      UInt8.zero_or.symm
    rw [if_neg ham, if_neg ham, hfirst]
    exact ((((hshared.mark 0x0A rfl _ _).mark 0x0A rfl _ _).mark 0x0A rfl _ _).mark 0x0A rfl _
      _).mark 0x0A rfl _ _

lemma starts_table
    (h : Starts (frame chip s a b signals low high (List.replicate 6 0) tail) rest buffer) :
    Starts (frame chip s a b signals low high [m₁, m₂, p₁, p₂, s₁, s₂] tail) rest
      ([(0, m₁, m₂), (1, p₁, p₂), (2, s₁, s₂)].foldl putEntry buffer) :=
  (((((h.put 0x0E rfl _).put 0x0F rfl _).put 0x10 rfl _).put 0x11 rfl _).put 0x12 rfl _).put 0x13
    rfl _

section Own

variable (h : Starts (frame chip s a b signals low high table tail) rest buffer)
include h

lemma put_a (byte : UInt8) :
    Starts (frame chip s byte b signals low high table tail) rest (buffer.put 0 byte) :=
  h.put 0 rfl byte

lemma put_b (byte : UInt8) :
    Starts (frame chip s a byte signals low high table tail) rest (buffer.put 1 byte) :=
  h.put 1 rfl byte

lemma mark_a (mask : UInt8) (on : Bool) :
    Starts (frame chip s (a ||| flag mask on) b signals low high table tail) rest
      (buffer.mark 0 mask on) :=
  h.mark 0 rfl mask on

lemma mark_b (mask : UInt8) (on : Bool) :
    Starts (frame chip s a (b ||| flag mask on) signals low high table tail) rest
      (buffer.mark 1 mask on) :=
  h.mark 1 rfl mask on

lemma put_signals (byte : UInt8) :
    Starts (frame chip s a b byte low high table tail) rest (buffer.put 0x0B byte) :=
  h.put 0x0B rfl byte

lemma mark_signals (mask : UInt8) (on : Bool) :
    Starts (frame chip s a b (signals ||| flag mask on) low high table tail) rest
      (buffer.mark 0x0B mask on) :=
  h.mark 0x0B rfl mask on

lemma put_version (w : UInt16) :
    Starts (frame chip s a b signals (Word.low w) (Word.high w) table tail) rest
      (buffer.putWord 6 w) :=
  h.putWord 6 rfl w

end Own

lemma getElem_eq_getD {α : Type} {n k : ℕ} (v : Vector α n) (a : α) (hk : k < n) :
    v[k] = v.getD k a := Array.getElem_eq_getD a

lemma put_drives (h : Starts (frame chip s a b signals low high table tail) rest buffer) :
    Starts (frame chip s a b signals
      (Nibble.pair (s.drives.getD 0 {}).nibble (s.drives.getD 1 {}).nibble)
      (Nibble.pair (s.drives.getD 2 {}).nibble (s.drives.getD 3 {}).nibble) table tail) rest
      (s.putDrives buffer) := by
  simp only [putDrives, Vector.getElem_map, Drive.pair_nibbles, getElem_eq_getD s.drives {}]
  exact (h.put 0x0C rfl _).put 0x0D rfl _

lemma starts_own
    (h : Starts (frame chip s 0 0 0 0 0 [m₁, m₂, p₁, p₂, s₁, s₂]
      (List.replicate (Header.tail chip s).length 0)) rest buffer) :
    Starts (Header.bytes chip s [m₁, m₂, p₁, p₂, s₁, s₂]) rest (s.putOwn chip buffer) := by
  cases chip with
  | am => exact h
  | bm => exact put_version h s.usbVersion
  | ft2232C =>
    simp only [putOwn, Header.and_seven, getElem_eq_getD s.serialDriver false]
    exact (put_version (mark_b (mark_b (mark_a (mark_a (put_b (put_a h _) _) _ _) _ _) _ _) _ _)
      _).put 0x14 rfl _
  | ft232R =>
    simp only [putOwn, putCbus, Vector.getElem_map, Nibble.pair_digits,
      getElem_eq_getD s.serialDriver false, getElem_eq_getD s.cbus 0]
    rw [Nibble.pair_zero]
    have hshared := put_version (put_signals (put_b (mark_a (mark_a (mark_a (put_a h 0) 0x04
      s.highCurrent) 0x08 (!s.serialDriver.getD 0 false)) 0x02 s.externalOscillator) 0x40)
      s.inverted) s.usbVersion
    rw [UInt8.zero_or] at hshared
    exact ((hshared.put 0x14 rfl _).put 0x15 rfl _).put 0x16 rfl _
  | ft2232H =>
    simp only [putOwn, Header.and_seven, getElem_eq_getD s.serialDriver false]
    exact (put_drives (mark_b (mark_b (mark_a (put_b (put_a h _) _) _ _) _ _) _ _)).put 0x18 rfl _
  | ft4232H =>
    have hdrivers : s.putDrivers buffer = (((buffer.mark 0 0x08 s.serialDriver[0]).mark 1 0x08
      s.serialDriver[1]).mark 0 0x80 s.serialDriver[2]).mark 1 0x80 s.serialDriver[3] := rfl
    have hsignals (c : Buffer) : s.putRs485 c = (((c.mark 0x0B 0x10 s.rs485[0]).mark 0x0B 0x20
      s.rs485[1]).mark 0x0B 0x40 s.rs485[2]).mark 0x0B 0x80 s.rs485[3] := rfl
    simp only [putOwn, hdrivers, hsignals, getElem_eq_getD s.serialDriver false,
      getElem_eq_getD s.rs485 false]
    have hmarked := mark_signals (mark_signals (mark_signals (mark_signals (mark_b (mark_a
      (mark_b (mark_a h 0x08 (s.serialDriver.getD 0 false)) 0x08 (s.serialDriver.getD 1 false))
      0x80 (s.serialDriver.getD 2 false)) 0x80 (s.serialDriver.getD 3 false))
      0x10 (s.rs485.getD 0 false)) 0x20 (s.rs485.getD 1 false)) 0x40 (s.rs485.getD 2 false))
      0x80 (s.rs485.getD 3 false)
    rw [UInt8.zero_or, UInt8.zero_or, UInt8.zero_or] at hmarked
    exact (put_drives hmarked).put 0x18 rfl _

end Header

section Written

open Texts (start table length lengths descriptor descriptors block)

variable {chip : Chip} {size : Size} {s : Settings}

lemma length_front (h : Fits chip size s) :
    (outline chip s (start chip % size.bytes - 20)).length = start chip % size.bytes := by
  have hheader := h.header_le
  rw [length_header] at hheader
  rw [length_outline]
  omega

lemma length_more (chip : Chip) (s : Settings) :
    (descriptors s.texts ++ block chip s.notPlugAndPlay).length =
      Texts.footprint chip s.texts := by
  rw [List.length_append, length_descriptors, Texts.footprint]
  cases chip <;> rfl

lemma behind_front (h : Fits chip size s) :
    Cursor.Behind size (start chip - start chip % size.bytes)
      (outline chip s (start chip % size.bytes - 20)) (s.cursor chip size) := by
  have hfront := length_front h
  have hstart := Nat.mod_lt (start chip) size.bytes_pos
  have hsize := size.bytes_le
  refine ⟨rfl, ?_, ?_, Nat.sub_mod_eq_zero_of_mod_eq (Nat.mod_mod _ _).symm⟩
  · have hrest : 256 - start chip % size.bytes = 236 - (start chip % size.bytes - 20) := by
      rw [length_outline] at hfront
      omega
    rw [hfront, hrest]
    exact starts_shared chip s (by omega)
  · rw [hfront, Nat.sub_add_cancel (Nat.mod_le _ _)]
    rfl

lemma behind_block (h : Fits chip size s) :
    (s.described chip size).1 = Cursor.entries (start chip) s.slots ∧
      Cursor.Behind size (start chip - start chip % size.bytes)
        (outline chip s (start chip % size.bytes - 20) ++ descriptors s.texts ++
          block chip s.notPlugAndPlay) (s.described chip size).2 := by
  have hroom := h.room
  rw [Texts.footprint] at hroom
  have hlow : 0x80 ≤ start chip := by cases chip <;> decide
  have hhigh : start chip - start chip % size.bytes + size.bytes ≤ 256 := by
    obtain ⟨-, rfl | rfl, -⟩ := imageSize?_eq_some h.size_eq <;> cases chip <;> decide
  have hpos := size.bytes_pos
  have hlength := length_front h
  have hbase : start chip - start chip % size.bytes + start chip % size.bytes = start chip :=
    Nat.sub_add_cancel (Nat.mod_le _ _)
  have hslots : s.slots.map Prod.snd = s.texts := rfl
  obtain ⟨c, hc, hbehind⟩ := (behind_front h).putSlots s.slots h.ascii
    (by rw [hlength, hslots]; omega) (by rwa [hlength, hbase]) hhigh
  rw [hlength, hbase] at hc
  rw [hslots] at hbehind
  rw [described, hc]
  refine ⟨rfl, hbehind.putBlock chip s.notPlugAndPlay ?_⟩
  rw [List.length_append, hlength, length_descriptors]
  omega

lemma position_described (h : Fits chip size s) :
    (s.described chip size).2.position = start chip + Texts.footprint chip s.texts := by
  rw [(behind_block h).2.position_eq, List.append_assoc, List.length_append, length_front h,
    length_more, ← Nat.add_assoc, Nat.sub_add_cancel (Nat.mod_le _ _)]

lemma byte_described (h : Fits chip size s) {address : Fin 256}
    (hout : address < start chip % size.bytes ∨
      start chip % size.bytes + Texts.footprint chip s.texts ≤ address) :
    (s.described chip size).2.buffer.byte address = (s.cursor chip size).buffer.byte address := by
  have hfront := length_front h
  have hbefore := (behind_front h).starts
  have hafter := (behind_block h).2.starts
  rw [List.append_assoc] at hafter
  rw [Buffer.byte_eq_getD, Buffer.byte_eq_getD, hbefore, hafter]
  rcases hout with hlt | hge
  · rw [List.append_assoc, List.getD_append _ _ _ _ (by rwa [hfront]),
      List.getD_append _ _ _ _ (by rwa [hfront])]
  · rw [List.getD_append_right _ _ _ _ (by rw [List.length_append, hfront, length_more]; exact hge),
      List.getD_append_right _ _ _ _ (by rw [hfront]; omega), Buffer.getD_zeros, Buffer.getD_zeros]

lemma starts_header {rest : List UInt8} {buffer : Buffer}
    (h : Starts (outline chip s (Header.tail chip s).length) rest buffer) :
    Starts (Header.bytes chip s (table (start chip) s.texts)) rest
      (s.putOwn chip ((Cursor.entries (start chip) s.slots).foldl putEntry buffer)) :=
  starts_own (starts_table h)

lemma body_eq (chip : Chip) (size : Size) (s : Settings) :
    s.body chip size = Header.bytes chip s (table (start chip) s.texts) ++
      (List.replicate (start chip % size.bytes -
        (Header.bytes chip s (table (start chip) s.texts)).length) 0 ++
      (descriptors s.texts ++ block chip s.notPlugAndPlay)) := by
  simp only [body, List.rightpad, List.append_assoc]

lemma list_written (h : Fits chip size s) :
    (s.written chip size).list =
      s.body chip size ++ List.replicate (256 - (s.body chip size).length) 0 := by
  have hheader := h.header_le
  obtain ⟨hentries, hbehind⟩ := behind_block h
  have hzeros : start chip % size.bytes - 20 = (Header.tail chip s).length +
      (start chip % size.bytes - (Header.bytes chip s (table (start chip) s.texts)).length) := by
    rw [length_header] at hheader ⊢
    omega
  have hlength (more : List UInt8) :
      (outline chip s (Header.tail chip s).length ++ more).length =
        (Header.bytes chip s (table (start chip) s.texts) ++ more).length := by
    rw [List.length_append, List.length_append, length_outline, length_header]
  have hstarts := hbehind.starts
  rw [hzeros, outline_add, List.append_assoc, List.append_assoc, hlength, ← body_eq] at hstarts
  have hwritten := starts_header hstarts.regroup
  rw [Starts, ← List.append_assoc, ← body_eq] at hwritten
  rw [← hentries] at hwritten
  exact hwritten

lemma length_body (h : Fits chip size s) : (s.body chip size).length ≤ size.bytes - 2 := by
  have hheader := h.header_le
  have hroom := h.room
  rw [body_eq, List.length_append, List.length_append, length_more, List.length_replicate]
  omega

lemma starts_front (h : Fits chip size s) :
    Starts (Image.front size (s.body chip size)) (List.replicate (258 - size.bytes) 0)
      (s.written chip size) := by
  have hlength := length_body h
  have hsize := size.bytes_eq
  have hle := size.bytes_le
  rw [Starts, list_written h, Image.front, List.take_of_length_le hlength, List.rightpad,
    List.append_assoc, List.replicate_append_replicate]
  congr 2
  omega

lemma sealed_written (h : Fits chip size s) :
    sealed chip size (s.written chip size) = s.image chip size := by
  have hstarts := starts_front h
  have hsize := size.bytes_eq
  have hle := size.bytes_le
  have hplace : 2 * (size.words - 1) = (Image.front size (s.body chip size)).length := by
    rw [Image.length_front]
    omega
  have hzeros : List.replicate (258 - size.bytes) (0 : UInt8) =
      [0, 0] ++ List.replicate (256 - size.bytes) 0 := by
    rw [Nat.sub_add_comm (n := 256) (m := 2) hle]
    rfl
  have hsum : (s.written chip size).checksum size =
      (Image.ofList chip size (Image.front size (s.body chip size))).checksum := by
    rw [← hstarts.image chip size]
    exact Image.checksum_raw { chip, size, buffer := s.written chip size }
  rw [hzeros] at hstarts
  rw [sealed, hsum, image, Image.withChecksum_eq]
  exact (hstarts.putWord_next _ hplace _).image chip size

lemma textBytes_eq (h : s.texts.all (·.all Texts.isAscii)) : s.textBytes = lengths s.texts := by
  rw [textBytes]
  generalize s.texts = texts at h ⊢
  induction texts with
  | nil => rfl
  | cons text texts ih =>
    rw [List.all_cons, Bool.and_eq_true] at h
    cases text with
    | none =>
      have hnone : id (none : Option String) = none := rfl
      rw [List.filterMap_cons_none hnone, ih h.2, lengths, length, Nat.zero_add]
    | some text =>
      have hascii : ∀ c ∈ text.toList, c.toNat < 128 := by
        simpa only [Option.all_some, Texts.isAscii, List.all_eq_true, decide_eq_true_eq] using h.1
      have hsome : id (some text) = some text := rfl
      rw [List.filterMap_cons_some hsome, List.foldr_cons, ih h.2, lengths, length,
        Cursor.utf8ByteSize_of_ascii hascii, Nat.mul_comm]

lemma any_not_ascii (texts : List (Option String)) :
    (texts.any (·.any fun text => !Texts.isAscii text)) = !texts.all (·.all Texts.isAscii) := by
  rw [List.not_all_eq_any_not]
  congr 1
  funext text
  cases text <;> rfl

lemma write_eq_encode (chip : Chip) (s : Settings) : s.write chip = s.encode chip := by
  cases hsize : s.imageSize? chip with
  | none => simp only [write, encode, hsize]
  | some size =>
    have hstart := start_le (imageSize?_eq_some hsize).2.1 chip
    simp only [write, encode, hsize, any_not_ascii, Size.and_mask, Bool.not_eq_true']
    by_cases hascii : s.texts.all (·.all Texts.isAscii) = true
    · have hfootprint : (s.textBytes + if Texts.hasBlock chip then 3 else 0) =
          Texts.footprint chip s.texts := by rw [textBytes_eq hascii, Texts.footprint]
      have hroom : size.bytes - 2 < start chip % size.bytes + Texts.footprint chip s.texts ↔
          size.bytes - 2 - start chip % size.bytes < Texts.footprint chip s.texts := by omega
      rw [hfootprint, if_congr hroom rfl rfl]
      simp only [hascii, Bool.true_eq_false, not_true_eq_false, if_false]
      split_ifs with hfull
      · rfl
      · have hfits : Fits chip size s := ⟨hsize, List.all_eq_true.mp hascii, by omega⟩
        rw [sealed_written hfits, image]
    · rw [if_pos (Bool.eq_false_iff.mpr hascii), if_pos hascii]

end Written

end Settings

end UsbSerial.Eeprom
