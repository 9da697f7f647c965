import Mathlib.Tactic.SplitIfs
import UsbSerial.Baud
import UsbSerial.Device.Listing
import UsbSerial.Eeprom.Dump
import UsbSerial.Proofs.Eeprom.Layout
import UsbSerial.Proofs.Packet.InPlace

/-! Accesses by place. An access to places that a list does not have comes to nothing. -/

namespace UsbSerial

namespace Access

variable {α : Type}

def slice? (l : List α) (start stop : ℕ) : Option (List α) :=
  if start ≤ stop ∧ stop ≤ l.length then some ((l.take stop).drop start) else none

def overwrite? (l : List α) (start stop : ℕ) (source : List α) : Option (List α) :=
  if start ≤ stop ∧ stop ≤ l.length ∧ source.length = stop - start then
    some (l.take start ++ source ++ l.drop stop)
  else none

def copyWithin? (l : List α) (start stop target : ℕ) : Option (List α) := do
  overwrite? l target (target + (stop - start)) (← slice? l start stop)

variable {l : List α} {start stop : ℕ}

lemma slice?_eq (h : start ≤ stop) (hl : stop ≤ l.length) :
    slice? l start stop = some ((l.take stop).drop start) :=
  if_pos ⟨h, hl⟩

lemma slice?_take (hl : stop ≤ l.length) : slice? l 0 stop = some (l.take stop) :=
  slice?_eq (Nat.zero_le stop) hl

lemma slice?_drop (hl : start ≤ l.length) : slice? l start l.length = some (l.drop start) := by
  rw [slice?_eq hl (Nat.le_refl _), List.take_length]

lemma overwrite?_eq {source : List α} (h : start ≤ stop) (hl : stop ≤ l.length)
    (hsource : source.length = stop - start) :
    overwrite? l start stop source = some (l.take start ++ source ++ l.drop stop) :=
  if_pos ⟨h, hl, hsource⟩

lemma overwrite?_zero {source : List α} (hl : source.length ≤ l.length) :
    overwrite? l 0 source.length source = some (source ++ l.drop source.length) :=
  overwrite?_eq (Nat.zero_le _) hl (Nat.sub_zero _).symm

lemma slice?_front (l rest : List α) (n : ℕ) :
    slice? (l ++ rest) 0 (min n l.length) = some (l.take n) := by
  have hle := Nat.min_le_right n l.length
  rw [slice?_take (by rw [List.length_append]; omega), List.take_append_of_le_length hle,
    ← List.take_take, List.take_length]

lemma slice?_behind (l rest : List α) (n : ℕ) :
    slice? (l ++ rest) (min n l.length) l.length = some (l.drop n) := by
  rw [slice?_eq (Nat.min_le_right _ _) (by rw [List.length_append]; omega), List.take_left]
  rcases Nat.le_total l.length n with h | h
  · rw [Nat.min_eq_right h, List.drop_length, List.drop_eq_nil_of_le h]
  · rw [Nat.min_eq_left h]

lemma overwrite?_front (l buffer : List α) :
    overwrite? buffer 0 (min buffer.length l.length) (l.take buffer.length) =
      some (l.take buffer.length ++ buffer.drop (min buffer.length l.length)) := by
  rw [← List.length_take, overwrite?_zero (by
    rw [List.length_take]
    exact Nat.min_le_left _ _)]

lemma copyWithin?_eq {target : ℕ} (h : start ≤ stop) (hl : stop ≤ l.length)
    (htarget : target ≤ start) :
    copyWithin? l start stop target =
      some (l.take target ++ (l.drop start).take (stop - start) ++
        l.drop (target + (stop - start))) := by
  have hsource : ((l.take stop).drop start).length = target + (stop - start) - target := by
    rw [List.length_drop, List.length_take]
    omega
  rw [copyWithin?, slice?_eq h hl]
  change overwrite? l target (target + (stop - start)) ((l.take stop).drop start) = _
  rw [overwrite?_eq (by omega) (by omega) hsource, List.drop_take]

end Access

namespace Baud.Tables

def fractionCodes : List ℕ := [0, 3, 2, 4, 1, 5, 6, 7]

def amStepsDown : List ℕ := [0, 0, 0, 1, 0, 3, 2, 1]

def amStepsUp : List ℕ := [0, 0, 0, 1, 0, 1, 2, 3]

def encode? (divisor : ℕ) : Option ℕ := do
  return divisor / 8 + (← fractionCodes[divisor % 8]?) * 16384

def amBase? (rate : ℕ) : Option ℕ := do
  let quotient := amClock / rate
  return quotient - (← amStepsDown[quotient % 8]?)

def amCandidate? (base step : ℕ) : Option ℕ :=
  let d := base + step
  if d ≤ 8 then some 8
  else if base < 16 then some 16
  else do return min (d + (← amStepsUp[d % 8]?)) amLargest

def amDivisor? (rate : ℕ) : Option ℕ := do
  let base ← amBase? rate
  let lower ← amCandidate? base 0
  let upper ← amCandidate? base 1
  return if distance (amRate upper) rate < distance (amRate lower) rate then upper else lower

def amCode? (divisor : ℕ) : Option ℕ := do
  let code ← encode? divisor
  return match code with
    | 0x0001 => 0
    | 0x4001 => 1
    | code => code

def nearest? (clock prediv rate : ℕ) : Option (ℕ × ℕ) :=
  if clock / prediv ≤ rate then some (0, clock / prediv)
  else if clock / (prediv + prediv / 2) ≤ rate then some (1, clock / (prediv + prediv / 2))
  else if clock / (2 * prediv) ≤ rate then some (2, clock / (2 * prediv))
  else do
    let d := divisor clock prediv rate
    return (← encode? d, rateOf clock prediv d)

def code? (chip : Chip) (rate : ℕ) : Option (ℕ × ℕ) :=
  match chip with
  | .am => do
      let d ← amDivisor? rate
      return (← amCode? d, amRate d)
  | .bm | .ft2232C | .ft232R => nearest? slowClock 16 rate
  | .ft2232H | .ft4232H =>
      if fastClock / 0x3FFF < rate * 10 then do
        let (c, actual) ← nearest? fastClock 10 rate
        return (c + fastBit, actual)
      else nearest? slowClock 16 rate

def lookUp? (chip : Chip) (channel : UInt16) (rate : ℕ) : Option (Option Setting) :=
  if rate = 0 then some none
  else do
    let (c, actual) ← code? chip rate
    return if actual = 0 then none
      else some { actual, value := c.toUInt16, index := index chip channel c }

lemma fractionCodes_mod (n : ℕ) : fractionCodes[n % 8]? = some (fractionCode (n % 8)) := by
  have h : ∀ k < 8, fractionCodes[k]? = some (fractionCode k) := by decide
  exact h _ (Nat.mod_lt n (by decide))

lemma amStepsDown_mod (n : ℕ) : amStepsDown[n % 8]? = some (amStepDown (n % 8)) := by
  have h : ∀ k < 8, amStepsDown[k]? = some (amStepDown k) := by decide
  exact h _ (Nat.mod_lt n (by decide))

lemma amStepsUp_mod (n : ℕ) : amStepsUp[n % 8]? = some (amStepUp (n % 8)) := by
  have h : ∀ k < 8, amStepsUp[k]? = some (amStepUp k) := by decide
  exact h _ (Nat.mod_lt n (by decide))

lemma encode?_eq (divisor : ℕ) : encode? divisor = some (encode divisor) := by
  rw [encode?, fractionCodes_mod]
  rfl

lemma amCandidate?_eq (base step : ℕ) : amCandidate? base step = some (amCandidate base step) := by
  rw [amCandidate?, amCandidate, amStepsUp_mod]
  split_ifs <;> rfl

lemma amDivisor?_eq (rate : ℕ) : amDivisor? rate = some (amDivisor rate) := by
  have hbase : amBase? rate = some (amBase rate) := by
    rw [amBase?, amStepsDown_mod]
    rfl
  simp only [amDivisor?, hbase, amCandidate?_eq]
  rfl

lemma amCode?_eq (divisor : ℕ) : amCode? divisor = some (amCode divisor) := by
  rw [amCode?, encode?_eq]
  rfl

lemma nearest?_eq (clock prediv rate : ℕ) :
    nearest? clock prediv rate = some (nearest clock prediv rate) := by
  simp only [nearest?, nearest, encode?_eq]
  split_ifs <;> rfl

lemma code?_eq (chip : Chip) (rate : ℕ) : code? chip rate = some (code chip rate) := by
  cases chip
  case am =>
    simp only [code?, amDivisor?_eq, code, Option.bind_eq_bind, Option.bind_some, amCode?_eq]
    rfl
  case bm | ft2232C | ft232R => exact nearest?_eq slowClock 16 rate
  case ft2232H | ft4232H =>
    simp only [code?, code, nearest?_eq]
    split_ifs <;> rfl

lemma lookUp?_eq (chip : Chip) (channel : UInt16) (rate : ℕ) :
    lookUp? chip channel rate = some (setting? chip channel rate) := by
  rw [lookUp?, setting?, code?_eq]
  split_ifs <;> rfl

end Baud.Tables

open Access

namespace Device.Label

def cut : ℕ → List Char → ℕ
  | _, [] => 0
  | room, c :: cs => if units c ≤ room then c.utf8Size + cut (room - units c) cs else 0

def utf8Length : List Char → ℕ
  | [] => 0
  | c :: cs => c.utf8Size + utf8Length cs

def upTo? : ℕ → List Char → Option (List Char)
  | 0, _ => some []
  | _ + 1, [] => none
  | n + 1, c :: cs =>
      if c.utf8Size ≤ n + 1 then (c :: ·) <$> upTo? (n + 1 - c.utf8Size) cs else none

def bounded? (s : String) (room : ℕ) : Option Label := do
  let stop := cut room s.toList
  let kept ← upTo? stop s.toList
  return { text := String.ofList kept, truncated := stop < utf8Length s.toList }

lemma upTo?_cons (n : ℕ) (c : Char) (cs : List Char) :
    upTo? (c.utf8Size + n) (c :: cs) = (c :: ·) <$> upTo? n cs := by
  obtain ⟨m, hm⟩ := Nat.exists_eq_succ_of_ne_zero (Nat.ne_of_gt c.utf8Size_pos)
  have hn : c.utf8Size + n = (m + n) + 1 := by omega
  rw [hn, upTo?, if_pos (by omega)]
  congr 2
  omega

lemma upTo?_cut (room : ℕ) (cs : List Char) :
    upTo? (cut room cs) cs = some (fitting room cs) := by
  induction cs generalizing room with
  | nil => rfl
  | cons c cs ih =>
    rw [cut, fitting]
    split
    · rw [upTo?_cons, ih]
      rfl
    · rfl

lemma cut_lt_iff (room : ℕ) (cs : List Char) :
    cut room cs < utf8Length cs ↔ (fitting room cs).length < cs.length := by
  induction cs generalizing room with
  | nil => rfl
  | cons c cs ih =>
    have hc := c.utf8Size_pos
    have ih := ih (room - units c)
    rw [cut, utf8Length, fitting]
    split
    · rw [List.length_cons, List.length_cons]
      omega
    · rw [List.length_nil, List.length_cons]
      omega

lemma bounded?_eq (s : String) (room : ℕ) : bounded? s room = some (bounded s room) := by
  simp only [bounded?, bounded, upTo?_cut, cut_lt_iff]
  rfl

end Device.Label

namespace Device.Descriptor

variable {δ : Type}

def ofTexts? (device : δ) (ids : Usb.Ids) (texts : Usb.Texts) (limit : ℕ) :
    Option (Descriptor δ) := do
  return {
    vendor := ids.vendor
    product := ids.product
    manufacturer := ← texts.manufacturer.mapM (Label.bounded? · limit)
    description := ← texts.product.mapM (Label.bounded? · limit)
    serial := ← texts.serial.mapM (Label.bounded? · limit)
    device }

lemma ofTexts?_eq (device : δ) (ids : Usb.Ids) (texts : Usb.Texts) (limit : ℕ) :
    ofTexts? device ids texts limit = some (ofTexts device ids texts limit) := by
  have hlabel (text : Option String) :
      text.mapM (Label.bounded? · limit) = some (text.map (Label.bounded · limit)) := by
    cases text with
    | none => rfl
    | some s => simp [Label.bounded?_eq]
  simp only [ofTexts?, hlabel]
  rfl

end Device.Descriptor

namespace Packet

def stripFrom? (size total : ℕ) (data : List UInt8) (start kept : ℕ) :
    Option (List UInt8 × ℕ) :=
  if statusBytes < size ∧ start < total then
    let stop := min (start + size) total
    if stop - start ≤ statusBytes then stripFrom? size total data (start + size) kept
    else do
      let data ← copyWithin? data (start + statusBytes) stop kept
      stripFrom? size total data (start + size) (kept + (stop - (start + statusBytes)))
  else some (data, kept)
termination_by total - start
decreasing_by all_goals simp only [statusBytes] at *; omega

def strip? (size : ℕ) (data : List UInt8) : Option (List UInt8 × ℕ) :=
  stripFrom? size data.length data 0 0

lemma stripFrom?_eq (size : ℕ) (data : Array UInt8) {start kept : ℕ} (h : kept ≤ start) :
    stripFrom? size data.size data.toList start kept =
      some ((compact size data start kept).1.toList, (compact size data start kept).2) := by
  induction data, start, kept using compact.induct size with
  | case1 data start kept hstart count ih =>
    have hcount : count = min (start + size) data.size - (start + statusBytes) := rfl
    clear_value count
    have ih := ih (by omega)
    rw [size_moveDown] at ih
    have hcompact : compact size data start kept =
        compact size (moveDown data (start + statusBytes) kept count) (start + size)
          (kept + count) := by
      rw [compact, if_pos hstart, hcount]
    rw [hcompact, ← ih, stripFrom?, if_pos hstart]
    dsimp only
    rw [← hcount]
    split
    · -- A packet of status bytes alone leaves everything where it is.
      have hnone : count = 0 := by omega
      rw [hnone, moveDown, Nat.add_zero]
    · have hstop : min (start + size) data.size ≤ data.toList.length := Nat.min_le_right _ _
      rw [copyWithin?_eq (by omega) hstop (by omega), ← hcount,
        ← toList_moveDown data (start + statusBytes) kept count (by omega) (by omega)]
      rfl
  | case2 data start kept hstart =>
    rw [stripFrom?, if_neg hstart, compact, if_neg hstart]

lemma strip?_eq (size : ℕ) (data : List UInt8) :
    ∃ rest, strip? size data = some (strip size data ++ rest, (strip size data).length) := by
  have hstrip := stripFrom?_eq size data.toArray (Nat.le_refl 0)
  have hmoves := compact_eq_moves size data.toArray 0 0
  have hkept : (compact size data.toArray 0 0).2 ≤ (compact size data.toArray 0 0).1.size := by
    rw [hmoves, size_foldl_apply]
    exact sum_moves_le (Nat.le_refl 0) (Nat.zero_le _)
  have hlength : (strip size data).length = (compact size data.toArray 0 0).2 := by
    rw [strip, List.length_take, Array.length_toList, Nat.min_eq_left hkept]
  refine ⟨(compact size data.toArray 0 0).1.toList.drop (compact size data.toArray 0 0).2, ?_⟩
  rw [hlength, strip, List.take_append_drop]
  exact hstrip

end Packet

namespace Word

def first? (data : List UInt8) : Option UInt16 := do
  return ofBytes (← data[0]?) (← data[1]?)

def read? (data : List UInt8) (address : ℕ) : Option UInt16 := do
  first? (← slice? data (2 * address) (2 * address + 2))

lemma read?_eq {data : List UInt8} {address : ℕ} (h : 2 * address + 1 < data.length) :
    read? data address = some (read data address) := by
  have hlow : 2 * address < data.length := by omega
  have hslice : (data.take (2 * address + 2)).drop (2 * address) =
      [data[2 * address], data[2 * address + 1]] := by
    rw [List.drop_take, List.drop_eq_getElem_cons hlow, List.drop_eq_getElem_cons h,
      Nat.add_sub_cancel_left]
    rfl
  rw [read?, slice?_eq (by omega) (by omega), hslice, read, List.getD_eq_getElem _ _ hlow,
    List.getD_eq_getElem _ _ h]
  rfl

lemma length_flatMap_bytes (words : List UInt16) :
    (words.flatMap bytes).length = 2 * words.length := by
  induction words with
  | nil => rfl
  | cons word words ih =>
    rw [List.flatMap_cons, List.length_append, ih, List.length_cons]
    exact Nat.add_comm 2 _

end Word

namespace Eeprom

def store? (buffer : List UInt8) (address : ℕ) (word : UInt16) : Option (List UInt8) :=
  overwrite? buffer (2 * address) (2 * address + 2) (Word.bytes word)

def Dump.size? (chip : Chip) (buffer : List UInt8) : Option Size :=
  if chip = .ft232R then some .bytes128
  else if buffer.all (· = 0xFF) then some .bytes256
  else do
    if (← slice? buffer 0 128) = (← slice? buffer 128 buffer.length) then return .bytes128
    if (← slice? buffer 0 64) = (← slice? buffer 64 128) then return .bytes64
    return .bytes256

lemma slice?_bytes (img : Image) :
    slice? img.buffer.toList 0 img.size.bytes = some img.bytes :=
  slice?_take (by rw [Vector.length_toList]; exact img.size.bytes_le)

lemma store?_rightpad {words : List UInt16} {n : ℕ} (h : 2 * words.length + 2 ≤ n)
    (word : UInt16) :
    store? ((words.flatMap Word.bytes).rightpad n 0) words.length word =
      some (((words ++ [word]).flatMap Word.bytes).rightpad n 0) := by
  have hbytes := Word.length_flatMap_bytes words
  have hzeros : n - 2 * words.length = 2 + (n - (2 * words.length + 2)) := by omega
  rw [store?, List.rightpad, overwrite?_eq (by omega)
    (by rw [List.length_append, List.length_replicate]; omega)
    (by rw [Nat.add_sub_cancel_left]; rfl), hbytes, List.take_left' hbytes, hzeros,
    List.replicate_add, ← List.append_assoc, List.drop_left' (by
      rw [List.length_append, List.length_replicate, hbytes]), List.rightpad,
    Word.length_flatMap_bytes, List.length_append, List.flatMap_append]
  rfl

lemma Dump.size?_eq (chip : Chip) {buffer : List UInt8} (h : buffer.length = 256) :
    size? chip buffer = some (size chip buffer) := by
  have hlower : slice? buffer 0 128 = some (buffer.take 128) := slice?_take (by omega)
  have hupper : slice? buffer 128 buffer.length = some (buffer.drop 128) :=
    slice?_drop (by omega)
  have hfirst : slice? buffer 0 64 = some (buffer.take 64) := slice?_take (by omega)
  have hsecond : slice? buffer 64 128 = some ((buffer.drop 64).take 64) := by
    rw [slice?_eq (by decide) (by omega), List.drop_take]
  simp only [size?, size, hlower, hupper, hfirst, hsecond, Option.bind_eq_bind, Option.bind_some,
    Option.pure_def]
  split_ifs <;> rfl

lemma Image.ofList_rightpad (chip : Chip) (size : Size) (data : List UInt8) (n : ℕ) :
    ofList chip size (data.rightpad n 0) = ofList chip size data := by
  simp only [ofList, getD_rightpad]

lemma Dump.size?_rightpad {chip : Chip} {words : List UInt16}
    (h : words.length = chip.eepromWords) :
    size? chip ((words.flatMap Word.bytes).rightpad 256 0) =
      some (size chip (words.flatMap Word.bytes)) := by
  by_cases hchip : chip = .ft232R
  · rw [size?, size, if_pos hchip, if_pos hchip]
  · have hwords : chip.eepromWords = 128 := by
      cases chip
      case ft232R => exact absurd rfl hchip
      all_goals rfl
    have hlength : (words.flatMap Word.bytes).length = 256 := by
      rw [Word.length_flatMap_bytes, h, hwords]
    have hpad : (words.flatMap Word.bytes).rightpad 256 0 = words.flatMap Word.bytes := by
      rw [List.rightpad, hlength, Nat.sub_self, List.replicate_zero, List.append_nil]
    rw [hpad, size?_eq chip hlength]

end Eeprom

namespace Session

def chunksFrom? (size : ℕ) (data : List UInt8) (start : ℕ) : Option (List (List UInt8)) :=
  if size = 0 then none
  else if start < data.length then do
    let chunk ← slice? data start (min (start + size) data.length)
    return chunk :: (← chunksFrom? size data (start + size))
  else some []
termination_by data.length - start

lemma chunksFrom?_eq {size : ℕ} (size_pos : 0 < size) (data : List UInt8) (start : ℕ) :
    chunksFrom? size data start = some (pieces size size_pos (data.drop start)) := by
  induction start using chunksFrom?.induct size data with
  | case1 start hsize => exact absurd hsize (Nat.ne_of_gt size_pos)
  | case2 start hsize hstart ih =>
    have hrest : data.drop start ≠ [] := by
      rw [ne_eq, List.drop_eq_nil_iff]
      omega
    have hchunk : (data.take (min (start + size) data.length)).drop start =
        (data.drop start).take size := by
      rw [List.drop_take, List.take_eq_take_iff, List.length_drop]
      omega
    have hpieces : pieces size size_pos (data.drop start) =
        (data.drop start).take size :: pieces size size_pos (data.drop (start + size)) := by
      rw [pieces, if_neg hrest, List.drop_drop]
    rw [chunksFrom?, if_neg hsize, if_pos hstart, slice?_eq (by omega) (by omega), ih, hchunk,
      hpieces]
    rfl
  | case3 start hsize hstart =>
    rw [chunksFrom?, if_neg hsize, if_neg hstart, List.drop_eq_nil_of_le (by omega), pieces,
      if_pos rfl]

end Session

end UsbSerial
