import Mathlib.Data.List.GetD
import Mathlib.Data.Nat.Notation
import Mathlib.Order.Bounds.Defs
import Mathlib.Tactic.Lemma
import UsbSerial.Eeprom.Dump

namespace UsbSerial.Eeprom.Dump

section Repeats

variable {bytes : List UInt8} {m n : ℕ}

def Repeats (n : ℕ) (bytes : List UInt8) : Prop :=
  ∀ i < bytes.length, bytes.getD i 0 = bytes.getD (i % n) 0

instance : Decidable (Repeats n bytes) :=
  inferInstanceAs (Decidable (∀ i < bytes.length, bytes.getD i 0 = bytes.getD (i % n) 0))

/-- What a part shows at so many addresses, if its address lines wrap around. -/
def shown (part : List UInt8) (addresses : ℕ) : List UInt8 :=
  (List.range addresses).map fun i => part.getD (i % part.length) 0

lemma getD_shown (part : List UInt8) {addresses i : ℕ} (h : i < addresses) :
    (shown part addresses).getD i 0 = part.getD (i % part.length) 0 := by
  simp [shown, h]

lemma getD_take {i : ℕ} (h : i < m) : (bytes.take m).getD i 0 = bytes.getD i 0 := by
  simp [h]

lemma repeats_length (h : bytes.length ≤ n) : Repeats n bytes := by
  intro i hi
  rw [Nat.mod_eq_of_lt (Nat.lt_of_lt_of_le hi h)]

lemma repeats_iff_shown (hn : 0 < n) (hle : n ≤ bytes.length) :
    Repeats n bytes ↔ ∃ part : List UInt8, part.length = n ∧ bytes = shown part bytes.length := by
  constructor
  · intro h
    refine ⟨bytes.take n, List.length_take_of_le hle, ?_⟩
    apply List.ext_getElem
    · simp [shown]
    · intro i hi _
      have hmod := Nat.mod_lt i hn
      rw [← List.getD_eq_getElem _ 0 hi, ← List.getD_eq_getElem _ 0, getD_shown _ hi,
        List.length_take_of_le hle, getD_take hmod, ← h i hi]
  · rintro ⟨part, rfl, hshown⟩ i hi
    have hmod := Nat.mod_lt i hn
    rw [hshown, getD_shown _ hi, getD_shown _ (Nat.lt_of_lt_of_le hmod hle), Nat.mod_mod]

lemma repeats_iff_of_dvd (hdvd : n ∣ m) (hm : 0 < m) (hle : m ≤ bytes.length) :
    Repeats n bytes ↔ Repeats m bytes ∧ Repeats n (bytes.take m) := by
  -- A repetition within a repetition is one of the whole.
  have hn := Nat.pos_of_dvd_of_pos hdvd hm
  have hlt {i : ℕ} : i % m < bytes.length := Nat.lt_of_lt_of_le (Nat.mod_lt i hm) hle
  constructor
  · intro h
    constructor
    · intro i hi
      rw [h i hi, h (i % m) hlt, Nat.mod_mod_of_dvd i hdvd]
    · intro i hi
      rw [List.length_take_of_le hle] at hi
      rw [getD_take hi, getD_take (Nat.lt_of_le_of_lt (Nat.mod_le i n) hi),
        h i (Nat.lt_of_lt_of_le hi hle)]
  · rintro ⟨hwhole, hfront⟩ i hi
    have hmod := Nat.mod_lt i hm
    have hfront := hfront (i % m) (by rwa [List.length_take_of_le hle])
    rw [getD_take hmod, getD_take (Nat.lt_of_le_of_lt (Nat.mod_le _ n) hmod),
      Nat.mod_mod_of_dvd i hdvd]
      at hfront
    rw [hwhole i hi, hfront]

lemma repeats_iff_halves (hlen : bytes.length = 2 * n) :
    Repeats n bytes ↔ bytes.take n = bytes.drop n := by
  constructor
  · intro h
    apply List.ext_getElem
    · simp only [List.length_take, List.length_drop]
      omega
    · intro i hi _
      rw [List.length_take] at hi
      have hsame := h (n + i) (by omega)
      rw [Nat.add_mod_left, Nat.mod_eq_of_lt (by omega), List.getD_eq_getElem _ _ (by omega),
        List.getD_eq_getElem _ _ (by omega)] at hsame
      rw [List.getElem_take, List.getElem_drop, hsame]
  · intro h i hi
    rcases Nat.lt_or_ge i n with hlow | hhigh
    · rw [Nat.mod_eq_of_lt hlow]
    · obtain ⟨k, rfl⟩ := Nat.exists_eq_add_of_le hhigh
      have hsame := congrArg (fun l => l.getD k 0) h
      simp only [getD_take (show k < n by omega), List.getD_eq_getElem?_getD,
        List.getElem?_drop] at hsame
      rw [Nat.add_mod_left, Nat.mod_eq_of_lt (by omega), List.getD_eq_getElem?_getD, ← hsame,
        List.getD_eq_getElem?_getD]

end Repeats

section Size

variable {chip : Chip} {dump : List UInt8}

lemma size_of_repeats (hchip : chip ≠ .ft232R) (hlen : dump.length = 256)
    (hset : ∃ b ∈ dump, b ≠ 0xFF) :
    size chip dump = if Repeats 128 dump then .bytes128
      else if Repeats 64 (dump.take 128) then .bytes64 else .bytes256 := by
  have hblank : ¬ dump.all (· = 0xFF) = true := by simpa using hset
  have hhalf : (dump.take 128).length = 2 * 64 := by rw [List.length_take, hlen]; rfl
  have hquarters : Repeats 64 (dump.take 128) ↔ dump.take 64 = (dump.drop 64).take 64 := by
    rw [repeats_iff_halves hhalf, List.take_take, List.drop_take]
    rfl
  rw [size, if_neg hchip, if_neg hblank]
  simp only [repeats_iff_halves (n := 128) hlen, hquarters]

lemma repeats_quarters_iff (hlen : dump.length = 256) :
    Repeats 64 dump ↔ Repeats 128 dump ∧ Repeats 64 (dump.take 128) :=
  repeats_iff_of_dvd (by decide) (by decide) (by omega)

def fitting (dump : List UInt8) : Set ℕ := {n | n ∈ [64, 128, 256] ∧ Repeats n dump}

lemma mem_fitting {n : ℕ} : n ∈ fitting dump ↔ n ∈ [64, 128, 256] ∧ Repeats n dump := Iff.rfl

lemma isLeast_fitting_halves (hhalves : Repeats 128 dump) (hquarters : ¬ Repeats 64 dump) :
    IsLeast (fitting dump) 128 := by
  refine ⟨⟨by decide, hhalves⟩, fun n hn => ?_⟩
  obtain ⟨hsize, hn⟩ := mem_fitting.mp hn
  have hne : n ≠ 64 := by
    rintro rfl
    exact hquarters hn
  simp only [List.mem_cons, List.not_mem_nil, or_false] at hsize
  omega

lemma isLeast_fitting_whole (hlen : dump.length = 256) (hhalves : ¬ Repeats 128 dump) :
    IsLeast (fitting dump) 256 := by
  refine ⟨⟨by decide, repeats_length (by omega)⟩, fun n hn => ?_⟩
  obtain ⟨hsize, hn⟩ := mem_fitting.mp hn
  have hne : n ≠ 64 ∧ n ≠ 128 := by
    constructor
    · rintro rfl
      exact hhalves ((repeats_quarters_iff hlen).mp hn).1
    · rintro rfl
      exact hhalves hn
  simp only [List.mem_cons, List.not_mem_nil, or_false] at hsize
  omega

/-- The halves are compared before the quarters, and of the quarters only the first two: where
these are alike, a part of one quarter is taken for one of two, and anything else for one. -/
theorem size_least_iff (hchip : chip ≠ .ft232R) (hlen : dump.length = 256)
    (hset : ∃ b ∈ dump, b ≠ 0xFF) :
    (IsLeast (fitting dump) (size chip dump).bytes ↔ ¬ Repeats 64 (dump.take 128)) ∧
      (Repeats 64 dump → size chip dump = .bytes128) ∧
      (Repeats 64 (dump.take 128) → ¬ Repeats 64 dump → size chip dump = .bytes64) ∧
      ∀ n ∈ [64, 128, 256], Repeats n dump ↔
        ∃ part : List UInt8, part.length = n ∧ dump = shown part 256 := by
  rw [size_of_repeats hchip hlen hset]
  have hquarters := repeats_quarters_iff hlen
  refine ⟨?_, ?_, ?_, ?_⟩
  · by_cases hhalves : Repeats 128 dump <;> by_cases hfront : Repeats 64 (dump.take 128)
    · rw [if_pos hhalves]
      have hlow : 64 ∈ fitting dump := ⟨by decide, hquarters.mpr ⟨hhalves, hfront⟩⟩
      refine iff_of_false (fun hleast => ?_) (not_not_intro hfront)
      exact absurd (hleast.2 hlow) (by decide)
    · rw [if_pos hhalves]
      have hhigh : ¬ Repeats 64 dump := fun h => hfront (hquarters.mp h).2
      exact iff_of_true (isLeast_fitting_halves hhalves hhigh) hfront
    · rw [if_neg hhalves, if_pos hfront]
      refine iff_of_false (fun hleast => ?_) (not_not_intro hfront)
      exact hhalves (hquarters.mp hleast.1.2).1
    · rw [if_neg hhalves, if_neg hfront]
      exact iff_of_true (isLeast_fitting_whole hlen hhalves) hfront
  · intro h
    rw [if_pos (hquarters.mp h).1]
  · intro hfront h
    rw [if_neg fun hhalves => h (hquarters.mpr ⟨hhalves, hfront⟩), if_pos hfront]
  · intro n hn
    have hbounds : 0 < n ∧ n ≤ 256 := by
      simp only [List.mem_cons, List.not_mem_nil, or_false] at hn
      omega
    rw [repeats_iff_shown hbounds.1 (by omega), hlen]

theorem size_least_iff_halves :
    let dump := shown ((List.range 128).map Nat.toUInt8) 256
    (Chip.bm ≠ .ft232R ∧ dump.length = 256 ∧ ∃ b ∈ dump, b ≠ 0xFF) ∧
      IsLeast (fitting dump) (size .bm dump).bytes ∧ (size .bm dump).bytes = 128 := by
  intro dump
  have hchip : Chip.bm ≠ .ft232R := by decide
  have hlen : dump.length = 256 := by decide +kernel
  have hset : ∃ b ∈ dump, b ≠ 0xFF := by decide +kernel
  have hfront : ¬ Repeats 64 (dump.take 128) := by decide +kernel
  exact ⟨⟨hchip, hlen, hset⟩, (size_least_iff hchip hlen hset).1.mpr hfront, by decide +kernel⟩

theorem quarters_taken_for_halves :
    let part := (List.range 64).map Nat.toUInt8
    let dump := shown part 256
    dump.length = 256 ∧ (∃ b ∈ dump, b ≠ 0xFF) ∧ Repeats 64 dump ∧
      size .bm dump = .bytes128 ∧ ¬ IsLeast (fitting dump) (size .bm dump).bytes := by
  intro part dump
  have hquarters : Repeats 64 dump := by decide +kernel
  have hsize : size .bm dump = .bytes128 := by decide +kernel
  refine ⟨by decide +kernel, by decide +kernel, hquarters, hsize, ?_⟩
  rw [hsize]
  intro hleast
  exact absurd (hleast.2 ⟨by decide, hquarters⟩) (by decide)

end Size

end UsbSerial.Eeprom.Dump
