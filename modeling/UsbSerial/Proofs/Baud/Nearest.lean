import UsbSerial.Proofs.Baud.Clocked

namespace UsbSerial.Baud

section Rates

def Achievable (actual : ℕ) : Prop := ∃ d, Possible d ∧ (actual : ℤ) = round ((24000000 : ℚ) / d)

lemma achievable_iff {actual : ℕ} :
    Achievable actual ↔ ∃ d, Possible d ∧ actual = roundDiv 24000000 d := by
  refine exists_congr fun d => and_congr_right fun hd => ?_
  rw [← Int.natCast_inj, ← round_div _ hd.pos]
  norm_num

lemma achievable_one : Achievable 3000000 := achievable_iff.mpr ⟨8, .inl rfl, rfl⟩

lemma achievable_oneAndHalf : Achievable 2000000 := achievable_iff.mpr ⟨12, .inr (.inl rfl), rfl⟩

lemma Achievable.cases {actual : ℕ} (h : Achievable actual) :
    actual = 3000000 ∨ actual = 2000000 ∨ 183 ≤ actual ∧ actual ≤ 1500000 := by
  obtain ⟨d, rfl | rfl | ⟨hlow, hlt⟩, rfl⟩ := achievable_iff.mp h
  · exact .inl rfl
  · exact .inr (.inl rfl)
  · have hslowest : roundDiv 24000000 0x1FFFF ≤ roundDiv 24000000 d :=
      roundDiv_anti (by omega) (by omega)
    have htwo : roundDiv 24000000 d ≤ roundDiv 24000000 16 := roundDiv_anti (by decide) hlow
    exact .inr (.inr ⟨hslowest, htwo⟩)

end Rates

section Slow

variable {rate : ℕ}

def slowRate (rate : ℕ) : ℕ := (nearest slowClock 16 rate).2

lemma slowRate_eq (hrate : rate ≠ 0) :
    slowRate rate = roundDiv 24000000 (nearestDivisor slowClock 16 rate) := by
  rw [slowRate, slow_clocked.nearest_eq rate hrate]

lemma achievable_slowRate (hrate : rate ≠ 0) : Achievable (slowRate rate) :=
  achievable_iff.mpr ⟨_, slow_clocked.possible rate hrate, slowRate_eq hrate⟩

lemma slowRate_of_ge (h : 1500000 ≤ rate) :
    slowRate rate = if 3000000 ≤ rate then 3000000 else if 2000000 ≤ rate then 2000000
      else 1500000 :=
  nearest_of_ge h

lemma slowRate_of_le (hrate : rate ≠ 0) (h : rate ≤ 183) : slowRate rate = 183 := by
  have hquotient : roundDiv 24000000 183 ≤ roundDiv 24000000 rate :=
    roundDiv_anti (Nat.pos_of_ne_zero hrate) h
  have hclamp : 0x1FFFF ≤ roundDiv 24000000 183 := by decide
  rw [slowRate, slow_clocked.nearest_of_lt hrate (by rw [slow_two]; omega),
    Nat.min_eq_right (hclamp.trans hquotient)]
  rfl

lemma close_slowRate_iff (hrate : rate ≠ 0) :
    close (slowRate rate) rate = true ↔ 175 ≤ rate ∧ rate ≤ 1575000 ∨
      2000000 ≤ rate ∧ rate ≤ 2100000 ∨ 3000000 ≤ rate ∧ rate ≤ 3150000 :=
  close_slow_iff hrate

end Slow

section Refused

variable {rate : ℕ} (hrate : rate ≠ 0) (hfar : close (slowRate rate) rate = false)

include hrate hfar

lemma refused_cases : rate < 175 ∧ slowRate rate = 183 ∨
    1575000 < rate ∧ rate < 2000000 ∧ slowRate rate = 1500000 ∨
    2100000 < rate ∧ rate < 3000000 ∧ slowRate rate = 2000000 ∨
    3150000 < rate ∧ slowRate rate = 3000000 := by
  have hranges := mt (close_slowRate_iff hrate).mpr (Bool.not_eq_true _ ▸ hfar)
  rcases Nat.lt_or_ge rate 175 with hlow | hhigh
  · exact .inl ⟨hlow, slowRate_of_le hrate (by omega)⟩
  · rw [slowRate_of_ge (by omega)]
    split_ifs <;> omega

lemma none_close_iff : (∀ actual, Achievable actual → close actual rate = false) ↔
    ¬ (1904762 ≤ rate ∧ rate < 2000000 ∨ 2857143 ≤ rate ∧ rate < 3000000) := by
  have hcases := refused_cases hrate hfar
  constructor
  · rintro hnone (hgap | hgap)
    · have hclose : close 2000000 rate = true := close_iff.mpr (by omega)
      exact absurd (hnone _ achievable_oneAndHalf) (Bool.not_eq_false _ ▸ hclose)
    · have hclose : close 3000000 rate = true := close_iff.mpr (by omega)
      exact absurd (hnone _ achievable_one) (Bool.not_eq_false _ ▸ hclose)
  · intro hgap actual hactual
    rw [← Bool.not_eq_true, close_iff]
    have := hactual.cases
    omega

lemma nearest_iff : (∀ actual, Achievable actual →
      distance (slowRate rate) rate ≤ distance actual rate) ↔
    ¬ (1750000 < rate ∧ rate < 2000000 ∨ 2500000 < rate ∧ rate < 3000000) := by
  -- What is reported is the next one down, though the next one up may be nearer.
  have hcases := refused_cases hrate hfar
  unfold distance
  constructor
  · rintro hnearest (hgap | hgap)
    · have := hnearest _ achievable_oneAndHalf
      omega
    · have := hnearest _ achievable_one
      omega
  · intro hgap actual hactual
    have := hactual.cases
    omega

end Refused

end UsbSerial.Baud
