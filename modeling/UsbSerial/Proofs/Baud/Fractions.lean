import UsbSerial.Proofs.Baud.Request

/-! The eighths of an AM. Whatever the rate, the lower candidate has eighths that the chip can do;
the upper one has six, which it cannot, where the steps lead from five to them. -/

namespace UsbSerial.Baud

section Divisors

variable {d : ℕ}

def Supported (d : ℕ) : Prop := d = 8 ∨ 16 ≤ d ∧ d ≤ amLargest ∧ d % 8 ∈ [0, 1, 2, 4]

lemma fractionCode_le_three_iff {n : ℕ} (hn : n < 8) : fractionCode n ≤ 3 ↔ n ∈ [0, 1, 2, 4] := by
  decide +revert

lemma codeOf_div_le_three_iff (hd : Possible d) (htwelve : d ≠ 12) :
    codeOf d / 2 ^ 14 ≤ 3 ↔ d % 8 ∈ [0, 1, 2, 4] := by
  obtain rfl | rfl | ⟨hlow, hlt⟩ := hd
  · decide
  · contradiction
  · rw [codeOf_of_le hlow, encode_div hlt]
    exact fractionCode_le_three_iff (Nat.mod_lt d (by decide))

end Divisors

section Candidates

variable {base step : ℕ}

lemma stepUp_mod (d : ℕ) (h : d % 8 ≠ 5) : (d + amStepUp (d % 8)) % 8 ∈ [0, 1, 2, 4] := by
  have hlt : d % 8 < 8 := Nat.mod_lt d (by decide)
  have hstep : ∀ n < 8, n ≠ 5 → (n + amStepUp n) % 8 ∈ [0, 1, 2, 4] := by decide
  have hmod : (d + amStepUp (d % 8)) % 8 = (d % 8 + amStepUp (d % 8)) % 8 := by omega
  rw [hmod]
  exact hstep (d % 8) hlt h

lemma amCandidate_eq (hlow : 16 ≤ base)
    (hhigh : base + step + amStepUp ((base + step) % 8) ≤ amLargest) :
    amCandidate base step = base + step + amStepUp ((base + step) % 8) := by
  unfold amCandidate
  dsimp only
  rw [if_neg (by omega), if_neg (by omega), Nat.min_eq_left hhigh]

lemma supported_largest : Supported amLargest := .inr (by decide)

lemma supported_amCandidate
    (h : (base + step) % 8 ≠ 5 ∨ base < 16 ∨ amLargest ≤ base + step) :
    Supported (amCandidate base step) := by
  -- Five eighths are the only ones that a step up does not take to some of those left alone.
  unfold amCandidate
  dsimp only
  split_ifs with hsmall hbase
  · exact .inl rfl
  · exact .inr (by decide)
  · rcases Nat.le_total (base + step + amStepUp ((base + step) % 8)) amLargest with hle | hle
    · rw [Nat.min_eq_left hle]
      rcases h with hfive | hlow | hhigh
      · exact .inr ⟨by omega, hle, stepUp_mod _ hfive⟩
      · contradiction
      · rw [Nat.le_antisymm hle (Nat.le_add_right_of_le hhigh)]
        exact supported_largest
    · rw [Nat.min_eq_right hle]
      exact supported_largest

end Candidates

section Rates

variable (rate : ℕ)

/-- The quotient is four or six eighths above a whole number, and of the two divisors with these
eighths the larger one is nearer. -/
structure Misfit (rate : ℕ) : Prop where
  eighths : amClock / rate % 8 = 4 ∨ amClock / rate % 8 = 6
  low : 2 ≤ amClock / rate / 8
  high : 8 * (amClock / rate / 8) + 6 ≤ amLargest
  nearer : distance (amRate (8 * (amClock / rate / 8) + 6)) rate <
    distance (amRate (8 * (amClock / rate / 8) + 4)) rate

lemma amBase_cases :
    (amClock / rate % 8 = 4 ∨ amClock / rate % 8 = 6) ∧
        amBase rate = 8 * (amClock / rate / 8) + 4 ∨
      ¬ (amClock / rate % 8 = 4 ∨ amClock / rate % 8 = 6) ∧ amBase rate % 8 ≠ 4 ∧
        amBase rate % 8 ≠ 5 := by
  -- A step down never leads to five eighths, and to four of them from four and from six.
  have hstep : ∀ n < 8, amStepDown n ≤ n ∧
      ((n = 4 ∨ n = 6) ∧ n - amStepDown n = 4 ∨
        ¬ (n = 4 ∨ n = 6) ∧ n - amStepDown n ≠ 4 ∧ n - amStepDown n ≠ 5) := by
    decide
  unfold amBase
  dsimp only
  generalize amClock / rate = quotient
  obtain ⟨hle, hcases⟩ := hstep (quotient % 8) (Nat.mod_lt quotient (by decide))
  generalize amStepDown (quotient % 8) = down at hle hcases ⊢
  omega

lemma amDivisor_of_supported (hlower : Supported (amCandidate (amBase rate) 0))
    (hupper : Supported (amCandidate (amBase rate) 1)) : Supported (amDivisor rate) := by
  unfold amDivisor
  dsimp only
  split_ifs
  · exact hupper
  · exact hlower

theorem amDivisor_cases :
    Misfit rate ∧ amDivisor rate = 8 * (amClock / rate / 8) + 6 ∨
      ¬ Misfit rate ∧ Supported (amDivisor rate) := by
  rcases amBase_cases rate with ⟨heighths, hbase⟩ | ⟨heighths, hfour, hfive⟩
  · have hlower : Supported (amCandidate (amBase rate) 0) :=
      supported_amCandidate (.inl (by omega))
    have hdown : amStepUp ((amBase rate + 0) % 8) = 0 := by
      rw [show (amBase rate + 0) % 8 = 4 by omega]
      rfl
    have hup : amStepUp ((amBase rate + 1) % 8) = 1 := by
      rw [show (amBase rate + 1) % 8 = 5 by omega]
      rfl
    by_cases hroom : 16 ≤ amBase rate ∧ amBase rate + 2 ≤ amLargest
    · have hlow : amCandidate (amBase rate) 0 = 8 * (amClock / rate / 8) + 4 := by
        rw [amCandidate_eq hroom.1 (by omega), hdown, hbase]
      have hhigh : amCandidate (amBase rate) 1 = 8 * (amClock / rate / 8) + 6 := by
        rw [amCandidate_eq hroom.1 (by omega), hup, hbase]
      unfold amDivisor
      dsimp only
      split_ifs with hnearer
      · rw [hlow, hhigh] at hnearer
        exact .inl ⟨⟨heighths, by omega, by omega, hnearer⟩, hhigh⟩
      · refine .inr ⟨fun hmisfit => hnearer ?_, hlower⟩
        rw [hlow, hhigh]
        exact hmisfit.nearer
    · have hupper : Supported (amCandidate (amBase rate) 1) :=
        supported_amCandidate (.inr (by omega))
      refine .inr ⟨fun hmisfit => hroom ?_, amDivisor_of_supported rate hlower hupper⟩
      have hlow := hmisfit.low
      have hhigh := hmisfit.high
      omega
  · refine .inr ⟨fun hmisfit => heighths hmisfit.eighths, amDivisor_of_supported rate ?_ ?_⟩
    · exact supported_amCandidate (.inl (by omega))
    · exact supported_amCandidate (.inl (by omega))

lemma amDivisor_ne_twelve : amDivisor rate ≠ 12 := by
  rcases amDivisor_cases rate with ⟨-, hdivisor⟩ | ⟨-, hsupported⟩
  · omega
  · obtain height | ⟨hlow, -⟩ := hsupported
    · omega
    · omega

lemma supported_amDivisor_iff : Supported (amDivisor rate) ↔ ¬ Misfit rate := by
  rcases amDivisor_cases rate with ⟨hmisfit, hdivisor⟩ | ⟨hfits, hsupported⟩
  · refine iff_of_false ?_ (not_not_intro hmisfit)
    rintro (height | ⟨-, -, hmem⟩)
    · omega
    · rw [hdivisor, Nat.mul_add_mod] at hmem
      revert hmem
      decide
  · exact iff_of_true hsupported hfits

lemma codeOf_amDivisor_iff : codeOf (amDivisor rate) / 2 ^ 14 ≤ 3 ↔ ¬ Misfit rate := by
  rw [codeOf_div_le_three_iff (possible_amDivisor rate) (amDivisor_ne_twelve rate)]
  rcases amDivisor_cases rate with ⟨hmisfit, hdivisor⟩ | ⟨hfits, hsupported⟩
  · refine iff_of_false ?_ (not_not_intro hmisfit)
    rw [hdivisor, Nat.mul_add_mod]
    decide
  · refine iff_of_true ?_ hfits
    obtain height | ⟨-, -, hmem⟩ := hsupported
    · rw [height]
      decide
    · exact hmem

end Rates

/-- Just for the rates that fit, an AM is asked for a divisor that it has, and finds no bit of the
code in the index. For the others it is asked for six eighths. -/
theorem am_supported_iff_not_misfit (channel : Channel) (rate : UInt32) (hrate : rate ≠ 0) :
    ∃ s, setting? .am channel.index rate.toNat = some s ∧
      eighths (received .am s) = amDivisor rate.toNat ∧
      (Supported (amDivisor rate.toNat) ↔ ¬ Misfit rate.toNat) ∧
      (received .am s / 2 ^ 14 ≤ 3 ↔ ¬ Misfit rate.toNat) ∧
      (s.index = 0 ↔ ¬ Misfit rate.toNat) ∧
      (Misfit rate.toNat → amDivisor rate.toNat = 8 * (amClock / rate.toNat / 8) + 6) := by
  have hrate := toNat_ne_zero hrate
  have hcode : (code .am rate.toNat).1 = codeOf (amDivisor rate.toNat) := by
    rw [code_eq .am hrate]
    rfl
  have hlt := code_lt .am hrate
  have hreceived := received_eq .am channel (code .am rate.toNat).2 hlt
  have hport : ¬ hasPort .am := by decide
  have hindex := index_of_single hport channel.index hlt
  refine ⟨_, setting_eq .am channel hrate, ?_, supported_amDivisor_iff _, ?_, ?_, ?_⟩
  · rw [hreceived, hcode, (possible_amDivisor _).eighths_codeOf]
  · rw [hreceived, hcode, codeOf_amDivisor_iff]
  · rw [← codeOf_amDivisor_iff, ← hcode, ← UInt16.toNat_inj, hindex]
    dsimp only [UInt16.reduceToNat]
    omega
  · intro hmisfit
    rcases amDivisor_cases rate.toNat with ⟨-, hdivisor⟩ | ⟨hfits, -⟩
    · exact hdivisor
    · contradiction

theorem am_supported_iff_not_misfit_9600 : (9600 : UInt32) ≠ 0 ∧ ¬ Misfit 9600 ∧
    ∃ s, setting? .am Channel.any.index 9600 = some s ∧ Supported (amDivisor 9600) ∧
      received .am s / 2 ^ 14 ≤ 3 ∧ s.index = 0 := by
  have hfits : ¬ Misfit 9600 := fun h => absurd h.nearer (by decide)
  obtain ⟨s, hs, -, hsupported, hfraction, hindex, -⟩ :=
    am_supported_iff_not_misfit .any 9600 (by decide)
  exact ⟨by decide, hfits, s, hs, hsupported.mpr hfits, hfraction.mpr hfits, hindex.mpr hfits⟩

theorem am_not_supported_160000 :
    Misfit 160000 ∧ amDivisor 160000 = 150 ∧ ¬ Supported (amDivisor 160000) ∧
      setting? .am Channel.any.index 160000 = some ⟨160000, 0x8012, 1⟩ := by
  have hmisfit : Misfit 160000 := ⟨by decide, by decide, by decide, by decide⟩
  have hsupported : ¬ Supported 150 := by
    unfold Supported
    decide
  exact ⟨hmisfit, by decide, hsupported, by decide⟩

end UsbSerial.Baud
