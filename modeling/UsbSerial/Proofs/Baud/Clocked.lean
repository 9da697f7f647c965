import UsbSerial.Proofs.Baud.Request
import UsbSerial.Proofs.Baud.Rounding

/-! The rates of the chips that divide their clock. They grow with the rates requested, and each of
them is set exactly when it is requested itself. -/

namespace UsbSerial.Baud

lemma nearest_of_ge {clock prediv rate : ℕ} (hge : clock / (2 * prediv) ≤ rate) :
    (nearest clock prediv rate).2 = if clock / prediv ≤ rate then clock / prediv
      else if clock / (prediv + prediv / 2) ≤ rate then clock / (prediv + prediv / 2)
      else clock / (2 * prediv) := by
  rw [nearest, if_pos hge]
  split_ifs <;> rfl

namespace Clocked

variable {clock prediv n edge : ℕ} (h : Clocked clock prediv n edge) {r s rate d : ℕ}

include h

lemma large : 2 ^ 17 ≤ n := by
  have habove := h.above.trans_le (Nat.div_le_self (2 * n) edge)
  omega

lemma apart : clock / (2 * prediv) * 21 < clock / (prediv + prediv / 2) * 20 ∧
    clock / (prediv + prediv / 2) * 21 < clock / prediv * 20 := by
  have hlarge := h.large
  rw [h.one, h.oneAndHalf, h.two]
  unfold roundDiv
  omega

lemma divisor_eq_min (hrate : rate ≠ 0) :
    divisor clock prediv rate = min (roundDiv n rate) 0x1FFFF := by
  have hgap := h.gap rate
  have hhalf := half_quotient n (Nat.pos_of_ne_zero hrate)
  rw [h.divisor_eq, hhalf]
  split_ifs with hclamp
  · exact (Nat.min_eq_right (by omega)).symm
  · exact (Nat.min_eq_left (by omega)).symm

section Order

lemma nearestDivisor_anti (hr : r ≠ 0) (hrs : r ≤ s) :
    nearestDivisor clock prediv s ≤ nearestDivisor clock prediv r := by
  have hs : s ≠ 0 := by omega
  have hquotients := roundDiv_anti (n := n) (Nat.pos_of_ne_zero hr) hrs
  have hbounds := h.divisor_bounds r hr
  have hdivisors : divisor clock prediv s ≤ divisor clock prediv r := by
    rw [h.divisor_eq_min hr, h.divisor_eq_min hs]
    exact min_le_min_right _ hquotients
  unfold nearestDivisor
  split_ifs <;> omega

lemma nearest_mono (hr : r ≠ 0) (hrs : r ≤ s) :
    (nearest clock prediv r).2 ≤ (nearest clock prediv s).2 := by
  have hs : s ≠ 0 := by omega
  rw [h.nearest_eq r hr, h.nearest_eq s hs]
  exact roundDiv_anti (h.possible s hs).pos (h.nearestDivisor_anti hr hrs)

end Order

section Fixed

lemma roundDiv_pos (hd : Possible d) : roundDiv n d ≠ 0 := by
  have hlarge := h.large
  have hlt := hd.lt
  have hpos := hd.pos
  exact (Nat.div_pos (by omega) (by omega)).ne'

lemma roundDiv_divisor (hlow : 16 ≤ d) (hlt : d < 2 ^ 17) :
    roundDiv n (divisor clock prediv (roundDiv n d)) = roundDiv n d := by
  have hthrice := roundDiv_thrice (n := n) (d := d) (by omega)
  rw [h.divisor_eq_min (h.roundDiv_pos (.inr (.inr ⟨hlow, hlt⟩)))]
  rcases Nat.le_total (roundDiv n (roundDiv n d)) 0x1FFFF with hfits | hclamp
  · rw [Nat.min_eq_left hfits, hthrice]
  · -- A rate that would need a larger divisor is the one of the largest there is.
    rw [Nat.min_eq_right hclamp]
    have hleast : roundDiv n 0x1FFFF ≤ roundDiv n d := roundDiv_anti (by omega) (by omega)
    have hmost := roundDiv_anti (n := n) (by decide) hclamp
    omega

lemma roundDiv_nearestDivisor (hd : Possible d) :
    roundDiv n (nearestDivisor clock prediv (roundDiv n d)) = roundDiv n d := by
  have hone := h.one
  have honeAndHalf := h.oneAndHalf
  have htwo := h.two
  have hapart := h.apart
  obtain rfl | rfl | ⟨hlow, hlt⟩ := hd
  · rw [nearestDivisor, if_pos (by omega)]
  · rw [nearestDivisor, if_neg (by omega), if_pos (by omega)]
  · have hle : roundDiv n d ≤ roundDiv n 16 := roundDiv_anti (by decide) hlow
    rw [nearestDivisor, if_neg (by omega), if_neg (by omega)]
    split_ifs with hfast
    · omega
    · exact h.roundDiv_divisor hlow hlt

lemma nearest_fixed (hd : Possible d) :
    (nearest clock prediv (roundDiv n d)).2 = roundDiv n d := by
  rw [h.nearest_eq _ (h.roundDiv_pos hd)]
  exact h.roundDiv_nearestDivisor hd

lemma nearest_nearest (hrate : rate ≠ 0) :
    (nearest clock prediv (nearest clock prediv rate).2).2 = (nearest clock prediv rate).2 := by
  rw [h.nearest_eq rate hrate]
  exact h.nearest_fixed (h.possible rate hrate)

end Fixed

section Ranges

lemma nearest_of_lt (hrate : rate ≠ 0) (hlt : rate < clock / (2 * prediv)) :
    (nearest clock prediv rate).2 = roundDiv n (min (roundDiv n rate) 0x1FFFF) := by
  have hapart := h.apart
  rw [h.nearest_eq rate hrate, nearestDivisor, if_neg (by omega), if_neg (by omega),
    if_neg (by omega), h.divisor_eq_min hrate]

lemma close_nearest_iff (hrate : rate ≠ 0) : close (nearest clock prediv rate).2 rate = true ↔
    roundDiv n 0x1FFFF * 20 ≤ rate * 21 ∧ rate * 20 ≤ clock / (2 * prediv) * 21 ∨
      clock / (prediv + prediv / 2) ≤ rate ∧
        rate * 20 ≤ clock / (prediv + prediv / 2) * 21 ∨
      clock / prediv ≤ rate ∧ rate * 20 ≤ clock / prediv * 21 := by
  -- From the slowest of the three rates with codes of their own on, the next one down is set,
  -- however far it is; below it all rates are close to a divided one, unless they are below the
  -- slowest of those.
  have hapart := h.apart
  have hslowest : roundDiv n 0x1FFFF ≤ clock / (2 * prediv) := by
    rw [h.two]
    exact roundDiv_anti (by decide) (by decide)
  rcases Nat.lt_or_ge rate (clock / (2 * prediv)) with hlt | hge
  · have hlow : 16 ≤ roundDiv n rate := by
      have hbounds := h.divisor_bounds rate hrate (by omega)
      rw [h.divisor_eq_min hrate] at hbounds
      omega
    have hclose := close_roundDiv h.large (Nat.pos_of_ne_zero hrate) hlow
    rw [h.nearest_of_lt hrate hlt]
    rcases Nat.le_total (roundDiv n rate) 0x1FFFF with hfits | hclamp
    · rw [Nat.min_eq_left hfits]
      have hleast := roundDiv_anti (n := n) (by omega) hfits
      rw [close_iff] at hclose ⊢
      omega
    · rw [Nat.min_eq_right hclamp]
      have hmost := roundDiv_anti (n := n) (by decide) hclamp
      rw [close_iff] at hclose ⊢
      omega
  · rw [close_iff, nearest_of_ge hge]
    split_ifs <;> omega

end Ranges

end Clocked

section Chips

variable {chip : Chip} {r s rate : ℕ}

lemma actual_cases (hchip : chip ≠ .am) :
    chip.isHighSpeed = false ∧ (∀ rate, (code chip rate).2 = (nearest slowClock 16 rate).2) ∨
      chip.isHighSpeed = true ∧ (∀ rate, (code chip rate).2 =
        if 732 < rate then (nearest fastClock 10 rate).2 else (nearest slowClock 16 rate).2) := by
  cases chip with
  | am => contradiction
  | bm | ft2232C | ft232R => exact .inl ⟨rfl, fun _ => rfl⟩
  | ft2232H | ft4232H =>
    refine .inr ⟨rfl, fun rate => ?_⟩
    have hclock : fastClock / 0x3FFF < rate * 10 ↔ 732 < rate := by
      have hquotient : fastClock / 0x3FFF = 7324 := rfl
      omega
    simp only [code, hclock]
    split_ifs <;> rfl

lemma slow_le (hrate : rate ≠ 0) (hslow : rate ≤ 732) : (nearest slowClock 16 rate).2 ≤ 732 :=
  (slow_clocked.nearest_mono hrate hslow).trans (by decide)

lemma lt_fast (hfast : 732 < rate) : 732 < (nearest fastClock 10 rate).2 := by
  have hleast : 732 < (nearest fastClock 10 733).2 := by decide
  exact hleast.trans_le (fast_clocked.nearest_mono (by decide) hfast)

lemma actual_mono (hchip : chip ≠ .am) (hr : r ≠ 0) (hrs : r ≤ s) :
    (code chip r).2 ≤ (code chip s).2 := by
  rcases actual_cases hchip with ⟨-, hactual⟩ | ⟨-, hactual⟩
  · rw [hactual, hactual]
    exact slow_clocked.nearest_mono hr hrs
  · rw [hactual, hactual]
    rcases Nat.lt_or_ge 732 r with hfast | hslow
    · rw [if_pos hfast, if_pos (hfast.trans_le hrs)]
      exact fast_clocked.nearest_mono hr hrs
    · rw [if_neg (Nat.not_lt.mpr hslow)]
      split_ifs with hfast
      · calc (nearest slowClock 16 r).2 ≤ 732 := slow_le hr hslow
          _ ≤ (nearest fastClock 10 s).2 := (lt_fast hfast).le
      · exact slow_clocked.nearest_mono hr hrs

lemma actual_actual (hchip : chip ≠ .am) (hrate : rate ≠ 0) :
    (code chip (code chip rate).2).2 = (code chip rate).2 := by
  rcases actual_cases hchip with ⟨-, hactual⟩ | ⟨-, hactual⟩
  · rw [hactual, hactual]
    exact slow_clocked.nearest_nearest hrate
  · rw [hactual, hactual]
    rcases Nat.lt_or_ge 732 rate with hfast | hslow
    · rw [if_pos hfast, if_pos (lt_fast hfast)]
      exact fast_clocked.nearest_nearest hrate
    · rw [if_neg (Nat.not_lt.mpr hslow), if_neg (Nat.not_lt.mpr (slow_le hrate hslow))]
      exact slow_clocked.nearest_nearest hrate

lemma slow_one : slowClock / 16 = 3000000 := rfl

lemma slow_oneAndHalf : slowClock / (16 + 16 / 2) = 2000000 := rfl

lemma slow_two : slowClock / (2 * 16) = 1500000 := rfl

lemma slow_slowest : roundDiv 24000000 0x1FFFF = 183 := rfl

lemma close_slow_iff (hrate : rate ≠ 0) : close (nearest slowClock 16 rate).2 rate = true ↔
    175 ≤ rate ∧ rate ≤ 1575000 ∨ 2000000 ≤ rate ∧ rate ≤ 2100000 ∨
      3000000 ≤ rate ∧ rate ≤ 3150000 := by
  rw [slow_clocked.close_nearest_iff hrate, slow_slowest, slow_one, slow_oneAndHalf, slow_two]
  omega

lemma close_highSpeed_iff (hchip : chip.isHighSpeed = true) (hrate : rate ≠ 0) :
    close (code chip rate).2 rate = true ↔
      175 ≤ rate ∧ rate ≤ 6300000 ∨ 8000000 ≤ rate ∧ rate ≤ 8400000 ∨
        12000000 ≤ rate ∧ rate ≤ 12600000 := by
  have hslowest : roundDiv 96000000 0x1FFFF = 732 := rfl
  have hone : fastClock / 10 = 12000000 := rfl
  have honeAndHalf : fastClock / (10 + 10 / 2) = 8000000 := rfl
  have htwo : fastClock / (2 * 10) = 6000000 := rfl
  have hdivided : chip ≠ .am := by
    rintro rfl
    cases hchip
  rcases actual_cases hdivided with ⟨hsingle, -⟩ | ⟨-, hactual⟩
  · rw [hsingle] at hchip
    cases hchip
  · rw [hactual]
    split_ifs with hfast
    · rw [fast_clocked.close_nearest_iff hrate, hslowest, hone, honeAndHalf, htwo]
      omega
    · rw [close_slow_iff hrate]
      omega

lemma actual_le (chip : Chip) (hrate : rate ≠ 0) :
    (code chip rate).2 ≤ baseRate (usesFastClock chip rate) := by
  rw [code_eq chip hrate]
  calc roundDiv (8 * baseRate (usesFastClock chip rate)) (chosen chip rate)
      ≤ roundDiv (8 * baseRate (usesFastClock chip rate)) 8 :=
        roundDiv_anti (by decide) (possible_chosen chip hrate).eight_le
    _ = baseRate (usesFastClock chip rate) := by
      unfold roundDiv
      omega

lemma le_actual (chip : Chip) (hrate : rate ≠ 0) : 183 ≤ (code chip rate).2 := by
  have hlt := (possible_chosen chip hrate).lt
  have hslowest (fast : Bool) : 183 ≤ roundDiv (8 * baseRate fast) 0x1FFFF := by
    cases fast <;> decide
  rw [code_eq chip hrate]
  exact (hslowest _).trans (roundDiv_anti (possible_chosen chip hrate).pos (by omega))

theorem settings_monotone (hchip : chip ≠ .am) (channel : Channel) {r s : UInt32} (hr : r ≠ 0)
    (hrs : r ≤ s) : ∃ x y, setting? chip channel.index r.toNat = some x ∧
      setting? chip channel.index s.toNat = some y ∧ x.actual ≤ y.actual := by
  have hr := toNat_ne_zero hr
  have hrs : r.toNat ≤ s.toNat := UInt32.le_iff_toNat_le.mp hrs
  exact ⟨_, _, setting_eq chip channel hr, setting_eq chip channel (by omega),
    actual_mono hchip hr hrs⟩

theorem settings_monotone_clocks : Chip.ft2232H ≠ .am ∧ (732 : UInt32) ≠ 0 ∧
    (732 : UInt32) ≤ 733 ∧ usesFastClock .ft2232H 732 = false ∧ usesFastClock .ft2232H 733 = true ∧
      ∃ x y, setting? .ft2232H Channel.b.index 732 = some x ∧
        setting? .ft2232H Channel.b.index 733 = some y ∧ x.actual ≤ y.actual :=
  ⟨by decide, by decide, by decide, by decide, by decide,
    settings_monotone (r := 732) (s := 733) (by decide) .b (by decide) (by decide)⟩

end Chips

end UsbSerial.Baud
