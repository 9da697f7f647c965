import UsbSerial.Proofs.Baud.Clocked

/-! Settings worked out on words, with every step checked. Whatever the rate, no step overflows,
goes below zero or divides by zero, and the setting is the one of unbounded numbers. -/

namespace UsbSerial.Baud.Checked

section Steps

variable {w m n : ℕ}

def add? (a b : BitVec w) : Option (BitVec w) :=
  if BitVec.uaddOverflow a b then none else some (a + b)

def sub? (a b : BitVec w) : Option (BitVec w) :=
  if BitVec.usubOverflow a b then none else some (a - b)

def mul? (a b : BitVec w) : Option (BitVec w) :=
  if BitVec.umulOverflow a b then none else some (a * b)

def div? (a b : BitVec w) : Option (BitVec w) :=
  if b = 0#w then none else some (a / b)

lemma toNat_ofNat_of_lt (hm : m < 2 ^ w) : (BitVec.ofNat w m).toNat = m := by
  rw [BitVec.toNat_ofNat, Nat.mod_eq_of_lt hm]

lemma ofNat_inj (hm : m < 2 ^ w) (hn : n < 2 ^ w) :
    BitVec.ofNat w m = BitVec.ofNat w n ↔ m = n := by
  rw [← BitVec.toNat_inj, toNat_ofNat_of_lt hm, toNat_ofNat_of_lt hn]

lemma ofNat_lt (hm : m < 2 ^ w) (hn : n < 2 ^ w) :
    BitVec.ofNat w m < BitVec.ofNat w n ↔ m < n := by
  rw [BitVec.lt_def, toNat_ofNat_of_lt hm, toNat_ofNat_of_lt hn]

lemma ofNat_le (hm : m < 2 ^ w) (hn : n < 2 ^ w) :
    BitVec.ofNat w m ≤ BitVec.ofNat w n ↔ m ≤ n := by
  rw [BitVec.le_def, toNat_ofNat_of_lt hm, toNat_ofNat_of_lt hn]

lemma add?_ofNat (h : m + n < 2 ^ w) :
    add? (.ofNat w m) (.ofNat w n) = some (.ofNat w (m + n)) := by
  have hfits : ¬ BitVec.uaddOverflow (.ofNat w m) (.ofNat w n) := by
    rw [BitVec.uaddOverflow, toNat_ofNat_of_lt (by omega), toNat_ofNat_of_lt (by omega),
      decide_eq_true_iff]
    omega
  rw [add?, if_neg hfits, BitVec.ofNat_add]

lemma sub?_ofNat (h : n ≤ m) (hm : m < 2 ^ w) :
    sub? (.ofNat w m) (.ofNat w n) = some (.ofNat w (m - n)) := by
  have hfits : ¬ BitVec.usubOverflow (.ofNat w m) (.ofNat w n) := by
    rw [BitVec.usubOverflow, toNat_ofNat_of_lt hm, toNat_ofNat_of_lt (by omega), decide_eq_true_iff]
    omega
  rw [sub?, if_neg hfits, BitVec.ofNat_sub_ofNat_of_le m n (by omega) h]

lemma mul?_ofNat (hm : m < 2 ^ w) (hn : n < 2 ^ w) (h : m * n < 2 ^ w) :
    mul? (.ofNat w m) (.ofNat w n) = some (.ofNat w (m * n)) := by
  have hfits : ¬ BitVec.umulOverflow (.ofNat w m) (.ofNat w n) := by
    rw [BitVec.umulOverflow, toNat_ofNat_of_lt hm, toNat_ofNat_of_lt hn, decide_eq_true_iff]
    omega
  rw [mul?, if_neg hfits, BitVec.ofNat_mul]

lemma div?_ofNat (hpos : n ≠ 0) (hm : m < 2 ^ w) (hn : n < 2 ^ w) :
    div? (.ofNat w m) (.ofNat w n) = some (.ofNat w (m / n)) := by
  have hquotient : m / n < 2 ^ w := (Nat.div_le_self m n).trans_lt hm
  have hzero : ¬ BitVec.ofNat w n = 0#w := by
    rw [ofNat_inj hn (by omega)]
    exact hpos
  rw [div?, if_neg hzero]
  congr 1
  apply BitVec.eq_of_toNat_eq
  rw [BitVec.toNat_udiv, toNat_ofNat_of_lt hm, toNat_ofNat_of_lt hn, toNat_ofNat_of_lt hquotient]

lemma ofNat_shiftRight (hm : m < 2 ^ w) (k : ℕ) :
    BitVec.ofNat w m >>> k = BitVec.ofNat w (m / 2 ^ k) := by
  have hquotient : m / 2 ^ k < 2 ^ w := (Nat.div_le_self m _).trans_lt hm
  apply BitVec.eq_of_toNat_eq
  rw [BitVec.toNat_ushiftRight, toNat_ofNat_of_lt hm, toNat_ofNat_of_lt hquotient,
    Nat.shiftRight_eq_div_pow]

lemma ofNat_shiftLeft (k : ℕ) : BitVec.ofNat w m <<< k = BitVec.ofNat w (m * 2 ^ k) := by
  apply BitVec.eq_of_toNat_eq
  rw [BitVec.toNat_shiftLeft, BitVec.toNat_ofNat, BitVec.toNat_ofNat, Nat.shiftLeft_eq,
    Nat.mod_mul_mod]

lemma ofNat_and_low (k : ℕ) :
    BitVec.ofNat w m &&& BitVec.ofNat w (2 ^ k - 1) = BitVec.ofNat w (m % 2 ^ k) := by
  rw [← BitVec.ofNat_and, Nat.and_two_pow_sub_one_eq_mod]

end Steps

section Codes

def place (d : BitVec 32) : ℕ := (d &&& 7#32).toNat

def encode (d : BitVec 32) : BitVec 32 :=
  d >>> 3 ||| BitVec.ofNat 32 (fractionCode (place d)) <<< 14

def amCode (d : BitVec 32) : BitVec 32 :=
  let code := encode d
  if code = 1#32 then 0#32 else if code = 0x4001#32 then 1#32 else code

variable {d : ℕ}

lemma place_ofNat (d : ℕ) : place (.ofNat 32 d) = d % 8 := by
  have hlow : BitVec.ofNat 32 d &&& 7#32 = BitVec.ofNat 32 (d % 8) := ofNat_and_low 3
  rw [place, hlow, toNat_ofNat_of_lt (by omega)]

lemma encode_ofNat (hd : d < 2 ^ 17) : encode (.ofNat 32 d) = .ofNat 32 (Baud.encode d) := by
  have hwhole : d / 2 ^ 3 < 2 ^ 14 := by omega
  rw [encode, place_ofNat, ofNat_shiftRight (by omega), ofNat_shiftLeft,
    ← BitVec.ofNat_or, Nat.or_comm, Nat.mul_comm, ← Nat.two_pow_add_eq_or_of_lt hwhole,
    Nat.add_comm, Nat.mul_comm]
  rfl

lemma amCode_ofNat (hd : d < 2 ^ 17) : amCode (.ofNat 32 d) = .ofNat 32 (Baud.amCode d) := by
  have hcode := encode_lt hd
  rw [amCode, encode_ofNat hd]
  simp (disch := omega) only [ofNat_inj]
  unfold Baud.amCode
  split_ifs with hone honeAndHalf
  · rw [hone]
    rfl
  · rw [honeAndHalf]
    rfl
  · split
    · contradiction
    · contradiction
    · rfl

end Codes

section Am

def amBase? (rate : BitVec 32) : Option (BitVec 32) := do
  let quotient ← div? (.ofNat 32 amClock) rate
  sub? quotient (.ofNat 32 (amStepDown (place quotient)))

def amCandidate? (base step : BitVec 32) : Option (BitVec 32) := do
  let d ← add? base step
  if d ≤ 8#32 then return 8#32
  else if base < 16#32 then return 16#32
  else
    let raised ← add? d (.ofNat 32 (amStepUp (place d)))
    return if raised ≤ .ofNat 32 amLargest then raised else .ofNat 32 amLargest

def amRate? (d : BitVec 32) : Option (BitVec 32) := do
  div? (← add? (.ofNat 32 amClock) (← div? d 2#32)) d

def distance? (a b : BitVec 32) : Option (BitVec 32) := if a < b then sub? b a else sub? a b

def amAttempt? (rate base step : BitVec 32) : Option (BitVec 32 × BitVec 32 × BitVec 32) := do
  let d ← amCandidate? base step
  let achieved ← amRate? d
  return (d, achieved, ← distance? achieved rate)

def amDivisor? (rate : BitVec 32) : Option (BitVec 32 × BitVec 32) := do
  let base ← amBase? rate
  let (lower, lowerRate, lowerDistance) ← amAttempt? rate base 0#32
  if lowerDistance = 0#32 then return (lower, lowerRate)
  else
    let (upper, upperRate, upperDistance) ← amAttempt? rate base 1#32
    return if upperDistance < lowerDistance then (upper, upperRate) else (lower, lowerRate)

variable {rate base step d m n : ℕ}

lemma amClock_lt : amClock < 2 ^ 25 := by decide

lemma amBase?_ofNat (hrate : rate ≠ 0) (hlt : rate < 2 ^ 32) :
    amBase? (.ofNat 32 rate) = some (.ofNat 32 (amBase rate)) := by
  have hclock := amClock_lt
  have hstep : ∀ k < 8, amStepDown k ≤ k := by decide
  have hquotient : amClock / rate ≤ amClock := Nat.div_le_self _ _
  rw [amBase?, amBase, div?_ofNat hrate (by omega) hlt, Option.bind_eq_bind, Option.bind_some,
    place_ofNat]
  generalize amClock / rate = quotient at hquotient ⊢
  have hdown := hstep (quotient % 8) (Nat.mod_lt quotient (by decide))
  exact sub?_ofNat (by omega) (by omega)

lemma amBase_le (rate : ℕ) : amBase rate ≤ amClock :=
  (Nat.sub_le _ _).trans (Nat.div_le_self _ _)

lemma amCandidate?_ofNat (hbase : base ≤ amClock) (hstep : step ≤ 1) :
    amCandidate? (.ofNat 32 base) (.ofNat 32 step) =
      some (.ofNat 32 (amCandidate base step)) := by
  have hclock := amClock_lt
  have hlargest : amLargest < 2 ^ 17 := by decide
  have hup : ∀ k < 8, amStepUp k ≤ 3 := by decide
  have hraised := hup ((base + step) % 8) (Nat.mod_lt _ (by decide))
  simp (disch := omega) only [amCandidate?, amCandidate, place_ofNat, add?_ofNat, ofNat_le,
    ofNat_lt, Option.bind_eq_bind, Option.bind_some, Option.pure_def]
  split_ifs with hsmall hbase hlarge
  · rfl
  · rfl
  · rw [Nat.min_eq_left hlarge]
  · rw [Nat.min_eq_right (by omega)]

lemma amRate?_ofNat (hd : d ≠ 0) (hlt : d < 2 ^ 17) :
    amRate? (.ofNat 32 d) = some (.ofNat 32 (amRate d)) := by
  have hclock := amClock_lt
  simp (disch := omega) only [amRate?, amRate, div?_ofNat, add?_ofNat, Option.bind_eq_bind,
    Option.bind_some]

lemma distance?_ofNat (hm : m < 2 ^ 32) (hn : n < 2 ^ 32) :
    distance? (.ofNat 32 m) (.ofNat 32 n) = some (.ofNat 32 (distance m n)) := by
  rw [distance?, distance]
  simp only [ofNat_lt hm hn]
  split_ifs with hlt
  · rw [sub?_ofNat (by omega) hn, Nat.sub_eq_zero_of_le hlt.le, Nat.zero_add]
  · have hle : n ≤ m := Nat.not_lt.mp hlt
    rw [sub?_ofNat hle hm, Nat.sub_eq_zero_of_le hle, Nat.add_zero]

lemma amRate_lt (hlt : d < 2 ^ 17) : amRate d < 2 ^ 32 := by
  have hclock := amClock_lt
  have hle : amRate d ≤ amClock + d / 2 := Nat.div_le_self _ _
  omega

lemma distance_lt (hm : m < 2 ^ 32) (hn : n < 2 ^ 32) : distance m n < 2 ^ 32 := by
  unfold distance
  omega

lemma amAttempt?_ofNat (hlt : rate < 2 ^ 32) (hbase : base ≤ amClock) (hstep : step ≤ 1) :
    amAttempt? (.ofNat 32 rate) (.ofNat 32 base) (.ofNat 32 step) =
      some (.ofNat 32 (amCandidate base step), .ofNat 32 (amRate (amCandidate base step)),
        .ofNat 32 (distance (amRate (amCandidate base step)) rate)) := by
  have hpossible := possible_amCandidate base step
  have hrate := amRate_lt hpossible.lt
  simp only [amAttempt?, amCandidate?_ofNat hbase hstep,
    amRate?_ofNat hpossible.pos.ne' hpossible.lt, distance?_ofNat hrate hlt, Option.bind_eq_bind,
    Option.bind_some, Option.pure_def]

lemma amDivisor?_ofNat (hrate : rate ≠ 0) (hlt : rate < 2 ^ 32) :
    amDivisor? (.ofNat 32 rate) =
      some (.ofNat 32 (amDivisor rate), .ofNat 32 (amRate (amDivisor rate))) := by
  have hbase := amBase_le rate
  have hdistance (step : ℕ) : distance (amRate (amCandidate (amBase rate) step)) rate < 2 ^ 32 :=
    distance_lt (amRate_lt (possible_amCandidate _ _).lt) hlt
  simp only [amDivisor?, amBase?_ofNat hrate hlt, amAttempt?_ofNat hlt hbase (Nat.zero_le 1),
    amAttempt?_ofNat hlt hbase (Nat.le_refl 1), Option.bind_eq_bind, Option.bind_some,
    Option.pure_def, ofNat_inj (hdistance 0) (Nat.two_pow_pos 32),
    ofNat_lt (hdistance 1) (hdistance 0)]
  -- Nothing is nearer than an exact rate, so that leaving out the other candidate changes nothing.
  unfold amDivisor
  dsimp only
  split_ifs with hexact hnearer
  · omega
  · rfl
  · rfl
  · rfl

end Am

section Nearest

def rounded? (clock prediv d : BitVec 32) : Option (BitVec 32) := do
  let doubled ← div? (← div? (← mul? clock 16#32) prediv) d
  add? (← div? doubled 2#32) (doubled &&& 1#32)

def divisor? (clock prediv rate : BitVec 32) : Option (BitVec 32) := do
  let eighths ← rounded? clock prediv rate
  return if 0x20000#32 < eighths then 0x1FFFF#32 else eighths

def nearest? (clock prediv rate : BitVec 32) : Option (BitVec 32 × BitVec 32) := do
  let one ← div? clock prediv
  let oneAndHalf ← div? clock (← add? prediv (← div? prediv 2#32))
  let two ← div? clock (← mul? 2#32 prediv)
  if one ≤ rate then return (0#32, one)
  else if oneAndHalf ≤ rate then return (1#32, oneAndHalf)
  else if two ≤ rate then return (2#32, two)
  else
    let d ← divisor? clock prediv rate
    return (encode d, ← rounded? clock prediv d)

variable {clock prediv n edge d rate : ℕ}

lemma rateOf_le (clock prediv d : ℕ) : rateOf clock prediv d ≤ clock * 16 / prediv / d := by
  unfold rateOf
  dsimp only
  generalize clock * 16 / prediv / d = doubled
  omega

section Words

variable (hclock : clock * 16 < 2 ^ 32) (hprediv : prediv ≠ 0) (hsmall : prediv < 2 ^ 31)

include hclock hprediv hsmall

lemma rounded?_ofNat (hd : d ≠ 0) (hlt : d < 2 ^ 32) :
    rounded? (.ofNat 32 clock) (.ofNat 32 prediv) (.ofNat 32 d) =
      some (.ofNat 32 (rateOf clock prediv d)) := by
  have hdivided : clock * 16 / prediv ≤ clock * 16 := Nat.div_le_self _ _
  have hdoubled : clock * 16 / prediv / d ≤ clock * 16 / prediv := Nat.div_le_self _ _
  have hodd (m : ℕ) : BitVec.ofNat 32 m &&& 1#32 = BitVec.ofNat 32 (m % 2) := ofNat_and_low 1
  simp (disch := omega) only [rounded?, rateOf, mul?_ofNat, div?_ofNat, hodd, add?_ofNat,
    Option.bind_eq_bind, Option.bind_some]

lemma divisor?_ofNat (hrate : rate ≠ 0) (hlt : rate < 2 ^ 32) :
    divisor? (.ofNat 32 clock) (.ofNat 32 prediv) (.ofNat 32 rate) =
      some (.ofNat 32 (divisor clock prediv rate)) := by
  have heighths : rateOf clock prediv rate < 2 ^ 32 :=
    calc rateOf clock prediv rate ≤ clock * 16 / prediv / rate := rateOf_le _ _ _
      _ ≤ clock * 16 / prediv := Nat.div_le_self _ _
      _ ≤ clock * 16 := Nat.div_le_self _ _
      _ < 2 ^ 32 := hclock
  have hclamp : divisor clock prediv rate =
      if 0x20000 < rateOf clock prediv rate then 0x1FFFF else rateOf clock prediv rate := rfl
  rw [divisor?, rounded?_ofNat hclock hprediv hsmall hrate hlt, hclamp, apply_ite (BitVec.ofNat 32)]
  simp only [ofNat_lt (show 0x20000 < 2 ^ 32 by decide) heighths, Option.bind_eq_bind,
    Option.bind_some, Option.pure_def]

lemma nearest?_ofNat (h : Clocked clock prediv n edge) (hrate : rate ≠ 0) (hlt : rate < 2 ^ 32) :
    nearest? (.ofNat 32 clock) (.ofNat 32 prediv) (.ofNat 32 rate) =
      some (.ofNat 32 (nearest clock prediv rate).1, .ofNat 32 (nearest clock prediv rate).2) := by
  have hone : clock / prediv ≤ clock := Nat.div_le_self _ _
  have honeAndHalf : clock / (prediv + prediv / 2) ≤ clock := Nat.div_le_self _ _
  have htwo : clock / (2 * prediv) ≤ clock := Nat.div_le_self _ _
  simp (disch := omega) only [nearest?, div?_ofNat, add?_ofNat, mul?_ofNat, ofNat_le,
    Option.bind_eq_bind, Option.bind_some, Option.pure_def]
  unfold nearest
  split_ifs with hone honeAndHalf htwo
  · rfl
  · rfl
  · rfl
  · -- Below the three fastest rates the divisor is at least 16, and never too large for its code.
    obtain ⟨hlow, hhigh⟩ := h.divisor_bounds rate hrate htwo
    rw [divisor?_ofNat hclock hprediv hsmall hrate hlt, Option.bind_some,
      rounded?_ofNat hclock hprediv hsmall (by omega) (by omega), encode_ofNat hhigh]
    rfl

end Words

end Nearest

section Settings

def code? (chip : Chip) (rate : BitVec 32) : Option (BitVec 32 × BitVec 32) :=
  match chip with
  | .am => do
      let (d, actual) ← amDivisor? rate
      return (amCode d, actual)
  | .bm | .ft2232C | .ft232R => nearest? (.ofNat 32 slowClock) 16#32 rate
  | .ft2232H | .ft4232H => do
      let least ← div? (.ofNat 32 fastClock) 0x3FFF#32
      if least.setWidth 64 < (← mul? (rate.setWidth 64) 10#64) then do
        let (code, actual) ← nearest? (.ofNat 32 fastClock) 10#32 rate
        return (code ||| .ofNat 32 fastBit, actual)
      else nearest? (.ofNat 32 slowClock) 16#32 rate

def index (chip : Chip) (channel : UInt16) (code : BitVec 32) : UInt16 :=
  if chip.isHighSpeed || chip = .ft2232C then
    (.ofBitVec ((code >>> 8).setWidth 16) &&& 0xFF00) ||| channel
  else .ofBitVec ((code >>> 16).setWidth 16)

def setting? (chip : Chip) (channel : UInt16) (rate : UInt32) : Option (Option Setting) :=
  if rate = 0 then some none
  else do
    let (code, actual) ← code? chip rate.toBitVec
    return if actual = 0#32 then none
      else some {
        actual := actual.toNat
        value := .ofBitVec ((code &&& 0xFFFF#32).setWidth 16)
        index := index chip channel code }

section Words

variable {rate : ℕ}

lemma or_fastBit {code : ℕ} (hcode : code < 2 ^ 17) :
    BitVec.ofNat 32 code ||| .ofNat 32 fastBit = BitVec.ofNat 32 (code + fastBit) := by
  have hor := Nat.two_pow_add_eq_or_of_lt hcode 1
  rw [← BitVec.ofNat_or, Nat.or_comm, Nat.add_comm]
  exact congrArg _ hor.symm

lemma nearest_lt {clock prediv n edge : ℕ} (h : Clocked clock prediv n edge) (hrate : rate ≠ 0) :
    (nearest clock prediv rate).1 < 2 ^ 17 := by
  rw [h.nearest_eq rate hrate]
  exact (h.possible rate hrate).codeOf_lt

lemma code?_ofNat (chip : Chip) (hrate : rate ≠ 0) (hlt : rate < 2 ^ 32) :
    code? chip (.ofNat 32 rate) =
      some (.ofNat 32 (code chip rate).1, .ofNat 32 (code chip rate).2) := by
  have hslow : nearest? (.ofNat 32 slowClock) 16#32 (.ofNat 32 rate) = _ :=
    nearest?_ofNat (by decide) (by decide) (by decide) slow_clocked hrate hlt
  have hfast : nearest? (.ofNat 32 fastClock) 10#32 (.ofNat 32 rate) = _ :=
    nearest?_ofNat (by decide) (by decide) (by decide) fast_clocked hrate hlt
  cases chip
  case am =>
    simp only [code?, amDivisor?_ofNat hrate hlt, amCode_ofNat (possible_amDivisor rate).lt, code,
      Option.bind_eq_bind, Option.bind_some, Option.pure_def]
  case bm | ft2232C | ft232R => exact hslow
  case ft2232H | ft4232H =>
    have hwide : (BitVec.ofNat 32 rate).setWidth 64 = BitVec.ofNat 64 rate :=
      BitVec.setWidth_ofNat_of_le_of_lt (by decide) hlt
    have hleast : (BitVec.ofNat 32 (fastClock / 0x3FFF)).setWidth 64 =
        BitVec.ofNat 64 (fastClock / 0x3FFF) :=
      BitVec.setWidth_ofNat_of_le_of_lt (by decide) (by decide)
    have hdivided : div? (.ofNat 32 fastClock) 0x3FFF#32 = some (.ofNat 32 (fastClock / 0x3FFF)) :=
      div?_ofNat (by decide) (by decide) (by decide)
    have hscaled : mul? (.ofNat 64 rate) 10#64 = some (.ofNat 64 (rate * 10)) :=
      mul?_ofNat (by omega) (by decide) (by omega)
    have hclock : BitVec.ofNat 64 (fastClock / 0x3FFF) < BitVec.ofNat 64 (rate * 10) ↔
        fastClock / 0x3FFF < rate * 10 :=
      ofNat_lt (by decide) (by omega)
    simp only [code?, code, hwide, hdivided, hscaled, hleast, hclock, Option.bind_eq_bind,
      Option.bind_some]
    split_ifs
    · rw [hfast, Option.bind_some, or_fastBit (nearest_lt fast_clocked hrate)]
      rfl
    · exact hslow

lemma value_ofNat (code : ℕ) :
    UInt16.ofBitVec ((BitVec.ofNat 32 code &&& 0xFFFF#32).setWidth 16) = code.toUInt16 := by
  have hlow : BitVec.ofNat 32 code &&& 0xFFFF#32 = BitVec.ofNat 32 (code % 2 ^ 16) :=
    ofNat_and_low 16
  rw [hlow, BitVec.setWidth_ofNat_of_le (by decide)]
  exact UInt16.ofNat_mod_size

lemma index_ofNat (chip : Chip) (channel : UInt16) {code : ℕ} (hcode : code < 2 ^ 32) :
    index chip channel (.ofNat 32 code) = Baud.index chip channel code := by
  rw [index, ofNat_shiftRight hcode, ofNat_shiftRight hcode,
    BitVec.setWidth_ofNat_of_le (by decide), BitVec.setWidth_ofNat_of_le (by decide)]
  rfl

end Words

section Ranges

variable (chip : Chip) {rate : ℕ} (hrate : rate ≠ 0)

include hrate

lemma code_bits : (code chip rate).1 < 2 ^ 17 ∨
    chip.isHighSpeed ∧ (code chip rate).1.testBit 17 ∧ (code chip rate).1 < 2 ^ 18 := by
  have hcode := (possible_chosen chip hrate).codeOf_lt
  cases hclock : usesFastClock chip rate with
  | false =>
    left
    rw [code_eq chip hrate, hclock]
    exact hcode
  | true =>
    right
    exact ⟨(Bool.and_eq_true_iff.mp hclock).1, (testBit_code chip hrate).trans hclock,
      code_lt chip hrate⟩

lemma actual_le_baseRate : (code chip rate).2 ≤ baseRate chip.isHighSpeed := by
  have hclock : baseRate (usesFastClock chip rate) ≤ baseRate chip.isHighSpeed := by
    unfold usesFastClock
    cases chip.isHighSpeed with
    | false => exact Nat.le_refl _
    | true => exact (baseRate_bounds _).2
  exact (actual_le chip hrate).trans hclock

end Ranges

variable (chip : Chip) (channel : UInt16) (rate : UInt32)

lemma code?_eq (hrate : rate ≠ 0) : code? chip rate.toBitVec =
    some (.ofNat 32 (code chip rate.toNat).1, .ofNat 32 (code chip rate.toNat).2) := by
  have hpos := toNat_ne_zero hrate
  have hword : rate.toBitVec = BitVec.ofNat 32 rate.toNat :=
    BitVec.eq_of_toNat_eq (toNat_ofNat_of_lt rate.toNat_lt).symm
  rw [hword]
  exact code?_ofNat chip hpos rate.toNat_lt

lemma setting?_eq : setting? chip channel rate = some (Baud.setting? chip channel rate.toNat) := by
  by_cases hrate : rate = 0
  · rw [hrate]
    rfl
  · have hpos := toNat_ne_zero hrate
    have hindex := index_ofNat chip channel ((code_lt chip hpos).trans (by decide))
    have hactual : (code chip rate.toNat).2 < 2 ^ 32 := by
      have hle := actual_le chip hpos
      have hbase := baseRate_bounds (usesFastClock chip rate.toNat)
      omega
    have hzero : ¬ BitVec.ofNat 32 (code chip rate.toNat).2 = 0#32 := by
      rw [ofNat_inj hactual (by decide)]
      exact actual_ne_zero chip hpos
    rw [setting?, if_neg hrate, code?_eq chip rate hrate, setting_of_port chip hpos,
      Option.bind_eq_bind, Option.bind_some]
    simp only [if_neg hzero, toNat_ofNat_of_lt hactual, value_ofNat, hindex, Option.pure_def]

/-- No step on the way from a rate to its setting leaves its word or divides by zero. Zero alone has
no setting, the code of the others has 17 bits and one more for the fast clock. -/
theorem settings_in_range :
    setting? chip channel rate = some (Baud.setting? chip channel rate.toNat) ∧
    (Baud.setting? chip channel rate.toNat = none ↔ rate = 0) ∧
    (rate ≠ 0 → ∃ s code, Baud.setting? chip channel rate.toNat = some s ∧
      code? chip rate.toBitVec = some (code, .ofNat 32 s.actual) ∧
      (code.toNat < 2 ^ 17 ∨ chip.isHighSpeed ∧ code.getLsbD 17 ∧ code.toNat < 2 ^ 18) ∧
      183 ≤ s.actual ∧ s.actual ≤ baseRate chip.isHighSpeed) := by
  refine ⟨setting?_eq chip channel rate, ?none, ?some⟩
  case none =>
    constructor
    · intro hnone
      by_contra hrate
      rw [setting_of_port chip (toNat_ne_zero hrate)] at hnone
      cases hnone
    · rintro rfl
      rfl
  case some =>
    intro hrate
    have hpos := toNat_ne_zero hrate
    have hword := code_lt chip hpos
    have hcode : (BitVec.ofNat 32 (code chip rate.toNat).1).toNat = (code chip rate.toNat).1 :=
      toNat_ofNat_of_lt (by omega)
    refine ⟨_, _, setting_of_port chip hpos channel, code?_eq chip rate hrate, ?_,
      le_actual chip hpos, actual_le_baseRate chip hpos⟩
    rw [BitVec.getLsbD, hcode]
    exact code_bits chip hpos

theorem settings_in_range_above_clock :
    (0xFFFFFFFF : UInt32) ≠ 0 ∧ amClock / 0xFFFFFFFF = 0 ∧
      setting? .am 0 0xFFFFFFFF = some (some ⟨3000000, 0, 0⟩) ∧
      ∃ s code, Baud.setting? .am 0 0xFFFFFFFF = some s ∧
        code? .am 0xFFFFFFFF#32 = some (code, .ofNat 32 s.actual) ∧ code.toNat < 2 ^ 17 ∧
        183 ≤ s.actual ∧ s.actual ≤ 3000000 := by
  obtain ⟨hchecked, -, hsome⟩ := settings_in_range .am 0 0xFFFFFFFF
  obtain ⟨s, code, hs, hcode, hbits, hlow, hhigh⟩ := hsome (by decide)
  have hsetting : Baud.setting? .am 0 0xFFFFFFFF = some ⟨3000000, 0, 0⟩ := by decide
  refine ⟨by decide, by decide, hchecked.trans (congrArg some hsetting), s, code, hs, hcode, ?_,
    hlow, hhigh⟩
  rcases hbits with hbits | ⟨hfast, -⟩
  · exact hbits
  · cases hfast

end Settings

end UsbSerial.Baud.Checked
