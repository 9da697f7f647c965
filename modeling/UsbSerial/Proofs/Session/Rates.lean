import UsbSerial.Proofs.Baud.Nearest
import UsbSerial.Proofs.Session.Gating
import UsbSerial.Proofs.Session.Memory
import UsbSerial.Proofs.Session.Outcome
import UsbSerial.Proofs.Session.Requests

namespace UsbSerial.Session

open Attempt (exec)
open Baud (Achievable distance slowRate)
open Memory (bareHost bareLink bare_bound)

section Settings

variable {chip : Chip} {rate : UInt32}

lemma code_slow (hchip : chip ∈ [.bm, .ft2232C, .ft232R]) (rate : ℕ) :
    (Baud.code chip rate).2 = slowRate rate := by
  cases chip with
  | bm | ft2232C | ft232R => rfl
  | am | ft2232H | ft4232H => exact absurd hchip (by decide)

lemma baudSetting_reset (chip : Chip) (channel : Channel) {rate : UInt32}
    (hrate : rate.toNat ≠ 0) :
    Baud.close (Baud.code chip rate.toNat).2 rate.toNat = true ∧
        (∃ s, baudSetting chip .reset channel rate = .ok s ∧
          Baud.setting? chip channel.index rate.toNat = some s) ∨
      Baud.close (Baud.code chip rate.toNat).2 rate.toNat = false ∧
        baudSetting chip .reset channel rate =
          .error (.unsupportedBaudRate rate.toNat (Baud.code chip rate.toNat).2) := by
  have hsize : ¬ UInt32.size ≤ rate.toNat := Nat.not_le_of_lt rate.toNat_lt
  have hfactor : clockFactor .reset = 1 := rfl
  unfold baudSetting
  dsimp only
  rw [hfactor, Nat.mul_one, if_neg hsize, Baud.setting_eq chip channel hrate]
  dsimp only
  rw [Nat.div_one]
  cases Baud.close (Baud.code chip rate.toNat).2 rate.toNat with
  | true => exact .inl ⟨rfl, _, rfl, rfl⟩
  | false => exact .inr ⟨rfl, rfl⟩

lemma baudSetting_ok_iff (chip : Chip) (channel : Channel) (rate : UInt32) :
    (∃ s, baudSetting chip .reset channel rate = .ok s) ↔
      rate.toNat ≠ 0 ∧ Baud.close (Baud.code chip rate.toNat).2 rate.toNat = true := by
  by_cases hrate : rate.toNat = 0
  · obtain rfl : rate = 0 := UInt32.toNat_inj.mp hrate
    exact iff_of_false nofun fun h => h.1 hrate
  · rw [and_iff_right hrate]
    rcases baudSetting_reset chip channel hrate with ⟨hclose, s, hsetting, -⟩ | ⟨hfar, hsetting⟩
    · exact iff_of_true ⟨s, hsetting⟩ hclose
    · rw [hfar, hsetting]
      exact iff_of_false nofun Bool.false_ne_true

lemma baudSetting_exact (chip : Chip) (channel : Channel) {actual : ℕ} (hset : actual ≠ 0)
    (hle : actual ≤ 12000000) (hexact : (Baud.code chip actual).2 = actual) :
    actual.toUInt32.toNat = actual ∧
      ∃ s, baudSetting chip .reset channel actual.toUInt32 = .ok s ∧
        Baud.setting? chip channel.index actual = some s ∧ s.actual = actual := by
  have hword : actual.toUInt32.toNat = actual := by
    rw [UInt32.toNat_ofNat', Nat.mod_eq_of_lt (by omega)]
  have hpos : actual.toUInt32.toNat ≠ 0 := hword.symm ▸ hset
  have hcases := baudSetting_reset chip channel hpos
  rw [hword, hexact, Baud.close_self] at hcases
  obtain ⟨-, s, hsetting, hsome⟩ := hcases.resolve_right fun h => Bool.noConfusion h.1
  refine ⟨hword, s, hsetting, hsome, ?_⟩
  rw [Baud.setting_eq chip channel hset] at hsome
  cases hsome
  exact hexact

lemma baudSetting_slow (hchip : chip ∈ [.bm, .ft2232C, .ft232R]) (channel : Channel)
    (hrate : rate ≠ 0) :
    Baud.close (slowRate rate.toNat) rate.toNat = true ∧
        (∃ s, baudSetting chip .reset channel rate = .ok s) ∨
      Baud.close (slowRate rate.toNat) rate.toNat = false ∧ baudSetting chip .reset channel rate =
        .error (.unsupportedBaudRate rate.toNat (slowRate rate.toNat)) := by
  have hpos := Baud.toNat_ne_zero hrate
  rw [← code_slow hchip]
  exact (baudSetting_reset chip channel hpos).imp_left
    (And.imp_right fun ⟨s, hsetting, _⟩ => ⟨s, hsetting⟩)

end Settings

section Calls

variable {β δ κ : Type} [Transport β δ κ] {w : Hosted β κ} {l : Link κ} {rate : UInt32}

lemma rejects_setBaudRate {e : Error} (hl : w.session.binding = .opened l)
    (hsetting : baudSetting l.chip l.mode w.session.options.channel rate = .error e) :
    Rejects (setBaudRate rate) w e := by
  refine Refuses.tracked ⟨w.log, ?_⟩
  rw [programBaudRate, Attempt.exec_bind, exec_link, hl]
  simp only [Attempt.exec_bind, exec_session, Attempt.exec_liftM, hsetting]

lemma exec_setBaudRate {s : Baud.Setting} {r : Except Usb.Error Unit} {bus : β}
    (hl : w.session.binding = .opened l)
    (hsetting : baudSetting l.chip l.mode w.session.options.channel rate = .ok s)
    (hout : exec (send l.handle w.session.options.writeTimeout (rateControl s)) w.bus = (r, bus)) :
    ∃ v, exec (setBaudRate rate) w = (r.mapError .transport, v) ∧ v.bus = bus ∧
      (r = .ok () → v.session.baudRate = rate) := by
  obtain ⟨v, l', hexec, hbus, hl', -, hrate⟩ := exec_programBaudRate hl hsetting hout
  rw [setBaudRate, exec_tracked, hexec]
  cases r with
  | error e => exact ⟨_, rfl, hbus, nofun⟩
  | ok a =>
    refine ⟨v, rfl, hbus, fun hok => ?_⟩
    simp only [baudRate, link?, hl', Option.map_some, Option.getD_some]
    exact hrate hok

lemma setBaudRate_outcome (hl : w.session.binding = .opened l) (rate : UInt32) :
    (∃ e, baudSetting l.chip l.mode w.session.options.channel rate = .error e ∧
        Rejects (setBaudRate rate) w e) ∨
      ∃ s r v, baudSetting l.chip l.mode w.session.options.channel rate = .ok s ∧
        exec (send l.handle w.session.options.writeTimeout (rateControl s)) w.bus = (r, v.bus) ∧
        exec (setBaudRate rate) w = (r.mapError .transport, v) ∧
        (r = .ok () → v.session.baudRate = rate) := by
  cases hsetting : baudSetting l.chip l.mode w.session.options.channel rate with
  | error e => exact .inl ⟨e, rfl, rejects_setBaudRate hl hsetting⟩
  | ok s =>
    rcases hout : exec (send l.handle w.session.options.writeTimeout (rateControl s)) w.bus with
      ⟨r, bus⟩
    obtain ⟨v, hexec, rfl, hrate⟩ := exec_setBaudRate hl hsetting hout
    exact .inr ⟨s, r, v, rfl, hout, hexec, hrate⟩

lemma baudRate_of_ok (hl : w.session.binding = .opened l)
    (h : (exec (setBaudRate rate) w).1 = .ok ()) :
    (exec (setBaudRate rate) w).2.session.baudRate = rate := by
  rcases setBaudRate_outcome hl rate with ⟨e, -, log, hexec⟩ | ⟨s, r, v, -, -, hexec, hrate⟩
  · rw [hexec] at h
    cases h
  · rw [hexec] at h ⊢
    cases r with
    | error e => cases h
    | ok a => exact hrate rfl

lemma not_unsupported_of_ok {s : Baud.Setting} (hl : w.session.binding = .opened l)
    (hsetting : baudSetting l.chip l.mode w.session.options.channel rate = .ok s)
    (requested nearest : ℕ) :
    (exec (setBaudRate rate) w).1 ≠ .error (.unsupportedBaudRate requested nearest) := by
  rcases hout : exec (send l.handle w.session.options.writeTimeout (rateControl s)) w.bus with
    ⟨r, bus⟩
  obtain ⟨v, hexec, -⟩ := exec_setBaudRate hl hsetting hout
  rw [hexec]
  cases r <;> rintro ⟨⟩

lemma nearest_of_unsupported {w' : Hosted β κ} {requested nearest : ℕ}
    (hl : w.session.binding = .opened l) (hmode : l.mode = .reset) (hrate : rate.toNat ≠ 0)
    (h : exec (setBaudRate rate) w = (.error (.unsupportedBaudRate requested nearest), w')) :
    nearest = (Baud.code l.chip rate.toNat).2 ∧
      ∃ log lastError, w' = { w with log, session.lastError := lastError } := by
  rcases baudSetting_reset l.chip w.session.options.channel hrate with
    ⟨-, s, hsetting, -⟩ | ⟨-, hsetting⟩
  · rw [← hmode] at hsetting
    exact absurd (by rw [h]) (not_unsupported_of_ok hl hsetting requested nearest)
  · rw [← hmode] at hsetting
    obtain ⟨log, hexec⟩ := rejects_setBaudRate hl hsetting
    rw [hexec] at h
    cases h
    exact ⟨rfl, log, _, rfl⟩

/-- A rate is refused without anything being sent, and just the rates in four ranges are; what is
reported is a rate of the chip. -/
theorem unsupported_iff (hl : w.session.binding = .opened l) (hmode : l.mode = .reset)
    (hchip : l.chip ∈ [.bm, .ft2232C, .ft232R]) (hrate : rate ≠ 0) :
    ((∃ requested nearest,
          (exec (setBaudRate rate) w).1 = .error (.unsupportedBaudRate requested nearest)) ↔
        rate.toNat < 175 ∨ 1575000 < rate.toNat ∧ rate.toNat < 2000000 ∨
          2100000 < rate.toNat ∧ rate.toNat < 3000000 ∨ 3150000 < rate.toNat) ∧
      ∀ requested nearest,
        (exec (setBaudRate rate) w).1 = .error (.unsupportedBaudRate requested nearest) →
          Rejects (setBaudRate rate) w (.unsupportedBaudRate requested nearest) ∧
          requested = rate.toNat ∧ Achievable nearest ∧
          ((∀ actual, Achievable actual → Baud.close actual rate.toNat = false) ↔
            ¬ (1904762 ≤ rate.toNat ∧ rate.toNat < 2000000 ∨
              2857143 ≤ rate.toNat ∧ rate.toNat < 3000000)) ∧
          ((∀ actual, Achievable actual →
              distance nearest rate.toNat ≤ distance actual rate.toNat) ↔
            ¬ (1750000 < rate.toNat ∧ rate.toNat < 2000000 ∨
              2500000 < rate.toNat ∧ rate.toNat < 3000000)) := by
  have hpos := Baud.toNat_ne_zero hrate
  have hranges := Baud.close_slowRate_iff hpos
  rcases baudSetting_slow hchip w.session.options.channel hrate with
    ⟨hclose, s, hsetting⟩ | ⟨hfar, hsetting⟩
  · rw [← hmode] at hsetting
    have hsent := not_unsupported_of_ok hl hsetting
    refine ⟨iff_of_false ?_ ?_, fun requested nearest h => absurd h (hsent requested nearest)⟩
    · rintro ⟨requested, nearest, h⟩
      exact hsent requested nearest h
    · have := hranges.mp hclose
      omega
  · rw [← hmode] at hsetting
    have hrejects := rejects_setBaudRate hl hsetting
    obtain ⟨log, hexec⟩ := hrejects
    refine ⟨iff_of_true ⟨_, _, by rw [hexec]⟩ ?_, ?_⟩
    · have := mt hranges.mpr (Bool.not_eq_true _ ▸ hfar)
      omega
    · intro requested nearest h
      rw [hexec] at h
      cases h
      exact ⟨⟨log, hexec⟩, rfl, Baud.achievable_slowRate hpos, Baud.none_close_iff hpos hfar,
        Baud.nearest_iff hpos hfar⟩

end Calls

section Sample

theorem unsupported_iff_above_fastest : (3500000 : UInt32) ≠ 0 ∧
    bareHost.session.binding = .opened bareLink ∧ bareLink.mode = .reset ∧
    bareLink.chip ∈ [.bm, .ft2232C, .ft232R] ∧
    ∃ nearest,
      (exec (setBaudRate 3500000) bareHost).1 = .error (.unsupportedBaudRate 3500000 nearest) ∧
      (∀ actual, Achievable actual → Baud.close actual 3500000 = false) ∧
      ∀ actual, Achievable actual → distance nearest 3500000 ≤ distance actual 3500000 := by
  have hrate : (3500000 : UInt32) ≠ 0 := by decide
  obtain ⟨hrefused, hreported⟩ := unsupported_iff bare_bound.binding rfl (by decide) hrate
  obtain ⟨requested, nearest, h⟩ := hrefused.mpr (by decide)
  obtain ⟨-, rfl, -, hnone, hnearest⟩ := hreported requested nearest h
  exact ⟨hrate, bare_bound.binding, rfl, by decide, nearest, h, hnone.mpr (by decide),
    hnearest.mpr (by decide)⟩

theorem refused_below_fastest :
    (exec (setBaudRate 2900000) bareHost).1 = .error (.unsupportedBaudRate 2900000 2000000) ∧
      Achievable 3000000 ∧ Baud.close 3000000 2900000 = true ∧
      distance 3000000 2900000 < distance 2000000 2900000 := by
  refine ⟨?_, Baud.achievable_one, by decide, by decide⟩
  have hsetting : baudSetting bareLink.chip bareLink.mode bareHost.session.options.channel 2900000 =
      .error (.unsupportedBaudRate 2900000 2000000) := rfl
  obtain ⟨log, hexec⟩ := rejects_setBaudRate bare_bound.binding hsetting
  rw [hexec]

end Sample

section Taken

variable {β δ κ : Type} [Transport β δ κ] {w : Hosted β κ} {l : Link κ} {rate : UInt32}

section Sent

variable (hl : w.session.binding = .opened l)
  (hsent : ∀ c, (exec (send l.handle w.session.options.writeTimeout c) w.bus).1 = .ok ())

include hl hsent

lemma setBaudRate_taken {s : Baud.Setting}
    (hsetting : baudSetting l.chip l.mode w.session.options.channel rate = .ok s) :
    ∃ v, exec (setBaudRate rate) w = (.ok (), v) ∧ v.session.baudRate = rate ∧
      v.bus = (exec (send l.handle w.session.options.writeTimeout (rateControl s)) w.bus).2 := by
  rcases hout : exec (send l.handle w.session.options.writeTimeout (rateControl s)) w.bus with
    ⟨r, bus⟩
  obtain rfl : r = .ok () := by rw [← hsent (rateControl s), hout]
  obtain ⟨v, hexec, hbus, hrate⟩ := exec_setBaudRate hl hsetting hout
  exact ⟨v, hexec, hrate rfl, hbus⟩

lemma setBaudRate_ok_iff : (exec (setBaudRate rate) w).1 = .ok () ↔
    ∃ s, baudSetting l.chip l.mode w.session.options.channel rate = .ok s := by
  rcases setBaudRate_outcome hl rate with ⟨e, hsetting, log, hexec⟩ | ⟨s, r, v, hsetting, -, -, -⟩
  · rw [hexec, hsetting]
    exact iff_of_false nofun nofun
  · obtain ⟨v, hexec, -⟩ := setBaudRate_taken hl hsent hsetting
    rw [hexec]
    exact iff_of_true rfl ⟨s, hsetting⟩

lemma rejects_of_error {e : Error} (h : (exec (setBaudRate rate) w).1 = .error e) :
    Rejects (setBaudRate rate) w e := by
  rcases setBaudRate_outcome hl rate with ⟨e', -, log, hexec⟩ | ⟨s, r, v, hsetting, -, -, -⟩
  · rw [hexec] at h
    cases h
    exact ⟨log, hexec⟩
  · obtain ⟨v, hexec, -⟩ := setBaudRate_taken hl hsent hsetting
    rw [hexec] at h
    cases h

end Sent

/-- Over a transport that takes every request, the rates in three ranges are accepted and are then
those of the session. The others leave the bus as it was, with any record of calls it keeps. -/
theorem accepted_iff (hl : w.session.binding = .opened l) (hmode : l.mode = .reset)
    (hsent : ∀ c, (exec (send l.handle w.session.options.writeTimeout c) w.bus).1 = .ok ())
    (rate : UInt32) :
    (l.chip ∈ [.bm, .ft2232C, .ft232R] →
        ((exec (setBaudRate rate) w).1 = .ok () ↔
          175 ≤ rate.toNat ∧ rate.toNat ≤ 1575000 ∨ 2000000 ≤ rate.toNat ∧ rate.toNat ≤ 2100000 ∨
            3000000 ≤ rate.toNat ∧ rate.toNat ≤ 3150000)) ∧
      (l.chip ∈ [.ft2232H, .ft4232H] →
        ((exec (setBaudRate rate) w).1 = .ok () ↔
          175 ≤ rate.toNat ∧ rate.toNat ≤ 6300000 ∨ 8000000 ≤ rate.toNat ∧ rate.toNat ≤ 8400000 ∨
            12000000 ≤ rate.toNat ∧ rate.toNat ≤ 12600000)) ∧
      ((exec (setBaudRate rate) w).1 = .ok () →
        (exec (setBaudRate rate) w).2.session.baudRate = rate) ∧
      ∀ e, (exec (setBaudRate rate) w).1 = .error e → Rejects (setBaudRate rate) w e := by
  have hok : (exec (setBaudRate rate) w).1 = .ok () ↔
      rate.toNat ≠ 0 ∧ Baud.close (Baud.code l.chip rate.toNat).2 rate.toNat = true := by
    rw [setBaudRate_ok_iff hl hsent, hmode, baudSetting_ok_iff]
  refine ⟨fun hchip => ?slow, fun hchip => ?fast, baudRate_of_ok hl,
    fun _ => rejects_of_error hl hsent⟩
  case slow =>
    rw [hok, code_slow hchip]
    by_cases hrate : rate.toNat = 0
    · exact iff_of_false (fun h => h.1 hrate) (by omega)
    · rw [Baud.close_slowRate_iff hrate, and_iff_right hrate]
  case fast =>
    have hhigh : l.chip.isHighSpeed = true := by
      revert hchip
      cases l.chip <;> decide
    rw [hok]
    by_cases hrate : rate.toNat = 0
    · exact iff_of_false (fun h => h.1 hrate) (by omega)
    · rw [Baud.close_highSpeed_iff hhigh hrate, and_iff_right hrate]

lemma bare_taken (c : Sim.Control) : (exec (send bareLink.handle
    bareHost.session.options.writeTimeout c) bareHost.bus).1 = .ok () := by
  rw [exec_send c bare_bound.device bare_bound.ready.sound]

theorem accepted_iff_edge : bareHost.session.binding = .opened bareLink ∧ bareLink.mode = .reset ∧
    (∀ c, (exec (send bareLink.handle bareHost.session.options.writeTimeout c) bareHost.bus).1 =
      .ok ()) ∧
    (exec (setBaudRate 1575000) bareHost).1 = .ok () ∧
    (exec (setBaudRate 1575000) bareHost).2.session.baudRate = 1575000 ∧
    ∃ e, Rejects (setBaudRate 1575001) bareHost e := by
  obtain ⟨hslow, -, hstored, -⟩ :=
    accepted_iff bare_bound.binding rfl bare_taken 1575000
  obtain ⟨hslow', -, -, hunsent⟩ :=
    accepted_iff bare_bound.binding rfl bare_taken 1575001
  have hok := (hslow (by decide)).mpr (by decide)
  refine ⟨bare_bound.binding, rfl, bare_taken, hok, hstored hok, ?_⟩
  cases hrefused : (exec (setBaudRate 1575001) bareHost).1 with
  | error e => exact ⟨e, hunsent e hrefused⟩
  | ok a => exact absurd ((hslow' (by decide)).mp hrefused) (by decide)

theorem nearest_taken {chip : Chip} (hchip : chip ≠ .am) (hrate : rate ≠ 0) :
    (∀ channel : Channel, ∃ s s', Baud.setting? chip channel.index rate.toNat = some s ∧
        Baud.setting? chip channel.index s.actual = some s' ∧ s'.actual = s.actual) ∧
      ∀ (w w' : Hosted β κ) (l : Link κ) (requested nearest : ℕ),
        w.session.binding = .opened l → l.mode = .reset → l.chip = chip →
        (∀ c, (exec (send l.handle w.session.options.writeTimeout c) w.bus).1 = .ok ()) →
        exec (setBaudRate rate) w = (.error (.unsupportedBaudRate requested nearest), w') →
        ∃ s v, Baud.setting? chip w.session.options.channel.index nearest = some s ∧
          s.actual = nearest ∧ nearest.toUInt32.toNat = nearest ∧
          exec (setBaudRate nearest.toUInt32) w' = (.ok (), v) ∧
          v.session.baudRate = nearest.toUInt32 ∧
          v.bus =
            (exec (send l.handle w.session.options.writeTimeout (rateControl s)) w.bus).2 := by
  have hpos := Baud.toNat_ne_zero hrate
  have hagain := Baud.actual_actual hchip hpos
  have hset := Baud.actual_ne_zero chip hpos
  have hle := (Baud.actual_le chip hpos).trans (Baud.baseRate_bounds _).2
  refine ⟨fun channel => ⟨_, _, Baud.setting_eq chip channel hpos,
    Baud.setting_eq chip channel hset, hagain⟩, ?_⟩
  rintro w w' l requested nearest hl hmode rfl hsent hrefused
  obtain ⟨rfl, log, lastError, rfl⟩ := nearest_of_unsupported hl hmode hpos hrefused
  obtain ⟨hword, s, hsetting, hsome, hactual⟩ := baudSetting_exact l.chip
    w.session.options.channel hset hle hagain
  rw [← hmode] at hsetting
  obtain ⟨v, hexec, hstored, hbus⟩ := setBaudRate_taken
    (w := { w with log, session.lastError := lastError }) hl hsent hsetting
  exact ⟨s, v, hsome, hactual, hword, hexec, hstored, hbus⟩

theorem nearest_taken_above_fastest : Chip.bm ≠ .am ∧ (3500000 : UInt32) ≠ 0 ∧
    ∃ w' v, exec (setBaudRate 3500000) bareHost =
        (.error (.unsupportedBaudRate 3500000 3000000), w') ∧
      exec (setBaudRate 3000000) w' = (.ok (), v) ∧ v.session.baudRate = 3000000 := by
  have hsetting : baudSetting bareLink.chip bareLink.mode bareHost.session.options.channel 3500000 =
      .error (.unsupportedBaudRate 3500000 3000000) := rfl
  obtain ⟨log, hrefused⟩ := rejects_setBaudRate bare_bound.binding hsetting
  have hchip : Chip.bm ≠ .am := by decide
  have hrate : (3500000 : UInt32) ≠ 0 := by decide
  obtain ⟨-, hretried⟩ := nearest_taken (β := Sim.Bus) hchip hrate
  obtain ⟨s, v, -, -, -, hexec, hstored, -⟩ :=
    hretried _ _ bareLink 3500000 3000000 bare_bound.binding rfl rfl bare_taken hrefused
  exact ⟨hchip, hrate, _, v, hrefused, hexec, hstored⟩

end Taken

end UsbSerial.Session
