import UsbSerial.Proofs.Session.Rates
import UsbSerial.Proofs.Session.Window

/-! Rates in the modes that clock the pins four times as fast: the chip is asked for what it would
be asked for the fourfold rate on the serial line, and the session is told in rates of its own. -/

namespace UsbSerial.Session

open Attempt (exec)
open Sim (Control)

section Settings

variable {mode : BitMode} {rate : UInt32}

def quartered (rate : UInt32) : Error → Error
  | .unsupportedBaudRate _ nearest => .unsupportedBaudRate rate.toNat (nearest / 4)
  | e => e

lemma quartered_eq_iff {e : Error} {requested nearest : ℕ} :
    quartered rate e = .unsupportedBaudRate requested nearest ↔
      requested = rate.toNat ∧
        ∃ scaled whole, e = .unsupportedBaudRate scaled whole ∧ nearest = whole / 4 := by
  constructor
  · intro h
    cases e <;> cases h
    exact ⟨rfl, _, _, rfl, rfl⟩
  · rintro ⟨rfl, scaled, whole, rfl, rfl⟩
    rfl

lemma toNat_fourfold (h : 4 * rate.toNat < UInt32.size) : (4 * rate).toNat = 4 * rate.toNat := by
  rw [UInt32.toNat_mul]
  exact Nat.mod_eq_of_lt h

lemma baudSetting_too_large (hmode : mode ≠ .reset) (chip : Chip) (channel : Channel)
    (h : UInt32.size ≤ 4 * rate.toNat) :
    baudSetting chip mode channel rate = .error (.invalidArgument .baudRateTooLarge) := by
  have hfactor : clockFactor mode = 4 := if_neg hmode
  unfold baudSetting
  dsimp only
  rw [hfactor, if_pos (by omega)]

lemma baudSetting_fourfold (hmode : mode ≠ .reset) (chip : Chip) (channel : Channel)
    (h : 4 * rate.toNat < UInt32.size) :
    baudSetting chip mode channel rate =
      (baudSetting chip .reset channel (4 * rate)).mapError (quartered rate) := by
  have hfactor : clockFactor mode = 4 := if_neg hmode
  have hreset : clockFactor .reset = 1 := rfl
  unfold baudSetting
  dsimp only
  rw [hfactor, hreset, toNat_fourfold h, Nat.mul_one, Nat.mul_comm rate.toNat,
    if_neg (Nat.not_le.mpr h), if_neg (Nat.not_le.mpr h)]
  cases Baud.setting? chip channel.index (4 * rate.toNat) with
  | none => rfl
  | some s =>
    dsimp only
    cases Baud.close s.actual (4 * rate.toNat) with
    | true => rfl
    | false =>
      rw [Nat.div_one]
      rfl

end Settings

section Calls

variable {β δ κ : Type} [Transport β δ κ] {l : Link κ} {rate : UInt32}

lemma setBaudRate_unsupported_iff {w : Hosted β κ} (hl : w.session.binding = .opened l)
    {requested nearest : ℕ} :
    (exec (setBaudRate rate) w).1 = .error (.unsupportedBaudRate requested nearest) ↔
      baudSetting l.chip l.mode w.session.options.channel rate =
        .error (.unsupportedBaudRate requested nearest) := by
  rcases setBaudRate_outcome hl rate with ⟨e, hsetting, log, hexec⟩ | ⟨s, r, v, hsetting, -⟩
  · rw [hexec, hsetting, Except.error.injEq, Except.error.injEq]
  · rw [hsetting]
    exact iff_of_false (not_unsupported_of_ok hl hsetting requested nearest) nofun

def recorded (o : Options) (c : Control) : Probe.Seen :=
  .controlOut c.request c.value c.index o.writeTimeout

lemma sees_setBaudRate {w : Hosted (Probe β) κ} (hl : w.session.binding = .opened l)
    (rate : UInt32) :
    Sees (setBaudRate rate) w
      (((baudSetting l.chip l.mode w.session.options.channel rate).toOption.map
        rateControl).toList.map (recorded w.session.options)) := by
  rcases setBaudRate_outcome hl rate with
    ⟨e, hsetting, log, hexec⟩ | ⟨s, r, v, hsetting, hout, hexec, -⟩
  · rw [Sees, hexec, hsetting]
    exact (List.append_nil _).symm
  · have hseen (c : Control) :
        (exec (send l.handle w.session.options.writeTimeout c) w.bus).2.seen =
        w.bus.seen ++ [recorded w.session.options c] :=
      Probe.seen_controlOut _ _ _ _ _ _
    have hrequest := hseen (rateControl s)
    rw [hout] at hrequest
    rw [Sees, hexec, hsetting]
    exact hrequest

end Calls

section Runs

variable {β δ κ β' δ' κ' : Type} [Transport β δ κ] [Transport β' δ' κ'] {w : Hosted (Probe β) κ}
  {v : Hosted (Probe β') κ'} {l : Link κ} {k : Link κ'}

/-- One session in a mode of its own, another on the serial line: the one asks its chip for a rate
as the other asks for the fourfold one, and is refused when that is. -/
theorem fourfold_alike (hl : w.session.binding = .opened l) (hk : v.session.binding = .opened k)
    (hmode : l.mode ≠ .reset) (hserial : k.mode = .reset) (hchip : k.chip = l.chip)
    (hchannel : v.session.options.channel = w.session.options.channel) (rate : UInt32) :
    (UInt32.size ≤ 4 * rate.toNat →
        Rejects (setBaudRate rate) w (.invalidArgument .baudRateTooLarge)) ∧
      (4 * rate.toNat < UInt32.size →
        (∃ request? : Option Control,
          Sees (setBaudRate rate) w (request?.toList.map (recorded w.session.options)) ∧
          Sees (setBaudRate (4 * rate)) v (request?.toList.map (recorded v.session.options))) ∧
        (∀ requested nearest,
          (exec (setBaudRate rate) w).1 = .error (.unsupportedBaudRate requested nearest) ↔
            requested = rate.toNat ∧ ∃ scaled whole,
              (exec (setBaudRate (4 * rate)) v).1 = .error (.unsupportedBaudRate scaled whole) ∧
              nearest = whole / 4) ∧
        ((exec (setBaudRate rate) w).1 = .ok () →
          (exec (setBaudRate rate) w).2.session.baudRate = rate)) := by
  refine ⟨fun hlarge => ?large, fun hfits => ⟨?sent, ?refused, baudRate_of_ok hl⟩⟩
  case large =>
    exact rejects_setBaudRate hl (baudSetting_too_large hmode l.chip _ hlarge)
  case sent =>
    have hw := sees_setBaudRate hl rate
    have hv := sees_setBaudRate hk (4 * rate)
    rw [hserial, hchip, hchannel] at hv
    rw [baudSetting_fourfold hmode l.chip _ hfits] at hw
    refine ⟨_, ?_, hv⟩
    cases hsetting : baudSetting l.chip .reset w.session.options.channel (4 * rate) with
    | error e => rwa [hsetting] at hw
    | ok s => rwa [hsetting] at hw
  case refused =>
    intro requested nearest
    rw [setBaudRate_unsupported_iff hl, baudSetting_fourfold hmode l.chip _ hfits]
    simp only [setBaudRate_unsupported_iff hk, hserial, hchip, hchannel]
    cases baudSetting l.chip .reset w.session.options.channel (4 * rate) with
    | error e => simp only [Host.mapError_error, Except.error.injEq, quartered_eq_iff]
    | ok s => simp

end Runs

section Sample

open Memory (bareHost bareLink bare_bound)
open Sim (Bus Handle)

def sampleSerial : Hosted (Probe Bus) Handle where
  bus := { bus := bareHost.bus }
  session := bareHost.session

def sampleClocked : Hosted (Probe Bus) Handle :=
  { sampleSerial with session.binding := .opened { bareLink with mode := .mpsse } }

theorem fourfold_alike_clocked :
    (∃ request? : Option Control,
      Sees (setBaudRate 28800) sampleClocked
        (request?.toList.map (recorded bareHost.session.options)) ∧
      Sees (setBaudRate 115200) sampleSerial
        (request?.toList.map (recorded bareHost.session.options))) ∧
    (exec (setBaudRate 725000) sampleClocked).1 = .error (.unsupportedBaudRate 725000 500000) ∧
    Rejects (setBaudRate 1073741824) sampleClocked (.invalidArgument .baudRateTooLarge) := by
  have hserial : sampleSerial.session.binding = .opened bareLink := bare_bound.binding
  have hclocked : sampleClocked.session.binding = .opened { bareLink with mode := .mpsse } := rfl
  have halike := fourfold_alike hclocked hserial nofun rfl rfl rfl
  have hrefused : (exec (setBaudRate 2900000) sampleSerial).1 =
      .error (.unsupportedBaudRate 2900000 2000000) :=
    (setBaudRate_unsupported_iff hserial).mpr rfl
  exact ⟨((halike 28800).2 (by decide)).1,
    (((halike 725000).2 (by decide)).2.1 725000 500000).mpr ⟨rfl, 2900000, 2000000, hrefused, rfl⟩,
    (halike 1073741824).1 (by decide)⟩

end Sample

end UsbSerial.Session
