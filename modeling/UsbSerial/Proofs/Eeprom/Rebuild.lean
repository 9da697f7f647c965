import Mathlib.Control.Monad.Basic
import UsbSerial.Proofs.Eeprom.Alike
import UsbSerial.Proofs.Eeprom.RoundTrip

/-! Settings that were decoded are as an image keeps them, so that encoding them again loses nothing
of them but a flag that has no place in the images of some chips. -/

namespace UsbSerial

namespace Nibble

lemma low_mod (b : UInt8) : low b % 16 = low b := by
  apply UInt8.toNat_inj.mp
  simp only [low, UInt8.toNat_mod, UInt8.reduceToNat]
  omega

lemma high_mod (b : UInt8) : high b % 16 = high b := by
  have hb : b.toNat < 2 ^ 8 := b.toNat_lt
  apply UInt8.toNat_inj.mp
  simp only [high, UInt8.toNat_mod, UInt8.toNat_div, UInt8.reduceToNat]
  omega

end Nibble

namespace Eeprom

lemma Drive.capped_ofNibble (n : UInt8) : (ofNibble n).capped = ofNibble n := by
  have hle : n % 4 ≤ 3 := by
    rw [UInt8.le_iff_toNat_le, UInt8.toNat_mod]
    exact Nat.le_of_lt_succ (Nat.mod_lt _ (by decide))
  have hmin : min (n % 4) 3 = n % 4 := if_pos hle
  rw [capped, ofNibble, hmin]

namespace Header

lemma power_byte (b : UInt8) : 2 * min (b.toUInt16 * 2 / 2) 255 = b.toUInt16 * 2 := by
  rw [units_byte, UInt16.mul_comm]

lemma map_capped_readDrives (img : Image) :
    (readDrives img).map Drive.capped = readDrives img := by
  simp [readDrives, Drive.capped_ofNibble]

end Header

namespace Settings

def carried (chip : Chip) (s : Settings) : Settings :=
  { s with useUsbVersion := s.useUsbVersion && (chip = .bm || chip = .ft2232C) }

end Settings

open Header (readShared readFeatures readOwn channelType_mod power_byte map_capped_readDrives)
open Nibble (low_mod high_mod)
open Settings (normal carried)

lemma Image.normal_of_readSettings {img : Image} {s : Settings} (h : img.readSettings = .ok s) :
    s.normal img.chip = s.carried img.chip := by
  obtain ⟨manufacturer, product, serial, rfl⟩ := readSettings_ok h
  rcases hchip : img.chip
  case am | bm =>
    simp [normal, carried, readOwn, readFeatures, readShared, hchip, power_byte, Chip.isHighSpeed,
      Texts.readNotPlugAndPlay, Texts.hasBlock]
  case ft2232C | ft2232H =>
    simp [normal, carried, readOwn, readFeatures, readShared, hchip, power_byte, Chip.isHighSpeed,
      channelType_mod, map_capped_readDrives, Vector.getD]
  case ft232R =>
    simp [normal, carried, readOwn, readFeatures, readShared, hchip, power_byte, Chip.isHighSpeed,
      low_mod, high_mod, Vector.getD]
  case ft4232H =>
    simp [normal, carried, readOwn, readFeatures, readShared, hchip, power_byte, Chip.isHighSpeed,
      map_capped_readDrives]

/-- Whatever image settings were decoded from: encoded again for its chip they decode to the same,
but for a flag that images for other chips than BM and 2232C do not carry. -/
theorem Settings.decode_encode_decoded {img again : Image} {s : Settings}
    (hdecode : img.decode.map Decoded.settings = .ok s) (hencode : s.encode img.chip = .ok again) :
    again.decode = .ok { image := again, settings := s.carried img.chip } := by
  obtain ⟨size, hfits, rfl⟩ := fits_of_encode hencode
  rw [Image.decode_image hfits,
    Image.normal_of_readSettings (Image.readSettings_of_decode hdecode)]

section Sample

def crossed : Image := Image.withChecksum .ft2232C .bytes128
  (List.rightpad 0x40 0x5A
      [0xFF, 0xE9, 0x03, 0x04, 0x10, 0x60, 0x00, 0x05, 0xFF, 0x2D, 0xFF, 0xFF, 0x10, 0x01,
        0x40, 0x04, 0x40, 0x04, 0x00, 0x00] ++
    [0x04, 0x03, 0x41, 0x00, 0x02, 0x03, 0x09])

def crossedSettings : Settings where
  product := 0x6010
  release := 0x0500
  selfPowered := true
  remoteWakeup := true
  maxPower := 90
  notPlugAndPlay := true
  isochronousIn := true
  isochronousOut := true
  suspendPullDowns := true
  useSerial := true
  useUsbVersion := true
  usbVersion := 0x0110
  manufacturerText := some "A"
  productText := some "A"
  channelTypeA := 7
  channelTypeB := 1
  serialDriver := #v[true, true, false, false]
  highCurrentA := true
  part := some 0x5A

theorem Settings.decode_encode_crossed :
    crossed.decode.map Decoded.settings = .ok crossedSettings ∧
      ∃ again, crossedSettings.encode .ft2232C = .ok again ∧ again.byte 0x40 ≠ crossed.byte 0x40 ∧
        again.decode = .ok { image := again, settings := crossedSettings } := by
  have hread : crossed.readSettings = .ok crossedSettings := by decide +kernel
  have hdecode : crossed.decode = .ok { image := crossed, settings := crossedSettings } :=
    Image.decode_withChecksum 0x02 (by decide) (by decide +kernel) hread
  have hmap : crossed.decode.map Decoded.settings = .ok crossedSettings := by
    rw [hdecode]
    rfl
  refine ⟨hmap, _, rfl, by decide +kernel, ?_⟩
  exact Settings.decode_encode_decoded hmap rfl

def flagged : Image :=
  Image.withChecksum .ft232R .bytes128 ((({} : Settings).body .ft232R .bytes128).set 0x0A 0x10)

theorem flagged_not_kept :
    ¬ ∀ (img again : Image) (s : Settings), img.decode.map Decoded.settings = .ok s →
      s.encode img.chip = .ok again → again.decode.map Decoded.settings = .ok s := by
  intro h
  let s : Settings := { useUsbVersion := true }
  have hread : flagged.readSettings = .ok s := by decide +kernel
  have hdecode : flagged.decode = .ok { image := flagged, settings := s } :=
    Image.decode_withChecksum 0x02 (by decide) (by decide +kernel) hread
  have hfits : Settings.Fits .ft232R .bytes128 s := ⟨rfl, by decide, by decide⟩
  have hkept := h flagged _ s (by rw [hdecode]; rfl) hfits.encode_eq
  rw [Image.decode_image hfits] at hkept
  have hsame : s.normal .ft232R = s := Except.ok.inj hkept
  exact absurd hsame (by decide)

end Sample

end Eeprom

end UsbSerial
