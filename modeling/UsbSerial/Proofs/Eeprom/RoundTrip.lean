import UsbSerial.Proofs.Eeprom.Bits
import UsbSerial.Proofs.Eeprom.Texts

namespace UsbSerial.Eeprom

open Texts (start table hasBlock)

lemma vector_four {α : Type} (v : Vector α 4) (a : α) :
    v = #v[v.getD 0 a, v.getD 1 a, v.getD 2 a, v.getD 3 a] := by
  ext k hk
  match k, hk with
  | 0, _ => simp [Vector.getD]
  | 1, _ => simp [Vector.getD]
  | 2, _ => simp [Vector.getD]
  | 3, _ => simp [Vector.getD]

lemma vector_five {α : Type} (v : Vector α 5) (a : α) :
    v = #v[v.getD 0 a, v.getD 1 a, v.getD 2 a, v.getD 3 a, v.getD 4 a] := by
  ext k hk
  match k, hk with
  | 0, _ => simp [Vector.getD]
  | 1, _ => simp [Vector.getD]
  | 2, _ => simp [Vector.getD]
  | 3, _ => simp [Vector.getD]
  | 4, _ => simp [Vector.getD]

lemma getD_map {α γ : Type} {n : ℕ} (f : α → γ) (v : Vector α n) (k : ℕ) (a : α) :
    (v.map f).getD k (f a) = f (v.getD k a) := by
  by_cases hk : k < n
  · simp [Vector.getD, hk]
  · simp [Vector.getD, hk]

lemma map_four {α γ : Type} (f : α → γ) (v : Vector α 4) (a : α) :
    v.map f = #v[f (v.getD 0 a), f (v.getD 1 a), f (v.getD 2 a), f (v.getD 3 a)] := by
  rw [vector_four (v.map f) (f a)]
  simp only [getD_map]

lemma map_five {α γ : Type} (f : α → γ) (v : Vector α 5) (a : α) :
    v.map f =
      #v[f (v.getD 0 a), f (v.getD 1 a), f (v.getD 2 a), f (v.getD 3 a), f (v.getD 4 a)] := by
  rw [vector_five (v.map f) (f a)]
  simp only [getD_map]

namespace Settings

/-- The settings as an image for the chip keeps them. What the chip has no place for is at its
default. -/
def normal (chip : Chip) (s : Settings) : Settings :=
  let unset : Settings := {}
  { vendor := s.vendor
    product := s.product
    release := s.release
    selfPowered := s.selfPowered
    remoteWakeup := s.remoteWakeup
    maxPower := 2 * min (s.maxPower / 2) 255
    notPlugAndPlay := if chip ∈ [.am, .bm] then unset.notPlugAndPlay else s.notPlugAndPlay
    isochronousIn := if chip = .am then unset.isochronousIn else s.isochronousIn
    isochronousOut := if chip = .am then unset.isochronousOut else s.isochronousOut
    suspendPullDowns := if chip = .am then unset.suspendPullDowns else s.suspendPullDowns
    useSerial := if chip = .am then unset.useSerial else s.useSerial
    useUsbVersion := if chip ∈ [.bm, .ft2232C] then s.useUsbVersion else unset.useUsbVersion
    usbVersion := if chip ∈ [.bm, .ft2232C, .ft232R] then s.usbVersion else unset.usbVersion
    manufacturerText := s.manufacturerText
    productText := s.productText
    serialText := s.serialText
    channelTypeA := if chip ∈ [.ft2232C, .ft2232H] then s.channelTypeA % 8 else unset.channelTypeA
    channelTypeB := if chip ∈ [.ft2232C, .ft2232H] then s.channelTypeB % 8 else unset.channelTypeB
    serialDriver :=
      match chip with
      | .am | .bm => unset.serialDriver
      | .ft232R => #v[s.serialDriver.getD 0 false, false, false, false]
      | .ft2232C | .ft2232H =>
          #v[s.serialDriver.getD 0 false, s.serialDriver.getD 1 false, false, false]
      | .ft4232H => s.serialDriver
    rs485 := if chip = .ft4232H then s.rs485 else unset.rs485
    suspendDbus7 := if chip = .ft2232H then s.suspendDbus7 else unset.suspendDbus7
    highCurrent := if chip = .ft232R then s.highCurrent else unset.highCurrent
    highCurrentA := if chip = .ft2232C then s.highCurrentA else unset.highCurrentA
    highCurrentB := if chip = .ft2232C then s.highCurrentB else unset.highCurrentB
    externalOscillator :=
      if chip = .ft232R then s.externalOscillator else unset.externalOscillator
    inverted := if chip = .ft232R then s.inverted else unset.inverted
    cbus := if chip = .ft232R then s.cbus.map (· % 16) else unset.cbus
    drives := if chip.isHighSpeed then s.drives.map Drive.capped else unset.drives
    part := if chip ∈ [.ft2232C, .ft2232H, .ft4232H] then some (s.part.getD 0) else unset.part
    size := s.size }

namespace Fits

variable {chip : Chip} {size : Size} {s : Settings} (h : Fits chip size s)
include h

lemma byte_eq (address : ℕ) (ha : address < 0x14 + (Header.tail chip s).length) :
    (s.image chip size).byte address =
      (Header.bytes chip s (table (start chip) s.texts)).getD address 0 := by
  have hlen := h.header_le
  rw [length_header] at hlen
  exact h.byte_header (by omega)

lemma word_eq (k : ℕ) (w : UInt16) (hk : 2 * k + 1 < 0x14)
    (hlow : (Header.bytes chip s (table (start chip) s.texts)).getD (2 * k) 0 = Word.low w)
    (hhigh : (Header.bytes chip s (table (start chip) s.texts)).getD (2 * k + 1) 0 = Word.high w) :
    (s.image chip size).word k = w := by
  rw [Image.word, h.byte_eq _ (by omega), h.byte_eq _ (by omega), hlow, hhigh,
    Word.ofBytes_low_high]

lemma readShared_eq : Header.readShared (s.image chip size) =
    { vendor := s.vendor
      product := s.product
      release := s.release
      selfPowered := s.selfPowered
      remoteWakeup := s.remoteWakeup
      maxPower := 2 * min (s.maxPower / 2) 255
      size := s.size } := by
  obtain ⟨hself, hwakeup⟩ := Header.attributes_bits s
  have hattributes : (s.image chip size).byte 0x08 = Header.attributes s :=
    h.byte_eq 0x08 (by omega)
  have hpower : (s.image chip size).byte 0x09 = Header.power s := h.byte_eq 0x09 (by omega)
  simp only [Header.readShared, h.word_eq 1 s.vendor (by decide) rfl rfl,
    h.word_eq 2 s.product (by decide) rfl rfl, h.word_eq 3 s.release (by decide) rfl rfl,
    hattributes, hpower, hself, hwakeup, Header.power_units, size_image,
    (imageSize?_eq_some h.size_eq).1]

lemma readFeatures_eq (t : Settings) : Header.readFeatures (s.image chip size) t =
    if chip = .am then t
    else
      { t with
        isochronousIn := s.isochronousIn
        isochronousOut := s.isochronousOut
        suspendPullDowns := s.suspendPullDowns
        useSerial := s.useSerial
        useUsbVersion := s.useUsbVersion && (chip = .bm || chip = .ft2232C) } := by
  rw [Header.readFeatures, chip_image]
  split_ifs with hc
  · rfl
  · have hbyte : (s.image chip size).byte 0x0A = Header.features chip s := h.byte_eq 0x0A (by omega)
    rw [Header.features, if_neg hc] at hbyte
    obtain ⟨h₁, h₂, h₃, h₄, h₅⟩ := Header.feature_bits _ _ _ _ _ hbyte
    rw [h₁, h₂, h₃, h₄, h₅]

lemma readDrives_eq (hc : chip = .ft2232H ∨ chip = .ft4232H) :
    Header.readDrives (s.image chip size) = s.drives.map Drive.capped := by
  have hfirst : (s.image chip size).byte 0x0C =
      Nibble.pair (s.drives.getD 0 {}).nibble (s.drives.getD 1 {}).nibble := by
    rw [h.byte_eq 0x0C (by omega)]
    rcases hc with rfl | rfl <;> rfl
  have hsecond : (s.image chip size).byte 0x0D =
      Nibble.pair (s.drives.getD 2 {}).nibble (s.drives.getD 3 {}).nibble := by
    rw [h.byte_eq 0x0D (by omega)]
    rcases hc with rfl | rfl <;> rfl
  rw [map_four Drive.capped s.drives {}]
  simp only [Header.readDrives, hfirst, hsecond, Nibble.low_pair, Nibble.high_pair,
    Drive.ofNibble_nibble]

lemma usbVersion_eq (hc : chip = .bm ∨ chip = .ft2232C ∨ chip = .ft232R) :
    (s.image chip size).word 6 = s.usbVersion := by
  rcases hc with rfl | rfl | rfl <;> exact h.word_eq 6 s.usbVersion (by decide) rfl rfl

omit h

lemma readOwn_2232C (h : Fits .ft2232C size s) (t : Settings) :
    Header.readOwn (s.image .ft2232C size) t =
      { t with
        channelTypeA := s.channelTypeA % 8
        channelTypeB := s.channelTypeB % 8
        serialDriver :=
          #v[s.serialDriver.getD 0 false, s.serialDriver.getD 1 false, false, false]
        highCurrentA := s.highCurrentA
        highCurrentB := s.highCurrentB
        usbVersion := s.usbVersion
        part := some (s.part.getD 0) } := by
  have ha : (s.image .ft2232C size).byte 0 = Header.channelA .ft2232C s := h.byte_eq 0 (by omega)
  have hb : (s.image .ft2232C size).byte 1 = Header.channelB .ft2232C s := h.byte_eq 1 (by omega)
  have hpart : (s.image .ft2232C size).byte 0x14 = s.part.getD 0 :=
    h.byte_eq 0x14 (by simp [Header.tail])
  obtain ⟨htypeA, hdriverA, hcurrentA⟩ := Header.channel_bits (m := 0x10) (Or.inl rfl) _ _ _ ha
  obtain ⟨htypeB, hdriverB, hcurrentB⟩ := Header.channel_bits (m := 0x10) (Or.inl rfl) _ _ _ hb
  simp only [Header.readOwn, chip_image, htypeA, hdriverA, hcurrentA, htypeB, hdriverB, hcurrentB,
    h.usbVersion_eq (by decide), hpart]

lemma readOwn_232R (h : Fits .ft232R size s) (t : Settings) :
    Header.readOwn (s.image .ft232R size) t =
      { t with
        serialDriver := #v[s.serialDriver.getD 0 false, false, false, false]
        highCurrent := s.highCurrent
        externalOscillator := s.externalOscillator
        inverted := s.inverted
        usbVersion := s.usbVersion
        cbus := s.cbus.map (· % 16) } := by
  have ha : (s.image .ft232R size).byte 0 = Header.channelA .ft232R s := h.byte_eq 0 (by omega)
  have hsignals : (s.image .ft232R size).byte 0x0B = s.inverted := h.byte_eq 0x0B (by omega)
  have h₀₁ : (s.image .ft232R size).byte 0x14 = Nibble.pair (s.cbus.getD 0 0) (s.cbus.getD 1 0) :=
    h.byte_eq 0x14 (by simp [Header.tail])
  have h₂₃ : (s.image .ft232R size).byte 0x15 = Nibble.pair (s.cbus.getD 2 0) (s.cbus.getD 3 0) :=
    h.byte_eq 0x15 (by simp [Header.tail])
  have h₄ : (s.image .ft232R size).byte 0x16 = Nibble.pair (s.cbus.getD 4 0) 0 :=
    h.byte_eq 0x16 (by simp [Header.tail])
  obtain ⟨hdriver, hcurrent, hoscillator⟩ := Header.channelA_232R s
  rw [map_five (· % 16) s.cbus 0]
  simp only [Header.readOwn, chip_image, ha, hsignals, h₀₁, h₂₃, h₄, hdriver, hcurrent, hoscillator,
    Nibble.low_pair, Nibble.high_pair, h.usbVersion_eq (by decide), Bool.not_not]

lemma readOwn_2232H (h : Fits .ft2232H size s) (t : Settings) :
    Header.readOwn (s.image .ft2232H size) t =
      { t with
        channelTypeA := s.channelTypeA % 8
        channelTypeB := s.channelTypeB % 8
        serialDriver :=
          #v[s.serialDriver.getD 0 false, s.serialDriver.getD 1 false, false, false]
        suspendDbus7 := s.suspendDbus7
        drives := s.drives.map Drive.capped
        part := some (s.part.getD 0) } := by
  have ha : (s.image .ft2232H size).byte 0 = Header.channelA .ft2232H s := h.byte_eq 0 (by omega)
  have hb : (s.image .ft2232H size).byte 1 = Header.channelB .ft2232H s := h.byte_eq 1 (by omega)
  have hpart : (s.image .ft2232H size).byte 0x18 = s.part.getD 0 :=
    h.byte_eq 0x18 (by simp [Header.tail])
  obtain ⟨htypeA, hdriverA⟩ := Header.channelA_2232H s
  obtain ⟨htypeB, hdriverB, hsuspend⟩ := Header.channel_bits (m := 0x80) (Or.inr rfl) _ _ _ hb
  simp only [Header.readOwn, chip_image, ha, htypeA, hdriverA, htypeB, hdriverB, hsuspend, hpart,
    h.readDrives_eq (by decide)]

lemma readOwn_4232H (h : Fits .ft4232H size s) (t : Settings) :
    Header.readOwn (s.image .ft4232H size) t =
      { t with
        serialDriver := s.serialDriver
        rs485 := s.rs485
        drives := s.drives.map Drive.capped
        part := some (s.part.getD 0) } := by
  have ha : (s.image .ft4232H size).byte 0 = Header.channelA .ft4232H s := h.byte_eq 0 (by omega)
  have hb : (s.image .ft4232H size).byte 1 = Header.channelB .ft4232H s := h.byte_eq 1 (by omega)
  have hsignals : (s.image .ft4232H size).byte 0x0B = Header.signals .ft4232H s :=
    h.byte_eq 0x0B (by omega)
  have hpart : (s.image .ft4232H size).byte 0x18 = s.part.getD 0 :=
    h.byte_eq 0x18 (by simp [Header.tail])
  obtain ⟨hdriver₀, hdriver₂⟩ := Header.driver_bits _ _ ha
  obtain ⟨hdriver₁, hdriver₃⟩ := Header.driver_bits _ _ hb
  obtain ⟨hrs₀, hrs₁, hrs₂, hrs₃⟩ := Header.signals_4232H s
  simp only [Header.readOwn, chip_image, hdriver₀, hdriver₁, hdriver₂, hdriver₃, hsignals, hrs₀,
    hrs₁, hrs₂, hrs₃, hpart, h.readDrives_eq (by decide), ← vector_four _ false]

lemma readSettings_eq (h : Fits chip size s) :
    (s.image chip size).readSettings = .ok (s.normal chip) := by
  have hm : Texts.read (s.image chip size) .manufacturer = .ok s.manufacturerText :=
    h.read_eq .manufacturer
  have hp : Texts.read (s.image chip size) .product = .ok s.productText := h.read_eq .product
  have hs : Texts.read (s.image chip size) .serial = .ok s.serialText := h.read_eq .serial
  simp only [Image.readSettings, hm, hp, hs, h.readShared_eq, h.readFeatures_eq,
    h.readNotPlugAndPlay_eq, bind, Except.bind, pure, Except.pure, Except.ok.injEq]
  cases chip with
  | am => simp [Header.readOwn, normal, hasBlock, Chip.isHighSpeed]
  | bm =>
    simp [Header.readOwn, normal, hasBlock, Chip.isHighSpeed, h.usbVersion_eq (Or.inl rfl)]
  | ft2232C =>
    rw [readOwn_2232C h]
    simp [normal, hasBlock, Chip.isHighSpeed]
  | ft232R =>
    rw [readOwn_232R h]
    simp [normal, hasBlock, Chip.isHighSpeed]
  | ft2232H =>
    rw [readOwn_2232H h]
    simp [normal, hasBlock, Chip.isHighSpeed]
  | ft4232H =>
    rw [readOwn_4232H h]
    simp [normal, hasBlock, Chip.isHighSpeed]

end Fits

end Settings

open Settings (Fits fits_of_encode)

lemma Image.decode_withChecksum {chip : Chip} {size : Size} {body : List UInt8} {s : Settings}
    (address : ℕ) (haddress : address < size.bytes)
    (hset : (withChecksum chip size body).byte address ≠ 0xFF)
    (hread : (withChecksum chip size body).readSettings = .ok s) :
    (withChecksum chip size body).decode =
      .ok { image := withChecksum chip size body, settings := s } := by
  have hsum : (withChecksum chip size body).checksum =
      (withChecksum chip size body).storedChecksum :=
    (checksum_withChecksum _).trans (storedChecksum_withChecksum _).symm
  rw [Image.decode, not_isBlank haddress hset, if_neg Bool.false_ne_true, if_neg (not_not.mpr hsum),
    hread]

lemma Image.decode_image {chip : Chip} {size : Size} {s : Settings} (h : Fits chip size s) :
    (s.image chip size).decode =
      .ok { image := s.image chip size, settings := s.normal chip } := by
  have hattributes : (s.image chip size).byte 0x08 = Header.attributes s :=
    h.byte_eq 0x08 (by omega)
  have hsize : 0x08 < size.bytes := by cases size <;> decide
  refine decode_withChecksum _ hsize ?_ h.readSettings_eq
  rw [← Settings.image, hattributes, Header.attributes]
  cases s.selfPowered <;> cases s.remoteWakeup <;> decide

theorem Settings.decode_encode {chip : Chip} {s : Settings} {img : Image}
    (h : s.encode chip = .ok img) :
    img.decode = .ok { image := img, settings := s.normal chip } := by
  obtain ⟨size, hf, rfl⟩ := fits_of_encode h
  exact Image.decode_image hf

theorem Settings.decode_encode_reduced :
    let s : Settings :=
      { manufacturerText := some "FTDI", productText := some "", maxPower := 1001,
        notPlugAndPlay := true, useUsbVersion := true, cbus := #v[0x13, 2, 0, 1, 5] }
    let kept : Settings :=
      { manufacturerText := some "FTDI", productText := some "", maxPower := 510,
        notPlugAndPlay := true, useUsbVersion := false, cbus := #v[3, 2, 0, 1, 5] }
    ∃ img, s.encode .ft232R = .ok img ∧ img.decode = .ok { image := img, settings := kept } := by
  intro s kept
  have hkept : s.normal .ft232R = kept := by decide +kernel
  refine ⟨_, rfl, ?_⟩
  rw [← hkept]
  exact Settings.decode_encode rfl

end UsbSerial.Eeprom
