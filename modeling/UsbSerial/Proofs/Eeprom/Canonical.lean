import UsbSerial.Proofs.Eeprom.RoundTrip

/-! Nothing of the settings reaches an image but what the image keeps of them: settings that are
kept alike are encoded alike, and what was decoded from an image encodes to that image again. -/

namespace UsbSerial

lemma Nibble.pair_mod (lo hi : UInt8) : pair (lo % 16) (hi % 16) = pair lo hi := by
  apply UInt8.toNat_inj.mp
  simp only [pair, UInt8.toNat_mod, UInt8.toNat_add, UInt8.toNat_mul, UInt8.reduceToNat]
  omega

namespace Eeprom

lemma Drive.nibble_capped (d : Drive) : d.capped.nibble = d.nibble := by
  have hmin : min d.capped.strength 3 = d.capped.strength := by
    rcases d.strength_capped with h | h | h | h <;> rw [h] <;> rfl
  simp only [nibble, hmin]
  rfl

namespace Header

variable (chip : Chip) (s : Settings)

lemma channelType_normal (type : UInt8) : channelType (type % 8) = channelType type :=
  channelType_mod type

lemma channelA_normal : channelA chip (s.normal chip) = channelA chip s := by
  cases chip <;> simp [channelA, Settings.normal, channelType_normal, Vector.getD]

lemma channelB_normal : channelB chip (s.normal chip) = channelB chip s := by
  cases chip <;> simp [channelB, Settings.normal, channelType_normal, Vector.getD]

lemma power_normal : power (s.normal chip) = power s := by
  have hunits : (s.normal chip).maxPower = (power s).toUInt16 * 2 := (power_units s).symm
  rw [power, hunits, units_byte, UInt8.toUInt8_toUInt16]

lemma features_normal : features chip (s.normal chip) = features chip s := by
  cases chip <;> simp [features, Settings.normal]

lemma signals_normal : signals chip (s.normal chip) = signals chip s := by
  cases chip <;> simp [signals, Settings.normal]

lemma versionOrDrives_normal : versionOrDrives chip (s.normal chip) = versionOrDrives chip s := by
  have hdrive (k : ℕ) :
      ((s.drives.map Drive.capped).getD k {}).nibble = (s.drives.getD k {}).nibble := by
    have hcapped : (s.drives.map Drive.capped).getD k {} = (s.drives.getD k {}).capped :=
      getD_map Drive.capped s.drives k {}
    rw [hcapped, Drive.nibble_capped]
  cases chip <;> simp [versionOrDrives, Settings.normal, Chip.isHighSpeed, hdrive]

lemma tail_normal : tail chip (s.normal chip) = tail chip s := by
  have hcbus (k : ℕ) : (s.cbus.map (· % 16)).getD k 0 = s.cbus.getD k 0 % 16 :=
    getD_map (· % 16) s.cbus k 0
  have hlast : Nibble.pair (s.cbus.getD 4 0 % 16) 0 = Nibble.pair (s.cbus.getD 4 0) 0 :=
    Nibble.pair_mod _ 0
  cases chip <;> simp [tail, Settings.normal, hcbus, Nibble.pair_mod, hlast]

lemma bytes_normal (table : List UInt8) :
    bytes chip (s.normal chip) table = bytes chip s table := by
  rw [bytes, bytes, channelA_normal, channelB_normal, power_normal, features_normal, signals_normal,
    versionOrDrives_normal, tail_normal]
  rfl

end Header

namespace Settings

lemma block_normal (chip : Chip) (s : Settings) :
    Texts.block chip (s.normal chip).notPlugAndPlay = Texts.block chip s.notPlugAndPlay := by
  cases chip <;> simp [Texts.block, Texts.hasBlock, normal]

lemma body_normal (chip : Chip) (size : Size) (s : Settings) :
    (s.normal chip).body chip size = s.body chip size := by
  have htexts : (s.normal chip).texts = s.texts := rfl
  rw [body, body, htexts, Header.bytes_normal, block_normal]

lemma encode_normal (chip : Chip) (s : Settings) :
    (s.normal chip).encode chip = s.encode chip := by
  have htexts : (s.normal chip).texts = s.texts := rfl
  have hsize : (s.normal chip).imageSize? chip = s.imageSize? chip := rfl
  simp only [encode, htexts, hsize, body_normal]

theorem encode_decode {chip : Chip} {s : Settings} {img : Image} (h : s.encode chip = .ok img) :
    ∃ d, img.decode = .ok d ∧ d.image = img ∧ d.settings.encode chip = .ok img := by
  obtain ⟨size, hfits, rfl⟩ := fits_of_encode h
  refine ⟨_, Image.decode_image hfits, rfl, ?_⟩
  rw [encode_normal, h]

theorem encode_decode_reduced :
    let s : Settings :=
      { maxPower := 1001, notPlugAndPlay := true, useUsbVersion := true, usbVersion := 0x0110,
        serialText := some "", channelTypeA := 0x3A, serialDriver := .replicate 4 true,
        drives := #v[{ strength := 200 }, { slow := true }, {}, { schmitt := true }] }
    ∃ img d, s.encode .ft2232H = .ok img ∧ img.decode = .ok d ∧ d.settings ≠ s ∧
      d.settings.encode .ft2232H = .ok img := by
  intro s
  have hfits : Fits .ft2232H .bytes128 s := ⟨rfl, by decide, by decide⟩
  obtain ⟨d, hdecode, -, hagain⟩ := encode_decode hfits.encode_eq
  refine ⟨_, d, hfits.encode_eq, hdecode, ?_, hagain⟩
  obtain rfl := Except.ok.inj (hdecode.symm.trans (Image.decode_image hfits))
  have hpower : (s.normal .ft2232H).maxPower ≠ s.maxPower := by decide
  exact fun heq => hpower (congrArg maxPower heq)

end Settings

end Eeprom

end UsbSerial
