import UsbSerial.Proofs.Eeprom.Repetition
import UsbSerial.Proofs.Session.Memory

/-! EEPROMs in which word addresses wrap around: what is read of them, and how erasing them tells
the part. -/

namespace UsbSerial

namespace Eeprom.Dump

section Shown

variable {part : List UInt8} {n : ℕ}

lemma length_shown (part : List UInt8) (addresses : ℕ) :
    (shown part addresses).length = addresses := by
  rw [shown, List.length_map, List.length_range]

lemma shown_replicate (hn : 0 < n) (b : UInt8) (addresses : ℕ) :
    shown (List.replicate n b) addresses = List.replicate addresses b := by
  apply List.ext_getElem
  · rw [length_shown, List.length_replicate]
  · intro i _ _
    simp only [shown, List.getElem_map, List.getElem_range, List.length_replicate,
      List.getElem_replicate, List.getD_replicate _ (Nat.mod_lt i hn)]

lemma read_shown (hpart : part.length = 2 * n) (hn : 0 < n) {addresses k : ℕ} (hk : k < addresses) :
    Word.read (shown part (2 * addresses)) k = Word.read part (k % n) := by
  have hlow : 2 * k % (2 * n) = 2 * (k % n) := Nat.mul_mod_mul_left 2 k n
  have hhigh : (2 * k + 1) % (2 * n) = 2 * (k % n) + 1 := by
    have hmod := Nat.mod_lt k hn
    rw [Nat.add_mod, hlow, Nat.mod_eq_of_lt (show 1 < 2 * n by omega), Nat.mod_eq_of_lt (by omega)]
  rw [Word.read, getD_shown _ (by omega), getD_shown _ (by omega), hpart, hlow, hhigh, Word.read]

lemma flatMap_wrapped (hpart : part.length = 2 * n) (hn : 0 < n) (addresses : ℕ) :
    ((List.range addresses).map fun k => Word.read part (k % n)).flatMap Word.bytes =
      shown part (2 * addresses) := by
  -- A part whose word addresses wrap around shows its bytes over and over.
  rw [← Word.flatMap_read (length_shown part (2 * addresses))]
  congr 1
  apply List.map_congr_left
  intro k hk
  exact (read_shown hpart hn (List.mem_range.mp hk)).symm

end Shown

section Erased

variable {chip : Chip}

lemma size_erased (hchip : chip ≠ .ft232R) (n : ℕ) :
    size chip (List.replicate n 0xFF) = .bytes256 := by
  have hblank : (List.replicate n (0xFF : UInt8)).all (· = 0xFF) = true := by simp
  rw [size, if_neg hchip, if_pos hblank]

lemma isBlank_erased (chip : Chip) :
    (image chip (List.replicate 256 0xFF)).isBlank = true := by
  rw [Image.isBlank_iff, Image.bytes_eq_map]
  intro b hb
  obtain ⟨k, -, rfl⟩ := List.mem_map.mp hb
  rw [image, Image.byte_ofList, List.getD_replicate]
  exact (size chip _).mod_lt k

end Erased

def found (words : ℕ) (probes : List (UInt16 × UInt8)) : Option UInt8 :=
  (probes.find? fun probe =>
    probe.1.toNat % words = probeAddress.toNat % words).map Prod.snd

lemma found_cons (words : ℕ) (probe : UInt16 × UInt8) (rest : List (UInt16 × UInt8)) :
    found words (probe :: rest) =
      if probe.1.toNat % words = probeAddress.toNat % words then some probe.2
      else found words rest := by
  by_cases h : probe.1.toNat % words = probeAddress.toNat % words
  · simp [found, h]
  · simp [found, h]

end Eeprom.Dump

namespace Session.Memory

open Attempt (exec)
open Eeprom (Image)
open Eeprom.Dump (found probeAddress probes probeWord shown)
open Sim (Bus Control Device DeviceId Handle)

variable {w : Hosted Bus Handle} {link : Link Handle} {d : Device} {n : ℕ}

structure Wraps (d : Device) (n : ℕ) : Prop where
  chip : d.chip ≠ .ft232R
  length_storage : d.storage.length = 2 * n
  pos : 0 < n

section Wrapped

variable (h : Wraps d n)
include h

lemma Wraps.offset (address : UInt16) : d.offset address = 2 * (address.toNat % n) := by
  rw [Device.offset, h.length_storage, Nat.mul_mod_mul_left]

lemma Wraps.inside (address : ℕ) : 2 * (address % n) + 1 < d.storage.length := by
  have hmod := Nat.mod_lt address h.pos
  rw [h.length_storage]
  omega

lemma Wraps.recorded (cs : List Control) : Wraps (d.recorded cs) n :=
  ⟨h.chip, h.length_storage, h.pos⟩

lemma Wraps.told (c : Control) : Wraps (d.told c) n where
  chip := by
    rw [Device.chip_told]
    exact h.chip
  length_storage := by
    rw [Device.told, Device.length_storage_obey]
    exact h.length_storage
  pos := h.pos

lemma Wraps.reply (address : UInt16) :
    d.reply (asking address) = .ok (Word.bytes (Word.read d.storage (address.toNat % n))) := by
  have hshown : ¬ d.chip.hasChipId = true := by
    simpa only [Chip.hasChipId, decide_eq_true_eq] using h.chip
  rw [asking, Device.reply_stored fun hid => absurd hid hshown,
    Device.storedBytes_eq (h.offset address) (h.inside address.toNat)]

end Wrapped

section Read

lemma Served.readEeprom_wrapped (h : Served w link d) (hwraps : Wraps d n)
    (hlink : link.chip ≠ .ft232R) :
    ∃ log cs, exec Session.readEeprom w =
      (.ok (Eeprom.Dump.image link.chip (shown d.storage 256)),
        replaced w link (d.recorded cs) log) := by
  have hwords : link.chip.eepromWords = 128 := by
    rw [Chip.eepromWords, Eeprom.Dump.eepromBytes_eq hlink]
  have hreply : ∀ address < link.chip.eepromWords, d.reply (asking address.toUInt16) =
      .ok (Word.bytes (Word.read d.storage (address % n))) := by
    intro address haddress
    rw [hwraps.reply, toNat_toUInt16 haddress]
  obtain ⟨log, hexec⟩ := h.readEeprom hreply
  rw [Eeprom.Dump.flatMap_wrapped hwraps.length_storage hwraps.pos, hwords] at hexec
  exact ⟨log, _, hexec⟩

end Read

section Probed

def Probed (d : Device) (n : ℕ) : Prop :=
  ∀ k < n, Word.read d.storage k = probeWord ↔ k = probeAddress.toNat % n

lemma Served.findProbe (h : Served w link d) (hwraps : Wraps d n) (hprobed : Probed d n)
    (probes : List (UInt16 × UInt8)) :
    ∃ log cs, exec (findProbe probes) w =
      (.ok (found n probes), replaced w link (d.recorded cs) log) := by
  -- The device records what it was asked for, and stores the same as before.
  induction probes generalizing w d with
  | nil =>
    refine ⟨w.log, [], ?_⟩
    rw [Device.recorded_nil, h.replaced_self]
    rfl
  | cons probe rest ih =>
    obtain ⟨log₁, hword⟩ := h.memoryWord .eraseEeprom (hwraps.reply probe.1)
    have hiff := hprobed _ (Nat.mod_lt probe.1.toNat hwraps.pos)
    rw [Session.findProbe, Attempt.exec_bind, hword, Eeprom.Dump.found_cons]
    dsimp only
    by_cases hfound : probe.1.toNat % n = probeAddress.toNat % n
    · rw [if_pos hfound, if_pos (hiff.mpr hfound)]
      exact ⟨log₁, _, rfl⟩
    · rw [if_neg hfound, if_neg fun hread => hfound (hiff.mp hread)]
      obtain ⟨log₂, cs, hrest⟩ := ih (h.put (h.sound.recorded _) log₁) (hwraps.recorded _) hprobed
      rw [hrest, replaced_replaced, Device.recorded_recorded]
      exact ⟨log₂, _, rfl⟩

end Probed

section Erased

def erasing : Control where
  request := Request.eraseEeprom.code
  value := 0
  index := 0

def probing : Control where
  request := Request.writeWord.code
  value := probeWord
  index := probeAddress

def erased (d : Device) (cs : List Control) : Device :=
  { d with
    storage := List.replicate d.storage.length 0xFF
    controls := d.controls ++ cs }

lemma told_erasing (d : Device) : d.told erasing = erased d [erasing] := rfl

lemma Wraps.probed (h : Wraps d n) : Probed ((d.told erasing).told probing) n := by
  have hwraps := h.told erasing
  have hstorage : ((d.told erasing).told probing).storage =
      ((d.told erasing).storeWord probeAddress probeWord).storage := rfl
  intro k hk
  rw [hstorage, Device.read_storeWord (hwraps.offset _) (hwraps.inside _)]
  by_cases heq : k = probeAddress.toNat % n
  · simp only [heq, Function.update_self]
  · have hblank : Word.read (d.told erasing).storage k = 0xFFFF := by
      rw [told_erasing, erased, Word.read]
      dsimp only
      rw [h.length_storage, List.getD_replicate _ (by omega), List.getD_replicate _ (by omega)]
      rfl
    rw [Function.update_of_ne heq, hblank]
    simp only [heq, iff_false]
    decide

lemma told_erasing_again (cs : List Control) :
    ∃ cs', (((d.told erasing).told probing).recorded cs).told erasing = erased d cs' := by
  -- Of the probe nothing is left but the requests on record.
  refine ⟨[erasing, probing] ++ cs ++ [erasing], ?_⟩
  have hlen : ((d.told erasing).told probing).storage.length = d.storage.length := by
    rw [Device.told, Device.length_storage_obey, told_erasing]
    exact List.length_replicate
  rw [told_erasing ((((d.told erasing).told probing).recorded cs))]
  simp only [erased, Device.recorded, hlen]
  simp [Device.told, Device.obey, erasing, probing, Request.ofCode?_code, Device.storeWord]

lemma Served.erase (h : Served w link d) :
    ∃ log, exec (controlOut .eraseEeprom .eraseEeprom 0 0) w =
      (.ok (), replaced w link (d.told erasing) log) :=
  h.issues (issues_controlOut _ _ _ _)

lemma Served.probe (h : Served w link d) :
    ∃ log, exec (putMemoryWord .eraseEeprom probeAddress probeWord) w =
      (.ok (), replaced w link (d.told probing) log) :=
  h.issues (issues_controlOut _ _ _ _)

lemma Served.eraseEeprom (h : Served w link d) (hwraps : Wraps d n)
    (hlink : link.chip ≠ .ft232R) :
    ∃ log cs, exec Session.eraseEeprom w =
      (.ok (found n probes), replaced w link (erased d cs) log) := by
  obtain ⟨log₁, herase⟩ := h.erase
  have h₁ := h.put (h.sound.told erasing) log₁
  obtain ⟨log₂, hprobe⟩ := h₁.probe
  have h₂ := h₁.put (h₁.sound.told probing) log₂
  obtain ⟨log₃, cs, hfind⟩ :=
    h₂.findProbe ((hwraps.told erasing).told probing) hwraps.probed probes
  have h₃ := h₂.put (h₂.sound.recorded cs) log₃
  obtain ⟨log₄, hagain⟩ := h₃.erase
  obtain ⟨cs', herased⟩ := told_erasing_again (d := d) cs
  simp only [replaced_replaced] at hprobe hfind hagain
  simp only [Session.eraseEeprom, exec_tracked, Attempt.exec_bind, exec_link, h.binding,
    if_neg hlink, herase, hprobe, hfind, hagain, exec_note, Attempt.exec_pure]
  rw [herased]
  exact ⟨_, cs', rfl⟩

lemma found_probes {length : ℕ} {part : UInt8}
    (hpart : (length, part) ∈ [(128, 0x46), (256, 0x56), (512, 0x66)]) :
    ∃ n, 0 < n ∧ length = 2 * n ∧ found n probes = some part := by
  simp only [List.mem_cons, Prod.mk.injEq, List.not_mem_nil, or_false] at hpart
  obtain ⟨rfl, rfl⟩ | ⟨rfl, rfl⟩ | ⟨rfl, rfl⟩ := hpart
  · exact ⟨64, by decide, rfl, by decide⟩
  · exact ⟨128, by decide, rfl, by decide⟩
  · exact ⟨256, by decide, rfl, by decide⟩

/-- An erasure leaves nothing stored, and tells the part by its size. What is read afterwards is
blank, and does not decode. -/
theorem eraseEeprom_blanks (h : Served w link d) (hchip : d.chip ≠ .ft232R)
    (hlink : link.chip ≠ .ft232R) {part : UInt8}
    (hpart : (d.storage.length, part) ∈ [(128, 0x46), (256, 0x56), (512, 0x66)]) :
    ∃ w₁ d₁ w₂ image,
      (Call.eraseEeprom : Call DeviceId).step w = (.ok (.part (some part)), w₁) ∧
      w₁.session = w.session ∧ Served w₁ link d₁ ∧
      d₁ = { d with
        storage := List.replicate d.storage.length 0xFF
        controls := d₁.controls } ∧
      (Call.readEeprom : Call DeviceId).step w₁ = (.ok (.image image), w₂) ∧
      image.isBlank = true ∧ image.size.bytes = 256 ∧
      image.decode = .error (.image .blank) ∧ Error.kind (.image .blank) = .format := by
  obtain ⟨n, hpos, hlen, hfound⟩ := found_probes hpart
  have hwraps : Wraps d n := ⟨hchip, hlen, hpos⟩
  obtain ⟨log₁, cs, herase⟩ := h.eraseEeprom hwraps hlink
  have hsound : (erased d cs).Sound := ⟨h.sound.connected, h.sound.failing, h.sound.failingRequest⟩
  have herased : Wraps (erased d cs) n :=
    ⟨hchip, by rw [erased, List.length_replicate, hlen], hpos⟩
  have h₁ := h.put hsound log₁
  obtain ⟨log₂, cs', hread⟩ := h₁.readEeprom_wrapped herased hlink
  have hshown : shown (erased d cs).storage 256 = List.replicate 256 0xFF :=
    Eeprom.Dump.shown_replicate (by omega) 0xFF 256
  rw [hfound] at herase
  rw [hshown, replaced_replaced] at hread
  have hcall : (Call.eraseEeprom : Call DeviceId).step w =
      (.ok (.part (some part)), replaced w link (erased d cs) log₁) := by
    simp only [Call.step, Call.run, Attempt.exec_map, herase]
  have hnext : (Call.readEeprom : Call DeviceId).step (replaced w link (erased d cs) log₁) =
      (.ok (.image (Eeprom.Dump.image link.chip (List.replicate 256 0xFF))),
        replaced w link ((erased d cs).recorded cs') log₂) := by
    simp only [Call.step, Call.run, Attempt.exec_map, hread]
  have hblank := Eeprom.Dump.isBlank_erased link.chip
  have hsize : (Eeprom.Dump.image link.chip (List.replicate 256 0xFF)).size.bytes = 256 :=
    congrArg Eeprom.Size.bytes (Eeprom.Dump.size_erased hlink 256)
  exact ⟨_, _, _, _, hcall, rfl, h₁, rfl, hnext, hblank, hsize, Image.decode_of_isBlank hblank, rfl⟩

end Erased

section Sample

def filled : Device := { bare with storage := (List.range 512).map Nat.toUInt8 }

def filledHost : Hosted Bus Handle where
  bus := { devices := [filled] }
  session := bareHost.session

lemma filled_served : Served filledHost bareLink filled where
  binding := bare_bound.binding
  device := rfl
  sound := ⟨rfl, rfl, rfl⟩

theorem eraseEeprom_blanks_filled :
    ∃ w₁ w₂ image,
      (Call.eraseEeprom : Call DeviceId).step filledHost = (.ok (.part (some 0x66)), w₁) ∧
      (Call.readEeprom : Call DeviceId).step w₁ = (.ok (.image image), w₂) ∧
      image.decode = .error (.image .blank) := by
  have hpart : (filled.storage.length, (0x66 : UInt8)) ∈
      [(128, 0x46), (256, 0x56), (512, 0x66)] := by
    decide +kernel
  obtain ⟨w₁, -, w₂, image, herase, -, -, -, hread, -, -, hdecode, -⟩ :=
    eraseEeprom_blanks filled_served (by decide) (by decide) hpart
  exact ⟨w₁, w₂, image, herase, hread, hdecode⟩

end Sample

end Session.Memory

end UsbSerial
