import UsbSerial.Proofs.Sim.Device
import UsbSerial.Proofs.Word

namespace UsbSerial

section Pairs

variable {α : Type}

lemma set_pair {l : List α} {i : ℕ} (h : i + 1 < l.length) (a b : α) :
    (l.set i a).set (i + 1) b = l.take i ++ [a, b] ++ l.drop (i + 2) := by
  induction i generalizing l with
  | zero =>
    match l, h with
    | _ :: _ :: _, _ => rfl
  | succ i ih =>
    match l, h with
    | c :: l, h =>
      have hl : i + 1 < l.length := Nat.lt_of_succ_lt_succ h
      exact congrArg (List.cons c) (ih hl)

lemma take_pair {l : List α} {i : ℕ} (h : i + 1 < l.length) (a : α) :
    (l.drop i).take 2 = [l.getD i a, l.getD (i + 1) a] := by
  rw [List.drop_eq_getElem_cons (by omega), List.drop_eq_getElem_cons h,
    List.getD_eq_getElem _ _ (by omega), List.getD_eq_getElem _ _ h]
  rfl

end Pairs

namespace Sim.Device

open Attempt (exec)

structure Sound (d : Device) : Prop where
  connected : d.disconnected = false
  failing : d.failing = 0
  failingRequest : d.failingRequest = none

structure Ready (d : Device) : Prop where
  connected : d.disconnected = false
  failing : d.failing = 0
  failingRequest : d.failingRequest = none
  length_storage : d.storage.length = d.chip.eepromBytes

lemma eepromBytes_detect (release : UInt16) (hasSerial hasSerial' : Bool) :
    (Chip.detect release hasSerial).eepromBytes = (Chip.detect release hasSerial').eepromBytes := by
  unfold Chip.detect
  cases hasSerial <;> cases hasSerial' <;> split <;> rfl

section Made

lemma ready_blank (vendor product release : UInt16) : (blank vendor product release).Ready where
  connected := rfl
  failing := rfl
  failingRequest := rfl
  length_storage := by
    rw [blank, List.length_replicate]
    exact eepromBytes_detect release _ _

variable {d : Device} (h : d.Ready)
include h

lemma Ready.withTexts (texts : Usb.Texts) : (d.withTexts texts).Ready :=
  ⟨h.connected, h.failing, h.failingRequest,
    h.length_storage.trans (eepromBytes_detect d.ids.release _ _)⟩

lemma Ready.withStorage (bytes : List UInt8) : (d.withStorage bytes).Ready := by
  unfold Device.withStorage
  split
  · exact h
  · refine ⟨h.connected, h.failing, h.failingRequest, ?_⟩
    simp only [List.length_map, List.length_range]
    exact h.length_storage

lemma Ready.withChipId (high low : UInt16) : (d.withChipId high low).Ready :=
  ⟨h.connected, h.failing, h.failingRequest, h.length_storage⟩

lemma Ready.plugged : d.plugged.Ready := ⟨rfl, rfl, rfl, h.length_storage⟩

end Made

section Loaded

lemma range_map_getD (bytes : List UInt8) :
    (List.range bytes.length).map (fun i => bytes.getD (i % bytes.length) 0) = bytes := by
  apply List.ext_getElem
  · rw [List.length_map, List.length_range]
  · intro k hk hk'
    simp only [List.getElem_map, List.getElem_range, Nat.mod_eq_of_lt hk',
      List.getD_eq_getElem _ _ hk']

lemma storage_withStorage {bytes : List UInt8} {n : ℕ} (hbytes : bytes ≠ []) {d : Device}
    (hlength : d.storage.length = bytes.length + n) :
    (d.withStorage bytes).storage =
      bytes ++ (List.range n).map fun i => bytes.getD (i % bytes.length) 0 := by
  rw [withStorage, if_neg hbytes]
  dsimp only
  rw [hlength, List.range_add, List.map_append, List.map_map, range_map_getD]
  congr 1
  apply List.map_congr_left
  intro i _
  dsimp only [Function.comp]
  rw [Nat.add_mod_left]

end Loaded

section Requests

variable {d : Device}

lemma chip_obey (d : Device) (c : Control) : (d.obey c).chip = d.chip := by
  have h := fixed_obey d c
  simp only [fixed, Prod.mk.injEq] at h
  rw [chip, chip, hasSerial, hasSerial, h.1, h.2.1]

lemma storage_obey (d : Device) (c : Control) :
    (d.obey c).storage =
      match Request.ofCode? c.request with
      | some .writeWord => (d.storeWord c.index c.value).storage
      | some .eraseEeprom => List.replicate d.storage.length 0xFF
      | _ => d.storage := by
  unfold obey
  rcases Request.ofCode? c.request with _ | request
  · rfl
  cases request with
  | reset =>
    dsimp only
    split
    · rfl
    · split <;> rfl
  | _ => rfl

lemma length_storage_obey (d : Device) (c : Control) :
    (d.obey c).storage.length = d.storage.length := by
  rw [storage_obey]
  split
  · simp only [storeWord, List.length_set]
  · exact List.length_replicate
  · rfl

lemma two_mul_lt {address : UInt16} (hlength : d.storage.length = d.chip.eepromBytes)
    (haddress : address.toNat < d.chip.eepromWords) :
    2 * address.toNat + 1 < d.storage.length := by
  rw [hlength]
  unfold Chip.eepromWords at haddress
  omega

lemma length_words (hlength : d.storage.length = d.chip.eepromBytes) :
    d.storage.length = 2 * d.chip.eepromWords := by
  rw [hlength]
  cases d.chip <;> rfl

lemma offset_eq {address : UInt16} (h : 2 * address.toNat + 1 < d.storage.length) :
    d.offset address = 2 * address.toNat :=
  Nat.mod_eq_of_lt (by omega)

lemma storeWord_eq {address : UInt16} (h : 2 * address.toNat + 1 < d.storage.length)
    (value : UInt16) : d.storeWord address value =
      { d with
        storage := d.storage.take (2 * address.toNat) ++ Word.bytes value ++
          d.storage.drop (2 * address.toNat + 2) } := by
  rw [storeWord, offset_eq h, set_pair h]
  rfl

lemma read_storeWord {address : UInt16} {k : ℕ} (hoffset : d.offset address = 2 * k)
    (h : 2 * k + 1 < d.storage.length) (value : UInt16) :
    Word.read (d.storeWord address value).storage =
      Function.update (Word.read d.storage) k value := by
  rw [storeWord, hoffset]
  exact Word.read_set h value

lemma storedBytes_eq {address : UInt16} {k : ℕ} (hoffset : d.offset address = 2 * k)
    (h : 2 * k + 1 < d.storage.length) :
    d.storedBytes address = Word.bytes (Word.read d.storage k) := by
  rw [storedBytes, hoffset, take_pair h 0, Word.read, Word.bytes_ofBytes]

lemma reply_stored {address : UInt16} (hshown : d.chip.hasChipId = true →
      address ≠ ChipId.addressHigh ∧ address ≠ ChipId.addressLow) :
    d.reply { request := Request.readWord.code, value := 0, index := address } =
      .ok (d.storedBytes address) := by
  rw [Device.reply, Request.ofCode?_code]
  dsimp only
  simp only [Bool.and_eq_true, decide_eq_true_eq]
  rw [if_neg fun h => (hshown h.1).1 h.2, if_neg fun h => (hshown h.1).2 h.2]

lemma reply_readWord {address : UInt16} (hlength : d.storage.length = d.chip.eepromBytes)
    (haddress : address.toNat < d.chip.eepromWords) :
    d.reply { request := Request.readWord.code, value := 0, index := address } =
      .ok (Word.bytes (Word.read d.storage address.toNat)) := by
  -- Below the addresses of the chip ID an R chip shows what it stores.
  have hlt := two_mul_lt hlength haddress
  rw [reply_stored, storedBytes_eq (offset_eq hlt) hlt]
  intro hchip
  simp only [Chip.hasChipId, decide_eq_true_eq] at hchip
  rw [hchip] at haddress
  constructor
  all_goals
    rintro rfl
    exact absurd haddress (by decide)

lemma obey_failing (d : Device) (c : Control) : (d.obey c).disconnected = d.disconnected ∧
    (d.obey c).failing = d.failing ∧ (d.obey c).failingRequest = d.failingRequest := by
  unfold obey
  split
  · split
    · exact ⟨rfl, rfl, rfl⟩
    · split <;> exact ⟨rfl, rfl, rfl⟩
  all_goals exact ⟨rfl, rfl, rfl⟩

def recorded (d : Device) (cs : List Control) : Device := { d with controls := d.controls ++ cs }

lemma recorded_nil (d : Device) : d.recorded [] = d := by
  rw [recorded, List.append_nil]

lemma recorded_recorded (d : Device) (cs cs' : List Control) :
    (d.recorded cs).recorded cs' = d.recorded (cs ++ cs') := by
  simp only [recorded, List.append_assoc]

namespace Sound

variable (h : d.Sound)
include h

lemma recorded (cs : List Control) : (d.recorded cs).Sound :=
  ⟨h.connected, h.failing, h.failingRequest⟩

lemma obey (c : Control) : (d.obey c).Sound := by
  obtain ⟨hdisconnected, hfailing, hrequest⟩ := obey_failing d c
  exact ⟨hdisconnected.trans h.connected, hfailing.trans h.failing,
    hrequest.trans h.failingRequest⟩

lemma exec_accept (c : Control) (timeout : Duration) :
    exec (accept c timeout) d = (.ok (), { d with controls := d.controls ++ [c] }) := by
  have hcheck := exec_check_ok h.connected h.failing timeout
  simp [accept, hcheck, h.failingRequest]

lemma exec_controlOut (c : Control) (timeout : Duration) :
    exec (controlOut c timeout) d =
      (.ok (), Device.obey { d with controls := d.controls ++ [c] } c) := by
  simp [controlOut, h.exec_accept]

lemma exec_controlIn {c : Control} {data : List UInt8} (hreply : d.reply c = .ok data)
    (length : UInt16) (timeout : Duration) :
    exec (controlIn c length timeout) d =
      (.ok (data.take length.toNat), d.recorded [c]) := by
  have hrecorded : Device.reply { d with controls := d.controls ++ [c] } c = .ok data := hreply
  simp [controlIn, h.exec_accept, hrecorded, Device.recorded]

end Sound

namespace Ready

variable (h : d.Ready)
include h

lemma sound : d.Sound := ⟨h.connected, h.failing, h.failingRequest⟩

lemma recorded (cs : List Control) : (d.recorded cs).Ready :=
  ⟨h.connected, h.failing, h.failingRequest, h.length_storage⟩

lemma obey (c : Control) : (d.obey c).Ready := by
  obtain ⟨hdisconnected, hfailing, hrequest⟩ := h.sound.obey c
  refine ⟨hdisconnected, hfailing, hrequest, ?_⟩
  rw [length_storage_obey, chip_obey, h.length_storage]

end Ready

end Requests

section Words

structure Stores (d : Device) (chip : Chip) (words : ℕ → UInt16) : Prop where
  chip_eq : d.chip = chip
  length_storage : d.storage.length = d.chip.eepromBytes
  read : Word.read d.storage = words

namespace Stores

variable {d d' : Device} {chip : Chip} {words : ℕ → UInt16} (h : d.Stores chip words)
include h

lemma recorded (controls : List Control) : Stores { d with controls } chip words :=
  ⟨h.chip_eq, h.length_storage, h.read⟩

lemma failing (hd' : d' = { d with failing := d'.failing }) : d'.Stores chip words := by
  rw [hd']
  exact ⟨h.chip_eq, h.length_storage, h.read⟩

lemma writeWord {address : UInt16} (haddress : address.toNat < chip.eepromWords)
    (value : UInt16) :
    (d.obey { request := Request.writeWord.code, value, index := address }).Stores chip
      (Function.update words address.toNat value) := by
  rw [← h.chip_eq] at haddress
  refine ⟨(chip_obey _ _).trans h.chip_eq, ?_, ?_⟩
  · rw [length_storage_obey, chip_obey, h.length_storage]
  · rw [storage_obey, Request.ofCode?_code]
    dsimp only
    have hlt := two_mul_lt h.length_storage haddress
    rw [read_storeWord (offset_eq hlt) hlt, h.read]

end Stores

end Words

end Sim.Device

end UsbSerial
