import UsbSerial.Proofs.ChipId
import UsbSerial.Proofs.Session.Company
import UsbSerial.Proofs.Session.Memory

namespace UsbSerial.Session

open Attempt (exec bind_ok)
open Sim (Bus Device DeviceId Handle)

section Lasting

def identity (d : Device) : Usb.Ids × Usb.Texts × (UInt16 × UInt16) := (d.ids, d.texts, d.chipId)

lemma chip_of_identity {d d' : Device} (h : identity d' = identity d) : d'.chip = d.chip := by
  simp only [identity, Prod.mk.injEq] at h
  rw [Device.chip, Device.chip, Device.hasSerial, Device.hasSerial, h.1, h.2.1]

lemma chipId_of_identity {d d' : Device} (h : identity d' = identity d) : d'.chipId = d.chipId := by
  simp only [identity, Prod.mk.injEq] at h
  exact h.2.2

lemma identity_obey (d : Device) (c : Sim.Control) : identity (d.obey c) = identity d := by
  obtain ⟨_, _, _, _, _, _, h⟩ := Device.obey_eq d c
  rw [h]
  rfl

lemma Change.identity {allowed : Use → Prop} {d d' : Device} (h : Change allowed d d') :
    Session.identity d' = Session.identity d := by
  cases h with
  | obeyed request value index _ => exact identity_obey _ _
  | wrote data _ =>
    obtain ⟨pins, hpins⟩ := Device.drive_eq
      { d with shortWrite := false, written := d.written ++ data } data
    rw [hpins]
    rfl
  | _ => rfl

lemma lasting_identity : Lasting fun d d' => identity d' = identity d where
  refl _ := rfl
  trans h h' := h'.trans h
  change h := h.identity
  tweak t _ := by cases t <;> rfl

end Lasting

section Knowing

variable {v w w' : Hosted Bus Handle} {d : Device}

def Knows (w : Hosted Bus Handle) : Prop :=
  ∀ link, w.session.binding = .opened link →
    ∃ d, w.bus.device? link.handle.device = some d ∧ d.chip = link.chip

lemma knows_closed (h : w.session.binding = .closed) : Knows w := by
  intro link hl
  cases h.symm.trans hl

lemma Knows.keeping (h : Knows w) (hbinding : w'.session.binding = w.session.binding)
    (hbus : Keeping (fun d d' => identity d' = identity d) w.bus w'.bus) : Knows w' := by
  intro link hl
  obtain ⟨d, hd, hchip⟩ := h link (hbinding ▸ hl)
  obtain ⟨d', hd', hidentity⟩ := hbus _ d hd
  exact ⟨d', hd', (chip_of_identity hidentity).trans hchip⟩

lemma Knows.contact (h : Knows w) {bus : Bus} (hbus : Contact (fun _ => True) w.bus bus) :
    Knows { w with bus } :=
  h.keeping rfl (lasting_identity.changed hbus.changed)

lemma Move.knows (h : Move v w) (hv : Knows v) : Knows w := by
  cases h with
  | log entries => exact hv
  | enumerate vendor product => exact hv.contact (.enumerate _ vendor product trivial)
  | texts device timeout => exact hv.contact (.texts _ device timeout trivial)
  | refused device e bus hclosed _ => exact knows_closed hclosed
  | claimed device c bus _ hclaim =>
    -- the chip of the link is told by the ids and the serial that the device answers with
    obtain ⟨d, hd, hdevice, hfacts, rfl⟩ := Bus.claim_ok hclaim
    rintro link ⟨⟩
    refine ⟨{ d with
      claimed := d.claimed.setIfInBounds v.session.options.channel.number.toNat true }, ?_, ?_⟩
    · rw [hdevice, Bus.device?_put _ hd]
    · rw [hfacts]
      rfl
  | released link _ => exact knows_closed rfl
  | controlOut link request value index _ =>
    exact hv.contact (.controlOut _ link.handle request value index _ trivial)
  | controlIn link request index length _ =>
    exact hv.contact (.controlIn _ link.handle request index length _ trivial)
  | bulkOut link data _ => exact hv.contact (.bulkOut _ link.handle _ data _ trivial)
  | bulkIn link _ => exact hv.contact (.bulkIn _ link.handle _ _ _ trivial)
  | relink link mode baudRate leftover hl =>
    rintro link' ⟨⟩
    exact hv link hl
  | destroyed _ =>
    rintro link ⟨⟩
  | tuned options _ => exact hv
  | noted lastError => exact hv

lemma Knows.step (h : Knows w) (c : Call DeviceId) : Knows (c.step w).2 :=
  (c.ends w.session w rfl).2.keeps (fun _ _ hmove => hmove.knows) h

lemma knows_after {ι : Type} [DecidableEq ι] {t : Shared ι}
    (ht : ∀ i, (t.sessions i).binding = .closed) (events : List (Shared.Event ι)) (i : ι) :
    Knows ((t.after events).floor i) :=
  Shared.floor_after lasting_identity
    (fun _ _ hsession hbus h => h.keeping (congrArg Session.binding hsession) hbus)
    (fun c _ h => h.step c) (fun j => knows_closed (ht j)) events i

end Knowing

section Reading

open Memory (asking memoryWord_outcome replaced Served)

variable {w w' : Hosted Bus Handle} {link : Link Handle} {d : Device} {words : UInt16 × UInt16}

lemma reply_chipId (hchip : d.chip = .ft232R) :
    d.reply (asking ChipId.addressHigh) = .ok (Word.bytes d.chipId.1) ∧
      d.reply (asking ChipId.addressLow) = .ok (Word.bytes d.chipId.2) := by
  have hchipId : d.chip.hasChipId = true := decide_eq_true hchip
  have hne : ChipId.addressLow ≠ ChipId.addressHigh := by decide
  simp [Device.reply, asking, Request.ofCode?_code, hchipId, hne]

structure Faces (w : Hosted Bus Handle) (link : Link Handle) (words : UInt16 × UInt16) : Prop where
  binding : w.session.binding = .opened link
  device : ∃ d, w.bus.device? link.handle.device = some d ∧ d.chip = .ft232R ∧ d.chipId = words

lemma Faces.memoryWord (h : Faces w link words) {operation : Operation}
    {address word word' : UInt16}
    (hreply : ∀ d : Device, d.chip = .ft232R → d.chipId = words →
      d.reply (asking address) = .ok (Word.bytes word))
    (hread : exec (Session.memoryWord operation address) w = (.ok word', w')) :
    word' = word ∧ Faces w' link words := by
  obtain ⟨d, hd, hchip, hwords⟩ := h.device
  rcases memoryWord_outcome h.binding hd operation (hreply d hchip hwords)
    with ⟨e, failing, hexec⟩ | ⟨log, hexec⟩
  · rw [hexec] at hread
    cases hread
  · rw [hexec] at hread
    cases hread
    exact ⟨rfl, h.binding, _, Bus.device?_put w.bus hd _, hchip, hwords⟩

lemma Faces.readChipId (h : Faces w link words) {id : UInt32}
    (hread : exec readChipId w = (.ok id, w')) : id = ChipId.decode words.1 words.2 := by
  obtain ⟨l, w₁, hlink, hread⟩ := bind_ok (tracked_ok hread)
  rw [exec_link, h.binding] at hlink
  cases hlink
  split at hread
  · cases hread
  obtain ⟨high, w₂, hhigh, hread⟩ := bind_ok hread
  obtain ⟨rfl, h₂⟩ := h.memoryWord (fun d hchip hwords => hwords ▸ (reply_chipId hchip).1) hhigh
  obtain ⟨low, w₃, hlow, hread⟩ := bind_ok hread
  obtain ⟨rfl, -⟩ := h₂.memoryWord (fun d hchip hwords => hwords ▸ (reply_chipId hchip).2) hlow
  simp only [Attempt.exec_bind, exec_note, Attempt.exec_pure] at hread
  cases hread
  rfl

lemma readChipId_succeeds (h : Served w link d) (hlink : link.chip = .ft232R)
    (hchip : d.chip = .ft232R) :
    ∃ log, exec readChipId w = (.ok (ChipId.decode d.chipId.1 d.chipId.2),
      replaced w link (d.recorded [asking ChipId.addressHigh, asking ChipId.addressLow]) log) := by
  obtain ⟨log₁, hhigh⟩ := h.memoryWord .readChipId (reply_chipId hchip).1
  obtain ⟨log₂, hlow⟩ := (h.put (h.sound.recorded _) log₁).memoryWord .readChipId
    (reply_chipId (d := d.recorded [asking ChipId.addressHigh]) hchip).2
  have hguard : ¬ ¬ link.chip.hasChipId = true := not_not_intro (decide_eq_true hlink)
  rw [Memory.replaced_replaced, Device.recorded_recorded] at hlow
  rw [readChipId, exec_tracked]
  simp only [Attempt.exec_bind, exec_link, h.binding, if_neg hguard, Attempt.exec_pure, hhigh, hlow,
    exec_note]
  exact ⟨_, rfl⟩

end Reading

section Company

variable {ι : Type} [DecidableEq ι] {t : Shared ι} {id : DeviceId} {d : Device}

lemma device?_after (hd : t.bus.device? id = some d) (events : List (Shared.Event ι)) :
    ∃ d', (t.after events).bus.device? id = some d' ∧ d'.chip = d.chip ∧ d'.chipId = d.chipId := by
  obtain ⟨d', hd', hidentity⟩ := Shared.keeping_after lasting_identity t events id d hd
  exact ⟨d', hd', chip_of_identity hidentity, chipId_of_identity hidentity⟩

/-- Whatever sessions do and whatever is done to the devices, the chip ID that is read of an R chip
is made of its two words alone, and tells them apart. -/
theorem chipId_lasting (hd : t.bus.device? id = some d) (hchip : d.chip = .ft232R)
    (events : List (Shared.Event ι)) :
    (∀ i link answer w', ((t.after events).sessions i).binding = .opened link →
      link.handle.device = id →
      (Call.readChipId : Call DeviceId).step ((t.after events).floor i) = (.ok answer, w') →
      answer = .chipId (ChipId.decode d.chipId.1 d.chipId.2)) ∧
    ((∀ i, (t.sessions i).binding = .closed) →
      ∀ i link, ((t.after events).sessions i).binding = .opened link → link.handle.device = id →
        ∃ d', (t.after events).bus.device? id = some d' ∧ (d'.Sound → ∃ w',
          (Call.readChipId : Call DeviceId).step ((t.after events).floor i) =
            (.ok (.chipId (ChipId.decode d.chipId.1 d.chipId.2)), w'))) ∧
    (∀ high low, ChipId.decode high low =
      ChipId.ofBytes (ChipId.shuffle (Word.high (Word.swap high)))
        (ChipId.shuffle (Word.low (Word.swap high))) (ChipId.shuffle (Word.high (Word.swap low)))
        (ChipId.shuffle (Word.low (Word.swap low))) ^^^ 0xA5F0F7D1) ∧
    (∀ b₃ b₂ b₁ b₀, (ChipId.ofBytes b₃ b₂ b₁ b₀).toNat =
      2 ^ 24 * b₃.toNat + 2 ^ 16 * b₂.toNat + 2 ^ 8 * b₁.toNat + b₀.toNat) ∧
    (∀ b i, (ChipId.shuffle b).toBitVec.getLsbD (ChipId.places i) = b.toBitVec.getLsbD i) ∧
    ∀ words words' : UInt16 × UInt16, words ≠ words' →
      ChipId.decode words.1 words.2 ≠ ChipId.decode words'.1 words'.2 := by
  obtain ⟨d', hd', hchip', hwords⟩ := device?_after hd events
  refine ⟨?_, ?_, ChipId.decode_eq, ChipId.toNat_ofBytes, ChipId.getLsbD_shuffle,
    fun _ _ hne heq => hne (ChipId.decode_injective heq)⟩
  · rintro i link answer w' hl rfl hread
    have hfaces : Faces ((t.after events).floor i) link d.chipId :=
      ⟨hl, d', hd', hchip'.trans hchip, hwords⟩
    rw [Call.step, Call.run, Attempt.exec_map] at hread
    rcases hexec : exec readChipId ((t.after events).floor i) with ⟨e | x, v⟩
    · rw [hexec] at hread
      cases hread
    · rw [hexec] at hread
      cases hread
      rw [hfaces.readChipId hexec]
  · rintro hclosed i link hl rfl
    refine ⟨d', hd', fun hsound => ?_⟩
    obtain ⟨d'', hd'', hknown⟩ := knows_after hclosed events i link hl
    cases hd'.symm.trans hd''
    obtain ⟨log, hexec⟩ := readChipId_succeeds (w := (t.after events).floor i) ⟨hl, hd', hsound⟩
      (hknown.symm.trans (hchip'.trans hchip)) (hchip'.trans hchip)
    refine ⟨((Call.readChipId : Call DeviceId).step ((t.after events).floor i)).2, ?_⟩
    rw [Call.step, Call.run, Attempt.exec_map, hexec, hwords]

end Company

section Sample

def sampleBurned : Shared Bool where
  bus := { devices := [Device.ft232R "A"] }
  sessions _ := sampleStart.session

def sampleEvents : List (Shared.Event Bool) :=
  [.turn false (.openFirst 0x0403 0x6001), .turn false (.writeWord 0x3F 0xABCD),
    .turn false .readChipId, .turn false (.setBitMode 0xFF .bitBang), .turn false .reset,
    .tweak { place := 0 } (.failNext 1), .turn false .readChipId, .turn false .close,
    .turn true (.openFirst 0x0403 0x6001)]

theorem chipId_lasting_sample :
    sampleBurned.bus.device? { place := 0 } = some (Device.ft232R "A") ∧
      (Device.ft232R "A").chip = .ft232R ∧ (Device.ft232R "A").chipId = (0x3F1A, 0x7C42) ∧
      ∃ w', (Call.readChipId : Call DeviceId).step ((sampleBurned.after sampleEvents).floor true) =
        (.ok (.chipId (ChipId.decode 0x3F1A 0x7C42)), w') := by
  have hchip : (Device.ft232R "A").chip = .ft232R := by decide +kernel
  have hwords : (Device.ft232R "A").chipId = (0x3F1A, 0x7C42) := by decide +kernel
  have hd : sampleBurned.bus.device? { place := 0 } = some (Device.ft232R "A") := rfl
  obtain ⟨-, hreads, -⟩ := chipId_lasting hd hchip sampleEvents
  have hlink : ((sampleBurned.after sampleEvents).sessions true).link?.map (·.handle.device) =
      some { place := 0 } := by decide +kernel
  have hfaults : ((sampleBurned.after sampleEvents).bus.device? { place := 0 }).map
      (fun d => (d.disconnected, d.failing, d.failingRequest)) = some (false, 0, none) := by
    decide +kernel
  obtain ⟨link, hl, hdevice⟩ := Option.map_eq_some_iff.mp hlink
  obtain ⟨d', hd', hread⟩ := hreads (fun _ => rfl) true link (link?_eq_some.mp hl) hdevice
  rw [hd', Option.map_some, Option.some_inj, Prod.mk.injEq, Prod.mk.injEq] at hfaults
  obtain ⟨w', hstep⟩ := hread ⟨hfaults.1, hfaults.2.1, hfaults.2.2⟩
  rw [hwords] at hstep
  exact ⟨hd, hchip, hwords, w', hstep⟩

end Sample

end UsbSerial.Session
