import UsbSerial.Proofs.Session.Memory
import UsbSerial.Proofs.Session.Mode

namespace UsbSerial.Session

section Calls

variable {δ : Type}

def Call.onWords : Call δ → Bool
  | .readWord _ | .writeWord _ _ | .readEeprom => true
  | _ => false

def Call.address? : Call δ → Option UInt16
  | .readWord address | .writeWord address _ => some address
  | _ => none

end Calls

namespace Memory

open Attempt (exec)
open Eeprom (Image)
open Sim (Bus Device DeviceId Handle)

variable {w w' : Hosted Bus Handle} {link : Link Handle} {d d' : Device} {words : ℕ → UInt16}
  {α γ : Type}

structure Holds (w : Hosted Bus Handle) (link : Link Handle) (words : ℕ → UInt16) : Prop where
  binding : w.session.binding = .opened link
  device : ∃ d, w.bus.device? link.handle.device = some d ∧ d.Stores link.chip words

lemma Holds.congr (h : Holds w link words) (hbinding : w'.session.binding = w.session.binding)
    (hbus : w'.bus = w.bus) : Holds w' link words where
  binding := hbinding.trans h.binding
  device := by
    rw [hbus]
    exact h.device

lemma Holds.put (h : Holds w link words) {words' : ℕ → UInt16}
    (hbinding : w'.session.binding = w.session.binding)
    (hbus : w'.bus = w.bus.update link.handle.device fun _ => d')
    (hd' : d'.Stores link.chip words') : Holds w' link words' where
  binding := hbinding.trans h.binding
  device := by
    obtain ⟨d, hd, -⟩ := h.device
    exact ⟨d', by rw [hbus, Bus.device?_put w.bus hd], hd'⟩

section Addresses

lemma refuses_requireAddress (h : w.session.binding = .opened link) (operation : Operation)
    {address : UInt16} (haddress : link.chip.eepromWords ≤ address.toNat) :
    Refuses (requireAddress operation address) w
      (.outOfRange address (link.chip.eepromWords - 1).toUInt16) := by
  refine ⟨w.log, ?_⟩
  rw [requireAddress, Attempt.exec_bind, exec_link, h]
  dsimp only
  rw [if_pos haddress]
  rfl

lemma exec_requireAddress (h : w.session.binding = .opened link) (operation : Operation)
    {address : UInt16} (haddress : address.toNat < link.chip.eepromWords) :
    exec (requireAddress operation address) w = (.ok (), w) := by
  rw [requireAddress, Attempt.exec_bind, exec_link, h]
  dsimp only
  rw [if_neg (Nat.not_le_of_lt haddress)]
  rfl

end Addresses

section Reads

def Reads (link : Link Handle) (words : ℕ → UInt16) (m : Action Bus Handle α) (a : α) : Prop :=
  ∀ w, Holds w link words →
    Holds (exec m w).2 link words ∧ ∀ b, (exec m w).1 = .ok b → b = a

variable {m : Action Bus Handle α} {a : α}

lemma Reads.pure (a : α) : Reads link words (Pure.pure a) a :=
  fun _ h => ⟨h, fun _ hb => (Except.ok.inj hb).symm⟩

lemma Reads.bind {f : α → Action Bus Handle γ} {c : γ} (hm : Reads link words m a)
    (hf : Reads link words (f a) c) : Reads link words (m >>= f) c := by
  intro w h
  obtain ⟨hkept, hanswer⟩ := hm w h
  rw [Attempt.exec_bind]
  rcases hexec : exec m w with ⟨e | b, v⟩
  · rw [hexec] at hkept
    exact ⟨hkept, nofun⟩
  · rw [hexec] at hkept hanswer
    rw [hanswer b rfl]
    exact hf v hkept

lemma Reads.mapM {ι : Type} {f : ι → Action Bus Handle α} {g : ι → α} {is : List ι}
    (hf : ∀ i ∈ is, Reads link words (f i) (g i)) : Reads link words (is.mapM f) (is.map g) := by
  induction is with
  | nil => exact Reads.pure []
  | cons i is ih =>
    rw [List.mapM_cons]
    apply (hf i List.mem_cons_self).bind
    exact (ih fun j hj => hf j (List.mem_cons_of_mem i hj)).bind (Reads.pure _)

lemma Reads.map (hm : Reads link words m a) (f : α → γ) : Reads link words (f <$> m) (f a) := by
  rw [map_eq_pure_bind]
  exact hm.bind (Reads.pure (f a))

lemma Reads.tracked (hm : Reads link words m a) : Reads link words (tracked m) a := by
  intro w h
  obtain ⟨hkept, hanswer⟩ := hm w h
  rw [exec_tracked]
  rcases hexec : exec m w with ⟨e | b, v⟩
  · rw [hexec] at hkept
    exact ⟨hkept.congr rfl rfl, nofun⟩
  · rw [hexec] at hkept hanswer
    exact ⟨hkept, hanswer⟩

lemma Reads.linked {operation : Operation} {f : Link Handle → Action Bus Handle α}
    (hf : Reads link words (f link) a) : Reads link words (Session.link operation >>= f) a := by
  intro w h
  rw [Attempt.exec_bind, exec_link, h.binding]
  exact hf w h

lemma reads_note (level : Log.Level) (text : String) :
    Reads link words (note level text) () := by
  intro w h
  rw [exec_note]
  exact ⟨h.congr rfl rfl, fun _ _ => rfl⟩

lemma reads_memoryWord (operation : Operation) {address : UInt16}
    (haddress : address.toNat < link.chip.eepromWords) :
    Reads link words (memoryWord operation address) (words address.toNat) := by
  intro w h
  obtain ⟨d, hd, hstores⟩ := h.device
  rw [← hstores.chip_eq] at haddress
  have hreply := Device.reply_readWord hstores.length_storage haddress
  rw [hstores.read] at hreply
  rcases memoryWord_outcome h.binding hd operation hreply with ⟨e, failing, hexec⟩ | ⟨log, hexec⟩
  · rw [hexec]
    refine ⟨h.put rfl rfl (hstores.failing rfl), ?_⟩
    rintro _ ⟨⟩
  · rw [hexec]
    exact ⟨h.put rfl rfl (hstores.recorded _), fun _ hb => (Except.ok.inj hb).symm⟩

lemma reads_requireAddress (operation : Operation) {address : UInt16}
    (haddress : address.toNat < link.chip.eepromWords) :
    Reads link words (requireAddress operation address) () := by
  intro w h
  rw [exec_requireAddress h.binding operation haddress]
  exact ⟨h, fun _ _ => rfl⟩

lemma reads_readWord {address : UInt16} (haddress : address.toNat < link.chip.eepromWords) :
    Reads link words (readWord address) (words address.toNat) :=
  Reads.tracked ((reads_requireAddress _ haddress).bind (reads_memoryWord _ haddress))

def dump (chip : Chip) (words : ℕ → UInt16) : Image :=
  Eeprom.Dump.image chip (((List.range chip.eepromWords).map words).flatMap Word.bytes)

lemma reads_readEeprom : Reads link words readEeprom (dump link.chip words) := by
  apply Reads.tracked
  apply Reads.linked
  have hwords : Reads link words ((List.range link.chip.eepromWords).mapM fun address =>
      memoryWord .readEeprom address.toUInt16) ((List.range link.chip.eepromWords).map words) := by
    apply Reads.mapM
    intro address haddress
    have hlt := List.mem_range.mp haddress
    have htoNat := toNat_toUInt16 hlt
    have hread : Reads link words (memoryWord .readEeprom address.toUInt16) _ :=
      reads_memoryWord .readEeprom (by rw [htoNat]; exact hlt)
    rw [htoNat] at hread
    exact hread
  apply hwords.bind
  exact (reads_note _ _).bind (Reads.pure _)

end Reads

section Calls

lemma Holds.writeWord (h : Holds w link words) {address : UInt16}
    (haddress : address.toNat < link.chip.eepromWords) (value : UInt16) :
    (∃ e w', exec (writeWord address value) w = (.error e, w') ∧ Holds w' link words) ∨
      ∃ w', exec (writeWord address value) w = (.ok (), w') ∧
        Holds w' link (Function.update words address.toNat value) := by
  have hrequire := exec_requireAddress h.binding .writeWord haddress
  obtain ⟨d, hd, hstores⟩ := h.device
  rcases exec_controlOut_device h.binding hd .writeWord .writeWord value address with
    ⟨e, log, d', hout, hfailing⟩ | ⟨log, hout⟩
  · refine .inl ⟨e, _, by
      simp only [Session.writeWord, exec_tracked, Attempt.exec_bind, hrequire, putMemoryWord, hout]
      rfl, ?_⟩
    exact h.put rfl rfl (hstores.failing hfailing)
  · refine .inr ⟨_, by
      simp only [Session.writeWord, exec_tracked, Attempt.exec_bind, hrequire, putMemoryWord, hout]
      rfl, ?_⟩
    exact h.put rfl rfl ((hstores.recorded _).writeWord haddress value)

lemma rejects_address (h : w.session.binding = .opened link) {c : Call DeviceId}
    {address : UInt16} (hc : c.address? = some address)
    (haddress : link.chip.eepromWords ≤ address.toNat) :
    Rejects c.run w (.outOfRange address (link.chip.eepromWords - 1).toUInt16) := by
  cases c with
  | readWord address' =>
    cases hc
    exact ((refuses_requireAddress h _ haddress).bind _).tracked.map _
  | writeWord address' value =>
    cases hc
    exact ((refuses_requireAddress h _ haddress).bind _).tracked.done
  | _ => cases hc

lemma reads_call_readWord (address : UInt16) :
    Reads link words (Call.readWord address : Call DeviceId).run
      (.word (words address.toNat)) := by
  by_cases haddress : link.chip.eepromWords ≤ address.toNat
  · intro w h
    obtain ⟨log, hexec⟩ := rejects_address h.binding (c := .readWord address) rfl haddress
    rw [hexec]
    exact ⟨h.congr rfl rfl, nofun⟩
  · exact (reads_readWord (Nat.lt_of_not_le haddress)).map _

lemma reads_call_readEeprom :
    Reads link words (Call.readEeprom : Call DeviceId).run (.image (dump link.chip words)) :=
  reads_readEeprom.map _

end Calls

section Runs

/-- What the words are after an event, if a write that succeeds stores its word and nothing else
stores any. -/
def store (w : Hosted Bus Handle) (words : ℕ → UInt16) : Event → ℕ → UInt16
  | .call (.writeWord address value) =>
      if ((Call.writeWord address value).step w).1.isOk then
        Function.update words address.toNat value
      else words
  | _ => words

def stored (w : Hosted Bus Handle) (words : ℕ → UInt16) : List Event → ℕ → UInt16
  | [] => words
  | e :: events => stored (e.step w) (store w words e) events

def onWords : Event → Bool
  | .call c => c.onWords
  | _ => true

lemma stores_tweak {chip : Chip} (h : d.Stores chip words) (t : Bench.Tweak) :
    (t.apply d).Stores chip words := by
  cases t <;> exact ⟨h.chip_eq, h.length_storage, h.read⟩

lemma Holds.tweak (h : Holds w link words) (device : DeviceId) (t : Bench.Tweak) :
    Holds { w with bus := w.bus.update device t.apply } link words := by
  obtain ⟨d, hd, hstores⟩ := h.device
  refine ⟨h.binding, ?_⟩
  dsimp only
  rw [Bus.device?_update]
  split
  · exact ⟨t.apply d, by rw [hd, Option.map_some], stores_tweak hstores t⟩
  · exact ⟨d, hd, hstores⟩

lemma Holds.writeWord_step (h : Holds w link words) (address value : UInt16) :
    Holds ((Call.writeWord address value).step w).2 link
      (store w words (.call (.writeWord address value))) := by
  by_cases haddress : link.chip.eepromWords ≤ address.toNat
  · obtain ⟨log, hexec⟩ :=
      rejects_address h.binding (c := .writeWord address value) rfl haddress
    rw [store, Call.step, hexec]
    exact h.congr rfl rfl
  · rcases h.writeWord (Nat.lt_of_not_le haddress) value with
      ⟨e, w', hexec, h'⟩ | ⟨w', hexec, h'⟩
    · have hstep : (Call.writeWord address value).step w = (.error e, w') := by
        simp only [Call.step, Call.run, Call.run.done, Attempt.exec_bind, hexec]
      rw [store, hstep]
      exact h'
    · have hstep : (Call.writeWord address value).step w = (.ok .done, w') := by
        simp only [Call.step, Call.run, Call.run.done, Attempt.exec_bind, hexec, Attempt.exec_pure]
      rw [store, hstep]
      exact h'

lemma Holds.step (h : Holds w link words) {e : Event} (he : onWords e = true) :
    Holds (e.step w) link (store w words e) := by
  cases e with
  | attach device =>
    obtain ⟨d, hd, hstores⟩ := h.device
    exact ⟨h.binding, d, device?_attach hd device, hstores⟩
  | failEnumeration on => exact ⟨h.binding, h.device⟩
  | tweak device t => exact h.tweak device t
  | call c =>
    cases c with
    | readWord address => exact (reads_call_readWord address w h).1
    | writeWord address value => exact h.writeWord_step address value
    | readEeprom => exact (reads_call_readEeprom w h).1
    | _ => cases he

lemma Holds.play (h : Holds w link words) {events : List Event}
    (hall : ∀ e ∈ events, onWords e = true) :
    Holds (play w events) link (stored w words events) := by
  induction events generalizing w words with
  | nil => exact h
  | cons e events ih =>
    have hstep := h.step (hall e List.mem_cons_self)
    exact ih hstep fun e' he' => hall e' (List.mem_cons_of_mem e he')

end Runs

section Arrays

lemma word?_dump (hd : d.Stores link.chip words) {address : ℕ}
    (haddress : address < (dump link.chip words).size.words) :
    (dump link.chip words).word? address = some (words address) := by
  have hlen : d.storage.length = 2 * link.chip.eepromWords := by
    rw [Device.length_words hd.length_storage, hd.chip_eq]
  have hbytes : ((List.range link.chip.eepromWords).map words).flatMap Word.bytes = d.storage := by
    rw [← hd.read, Word.flatMap_read hlen]
  rw [dump, hbytes, Eeprom.Dump.image] at haddress ⊢
  rw [← hd.read]
  exact Image.word?_ofList d.storage haddress

lemma Holds.answered (h : Holds w link words) (hd : w.bus.device? link.handle.device = some d)
    (hready : d.Ready) {c : Call DeviceId} (hc : c.onWords = true)
    (haddress : ∀ address, c.address? = some address → address.toNat < link.chip.eepromWords) :
    ∃ answer w', c.step w = (.ok answer, w') := by
  have hbound : Bound w link d := by
    obtain ⟨d', hd', hstores⟩ := h.device
    cases hd.symm.trans hd'
    exact ⟨h.binding, hd, hready, hstores.chip_eq⟩
  cases c with
  | readWord address =>
    have hlt := haddress address rfl
    obtain ⟨w', -, hexec, -⟩ := hbound.memoryWord .readWord hlt
    have hround : address.toNat.toUInt16 = address := UInt16.ofNat_toNat
    rw [hround] at hexec
    exact ⟨.word (Word.read d.storage address.toNat), w', by
      simp only [Call.step, Call.run, Attempt.exec_map, Session.readWord, exec_tracked,
        Attempt.exec_bind, exec_requireAddress h.binding _ hlt, hexec]⟩
  | writeWord address value =>
    have hlt := haddress address rfl
    obtain ⟨w', -, hexec, -⟩ := hbound.controlOut .writeWord .writeWord value address
    exact ⟨.done, w', by
      simp only [Call.step, Call.run, Call.run.done, Session.writeWord, exec_tracked, putMemoryWord,
        Attempt.exec_bind, exec_requireAddress h.binding _ hlt, hexec, Attempt.exec_pure]⟩
  | readEeprom =>
    obtain ⟨w', -, hexec, -⟩ := hbound.readEeprom
    exact ⟨.image (Eeprom.Dump.image link.chip d.storage), w', by
      simp only [Call.step, Call.run, Attempt.exec_map, hexec]⟩
  | _ => cases hc

/-- Through its session the EEPROM is an array of these words. -/
structure Shows (w : Hosted Bus Handle) (link : Link Handle) (words : ℕ → UInt16) : Prop where
  holds : Holds w link words
  read : ∀ {address : UInt16} {answer : Answer DeviceId} {w' : Hosted Bus Handle},
    (Call.readWord address).step w = (.ok answer, w') →
      answer = .word (words address.toNat) ∧ Holds w' link words
  written : ∀ {address value : UInt16} {answer : Answer DeviceId} {w' : Hosted Bus Handle},
    (Call.writeWord address value).step w = (.ok answer, w') →
      Holds w' link (Function.update words address.toNat value)
  dumped : ∀ {answer : Answer DeviceId} {w' : Hosted Bus Handle},
    Call.readEeprom.step w = (.ok answer, w') →
      Holds w' link words ∧ ∃ image, answer = .image image ∧
        ∀ address < image.size.words, image.word? address = some (words address)
  rejected : ∀ {c : Call DeviceId} {address : UInt16}, c.address? = some address →
    link.chip.eepromWords ≤ address.toNat →
      Rejects c.run w (.outOfRange address (link.chip.eepromWords - 1).toUInt16)
  failed : ∀ {c : Call DeviceId} {e : Error} {w' : Hosted Bus Handle}, c.onWords = true →
    c.step w = (.error e, w') → Holds w' link words
  answered : ∀ {c : Call DeviceId} {d : Device}, c.onWords = true →
    (∀ address, c.address? = some address → address.toNat < link.chip.eepromWords) →
    w.bus.device? link.handle.device = some d → d.Ready →
      ∃ answer w', c.step w = (.ok answer, w')

lemma Holds.shows (h : Holds w link words) : Shows w link words where
  holds := h
  read := by
    intro address answer w' hstep
    obtain ⟨hkept, hanswer⟩ := reads_call_readWord address w h
    rw [Call.step] at hstep
    rw [hstep] at hkept hanswer
    exact ⟨hanswer answer rfl, hkept⟩
  written := by
    intro address value answer w' hstep
    have hkept := h.writeWord_step address value
    rw [store, hstep] at hkept
    exact hkept
  dumped := by
    intro answer w' hstep
    obtain ⟨hkept, hanswer⟩ := reads_call_readEeprom w h
    obtain ⟨d, -, hstores⟩ := h.device
    rw [Call.step] at hstep
    rw [hstep] at hkept hanswer
    exact ⟨hkept, dump link.chip words, hanswer answer rfl, fun _ => word?_dump hstores⟩
  rejected := fun hc haddress => rejects_address h.binding hc haddress
  failed := by
    intro c e w' hc hstep
    have hkept := h.step (e := .call c) hc
    rw [Event.step, hstep] at hkept
    cases c with
    | writeWord address value =>
      rw [store, hstep] at hkept
      exact hkept
    | _ => exact hkept
  answered := fun hc haddress hd hready => h.answered hd hready hc haddress

/-- After any run of calls on words, whatever fails on the way, the EEPROM is the array of the words
that were there before, with those that were written since. -/
theorem words_stored (h : Holds w link words) {events : List Event}
    (hall : ∀ e ∈ events, onWords e = true) :
    Shows (play w events) link (stored w words events) :=
  (h.play hall).shows

section Sample

lemma bare_holds : Holds bareHost bareLink (Word.read bare.storage) where
  binding := bare_bound.binding
  device := ⟨bare, bare_bound.device, bare_bound.chip, bare_bound.ready.length_storage, rfl⟩

def sampleRun : List Event :=
  [.call (.writeWord 0x05 0xABCD), .tweak { place := 0 } (.failNext 1),
    .call (.writeWord 0x06 0x1234), .call (.writeWord 0x80 0x5678), .call .readEeprom]

theorem words_stored_sample :
    Shows (play bareHost sampleRun) bareLink
        (Function.update (Word.read bare.storage) 0x05 0xABCD) ∧
      ∃ w', (Call.readWord 0x05 : Call DeviceId).step (play bareHost sampleRun) =
        (.ok (.word 0xABCD), w') := by
  have hall : ∀ e ∈ sampleRun, onWords e = true := by decide
  have hshows := words_stored bare_holds hall
  have hstored : stored bareHost (Word.read bare.storage) sampleRun =
      Function.update (Word.read bare.storage) 0x05 0xABCD := by
    rfl
  rw [hstored] at hshows
  refine ⟨hshows, ?_⟩
  have hfaults : ((play bareHost sampleRun).bus.device? bareLink.handle.device).map
      (fun d => (d.disconnected, d.failing, d.failingRequest)) = some (false, 0, none) := by
    decide +kernel
  obtain ⟨d, hd, hstores⟩ := hshows.holds.device
  rw [hd] at hfaults
  injection hfaults with hfaults
  simp only [Prod.mk.injEq] at hfaults
  obtain ⟨hconnected, hfailing, hrequest⟩ := hfaults
  have hready : d.Ready := ⟨hconnected, hfailing, hrequest, hstores.length_storage⟩
  have haddress : ∀ address, (Call.readWord 0x05 : Call DeviceId).address? = some address →
      address.toNat < bareLink.chip.eepromWords := by
    rintro _ ⟨⟩
    decide
  obtain ⟨answer, w', hread⟩ := hshows.answered rfl haddress hd hready
  obtain ⟨hanswer, -⟩ := hshows.read hread
  exact ⟨w', hanswer ▸ hread⟩

end Sample

end Arrays

end Memory

end UsbSerial.Session
