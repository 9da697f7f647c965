import UsbSerial.Proofs.Session.Effect
import UsbSerial.Proofs.Session.Gating
import UsbSerial.Proofs.Session.Receive
import UsbSerial.Proofs.Word

/-! The bit mode is kept twice, by the session and by its device. Operations that select a mode set
both; a reset sets the device's alone. -/

namespace UsbSerial.Session

open Attempt (exec bind_ok bind_error)
open Receive (Opens)
open Sim (Bus Device DeviceId Handle)

section Calls

def Call.selectsMode {δ : Type} : Call δ → Bool
  | .enableBitBang _ | .disableBitBang | .setBitMode _ _ => true
  | _ => false

def Call.opens {δ : Type} : Call δ → Bool
  | .openFirst _ _ | .openMatching _ | .openFound _ => true
  | _ => false

def Call.resets {δ : Type} : Call δ → Bool
  | .reset | .writeEeprom _ => true
  | _ => false

variable {δ κ : Type} {s t : Session κ}

lemma link?_eq_some {l : Link κ} : s.link? = some l ↔ s.binding = .opened l := by
  cases hbinding : s.binding <;> simp [Session.link?, hbinding]

def SameMode (s t : Session κ) : Prop :=
  ∀ l', t.binding = .opened l' →
    ∃ l, s.binding = .opened l ∧ l'.handle = l.handle ∧ l'.mode = l.mode

lemma SameMode.of_eq (h : t.binding = s.binding) : SameMode s t :=
  fun l' hl' => ⟨l', h ▸ hl', rfl, rfl⟩

lemma Relinked.sameMode {g : Link κ → Link κ} (h : Relinked g s t)
    (hg : ∀ l, (g l).handle = l.handle ∧ (g l).mode = l.mode) : SameMode s t := by
  obtain ⟨l, hl, rfl⟩ := h
  rintro l' ⟨⟩
  exact ⟨l, hl, hg l⟩

lemma Call.Effect.sameMode {c : Call δ} (h : c.Effect s t) (hselect : c.selectsMode = false)
    (hopen : c.opens = false) : SameMode s t := by
  cases c with
  | findAll vendor product =>
    obtain ⟨-, rfl⟩ := h
    exact .of_eq rfl
  | openFirst vendor product => cases hopen
  | openMatching filter => cases hopen
  | openFound descriptor => cases hopen
  | close =>
    obtain ⟨-, rfl⟩ := h
    rintro l' ⟨⟩
  | destroy =>
    obtain ⟨-, rfl⟩ := h
    rintro l' ⟨⟩
  | setChannel channel =>
    obtain ⟨-, rfl⟩ := h
    exact .of_eq rfl
  | setReadTimeout timeout =>
    cases h
    exact .of_eq rfl
  | setWriteTimeout timeout =>
    cases h
    exact .of_eq rfl
  | setWriteChunk n =>
    cases h
    exact .of_eq rfl
  | reset => exact Relinked.sameMode h fun l => ⟨rfl, rfl⟩
  | purgeReceive => exact Relinked.sameMode h fun l => ⟨rfl, rfl⟩
  | purge => exact Relinked.sameMode h fun l => ⟨rfl, rfl⟩
  | setBaudRate rate => exact Relinked.sameMode h.2 fun l => ⟨rfl, rfl⟩
  | read room =>
    obtain ⟨l, leftover, hl, -, rfl⟩ := h
    rintro l' ⟨⟩
    exact ⟨l, hl, rfl, rfl⟩
  | enableBitBang mask => cases hselect
  | disableBitBang => cases hselect
  | setBitMode mask mode => cases hselect
  | _ =>
    obtain ⟨rfl, -⟩ := h
    exact .of_eq rfl

lemma Call.Failure.sameMode {c : Call δ} {e : Error} (h : c.Failure s t e) : SameMode s t := by
  cases c with
  | purge =>
    rcases h with rfl | h
    · exact .of_eq rfl
    · exact Relinked.sameMode (s := { s with lastError := some e }) h fun l => ⟨rfl, rfl⟩
  | _ =>
    cases h
    exact .of_eq rfl

lemma Call.sameMode {β : Type} [Transport β δ κ] (c : Call δ) (hselect : c.selectsMode = false)
    (hopen : c.opens = false) (w : Hosted β κ) : SameMode w.session (c.step w).2.session := by
  rcases hstep : c.step w with ⟨e | answer, w'⟩
  · exact Call.Failure.sameMode (Call.failure_of_error hstep)
  · exact Call.Effect.sameMode (Call.effect_of_ok hstep) hselect hopen

lemma Call.not_uses_bitMode {c : Call δ} (hselect : c.selectsMode = false)
    (hopen : c.opens = false) (value : UInt16) : ¬ c.uses (.controlOut .bitMode value) := by
  cases c <;> simp_all [Call.uses, Call.selectsMode, Call.opens]

lemma Call.resets_of_uses {c : Call δ} (hopen : c.opens = false)
    (h : c.uses (.controlOut .reset Request.resetEngine)) : c.resets := by
  have hreceive : Request.resetEngine ≠ Request.purgeReceive := by decide
  have htransmit : Request.resetEngine ≠ Request.purgeTransmit := by decide
  cases c <;> simp_all [Call.uses, Call.resets, Call.opens]

lemma Change.mode {c : Call δ} (hselect : c.selectsMode = false) (hopen : c.opens = false)
    {d d' : Device} (h : Change c.uses d d') :
    d'.mode = d.mode ∨ c.resets ∧ d'.mode = 0 := by
  cases h with
  | obeyed request value index hallowed =>
    rw [Device.mode_obey, Request.ofCode?_code]
    cases request with
    | reset =>
      by_cases hvalue : value = Request.resetEngine
      · subst hvalue
        exact .inr ⟨Call.resets_of_uses hopen hallowed, if_pos rfl⟩
      · exact .inl (if_neg hvalue)
    | bitMode => exact absurd hallowed (Call.not_uses_bitMode hselect hopen value)
    | _ => exact .inl rfl
  | wrote data _ => exact .inl (Device.mode_drive _ _)
  | _ => exact .inl rfl

end Calls

section Steps

def Modes (R : BitMode → UInt8 → Prop) (w : Hosted Bus Handle) : Prop :=
  ∀ link, w.session.binding = .opened link →
    ∃ d, w.bus.device? link.handle.device = some d ∧ R link.mode d.mode

def Agree (mode : BitMode) (code : UInt8) : Prop := code = mode.code

def Trail (mode : BitMode) (code : UInt8) : Prop := code = mode.code ∨ code = 0

variable {R : BitMode → UInt8 → Prop} {w w' : Hosted Bus Handle} {link : Link Handle}

lemma Modes.mono {R' : BitMode → UInt8 → Prop} (h : Modes R w)
    (hR : ∀ mode code, R mode code → R' mode code) : Modes R' w := by
  intro link hl
  obtain ⟨d, hd, hmode⟩ := h link hl
  exact ⟨d, hd, hR _ _ hmode⟩

lemma Modes.congr (h : Modes R w) (hbus : w'.bus = w.bus)
    (hbinding : w'.session.binding = w.session.binding) : Modes R w' := by
  intro link hl
  rw [hbus]
  exact h link (hbinding ▸ hl)

lemma Modes.quiet (h : Modes R w) {c : Call DeviceId} (hselect : c.selectsMode = false)
    (hopen : c.opens = false)
    (hreset : c.resets → ∀ link, w.session.binding = .opened link → R link.mode 0) :
    Modes R (c.step w).2 := by
  intro link' hl'
  obtain ⟨link, hl, hhandle, hmode⟩ := c.sameMode hselect hopen w link' hl'
  rw [hhandle, hmode]
  apply c.keeps _ w _ (h link hl)
  intro d d' hchange hd
  rcases hchange.mode hselect hopen with hsame | ⟨hresets, hzero⟩
  · rw [hsame]
    exact hd
  · rw [hzero]
    exact hreset hresets link hl

lemma modes_put {link' : Link Handle} {d d' : Device}
    (hd : w.bus.device? link.handle.device = some d)
    (hbus : w'.bus = w.bus.update link.handle.device fun _ => d')
    (hl' : w'.session.binding = .opened link') (hhandle : link'.handle = link.handle)
    (hR : R link'.mode d'.mode) : Modes R w' := by
  intro l hl
  cases hl'.symm.trans hl
  exact ⟨d', by rw [hhandle, hbus, Bus.device?_put w.bus hd], hR⟩

def Lands {α : Type} (R : BitMode → UInt8 → Prop) (m : Action Bus Handle α)
    (w : Hosted Bus Handle) : Prop :=
  (∃ e w', exec m w = (.error e, w') ∧ Modes R w') ∨ ∃ a w', exec m w = (.ok a, w') ∧ Modes Agree w'

lemma Rejects.lands {α : Type} {m : Action Bus Handle α} {e : Error} (hm : Rejects m w e)
    (h : Modes R w) : Lands R m w := by
  obtain ⟨log, hexec⟩ := hm
  exact .inl ⟨e, _, hexec, h.congr rfl rfl⟩

lemma Lands.done {m : Action Bus Handle Unit} (h : Lands R m w) :
    Lands R (Call.run.done m : Action Bus Handle (Answer DeviceId)) w := by
  rcases h with ⟨e, w', hexec, hmodes⟩ | ⟨_, w', hexec, hmodes⟩
  · exact .inl ⟨e, w', by rw [Call.run.done, Attempt.exec_bind, hexec], hmodes⟩
  · exact .inr ⟨.done, w', by rw [Call.run.done, Attempt.exec_bind, hexec]; rfl, hmodes⟩

section Opening

variable {m : Action Bus Handle Unit}

lemma Receive.Opens.ends (hm : Opens m) (s : Session Handle) :
    Ends m s
      (Tracked (fun t => s.binding = .closed ∧ Opened { s with lastError := none } t) s) := by
  cases hm with
  | first vendor product => exact ends_openMatching { vendor, product }
  | matching filter => exact ends_openMatching filter
  | found descriptor => exact ends_openFound descriptor

lemma Receive.Opens.rejected (hm : Opens m) (hl : w.session.binding = .opened link) :
    Rejects m w (refusal .openDevice w.session.state) := by
  have hstate : decide (w.session.state = .closed) = false := by simp [Session.state, hl]
  cases hm with
  | first vendor product => exact rejects_beginOpening hstate _
  | matching filter => exact rejects_beginOpening hstate _
  | found descriptor => exact rejects_beginOpening hstate _

lemma Receive.Opens.agree (hm : Opens m) (hok : exec m w = (.ok (), w')) : Modes Agree w' := by
  obtain ⟨link, d, hattached, -, hzero⟩ := hm.attached hok
  obtain ⟨hends, -⟩ := hm.ends w.session w rfl
  rw [hok] at hends
  obtain ⟨-, handle, chip, packetBytes, hsession⟩ := hends
  intro link' hl'
  cases hattached.binding.symm.trans hl'
  refine ⟨d, hattached.device, ?_⟩
  rw [hsession] at hl'
  cases hl'
  exact hzero

lemma Receive.Opens.lands (hm : Opens m) (h : Modes R w) : Lands R m w := by
  cases hbinding : w.session.binding with
  | opened link => exact (hm.rejected hbinding).lands h
  | _ =>
    rcases hexec : exec m w with ⟨e | ⟨⟩, w'⟩
    · obtain ⟨hends, -⟩ := hm.ends w.session w rfl
      rw [hexec] at hends
      refine .inl ⟨e, w', hexec, ?_⟩
      intro link hl
      have hbefore : w.session.binding = .opened link :=
        (congrArg Session.binding hends).symm.trans hl
      rw [hbinding] at hbefore
      cases hbefore
    · exact .inr ⟨_, w', hexec, hm.agree hexec⟩

end Opening

section Selecting

variable {d : Device} (operation : Operation) (mask : UInt8) (mode : BitMode)

lemma exec_programBitMode (hl : w.session.binding = .opened link)
    (hd : w.bus.device? link.handle.device = some d) :
    (∃ e log d', exec (programBitMode operation mask mode) w =
        (.error e,
          { w with
            bus := w.bus.update link.handle.device fun _ => d'
            log }) ∧
        d' = { d with failing := d'.failing }) ∨
      ∃ log d', exec (programBitMode operation mask mode) w =
        (.ok (),
          { w with
            bus := w.bus.update link.handle.device fun _ => d'
            log
            session := w.session.mapLink fun l => { l with mode } }) ∧ d'.mode = mode.code := by
  rcases exec_controlOut_device hl hd operation .bitMode (Word.ofBytes mask mode.code)
    w.session.options.channel.index with ⟨e, log, d', hout, hfailing⟩ | ⟨log, hout⟩
  · exact .inl ⟨e, log, d', by simp [programBitMode, hout], hfailing⟩
  · generalize hd' : Device.obey _ _ = d' at hout
    refine .inr ⟨_, d', by simp only [programBitMode, modifyLink, Attempt.exec_bind,
      exec_channelIndex, hout, exec_modifySession, exec_note]; rfl, ?_⟩
    rw [← hd', Device.mode_obey, Request.ofCode?_code]
    exact Word.high_ofBytes mask mode.code

lemma lands_select (h : Modes R w) {allowed : State → Bool}
    (hallowed : ∀ state, allowed state = true → state.isOpened = true) :
    Lands R (tracked do
      require operation allowed
      programBitMode operation mask mode) w := by
  by_cases hstate : allowed w.session.state = true
  · obtain ⟨link, hl⟩ := state_isOpened (hallowed _ hstate)
    obtain ⟨d, hd, hmode⟩ := h link hl
    have hrequire := exec_require_opened hl operation hstate
    rcases exec_programBitMode operation mask mode hl hd with
      ⟨e, log, d', hexec, hfailing⟩ | ⟨log, d', hexec, hselected⟩
    · refine .inl ⟨e, _, by
        rw [exec_tracked, Attempt.exec_bind, hrequire]
        simp only [hexec]
        rfl, ?_⟩
      refine modes_put hd rfl hl rfl ?_
      rw [hfailing]
      exact hmode
    · have hl' : (w.session.mapLink fun l => { l with mode }).binding =
          .opened { link with mode } := by rw [mapLink_opened hl]
      refine .inr ⟨_, _, by
        rw [exec_tracked, Attempt.exec_bind, hrequire]
        simp only [hexec]
        rfl, ?_⟩
      exact modes_put hd rfl hl' rfl hselected
  · have hfalse : allowed w.session.state = false := by simpa using hstate
    exact ((refuses_require (.inr hfalse)).bind _).tracked.lands h

end Selecting

lemma drivesPins_isOpened (state : State) (h : state.drivesPins = true) :
    state.isOpened = true := by
  cases state with
  | opened mode => rfl
  | _ => cases h

lemma Call.lands {c : Call DeviceId} (hc : c.selectsMode = true ∨ c.opens = true)
    (h : Modes R w) : Lands R c.run w := by
  cases c with
  | openFirst vendor product => exact ((Opens.first vendor product).lands h).done
  | openMatching filter => exact ((Opens.matching filter).lands h).done
  | openFound descriptor => exact ((Opens.found descriptor).lands h).done
  | enableBitBang mask =>
    refine (lands_select _ mask _ h fun state hstate => ?_).done
    rw [of_decide_eq_true hstate]
    rfl
  | disableBitBang => exact (lands_select _ _ _ h drivesPins_isOpened).done
  | setBitMode mask mode => exact (lands_select _ mask mode h fun _ hstate => hstate).done
  | _ => simp [Call.selectsMode, Call.opens] at hc

theorem Call.modes (c : Call DeviceId) (hR : ∀ mode code, Agree mode code → R mode code)
    (hreset : c.resets → ∀ link, w.session.binding = .opened link → R link.mode 0)
    (h : Modes R w) : Modes R (c.step w).2 := by
  by_cases hc : c.selectsMode = true ∨ c.opens = true
  · rcases c.lands hc h with ⟨e, w', hexec, hmodes⟩ | ⟨a, w', hexec, hmodes⟩
    · rw [Call.step, hexec]
      exact hmodes
    · rw [Call.step, hexec]
      exact hmodes.mono hR
  · simp only [not_or, Bool.not_eq_true] at hc
    exact h.quiet hc.1 hc.2 hreset

end Steps

section Frames

variable {w w' : Hosted Bus Handle} {link : Link Handle} {d : Device} {frame : UInt8}

lemma exec_writeBitBang_ok {n : ℕ} (hok : exec (writeBitBang frame) w = (.ok n, w')) :
    w.session.state.drivesPins = true ∧
      exec (bulkOut .writeBitBang [frame]) w = (.ok 1, w') := by
  obtain ⟨_, v, hrequire, hrest⟩ := bind_ok (tracked_ok hok)
  rw [exec_require] at hrequire
  split at hrequire
  · cases hrequire
  split at hrequire
  · rename_i hstate
    cases hrequire
    obtain ⟨count, u, hout, hcount⟩ := bind_ok hrest
    split at hcount
    · rename_i hone
      rw [Attempt.exec_pure] at hcount
      cases hcount
      exact ⟨hstate, hone ▸ hout⟩
    · rw [Attempt.exec_throw] at hcount
      cases hcount
  · cases hrequire

lemma pins_of_writeBitBang (hl : w.session.binding = .opened link)
    (hd : w.bus.device? link.handle.device = some d) {n : ℕ}
    (hok : exec (writeBitBang frame) w = (.ok n, w')) :
    ∃ d', w'.bus.device? link.handle.device = some d' ∧
      d'.pins = if d.mode = 0 then d.pins else Device.merge d.pins d.outputMask frame := by
  obtain ⟨-, hout⟩ := exec_writeBitBang_ok hok
  obtain ⟨log, hexec⟩ := exec_bulkOut_device hl hd .writeBitBang [frame]
  rcases hdevice : exec (Device.bulkOut [frame] w.session.options.writeTimeout) d with ⟨e | k, d'⟩
  · rw [hexec, hdevice] at hout
    cases hout
  · rw [hexec, hdevice] at hout
    cases hout
    obtain ⟨taken, htaken, hlength, rfl⟩ := Device.bulkOut_ok hdevice
    refine ⟨_, Bus.device?_put w.bus hd _, ?_⟩
    have hframe : taken = [frame] := by
      cases hshort : d.shortWrite with
      | false => simpa [hshort] using htaken
      | true =>
        rw [hshort] at htaken
        simp [htaken] at hlength
    rw [hframe]
    simp only [Device.drive, List.getLast?_singleton]
    split <;> rfl

lemma code_ne_zero {mode : BitMode} (h : mode.drivesPins = true) : mode.code ≠ 0 := by
  cases mode <;> simp_all [BitMode.drivesPins, BitMode.code]

end Frames

section Runs

inductive Event
  | attach (device : Device)
  | failEnumeration (on : Bool)
  | tweak (device : DeviceId) (t : Bench.Tweak)
  | call (c : Call DeviceId)
  deriving DecidableEq

def Event.step (w : Hosted Bus Handle) : Event → Hosted Bus Handle
  | .attach device => { w with bus := w.bus.attach device }
  | .failEnumeration on => { w with bus := { w.bus with failing := on } }
  | .tweak device t => { w with bus := w.bus.update device t.apply }
  | .call c => (c.step w).2

def play (w : Hosted Bus Handle) (events : List Event) : Hosted Bus Handle :=
  events.foldl Event.step w

variable {R : BitMode → UInt8 → Prop} {w : Hosted Bus Handle}

lemma mode_tweak (t : Bench.Tweak) (d : Device) : (t.apply d).mode = d.mode := by
  cases t <;> rfl

lemma device?_attach {bus : Bus} {id : DeviceId} {d : Device} (h : bus.device? id = some d)
    (device : Device) : (bus.attach device).device? id = some d := by
  have hlt : id.place < bus.devices.length := (List.getElem?_eq_some_iff.mp h).1
  rw [Bus.device?, Bus.attach, List.getElem?_append_left hlt]
  exact h

lemma Modes.tweak (h : Modes R w) (device : DeviceId) (t : Bench.Tweak) :
    Modes R { w with bus := w.bus.update device t.apply } := by
  intro link hl
  obtain ⟨d, hd, hmode⟩ := h link hl
  dsimp only
  rw [Bus.device?_update]
  split
  · exact ⟨t.apply d, by rw [hd, Option.map_some], by rwa [mode_tweak]⟩
  · exact ⟨d, hd, hmode⟩

def Event.Calm (w : Hosted Bus Handle) : Event → Prop
  | .call c => c.resets → ∀ link, w.session.binding = .opened link → link.mode = .reset
  | _ => True

def Calm (w : Hosted Bus Handle) : List Event → Prop
  | [] => True
  | e :: events => e.Calm w ∧ Calm (e.step w) events

lemma Modes.event (h : Modes R w) (e : Event)
    (hR : ∀ mode code, Agree mode code → R mode code)
    (hreset : e.Calm w ∨ ∀ mode, R mode 0) : Modes R (e.step w) := by
  cases e with
  | attach device =>
    intro link hl
    obtain ⟨d, hd, hmode⟩ := h link hl
    exact ⟨d, device?_attach hd device, hmode⟩
  | failEnumeration on => exact h
  | tweak device t => exact h.tweak device t
  | call c =>
    refine c.modes hR ?_ h
    intro hresets link hl
    rcases hreset with hcalm | hzero
    · rw [hcalm hresets link hl]
      exact hR .reset 0 rfl
    · exact hzero link.mode

lemma Modes.trail (h : Modes Trail w) (events : List Event) : Modes Trail (play w events) := by
  induction events generalizing w with
  | nil => exact h
  | cons e events ih => exact ih (h.event e (fun _ _ => .inl) (.inr fun _ => .inr rfl))

lemma Modes.agree (h : Modes Agree w) {events : List Event} (hcalm : Calm w events) :
    Modes Agree (play w events) := by
  induction events generalizing w with
  | nil => exact h
  | cons e events ih => exact ih (h.event e (fun _ _ hagree => hagree) (.inl hcalm.1)) hcalm.2

lemma modes_created {o : Options} {s : Session Handle} (hs : create o = .ok s) (host : Host Bus) :
    Modes R { host with session := s } := by
  intro link hl
  rw [create_closed hs] at hl
  cases hl

end Runs

/-- While a session is opened, its device is in the mode of the session or has been reset behind it.
Selecting a mode or opening again brings the two together. -/
theorem mode_followed {o : Options} {s : Session Handle} (hs : create o = .ok s) (host : Host Bus)
    (events : List Event) {w : Hosted Bus Handle}
    (hw : play { host with session := s } events = w) :
    Modes Trail w ∧
    (Calm { host with session := s } events → Modes Agree w) ∧
    (∀ more : List Event, Modes Agree w → Calm w more → Modes Agree (play w more)) ∧
    (∀ (w' : Hosted Bus Handle) (c : Call DeviceId) (answer : Answer DeviceId),
      c.selectsMode = true ∨ c.opens = true → c.step w = (.ok answer, w') → Modes Agree w') ∧
    ∀ (w' : Hosted Bus Handle) (link : Link Handle) (d : Device) (frame : UInt8),
      w.session.binding = .opened link → w.bus.device? link.handle.device = some d →
      exec (writeBitBang frame) w = (.ok 1, w') →
      ∃ d', w'.bus.device? link.handle.device = some d' ∧
        d'.pins = (if d.mode = 0 then d.pins else Device.merge d.pins d.outputMask frame) ∧
        (Agree link.mode d.mode → d'.pins = Device.merge d.pins d.outputMask frame) := by
  have htrail : Modes Trail w := hw ▸ (modes_created hs host).trail events
  refine ⟨htrail, fun hcalm => hw ▸ (modes_created hs host).agree hcalm, fun more h => h.agree,
    ?selects, ?pins⟩
  case selects =>
    intro w' c answer hc hstep
    rcases c.lands hc htrail with ⟨e, v, hexec, -⟩ | ⟨a, v, hexec, hagree⟩
    · cases hstep.symm.trans hexec
    · cases hstep.symm.trans hexec
      exact hagree
  case pins =>
    intro w' link d frame hl hd hok
    obtain ⟨d', hd', hpins⟩ := pins_of_writeBitBang hl hd hok
    refine ⟨d', hd', hpins, ?_⟩
    intro hagree
    have hstate := (exec_writeBitBang_ok hok).1
    rw [Session.state, hl] at hstate
    have hmode : d.mode ≠ 0 := by
      rw [hagree]
      exact code_ne_zero hstate
    rw [hpins, if_neg hmode]

section Sample

def sampleStart : Hosted Bus Handle := Receive.sample 0 [] .closed

lemma sampleStart_created : create {} = .ok sampleStart.session := rfl

def sampleDriving : Hosted Bus Handle :=
  play sampleStart [.call (.openFirst 0x0403 0x6001), .call (.enableBitBang 0xF0)]

theorem mode_followed_sample :
    Modes Trail (play sampleStart
      [.call (.openFirst 0x0403 0x6001), .call (.enableBitBang 0xFF), .call .reset]) ∧
    Modes Agree sampleDriving ∧
    Modes Agree (play sampleDriving [.call .readPins, .call (.writeBitBang 0x3C)]) ∧
    Modes Agree ((Call.setBitMode 0xFF .mpsse).step sampleDriving).2 ∧
    ∃ d, (exec (writeBitBang 0x3C) sampleDriving).2.bus.device? { place := 0 } = some d ∧
      d.pins = 0x30 := by
  obtain ⟨htrail, -⟩ := mode_followed sampleStart_created sampleStart.toHost
    [.call (.openFirst 0x0403 0x6001), .call (.enableBitBang 0xFF), .call .reset] rfl
  obtain ⟨-, hcalm, hmore, hselected, hframe⟩ :=
    mode_followed sampleStart_created sampleStart.toHost
      [.call (.openFirst 0x0403 0x6001), .call (.enableBitBang 0xF0)] rfl
  have hagree : Modes Agree sampleDriving := hcalm ⟨nofun, nofun, trivial⟩
  refine ⟨htrail, hagree, hmore _ hagree ⟨nofun, nofun, trivial⟩, ?_, ?_⟩
  · exact hselected _ (.setBitMode 0xFF .mpsse) .done (.inl rfl) (Prod.ext (by decide +kernel) rfl)
  · have hmodes : (sampleDriving.session.link?.bind fun l =>
        (sampleDriving.bus.device? l.handle.device).map fun d =>
          (l.handle.device, l.mode, d.mode, d.pins, d.outputMask)) =
        some ({ place := 0 }, .bitBang, 1, 0, 0xF0) := by
      decide +kernel
    obtain ⟨link, hlink, hdevice⟩ := Option.bind_eq_some_iff.mp hmodes
    obtain ⟨d, hd, hpair⟩ := Option.map_eq_some_iff.mp hdevice
    simp only [Prod.mk.injEq] at hpair
    obtain ⟨hplace, hlinkMode, hdeviceMode, hpins, hmask⟩ := hpair
    obtain ⟨d', hd', -, hset⟩ := hframe _ link d 0x3C (link?_eq_some.mp hlink) hd
      (Prod.ext (by decide +kernel) rfl)
    rw [hplace] at hd'
    refine ⟨d', hd', (hset (by rw [Agree, hlinkMode, hdeviceMode]; rfl)).trans ?_⟩
    rw [hpins, hmask]
    decide

theorem reset_parts_modes :
    ¬ ∀ (o : Options) (s : Session Handle) (host : Host Bus) (events : List Event),
      create o = .ok s → Modes Agree (play { host with session := s } events) := by
  intro h
  let w := play sampleStart
    [.call (.openFirst 0x0403 0x6001), .call (.enableBitBang 0xFF), .call .reset]
  have hagree : Modes Agree w := h {} _ sampleStart.toHost _ sampleStart_created
  have hmodes : (w.session.link?.map fun l =>
      (l.mode, (w.bus.device? l.handle.device).map Device.mode)) = some (.bitBang, some 0) := by
    decide +kernel
  obtain ⟨link, hlink, hpair⟩ := Option.map_eq_some_iff.mp hmodes
  obtain ⟨d, hd, hmode⟩ := hagree link (link?_eq_some.mp hlink)
  rw [hd] at hpair
  injection hpair with hlinkMode hdeviceMode
  rw [Agree, hlinkMode, Option.some_inj.mp hdeviceMode] at hmode
  revert hmode
  decide

end Sample

end UsbSerial.Session
