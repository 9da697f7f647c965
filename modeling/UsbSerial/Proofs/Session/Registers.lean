import UsbSerial.Proofs.Session.Effect
import UsbSerial.Proofs.Session.Gating
import UsbSerial.Proofs.Session.Uses
import UsbSerial.Proofs.Sim.Registers

namespace UsbSerial.Session

open Attempt (exec Along bind_ok)
open Relation (ReflTransGen)
open Sim (Bus Device DeviceId Handle Register)

variable {allowed : Use → Prop} {r : Register} {id : DeviceId} {α : Type}

section Sparing

lemma Contact.register {p p' : Probe Bus} (h : Contact allowed p p')
    (hr : ∀ value, ¬ allowed (.controlOut r.request value)) :
    p'.bus.register r id = p.bus.register r id := by
  cases h with
  | enumerate vendor product => exact Sim.leaves_register_enumerate r id vendor product p
  | texts device timeout => exact Sim.leaves_register_texts r id device timeout p
  | claim device channel => exact Sim.leaves_register_claim r id device channel p
  | release handle => exact Sim.leaves_register_release r id handle p
  | controlOut handle request value index timeout hallowed =>
    have hne : request ≠ r.request := by
      rintro rfl
      exact hr value hallowed
    refine (Bus.register_controlOut r id p.bus handle request.code value index timeout).trans ?_
    simp [Request.ofCode?_code, hne]
  | controlIn handle request index length timeout =>
    exact Sim.leaves_register_controlIn r id handle request.code 0 index length timeout p
  | bulkOut handle endpoint data timeout =>
    exact Sim.leaves_register_bulkOut r id handle endpoint data timeout p
  | bulkIn handle endpoint limit timeout =>
    exact Sim.leaves_register_bulkIn r id handle endpoint limit timeout p

lemma register_along {σ ε : Type} {g : σ → Probe Bus} {m : Attempt σ ε α}
    (hm : Along g (Contact allowed) m) (hr : ∀ value, ¬ allowed (.controlOut r.request value))
    (s : σ) : (g (exec m s).2).bus.register r id = (g s).bus.register r id := by
  have hpath := hm s
  generalize g (exec m s).2 = p at hpath ⊢
  induction hpath with
  | refl => rfl
  | tail _ hcontact ih => exact (hcontact.register hr).trans ih

end Sparing

section Setting

variable {w : Hosted (Probe Bus) Handle} {m : Action (Probe Bus) Handle α} {value : UInt16}

def Faced (id : DeviceId) (s : Session Handle) : Prop := s.handle?.map Handle.device = some id
  deriving Decidable

lemma faced_opened {s : Session Handle} {link : Link Handle} (hl : s.binding = .opened link) :
    Faced id s ↔ link.handle.device = id := by
  rw [Faced, handle?_opened hl, Option.map_some, Option.some_inj]

lemma not_faced {s : Session Handle} (h : ∀ l, s.binding ≠ .opened l) : ¬ Faced id s := by
  rw [Faced, handle?_not_opened h]
  exact nofun

def Sets (r : Register) (value : UInt16) (m : Action (Probe Bus) Handle α)
    (w : Hosted (Probe Bus) Handle) : Prop :=
  ∀ id, (exec m w).2.bus.bus.register r id =
    (w.bus.bus.register r id).map fun old =>
      if Faced id w.session ∧ (exec m w).1.isOk then r.set old value else old

lemma Refuses.sets {e : Error} (h : Refuses m w e) : Sets r value m w := by
  intro id
  obtain ⟨log, hexec⟩ := h
  rw [hexec]
  simp [Except.isOk, Except.toBool]

lemma sets_controlOut (operation : Operation) (value index : UInt16) :
    Sets r value (controlOut operation r.request value index) w := by
  by_cases hopened : w.session.state.isOpened = true
  · obtain ⟨link, hl⟩ := state_isOpened hopened
    intro id
    obtain ⟨log, hexec⟩ := exec_controlOut hl operation r.request value index
    have hresult (x : Except Usb.Error Unit) : (x.mapError Error.transport).isOk = x.isOk := by
      cases x <;> rfl
    have hbus := Bus.register_controlOut r id w.bus.bus link.handle r.request.code value index
      w.session.options.writeTimeout
    simp only [Request.ofCode?_code, and_true] at hbus
    simp only [hexec, faced_opened hl, hresult]
    exact hbus
  · have hclosed : w.session.state.isOpened = false := Bool.not_eq_true _ ▸ hopened
    have hrefuses : Refuses (controlOut operation r.request value index) w
        (refusal operation w.session.state) := by
      simp [Refuses, controlOut, exec_link_refused, hclosed]
    exact hrefuses.sets

lemma Sets.tracked (h : Sets r value m w) : Sets r value (tracked m) w := by
  intro id
  have hresult : (exec (Session.tracked m) w).1.isOk = (exec m w).1.isOk := by
    rw [exec_tracked]
    rcases exec m w with ⟨e | a, v⟩ <;> rfl
  rw [bus_tracked, hresult]
  exact h id

lemma exec_done (m : Action (Probe Bus) Handle Unit) (w : Hosted (Probe Bus) Handle) :
    exec (Call.run.done m : Action (Probe Bus) Handle (Answer DeviceId)) w =
      ((exec m w).1.map fun _ => .done, (exec m w).2) := by
  rw [Call.run.done, Attempt.exec_bind]
  rcases exec m w with ⟨e | ⟨⟩, v⟩ <;> rfl

lemma Sets.done {m : Action (Probe Bus) Handle Unit} (h : Sets r value m w) :
    Sets r value (Call.run.done m : Action (Probe Bus) Handle (Answer DeviceId)) w := by
  intro id
  have hresult (x : Except Error Unit) :
      (x.map fun _ => (Answer.done : Answer DeviceId)).isOk = x.isOk := by cases x <;> rfl
  simp only [exec_done, hresult]
  exact h id

lemma sets_setModemLines (operation : Operation) (levels : UInt16) :
    Sets .lines levels (setModemLines operation levels) w := by
  apply Sets.tracked
  intro id
  rw [Attempt.exec_bind, exec_channelIndex]
  exact sets_controlOut (r := .lines) operation levels w.session.options.channel.index id

lemma sets_setLatency (ms : UInt8) : Sets .latency ms.toUInt16 (setLatency ms) w := by
  apply Sets.tracked
  by_cases hms : ms = 0
  · have hrefuses : Refuses (do
        if ms = 0 then throw (.invalidArgument .latencyZero)
        controlOut .setLatency .setLatency ms.toUInt16 (← channelIndex)) w
        (.invalidArgument .latencyZero) := ⟨w.log, by simp [hms]⟩
    exact hrefuses.sets
  · intro id
    simp only [if_neg hms, Attempt.exec_bind, exec_channelIndex]
    exact sets_controlOut (r := .latency) .setLatency ms.toUInt16 w.session.options.channel.index id

end Setting

section Writing

variable {β δ κ : Type} [Transport β δ κ]

def startWriting (image : Eeprom.Image) : Action β κ Unit := do
  let chip := (← link .writeEeprom).chip
  if image.chip ≠ chip then throw (.invalidArgument .imageChip)
  controlOut .writeEeprom .reset Request.resetEngine (← channelIndex)
  controlOut .writeEeprom .setLatency writingLatency (← channelIndex)

def writeWords (image : Eeprom.Image) : Action β κ Unit := do
  image.words.zipIdx.forM fun (value, address) =>
    putMemoryWord .writeEeprom address.toUInt16 value
  note .info s!"wrote {image.size.bytes} byte EEPROM image"

lemma writeEeprom_eq (image : Eeprom.Image) :
    (writeEeprom image : Action β κ Unit) =
      tracked (startWriting image >>= fun _ => writeWords image) := by
  simp only [writeEeprom, startWriting, writeWords, bind_assoc]
  congr 1
  refine bind_congr fun l => ?_
  split <;> simp only [bind_assoc]

lemma uses_writeWords (image : Eeprom.Image) :
    Uses (fun u => ∃ value, u = .controlOut .writeWord value)
      (writeWords image : Action β κ Unit) :=
  (Along.forM (fun word => uses_controlOut _ ⟨word.1, rfl⟩ _) _).bind fun _ => uses_note _ _

lemma sets_startWriting (image : Eeprom.Image) (w : Hosted (Probe Bus) Handle) :
    Sets .latency writingLatency (startWriting image) w := by
  -- The reset that goes before leaves the session opened, and the latency as it is.
  by_cases hopened : w.session.state.isOpened = true
  · obtain ⟨link, hl⟩ := state_isOpened hopened
    by_cases hchip : image.chip = link.chip
    · obtain ⟨log, hreset⟩ := exec_controlOut hl .writeEeprom .reset Request.resetEngine
        w.session.options.channel.index
      have huses : Uses (· = .controlOut .reset Request.resetEngine)
          (controlOut .writeEeprom .reset Request.resetEngine w.session.options.channel.index :
            Action (Probe Bus) Handle Unit) := by
        apply uses_controlOut
        rfl
      have hspared (id : DeviceId) :
          (exec (controlOut .writeEeprom .reset Request.resetEngine
            w.session.options.channel.index) w).2.bus.bus.register .latency id =
            w.bus.bus.register .latency id :=
        register_along huses (by simp [Register.request]) w
      rcases hout : exec (controlOut .writeEeprom .reset Request.resetEngine
        w.session.options.channel.index) w with ⟨e | ⟨⟩, v⟩
      · have hexec : exec (startWriting image) w = (.error e, v) := by
          simp [startWriting, exec_link, hl, hchip, hout]
        intro id
        have hbus := hspared id
        rw [hout] at hbus
        rw [hexec, hbus]
        simp [Except.isOk, Except.toBool]
      · have hexec : exec (startWriting image) w =
            exec (controlOut .writeEeprom .setLatency writingLatency
              v.session.options.channel.index) v := by
          simp [startWriting, exec_link, hl, hchip, hout]
        have hsession : v.session = w.session := by
          rw [hout] at hreset
          exact congrArg (·.2.session) hreset
        intro id
        have hbus := hspared id
        rw [hout] at hbus
        have hsets := sets_controlOut (r := .latency) (w := v) .writeEeprom writingLatency
          v.session.options.channel.index id
        rw [hbus, hsession] at hsets
        rw [hexec, hsession]
        exact hsets
    · have hrefuses : Refuses (startWriting image) w (.invalidArgument .imageChip) :=
        ⟨w.log, by simp [startWriting, exec_link, hl, hchip]⟩
      exact hrefuses.sets
  · exact ((refuses_link (Bool.not_eq_true _ ▸ hopened)).bind _).sets

lemma register_writeEeprom (image : Eeprom.Image) (w : Hosted (Probe Bus) Handle) :
    (exec (writeEeprom image) w).2.bus.bus.register .latency id =
      (w.bus.bus.register .latency id).map fun old =>
        if Faced id w.session ∧ (exec (startWriting image) w).1.isOk
        then Register.set .latency old writingLatency else old := by
  have hsets := sets_startWriting image w id
  rw [writeEeprom_eq, bus_tracked, Attempt.exec_bind]
  rcases hstart : exec (startWriting image) w with ⟨e | ⟨⟩, v⟩
  · rwa [hstart] at hsets
  · rw [hstart] at hsets
    exact (register_along (uses_writeWords image) (by simp [Register.request]) v).trans hsets

end Writing

section Calls

variable {β δ κ : Type} [Transport β δ κ] {value : UInt16}

def Call.setting? (c : Call δ) (r : Register) : Option UInt16 :=
  match r, c with
  | .lines, .setDtr high => some (Line.dtrLevel high)
  | .lines, .setRts high => some (Line.rtsLevel high)
  | .lines, .setDtrRts dtr rts => some (Line.dtrLevel dtr ||| Line.rtsLevel rts)
  | .latency, .setLatency ms => some ms.toUInt16
  | .latency, .writeEeprom _ => some writingLatency
  | _, _ => none

def Call.makes (c : Call δ) (r : Register) (old : UInt8) : UInt8 :=
  (c.setting? r).elim old (r.set old)

def Call.sets (c : Call δ) (w : Hosted β κ) : Bool :=
  match c with
  | .writeEeprom image => (exec (startWriting image) w).1.isOk
  | c => (c.step w).1.isOk

lemma Call.register_spared {c : Call DeviceId} (h : c.setting? r = none)
    (w : Hosted (Probe Bus) Handle) :
    (c.step w).2.bus.bus.register r id = w.bus.bus.register r id := by
  have huses : Uses c.uses (c.run : Action (Probe Bus) Handle (Answer DeviceId)) :=
    c.along fun _ hu => hu
  refine register_along huses (fun value huse => ?_) w
  cases r with
  | lines => cases c <;> simp [Call.setting?, Call.uses, Use.opens, Register.request] at h huse
  | latency => cases c <;> simp [Call.setting?, Call.uses, Use.opens, Register.request] at h huse

lemma Call.register_set {c : Call DeviceId} (h : c.setting? r = some value)
    (w : Hosted (Probe Bus) Handle) (id : DeviceId) :
    (c.step w).2.bus.bus.register r id =
      (w.bus.bus.register r id).map fun old =>
        if Faced id w.session ∧ c.sets w then r.set old value else old := by
  unfold Call.setting? at h
  split at h
  · cases h
    exact (sets_setModemLines _ _).done id
  · cases h
    exact (sets_setModemLines _ _).done id
  · cases h
    exact (sets_setModemLines _ _).done id
  · cases h
    exact (sets_setLatency _).done id
  · cases h
    rw [Call.step, Call.run, exec_done]
    exact register_writeEeprom _ w
  · cases h

theorem Call.register_step (c : Call DeviceId) (w : Hosted (Probe Bus) Handle) (id : DeviceId) :
    (c.step w).2.bus.bus.register r id =
      (w.bus.bus.register r id).map fun old =>
        if Faced id w.session ∧ c.sets w then c.makes r old else old := by
  unfold Call.makes
  cases h : c.setting? r with
  | none =>
    rw [Call.register_spared h]
    simp
  | some value => exact Call.register_set h w id

end Calls

section Parts

variable {δ : Type}

def Call.dtr? : Call δ → Option Bool
  | .setDtr high | .setDtrRts high _ => some high
  | _ => none

def Call.rts? : Call δ → Option Bool
  | .setRts high | .setDtrRts _ high => some high
  | _ => none

def Call.line? (i : ℕ) (c : Call δ) : Option Bool :=
  match i with
  | 0 => c.dtr?
  | 1 => c.rts?
  | _ => none

def Call.latency? : Call δ → Option UInt8
  | .setLatency ms => some ms
  | .writeEeprom _ => some 0x77
  | _ => none

lemma getLsbD_flag_one (b : Bool) (i : ℕ) :
    (flag 1 b).toBitVec.getLsbD i = (b && decide (0 = i)) := by
  cases b with
  | true => exact BitVec.getLsbD_twoPow (w := 8) 0 i
  | false => simp [flag]

lemma getLsbD_flag_two (b : Bool) (i : ℕ) :
    (flag 2 b).toBitVec.getLsbD i = (b && decide (1 = i)) := by
  cases b with
  | true => exact BitVec.getLsbD_twoPow (w := 8) 1 i
  | false => simp [flag]

lemma dtrLevel_bytes (high : Bool) :
    Word.high (Line.dtrLevel high) = flag 1 true ∧ Word.low (Line.dtrLevel high) = flag 1 high := by
  cases high <;> decide

lemma rtsLevel_bytes (high : Bool) :
    Word.high (Line.rtsLevel high) = flag 2 true ∧ Word.low (Line.rtsLevel high) = flag 2 high := by
  cases high <;> decide

lemma levels_bytes (dtr rts : Bool) :
    Word.high (Line.dtrLevel dtr ||| Line.rtsLevel rts) = flag 1 true ||| flag 2 true ∧
      Word.low (Line.dtrLevel dtr ||| Line.rtsLevel rts) = flag 1 dtr ||| flag 2 rts := by
  cases dtr <;> cases rts <;> decide

lemma getLsbD_makes (c : Call δ) (old : UInt8) (i : ℕ) :
    (c.makes .lines old).toBitVec.getLsbD i = (c.line? i).getD (old.toBitVec.getLsbD i) := by
  cases c with
  | setDtr high =>
    obtain ⟨hmask, hlevel⟩ := dtrLevel_bytes high
    simp only [Call.makes, Call.setting?, Option.elim_some, Register.set, hmask, hlevel,
      Register.getLsbD_merge, getLsbD_flag_one]
    rcases i with _ | _ | i <;> simp [Call.line?, Call.dtr?, Call.rts?]
  | setRts high =>
    obtain ⟨hmask, hlevel⟩ := rtsLevel_bytes high
    simp only [Call.makes, Call.setting?, Option.elim_some, Register.set, hmask, hlevel,
      Register.getLsbD_merge, getLsbD_flag_two]
    rcases i with _ | _ | i <;> simp [Call.line?, Call.dtr?, Call.rts?]
  | setDtrRts dtr rts =>
    obtain ⟨hmask, hlevel⟩ := levels_bytes dtr rts
    simp only [Call.makes, Call.setting?, Option.elim_some, Register.set, hmask, hlevel,
      Register.getLsbD_merge, UInt8.toBitVec_or, BitVec.getLsbD_or, getLsbD_flag_one,
      getLsbD_flag_two]
    rcases i with _ | _ | i <;> simp [Call.line?, Call.dtr?, Call.rts?]
  | _ => rcases i with _ | _ | i <;> rfl

lemma makes_latency (c : Call δ) (old : UInt8) :
    c.makes .latency old = c.latency?.getD old := by
  cases c with
  | setLatency ms =>
    simp [Call.makes, Call.setting?, Call.latency?, Register.set, Word.low]
  | _ => rfl

end Parts

section Reading

variable {w w' : Hosted (Probe Bus) Handle}

lemma prefix_of_controlIn {β δ κ : Type} [Transport β δ κ] {handle : κ} {request : UInt8}
    {value index length : UInt16} {timeout : Duration} {p p' : Probe β} {data : List UInt8}
    (h : exec (Transport.controlIn handle request value index length timeout) p = (.ok data, p')) :
    ∃ whole, (exec (Transport.controlIn handle request value index length timeout) p.bus).1 =
      .ok whole ∧ data <+: whole := by
  change exec (Probe.controlIn handle request value index length timeout) p = _ at h
  obtain ⟨⟨⟩, u, hsee, hpass⟩ := bind_ok h
  cases hsee
  obtain ⟨whole, v, hwhole, hrest⟩ := bind_ok hpass
  refine ⟨whole, congrArg Prod.fst hwhole, ?_⟩
  cases hlimits : v.replyLimits with
  | nil =>
    simp only [Attempt.exec_bind, Attempt.exec_get, hlimits, Attempt.exec_pure] at hrest
    cases hrest
    exact List.prefix_rfl
  | cons limit rest =>
    simp only [Attempt.exec_bind, Attempt.exec_get, hlimits, Attempt.exec_set,
      Attempt.exec_pure] at hrest
    cases hrest
    exact List.take_prefix limit whole

lemma controlIn_ok {operation : Operation} {request : Request} {index length : UInt16}
    {reply : Reply length.toNat} {link : Link Handle} (hl : w.session.binding = .opened link)
    (h : exec (controlIn operation request index length) w = (.ok reply, w')) :
    ∃ p, exec (Transport.controlIn link.handle request.code 0 index length
      w.session.options.readTimeout) w.bus = (.ok reply.val, p) := by
  rcases hin : exec (Transport.controlIn link.handle request.code 0 index length
    w.session.options.readTimeout) w.bus with ⟨e | data, p⟩
  · simp [controlIn, exec_link, hl, hin] at h
  · by_cases hlength : length.toNat ≤ data.length
    · simp only [controlIn, Attempt.exec_bind, exec_session, exec_link, hl, exec_onHost,
        Host.exec_call, hin, Host.mapError_ok, exec_note, dif_pos hlength, Attempt.exec_pure] at h
      cases h
      exact ⟨p, rfl⟩
    · simp [controlIn, exec_link, hl, hin, hlength] at h

lemma whole_latency {handle : Handle} {index : UInt16} {timeout : Duration} {bus : Bus}
    {whole : List UInt8}
    (h : (exec (Transport.controlIn handle Request.latency.code 0 index 1 timeout) bus).1 =
      .ok whole) :
    ∃ d, bus.device? handle.device = some d ∧ whole = [d.latency] := by
  rcases hin : exec (Transport.controlIn handle Request.latency.code 0 index 1 timeout) bus
    with ⟨r, bus'⟩
  rw [hin] at h
  cases h
  obtain ⟨d, d', hd, hdevice, -⟩ := Bus.on_ok hin
  refine ⟨d, hd, ?_⟩
  have hreply : d.reply { request := Request.latency.code, value := 0, index } =
      .ok [d.latency] := by simp [Device.reply, Request.ofCode?_code]
  rcases Device.exec_controlIn { request := Request.latency.code, value := 0, index } 1 timeout d
    with ⟨e, u, hfailed, -⟩ | hanswered
  · cases hfailed.symm.trans hdevice
  · rw [hreply] at hanswered
    cases hanswered.symm.trans hdevice
    rfl

lemma latency_reads (hfaced : Faced id w.session) {answer : Answer DeviceId}
    (h : (Call.latency : Call DeviceId).step w = (.ok answer, w')) :
    (w.bus.bus.register .latency id).map Answer.byte = some answer := by
  -- The reply is the byte of the latency; a probe can only cut it, and then it is too short.
  cases hbinding : w.session.binding with
  | opened link =>
    rw [faced_opened hbinding] at hfaced
    obtain ⟨b, hlatency, rfl⟩ : ∃ b, exec latency w = (.ok b, w') ∧ Answer.byte b = answer := by
      rw [Call.step, Call.run, Attempt.exec_map] at h
      rcases hexec : exec latency w with ⟨e | b, v⟩
      · rw [hexec] at h
        cases h
      · rw [hexec] at h
        cases h
        exact ⟨b, rfl, rfl⟩
    obtain ⟨index, u, hindex, hquery⟩ := bind_ok (tracked_ok hlatency)
    rw [exec_channelIndex] at hindex
    cases hindex
    obtain ⟨reply, v, hreply, hpure⟩ := bind_ok hquery
    rw [Attempt.exec_pure] at hpure
    cases hpure
    obtain ⟨p, hin⟩ := controlIn_ok hbinding hreply
    obtain ⟨whole, hwhole, hprefix⟩ := prefix_of_controlIn hin
    obtain ⟨d, hd, rfl⟩ := whole_latency hwhole
    obtain ⟨data, hlength⟩ := reply
    obtain rfl : data = [d.latency] := hprefix.eq_of_length_le hlength
    rw [Bus.register, ← hfaced, hd]
    rfl
  | _ => exact absurd hfaced (not_faced (by simp [hbinding]))

end Reading

end UsbSerial.Session
