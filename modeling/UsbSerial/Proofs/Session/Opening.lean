import UsbSerial.Proofs.Attempt
import UsbSerial.Proofs.Session.Action
import UsbSerial.Session.Opening

namespace UsbSerial.Session

open Attempt (exec bind_ok)

variable {β δ κ α : Type} [Transport β δ κ] {w w' : Hosted β κ}

lemma tracked_ok {m : Action β κ α} {a : α} (h : exec (tracked m) w = (.ok a, w')) :
    exec m w = (.ok a, w') := by
  rw [exec_tracked] at h
  rcases hm : exec m w with ⟨e | b, v⟩
  · rw [hm] at h
    cases h
  · rw [hm] at h
    exact h

lemma exec_detach {l : Link κ} (hl : w.session.binding = .opened l) :
    ∃ entries, exec detach w =
      (.ok (),
        { w with
          bus := (exec (Transport.release l.handle) w.bus).2
          log := w.log ++ entries
          session.binding := .closed }) := by
  rcases hrelease : exec (Transport.release l.handle) w.bus with ⟨e | ⟨⟩, bus⟩
  · exact ⟨[{ level := .warn, text := s!"releasing device failed: {e.text}" }],
      by simp [detach, hl, hrelease]⟩
  · exact ⟨[], by simp [detach, hl, hrelease]⟩

lemma orDetach_ok {cause : Error → Error} {step : Action β κ Unit}
    (h : exec (orDetach cause step) w = (.ok (), w')) : exec step w = (.ok (), w') := by
  rw [orDetach, Attempt.exec_tryCatch] at h
  rcases hstep : exec step w with ⟨e | ⟨⟩, v⟩
  · rw [hstep] at h
    obtain ⟨_, _, -, hthrow⟩ := bind_ok h
    rw [Attempt.exec_throw] at hthrow
    cases hthrow
  · rw [hstep] at h
    exact h

lemma programBaudRate_ok {rate : UInt32} (h : exec (programBaudRate rate) w = (.ok (), w')) :
    ∃ value index v log, exec (controlOut .setBaudRate .baudRate value index) w = (.ok (), v) ∧
      w' = { v with log, session := v.session.mapLink fun l => { l with baudRate := rate } } := by
  obtain ⟨link, w₁, hlink, hafter⟩ := bind_ok h
  have hw : w₁ = w := by
    rw [exec_link] at hlink
    split at hlink
    all_goals
      cases hlink
      try rfl
  subst hw
  simp only [Attempt.exec_bind, exec_session, Attempt.exec_liftM] at hafter
  rcases hsetting : baudSetting link.chip link.mode w₁.session.options.channel rate with e | setting
  · rw [hsetting] at hafter
    cases hafter
  rw [hsetting] at hafter
  rcases hout : exec (controlOut .setBaudRate .baudRate setting.value setting.index) w₁
    with ⟨e | ⟨⟩, v⟩
  · simp only [hout] at hafter
    cases hafter
  · simp only [hout, modifyLink, exec_modifySession, exec_note] at hafter
    cases hafter
    exact ⟨setting.value, setting.index, v, _, hout, rfl⟩

def start : Action β κ Unit := do
  orDetach .notReset resetEngine
  orDetach .noDefaultBaudRate (programBaudRate defaultBaudRate)

lemma exec_claim (device : δ) (w : Hosted β κ) :
    exec (claim device) w =
      match exec (Transport.claim device w.session.options.channel.number) w.bus with
      | (.ok c, bus) => (.ok c, { w with bus, log := w.log ++ c.notes })
      | (.error e, bus) => (.error (claimFault e), { w with bus }) := by
  rcases hclaim : exec (Transport.claim device w.session.options.channel.number) w.bus
    with ⟨e | c, bus⟩
  · simp [claim, hclaim]
  · simp [claim, hclaim]

lemma exec_attach {device : δ} {c : Usb.Claim κ} {bus : β}
    (hclaim : exec (Transport.claim device w.session.options.channel.number) w.bus = (.ok c, bus)) :
    ∃ u entries, exec (attach device) w = exec start u ∧
      u =
        { w with
          bus
          log := w.log ++ entries
          session.binding := .opened
            { handle := c.handle
              chip := Chip.detect c.facts.release c.facts.hasSerial
              packetBytes := c.facts.packetBytes } } := by
  have hok : exec (claim device) w = (.ok c, { w with bus, log := w.log ++ c.notes }) := by
    rw [exec_claim, hclaim]
  rw [attach, Attempt.exec_bind, hok]
  dsimp only
  rw [Attempt.exec_bind, exec_session]
  dsimp only
  rw [Attempt.exec_bind, exec_note]
  dsimp only
  rw [Attempt.exec_bind, exec_modifySession]
  dsimp only
  rw [List.append_assoc]
  exact ⟨_, _, rfl, rfl⟩

lemma exec_attach_refused {device : δ} {e : Usb.Error} {bus : β}
    (hclaim : exec (Transport.claim device w.session.options.channel.number) w.bus =
      (.error e, bus)) :
    exec (attach device) w = (.error (claimFault e), { w with bus }) := by
  rw [attach, Attempt.exec_bind, exec_claim, hclaim]

lemma attach_ok {device : δ} (h : exec (attach device) w = (.ok (), w')) :
    ∃ c l u v,
      exec (Transport.claim device w.session.options.channel.number) w.bus = (.ok c, u.bus) ∧
      u.session.binding = .opened l ∧ l.handle = c.handle ∧ l.packetBytes = c.facts.packetBytes ∧
      exec resetEngine u = (.ok (), v) ∧
      exec (programBaudRate defaultBaudRate) v = (.ok (), w') := by
  rcases hclaim : exec (Transport.claim device w.session.options.channel.number) w.bus
    with ⟨e | c, bus⟩
  · rw [exec_attach_refused hclaim] at h
    cases h
  · obtain ⟨u, entries, hexec, hu⟩ := exec_attach hclaim
    rw [hexec] at h
    obtain ⟨⟨⟩, v, hreset, hbaud⟩ := bind_ok h
    exact ⟨c, _, u, v, by rw [hu], by rw [hu], rfl, rfl, orDetach_ok hreset, orDetach_ok hbaud⟩

lemma exec_beginOpening (h : w.session.binding = .closed) :
    exec beginOpening w = (.ok (), { w with session.lastError := none }) := by
  simp [beginOpening, exec_require, Session.state, h]

lemma beginOpening_ok (h : exec beginOpening w = (.ok (), w')) :
    w.session.binding = .closed ∧ w' = { w with session.lastError := none } := by
  cases hbinding : w.session.binding with
  | closed =>
    rw [exec_beginOpening hbinding] at h
    cases h
    exact ⟨rfl, rfl⟩
  | opened link => simp [beginOpening, require, Session.state, hbinding] at h
  | destroyed => simp [beginOpening, require, Session.state, hbinding] at h

lemma openMatching_ok {filter : Device.Filter} (h : exec (openMatching filter) w = (.ok (), w')) :
    w.session.binding = .closed ∧ ∃ device v,
      exec (Device.find w.session.options filter) w.toHost = (.ok device, v.toHost) ∧
      v.session = { w.session with lastError := none } ∧
      exec (attach device) v = (.ok (), w') := by
  obtain ⟨⟨⟩, w₁, hbegin, h⟩ := bind_ok (tracked_ok h)
  obtain ⟨hclosed, rfl⟩ := beginOpening_ok hbegin
  obtain ⟨s, w₂, hsession, h⟩ := bind_ok h
  rw [exec_session] at hsession
  cases hsession
  obtain ⟨device, w₃, hfind, h⟩ := bind_ok h
  rw [exec_onHost] at hfind
  injection hfind with hdevice hw
  refine ⟨hclosed, device, w₃, ?_, by rw [← hw], h⟩
  rw [← hw]
  exact Prod.ext hdevice rfl

lemma openFound_ok {descriptor : Device.Descriptor δ}
    (h : exec (openFound descriptor) w = (.ok (), w')) :
    w.session.binding = .closed ∧ exec (attach descriptor.device)
      { w with session.lastError := none } = (.ok (), w') := by
  obtain ⟨⟨⟩, w₁, hbegin, h⟩ := bind_ok (tracked_ok h)
  obtain ⟨hclosed, rfl⟩ := beginOpening_ok hbegin
  exact ⟨hclosed, h⟩

end UsbSerial.Session
