import UsbSerial.Proofs.Session.Failure
import UsbSerial.Proofs.Sim.Claims
import UsbSerial.Proofs.Sim.Search

namespace UsbSerial.Session

open Attempt (exec)
open Sim (Bus Device DeviceId Handle)

section Steps

variable {β δ κ : Type} [Transport β δ κ] {w v : Hosted β κ} {l : Link κ} {bus : β}

lemma exec_orDetach_ok {cause : Error → Error} {step : Action β κ Unit}
    (h : exec step w = (.ok (), v)) : exec (orDetach cause step) w = (.ok (), v) := by
  rw [orDetach, Attempt.exec_tryCatch, h]

lemma exec_orDetach_error (cause : Error → Error) {step : Action β κ Unit} {e : Error}
    (h : exec step w = (.error e, v)) (hl : v.session.binding = .opened l) :
    ∃ u, exec (orDetach cause step) w = (.error (cause e), u) ∧
      u.bus = (exec (Transport.release l.handle) v.bus).2 := by
  obtain ⟨entries, hdetach⟩ := exec_detach hl
  rw [orDetach, Attempt.exec_tryCatch, h]
  dsimp only
  rw [Attempt.exec_bind, hdetach]
  exact ⟨_, rfl, rfl⟩

lemma exec_resetEngine {r : Except Usb.Error Unit} (hl : w.session.binding = .opened l)
    (hout : exec (Transport.controlOut l.handle Request.reset.code Request.resetEngine
      w.session.options.channel.index w.session.options.writeTimeout) w.bus = (r, bus)) :
    ∃ v l', exec resetEngine w = (r.mapError .transport, v) ∧ v.bus = bus ∧
      v.session = { w.session with binding := .opened l' } ∧ l'.handle = l.handle ∧
      l'.chip = l.chip ∧ l'.mode = l.mode := by
  obtain ⟨log, hexec⟩ := exec_controlOut hl .reset .reset Request.resetEngine
    w.session.options.channel.index
  rw [hout] at hexec
  rw [resetEngine, Attempt.exec_bind, exec_channelIndex]
  dsimp only
  rw [Attempt.exec_bind, hexec]
  cases r with
  | error e => exact ⟨_, l, rfl, rfl, by rw [← hl], rfl, rfl, rfl⟩
  | ok a =>
    refine ⟨_, { l with leftover := {} }, rfl, rfl, ?_, rfl, rfl, rfl⟩
    exact mapLink_opened hl _

lemma exec_programBaudRate {rate : UInt32} {s : Baud.Setting} {r : Except Usb.Error Unit}
    (hl : w.session.binding = .opened l)
    (hsetting : baudSetting l.chip l.mode w.session.options.channel rate = .ok s)
    (hout : exec (Transport.controlOut l.handle Request.baudRate.code s.value s.index
      w.session.options.writeTimeout) w.bus = (r, bus)) :
    ∃ v l', exec (programBaudRate rate) w = (r.mapError .transport, v) ∧ v.bus = bus ∧
      v.session.binding = .opened l' ∧ l'.handle = l.handle ∧
      (r = .ok () → l'.baudRate = rate) := by
  obtain ⟨log, hexec⟩ := exec_controlOut hl .setBaudRate .baudRate s.value s.index
  rw [hout] at hexec
  have hlink : exec (link .setBaudRate) w = (.ok l, w) := by rw [exec_link, hl]
  rw [programBaudRate, Attempt.exec_bind, hlink]
  simp only [Attempt.exec_bind, exec_session, Attempt.exec_liftM, hsetting, hexec]
  cases r with
  | error e => exact ⟨_, l, rfl, rfl, hl, rfl, nofun⟩
  | ok a =>
    simp only [Host.mapError_ok, modifyLink, exec_modifySession, exec_note]
    refine ⟨_, { l with baudRate := rate }, rfl, rfl, ?_, rfl, fun _ => rfl⟩
    rw [mapLink_opened hl]

end Steps

section Start

variable {w : Hosted Bus Handle} {l : Link Handle} {d : Device}

lemma exec_request (hd : w.bus.device? l.handle.device = some d) (request : Request)
    (value index : UInt16) (timeout : Duration) :
    exec (Transport.controlOut l.handle request.code value index timeout) w.bus =
      ((exec (Device.controlOut { request := request.code, value, index } timeout) d).1,
        w.bus.update l.handle.device fun _ =>
          (exec (Device.controlOut { request := request.code, value, index } timeout) d).2) :=
  Bus.exec_on hd _

lemma taken_request (h : Handle) (request : Request) (value index : UInt16) (timeout : Duration)
    (bus : Bus) :
    (exec (Transport.controlOut h request.code value index timeout) bus).2.taken = bus.taken :=
  Bus.taken_on (Device.fixed_controlOut _ _) bus h.device

lemma default_setting (chip : Chip) (channel : Channel) :
    ∃ s, Baud.setting? chip channel.index 9600 = some s ∧ Baud.close s.actual 9600 ∧
      baudSetting chip .reset channel defaultBaudRate = .ok s := by
  cases chip <;> cases channel <;> exact ⟨_, rfl, by decide, rfl⟩

def TakenWithout (bus : Bus) (h : Handle) (bus' : Bus) : Prop :=
  ∀ id channel, bus'.taken id channel =
    if h.device = id ∧ h.channel = channel then false else bus.taken id channel

lemma orDetach_without (cause : Error → Error) {v : Hosted Bus Handle} {bus : Bus}
    {step : Action Bus Handle Unit} {e : Error} (h : exec step w = (.error e, v))
    (hl : v.session.binding = .opened l) (htaken : v.bus.taken = bus.taken) :
    ∃ u, exec (orDetach cause step) w = (.error (cause e), u) ∧
      TakenWithout bus l.handle u.bus := by
  obtain ⟨u, hexec, hbus⟩ := exec_orDetach_error cause h hl
  refine ⟨u, hexec, fun id channel => ?_⟩
  have hfree : u.bus = v.bus.free l.handle := hbus
  rw [hfree, Bus.taken_free, htaken]

lemma start_not_reset (hl : w.session.binding = .opened l)
    (hd : w.bus.device? l.handle.device = some d) (hconnected : d.disconnected = false)
    (hfault : d.failing ≠ 0 ∨ d.failingRequest = some Request.reset.code) :
    ∃ u, exec start w =
        (.error (.notReset (.transport (.timeout w.session.options.writeTimeout))), u) ∧
      TakenWithout w.bus l.handle u.bus := by
  have hout := exec_request hd .reset Request.resetEngine w.session.options.channel.index
    w.session.options.writeTimeout
  have htaken := taken_request l.handle .reset Request.resetEngine w.session.options.channel.index
    w.session.options.writeTimeout w.bus
  rw [Device.controlOut_refused hconnected hfault] at hout
  obtain ⟨v, l', hexec, hbus, hsession, hhandle, -, -⟩ := exec_resetEngine hl hout
  rw [hout, ← hbus] at htaken
  obtain ⟨u, hstep, hwithout⟩ := orDetach_without .notReset hexec
    (by rw [hsession]) htaken
  rw [hhandle] at hwithout
  refine ⟨u, ?_, hwithout⟩
  rw [start, Attempt.exec_bind, hstep]

def resetControl (channel : Channel) : Sim.Control where
  request := Request.reset.code
  value := Request.resetEngine
  index := channel.index

def rateControl (s : Baud.Setting) : Sim.Control where
  request := Request.baudRate.code
  value := s.value
  index := s.index

def wasReset (channel : Channel) (d : Device) : Device :=
  { d with controls := d.controls ++ [resetControl channel], queue := [], mode := 0 }

def wasRated (s : Baud.Setting) (d : Device) : Device :=
  { d with controls := d.controls ++ [rateControl s] }

lemma reset_granted (hl : w.session.binding = .opened l)
    (hd : w.bus.device? l.handle.device = some d) (hconnected : d.disconnected = false)
    (hfailing : d.failing = 0) (hrequest : d.failingRequest ≠ some Request.reset.code) :
    ∃ v l', exec resetEngine w = (.ok (), v) ∧
      v.session = { w.session with binding := .opened l' } ∧ l'.handle = l.handle ∧
      l'.chip = l.chip ∧ l'.mode = l.mode ∧
      v.bus = w.bus.update l.handle.device
        fun _ => wasReset w.session.options.channel d := by
  have hout := exec_request hd .reset Request.resetEngine w.session.options.channel.index
    w.session.options.writeTimeout
  rw [Device.controlOut_granted hconnected hfailing hrequest] at hout
  obtain ⟨v, l', hexec, hbus, hsession, hhandle, hchip, hmode⟩ := exec_resetEngine hl hout
  exact ⟨v, l', hexec, hsession, hhandle, hchip, hmode, hbus⟩

lemma start_rated (hl : w.session.binding = .opened l) (hmode : l.mode = .reset)
    (hd : w.bus.device? l.handle.device = some d) (hconnected : d.disconnected = false)
    (hfailing : d.failing = 0) (hrequest : d.failingRequest ≠ some Request.reset.code) :
    ∃ s v v' l' r d',
      Baud.setting? l.chip w.session.options.channel.index 9600 = some s ∧
      Baud.close s.actual 9600 ∧
      exec (Device.controlOut (rateControl s) w.session.options.writeTimeout)
        (wasReset w.session.options.channel d) = (r, d') ∧
      exec start w = exec (orDetach .noDefaultBaudRate (programBaudRate defaultBaudRate)) v ∧
      exec (programBaudRate defaultBaudRate) v = (r.mapError .transport, v') ∧
      v'.session.binding = .opened l' ∧ l'.handle = l.handle ∧ v'.bus.taken = w.bus.taken ∧
      v'.bus = (w.bus.update l.handle.device
        fun _ => wasReset w.session.options.channel d).update l.handle.device fun _ => d' := by
  -- After the reset, it is the request for the rate that decides.
  obtain ⟨v, l', hreset, hsession, hhandle, hchip, hmode', hbus⟩ :=
    reset_granted hl hd hconnected hfailing hrequest
  have hl' : v.session.binding = .opened l' := by rw [hsession]
  have hoptions : v.session.options = w.session.options := by rw [hsession]
  obtain ⟨s, hsome, hclose, hsetting⟩ := default_setting l.chip w.session.options.channel
  rw [← hmode, ← hmode', ← hchip, ← hoptions] at hsetting
  have hd' : v.bus.device? l'.handle.device =
      some (wasReset w.session.options.channel d) := by
    rw [hbus, hhandle, Bus.device?_update, if_pos rfl, hd, Option.map_some]
  have htaken := taken_request l'.handle .baudRate s.value s.index v.session.options.writeTimeout
    v.bus
  rcases hdevice : exec (Device.controlOut (rateControl s) v.session.options.writeTimeout)
    (wasReset w.session.options.channel d) with ⟨r, d'⟩
  have hout : exec (Transport.controlOut l'.handle Request.baudRate.code s.value s.index
      v.session.options.writeTimeout) v.bus = (r, v.bus.update l'.handle.device fun _ => d') := by
    rw [exec_request hd' .baudRate, ← rateControl, hdevice]
  obtain ⟨v', l'', hexec, hbus', hl'', hhandle', -⟩ := exec_programBaudRate hl' hsetting hout
  rw [hout, ← hbus', hbus, Bus.taken_same fun d₁ hd₁ => by cases hd.symm.trans hd₁; rfl] at htaken
  rw [hhandle, hbus] at hbus'
  rw [hoptions] at hdevice
  refine ⟨s, v, v', l'', r, d', hsome, hclose, hdevice, ?_, hexec, hl'', hhandle'.trans hhandle,
    htaken, hbus'⟩
  rw [start, Attempt.exec_bind, exec_orDetach_ok hreset]

lemma start_not_rated (hl : w.session.binding = .opened l) (hmode : l.mode = .reset)
    (hd : w.bus.device? l.handle.device = some d) (hconnected : d.disconnected = false)
    (hfailing : d.failing = 0) (hrequest : d.failingRequest = some Request.baudRate.code) :
    ∃ u, exec start w =
        (.error (.noDefaultBaudRate (.transport (.timeout w.session.options.writeTimeout))), u) ∧
      TakenWithout w.bus l.handle u.bus := by
  have hother : d.failingRequest ≠ some Request.reset.code := by
    rw [hrequest]
    decide
  obtain ⟨s, v, v', l', r, d', -, -, hdevice, hstart, hexec, hl', hhandle, htaken, -⟩ :=
    start_rated hl hmode hd hconnected hfailing hother
  have hrefused := congrArg Prod.fst hdevice
  rw [Device.controlOut_refused (c := rateControl s) (d := wasReset _ d) hconnected
    (.inr hrequest)] at hrefused
  obtain rfl : Except.error _ = r := hrefused
  obtain ⟨u, hstep, hwithout⟩ := orDetach_without .noDefaultBaudRate hexec hl' htaken
  rw [hhandle] at hwithout
  exact ⟨u, hstart.trans hstep, hwithout⟩

lemma start_done (hl : w.session.binding = .opened l) (hmode : l.mode = .reset)
    (hd : w.bus.device? l.handle.device = some d) (hconnected : d.disconnected = false)
    (hfailing : d.failing = 0) (hreset : d.failingRequest ≠ some Request.reset.code)
    (hrate : d.failingRequest ≠ some Request.baudRate.code) :
    ∃ s u, Baud.setting? l.chip w.session.options.channel.index 9600 = some s ∧
      Baud.close s.actual 9600 ∧ exec start w = (.ok (), u) ∧
      u.bus = w.bus.update l.handle.device
        fun _ => wasRated s (wasReset w.session.options.channel d) := by
  obtain ⟨s, v, v', l', r, d', hsome, hclose, hdevice, hstart, hexec, -, -, -, hbus⟩ :=
    start_rated hl hmode hd hconnected hfailing hreset
  rw [Device.controlOut_granted (c := rateControl s) (d := wasReset _ d) hconnected hfailing
    hrate] at hdevice
  cases hdevice
  refine ⟨s, v', hsome, hclose, ?_, ?_⟩
  · rw [hstart, exec_orDetach_ok hexec]
  · rw [hbus, Bus.update_put]
    rfl

end Start

section Claim

variable {w : Hosted Bus Handle} {id : DeviceId} {d : Device} {channel : UInt8}

def wasClaimed (channel : UInt8) (d : Device) : Device :=
  { d with claimed := d.claimed.setIfInBounds channel.toNat true }

lemma claim_granted {bus : Bus} (hd : bus.device? id = some d)
    (hconnected : d.disconnected = false) (hchannel : ¬ d.chip.channels ≤ channel.toNat)
    (hfree : ¬ d.claimed.getD channel.toNat false = true) :
    exec (Transport.claim id channel) bus =
      (.ok
        { handle := { device := id, channel, facts := d.facts }
          facts := d.facts
          notes := [Bus.claimNote id channel] },
        bus.update id fun _ => wasClaimed channel d) := by
  have hdevice : exec (Device.claim channel) d = (.ok d.facts, wasClaimed channel d) := by
    rw [Device.exec_claim, if_neg (Bool.eq_false_iff.mp hconnected), if_neg hchannel, if_neg hfree]
    rfl
  have hclaim : exec (Transport.claim id channel) bus = exec (Bus.claim id channel) bus := rfl
  rw [hclaim, Bus.claim, Attempt.exec_bind, Bus.exec_on hd, hdevice]
  rfl

lemma attach_refused {e : Usb.Error} (hd : w.bus.device? id = some d)
    (h : exec (Device.claim w.session.options.channel.number) d = (.error e, d)) :
    ∃ v, exec (attach id) w = (.error (claimFault e), v) ∧ v.bus.taken = w.bus.taken := by
  have hclaim : exec (Bus.claim id w.session.options.channel.number) w.bus =
      (.error e, w.bus.update id fun _ => d) := by
    rw [Bus.claim, Attempt.exec_bind, Bus.exec_on hd, h]
  exact ⟨_, exec_attach_refused hclaim, Bus.taken_claim_error hclaim⟩

lemma taken_back {bus bus₁ bus₂ : Bus} {c : Usb.Claim Handle}
    (hclaim : exec (Bus.claim id channel) bus = (.ok c, bus₁))
    (hwithout : TakenWithout bus₁ c.handle bus₂) : bus₂.taken = bus.taken := by
  obtain ⟨hdevice, hchannel, hfree, htaken⟩ := Bus.taken_claim_ok hclaim
  funext id' channel'
  rw [hwithout, hdevice, hchannel, htaken]
  split
  · rename_i hpair
    rw [← hpair.1, ← hpair.2, hfree]
  · rfl

lemma attach_granted (hd : w.bus.device? id = some d) (hconnected : d.disconnected = false)
    (hchannel : ¬ d.chip.channels ≤ w.session.options.channel.number.toNat)
    (hfree : ¬ d.claimed.getD w.session.options.channel.number.toNat false = true) :
    ∃ u, exec (attach id) w = exec start u ∧
      u.session =
        { w.session with
          binding := .opened
            { handle :=
                { device := id, channel := w.session.options.channel.number, facts := d.facts }
              chip := d.chip
              packetBytes := d.packetBytes } } ∧
      u.bus = w.bus.update id (fun _ => wasClaimed w.session.options.channel.number d) ∧
      u.bus.device? id = some (wasClaimed w.session.options.channel.number d) ∧
      ∀ bus, TakenWithout u.bus
        { device := id, channel := w.session.options.channel.number, facts := d.facts } bus →
        bus.taken = w.bus.taken := by
  have hclaim := claim_granted hd hconnected hchannel hfree
  obtain ⟨u, entries, hexec, rfl⟩ := exec_attach hclaim
  refine ⟨_, hexec, rfl, rfl, ?_, fun bus => taken_back hclaim⟩
  rw [Bus.device?_update, if_pos rfl, hd, Option.map_some]

end Claim

section Opening

variable {w v : Hosted Bus Handle} {filter : Device.Filter} {id : DeviceId}

def search (filter : Device.Filter) : Action Bus Handle Unit := do
  attach (← onHost (Device.find (← session).options filter))

lemma exec_openMatching (hclosed : w.session.binding = .closed) (filter : Device.Filter) :
    exec (openMatching filter) w =
      exec (tracked (search filter)) { w with session.lastError := none } := by
  rw [openMatching, exec_tracked, exec_tracked, Attempt.exec_bind, exec_beginOpening hclosed]
  rfl

lemma exec_search (w : Hosted Bus Handle) : exec (search filter) w =
    if w.bus.failing then (.error (.enumeration (.bus "simulated bus failure")), w)
    else
      match w.bus.selected? filter with
      | none => (.error .notFound, w)
      | some id => exec (attach id) w := by
  rw [search, Attempt.exec_bind, exec_session]
  dsimp only
  rw [Attempt.exec_bind, exec_onHost, Bus.exec_find]
  by_cases hfailing : w.bus.failing
  · simp only [if_pos hfailing]
  · simp only [if_neg hfailing]
    cases w.bus.selected? filter <;> rfl

structure Refused (w : Hosted Bus Handle) (code : Option Int) (e : Error)
    (r : Except Error (Answer DeviceId) × Hosted Bus Handle) : Prop where
  result : r.1 = .error e
  code_eq : e.stage?.map Error.Stage.code = code
  session : r.2.session = { w.session with lastError := some e }
  taken : r.2.bus.taken = w.bus.taken

structure Connected (w : Hosted Bus Handle) (id : DeviceId) (d : Device)
    (r : Except Error (Answer DeviceId) × Hosted Bus Handle) : Prop where
  result : r.1 = .ok .done
  session : r.2.session =
    { w.session with
      lastError := none
      binding := .opened
        { handle := { device := id, channel := w.session.options.channel.number, facts := d.facts }
          chip := Chip.detect d.ids.release d.texts.serial.isSome
          packetBytes := d.packetBytes
          mode := .reset
          baudRate := 9600 } }
  bus : ∃ s, Baud.setting? d.chip w.session.options.channel.index 9600 = some s ∧
    Baud.close s.actual 9600 ∧ r.2.bus = w.bus.update id fun _ =>
      { d with
        claimed := d.claimed.setIfInBounds w.session.options.channel.number.toNat true
        queue := []
        mode := 0
        controls := d.controls ++ [resetControl w.session.options.channel, rateControl s] }

/-- What an attempt comes to on the device that is meant: the first of the stages that cannot do
with its state is reported. -/
def ExpectedOn (w : Hosted Bus Handle) (id : DeviceId) (d : Device)
    (r : Except Error (Answer DeviceId) × Hosted Bus Handle) : Prop :=
  let number := w.session.options.channel.number
  let cause := .transport (.timeout w.session.options.writeTimeout)
  if d.chip.channels ≤ number.toNat then
    Refused w (some (-4)) (.notOpened (.bus s!"no interface {number}")) r
  else if d.claimed.getD number.toNat false then
    Refused w (some (-5)) (.notClaimed "interface busy") r
  else if d.failing ≠ 0 ∨ d.failingRequest = some Request.reset.code then
    Refused w (some (-6)) (.notReset cause) r
  else if d.failingRequest = some Request.baudRate.code then
    Refused w (some (-7)) (.noDefaultBaudRate cause) r
  else Connected w id d r

def Expected (w : Hosted Bus Handle) (filter : Device.Filter)
    (r : Except Error (Answer DeviceId) × Hosted Bus Handle) : Prop :=
  if w.bus.failing then Refused w none (.enumeration (.bus "simulated bus failure")) r
  else
    match w.bus.selected? filter with
    | none => Refused w (some (-3)) .notFound r
    | some id => ∃ d, w.bus.device? id = some d ∧ ExpectedOn w id d r

lemma refused_of_search (hclosed : w.session.binding = .closed) {e : Error}
    (h : exec (search filter) { w with session.lastError := none } = (.error e, v))
    (htaken : v.bus.taken = w.bus.taken) :
    Refused w (e.stage?.map Error.Stage.code) e ((Call.openMatching filter).step w) := by
  have hopen := exec_openMatching hclosed filter
  rw [exec_tracked, h] at hopen
  obtain ⟨u, hstep, hbus⟩ : ∃ u, (Call.openMatching filter).step w = (.error e, u) ∧
      u.bus = v.bus := by
    rw [Call.step, Call.run, Call.run.done, Attempt.exec_bind, hopen]
    exact ⟨_, rfl, rfl⟩
  have hcall : (Call.openMatching filter : Call DeviceId) ≠ .purge := fun h => by cases h
  refine ⟨congrArg Prod.fst hstep, rfl, ?_, ?_⟩
  · rw [hstep]
    exact Call.session_of_error hcall hstep
  · rw [hstep, hbus, htaken]

lemma connected_of_search (hclosed : w.session.binding = .closed)
    (h : exec (search filter) { w with session.lastError := none } = (.ok (), v)) :
    (Call.openMatching filter).step w = (.ok .done, v) := by
  have hopen := exec_openMatching hclosed filter
  rw [exec_tracked, h] at hopen
  rw [Call.step, Call.run, Call.run.done, Attempt.exec_bind, hopen]
  rfl

lemma attach_expected {d : Device} (hclosed : w.session.binding = .closed)
    (hd : w.bus.device? id = some d) (hconnected : d.disconnected = false)
    (hsearch : exec (search filter) { w with session.lastError := none } =
      exec (attach id) { w with session.lastError := none }) :
    ExpectedOn w id d ((Call.openMatching filter).step w) := by
  unfold ExpectedOn
  intro number cause
  have hconnected' := Bool.eq_false_iff.mp hconnected
  have hrefused {e : Usb.Error} (h : exec (Device.claim number) d = (.error e, d)) :=
    attach_refused (w := { w with session.lastError := none }) hd h
  have hgranted := attach_granted (w := { w with session.lastError := none }) hd hconnected
  by_cases hchannel : d.chip.channels ≤ number.toNat
  · rw [if_pos hchannel]
    obtain ⟨v, hattach, htaken⟩ := hrefused (by
      rw [Device.exec_claim, if_neg hconnected', if_pos hchannel])
    exact refused_of_search hclosed (hsearch.trans hattach) htaken
  rw [if_neg hchannel]
  by_cases hbusy : d.claimed.getD number.toNat false = true
  · rw [if_pos hbusy]
    obtain ⟨v, hattach, htaken⟩ := hrefused (by
      rw [Device.exec_claim, if_neg hconnected', if_neg hchannel, if_pos hbusy])
    exact refused_of_search hclosed (hsearch.trans hattach) htaken
  rw [if_neg hbusy]
  obtain ⟨u, hattach, hsession, hbus, hd', hback⟩ := hgranted hchannel hbusy
  have hstart := hsearch.trans hattach
  have hl : u.session.binding = .opened _ := congrArg Session.binding hsession
  have hoptions : u.session.options = w.session.options := by rw [hsession]
  by_cases hreset : d.failing ≠ 0 ∨ d.failingRequest = some Request.reset.code
  · rw [if_pos hreset]
    obtain ⟨v, hexec, hwithout⟩ := start_not_reset hl hd' hconnected hreset
    rw [hoptions] at hexec
    exact refused_of_search hclosed (hstart.trans hexec) (hback _ hwithout)
  rw [if_neg hreset]
  obtain ⟨hfailing, hnoreset⟩ := not_or.mp hreset
  have hfailing : d.failing = 0 := Decidable.not_not.mp hfailing
  by_cases hrate : d.failingRequest = some Request.baudRate.code
  · rw [if_pos hrate]
    obtain ⟨v, hexec, hwithout⟩ := start_not_rated hl rfl hd' hconnected hfailing hrate
    rw [hoptions] at hexec
    exact refused_of_search hclosed (hstart.trans hexec) (hback _ hwithout)
  rw [if_neg hrate]
  obtain ⟨s, v, hsome, hclose, hexec, hbus'⟩ :=
    start_done hl rfl hd' hconnected hfailing hnoreset hrate
  obtain ⟨hends, -⟩ := ends_start hl u rfl
  rw [hexec, hsession] at hends
  rw [hoptions] at hsome hbus'
  have hstep := connected_of_search hclosed (hstart.trans hexec)
  refine ⟨congrArg Prod.fst hstep, ?_, s, hsome, ?_, ?_⟩
  · rw [hstep]
    exact hends
  · exact hclose
  · rw [hstep, hbus', hbus, Bus.update_put]
    simp only [wasRated, wasReset, List.append_assoc]
    rfl

theorem openMatching_expected (w : Hosted Bus Handle) (hclosed : w.session.binding = .closed)
    (filter : Device.Filter) : Expected w filter ((Call.openMatching filter).step w) := by
  have hsearch : exec (search filter) { w with session.lastError := none } = _ := exec_search _
  unfold Expected
  by_cases hfailing : w.bus.failing
  · rw [if_pos hfailing] at hsearch ⊢
    exact refused_of_search hclosed hsearch rfl
  rw [if_neg hfailing] at hsearch ⊢
  cases hselected : w.bus.selected? filter with
  | none =>
    rw [hselected] at hsearch
    exact refused_of_search hclosed hsearch rfl
  | some id =>
    rw [hselected] at hsearch
    obtain ⟨d, hd, hmeets⟩ := Bus.meets_of_selected hselected
    exact ⟨d, hd, attach_expected hclosed hd hmeets.connected hsearch⟩

end Opening

section Sample

def sampleHalf : Device :=
  wasClaimed 0 ((Device.blank 0x0403 0x6010 0x0500).withTexts { serial := some "B2" })

def sampleCrowd (channel : Channel) : Hosted Bus Handle where
  bus :=
    { devices :=
        [{ sampleHalf with disconnected := true },
          (Device.blank 0x0403 0x6010 0x0500).withTexts { serial := some "B1" }, sampleHalf] }
  session := { options := { channel, readTimeout := .zero, writeChunk := 512 } }

theorem openMatching_expected_half :
    let filter : Device.Filter := { product := 0x6010, serial := some "B2" }
    Refused (sampleCrowd .any) (some (-5)) (.notClaimed "interface busy")
        ((Call.openMatching filter).step (sampleCrowd .any)) ∧
      Connected (sampleCrowd .b) { place := 2 } sampleHalf
        ((Call.openMatching filter).step (sampleCrowd .b)) := by
  intro filter
  have hsearch (channel : Channel) :
      ExpectedOn (sampleCrowd channel) { place := 2 } sampleHalf
        ((Call.openMatching filter).step (sampleCrowd channel)) := by
    have hselected : (sampleCrowd channel).bus.selected? filter = some { place := 2 } := by
      have hbus : (sampleCrowd channel).bus = (sampleCrowd .any).bus := rfl
      rw [hbus]
      decide +kernel
    have hexpected := openMatching_expected (sampleCrowd channel) rfl filter
    rw [Expected, if_neg (by rintro ⟨⟩), hselected] at hexpected
    obtain ⟨d, hd, hon⟩ := hexpected
    cases hd
    exact hon
  constructor
  · have h := hsearch .any
    rw [ExpectedOn, if_neg (by decide +kernel), if_pos (by decide +kernel)] at h
    exact h
  · have h := hsearch .b
    rw [ExpectedOn, if_neg (by decide +kernel), if_neg (by decide +kernel),
      if_neg (by decide +kernel), if_neg (by decide +kernel)] at h
    exact h

end Sample

end UsbSerial.Session
