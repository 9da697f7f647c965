import UsbSerial.Bench
import UsbSerial.Proofs.Packet
import UsbSerial.Proofs.Session.Contact
import UsbSerial.Proofs.Session.Stream

namespace UsbSerial.Session.Receive

open Attempt (exec)
open Sim (Bus Device DeviceId Handle)

variable {w w' : Hosted Bus Handle} {link : Link Handle} {d : Device}

structure Attached (w : Hosted Bus Handle) (link : Link Handle) (d : Device) : Prop where
  binding : w.session.binding = .opened link
  device : w.bus.device? link.handle.device = some d
  packetBytes : link.packetBytes = d.packetBytes

section Read

lemma Attached.moved (h : Attached w link d) {link' : Link Handle} {d' : Device}
    (hbinding : w'.session.binding = .opened link')
    (hbus : w'.bus = w.bus.update link.handle.device fun _ => d')
    (hhandle : link'.handle = link.handle) (hlink : link'.packetBytes = link.packetBytes)
    (hdevice : d'.packetBytes = d.packetBytes) : Attached w' link' d' where
  binding := hbinding
  device := by rw [hhandle, hbus, Bus.device?_put w.bus h.device]
  packetBytes := by rw [hlink, h.packetBytes, hdevice]

def chunk (w : Hosted Bus Handle) (d : Device) : ℕ :=
  Packet.room d.packetBytes w.session.options.readChunk

lemma Attached.exec_read (h : Attached w link d) {room : ℕ} (hroom : room ≠ 0)
    (hunread : link.leftover.unread = []) :
    (∃ e log d', exec (read room) w =
        (.error e,
          { w with
            bus := w.bus.update link.handle.device fun _ => d'
            log
            session := { w.session with lastError := some e } }) ∧
        d' = { d with failing := d'.failing }) ∨
      exec (read room) w =
        (.ok ((d.queue.take (chunk w d)).take room),
          { w with
            bus := w.bus.update link.handle.device fun _ =>
              { d with queue := d.queue.drop (chunk w d) }
            session := w.session.mapLink fun l =>
              { l with leftover := { bytes := (d.queue.take (chunk w d)).drop room } } }) := by
  have hbulk : exec (Transport.bulkIn link.handle w.session.options.channel.inEndpoint
      w.session.options.readChunk w.session.options.readTimeout) w.bus = _ :=
    Bus.exec_on h.device (Device.bulkIn w.session.options.readChunk w.session.options.readTimeout)
  rcases hd : exec (Device.bulkIn w.session.options.readChunk w.session.options.readTimeout) d
    with ⟨e | bytes, d'⟩
  · rw [hd] at hbulk
    obtain ⟨log, hfailed⟩ := exec_read_failed h.binding hroom hunread hbulk
    exact .inl ⟨.transport e, log, d', hfailed, Device.bulkIn_error hd⟩
  · obtain ⟨hbytes, hd'⟩ := Device.bulkIn_ok hd
    obtain ⟨hpayload, hqueue⟩ := Packet.payload_send d.packetBytes_gt d.modemStatus
      w.session.options.readChunk d.queue
    have hstrip : Packet.strip link.packetBytes bytes = d.queue.take (chunk w d) := by
      rw [Packet.strip_eq_payload, h.packetBytes, hbytes, hpayload, chunk]
    rw [hd] at hbulk
    rw [exec_read_bulk h.binding hroom hunread hbulk, hstrip, hd', hqueue]
    exact .inr rfl

lemma Attached.read_error (h : Attached w link d) {room : ℕ} {e : Error}
    (hread : exec (read room) w = (.error e, w')) :
    ∃ d', Attached w' link d' ∧ d'.queue = d.queue := by
  by_cases hroom : room = 0
  · rw [hroom, exec_read_zero h.binding] at hread
    cases hread
  by_cases hunread : link.leftover.unread = []
  · rcases h.exec_read hroom hunread with ⟨e', log, d', hfailed, hd'⟩ | hok
    · rw [hfailed] at hread
      cases hread
      refine ⟨d', h.moved h.binding rfl rfl rfl ?_, ?_⟩
      · rw [hd']
      · rw [hd']
    · rw [hok] at hread
      cases hread
  · rw [exec_read_pending h.binding hroom hunread] at hread
    cases hread

lemma Attached.read_ok (h : Attached w link d) {room : ℕ} {data : List UInt8}
    (hread : exec (read room) w = (.ok data, w')) :
    ∃ link' d', Attached w' link' d' ∧ link'.handle = link.handle ∧
      data ++ link'.leftover.unread ++ d'.queue = link.leftover.unread ++ d.queue := by
  by_cases hroom : room = 0
  · rw [hroom, exec_read_zero h.binding] at hread
    cases hread
    exact ⟨link, d, h, rfl, rfl⟩
  by_cases hunread : link.leftover.unread = []
  · rcases h.exec_read hroom hunread with ⟨e', log, d', hfailed, -⟩ | hok
    · rw [hfailed] at hread
      cases hread
    · rw [hok] at hread
      cases hread
      refine ⟨_, _, h.moved (congrArg Session.binding (mapLink_opened h.binding _)) rfl rfl rfl rfl,
        rfl, ?_⟩
      rw [hunread, List.nil_append, Leftover.unread_mk_zero, List.take_append_drop,
        List.take_append_drop]
  · rw [exec_read_pending h.binding hroom hunread] at hread
    cases hread
    refine ⟨_, d, ⟨congrArg Session.binding (mapLink_opened h.binding _), h.device, h.packetBytes⟩,
      rfl, ?_⟩
    rw [Leftover.unread_advance, List.take_append_drop]

lemma Attached.read_nil (h : Attached w link d) {room : ℕ} (hroom : 0 < room)
    (hchunk : Packet.statusBytes < w.session.options.readChunk)
    (hread : exec (read room) w = (.ok [], w')) :
    link.leftover.unread = [] ∧ d.queue = [] := by
  by_cases hunread : link.leftover.unread = []
  · refine ⟨hunread, ?_⟩
    rcases h.exec_read (Nat.ne_of_gt hroom) hunread with ⟨e', log, d', hfailed, -⟩ | hok
    · rw [hfailed] at hread
      cases hread
    · have hpos : 0 < chunk w d := Packet.room_pos d.packetBytes_gt hchunk
      rw [hok] at hread
      have htake : (d.queue.take (chunk w d)).take room = [] := by injections
      rw [List.take_take, List.take_eq_nil_iff] at htake
      exact htake.resolve_left (by omega)
  · rw [exec_read_pending h.binding (Nat.ne_of_gt hroom) hunread] at hread
    have htake : link.leftover.unread.take room = [] := by injections
    rw [List.take_eq_nil_iff] at htake
    exact absurd (htake.resolve_left (Nat.ne_of_gt hroom)) hunread

end Read

section Run

inductive Event
  | tweak (device : DeviceId) (t : Bench.Tweak)
  | read (room : ℕ)
  deriving DecidableEq

def Event.step (w : Hosted Bus Handle) : Event → List UInt8 × Hosted Bus Handle
  | .tweak device t => ([], { w with bus := w.bus.update device t.apply })
  | .read room =>
      match exec (Session.read room) w with
      | (.ok data, w) => (data, w)
      | (.error _, w) => ([], w)

def deliver (w : Hosted Bus Handle) : List Event → List UInt8 × Hosted Bus Handle
  | [] => ([], w)
  | e :: events =>
      let (data, w) := e.step w
      let (more, w) := deliver w events
      (data ++ more, w)

def Event.queued (device : DeviceId) : Event → List UInt8
  | .tweak id (.queue data) => if id = device then data else []
  | _ => []

lemma Attached.tweak (h : Attached w link d) (device : DeviceId) (t : Bench.Tweak) :
    ∃ d', Attached { w with bus := w.bus.update device t.apply } link d' ∧
      d'.queue = d.queue ++ (Event.tweak device t).queued link.handle.device := by
  by_cases hid : device = link.handle.device
  · refine ⟨t.apply d, ⟨h.binding, ?_, ?_⟩, ?_⟩
    · rw [hid, Bus.device?_update, if_pos rfl, h.device, Option.map_some]
    · rw [h.packetBytes]
      cases t <;> rfl
    · cases t with
      | queue data => simp only [Bench.Tweak.apply, Event.queued, if_pos hid]
      | _ => exact (List.append_nil _).symm
  · refine ⟨d, ⟨h.binding, ?_, h.packetBytes⟩, ?_⟩
    · rw [Bus.device?_update, if_neg hid, h.device]
    · cases t with
      | queue data => simp only [Event.queued, if_neg hid, List.append_nil]
      | _ => exact (List.append_nil _).symm

lemma Attached.step (h : Attached w link d) (e : Event) :
    ∃ link' d', Attached (e.step w).2 link' d' ∧ link'.handle = link.handle ∧
      (e.step w).1 ++ link'.leftover.unread ++ d'.queue =
        link.leftover.unread ++ d.queue ++ e.queued link.handle.device := by
  cases e with
  | tweak device t =>
    obtain ⟨d', h', hqueue⟩ := h.tweak device t
    exact ⟨link, d', h', rfl, by rw [hqueue, ← List.append_assoc]; rfl⟩
  | read room =>
    rcases hread : exec (Session.read room) w with ⟨e | data, w'⟩
    · obtain ⟨d', h', hqueue⟩ := h.read_error hread
      refine ⟨link, d', ?_, rfl, ?_⟩
      · simpa only [Event.step, hread] using h'
      · simp only [Event.step, hread, Event.queued, hqueue, List.nil_append, List.append_nil]
    · obtain ⟨link', d', h', hhandle, hbytes⟩ := h.read_ok hread
      refine ⟨link', d', ?_, hhandle, ?_⟩
      · simpa only [Event.step, hread] using h'
      · simpa only [Event.step, hread, Event.queued, List.append_nil] using hbytes

lemma Attached.deliver (h : Attached w link d) (events : List Event) :
    ∃ link' d', Attached (deliver w events).2 link' d' ∧ link'.handle = link.handle ∧
      (deliver w events).1 ++ link'.leftover.unread ++ d'.queue =
        link.leftover.unread ++ d.queue ++ events.flatMap (Event.queued link.handle.device) := by
  induction events generalizing w link d with
  | nil => exact ⟨link, d, h, rfl, by rw [List.flatMap_nil, List.append_nil]; rfl⟩
  | cons e events ih =>
    obtain ⟨link₁, d₁, h₁, hhandle₁, hstep⟩ := h.step e
    obtain ⟨link₂, d₂, h₂, hhandle₂, hrest⟩ := ih h₁
    refine ⟨link₂, d₂, h₂, hhandle₂.trans hhandle₁, ?_⟩
    calc (e.step w).1 ++ (Receive.deliver (e.step w).2 events).1 ++ link₂.leftover.unread ++
          d₂.queue
        = (e.step w).1 ++ ((Receive.deliver (e.step w).2 events).1 ++ link₂.leftover.unread ++
            d₂.queue) := by simp only [List.append_assoc]
      _ = (e.step w).1 ++ link₁.leftover.unread ++ d₁.queue ++
            events.flatMap (Event.queued link₁.handle.device) := by
          rw [hrest]
          simp only [List.append_assoc]
      _ = link.leftover.unread ++ d.queue ++
            (e :: events).flatMap (Event.queued link.handle.device) := by
          rw [hstep, hhandle₁, List.flatMap_cons, List.append_assoc]

end Run

section Fresh

def Fresh (link : Link Handle) (d : Device) : Prop := link.leftover.unread = [] ∧ d.queue = []

lemma Attached.after_controlOut (h : Attached w link d) {operation : Operation} {request : Request}
    {value index : UInt16}
    (hout : exec (controlOut operation request value index) w = (.ok (), w')) :
    w'.session = w.session ∧ Attached w' link (Device.obey
      { d with controls := d.controls ++ [{ request := request.code, value, index }] }
      { request := request.code, value, index }) := by
  rcases exec_controlOut_device h.binding h.device operation request value index with
    ⟨e, log, d', hfailed, -⟩ | ⟨log, hok⟩
  · rw [hfailed] at hout
    cases hout
  · rw [hok] at hout
    cases hout
    exact ⟨rfl, h.moved h.binding rfl rfl rfl (Device.packetBytes_obey _ _)⟩

lemma Attached.emptied (h : Attached w link d) {operation : Operation} {value index : UInt16}
    (hvalue : value = Request.resetEngine ∨ value = Request.purgeReceive)
    (hout : exec (controlOut operation .reset value index) w = (.ok (), w')) :
    ∃ d', Attached { w' with session := w'.session.mapLink fun l => { l with leftover := {} } }
      { link with leftover := {} } d' ∧ d'.queue = [] ∧
      (value = Request.resetEngine → d'.mode = 0) := by
  obtain ⟨hsession, h'⟩ := h.after_controlOut hout
  refine ⟨_, ⟨?_, h'.device, h'.packetBytes⟩, ?_, ?_⟩
  · rw [mapLink_opened h'.binding]
  · rw [Device.queue_obey, if_pos ⟨Request.ofCode?_code .reset, hvalue⟩]
  · intro hengine
    rw [Device.mode_obey, Request.ofCode?_code]
    exact if_pos hengine

lemma Attached.after_reset (h : Attached w link d) (hreset : exec resetEngine w = (.ok (), w')) :
    ∃ link' d', Attached w' link' d' ∧ link'.handle = link.handle ∧ Fresh link' d' ∧
      d'.mode = 0 := by
  obtain ⟨_, _, hindex, hreset⟩ := Attempt.bind_ok hreset
  rw [exec_channelIndex] at hindex
  cases hindex
  obtain ⟨⟨⟩, v, hout, hlink⟩ := Attempt.bind_ok hreset
  rw [modifyLink, exec_modifySession] at hlink
  cases hlink
  obtain ⟨d', h', hqueue, hmode⟩ := h.emptied (.inl rfl) hout
  exact ⟨_, d', h', rfl, ⟨rfl, hqueue⟩, hmode rfl⟩

lemma Attached.after_purge (h : Attached w link d)
    (hpurge : exec purgeReceive w = (.ok (), w')) :
    ∃ link' d', Attached w' link' d' ∧ link'.handle = link.handle ∧ Fresh link' d' := by
  obtain ⟨_, _, hindex, hpurge⟩ := Attempt.bind_ok (tracked_ok hpurge)
  rw [exec_channelIndex] at hindex
  cases hindex
  obtain ⟨⟨⟩, v, hout, hlink⟩ := Attempt.bind_ok hpurge
  rw [modifyLink, exec_modifySession] at hlink
  cases hlink
  obtain ⟨d', h', hqueue, -⟩ := h.emptied (.inr rfl) hout
  exact ⟨_, d', h', rfl, rfl, hqueue⟩

lemma Attached.after_baudRate (h : Attached w link d) {rate : UInt32}
    (hbaud : exec (programBaudRate rate) w = (.ok (), w')) :
    ∃ d', Attached w' { link with baudRate := rate } d' ∧ d'.queue = d.queue ∧
      d'.mode = d.mode := by
  obtain ⟨value, index, v, log, hout, rfl⟩ := programBaudRate_ok hbaud
  obtain ⟨hsession, h'⟩ := h.after_controlOut hout
  refine ⟨_, ⟨?_, h'.device, h'.packetBytes⟩, ?_, ?_⟩
  · rw [mapLink_opened h'.binding]
  · rw [Device.queue_obey, if_neg]
    rintro ⟨hcode, -⟩
    rw [Request.ofCode?_code] at hcode
    cases hcode
  · rw [Device.mode_obey, Request.ofCode?_code]

lemma attach_fresh {device : DeviceId} (h : exec (attach device) w = (.ok (), w')) :
    ∃ link d, Attached w' link d ∧ Fresh link d ∧ d.mode = 0 := by
  obtain ⟨c, link, u, v, hclaim, hbinding, hhandle, hbytes, hreset, hbaud⟩ := attach_ok h
  obtain ⟨d, hd, hplace, hfacts, hbus⟩ := Bus.claim_ok hclaim
  have hattached : Attached u link
      { d with
        claimed := d.claimed.setIfInBounds w.session.options.channel.number.toNat true } := by
    refine ⟨hbinding, ?_, ?_⟩
    · rw [hhandle, hplace, hbus]
      exact Bus.device?_put w.bus hd _
    · rw [hbytes, hfacts]
      rfl
  -- The reset empties both ends, and setting the rate fills neither.
  obtain ⟨link₁, d₁, h₁, -, ⟨hleftover, hqueue⟩, hmode⟩ := hattached.after_reset hreset
  obtain ⟨d₂, h₂, hqueue₂, hmode₂⟩ := h₁.after_baudRate hbaud
  exact ⟨_, d₂, h₂, ⟨hleftover, hqueue₂.trans hqueue⟩, hmode₂.trans hmode⟩

inductive Opens : Action Bus Handle Unit → Prop
  | first (vendor product : UInt16) : Opens (openFirst vendor product)
  | matching (filter : Device.Filter) : Opens (openMatching filter)
  | found (descriptor : Device.Descriptor DeviceId) : Opens (openFound descriptor)

lemma Opens.attached {m : Action Bus Handle Unit} (hm : Opens m) (h : exec m w = (.ok (), w')) :
    ∃ link d, Attached w' link d ∧ Fresh link d ∧ d.mode = 0 := by
  cases hm with
  | first vendor product =>
    obtain ⟨-, device, v, -, -, hattach⟩ := openMatching_ok h
    exact attach_fresh hattach
  | matching filter =>
    obtain ⟨-, device, v, -, -, hattach⟩ := openMatching_ok h
    exact attach_fresh hattach
  | found descriptor =>
    obtain ⟨-, hattach⟩ := openFound_ok h
    exact attach_fresh hattach

lemma Opens.fresh {m : Action Bus Handle Unit} (hm : Opens m) (h : exec m w = (.ok (), w')) :
    ∃ link d, Attached w' link d ∧ Fresh link d := by
  obtain ⟨link, d, hattached, hfresh, -⟩ := hm.attached h
  exact ⟨link, d, hattached, hfresh⟩

inductive Empties : Action Bus Handle Unit → Prop
  | reset : Empties reset
  | purgeReceive : Empties purgeReceive

lemma Attached.after_empties (h : Attached w link d) {m : Action Bus Handle Unit} (hm : Empties m)
    (hok : exec m w = (.ok (), w')) :
    ∃ link' d', Attached w' link' d' ∧ link'.handle = link.handle ∧ Fresh link' d' := by
  cases hm with
  | reset =>
    obtain ⟨link', d', h', hhandle, hfresh, -⟩ := h.after_reset (tracked_ok hok)
    exact ⟨link', d', h', hhandle, hfresh⟩
  | purgeReceive => exact h.after_purge hok

end Fresh

/-- Between a device and the reader of its session no byte is lost, repeated, or mixed with the
status, whatever fails, and none is left from before the session was opened. -/
theorem received_conserved :
    (∀ (w : Hosted Bus Handle) (link : Link Handle) (d : Device) (events : List Event),
      Attached w link d →
      ∃ link' d', Attached (deliver w events).2 link' d' ∧ link'.handle = link.handle ∧
        (deliver w events).1 ++ link'.leftover.unread ++ d'.queue =
          link.leftover.unread ++ d.queue ++ events.flatMap (Event.queued link.handle.device)) ∧
    (∀ (w w' : Hosted Bus Handle) (link : Link Handle) (d : Device) (room : ℕ) (e : Error),
      Attached w link d → exec (read room) w = (.error e, w') →
      ∃ d', Attached w' link d' ∧ d'.queue = d.queue) ∧
    (∀ (w w' : Hosted Bus Handle) (link : Link Handle) (d : Device) (room : ℕ),
      Attached w link d → 3 ≤ w.session.options.readChunk → 0 < room →
      exec (read room) w = (.ok [], w') → link.leftover.unread = [] ∧ d.queue = []) ∧
    (∀ (w w' : Hosted Bus Handle) (m : Action Bus Handle Unit),
      Opens m → exec m w = (.ok (), w') → ∃ link d, Attached w' link d ∧ Fresh link d) ∧
    (∀ (w w' : Hosted Bus Handle) (link : Link Handle) (d : Device) (m : Action Bus Handle Unit),
      Attached w link d → Empties m → exec m w = (.ok (), w') →
      ∃ link' d', Attached w' link' d' ∧ link'.handle = link.handle ∧ Fresh link' d') ∧
    (∀ (w : Hosted Bus Handle) (link : Link Handle) (d : Device) (events : List Event),
      Attached w link d → Fresh link d →
      ∃ link' d', Attached (deliver w events).2 link' d' ∧
        (deliver w events).1 ++ link'.leftover.unread ++ d'.queue =
          events.flatMap (Event.queued link.handle.device)) := by
  refine ⟨fun w link d events h => h.deliver events, fun w w' link d room e h => h.read_error,
    fun w w' link d room h hchunk hroom => h.read_nil hroom hchunk, fun w w' m hm => hm.fresh,
    fun w w' link d m h hm => h.after_empties hm, ?_⟩
  intro w link d events h hfresh
  obtain ⟨link', d', h', -, hbytes⟩ := h.deliver events
  refine ⟨link', d', h', ?_⟩
  rw [hbytes, hfresh.1, hfresh.2]
  rfl

section Sample

def sampleDevice (failing : ℕ) (queue : List UInt8) : Device :=
  { Device.blank 0x0403 0x6001 0x0600 with failing, queue }

def sampleLink : Link Handle where
  handle := { device := { place := 0 }, channel := 0, facts := (sampleDevice 0 []).facts }
  chip := .ft232R
  packetBytes := 64

def sample (failing : ℕ) (queue : List UInt8) (binding : Binding Handle) : Hosted Bus Handle where
  bus := { devices := [sampleDevice failing queue] }
  session := { binding }

lemma sample_attached (failing : ℕ) (queue : List UInt8) :
    Attached (sample failing queue (.opened sampleLink)) sampleLink (sampleDevice failing queue) :=
  ⟨rfl, rfl, rfl⟩

theorem received_conserved_sample :
    (∃ link' d', Attached (deliver (sample 1 [1, 2] (.opened sampleLink))
        [.read 1, .read 1, .tweak { place := 0 } (.queue [3])]).2 link' d' ∧
      (deliver (sample 1 [1, 2] (.opened sampleLink))
        [.read 1, .read 1, .tweak { place := 0 } (.queue [3])]).1 ++
        link'.leftover.unread ++ d'.queue = [1, 2, 3]) ∧
    (∃ d', Attached (exec (read 1) (sample 1 [1] (.opened sampleLink))).2 sampleLink d' ∧
      d'.queue = [1]) ∧
    (sampleLink.leftover.unread = [] ∧ (sampleDevice 0 []).queue = []) ∧
    (∃ link d, Attached (exec (openFirst 0x0403 0x6001) (sample 0 [1] .closed)).2 link d ∧
      Fresh link d ∧ ∃ link' d',
        Attached (deliver (exec (openFirst 0x0403 0x6001) (sample 0 [1] .closed)).2
          [.read 1]).2 link' d' ∧
        (deliver (exec (openFirst 0x0403 0x6001) (sample 0 [1] .closed)).2 [.read 1]).1 ++
          link'.leftover.unread ++ d'.queue = []) ∧
    ∃ link' d', Attached (exec reset (sample 0 [1] (.opened sampleLink))).2 link' d' ∧
      Fresh link' d' := by
  obtain ⟨hdeliver, herror, hnil, hopen, hempty, hfresh⟩ := received_conserved
  refine ⟨?_, ?_, ?_, ?_, ?_⟩
  · obtain ⟨link', d', h, -, hbytes⟩ := hdeliver _ _ _
      [.read 1, .read 1, .tweak { place := 0 } (.queue [3])] (sample_attached 1 [1, 2])
    exact ⟨link', d', h, hbytes⟩
  · exact herror _ _ _ _ 1 (.transport (.timeout (.ofSeconds 5))) (sample_attached 1 [1])
      (Prod.ext (by decide +kernel) rfl)
  · exact hnil _ _ _ _ 1 (sample_attached 0 []) (by decide) Nat.one_pos
      (Prod.ext (by decide +kernel) rfl)
  · obtain ⟨link, d, h, hclean⟩ := hopen (sample 0 [1] .closed) _ _ (.first 0x0403 0x6001)
      (Prod.ext (by decide +kernel) rfl)
    obtain ⟨link', d', h', hbytes⟩ := hfresh _ _ _ [.read 1] h hclean
    exact ⟨link, d, h, hclean, link', d', h', hbytes⟩
  · obtain ⟨link', d', h, -, hclean⟩ := hempty _ _ _ _ _ (sample_attached 0 [1]) .reset
      (Prod.ext (by decide +kernel) rfl)
    exact ⟨link', d', h, hclean⟩

end Sample

end UsbSerial.Session.Receive
