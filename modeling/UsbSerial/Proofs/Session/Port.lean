import UsbSerial.Proofs.Baud.Request
import UsbSerial.Proofs.Session.Claim
import UsbSerial.Proofs.Session.Sends

namespace UsbSerial.Session

open Attempt (exec)
open Probe (Seen)
open Relation (ReflTransGen)

variable {β δ κ α : Type}

section Requests

def Call.reads (chip : Chip) (address : UInt16) : Call δ → Prop
  | .readWord a => address = a
  | .readEeprom => address.toNat < chip.eepromWords
  | .readChipId => address = ChipId.addressHigh ∨ address = ChipId.addressLow
  | .eraseEeprom => address ∈ Eeprom.Dump.probes.map Prod.fst
  | _ => False

def Call.stores (address value : UInt16) : Call δ → Prop
  | .writeWord a v => address = a ∧ value = v
  | .writeEeprom image => image.word? address.toNat = some value
  | .eraseEeprom => address = Eeprom.Dump.probeAddress ∧ value = Eeprom.Dump.probeWord
  | _ => False

/-- Requests for the EEPROM have a word address for an index, or none; those for the rate of a chip
with one port, the high bits of the divisor. All others have the port in the low byte. -/
def Call.Addresses (c : Call δ) (chip : Chip) (channel : UInt8) (request : Request)
    (value index : UInt16) : Prop :=
  match request, chip with
  | .readWord, _ => c.reads chip index
  | .writeWord, _ => c.stores index value
  | .eraseEeprom, _ => index = 0
  | .baudRate, .am | .baudRate, .bm | .baudRate, .ft232R =>
      ∃ rate : ℕ, rate ≠ 0 ∧ value.toNat + 2 ^ 16 * index.toNat = (Baud.code chip rate).1
  | _, _ => Word.low index = channel + 1

def Call.Proper (c : Call δ) (o : Options) (chip? : Option Chip) (port? : Option UInt8) :
    Seen → Prop
  | .texts timeout => timeout = o.readTimeout
  | .claim channel => c.opens = true ∧ channel = o.channel.number
  | .controlOut code value index timeout =>
      timeout = o.writeTimeout ∧ ∃ port chip request, port? = some port ∧ chip? = some chip ∧
        request.code = code ∧ c.Addresses chip port request value index
  | .controlIn code value index _ timeout =>
      timeout = o.readTimeout ∧ ∃ port chip request, port? = some port ∧ chip? = some chip ∧
        request.code = code ∧ c.Addresses chip port request value index
  | .bulkOut endpoint _ timeout =>
      timeout = o.writeTimeout ∧ ∃ port, port? = some port ∧ endpoint = 0x02 + 2 * port
  | .bulkIn endpoint _ timeout =>
      timeout = o.readTimeout ∧ ∃ port, port? = some port ∧ endpoint = 0x81 + 2 * port

lemma Call.reads_readEeprom {chip : Chip} {address : ℕ} (h : address < chip.eepromWords) :
    (Call.readEeprom : Call δ).reads chip address.toUInt16 := by
  have hwords : chip.eepromWords < 2 ^ 16 := by cases chip <;> decide
  have haddress : address.toUInt16.toNat = address := Nat.mod_eq_of_lt (Nat.lt_trans h hwords)
  rwa [Call.reads, haddress]

lemma Call.stores_writeEeprom {image : Eeprom.Image} {address : ℕ} {value : UInt16}
    (h : image.words[address]? = some value) :
    (Call.writeEeprom image : Call δ).stores address.toUInt16 value := by
  obtain ⟨hlt, hword⟩ := List.getElem?_eq_some_iff.mp h
  simp only [Eeprom.Image.words, List.length_map, List.length_range, List.getElem_map,
    List.getElem_range] at hlt hword
  have hwords : image.size.words < 2 ^ 16 := by cases image.size <;> decide
  have haddress : address.toUInt16.toNat = address := Nat.mod_eq_of_lt (Nat.lt_trans hlt hwords)
  rw [Call.stores, haddress, Eeprom.Image.word?, if_pos hlt, hword]

lemma low_index (channel : Channel) : Word.low channel.index = channel.number + 1 := by
  cases channel <;> rfl

lemma low_handshake (handshake : Line.Handshake) (channel : Channel) :
    Word.low (handshake.code ||| channel.index) = channel.number + 1 := by
  have hcode : Word.low handshake.code = 0 := by
    cases handshake with
    | xonXoff xon xoff => exact show Word.low 0x0400 = 0 by decide
    | _ => rfl
  have hor : Word.low (handshake.code ||| channel.index) =
      Word.low handshake.code ||| Word.low channel.index := UInt16.toUInt8_or _ _
  rw [hor, hcode, UInt8.zero_or, low_index]

lemma low_index_of_hasPort {chip : Chip} (hport : Baud.hasPort chip) (channel : Channel) {code : ℕ}
    (hcode : code < 2 ^ 18) :
    Word.low (Baud.index chip channel.index code) = channel.number + 1 := by
  rw [← low_index, ← UInt8.toNat_inj, Word.toNat_low, Word.toNat_low,
    Baud.index_of_hasPort hport channel hcode]
  omega

lemma code_of_not_hasPort {chip : Chip} (hport : ¬ Baud.hasPort chip) (channel : Channel) {code : ℕ}
    (hcode : code < 2 ^ 18) :
    code.toUInt16.toNat + 2 ^ 16 * (Baud.index chip channel.index code).toNat = code := by
  have hreceived := Baud.received_eq chip channel 0 hcode
  rwa [Baud.received, if_neg hport] at hreceived

lemma setting_of_baudSetting {chip : Chip} {mode : BitMode} {channel : Channel} {rate : UInt32}
    {s : Baud.Setting} (h : baudSetting chip mode channel rate = .ok s) :
    Baud.setting? chip channel.index (rate.toNat * clockFactor mode) = some s := by
  unfold baudSetting at h
  dsimp only at h
  split at h
  · cases h
  split at h
  · cases h
  · rename_i setting hsetting
    split at h
    · cases h
      exact hsetting
    · cases h

lemma addresses_baudRate {c : Call δ} {chip : Chip} {mode : BitMode} {channel : Channel}
    {rate : UInt32} {s : Baud.Setting} (h : baudSetting chip mode channel rate = .ok s) :
    c.Addresses chip channel.number .baudRate s.value s.index := by
  have hsetting := setting_of_baudSetting h
  have hrate : rate.toNat * clockFactor mode ≠ 0 := by
    intro hzero
    rw [hzero] at hsetting
    cases hsetting
  rw [Baud.setting_eq chip channel hrate] at hsetting
  cases hsetting
  have hcode := Baud.code_lt chip hrate
  cases chip with
  | am | bm | ft232R => exact ⟨_, hrate, code_of_not_hasPort (by decide) channel hcode⟩
  | ft2232C | ft2232H | ft4232H => exact low_index_of_hasPort rfl channel hcode

end Requests

section Exchanges

variable {c : Call δ} {o : Options} {chip? : Option Chip} {chip : Chip} {request : Request}

structure Call.Sent (c : Call δ) (o : Options) (chip? : Option Chip) (e : Seen) : Prop where
  opened : chip?.isSome
  unclaimed : claimed? e = none
  proper : c.Proper o chip? (some o.channel.number) e

lemma Call.sent_out {value index : UInt16} (hchip : chip? = some chip)
    (h : c.Addresses chip o.channel.number request value index) :
    c.Sent o chip? (.controlOut request.code value index o.writeTimeout) where
  opened := hchip ▸ rfl
  unclaimed := rfl
  proper := ⟨rfl, _, chip, request, rfl, hchip, rfl, h⟩

lemma Call.sent_in {index length : UInt16} (hchip : chip? = some chip)
    (h : c.Addresses chip o.channel.number request 0 index) :
    c.Sent o chip? (.controlIn request.code 0 index length o.readTimeout) where
  opened := hchip ▸ rfl
  unclaimed := rfl
  proper := ⟨rfl, _, chip, request, rfl, hchip, rfl, h⟩

lemma Call.sent_bulkOut (count : ℕ) (chip : Chip) (hchip : chip? = some chip) :
    c.Sent o chip? (.bulkOut o.channel.outEndpoint count o.writeTimeout) where
  opened := hchip ▸ rfl
  unclaimed := rfl
  proper := ⟨rfl, _, rfl, rfl⟩

lemma Call.sent_bulkIn (chip : Chip) (hchip : chip? = some chip) :
    c.Sent o chip? (.bulkIn o.channel.inEndpoint o.readChunk o.readTimeout) where
  opened := hchip ▸ rfl
  unclaimed := rfl
  proper := ⟨rfl, _, rfl, rfl⟩

variable [Transport β δ κ]

lemma Call.sends_start (c : Call δ) :
    Sends (c.Sent o chip?) o chip? (start : Action (Probe β) κ Unit) := by
  have hreset : Sends (c.Sent o chip?) o chip? (resetEngine : Action (Probe β) κ Unit) :=
    sends_resetEngine fun _ hchip => sent_out hchip (low_index o.channel)
  have hrate : Sends (c.Sent o chip?) o chip?
      (programBaudRate defaultBaudRate : Action (Probe β) κ Unit) :=
    sends_programBaudRate _ fun _ _ _ hchip hsetting =>
      sent_out hchip (addresses_baudRate hsetting)
  exact (hreset.orDetach _).bind fun _ => hrate.orDetach _

lemma Call.sends_request (c : Call δ) (operation : Operation) (request : Request) (value : UInt16)
    (index : UInt16 → UInt16)
    (h : ∀ chip, c.Addresses chip o.channel.number request value (index o.channel.index)) :
    Sends (c.Sent o chip?) o chip? (Call.run.done (tracked do
      controlOut operation request value (index (← channelIndex))) :
        Action (Probe β) κ (Answer δ)) :=
  Sends.done (Session.sends_request _ _ _ index fun chip hchip => sent_out hchip (h chip))

lemma Call.sends (c : Call δ) (hc : c.exchanges = true) :
    Sends (c.Sent o chip?) o chip? (c.run : Action (Probe β) κ (Answer δ)) := by
  have hport := low_index o.channel
  cases c with
  | reset => exact Sends.done (sends_resetEngine fun _ hchip => sent_out hchip hport).tracked
  | purgeReceive => exact Sends.done (sends_purgeReceive fun _ hchip => sent_out hchip hport)
  | purge =>
    apply Sends.done
    apply (sends_purgeReceive fun _ hchip => sent_out hchip hport).bind
    intro _
    exact Session.sends_request _ _ _ (fun index => index) fun _ hchip => sent_out hchip hport
  | setBaudRate rate =>
    apply Sends.done
    apply Sends.tracked
    apply sends_programBaudRate
    exact fun _ _ _ hchip hsetting => sent_out hchip (addresses_baudRate hsetting)
  | purgeTransmit | setLineFormat format | setDtr high | setRts high | setDtrRts dtr rts
  | setEventCharacter character enabled | setErrorCharacter character enabled =>
    exact sends_request _ _ _ _ (fun index => index) fun _ => hport
  | setHandshake handshake =>
    exact sends_request _ _ _ _ (fun index => handshake.code ||| index) fun _ =>
      low_handshake handshake o.channel
  | setLatency ms => exact Sends.done (sends_setLatency ms fun _ hchip => sent_out hchip hport)
  | latency | modemStatus | readPins =>
    apply Sends.map
    apply sends_query
    exact fun _ hchip => sent_in hchip hport
  | write data => exact Sends.map (sends_write sent_bulkOut data)
  | read room => exact Sends.map (sends_read sent_bulkIn room)
  | writeBitBang frame => exact Sends.map (sends_writeBitBang sent_bulkOut frame)
  | enableBitBang mask =>
    exact Sends.done (sends_select _ _ mask .bitBang fun _ hchip => sent_out hchip hport)
  | disableBitBang =>
    exact Sends.done (sends_select _ _ 0 .reset fun _ hchip => sent_out hchip hport)
  | setBitMode mask mode =>
    exact Sends.done (sends_select _ _ mask mode fun _ hchip => sent_out hchip hport)
  | readChipId =>
    exact Sends.map (sends_readChipId fun _ haddress _ hchip => sent_in hchip haddress)
  | readWord address =>
    apply Sends.map
    apply Sends.tracked
    apply (decides_requireAddress _ _).sends.bind
    intro _
    exact sends_memoryWord _ _ fun _ hchip => sent_in hchip rfl
  | writeWord address value =>
    apply Sends.done
    apply Sends.tracked
    apply (decides_requireAddress _ _).sends.bind
    intro _
    exact sends_controlOut _ _ _ _ fun _ hchip => sent_out hchip ⟨rfl, rfl⟩
  | readEeprom =>
    apply Sends.map
    apply sends_readEeprom
    intro chip hchip address haddress
    have hreads : (Call.readEeprom : Call δ).reads chip address.toUInt16 :=
      reads_readEeprom haddress
    exact sent_in hchip hreads
  | writeEeprom image =>
    apply Sends.done
    apply sends_writeEeprom image
    · exact fun _ hchip => sent_out hchip hport
    · exact fun _ hchip => sent_out hchip hport
    · intro address value hvalue _ hchip
      have hstores : (Call.writeEeprom image : Call δ).stores address.toUInt16 value :=
        stores_writeEeprom hvalue
      exact sent_out hchip hstores
  | eraseEeprom =>
    apply Sends.map
    apply sends_eraseEeprom
    · exact fun _ hchip => sent_out hchip rfl
    · exact fun _ hchip => sent_out hchip ⟨rfl, rfl⟩
    · exact fun _ haddress _ hchip => sent_in hchip haddress
  | _ => cases hc

end Exchanges

section Growth

def Call.Grows (c : Call δ) (o : Options) (chip? : Option Chip) : List Seen → List Seen → Prop :=
  ReflTransGen fun seen => Adds (c.Proper o chip? (lastClaim? seen)) seen

variable {c : Call δ} {o : Options} {chip? : Option Chip} {w : Hosted (Probe β) κ}

lemma Call.grows_of_adds {P : Seen → Prop} {seen seen' : List Seen}
    (h : ReflTransGen (Adds P) seen seen')
    (hP : ∀ e, P e → claimed? e = none ∧ c.Proper o chip? (lastClaim? seen) e) :
    c.Grows o chip? seen seen' := by
  -- No claim is added, so that the port claimed last stays the same on the way.
  suffices hboth : c.Grows o chip? seen seen' ∧ lastClaim? seen' = lastClaim? seen from hboth.1
  induction h with
  | refl => exact ⟨.refl, rfl⟩
  | tail _ hadds ih =>
    obtain ⟨hgrows, hlast⟩ := ih
    obtain ⟨e, he, rfl⟩ := hadds
    obtain ⟨hnone, hproper⟩ := hP e he
    refine ⟨hgrows.tail ⟨e, by rwa [hlast], rfl⟩, ?_⟩
    rw [lastClaim?_append_singleton, hnone, Option.none_or, hlast]

lemma Call.proper_texts {port? : Option UInt8} (e : Seen) (he : .texts o.readTimeout = e) :
    claimed? e = none ∧ c.Proper o chip? port? e := by
  subst he
  exact ⟨rfl, rfl⟩

lemma Call.grows_opening {next : Action (Probe β) κ Unit}
    (hnext : w.session.binding = .closed →
      c.Grows o chip? w.bus.seen (exec next { w with session.lastError := none }).2.bus.seen) :
    c.Grows o chip? w.bus.seen
      (exec (tracked do beginOpening; next : Action (Probe β) κ Unit) w).2.bus.seen := by
  by_cases hstate : w.session.state = .closed
  · have hclosed := state_closed (decide_eq_true hstate)
    rw [bus_tracked, Attempt.exec_bind, exec_beginOpening hclosed]
    exact hnext hclosed
  · obtain ⟨log, hexec⟩ := rejects_beginOpening (decide_eq_false hstate) fun _ => next
    rw [hexec]
    exact .refl

lemma seen_done (m : Action (Probe β) κ Unit) (w : Hosted (Probe β) κ) :
    (exec (Call.run.done m : Action (Probe β) κ (Answer δ)) w).2.bus.seen =
      (exec m w).2.bus.seen := by
  rw [Call.run.done, Attempt.exec_bind]
  rcases exec m w with ⟨e | a, v⟩ <;> rfl

end Growth

section Steps

variable [Transport β δ κ]

def claimedChip? (o : Options) (device : δ) (bus : β) : Option Chip :=
  match exec (Transport.claim device o.channel.number) bus with
  | (.ok c, _) => some (Chip.detect c.facts.release c.facts.hasSerial)
  | (.error _, _) => none

def foundChip? (o : Options) (filter : Device.Filter) (host : Host β) : Option Chip :=
  match exec (Device.find o filter) host with
  | (.ok device, host') => claimedChip? o device host'.bus
  | (.error _, _) => none

def Call.chip? (c : Call δ) (w : Hosted β κ) : Option Chip :=
  w.session.chip?.or <|
    match c with
    | .openFirst vendor product => foundChip? w.session.options { vendor, product } w.toHost
    | .openMatching filter => foundChip? w.session.options filter w.toHost
    | .openFound descriptor => claimedChip? w.session.options descriptor.device w.bus
    | _ => none

variable {c : Call δ} {o : Options} {chip? : Option Chip} {w : Hosted (Probe β) κ}

lemma Call.grows_attach (hc : c.opens = true) (device : δ) (w : Hosted (Probe β) κ) :
    c.Grows w.session.options (claimedChip? w.session.options device w.bus) w.bus.seen
      (exec (attach device) w).2.bus.seen := by
  have hseen := Probe.seen_claim device w.session.options.channel.number w.bus
  have hgrows (chip? : Option Chip) : c.Grows w.session.options chip? w.bus.seen
      (w.bus.seen ++ [.claim w.session.options.channel.number]) :=
    .single ⟨.claim w.session.options.channel.number, ⟨hc, rfl⟩, rfl⟩
  rcases hclaim : exec (Transport.claim device w.session.options.channel.number) w.bus
    with ⟨e | granted, bus⟩
  · rw [hclaim] at hseen
    rw [exec_attach_refused hclaim]
    dsimp only at hseen ⊢
    rw [hseen]
    exact hgrows _
  · rw [hclaim] at hseen
    obtain ⟨u, entries, hexec, hu⟩ := exec_attach hclaim
    have hbus : u.bus.seen = w.bus.seen ++ [.claim w.session.options.channel.number] := by
      rw [hu]
      exact hseen
    have hhas : Has w.session.options (claimedChip? w.session.options device w.bus) u.session := by
      rw [hu, claimedChip?, hclaim]
      exact ⟨rfl, rfl⟩
    obtain ⟨hsends, -⟩ := c.sends_start u hhas
    rw [hexec]
    rw [hbus] at hsends
    -- From here on the port claimed last is the one just granted.
    refine (hgrows _).trans (grows_of_adds hsends fun e he => ⟨he.unclaimed, ?_⟩)
    rw [lastClaim?_append_singleton]
    exact he.proper

lemma opened_of_chip (h : w.session.chip?.isSome) : ∃ l, w.session.binding = .opened l := by
  cases hbinding : w.session.binding with
  | opened l => exact ⟨l, rfl⟩
  | closed => simp [Session.chip?, link?, hbinding] at h
  | destroyed => simp [Session.chip?, link?, hbinding] at h

lemma chip?_closed (h : w.session.binding = .closed) : w.session.chip? = none := by
  rw [Session.chip?, link?, h]
  rfl

lemma Call.grows_openMatching (hc : c.opens = true) (filter : Device.Filter) :
    c.Grows w.session.options
      (w.session.chip?.or (foundChip? w.session.options filter w.toHost)) w.bus.seen
      (exec (Session.openMatching filter) w).2.bus.seen := by
  apply grows_opening
  intro hclosed
  have hfind (chip? : Option Chip) : c.Grows w.session.options chip? w.bus.seen
      (exec (Device.find w.session.options filter) w.toHost).2.bus.seen :=
    grows_of_adds ((searches_adds rfl).find filter w.toHost) proper_texts
  rw [chip?_closed hclosed, Option.none_or, foundChip?]
  rw [Attempt.exec_bind, exec_session]
  dsimp only
  rw [Attempt.exec_bind, exec_onHost]
  dsimp only
  rcases hexec : exec (Device.find w.session.options filter) w.toHost with ⟨e | device, host⟩
  · rw [hexec] at hfind
    exact hfind _
  · rw [hexec] at hfind
    exact (hfind _).trans (grows_attach hc device
      { w with toHost := host, session.lastError := none })

lemma Call.grows_openFound (hc : c.opens = true) (descriptor : Device.Descriptor δ) :
    c.Grows w.session.options
      (w.session.chip?.or (claimedChip? w.session.options descriptor.device w.bus)) w.bus.seen
      (exec (Session.openFound descriptor) w).2.bus.seen := by
  apply grows_opening
  intro hclosed
  rw [chip?_closed hclosed, Option.none_or]
  exact grows_attach hc descriptor.device { w with session.lastError := none }

lemma Call.chip?_of_not_opens (hc : c.opens = false) : c.chip? w = w.session.chip? := by
  cases c with
  | openFirst vendor product => cases hc
  | openMatching filter => cases hc
  | openFound descriptor => cases hc
  | _ => exact Option.or_none

lemma Call.grows_exchange (hc : c.exchanges = true) (h : Grounded w) :
    c.Grows w.session.options w.session.chip? w.bus.seen (c.step w).2.bus.seen := by
  obtain ⟨hsends, -⟩ := c.sends hc w ⟨rfl, rfl⟩
  apply grows_of_adds hsends
  intro e he
  obtain ⟨l, hl⟩ := opened_of_chip he.opened
  rw [(h l hl).lastClaim]
  exact ⟨he.unclaimed, he.proper⟩

lemma Call.grows_findAll (vendor product : UInt16) :
    c.Grows w.session.options chip? w.bus.seen
      ((Call.findAll vendor product).step w).2.bus.seen := by
  have hfindAll : Sends (Eq (.texts w.session.options.readTimeout)) w.session.options
      w.session.chip? (Session.findAll vendor product : Action (Probe β) κ _) :=
    sends_findAll rfl vendor product
  obtain ⟨hsends, -⟩ := hfindAll.map w ⟨rfl, rfl⟩
  exact grows_of_adds hsends proper_texts

lemma Call.grows_silent (hc : ∀ u, c.uses u → u = .release) :
    c.Grows o chip? w.bus.seen (c.step w).2.bus.seen := by
  suffices hseen : (c.step w).2.bus.seen = w.bus.seen from hseen ▸ .refl
  have hpath : ReflTransGen (Contact (· = .release)) w.bus (c.step w).2.bus := c.along hc w
  generalize (c.step w).2.bus = bus at hpath ⊢
  induction hpath with
  | refl => rfl
  | tail _ hcontact ih =>
    cases hcontact with
    | release handle _ => exact (Probe.quiet_release handle _).trans ih
    | _ => contradiction

lemma Call.grows (c : Call δ) (h : Grounded w) :
    c.Grows w.session.options (c.chip? w) w.bus.seen (c.step w).2.bus.seen := by
  cases c with
  | openFirst vendor product =>
    rw [Call.step, Call.run, seen_done]
    exact grows_openMatching rfl { vendor, product }
  | openMatching filter =>
    rw [Call.step, Call.run, seen_done]
    exact grows_openMatching rfl filter
  | openFound descriptor =>
    rw [Call.step, Call.run, seen_done]
    exact grows_openFound rfl descriptor
  | findAll vendor product => exact grows_findAll vendor product
  | close => exact grows_silent fun _ hu => hu
  | destroy | setChannel channel | setReadTimeout timeout | setWriteTimeout timeout
  | setWriteChunk n =>
    exact grows_silent fun _ hu => False.elim hu
  | _ =>
    rw [chip?_of_not_opens rfl]
    exact grows_exchange rfl h

end Steps

/-- The claim made last was granted to an opened session, on the channel it is set to, and each call
it makes goes to that channel with the timeout of its direction. -/
theorem port_kept [Transport β δ κ] {o : Options} {s : Session κ} (hs : create o = .ok s)
    (host : Host (Probe β)) (calls : List (Call δ)) {w : Hosted (Probe β) κ}
    (hw : (run { host with session := s } calls).2 = w) :
    (∀ l, w.session.binding = .opened l →
      Granted w l ∧ lastClaim? w.bus.seen = some w.session.options.channel.number) ∧
    ∀ c : Call δ, c.Grows w.session.options (c.chip? w) w.bus.seen (c.step w).2.bus.seen := by
  have hnew : Grounded ({ host with session := s } : Hosted (Probe β) κ) := by
    intro l hl
    cases (create_closed hs).symm.trans hl
  have hgrounded : Grounded w := hw ▸ run_grounded hnew calls
  exact ⟨fun l hl => ⟨hgrounded l hl, (hgrounded l hl).lastClaim⟩, fun c => c.grows hgrounded⟩

section Sample

open Sim (Bus DeviceId Handle)

def sampleTwin : Host (Probe Bus) where
  bus := { bus := { devices := [Sim.Device.blank 0x0403 0x6010 0x0700] } }

def sampleTwinCalls : List (Call DeviceId) :=
  [.setChannel .b, .openFirst 0x0403 0x6010, .setWriteTimeout (.ofMillis 250)]

theorem port_kept_second :
    let w := (run { sampleTwin with session := {} } sampleTwinCalls).2
    lastClaim? w.bus.seen = some 1 ∧
      (Call.setBaudRate 921600 : Call DeviceId).Grows w.session.options (some .ft2232H) w.bus.seen
        (w.bus.seen ++ [.controlOut 0x03 0x000D 0x0202 (.ofMillis 250)]) ∧
      (Call.write [7] : Call DeviceId).Grows w.session.options (some .ft2232H) w.bus.seen
        (w.bus.seen ++ [.bulkOut 0x04 1 (.ofMillis 250)]) := by
  intro w
  obtain ⟨hopened, hgrows⟩ :=
    port_kept (o := {}) (s := {}) rfl sampleTwin sampleTwinCalls (w := w) rfl
  have hlink : w.session.link?.isSome := by decide +kernel
  obtain ⟨l, hl⟩ := Option.isSome_iff_exists.mp hlink
  have hchannel : w.session.options.channel = .b := by decide +kernel
  have hchip (c : Call DeviceId) (hc : c.opens = false) : c.chip? w = some .ft2232H := by
    rw [c.chip?_of_not_opens hc]
    decide +kernel
  refine ⟨?_, ?_, ?_⟩
  · rw [(hopened l (link?_eq_some.mp hl)).2, hchannel]
    rfl
  · have hrate := hgrows (.setBaudRate 921600)
    have hseen : ((Call.setBaudRate 921600).step w).2.bus.seen =
        w.bus.seen ++ [.controlOut 0x03 0x000D 0x0202 (.ofMillis 250)] := by decide +kernel
    rwa [hchip _ rfl, hseen] at hrate
  · have hwrite := hgrows (.write [7])
    have hseen : ((Call.write [7]).step w).2.bus.seen =
        w.bus.seen ++ [.bulkOut 0x04 1 (.ofMillis 250)] := by decide +kernel
    rwa [hchip _ rfl, hseen] at hwrite

end Sample

end UsbSerial.Session
