import UsbSerial.Proofs.Eeprom.Dump
import UsbSerial.Proofs.Session.Receive
import UsbSerial.Proofs.Session.Requests

namespace UsbSerial.Session.Memory

open Attempt (exec)
open Eeprom (Decoded Image Settings)
open Sim (Bus Control Device DeviceId Handle)

variable {w w' : Hosted Bus Handle} {link : Link Handle} {d d' : Device}

structure Served (w : Hosted Bus Handle) (link : Link Handle) (d : Device) : Prop where
  binding : w.session.binding = .opened link
  device : w.bus.device? link.handle.device = some d
  sound : d.Sound

def replaced (w : Hosted Bus Handle) (link : Link Handle) (d : Device) (log : List Log.Entry) :
    Hosted Bus Handle :=
  { w with bus := w.bus.update link.handle.device fun _ => d, log }

lemma replaced_replaced (log log' : List Log.Entry) :
    replaced (replaced w link d log) link d' log' = replaced w link d' log' := by
  simp only [replaced, Bus.update_put]

namespace Served

variable (h : Served w link d)
include h

lemma replaced_self : replaced w link d w.log = w := by
  rw [replaced, Bus.update_self h.device]

lemma put (hsound : d'.Sound) (log : List Log.Entry) :
    Served (replaced w link d' log) link d' where
  binding := h.binding
  device := Bus.device?_put w.bus h.device d'
  sound := hsound

lemma issues {m : Action Bus Handle Unit} {cs : List Control}
    (hm : Issues link w.session.options m cs) :
    ∃ log, exec m w = (.ok (), replaced w link (cs.foldl Device.told d) log) := by
  obtain ⟨issued, r, bus, log, hissued, hexec⟩ := hm w h.binding rfl
  obtain ⟨rfl, rfl⟩ := hissued.sound h.device h.sound
  exact ⟨log, hexec⟩

end Served

structure Bound (w : Hosted Bus Handle) (link : Link Handle) (d : Device) : Prop where
  binding : w.session.binding = .opened link
  device : w.bus.device? link.handle.device = some d
  ready : d.Ready
  chip : d.chip = link.chip

section Words

lemma Bound.moved (h : Bound w link d) (hbinding : w'.session.binding = w.session.binding)
    (hbus : w'.bus = w.bus.update link.handle.device fun _ => d') (hready : d'.Ready)
    (hchip : d'.chip = d.chip) : Bound w' link d' where
  binding := hbinding.trans h.binding
  device := by rw [hbus, Bus.device?_put w.bus h.device]
  ready := hready
  chip := hchip.trans h.chip

lemma Bound.served (h : Bound w link d) : Served w link d := ⟨h.binding, h.device, h.ready.sound⟩

lemma Bound.controlOut (h : Bound w link d) (operation : Operation) (request : Request)
    (value index : UInt16) :
    ∃ w' d', exec (controlOut operation request value index) w = (.ok (), w') ∧
      Bound w' link d' ∧
      d'.storage = (d.obey { request := request.code, value, index }).storage := by
  obtain ⟨log, hexec⟩ := h.served.issues (issues_controlOut operation request value index)
  refine ⟨_, _, hexec, h.moved rfl rfl (h.ready.told _) (Device.chip_told _ _), ?_⟩
  rw [List.foldl_cons, List.foldl_nil, Device.told, Device.storage_obey, Device.storage_obey]
  rfl

lemma Bound.length_storage (h : Bound w link d) :
    d.storage.length = 2 * link.chip.eepromWords := by
  rw [Device.length_words h.ready.length_storage, h.chip]

lemma toNat_toUInt16 {chip : Chip} {address : ℕ} (haddress : address < chip.eepromWords) :
    address.toUInt16.toNat = address := by
  have hwords : chip.eepromWords < 2 ^ 16 := by cases chip <;> decide
  exact Nat.mod_eq_of_lt (Nat.lt_trans haddress hwords)

lemma Bound.toUInt16 (h : Bound w link d) {address : ℕ}
    (haddress : address < link.chip.eepromWords) :
    address.toUInt16.toNat = address ∧ address.toUInt16.toNat < d.chip.eepromWords := by
  have heq := toNat_toUInt16 haddress
  exact ⟨heq, by rw [heq, h.chip]; exact haddress⟩

lemma exec_memoryWord {β δ κ : Type} [Transport β δ κ] {w : Hosted β κ} {link : Link κ}
    (h : w.session.binding = .opened link) (operation : Operation) {address word : UInt16} {bus : β}
    (hbus : exec (Transport.controlIn link.handle Request.readWord.code 0 address 2
      w.session.options.readTimeout) w.bus = (.ok (Word.bytes word), bus)) :
    ∃ log, exec (memoryWord operation address) w = (.ok word, { w with bus, log }) := by
  simp [memoryWord, Session.controlIn, exec_link, h, hbus, Word.bytes, Reply.word]

def asking (address : UInt16) : Control where
  request := Request.readWord.code
  value := 0
  index := address

lemma memoryWord_outcome (h : w.session.binding = .opened link)
    (hd : w.bus.device? link.handle.device = some d) (operation : Operation)
    {address word : UInt16} (hreply : d.reply (asking address) = .ok (Word.bytes word)) :
    (∃ e failing, exec (memoryWord operation address) w =
      (.error (.transport e), replaced w link { d with failing } w.log)) ∨
    ∃ log, exec (memoryWord operation address) w =
      (.ok word, replaced w link (d.recorded [asking address]) log) := by
  have hbus : exec (Transport.controlIn link.handle Request.readWord.code 0 address 2
      w.session.options.readTimeout) w.bus = _ :=
    Bus.exec_on hd (Device.controlIn (asking address) 2 w.session.options.readTimeout)
  rcases Device.exec_controlIn (asking address) 2 w.session.options.readTimeout d
    with ⟨e, d', hin, hfailing⟩ | hin
  · rw [hin, hfailing] at hbus
    refine .inl ⟨e, d'.failing, ?_⟩
    simp [memoryWord, Session.controlIn, exec_link, h, hbus, replaced]
  · rw [hin, hreply] at hbus
    exact .inr (exec_memoryWord h operation hbus)

lemma Served.memoryWord (h : Served w link d) (operation : Operation) {address word : UInt16}
    (hreply : d.reply (asking address) = .ok (Word.bytes word)) :
    ∃ log, exec (memoryWord operation address) w =
      (.ok word, replaced w link (d.recorded [asking address]) log) := by
  have hbus : exec (Transport.controlIn link.handle Request.readWord.code 0 address 2
      w.session.options.readTimeout) w.bus = _ :=
    Bus.exec_on h.device (Device.controlIn (asking address) 2 w.session.options.readTimeout)
  rw [h.sound.exec_controlIn hreply] at hbus
  exact exec_memoryWord h.binding operation hbus

lemma Served.words (h : Served w link d) (operation : Operation) {word : ℕ → UInt16}
    {addresses : List ℕ} (hreply : ∀ address ∈ addresses,
      d.reply (asking address.toUInt16) = .ok (Word.bytes (word address))) :
    ∃ log, exec (addresses.mapM fun address => Session.memoryWord operation address.toUInt16) w =
      (.ok (addresses.map word),
        replaced w link (d.recorded (addresses.map fun address => asking address.toUInt16))
          log) := by
  induction addresses generalizing w d with
  | nil =>
    refine ⟨w.log, ?_⟩
    simp only [List.map_nil, Device.recorded_nil, h.replaced_self]
    rfl
  | cons address addresses ih =>
    obtain ⟨log₁, hword⟩ := h.memoryWord operation (hreply address List.mem_cons_self)
    obtain ⟨log₂, hrest⟩ := ih (h.put (h.sound.recorded _) log₁)
      fun a ha => hreply a (List.mem_cons_of_mem address ha)
    refine ⟨log₂, ?_⟩
    rw [List.mapM_cons, Attempt.exec_bind, hword]
    dsimp only
    rw [Attempt.exec_bind, hrest, replaced_replaced, Device.recorded_recorded]
    rfl

lemma Served.readEeprom (h : Served w link d) {word : ℕ → UInt16}
    (hreply : ∀ address < link.chip.eepromWords,
      d.reply (asking address.toUInt16) = .ok (Word.bytes (word address))) :
    ∃ log, exec readEeprom w =
      (.ok (Eeprom.Dump.image link.chip
          (((List.range link.chip.eepromWords).map word).flatMap Word.bytes)),
        replaced w link (d.recorded ((List.range link.chip.eepromWords).map fun address =>
          asking address.toUInt16)) log) := by
  obtain ⟨log, hwords⟩ := h.words .readEeprom fun address haddress =>
    hreply address (List.mem_range.mp haddress)
  simp only [Session.readEeprom, exec_tracked, Attempt.exec_bind, exec_link, h.binding, hwords,
    exec_note, Attempt.exec_pure]
  exact ⟨_, rfl⟩

lemma Bound.reply (h : Bound w link d) {address : ℕ} (haddress : address < link.chip.eepromWords) :
    d.reply (asking address.toUInt16) = .ok (Word.bytes (Word.read d.storage address)) := by
  obtain ⟨heq, hlt⟩ := h.toUInt16 haddress
  have hreply := Device.reply_readWord h.ready.length_storage hlt
  rwa [heq] at hreply

lemma Bound.memoryWord (h : Bound w link d) (operation : Operation) {address : ℕ}
    (haddress : address < link.chip.eepromWords) :
    ∃ w' d', exec (memoryWord operation address.toUInt16) w =
        (.ok (Word.read d.storage address), w') ∧
      Bound w' link d' ∧ d'.storage = d.storage := by
  obtain ⟨log, hexec⟩ := h.served.memoryWord operation (h.reply haddress)
  exact ⟨_, _, hexec, h.moved rfl rfl (h.ready.recorded _) rfl, rfl⟩

end Words

section Orders

def storing (word : UInt16 × ℕ) : Control where
  request := Request.writeWord.code
  value := word.1
  index := word.2.toUInt16

lemma told_storing (h : d.Ready) {address : ℕ} (haddress : address < d.chip.eepromWords)
    (value : UInt16) : d.told (storing (value, address)) =
      { d with
        storage := d.storage.take (2 * address) ++ Word.bytes value ++
          d.storage.drop (2 * address + 2)
        controls := d.controls ++ [storing (value, address)] } := by
  have heq := toNat_toUInt16 haddress
  have hlt : address.toUInt16.toNat < d.chip.eepromWords := by rwa [heq]
  have hstore := Device.storeWord_eq
    (d := { d with controls := d.controls ++ [storing (value, address)] })
    (Device.two_mul_lt h.length_storage hlt) value
  rw [heq] at hstore
  rw [Device.told, Device.obey]
  exact hstore

lemma foldl_storing (h : d.Ready) (words : List UInt16) {k : ℕ}
    (hk : k + words.length ≤ d.chip.eepromWords) :
    ((words.zipIdx k).map storing).foldl Device.told d =
      { d with
        storage := d.storage.take (2 * k) ++ words.flatMap Word.bytes ++
          d.storage.drop (2 * (k + words.length))
        controls := d.controls ++ (words.zipIdx k).map storing } := by
  induction words generalizing k d with
  | nil =>
    rw [List.flatMap_nil, List.append_nil, List.length_nil, Nat.add_zero, List.take_append_drop,
      List.zipIdx_nil, List.map_nil, List.append_nil]
    rfl
  | cons value words ih =>
    rw [List.length_cons] at hk
    have hslot : k < d.chip.eepromWords := by omega
    have hrest : k + 1 + words.length ≤ (d.told (storing (value, k))).chip.eepromWords := by
      rw [Device.chip_told]
      omega
    rw [List.zipIdx_cons, List.map_cons, List.foldl_cons, ih (h.told _) hrest,
      told_storing h hslot]
    -- The words that follow leave the front alone, with this word at its end.
    have hlen := Device.length_words h.length_storage
    have hfront : (d.storage.take (2 * k) ++ Word.bytes value).length = 2 * (k + 1) := by
      rw [List.length_append, List.length_take_of_le (by omega)]
      rfl
    have hback : 2 * (k + 1 + words.length) =
        (d.storage.take (2 * k) ++ Word.bytes value).length + 2 * words.length := by
      omega
    have hend : 2 * k + 2 + 2 * words.length = 2 * (k + (words.length + 1)) := by omega
    dsimp only
    rw [List.take_left' hfront, hback, List.drop_length_add_append, List.drop_drop, hend,
      List.flatMap_cons, List.length_cons]
    simp only [List.append_assoc, List.singleton_append]

def orders (index : UInt16) (image : Image) : List Control :=
  { request := 0x00, value := 0, index } :: { request := 0x09, value := 0x77, index } ::
    (List.range image.size.words).map fun k =>
      { request := 0x91, value := image.word k, index := k.toUInt16 }

lemma orders_eq (index : UInt16) (image : Image) : orders index image =
    [{ request := Request.reset.code, value := Request.resetEngine, index }] ++
      ([{ request := Request.setLatency.code, value := writingLatency, index }] ++
        image.words.zipIdx.map storing) := by
  have hwords : image.words.zipIdx.map storing = (List.range image.size.words).map fun k =>
      { request := 0x91, value := image.word k, index := k.toUInt16 } := by
    apply List.ext_getElem
    · simp only [Image.words, List.length_map, List.length_zipIdx]
    · intro k _ _
      simp only [Image.words, List.getElem_map, List.getElem_zipIdx, List.getElem_range,
        Nat.zero_add]
      rfl
  rw [hwords]
  rfl

lemma issues_writeEeprom {β δ κ : Type} [Transport β δ κ] {link : Link κ} (o : Options)
    {image : Image} (hchip : image.chip = link.chip) :
    ∃ m : Action β κ Unit, writeEeprom image = tracked m ∧
      Issues link o m (orders o.channel.index image) := by
  refine ⟨_, rfl, issues_link_bind _ ?_⟩
  dsimp only
  rw [if_neg (not_not_intro hchip), orders_eq]
  apply issues_channelIndex_bind
  apply (issues_controlOut _ _ _ _).then
  apply issues_channelIndex_bind
  apply (issues_controlOut _ _ _ _).then
  rw [← List.append_nil (List.map _ _)]
  exact (Issues.forM (fun _ => issues_controlOut _ _ _ _) _).then (issues_note _ _)

def written (index : UInt16) (image : Image) (d : Device) : Device :=
  { d with
    storage := image.bytes ++ d.storage.drop image.size.bytes
    queue := []
    mode := 0
    latency := 0x77
    controls := d.controls ++ orders index image }

lemma foldl_orders (h : d.Ready) (index : UInt16) (image : Image)
    (hsize : image.size.bytes ≤ d.chip.eepromBytes) :
    (orders index image).foldl Device.told d = written index image d := by
  have hlen : image.words.length = image.size.words := by
    rw [Image.words, List.length_map, List.length_range]
  have hfit : 0 + image.words.length ≤ d.chip.eepromWords := by
    rw [hlen, Nat.zero_add]
    exact Nat.div_le_div_right hsize
  have hready :=
    (h.told { request := Request.reset.code, value := Request.resetEngine, index }).told
      { request := Request.setLatency.code, value := writingLatency, index }
  rw [written, orders_eq, List.foldl_append, List.foldl_append]
  refine (foldl_storing hready image.words hfit).trans ?_
  rw [hlen, Nat.zero_add, Image.flatMap_words, Eeprom.Size.two_mul_words, ← List.append_assoc,
    ← List.append_assoc]
  rfl

end Orders

section Images

lemma Bound.length_above (h : Bound w link d) (size : Eeprom.Size)
    (hsize : size.bytes ≤ link.chip.eepromBytes) :
    size.bytes + (d.storage.drop size.bytes).length = link.chip.eepromBytes := by
  rw [List.length_drop, h.ready.length_storage, h.chip]
  omega

lemma Bound.writeEeprom (h : Bound w link d) (image : Image) (hchip : image.chip = link.chip)
    (hsize : image.size.bytes ≤ link.chip.eepromBytes) :
    ∃ w', exec (writeEeprom image) w = (.ok (), w') ∧ w'.session = w.session ∧
      w'.bus = w.bus.update link.handle.device
        (fun _ => written w.session.options.channel.index image d) ∧
      Bound w' link (written w.session.options.channel.index image d) := by
  rw [← h.chip] at hsize
  obtain ⟨m, hwrite, hm⟩ := issues_writeEeprom (β := Bus) w.session.options hchip
  obtain ⟨log, hexec⟩ := h.served.issues hm
  rw [foldl_orders h.ready _ _ hsize] at hexec
  have hwritten : exec (Session.writeEeprom image) w = exec m w := by
    rw [hwrite, exec_tracked, hexec]
  have hready : (written w.session.options.channel.index image d).Ready := by
    refine ⟨h.ready.connected, h.ready.failing, h.ready.failingRequest, ?_⟩
    have hlen := h.ready.length_storage
    simp only [written, List.length_append, List.length_drop, Image.length_bytes]
    exact (Nat.add_sub_of_le (by omega)).trans hlen
  exact ⟨_, hwritten.trans hexec, rfl, rfl, h.moved rfl rfl hready rfl⟩

lemma Bound.readEeprom (h : Bound w link d) :
    ∃ w' d', exec readEeprom w = (.ok (Eeprom.Dump.image link.chip d.storage), w') ∧
      Bound w' link d' ∧ d'.storage = d.storage := by
  obtain ⟨log, hexec⟩ := h.served.readEeprom fun _ => h.reply
  rw [Word.flatMap_read h.length_storage] at hexec
  exact ⟨_, _, hexec, h.moved rfl rfl (h.ready.recorded _) rfl, rfl⟩

lemma Bound.write_read (h : Bound w link d) {s : Settings} {image : Image}
    (hs : s.encode link.chip = .ok image) :
    ∃ w₁ w₂, (Call.writeEeprom image : Call DeviceId).step w = (.ok .done, w₁) ∧
      (Call.readEeprom : Call DeviceId).step w₁ =
        (.ok (.image (Eeprom.Dump.image link.chip
          (image.bytes ++ d.storage.drop image.size.bytes))), w₂) := by
  obtain ⟨size, hfits, rfl⟩ := Settings.fits_of_encode hs
  obtain ⟨-, -, hsize⟩ := Settings.imageSize?_eq_some hfits.size_eq
  obtain ⟨w₁, hwrite, -, -, h₁⟩ := h.writeEeprom (s.image link.chip size) rfl hsize
  obtain ⟨w₂, d₂, hread, -⟩ := h₁.readEeprom
  refine ⟨w₁, w₂, ?_, ?_⟩
  · simp only [Call.step, Call.run, Call.run.done, Attempt.exec_bind, hwrite, Attempt.exec_pure]
  · simp only [Call.step, Call.run, Attempt.exec_map, hread]
    rfl

end Images

/-- What is encoded for a chip can be written to it and read back; it decodes like the image just
when that fills the EEPROM or is repeated by what is stored above it. -/
theorem write_read_decode (h : Bound w link d) {s : Settings} {image : Image}
    (hs : s.encode link.chip = .ok image) :
    ∃ w₁ w₂ read, (Call.writeEeprom image : Call DeviceId).step w = (.ok .done, w₁) ∧
      (Call.readEeprom : Call DeviceId).step w₁ = (.ok (.image read), w₂) ∧
      ((∃ kept, read.decode.map Decoded.settings = .ok kept ∧
          image.decode.map Decoded.settings = .ok kept) ↔
        image.size.bytes = link.chip.eepromBytes ∨
          d.storage.drop image.size.bytes = image.bytes) ∧
      (¬ (image.size.bytes = link.chip.eepromBytes ∨
          d.storage.drop image.size.bytes = image.bytes) →
        read.size = .bytes256 ∧
          ∀ kept, read.decode.map Decoded.settings = .ok kept → kept.size = 256) := by
  obtain ⟨w₁, w₂, hwrite, hread⟩ := h.write_read hs
  refine ⟨w₁, w₂, _, hwrite, hread, ?_⟩
  obtain ⟨size, hfits, rfl⟩ := Settings.fits_of_encode hs
  obtain ⟨-, -, hsize⟩ := Settings.imageSize?_eq_some hfits.size_eq
  have habove := h.length_above size hsize
  refine ⟨hfits.decode_dump habove, fun hother => ?_⟩
  have hdump := (hfits.size_dump habove).trans (if_neg hother)
  refine ⟨hdump, fun kept hkept => ?_⟩
  exact (Image.size_of_decode hkept).trans (congrArg Eeprom.Size.bytes hdump)

section Sample

def bare : Device :=
  { Device.blank 0x0403 0x6001 0x0400 with
    claimed := #v[true, false, false, false]
    controls :=
      [{ request := Request.reset.code, value := 0, index := 1 },
        { request := Request.baudRate.code, value := 0x4138, index := 0 }] }

def bareLink : Link Handle where
  handle := { device := { place := 0 }, channel := 0, facts := bare.facts }
  chip := .bm
  packetBytes := 64
  baudRate := 9600

def bareHost : Hosted Bus Handle :=
  ((Call.openFirst 0x0403 0x6001 : Call DeviceId).step
    { Receive.sample 0 [] .closed with
      bus := { devices := [Device.blank 0x0403 0x6001 0x0400] } }).2

lemma bare_bound : Bound bareHost bareLink bare where
  binding := rfl
  device := by decide +kernel
  ready := ⟨rfl, rfl, rfl, (Device.ready_blank 0x0403 0x6001 0x0400).length_storage⟩
  chip := rfl

theorem write_read_decode_whole :
    let s : Settings := { size := 256 }
    ∃ w₁ w₂ read kept,
      (Call.writeEeprom (s.image .bm .bytes256) : Call DeviceId).step bareHost = (.ok .done, w₁) ∧
      (Call.readEeprom : Call DeviceId).step w₁ = (.ok (.image read), w₂) ∧
      read.decode.map Decoded.settings = .ok kept ∧
      (s.image .bm .bytes256).decode.map Decoded.settings = .ok kept := by
  intro s
  have hs : s.encode .bm = .ok (s.image .bm .bytes256) := rfl
  obtain ⟨w₁, w₂, read, hwrite, hread, hdecode, -⟩ := write_read_decode bare_bound hs
  obtain ⟨kept, hkept⟩ := hdecode.mpr (.inl rfl)
  exact ⟨w₁, w₂, read, kept, hwrite, hread, hkept⟩

def stock : Settings := Settings.defaults .bm none none none

lemma stock_fits : Settings.Fits .bm .bytes128 stock := ⟨rfl, by decide +kernel, by decide +kernel⟩

theorem stock_not_read_back :
    Bound bareHost bareLink bare ∧ stock.encode bareLink.chip = .ok (stock.image .bm .bytes128) ∧
      ∃ w₁ w₂ read e,
        (Call.writeEeprom (stock.image .bm .bytes128) : Call DeviceId).step bareHost =
          (.ok .done, w₁) ∧
        (Call.readEeprom : Call DeviceId).step w₁ = (.ok (.image read), w₂) ∧
        read.decode = .error e := by
  obtain ⟨w₁, w₂, hwrite, hread⟩ := bare_bound.write_read stock_fits.encode_eq
  have hsize := stock_fits.size_dump (bare_bound.length_above .bytes128 (by decide))
  have hother : bare.storage.drop Eeprom.Size.bytes128.bytes ≠
      (stock.image .bm .bytes128).bytes := by
    intro heq
    have hbyte := Image.getD_bytes (stock.image .bm .bytes128) (k := 0x08) (by decide)
    rw [← heq, stock_fits.byte_attributes] at hbyte
    exact (Eeprom.Header.attributes_bounds stock).2 hbyte.symm
  rw [if_neg (not_or.mpr ⟨by decide, hother⟩)] at hsize
  obtain ⟨e, he⟩ := Image.decode_error (stock_fits.read_above hsize rfl (by decide +kernel))
  exact ⟨bare_bound, stock_fits.encode_eq, w₁, w₂, _, e, hwrite, hread, he⟩

end Sample

end UsbSerial.Session.Memory
