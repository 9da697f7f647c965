import UsbSerial.Proofs.Session.Effect
import UsbSerial.Proofs.Session.Memory

namespace UsbSerial.Session.Memory

open Attempt (exec bind_ok)
open Eeprom (Decoded Image Settings)
open Receive (Opens)
open Relation (ReflTransGen)
open Sim (Bus Device DeviceId Handle)

variable {w w' : Hosted Bus Handle} {link link' : Link Handle} {d d' : Device}

section Search

def SameDevices (bus bus' : Bus) : Prop := ∀ id, bus'.device? id = bus.device? id

lemma searches_same (timeout : Duration) :
    Device.Searches timeout (fun h : Host Bus => h.bus) SameDevices where
  record _ _ := .refl
  enumerate host vendor product := .single fun id => by
    exact congrArg (Bus.device? · id) (Bus.exec_enumerate_snd host.bus vendor product)
  texts host device := .single fun id => Bus.device?_texts host.bus device id

lemma device?_find {options : Options} {filter : Device.Filter} {h h' : Host Bus}
    {r : Except Error DeviceId} (hfind : exec (Device.find options filter) h = (r, h'))
    (id : DeviceId) : h'.bus.device? id = h.bus.device? id := by
  have hpath : ReflTransGen SameDevices h.bus (exec (Device.find options filter) h).2.bus :=
    (searches_same _).find filter h
  rw [hfind] at hpath
  dsimp only at hpath
  generalize h'.bus = bus at hpath ⊢
  induction hpath with
  | refl => rfl
  | tail _ hsame ih => exact (hsame id).trans ih

end Search

section Opening

lemma Bound.relinked (h : Bound w link d) (hbinding : w'.session.binding = .opened link')
    (hbus : w'.bus = w.bus) (hhandle : link'.handle = link.handle)
    (hchip : link'.chip = link.chip) :
    Bound w' link' d where
  binding := hbinding
  device := by rw [hbus, hhandle, h.device]
  ready := h.ready
  chip := by rw [hchip, h.chip]

lemma Bound.resetEngine (h : Bound w link d) (hreset : exec resetEngine w = (.ok (), w')) :
    ∃ d', Bound w' { link with leftover := {} } d' ∧ d'.storage = d.storage := by
  obtain ⟨v, d', hout, h', hstorage⟩ := h.controlOut .reset .reset Request.resetEngine
    w.session.options.channel.index
  simp only [Session.resetEngine, Attempt.exec_bind, exec_channelIndex, hout, modifyLink,
    exec_modifySession] at hreset
  cases hreset
  refine ⟨d', h'.relinked ?_ rfl rfl rfl, ?_⟩
  · rw [mapLink_opened h'.binding]
  · rw [hstorage, Device.storage_obey, Request.ofCode?_code]

lemma Bound.programBaudRate (h : Bound w link d) {rate : UInt32}
    (hbaud : exec (programBaudRate rate) w = (.ok (), w')) :
    ∃ d', Bound w' { link with baudRate := rate } d' ∧ d'.storage = d.storage := by
  obtain ⟨value, index, v, log, hout, rfl⟩ := programBaudRate_ok hbaud
  obtain ⟨u, d', hout', h', hstorage⟩ := h.controlOut .setBaudRate .baudRate value index
  cases hout.symm.trans hout'
  refine ⟨d', h'.relinked ?_ rfl rfl rfl, ?_⟩
  · rw [mapLink_opened h'.binding]
  · rw [hstorage, Device.storage_obey, Request.ofCode?_code]

lemma Bound.start (h : Bound w link d) (hstart : exec start w = (.ok (), w')) :
    ∃ d', Bound w' { link with leftover := {}, baudRate := defaultBaudRate } d' ∧
      d'.storage = d.storage := by
  obtain ⟨⟨⟩, v, hreset, hbaud⟩ := bind_ok hstart
  obtain ⟨d₁, h₁, hstorage₁⟩ := h.resetEngine (orDetach_ok hreset)
  obtain ⟨d₂, h₂, hstorage₂⟩ := h₁.programBaudRate (orDetach_ok hbaud)
  exact ⟨d₂, h₂, hstorage₂.trans hstorage₁⟩

lemma attach_bound {device : DeviceId} (h : exec (attach device) w = (.ok (), w'))
    (hl : w'.session.binding = .opened link) (hd : w.bus.device? link.handle.device = some d)
    (hready : d.Ready) : ∃ d', Bound w' link d' ∧ link.chip = d.chip ∧ d'.storage = d.storage := by
  rcases hclaim : exec (Transport.claim device w.session.options.channel.number) w.bus
    with ⟨e | c, bus⟩
  · rw [exec_attach_refused hclaim] at h
    cases h
  obtain ⟨u, entries, hexec, hu⟩ := exec_attach hclaim
  rw [hexec] at h
  obtain ⟨l, hbinding, hhandle, hchip⟩ : ∃ l, u.session.binding = .opened l ∧
      l.handle = c.handle ∧ l.chip = Chip.detect c.facts.release c.facts.hasSerial :=
    ⟨_, by rw [hu], rfl, rfl⟩
  -- What is programmed after the claim leaves the handle, and with it the device, as it is.
  cases (binding_of_start hbinding h).symm.trans hl
  obtain ⟨d₀, hd₀, hplace, hfacts, hbus⟩ := Bus.claim_ok hclaim
  have hd : w.bus.device? device = some d := by rwa [← hplace, ← hhandle]
  cases hd₀.symm.trans hd
  have hchip : l.chip = d.chip := by
    rw [hchip, hfacts]
    rfl
  have hbound : Bound u l
      { d with
        claimed := d.claimed.setIfInBounds w.session.options.channel.number.toNat true } := by
    refine ⟨hbinding, ?_, ⟨hready.connected, hready.failing, hready.failingRequest,
      hready.length_storage⟩, hchip.symm⟩
    rw [hhandle, hplace, hu]
    dsimp only
    rw [hbus, Bus.device?_put w.bus hd]
  obtain ⟨d', h', hstorage⟩ := hbound.start h
  exact ⟨d', h', hchip, hstorage⟩

lemma opens_bound {m : Action Bus Handle Unit} (hm : Opens m) (h : exec m w = (.ok (), w'))
    (hl : w'.session.binding = .opened link) (hd : w.bus.device? link.handle.device = some d)
    (hready : d.Ready) : ∃ d', Bound w' link d' ∧ link.chip = d.chip ∧ d'.storage = d.storage := by
  cases hm with
  | first vendor product =>
    obtain ⟨-, device, v, hfind, -, hattach⟩ := openMatching_ok h
    exact attach_bound hattach hl ((device?_find hfind _).trans hd) hready
  | matching filter =>
    obtain ⟨-, device, v, hfind, -, hattach⟩ := openMatching_ok h
    exact attach_bound hattach hl ((device?_find hfind _).trans hd) hready
  | found descriptor =>
    obtain ⟨-, hattach⟩ := openFound_ok h
    exact attach_bound hattach hl hd hready

end Opening

section Loading

lemma storage_loaded (image : Image) (hready : d.Ready)
    (hsize : image.size = .bytes128 ∨ image.size = .bytes256)
    (hle : image.size.bytes ≤ d.chip.eepromBytes) :
    ∃ above, (d.withStorage image.bytes).storage = image.bytes ++ above ∧
      image.size.bytes + above.length = d.chip.eepromBytes ∧
      (image.size.bytes = d.chip.eepromBytes ∨ above = image.bytes) := by
  have hlen := image.length_bytes
  have hchip : d.chip.eepromBytes = 128 ∨ d.chip.eepromBytes = 256 := by
    cases d.chip <;> decide
  have hbytes : image.bytes ≠ [] := by
    intro hnil
    have hpos := image.size.bytes_pos
    rw [← hlen, hnil] at hpos
    exact Nat.lt_irrefl 0 hpos
  obtain ⟨n, hn⟩ := Nat.exists_eq_add_of_le hle
  refine ⟨_, Device.storage_withStorage hbytes (by rw [hready.length_storage, hn, hlen]), ?_, ?_⟩
  · rw [List.length_map, List.length_range, hn]
  · by_cases hfull : n = 0
    · exact .inl (by omega)
    · have hhalf : n = image.bytes.length := by
        rw [hlen]
        rcases hsize with hsize | hsize
        · rw [hsize, Eeprom.Size.bytes] at hn ⊢
          omega
        · rw [hsize, Eeprom.Size.bytes] at hn
          omega
      rw [hhalf]
      exact .inr (Device.range_map_getD image.bytes)

end Loading

/-- A device that was loaded with what is encoded for its chip gives it back to the session that
opened it, however much of the storage the image fills. -/
theorem loaded_read_back {m : Action Bus Handle Unit} (hm : Opens m)
    (hopen : exec m w = (.ok (), w')) (hl : w'.session.binding = .opened link) (hready : d.Ready)
    {s : Settings} {image : Image} (hs : s.encode link.chip = .ok image)
    (hd : w.bus.device? link.handle.device = some (d.withStorage image.bytes)) :
    ∃ w'' read, (Call.readEeprom : Call DeviceId).step w' = (.ok (.image read), w'') ∧
      read.chip = image.chip ∧ read.size = image.size ∧ read.bytes = image.bytes ∧
      ∃ kept, read.decode.map Decoded.settings = .ok kept ∧
        image.decode.map Decoded.settings = .ok kept := by
  obtain ⟨d', hbound, hchip, hstorage⟩ := opens_bound hm hopen hl hd (hready.withStorage _)
  obtain ⟨w'', -, hread, -⟩ := hbound.readEeprom
  obtain ⟨size, hfits, rfl⟩ := Settings.fits_of_encode hs
  obtain ⟨-, hsize, hle⟩ := Settings.imageSize?_eq_some hfits.size_eq
  have hsame : (d.withStorage (s.image link.chip size).bytes).chip = d.chip := by
    unfold Device.withStorage
    split <;> rfl
  rw [hsame] at hchip
  obtain ⟨above, habove, hroom, hcond⟩ := storage_loaded (s.image link.chip size) hready hsize
    (hchip ▸ hle)
  rw [← hchip, Settings.size_image] at hroom hcond
  rw [hstorage, habove] at hread
  have hdump := hfits.size_dump hroom
  rw [if_pos hcond] at hdump
  have halike := Settings.Fits.alike_dump hdump
  refine ⟨w'', _, ?_, halike.chip, halike.size, halike.bytes, (hfits.decode_dump hroom).mpr hcond⟩
  simp only [Call.step, Call.run, Attempt.exec_map, hread]

section Sample

def loadedHost : Hosted Bus Handle :=
  { Receive.sample 0 [] .closed with
    bus := { devices :=
      [(Device.blank 0x0403 0x6001 0x0400).withStorage (stock.image .bm .bytes128).bytes] } }

theorem loaded_read_back_stock :
    ∃ w' w'' read, exec (openFirst 0x0403 0x6001) loadedHost = (.ok (), w') ∧
      (Call.readEeprom : Call DeviceId).step w' = (.ok (.image read), w'') ∧
      read.size = .bytes128 ∧ read.bytes = (stock.image .bm .bytes128).bytes := by
  generalize hexec : exec (openFirst 0x0403 0x6001) loadedHost = opened
  have hok : (exec (openFirst 0x0403 0x6001) loadedHost).1 = .ok () := by decide +kernel
  have hl : (exec (openFirst 0x0403 0x6001) loadedHost).2.session.binding = .opened bareLink := by
    decide +kernel
  obtain ⟨r, w'⟩ := opened
  rw [hexec] at hok hl
  cases hok
  obtain ⟨w'', read, hread, -, hsize, hbytes, -⟩ :=
    loaded_read_back (.first 0x0403 0x6001) hexec hl (Device.ready_blank 0x0403 0x6001 0x0400)
      stock_fits.encode_eq rfl
  exact ⟨w', w'', read, rfl, hread, hsize, hbytes⟩

end Sample

end UsbSerial.Session.Memory
