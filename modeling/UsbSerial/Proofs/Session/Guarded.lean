import UsbSerial.Proofs.Access
import UsbSerial.Proofs.Attempt
import UsbSerial.Proofs.Session.Action
import UsbSerial.Proofs.Session.Stream
import UsbSerial.Session.Call

/-! Operations that check each of their accesses by place, and stop at one that is out of range.
They do what the operations do that check none. -/

namespace UsbSerial.Session

open Access
open Attempt (exec)

inductive Stop
  | failed (e : Error)
  | overrun
  deriving DecidableEq

abbrev Guarded (β κ α : Type) := Attempt (Hosted β κ) Stop α

namespace Guarded

variable {σ β δ κ α γ ι : Type}

section Trust

def trust (m : Attempt σ Error α) : Attempt σ Stop α :=
  .of fun s => ((exec m s).1.mapError .failed, (exec m s).2)

def access : Option α → Attempt σ Stop α
  | some a => pure a
  | none => throw .overrun

def recover (m : Attempt σ Stop α) (handle : Error → Attempt σ Stop α) : Attempt σ Stop α :=
  tryCatch m fun
    | .failed e => handle e
    | .overrun => throw .overrun

@[simp] lemma access_some (a : α) : (access (some a) : Attempt σ Stop α) = pure a := rfl

@[simp] lemma exec_trust (m : Attempt σ Error α) (s : σ) :
    exec (trust m) s = ((exec m s).1.mapError .failed, (exec m s).2) := rfl

@[simp] lemma trust_pure (a : α) : trust (pure a : Attempt σ Error α) = pure a := rfl

@[simp] lemma trust_throw (e : Error) :
    trust (throw e : Attempt σ Error α) = throw (.failed e) := rfl

@[simp] lemma trust_get : trust (get : Attempt σ Error σ) = get := rfl

@[simp] lemma trust_bind (m : Attempt σ Error α) (f : α → Attempt σ Error γ) :
    trust (m >>= f) = trust m >>= fun a => trust (f a) := by
  ext s : 1
  rcases hexec : exec m s with ⟨e | a, t⟩ <;> simp [hexec]

@[simp] lemma trust_map (f : α → γ) (m : Attempt σ Error α) : trust (f <$> m) = f <$> trust m := by
  ext s : 1
  rcases hexec : exec m s with ⟨e | a, t⟩ <;> simp [hexec]

@[simp] lemma trust_ite (p : Prop) [Decidable p] (m m' : Attempt σ Error α) :
    trust (if p then m else m') = if p then trust m else trust m' :=
  apply_ite trust p m m'

lemma trust_mapM (f : ι → Attempt σ Error α) (is : List ι) :
    trust (is.mapM f) = is.mapM fun i => trust (f i) := by
  induction is with
  | nil => rfl
  | cons i is ih => simp only [List.mapM_cons, trust_bind, trust_pure, ih]

lemma trust_forM (f : ι → Attempt σ Error PUnit) (is : List ι) :
    trust (forM is f) = forM is fun i => trust (f i) := by
  induction is with
  | nil => rfl
  | cons i is ih => simp only [List.forM_cons, trust_bind, ih]

lemma forM_congr {f g : ι → Attempt σ Stop PUnit} {is : List ι} (h : ∀ i ∈ is, f i = g i) :
    forM is f = forM is g := by
  induction is with
  | nil => rfl
  | cons i is ih =>
    rw [List.forM_cons, List.forM_cons, h i List.mem_cons_self,
      ih fun j hj => h j (List.mem_cons_of_mem _ hj)]

lemma recover_trust (m : Attempt σ Error α) (handle : Error → Attempt σ Error α) :
    recover (trust m) (fun e => trust (handle e)) = trust (tryCatch m handle) := by
  ext s : 1
  rcases hexec : exec m s with ⟨e | a, t⟩ <;> simp [recover, hexec]

lemma length_mapM {f : ι → Attempt σ Error α} {is : List ι} {as : List α} {s t : σ}
    (h : exec (is.mapM f) s = (.ok as, t)) : as.length = is.length := by
  induction is generalizing s as with
  | nil =>
    cases h
    rfl
  | cons i is ih =>
    rw [List.mapM_cons] at h
    obtain ⟨a, u, -, h⟩ := Attempt.bind_ok h
    obtain ⟨more, v, hmore, h⟩ := Attempt.bind_ok h
    cases h
    rw [List.length_cons, ih hmore, List.length_cons]

lemma trust_bind_congr {m : Attempt σ Error α} {f g : α → Attempt σ Stop γ}
    (h : ∀ s a t, exec m s = (.ok a, t) → f a = g a) : trust m >>= f = trust m >>= g := by
  ext s : 1
  rw [Attempt.exec_bind, Attempt.exec_bind, exec_trust]
  rcases hexec : exec m s with ⟨e | a, t⟩
  · rfl
  · dsimp only [Host.mapError_ok]
    rw [h s a t hexec]

end Trust

def tracked (m : Guarded β κ α) : Guarded β κ α :=
  recover m fun e => trust (Session.tracked (throw e))

lemma tracked_trust (m : Action β κ α) : tracked (trust m) = trust (Session.tracked m) :=
  recover_trust m fun e => Session.tracked (throw e)

def onHost (m : Attempt (Host β) Stop α) : Guarded β κ α :=
  .of fun w => ((exec m w.toHost).1, { w with toHost := (exec m w.toHost).2 })

lemma onHost_trust (m : Attempt (Host β) Error α) :
    (onHost (trust m) : Guarded β κ α) = trust (Session.onHost m) := rfl

def done (m : Guarded β κ Unit) : Guarded β κ (Answer δ) := do
  m
  return .done

lemma done_trust (m : Action β κ Unit) :
    (done (trust m) : Guarded β κ (Answer δ)) = trust (Call.run.done m) := by
  rw [done, Call.run.done, trust_bind, trust_pure]

variable [Transport β δ κ]

section Searching

def describe (options : Options) (device : δ) :
    Attempt (Host β) Stop (Device.Descriptor δ) := do
  let ids := Transport.ids device (← get).bus
  let texts ← trust (Device.readTexts options device)
  trust (Host.note .trace
    (Device.idText ids.vendor ids.product ++ " " ++ Device.textsText texts))
  access (Device.Descriptor.ofTexts? device ids texts options.textLimit)

def findAll (vendor product : UInt16) : Guarded β κ (List (Device.Descriptor δ)) := tracked do
  trust (require .findAll fun _ => true)
  let options := (← trust session).options
  onHost do
    let found ← (← trust (Device.enumerate vendor product)).mapM (describe options)
    trust (Host.note .debug
      s!"found {found.length} device(s) matching {Device.idText vendor product}")
    return found

lemma describe_eq (options : Options) (device : δ) :
    (describe options device : Attempt (Host β) Stop _) =
      trust (Device.describe options device) := by
  simp [describe, Device.describe, Device.Descriptor.ofTexts?_eq]

lemma findAll_eq (vendor product : UInt16) :
    (findAll vendor product : Guarded β κ (List (Device.Descriptor δ))) =
      trust (Session.findAll vendor product) := by
  have hdescribe (options : Options) :
      (describe options : δ → Attempt (Host β) Stop _) =
        fun device => trust (Device.describe options device) :=
    funext (describe_eq options)
  rw [findAll, Session.findAll, ← tracked_trust]
  simp only [hdescribe, ← trust_mapM, trust_bind, ← onHost_trust, Device.findAll, trust_pure]

end Searching

section Opening

def baudSetting? (chip : Chip) (mode : BitMode) (channel : Channel) (rate : UInt32) :
    Option (Except Error Baud.Setting) :=
  let factor := clockFactor mode
  let effective := rate.toNat * factor
  if UInt32.size ≤ effective then some (.error (.invalidArgument .baudRateTooLarge))
  else
    (Baud.Tables.lookUp? chip channel.index effective).map fun
      | none => .error (.invalidArgument .baudRateZero)
      | some setting =>
          if Baud.close setting.actual effective then .ok setting
          else .error (.unsupportedBaudRate rate.toNat (setting.actual / factor))

def programBaudRate (rate : UInt32) : Guarded β κ Unit := do
  let link ← trust (link .setBaudRate)
  let channel := (← trust session).options.channel
  let setting ← trust (liftM (← access (baudSetting? link.chip link.mode channel rate)))
  trust (controlOut .setBaudRate .baudRate setting.value setting.index)
  trust (modifyLink fun l => { l with baudRate := rate })
  trust (note .debug s!"baud rate {rate} (actual {setting.actual})")

def setBaudRate (rate : UInt32) : Guarded β κ Unit := tracked (programBaudRate rate)

def orDetach (cause : Error → Error) (step : Guarded β κ Unit) : Guarded β κ Unit :=
  recover step fun e => trust do
    detach
    throw (cause e)

def attach (device : δ) : Guarded β κ Unit := do
  let claim ← trust (claim device)
  let chip := Chip.detect claim.facts.release claim.facts.hasSerial
  let channel := (← trust session).options.channel
  trust (note .debug
    (s!"opened {chip.name} (bcdDevice {Text.Hex.marked 4 claim.facts.release.toNat}) " ++
      s!"on interface {channel.name}"))
  trust (modifySession fun s =>
    { s with
      binding := .opened
        { handle := claim.handle, chip, packetBytes := claim.facts.packetBytes } })
  orDetach .notReset (trust resetEngine)
  orDetach .noDefaultBaudRate (programBaudRate defaultBaudRate)

def openMatching (filter : Device.Filter) : Guarded β κ Unit := tracked do
  trust beginOpening
  let options := (← trust session).options
  attach (← trust (Session.onHost (Device.find options filter)))

def openFound (descriptor : Device.Descriptor δ) : Guarded β κ Unit := tracked do
  trust beginOpening
  attach descriptor.device

lemma baudSetting?_eq (chip : Chip) (mode : BitMode) (channel : Channel) (rate : UInt32) :
    baudSetting? chip mode channel rate = some (baudSetting chip mode channel rate) := by
  simp only [baudSetting?, baudSetting, Baud.Tables.lookUp?_eq]
  split
  · rfl
  · cases Baud.setting? chip channel.index (rate.toNat * clockFactor mode) <;> rfl

lemma programBaudRate_eq (rate : UInt32) :
    (programBaudRate rate : Guarded β κ Unit) = trust (Session.programBaudRate rate) := by
  simp only [programBaudRate, Session.programBaudRate, baudSetting?_eq, access_some, pure_bind,
    trust_bind]

lemma orDetach_trust (cause : Error → Error) (step : Action β κ Unit) :
    orDetach cause (trust step) = trust (Session.orDetach cause step) :=
  recover_trust step fun e => do
    detach
    throw (cause e)

lemma attach_eq (device : δ) :
    (attach device : Guarded β κ Unit) = trust (Session.attach device) := by
  simp only [attach, Session.attach, programBaudRate_eq, orDetach_trust, trust_bind]

lemma openMatching_eq (filter : Device.Filter) :
    (openMatching filter : Guarded β κ Unit) = trust (Session.openMatching filter) := by
  rw [openMatching, Session.openMatching, ← tracked_trust]
  simp only [attach_eq, trust_bind]

lemma openFound_eq (descriptor : Device.Descriptor δ) :
    (openFound descriptor : Guarded β κ Unit) = trust (Session.openFound descriptor) := by
  rw [openFound, Session.openFound, ← tracked_trust]
  simp only [attach_eq, trust_bind]

end Opening

section Replies

def reply (operation : Operation) (request : Request) (index length : UInt16) :
    Guarded β κ (List UInt8) :=
  Subtype.val <$> trust (controlIn operation request index length)

def queryByte (operation : Operation) (request : Request) : Guarded β κ UInt8 := tracked do
  let index ← trust channelIndex
  access (← reply operation request index 1)[0]?

def modemStatus : Guarded β κ ModemStatus := tracked do
  let index ← trust channelIndex
  let data ← reply .modemStatus .modemStatus index 2
  return { word := ← access (Word.first? data) }

def memoryWord (operation : Operation) (address : UInt16) : Guarded β κ UInt16 := do
  access (Word.first? (← reply operation .readWord address 2))

lemma byte_eq (r : Reply 1) : r.val[0]? = some r.byte := List.getElem?_eq_getElem r.property

lemma first?_eq (r : Reply 2) : Word.first? r.val = some r.word := by
  have hlow : r.val[0]? = some _ := List.getElem?_eq_getElem (Nat.lt_of_succ_lt r.property)
  have hhigh : r.val[1]? = some _ := List.getElem?_eq_getElem r.property
  rw [Word.first?, hlow, hhigh]
  rfl

lemma queryByte_eq (operation : Operation) (request : Request) :
    (queryByte operation request : Guarded β κ UInt8) = trust (Session.tracked do
      return (← controlIn operation request (← channelIndex) 1).byte) := by
  rw [queryByte, ← tracked_trust]
  simp only [reply, map_eq_pure_bind, bind_assoc, pure_bind, byte_eq, access_some, trust_bind,
    trust_pure]

lemma modemStatus_eq : (modemStatus : Guarded β κ ModemStatus) = trust Session.modemStatus := by
  rw [modemStatus, Session.modemStatus, ← tracked_trust]
  simp only [reply, map_eq_pure_bind, bind_assoc, pure_bind, first?_eq, access_some, trust_bind,
    trust_pure]

lemma memoryWord_eq (operation : Operation) (address : UInt16) :
    (memoryWord operation address : Guarded β κ UInt16) =
      trust (Session.memoryWord operation address) := by
  simp only [memoryWord, Session.memoryWord, reply, map_eq_pure_bind, bind_assoc, pure_bind,
    first?_eq, access_some, trust_bind, trust_pure]

end Replies

section Memory

open Eeprom (Image)

def readChipId : Guarded β κ UInt32 := tracked do
  let link ← trust (link .readChipId)
  if ¬ link.chip.hasChipId then throw (.failed (.unsupportedChip link.chip))
  let high ← reply .readChipId .readWord ChipId.addressHigh 2
  let low ← reply .readChipId .readWord ChipId.addressLow 2
  let id := ChipId.decode (← access (Word.first? high)) (← access (Word.first? low))
  trust (note .debug s!"chip id {Text.Hex.marked 8 id.toNat}")
  return id

def readWord (address : UInt16) : Guarded β κ UInt16 := tracked do
  trust (requireAddress .readWord address)
  memoryWord .readWord address

def fetchWord (operation : Operation) (buffer : List UInt8) (address : ℕ) :
    Guarded β κ (List UInt8) := do
  access (Eeprom.store? buffer address (← memoryWord operation address.toUInt16))

def readEeprom : Guarded β κ Image := tracked do
  let chip := (← trust (link .readEeprom)).chip
  let buffer ← (List.range chip.eepromWords).foldlM (fetchWord .readEeprom) (List.replicate 256 0)
  let image := Image.ofList chip (← access (Eeprom.Dump.size? chip buffer)) buffer
  trust (note .debug s!"read {chip.name} EEPROM, {image.size.bytes} bytes populated")
  return image

def writeEeprom (image : Image) : Guarded β κ Unit := tracked do
  let chip := (← trust (link .writeEeprom)).chip
  if image.chip ≠ chip then throw (.failed (.invalidArgument .imageChip))
  trust (controlOut .writeEeprom .reset Request.resetEngine (← trust channelIndex))
  trust (controlOut .writeEeprom .setLatency writingLatency (← trust channelIndex))
  let bytes ← access (slice? image.buffer.toList 0 image.size.bytes)
  (List.range (bytes.length / 2)).forM fun address => do
    let value ← access (Word.read? bytes address)
    trust (putMemoryWord .writeEeprom address.toUInt16 value)
  trust (note .info s!"wrote {image.size.bytes} byte EEPROM image")

def findProbe : List (UInt16 × UInt8) → Guarded β κ (Option UInt8)
  | [] => return none
  | (address, part) :: rest => do
      if (← memoryWord .eraseEeprom address) = Eeprom.Dump.probeWord then return some part
      else findProbe rest

def eraseEeprom : Guarded β κ (Option UInt8) := tracked do
  let chip := (← trust (link .eraseEeprom)).chip
  if chip = .ft232R then throw (.failed (.unsupportedChip chip))
  trust (controlOut .eraseEeprom .eraseEeprom 0 0)
  trust (putMemoryWord .eraseEeprom Eeprom.Dump.probeAddress Eeprom.Dump.probeWord)
  let part ← findProbe Eeprom.Dump.probes
  trust (controlOut .eraseEeprom .eraseEeprom 0 0)
  trust (note .debug s!"erased EEPROM, part {partText part}")
  return part

lemma readChipId_eq : (readChipId : Guarded β κ UInt32) = trust Session.readChipId := by
  rw [readChipId, Session.readChipId, ← tracked_trust]
  simp only [Session.memoryWord, reply, map_eq_pure_bind, bind_assoc, pure_bind, first?_eq,
    access_some, trust_bind, trust_pure, trust_ite, trust_throw]

lemma readWord_eq (address : UInt16) :
    (readWord address : Guarded β κ UInt16) = trust (Session.readWord address) := by
  rw [readWord, Session.readWord, ← tracked_trust, memoryWord_eq, trust_bind]

lemma findProbe_eq (probes : List (UInt16 × UInt8)) :
    (findProbe probes : Guarded β κ (Option UInt8)) = trust (Session.findProbe probes) := by
  induction probes with
  | nil => rfl
  | cons probe rest ih =>
    obtain ⟨address, part⟩ := probe
    simp only [findProbe, Session.findProbe, memoryWord_eq, ih, trust_bind, trust_ite, trust_pure]

lemma eraseEeprom_eq :
    (eraseEeprom : Guarded β κ (Option UInt8)) = trust Session.eraseEeprom := by
  rw [eraseEeprom, Session.eraseEeprom, ← tracked_trust]
  simp only [findProbe_eq, trust_bind, trust_pure, trust_ite, trust_throw]

lemma foldlM_fetchWord (operation : Operation) (words : List UInt16) (n : ℕ)
    (h : 2 * (words.length + n) ≤ 256) :
    ((List.range' words.length n).foldlM (fetchWord operation)
      ((words.flatMap Word.bytes).rightpad 256 0) : Guarded β κ (List UInt8)) =
    trust do
      let more ← (List.range' words.length n).mapM fun address =>
        Session.memoryWord operation address.toUInt16
      return ((words ++ more).flatMap Word.bytes).rightpad 256 0 := by
  -- What was read so far, with zeros behind it, is the buffer.
  induction n generalizing words with
  | zero => simp only [List.range'_zero, List.foldlM_nil, List.mapM_nil, pure_bind,
      List.append_nil, trust_pure]
  | succ n ih =>
    have hstore (word : UInt16) : Eeprom.store? ((words.flatMap Word.bytes).rightpad 256 0)
        words.length word = some (((words ++ [word]).flatMap Word.bytes).rightpad 256 0) :=
      Eeprom.store?_rightpad (by omega) word
    have hlength (word : UInt16) : (words ++ [word]).length = words.length + 1 :=
      List.length_append
    have hrest (word : UInt16) := ih (words ++ [word]) (by rw [hlength]; omega)
    simp only [hlength] at hrest
    simp only [List.range'_succ, List.foldlM_cons, List.mapM_cons, fetchWord, memoryWord_eq,
      bind_assoc, hstore, access_some, pure_bind, hrest, trust_bind, trust_pure,
      List.append_assoc, List.singleton_append]

lemma readEeprom_eq : (readEeprom : Guarded β κ Image) = trust Session.readEeprom := by
  have hfold (chip : Chip) : ((List.range chip.eepromWords).foldlM (fetchWord .readEeprom)
      (List.replicate 256 0) : Guarded β κ (List UInt8)) = trust do
        let words ← (List.range chip.eepromWords).mapM fun address =>
          Session.memoryWord .readEeprom address.toUInt16
        return (words.flatMap Word.bytes).rightpad 256 0 := by
    rw [List.range_eq_range']
    exact foldlM_fetchWord .readEeprom [] chip.eepromWords (by cases chip <;> decide)
  rw [readEeprom, Session.readEeprom, ← tracked_trust]
  simp only [hfold, bind_assoc, pure_bind, trust_bind, trust_pure]
  congr 1
  apply bind_congr
  intro link
  apply trust_bind_congr
  intro w words w' hwords
  have hlength := (length_mapM hwords).trans List.length_range
  simp only [Eeprom.Dump.size?_rightpad hlength, Image.ofList_rightpad, access_some, pure_bind]
  rfl

lemma zipIdx_words (image : Image) :
    image.words.zipIdx = (List.range image.size.words).map fun address =>
      (Word.read image.bytes address, address) := by
  rw [Image.words_eq_map]
  apply List.ext_getElem
  · simp only [List.length_zipIdx, List.length_map]
  · intro k hk hk'
    simp only [List.getElem_zipIdx, List.getElem_map, List.getElem_range, Nat.zero_add]

lemma writeEeprom_eq (image : Image) :
    (writeEeprom image : Guarded β κ Unit) = trust (Session.writeEeprom image) := by
  have hlength : image.bytes.length / 2 = image.size.words := by rw [Image.length_bytes]; rfl
  have hwords : (forM (List.range image.size.words) fun address => do
      let value ← access (Word.read? image.bytes address)
      trust (putMemoryWord .writeEeprom address.toUInt16 value) : Guarded β κ Unit) =
    forM (List.range image.size.words) fun address =>
      trust (putMemoryWord .writeEeprom address.toUInt16 (Word.read image.bytes address)) := by
    apply forM_congr
    intro address haddress
    rw [List.mem_range] at haddress
    have hbytes : 2 * address + 1 < image.bytes.length := by
      rw [Image.length_bytes, ← image.size.two_mul_words]
      omega
    rw [Word.read?_eq hbytes, access_some, pure_bind]
  rw [writeEeprom, Session.writeEeprom, ← tracked_trust]
  simp only [Eeprom.slice?_bytes, access_some, pure_bind, hlength, zipIdx_words, trust_forM,
    List.forM_eq_forM, List.forM_map, hwords, trust_bind, trust_ite, trust_throw]

end Memory

section Bulk

def write (data : List UInt8) : Guarded β κ ℕ := tracked do
  trust (require .write State.isOpened)
  let options := (← trust session).options
  let chunks ← access (chunksFrom? options.writeChunk data 0)
  trust (writePieces data.length chunks 0)

def read (buffer : List UInt8) : Guarded β κ (List UInt8 × ℕ) := tracked do
  trust (require .read State.isOpened)
  if buffer.length = 0 then return (buffer, 0)
  let options := (← trust session).options
  let link ← trust (link .read)
  let ⟨kept, offset⟩ := link.leftover
  if offset < kept.length then
    let pending ← access (slice? kept offset kept.length)
    let n := min buffer.length pending.length
    let buffer ← access (overwrite? buffer 0 n (← access (slice? pending 0 n)))
    trust (modifyLink fun l =>
      { l with leftover := { l.leftover with offset := l.leftover.offset + n } })
    return (buffer, n)
  else
    let data ← trust (Session.onHost (Host.call .transport (Transport.bulkIn link.handle
      options.channel.inEndpoint options.readChunk options.readTimeout)))
    let (data, length) ← access (Packet.strip? link.packetBytes data)
    let n := min buffer.length length
    let buffer ← access (overwrite? buffer 0 n (← access (slice? data 0 n)))
    let rest ← access (slice? data n length)
    trust (modifyLink fun l => { l with leftover := { bytes := rest } })
    return (buffer, n)

lemma write_eq (data : List UInt8) :
    (write data : Guarded β κ ℕ) = trust (Session.write data) := by
  have hchunks (options : Options) := chunksFrom?_eq options.writeChunk_pos data 0
  rw [write, Session.write, ← tracked_trust]
  simp only [hchunks, List.drop_zero, access_some, pure_bind, trust_bind]

lemma exec_tracked (m : Guarded β κ α) (w : Hosted β κ) :
    exec (tracked m) w =
      match exec m w with
      | (.ok a, v) => (.ok a, v)
      | (.error (.failed e), v) => exec (trust (Session.tracked (throw e))) v
      | (.error .overrun, v) => (.error .overrun, v) := by
  rcases hexec : exec m w with ⟨e | a, v⟩
  · cases e <;> simp [tracked, recover, hexec]
  · simp [tracked, recover, hexec]

def filled (buffer data : List UInt8) : List UInt8 × ℕ :=
  (data ++ buffer.drop data.length, data.length)

section Read

variable {w : Hosted β κ} {l : Link κ} {buffer : List UInt8}

lemma read_unopened (h : ∀ l, w.session.binding ≠ .opened l) :
    exec (read buffer) w = exec (filled buffer <$> trust (Session.read buffer.length)) w := by
  cases hbinding : w.session.binding with
  | opened l => exact absurd hbinding (h l)
  | closed =>
    simp [read, Session.read, exec_tracked, Session.exec_tracked, exec_require, Session.state,
      hbinding, State.isOpened]
  | destroyed =>
    simp [read, Session.read, exec_tracked, Session.exec_tracked, exec_require, Session.state,
      hbinding]

variable (hbinding : w.session.binding = .opened l)
include hbinding

lemma read_nothing (hbuffer : buffer.length = 0) :
    exec (read buffer) w = exec (filled buffer <$> trust (Session.read buffer.length)) w := by
  rw [hbuffer, Attempt.exec_map, exec_trust, exec_read_zero hbinding]
  simp [read, filled, exec_tracked, exec_require, Session.state, hbinding, State.isOpened, hbuffer]

lemma read_pending (hbuffer : buffer.length ≠ 0)
    (hoffset : l.leftover.offset < l.leftover.bytes.length) :
    exec (read buffer) w = exec (filled buffer <$> trust (Session.read buffer.length)) w := by
  have hunread : l.leftover.unread ≠ [] := by
    rw [Leftover.unread, ne_eq, List.drop_eq_nil_iff]
    omega
  have hpending : slice? l.leftover.bytes l.leftover.offset l.leftover.bytes.length =
      some l.leftover.unread := slice?_drop (Nat.le_of_lt hoffset)
  have hfront := slice?_front l.leftover.unread [] buffer.length
  rw [List.append_nil] at hfront
  rw [Attempt.exec_map, exec_trust, exec_read_pending hbinding hbuffer hunread]
  simp [read, filled, exec_tracked, exec_require, Session.state, hbinding, State.isOpened, hbuffer,
    exec_link, hoffset, hpending, hfront, overwrite?_front, modifyLink, mapLink_opened hbinding,
    Leftover.advance]

lemma read_fresh (hbuffer : buffer.length ≠ 0)
    (hoffset : ¬ l.leftover.offset < l.leftover.bytes.length) :
    exec (read buffer) w = exec (filled buffer <$> trust (Session.read buffer.length)) w := by
  have hunread : l.leftover.unread = [] := List.drop_eq_nil_of_le (by omega)
  rw [Attempt.exec_map, exec_trust]
  rcases hbulk : exec (Transport.bulkIn l.handle w.session.options.channel.inEndpoint
    w.session.options.readChunk w.session.options.readTimeout) w.bus with ⟨e | data, bus⟩
  · simp [read, Session.read, exec_tracked, Session.exec_tracked, exec_require, Session.state,
      hbinding, State.isOpened, hbuffer, exec_link, hoffset, hunread, hbulk]
  · obtain ⟨rest, hstrip⟩ := Packet.strip?_eq l.packetBytes data
    rw [exec_read_bulk hbinding hbuffer hunread hbulk]
    simp [read, filled, exec_tracked, exec_require, Session.state, hbinding, State.isOpened,
      hbuffer, exec_link, hoffset, hbulk, hstrip, slice?_front, slice?_behind, overwrite?_front,
      modifyLink]

end Read

lemma read_eq (buffer : List UInt8) :
    (read buffer : Guarded β κ (List UInt8 × ℕ)) =
      filled buffer <$> trust (Session.read buffer.length) := by
  ext w : 1
  by_cases hopened : ∃ l, w.session.binding = .opened l
  · obtain ⟨l, hbinding⟩ := hopened
    by_cases hbuffer : buffer.length = 0
    · exact read_nothing hbinding hbuffer
    by_cases hoffset : l.leftover.offset < l.leftover.bytes.length
    · exact read_pending hbinding hbuffer hoffset
    · exact read_fresh hbinding hbuffer hoffset
  · exact read_unopened (not_exists.mp hopened)

end Bulk

end Guarded

open Guarded (access done trust)

variable {β δ κ : Type} [Transport β δ κ]

/-- The call with every access by place checked, bytes being read into the buffers lent for it. The
calls not listed make no such access. -/
def Call.guarded (lent : (n : ℕ) → Vector UInt8 n) : Call δ → Guarded β κ (Answer δ)
  | .findAll vendor product => .devices <$> Guarded.findAll vendor product
  | .openFirst vendor product => done (Guarded.openMatching { vendor, product })
  | .openMatching filter => done (Guarded.openMatching filter)
  | .openFound descriptor => done (Guarded.openFound descriptor)
  | .setBaudRate rate => done (Guarded.setBaudRate rate)
  | .latency => .byte <$> Guarded.queryByte .latency .latency
  | .modemStatus => .modem <$> Guarded.modemStatus
  | .write data => .count <$> Guarded.write data
  | .read room => do
      let (buffer, n) ← Guarded.read (lent room).toList
      return .bytes (← access (slice? buffer 0 n))
  | .readPins => .byte <$> Guarded.queryByte .readPins .pins
  | .readChipId => .chipId <$> Guarded.readChipId
  | .readWord address => .word <$> Guarded.readWord address
  | .readEeprom => .image <$> Guarded.readEeprom
  | .writeEeprom image => done (Guarded.writeEeprom image)
  | .eraseEeprom => .part <$> Guarded.eraseEeprom
  | c => trust c.run

theorem Call.guarded_eq (lent : (n : ℕ) → Vector UInt8 n) (c : Call δ) :
    (c.guarded lent : Guarded β κ (Answer δ)) = trust c.run := by
  cases c with
  | findAll vendor product => rw [guarded, Guarded.findAll_eq, run, Guarded.trust_map]
  | openFirst vendor product =>
    rw [guarded, Guarded.openMatching_eq, Guarded.done_trust]
    rfl
  | openMatching filter => rw [guarded, Guarded.openMatching_eq, Guarded.done_trust, run]
  | openFound descriptor => rw [guarded, Guarded.openFound_eq, Guarded.done_trust, run]
  | setBaudRate rate =>
    rw [guarded, Guarded.setBaudRate, Guarded.programBaudRate_eq, Guarded.tracked_trust,
      Guarded.done_trust]
    rfl
  | latency =>
    rw [guarded, Guarded.queryByte_eq, ← Guarded.trust_map]
    rfl
  | modemStatus => rw [guarded, Guarded.modemStatus_eq, run, Guarded.trust_map]
  | write data => rw [guarded, Guarded.write_eq, run, Guarded.trust_map]
  | read room =>
    have hbytes (data : List UInt8) :
        slice? (Guarded.filled (lent room).toList data).1 0
          (Guarded.filled (lent room).toList data).2 = some data := by
      rw [Guarded.filled, slice?_take (by rw [List.length_append]; omega), List.take_left]
    simp only [guarded, Guarded.read_eq, Vector.length_toList, bind_map_left, hbytes,
      Guarded.access_some, pure_bind, run, Guarded.trust_map]
    rw [map_eq_pure_bind]
  | readPins =>
    rw [guarded, Guarded.queryByte_eq, ← Guarded.trust_map]
    rfl
  | readChipId => rw [guarded, Guarded.readChipId_eq, run, Guarded.trust_map]
  | readWord address => rw [guarded, Guarded.readWord_eq, run, Guarded.trust_map]
  | readEeprom => rw [guarded, Guarded.readEeprom_eq, run, Guarded.trust_map]
  | writeEeprom image => rw [guarded, Guarded.writeEeprom_eq, Guarded.done_trust, run]
  | eraseEeprom => rw [guarded, Guarded.eraseEeprom_eq, run, Guarded.trust_map]
  | _ => rfl

end UsbSerial.Session
