import UsbSerial.Session.Call

/-! Sessions field by field. Nothing ties one field to another; each operation puts back what has to
go with what it changes. -/

namespace UsbSerial.Loose

open Text.Hex (marked)
open Eeprom (Image)
open Session (Answer Call Reply)

structure Bound (κ : Type) where
  handle : κ
  chip : Chip
  packetBytes : Nat
  deriving DecidableEq, Repr

structure Fields (κ : Type) where
  options : Session.Options
  state : State := .closed
  link : Option (Bound κ) := none
  baudRate : UInt32 := 0
  buffer : List UInt8 := []
  offset : Nat := 0
  lastCode : Int := 0
  lastText : String := ""
  deriving DecidableEq, Repr

structure Kept (β κ : Type) extends Host β where
  fields : Fields κ
  deriving DecidableEq, Repr

namespace Fields

variable {κ : Type}

def chip? (s : Fields κ) : Option Chip := s.link.map Bound.chip

def mode? (s : Fields κ) : Option BitMode :=
  match s.state with
  | .opened mode => some mode
  | _ => none

def packetBytes? (s : Fields κ) : Option Nat := s.link.map Bound.packetBytes

def noError (s : Fields κ) : Fields κ := { s with lastCode := 0, lastText := "" }

def clear (s : Fields κ) : Fields κ := { s with buffer := [], offset := 0 }

def setMode (mode : BitMode) (s : Fields κ) : Fields κ :=
  if s.state.isOpened then { s with state := .opened mode } else s

end Fields

def create {κ : Type} (o : Session.Options) : Except Error (Fields κ) :=
  match o.allocationFault? with
  | some fault => .error (.allocation fault)
  | none => .ok { options := o }

abbrev Action (β κ α : Type) := Attempt (Kept β κ) Error α

variable {β δ κ α : Type}

section Parts

def onHost (m : Attempt (Host β) Error α) : Action β κ α :=
  .of fun w =>
    let (result, host) := m.exec w.toHost
    (result, { w with toHost := host })

def note (level : Log.Level) (text : String) : Action β κ Unit := onHost (Host.note level text)

def fields : Action β κ (Fields κ) := do return (← get).fields

def modifyFields (f : Fields κ → Fields κ) : Action β κ Unit :=
  modify fun w => { w with fields := f w.fields }

def tracked (m : Action β κ α) : Action β κ α :=
  tryCatch m fun e => do
    note .trace s!"operation failed: {e.text}"
    modifyFields fun s => { s with lastCode := e.code, lastText := e.text }
    throw e

def require (operation : Operation) (allowed : State → Bool) : Action β κ Unit := do
  match (← fields).state with
  | .destroyed => throw .destroyed
  | state => if allowed state then pure () else throw (.invalidState operation state)

def link (operation : Operation) : Action β κ (Bound κ) := do
  let s ← fields
  match s.state, s.link with
  | .destroyed, _ => throw .destroyed
  | .opened _, some link => pure link
  | state, _ => throw (.invalidState operation state)

def channelIndex : Action β κ UInt16 := do return (← fields).options.channel.index

end Parts

section Exec

open Attempt (exec)

@[simp] theorem exec_onHost (m : Attempt (Host β) Error α) (w : Kept β κ) :
    exec (onHost m) w = ((exec m w.toHost).1, { w with toHost := (exec m w.toHost).2 }) := rfl

@[simp] theorem exec_note (level : Log.Level) (text : String) (w : Kept β κ) :
    exec (note level text) w = (.ok (), { w with log := w.log ++ [{ level, text }] }) := rfl

@[simp] theorem exec_fields (w : Kept β κ) : exec fields w = (.ok w.fields, w) := rfl

@[simp] theorem exec_modifyFields (f : Fields κ → Fields κ) (w : Kept β κ) :
    exec (modifyFields f) w = (.ok (), { w with fields := f w.fields }) := rfl

end Exec

variable [Transport β δ κ]

section Transfers

def controlOut (operation : Operation) (request : Request) (value index : UInt16) :
    Action β κ Unit := do
  let timeout := (← fields).options.writeTimeout
  note .trace (s!"control out {marked 2 request.code.toNat} " ++
    s!"value={marked 4 value.toNat} index={marked 4 index.toNat}")
  let link ← link operation
  onHost (Host.call .transport
    (Transport.controlOut link.handle request.code value index timeout))

def controlIn (operation : Operation) (request : Request) (index length : UInt16) :
    Action β κ (Reply length.toNat) := do
  let timeout := (← fields).options.readTimeout
  let link ← link operation
  let data ← onHost (Host.call .transport
    (Transport.controlIn link.handle request.code 0 index length timeout))
  note .trace (s!"control in {marked 2 request.code.toNat} index={marked 4 index.toNat} -> " ++
    Text.Hex.list data)
  if h : length.toNat ≤ data.length then return ⟨data, h⟩
  else throw (.shortTransfer length.toNat data.length)

def bulkOut (operation : Operation) (data : List UInt8) : Action β κ Nat := do
  let options := (← fields).options
  let link ← link operation
  let n ← onHost (Host.call .transport
    (Transport.bulkOut link.handle options.channel.outEndpoint data options.writeTimeout))
  note .trace s!"bulk out {n} of {data.length} byte(s)"
  return n

def request (operation : Operation) (request : Request) (value : UInt16) : Action β κ Unit := do
  controlOut operation request value (← channelIndex)

def query (operation : Operation) (request : Request) (length : UInt16) :
    Action β κ (Reply length.toNat) := do
  controlIn operation request (← channelIndex) length

end Transfers

section Line

def resetEngine : Action β κ Unit := do
  request .reset .reset Request.resetEngine
  modifyFields .clear

def reset : Action β κ Unit := tracked resetEngine

def purgeReceive : Action β κ Unit := tracked do
  request .purgeReceive .reset Request.purgeReceive
  modifyFields .clear

def purgeTransmit : Action β κ Unit := tracked do
  request .purgeTransmit .reset Request.purgeTransmit

def purge : Action β κ Unit := do
  purgeReceive
  purgeTransmit

def programBaudRate (rate : UInt32) : Action β κ Unit := do
  let chip := (← link .setBaudRate).chip
  let s ← fields
  let setting ← Session.baudSetting chip (s.mode?.getD .reset) s.options.channel rate
  controlOut .setBaudRate .baudRate setting.value setting.index
  modifyFields fun s => { s with baudRate := rate }
  note .debug s!"baud rate {rate} (actual {setting.actual})"

def setBaudRate (rate : UInt32) : Action β κ Unit := tracked (programBaudRate rate)

def setLineFormat (format : Line.Format) : Action β κ Unit := tracked do
  request .setLineFormat .lineFormat format.word

def setLatency (ms : UInt8) : Action β κ Unit := tracked do
  if ms = 0 then throw (.invalidArgument .latencyZero)
  request .setLatency .setLatency ms.toUInt16

def latency : Action β κ UInt8 := tracked do
  return (← query .latency .latency 1).byte

def setHandshake (handshake : Line.Handshake) : Action β κ Unit := tracked do
  controlOut .setHandshake .handshake handshake.characters (handshake.code ||| (← channelIndex))

def setModemLines (operation : Operation) (levels : UInt16) : Action β κ Unit := tracked do
  request operation .modemControl levels

def setCharacter (operation : Operation) (character : Request) (c : UInt8) (enabled : Bool) :
    Action β κ Unit := tracked do
  request operation character (Word.ofBytes c (flag 1 enabled))

def modemStatus : Action β κ ModemStatus := tracked do
  return { word := (← query .modemStatus .modemStatus 2).word }

end Line

section Opening

def findAll (vendor product : UInt16) : Action β κ (List (Device.Descriptor δ)) := tracked do
  require .findAll fun _ => true
  onHost (Device.findAll (← fields).options vendor product)

def detach : Action β κ Unit := do
  match (← fields).link with
  | some link =>
      modifyFields fun s => { s with link := none }
      match ← onHost (Host.outcome (Transport.release link.handle)) with
      | .ok () => pure ()
      | .error e => note .warn s!"releasing device failed: {e.text}"
  | none => pure ()
  modifyFields fun s => { s with state := .closed, baudRate := 0 }
  modifyFields .clear

def orDetach (cause : Error → Error) (step : Action β κ Unit) : Action β κ Unit :=
  tryCatch step fun e => do
    detach
    throw (cause e)

def claim (device : δ) : Action β κ (Usb.Claim κ) := do
  let channel := (← fields).options.channel
  let claim ← onHost (Host.call Session.claimFault (Transport.claim device channel.number))
  onHost (Host.record claim.notes)
  return claim

/-- Fields that are not set here are taken to be as a closed session has them. -/
def attach (device : δ) : Action β κ Unit := do
  let claim ← claim device
  let chip := Chip.detect claim.facts.release claim.facts.hasSerial
  note .debug (s!"opened {chip.name} (bcdDevice {marked 4 claim.facts.release.toNat}) " ++
    s!"on interface {(← fields).options.channel.name}")
  modifyFields fun s =>
    { s with link := some { handle := claim.handle, chip, packetBytes := claim.facts.packetBytes } }
  modifyFields fun s => { s with state := .opened .reset }
  orDetach .notReset resetEngine
  orDetach .noDefaultBaudRate (programBaudRate Session.defaultBaudRate)

def beginOpening : Action β κ Unit := do
  require .openDevice (· = .closed)
  modifyFields .noError

def openMatching (filter : Device.Filter) : Action β κ Unit := tracked do
  beginOpening
  attach (← onHost (Device.find (← fields).options filter))

def openFound (descriptor : Device.Descriptor δ) : Action β κ Unit := tracked do
  beginOpening
  attach descriptor.device

def close : Action β κ Unit := tracked do
  require .close State.isOpened
  detach
  note .debug "context closed"

def destroy : Action β κ Unit := tracked do
  require .destroy (· = .closed)
  modifyFields .clear
  modifyFields fun s => { s with state := .destroyed }
  note .debug "context destroyed"

def setOptions (f : Session.Options → Session.Options) : Action β κ Unit :=
  modifyFields fun s => { s with options := f s.options }

def setChannel (channel : Channel) : Action β κ Unit := tracked do
  require .setChannel (· = .closed)
  setOptions fun o => { o with channel }

def drop : Action β κ Unit := do
  if (← fields).link.isSome then
    note .warn "context dropped while open; releasing device"
    detach

end Opening

section Stream

def writePieces (total : Nat) : List (List UInt8) → Nat → Action β κ Nat
  | [], written => pure written
  | piece :: rest, written => do
      let n ← bulkOut .write piece
      if n < piece.length then throw (.shortTransfer total (written + n))
      writePieces total rest (written + n)

def write (data : List UInt8) : Action β κ Nat := tracked do
  require .write State.isOpened
  let options := (← fields).options
  writePieces data.length (Session.pieces options.writeChunk options.writeChunk_pos data) 0

def read (room : Nat) : Action β κ (List UInt8) := tracked do
  require .read State.isOpened
  if room = 0 then return []
  let s ← fields
  if s.offset < s.buffer.length then
    let pending := s.buffer.drop s.offset
    let n := min pending.length room
    modifyFields fun s => { s with offset := s.offset + n }
    return pending.take n
  let link ← link .read
  let data ← onHost (Host.call .transport (Transport.bulkIn link.handle
    s.options.channel.inEndpoint s.options.readChunk s.options.readTimeout))
  let payload := Packet.strip link.packetBytes data
  let n := min payload.length room
  modifyFields .clear
  modifyFields fun s => { s with buffer := s.buffer ++ payload.drop n }
  return payload.take n

end Stream

section Pins

def programBitMode (operation : Operation) (mask : UInt8) (mode : BitMode) :
    Action β κ Unit := do
  request operation .bitMode (Word.ofBytes mask mode.code)
  modifyFields (.setMode mode)
  note .debug s!"bit mode {mode.name}, mask {marked 2 mask.toNat}"

def switchMode (operation : Operation) (allowed : State → Bool) (mask : UInt8) (mode : BitMode) :
    Action β κ Unit := tracked do
  require operation allowed
  programBitMode operation mask mode

def writeBitBang (frame : UInt8) : Action β κ Nat := tracked do
  require .writeBitBang State.drivesPins
  let n ← bulkOut .writeBitBang [frame]
  if n = 1 then return 1 else throw (.shortTransfer 1 n)

def readPins : Action β κ UInt8 := tracked do
  return (← query .readPins .pins 1).byte

end Pins

section Memory

open Eeprom.Dump (probeWord probeAddress probes)

def memoryWord (operation : Operation) (address : UInt16) : Action β κ UInt16 := do
  return (← controlIn operation .readWord address 2).word

def putMemoryWord (operation : Operation) (address value : UInt16) : Action β κ Unit :=
  controlOut operation .writeWord value address

def readChipId : Action β κ UInt32 := tracked do
  let chip := (← link .readChipId).chip
  if ¬ chip.hasChipId then throw (.unsupportedChip chip)
  let high ← memoryWord .readChipId ChipId.addressHigh
  let low ← memoryWord .readChipId ChipId.addressLow
  let id := ChipId.decode high low
  note .debug s!"chip id {marked 8 id.toNat}"
  return id

def requireAddress (operation : Operation) (address : UInt16) : Action β κ Unit := do
  let words := (← link operation).chip.eepromWords
  if words ≤ address.toNat then throw (.outOfRange address (words - 1).toUInt16)

def readWord (address : UInt16) : Action β κ UInt16 := tracked do
  requireAddress .readWord address
  memoryWord .readWord address

def writeWord (address value : UInt16) : Action β κ Unit := tracked do
  requireAddress .writeWord address
  putMemoryWord .writeWord address value

def readEeprom : Action β κ Image := tracked do
  let chip := (← link .readEeprom).chip
  let words ← (List.range chip.eepromWords).mapM fun address =>
    memoryWord .readEeprom address.toUInt16
  let image := Eeprom.Dump.image chip (words.flatMap Word.bytes)
  note .debug s!"read {chip.name} EEPROM, {image.size.bytes} bytes populated"
  return image

def writeEeprom (image : Image) : Action β κ Unit := tracked do
  let chip := (← link .writeEeprom).chip
  if image.chip ≠ chip then throw (.invalidArgument .imageChip)
  request .writeEeprom .reset Request.resetEngine
  request .writeEeprom .setLatency Session.writingLatency
  image.words.zipIdx.forM fun (value, address) =>
    putMemoryWord .writeEeprom address.toUInt16 value
  note .info s!"wrote {image.size.bytes} byte EEPROM image"

def findProbe : List (UInt16 × UInt8) → Action β κ (Option UInt8)
  | [] => return none
  | (address, part) :: rest => do
      if (← memoryWord .eraseEeprom address) = probeWord then return some part
      else findProbe rest

def eraseEeprom : Action β κ (Option UInt8) := tracked do
  let chip := (← link .eraseEeprom).chip
  if chip = .ft232R then throw (.unsupportedChip chip)
  controlOut .eraseEeprom .eraseEeprom 0 0
  putMemoryWord .eraseEeprom probeAddress probeWord
  let part ← findProbe probes
  controlOut .eraseEeprom .eraseEeprom 0 0
  note .debug s!"erased EEPROM, part {Session.partText part}"
  return part

end Memory

def perform : Call δ → Action β κ (Answer δ)
  | .findAll vendor product => .devices <$> findAll vendor product
  | .openFirst vendor product => done (openMatching { vendor, product })
  | .openMatching filter => done (openMatching filter)
  | .openFound descriptor => done (openFound descriptor)
  | .close => done close
  | .destroy => done destroy
  | .setChannel channel => done (setChannel channel)
  | .setReadTimeout timeout => done (setOptions fun o => { o with readTimeout := timeout })
  | .setWriteTimeout timeout => done (setOptions fun o => { o with writeTimeout := timeout })
  | .setWriteChunk n => done (setOptions (Session.Options.withWriteChunk n))
  | .reset => done reset
  | .purgeReceive => done purgeReceive
  | .purgeTransmit => done purgeTransmit
  | .purge => done purge
  | .setBaudRate rate => done (setBaudRate rate)
  | .setLineFormat format => done (setLineFormat format)
  | .setLatency ms => done (setLatency ms)
  | .latency => .byte <$> latency
  | .setHandshake handshake => done (setHandshake handshake)
  | .setDtr high => done (setModemLines .setDtr (Line.dtrLevel high))
  | .setRts high => done (setModemLines .setRts (Line.rtsLevel high))
  | .setDtrRts dtr rts =>
      done (setModemLines .setDtrRts (Line.dtrLevel dtr ||| Line.rtsLevel rts))
  | .setEventCharacter c enabled => done (setCharacter .setEventCharacter .eventCharacter c enabled)
  | .setErrorCharacter c enabled => done (setCharacter .setErrorCharacter .errorCharacter c enabled)
  | .modemStatus => .modem <$> modemStatus
  | .write data => .count <$> write data
  | .read room => .bytes <$> read room
  | .enableBitBang mask => done (switchMode .enableBitBang (· = .opened .reset) mask .bitBang)
  | .writeBitBang frame => .count <$> writeBitBang frame
  | .disableBitBang => done (switchMode .disableBitBang State.drivesPins 0 .reset)
  | .setBitMode mask mode => done (switchMode .setBitMode State.isOpened mask mode)
  | .readPins => .byte <$> readPins
  | .readChipId => .chipId <$> readChipId
  | .readWord address => .word <$> readWord address
  | .writeWord address value => done (writeWord address value)
  | .readEeprom => .image <$> readEeprom
  | .writeEeprom image => done (writeEeprom image)
  | .eraseEeprom => .part <$> eraseEeprom
where
  done (m : Action β κ Unit) : Action β κ (Answer δ) := do
    m
    return .done

def step (call : Call δ) (w : Kept β κ) : Except Error (Answer δ) × Kept β κ :=
  Attempt.exec (perform call) w

def run (w : Kept β κ) : List (Call δ) → List (Except Error (Answer δ)) × Kept β κ
  | [] => ([], w)
  | call :: calls =>
      let (result, w) := step call w
      let (results, w) := run w calls
      (result :: results, w)

end UsbSerial.Loose
