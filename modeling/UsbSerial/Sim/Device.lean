import UsbSerial.ChipId
import UsbSerial.Eeprom.Codec
import UsbSerial.Packet
import UsbSerial.Request
import UsbSerial.Usb

/-! A simulated device. It answers requests as a chip would, keeps a record of them, and can be
told to fail. -/

namespace UsbSerial.Sim

structure Control where
  request : UInt8
  value : UInt16
  index : UInt16
  deriving DecidableEq, Repr

structure Device where
  ids : Usb.Ids
  texts : Usb.Texts := {}
  storage : List UInt8
  -- the high word first
  chipId : UInt16 × UInt16 := (0, 0)
  packetBytes : Nat
  packetBytes_gt : Packet.statusBytes < packetBytes
  claimed : Vector Bool 4 := .replicate 4 false
  disconnected : Bool := false
  controls : List Control := []
  written : List UInt8 := []
  queue : List UInt8 := []
  pins : UInt8 := 0
  -- DTR in bit 0 and RTS in bit 1
  modemLines : UInt8 := 0
  modemStatus : UInt16 := 0x6001
  outputMask : UInt8 := 0
  mode : UInt8 := 0
  latency : UInt8 := 16
  failing : Nat := 0
  failingRequest : Option UInt8 := none
  shortWrite : Bool := false
  deriving DecidableEq, Repr

namespace Device

def blank (vendor product release : UInt16) : Device :=
  let chip := Chip.detect release true
  { ids := { vendor, product, release }
    storage := List.replicate chip.eepromBytes 0xFF
    packetBytes := chip.packetBytes
    packetBytes_gt := by cases chip <;> decide }

def plugged (d : Device) : Device where
  ids := d.ids
  texts := d.texts
  storage := d.storage
  chipId := d.chipId
  packetBytes := d.packetBytes
  packetBytes_gt := d.packetBytes_gt

def withTexts (texts : Usb.Texts) (d : Device) : Device := { d with texts }

/-- A part smaller than the chip's addresses shows its bytes over and over. -/
def withStorage (bytes : List UInt8) (d : Device) : Device :=
  if bytes = [] then d
  else
    let byte (i : Nat) := bytes.getD (i % bytes.length) 0
    { d with storage := (List.range d.storage.length).map byte }

def withChipId (high low : UInt16) (d : Device) : Device := { d with chipId := (high, low) }

def ft232R (serial : String) : Device :=
  let d := (blank 0x0403 0x6001 Chip.ft232R.release).withTexts
    { manufacturer := some "FTDI", product := some "FT232R USB UART", serial := some serial }
  let d := d.withChipId 0x3F1A 0x7C42
  let settings := Eeprom.Settings.defaults .ft232R (some "FTDI") none (some serial)
  match settings.encode .ft232R with
  | .ok image => d.withStorage image.bytes
  | .error _ => d

def hasSerial (d : Device) : Bool := d.texts.serial.isSome

def chip (d : Device) : Chip := Chip.detect d.ids.release d.hasSerial

def facts (d : Device) : Usb.Facts where
  release := d.ids.release
  hasSerial := d.hasSerial
  packetBytes := d.packetBytes

def isClaimed (d : Device) : Bool := d.claimed.any id

def offset (d : Device) (address : UInt16) : Nat := 2 * address.toNat % d.storage.length

def storedBytes (d : Device) (address : UInt16) : List UInt8 :=
  (d.storage.drop (d.offset address)).take 2

def storeWord (d : Device) (address value : UInt16) : Device :=
  let at' := d.offset address
  { d with
    storage := (d.storage.set at' (Word.low value)).set (at' + 1) (Word.high value) }

def merge (old mask level : UInt8) : UInt8 := (old &&& ~~~mask) ||| (level &&& mask)

def obey (d : Device) (c : Control) : Device :=
  match Request.ofCode? c.request with
  | some .reset =>
      if c.value = Request.resetEngine then { d with queue := [], mode := 0 }
      else if c.value = Request.purgeReceive then { d with queue := [] }
      else d
  | some .setLatency => { d with latency := Word.low c.value }
  | some .modemControl =>
      { d with modemLines := merge d.modemLines (Word.high c.value) (Word.low c.value) }
  | some .bitMode => { d with outputMask := Word.low c.value, mode := Word.high c.value }
  | some .writeWord => d.storeWord c.index c.value
  | some .eraseEeprom => { d with storage := List.replicate d.storage.length 0xFF }
  | _ => d

/-- What the device answers; requests it does not know stall. The words of the chip ID hide what
an R chip stores at their addresses. -/
def reply (d : Device) (c : Control) : Except Usb.Error (List UInt8) :=
  match Request.ofCode? c.request with
  | some .readWord =>
      if d.chip.hasChipId && c.index = ChipId.addressHigh then .ok (Word.bytes d.chipId.1)
      else if d.chip.hasChipId && c.index = ChipId.addressLow then .ok (Word.bytes d.chipId.2)
      else .ok (d.storedBytes c.index)
  | some .latency => .ok [d.latency]
  | some .pins => .ok [d.pins]
  | some .modemStatus => .ok (Word.bytes d.modemStatus)
  | _ => .error (.bus s!"request {Text.Hex.marked 2 c.request.toNat} stalled")

abbrev Transfer (α : Type) := Attempt Device Usb.Error α

def check (timeout : Duration) : Transfer Unit := do
  let d ← get
  if d.disconnected then throw .disconnected
  match d.failing with
  | 0 => pure ()
  | n + 1 =>
      set { d with failing := n }
      throw (.timeout timeout)

def accept (c : Control) (timeout : Duration) : Transfer Unit := do
  check timeout
  if (← get).failingRequest = some c.request then throw (.timeout timeout)
  modify fun d => { d with controls := d.controls ++ [c] }

def controlOut (c : Control) (timeout : Duration) : Transfer Unit := do
  accept c timeout
  modify fun d => d.obey c

def controlIn (c : Control) (length : UInt16) (timeout : Duration) : Transfer (List UInt8) := do
  accept c timeout
  let data ← (← get).reply c
  return data.take length.toNat

def drive (d : Device) (data : List UInt8) : Device :=
  match data.getLast? with
  | some level =>
      if d.mode = 0 then d else { d with pins := merge d.pins d.outputMask level }
  | none => d

def bulkOut (data : List UInt8) (timeout : Duration) : Transfer Nat := do
  check timeout
  let d ← get
  let taken := if d.shortWrite then data.dropLast else data
  set ({ d with shortWrite := false, written := d.written ++ taken }.drive taken)
  return taken.length

def bulkIn (limit : Nat) (timeout : Duration) : Transfer (List UInt8) := do
  check timeout
  let d ← get
  let (data, queue) := Packet.send d.packetBytes d.modemStatus limit d.queue
  set { d with queue }
  return data

def claim (channel : UInt8) : Transfer Usb.Facts := do
  let d ← get
  if d.disconnected then throw .disconnected
  if d.chip.channels ≤ channel.toNat then throw (.bus s!"no interface {channel}")
  if d.claimed.getD channel.toNat false then throw (.claim "interface busy")
  set { d with claimed := d.claimed.setIfInBounds channel.toNat true }
  return d.facts

def release (channel : UInt8) (d : Device) : Device :=
  { d with claimed := d.claimed.setIfInBounds channel.toNat false }

end Device

end UsbSerial.Sim
