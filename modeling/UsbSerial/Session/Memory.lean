import UsbSerial.ChipId
import UsbSerial.Eeprom.Dump
import UsbSerial.Session.Action

namespace UsbSerial.Session

open Eeprom (Image)
open Eeprom.Dump (probeWord probeAddress probes)

variable {β δ κ : Type} [Transport β δ κ]

def memoryWord (operation : Operation) (address : UInt16) : Action β κ UInt16 := do
  return (← controlIn operation .readWord address 2).word

def putMemoryWord (operation : Operation) (address value : UInt16) : Action β κ Unit :=
  controlOut operation .writeWord value address

def readChipId : Action β κ UInt32 := tracked do
  let link ← link .readChipId
  if ¬ link.chip.hasChipId then throw (.unsupportedChip link.chip)
  let high ← memoryWord .readChipId ChipId.addressHigh
  let low ← memoryWord .readChipId ChipId.addressLow
  let id := ChipId.decode high low
  note .debug s!"chip id {Text.Hex.marked 8 id.toNat}"
  return id

def requireAddress (operation : Operation) (address : UInt16) : Action β κ Unit := do
  let words := (← link operation).chip.eepromWords
  if words ≤ address.toNat then throw (.outOfRange address (words - 1).toUInt16)

def readWord (address : UInt16) : Action β κ UInt16 := tracked do
  requireAddress .readWord address
  memoryWord .readWord address

def writeWord (address value : UInt16) : Action β κ Unit := tracked do
  requireAddress .writeWord address
  putMemoryWord .writeWord address value

def readEeprom : Action β κ Image := tracked do
  let chip := (← link .readEeprom).chip
  let words ← (List.range chip.eepromWords).mapM fun address =>
    memoryWord .readEeprom address.toUInt16
  let image := Eeprom.Dump.image chip (words.flatMap Word.bytes)
  note .debug s!"read {chip.name} EEPROM, {image.size.bytes} bytes populated"
  return image

def writingLatency : UInt16 := 0x77

def writeEeprom (image : Image) : Action β κ Unit := tracked do
  let chip := (← link .writeEeprom).chip
  if image.chip ≠ chip then throw (.invalidArgument .imageChip)
  controlOut .writeEeprom .reset Request.resetEngine (← channelIndex)
  controlOut .writeEeprom .setLatency writingLatency (← channelIndex)
  image.words.zipIdx.forM fun (value, address) =>
    putMemoryWord .writeEeprom address.toUInt16 value
  note .info s!"wrote {image.size.bytes} byte EEPROM image"

def findProbe : List (UInt16 × UInt8) → Action β κ (Option UInt8)
  | [] => return none
  | (address, part) :: rest => do
      if (← memoryWord .eraseEeprom address) = probeWord then return some part
      else findProbe rest

def partText : Option UInt8 → String
  | none => "None"
  | some part => s!"Some({Text.Hex.digits 2 part.toNat})"

/-- A probe written high up shows up lower on smaller parts; the part is erased again after
it was looked for. The EEPROM of an R chip cannot be erased. -/
def eraseEeprom : Action β κ (Option UInt8) := tracked do
  let chip := (← link .eraseEeprom).chip
  if chip = .ft232R then throw (.unsupportedChip chip)
  controlOut .eraseEeprom .eraseEeprom 0 0
  putMemoryWord .eraseEeprom probeAddress probeWord
  let part ← findProbe probes
  controlOut .eraseEeprom .eraseEeprom 0 0
  note .debug s!"erased EEPROM, part {partText part}"
  return part

end UsbSerial.Session
