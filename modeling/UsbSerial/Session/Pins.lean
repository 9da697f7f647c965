import UsbSerial.Session.Action

namespace UsbSerial.Session

variable {β δ κ : Type} [Transport β δ κ]

def programBitMode (operation : Operation) (mask : UInt8) (mode : BitMode) :
    Action β κ Unit := do
  controlOut operation .bitMode (Word.ofBytes mask mode.code) (← channelIndex)
  modifyLink fun l => { l with mode }
  note .debug s!"bit mode {mode.name}, mask {Text.Hex.marked 2 mask.toNat}"

def enableBitBang (mask : UInt8) : Action β κ Unit := tracked do
  require .enableBitBang (· = .opened .reset)
  programBitMode .enableBitBang mask .bitBang

def writeBitBang (frame : UInt8) : Action β κ Nat := tracked do
  require .writeBitBang State.drivesPins
  let n ← bulkOut .writeBitBang [frame]
  if n = 1 then return 1 else throw (.shortTransfer 1 n)

def disableBitBang : Action β κ Unit := tracked do
  require .disableBitBang State.drivesPins
  programBitMode .disableBitBang 0 .reset

def setBitMode (mask : UInt8) (mode : BitMode) : Action β κ Unit := tracked do
  require .setBitMode State.isOpened
  programBitMode .setBitMode mask mode

def readPins : Action β κ UInt8 := tracked do
  return (← controlIn .readPins .pins (← channelIndex) 1).byte

end UsbSerial.Session
