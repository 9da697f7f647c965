import UsbSerial.Baud
import UsbSerial.Line
import UsbSerial.Session.Action

namespace UsbSerial.Session

variable {β δ κ : Type} [Transport β δ κ]

def resetEngine : Action β κ Unit := do
  controlOut .reset .reset Request.resetEngine (← channelIndex)
  modifyLink fun l => { l with leftover := {} }

def reset : Action β κ Unit := tracked resetEngine

def purgeReceive : Action β κ Unit := tracked do
  controlOut .purgeReceive .reset Request.purgeReceive (← channelIndex)
  modifyLink fun l => { l with leftover := {} }

def purgeTransmit : Action β κ Unit := tracked do
  controlOut .purgeTransmit .reset Request.purgeTransmit (← channelIndex)

def purge : Action β κ Unit := do
  purgeReceive
  purgeTransmit

/-- In every mode but `reset` the pins are clocked at four times the rate. -/
def clockFactor (mode : BitMode) : Nat := if mode = .reset then 1 else 4

def baudSetting (chip : Chip) (mode : BitMode) (channel : Channel) (rate : UInt32) :
    Except Error Baud.Setting :=
  let factor := clockFactor mode
  let effective := rate.toNat * factor
  if UInt32.size ≤ effective then .error (.invalidArgument .baudRateTooLarge)
  else
    match Baud.setting? chip channel.index effective with
    | none => .error (.invalidArgument .baudRateZero)
    | some setting =>
        if Baud.close setting.actual effective then .ok setting
        else .error (.unsupportedBaudRate rate.toNat (setting.actual / factor))

def programBaudRate (rate : UInt32) : Action β κ Unit := do
  let link ← link .setBaudRate
  let setting ← baudSetting link.chip link.mode (← session).options.channel rate
  controlOut .setBaudRate .baudRate setting.value setting.index
  modifyLink fun l => { l with baudRate := rate }
  note .debug s!"baud rate {rate} (actual {setting.actual})"

def setBaudRate (rate : UInt32) : Action β κ Unit := tracked (programBaudRate rate)

def setLineFormat (format : Line.Format) : Action β κ Unit := tracked do
  controlOut .setLineFormat .lineFormat format.word (← channelIndex)

def setLatency (ms : UInt8) : Action β κ Unit := tracked do
  if ms = 0 then throw (.invalidArgument .latencyZero)
  controlOut .setLatency .setLatency ms.toUInt16 (← channelIndex)

def latency : Action β κ UInt8 := tracked do
  return (← controlIn .latency .latency (← channelIndex) 1).byte

def setHandshake (handshake : Line.Handshake) : Action β κ Unit := tracked do
  controlOut .setHandshake .handshake handshake.characters (handshake.code ||| (← channelIndex))

def setModemLines (operation : Operation) (levels : UInt16) : Action β κ Unit := tracked do
  controlOut operation .modemControl levels (← channelIndex)

def setDtr (high : Bool) : Action β κ Unit := setModemLines .setDtr (Line.dtrLevel high)

def setRts (high : Bool) : Action β κ Unit := setModemLines .setRts (Line.rtsLevel high)

def setDtrRts (dtr rts : Bool) : Action β κ Unit :=
  setModemLines .setDtrRts (Line.dtrLevel dtr ||| Line.rtsLevel rts)

def setCharacter (operation : Operation) (request : Request) (c : UInt8) (enabled : Bool) :
    Action β κ Unit := tracked do
  controlOut operation request (Word.ofBytes c (flag 1 enabled)) (← channelIndex)

def setEventCharacter (c : UInt8) (enabled : Bool) : Action β κ Unit :=
  setCharacter .setEventCharacter .eventCharacter c enabled

def setErrorCharacter (c : UInt8) (enabled : Bool) : Action β κ Unit :=
  setCharacter .setErrorCharacter .errorCharacter c enabled

def modemStatus : Action β κ ModemStatus := tracked do
  return { word := (← controlIn .modemStatus .modemStatus (← channelIndex) 2).word }

end UsbSerial.Session
