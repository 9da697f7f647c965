import UsbSerial.Session.Memory
import UsbSerial.Session.Opening
import UsbSerial.Session.Pins
import UsbSerial.Session.Stream

namespace UsbSerial.Session

inductive Call (δ : Type)
  | findAll (vendor product : UInt16)
  | openFirst (vendor product : UInt16)
  | openMatching (filter : Device.Filter)
  | openFound (descriptor : Device.Descriptor δ)
  | close
  | destroy
  | setChannel (channel : Channel)
  | setReadTimeout (timeout : Duration)
  | setWriteTimeout (timeout : Duration)
  | setWriteChunk (n : Nat)
  | reset
  | purgeReceive
  | purgeTransmit
  | purge
  | setBaudRate (rate : UInt32)
  | setLineFormat (format : Line.Format)
  | setLatency (ms : UInt8)
  | latency
  | setHandshake (handshake : Line.Handshake)
  | setDtr (high : Bool)
  | setRts (high : Bool)
  | setDtrRts (dtr rts : Bool)
  | setEventCharacter (c : UInt8) (enabled : Bool)
  | setErrorCharacter (c : UInt8) (enabled : Bool)
  | modemStatus
  | write (data : List UInt8)
  | read (room : Nat)
  | enableBitBang (mask : UInt8)
  | writeBitBang (frame : UInt8)
  | disableBitBang
  | setBitMode (mask : UInt8) (mode : BitMode)
  | readPins
  | readChipId
  | readWord (address : UInt16)
  | writeWord (address value : UInt16)
  | readEeprom
  | writeEeprom (image : Eeprom.Image)
  | eraseEeprom
  deriving DecidableEq

inductive Answer (δ : Type)
  | done
  | devices (found : List (Device.Descriptor δ))
  | count (n : Nat)
  | bytes (data : List UInt8)
  | byte (b : UInt8)
  | word (w : UInt16)
  | chipId (id : UInt32)
  | modem (status : ModemStatus)
  | image (image : Eeprom.Image)
  | part (part : Option UInt8)
  deriving DecidableEq

variable {β δ κ : Type} [Transport β δ κ]

def setReadTimeout (timeout : Duration) : Action β κ Unit :=
  modifySession fun s => { s with options := { s.options with readTimeout := timeout } }

def setWriteTimeout (timeout : Duration) : Action β κ Unit :=
  modifySession fun s => { s with options := { s.options with writeTimeout := timeout } }

def setWriteChunk (n : Nat) : Action β κ Unit :=
  modifySession fun s => { s with options := s.options.withWriteChunk n }

def Call.run : Call δ → Action β κ (Answer δ)
  | .findAll vendor product => .devices <$> Session.findAll vendor product
  | .openFirst vendor product => done (Session.openFirst vendor product)
  | .openMatching filter => done (Session.openMatching filter)
  | .openFound descriptor => done (Session.openFound descriptor)
  | .close => done Session.close
  | .destroy => done Session.destroy
  | .setChannel channel => done (Session.setChannel channel)
  | .setReadTimeout timeout => done (Session.setReadTimeout timeout)
  | .setWriteTimeout timeout => done (Session.setWriteTimeout timeout)
  | .setWriteChunk n => done (Session.setWriteChunk n)
  | .reset => done Session.reset
  | .purgeReceive => done Session.purgeReceive
  | .purgeTransmit => done Session.purgeTransmit
  | .purge => done Session.purge
  | .setBaudRate rate => done (Session.setBaudRate rate)
  | .setLineFormat format => done (Session.setLineFormat format)
  | .setLatency ms => done (Session.setLatency ms)
  | .latency => .byte <$> Session.latency
  | .setHandshake handshake => done (Session.setHandshake handshake)
  | .setDtr high => done (Session.setDtr high)
  | .setRts high => done (Session.setRts high)
  | .setDtrRts dtr rts => done (Session.setDtrRts dtr rts)
  | .setEventCharacter c enabled => done (Session.setEventCharacter c enabled)
  | .setErrorCharacter c enabled => done (Session.setErrorCharacter c enabled)
  | .modemStatus => .modem <$> Session.modemStatus
  | .write data => .count <$> Session.write data
  | .read room => .bytes <$> Session.read room
  | .enableBitBang mask => done (Session.enableBitBang mask)
  | .writeBitBang frame => .count <$> Session.writeBitBang frame
  | .disableBitBang => done Session.disableBitBang
  | .setBitMode mask mode => done (Session.setBitMode mask mode)
  | .readPins => .byte <$> Session.readPins
  | .readChipId => .chipId <$> Session.readChipId
  | .readWord address => .word <$> Session.readWord address
  | .writeWord address value => done (Session.writeWord address value)
  | .readEeprom => .image <$> Session.readEeprom
  | .writeEeprom image => done (Session.writeEeprom image)
  | .eraseEeprom => .part <$> Session.eraseEeprom
where
  done (m : Action β κ Unit) : Action β κ (Answer δ) := do
    m
    return .done

def Call.step (call : Call δ) (w : Hosted β κ) : Except Error (Answer δ) × Hosted β κ :=
  Attempt.exec call.run w

def run (w : Hosted β κ) : List (Call δ) → List (Except Error (Answer δ)) × Hosted β κ
  | [] => ([], w)
  | call :: calls =>
      let (result, w) := call.step w
      let (results, w) := run w calls
      (result :: results, w)

end UsbSerial.Session
