namespace UsbSerial

inductive Request
  | reset
  | modemControl
  | handshake
  | baudRate
  | lineFormat
  | modemStatus
  | eventCharacter
  | errorCharacter
  | setLatency
  | latency
  | bitMode
  | pins
  | readWord
  | writeWord
  | eraseEeprom
  deriving DecidableEq, Repr

namespace Request

def code : Request → UInt8
  | reset => 0x00
  | modemControl => 0x01
  | handshake => 0x02
  | baudRate => 0x03
  | lineFormat => 0x04
  | modemStatus => 0x05
  | eventCharacter => 0x06
  | errorCharacter => 0x07
  | setLatency => 0x09
  | latency => 0x0A
  | bitMode => 0x0B
  | pins => 0x0C
  | readWord => 0x90
  | writeWord => 0x91
  | eraseEeprom => 0x92

def all : List Request :=
  [reset, modemControl, handshake, baudRate, lineFormat, modemStatus, eventCharacter,
    errorCharacter, setLatency, latency, bitMode, pins, readWord, writeWord, eraseEeprom]

def ofCode? (code : UInt8) : Option Request := all.find? (·.code = code)

theorem ofCode?_code (r : Request) : ofCode? r.code = some r := by cases r <;> rfl

def resetEngine : UInt16 := 0
def purgeReceive : UInt16 := 1
def purgeTransmit : UInt16 := 2

end Request

end UsbSerial
