namespace UsbSerial

inductive Channel
  | any
  | a
  | b
  | c
  | d
  deriving DecidableEq, Repr

namespace Channel

def name : Channel → String
  | any => "Any"
  | a => "A"
  | b => "B"
  | c => "C"
  | d => "D"

def number : Channel → UInt8
  | any | a => 0
  | b => 1
  | c => 2
  | d => 3

def index (channel : Channel) : UInt16 := channel.number.toUInt16 + 1

def outEndpoint (channel : Channel) : UInt8 := 0x02 + 2 * channel.number

def inEndpoint (channel : Channel) : UInt8 := 0x81 + 2 * channel.number

end Channel

end UsbSerial
