import UsbSerial.Word

namespace UsbSerial

namespace Line

inductive DataBits
  | seven
  | eight
  deriving DecidableEq, Repr

inductive StopBits
  | one
  | oneAndHalf
  | two
  deriving DecidableEq, Repr

inductive Parity
  | none
  | odd
  | even
  | mark
  | space
  deriving DecidableEq, Repr

def DataBits.code : DataBits → UInt16
  | .seven => 7
  | .eight => 8

def StopBits.code : StopBits → UInt16
  | .one => 0
  | .oneAndHalf => 1
  | .two => 2

def Parity.code : Parity → UInt16
  | .none => 0
  | .odd => 1
  | .even => 2
  | .mark => 3
  | .space => 4

structure Format where
  dataBits : DataBits := .eight
  stopBits : StopBits := .one
  parity : Parity := .none
  breakOn : Bool := false
  deriving DecidableEq, Repr

def Format.word (f : Format) : UInt16 :=
  f.dataBits.code ||| (f.parity.code <<< 8) ||| (f.stopBits.code <<< 11) |||
    if f.breakOn then 0x4000 else 0

inductive Handshake
  | none
  | rtsCts
  | dtrDsr
  | xonXoff (xon xoff : UInt8)
  deriving DecidableEq, Repr

def Handshake.characters : Handshake → UInt16
  | .xonXoff xon xoff => Word.ofBytes xon xoff
  | _ => 0

def Handshake.code : Handshake → UInt16
  | .none => 0x0000
  | .rtsCts => 0x0100
  | .dtrDsr => 0x0200
  | .xonXoff _ _ => 0x0400

def dtrLevel (high : Bool) : UInt16 := if high then 0x0101 else 0x0100

def rtsLevel (high : Bool) : UInt16 := if high then 0x0202 else 0x0200

end Line

structure ModemStatus where
  word : UInt16
  deriving DecidableEq, Repr

namespace ModemStatus

def has (s : ModemStatus) (mask : UInt16) : Bool := s.word &&& mask != 0

def clearToSend (s : ModemStatus) : Bool := s.has 0x0010
def dataSetReady (s : ModemStatus) : Bool := s.has 0x0020
def ringIndicator (s : ModemStatus) : Bool := s.has 0x0040
def carrierDetect (s : ModemStatus) : Bool := s.has 0x0080
def dataReady (s : ModemStatus) : Bool := s.has 0x0100
def overrunError (s : ModemStatus) : Bool := s.has 0x0200
def parityError (s : ModemStatus) : Bool := s.has 0x0400
def framingError (s : ModemStatus) : Bool := s.has 0x0800
def breakInterrupt (s : ModemStatus) : Bool := s.has 0x1000
def holdingEmpty (s : ModemStatus) : Bool := s.has 0x2000
def transmitterEmpty (s : ModemStatus) : Bool := s.has 0x4000
def fifoError (s : ModemStatus) : Bool := s.has 0x8000

end ModemStatus

end UsbSerial
