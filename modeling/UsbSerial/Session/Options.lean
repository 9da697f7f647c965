import UsbSerial.Duration
import UsbSerial.Channel
import UsbSerial.Error

namespace UsbSerial.Session

structure Options where
  readTimeout : Duration := .ofSeconds 5
  writeTimeout : Duration := .ofSeconds 5
  readChunk : Nat := 4096
  writeChunk : Nat := 4096
  writeChunk_pos : 0 < writeChunk := by decide
  channel : Channel := .any
  textLimit : Nat := 128
  deriving DecidableEq, Repr

namespace Options

def withWriteChunk (n : Nat) (o : Options) : Options :=
  { o with writeChunk := max n 1, writeChunk_pos := by omega }

def capacity : Nat := 1 <<< 63 - 1

def memory : Nat := 1 <<< 62

def allocationFault? (o : Options) : Option AllocationFault :=
  if capacity < o.readChunk then some .capacity
  else if memory ≤ o.readChunk then some .memory
  else none

end Options

end UsbSerial.Session
