/-! Words of two bytes, low byte first, and bytes of two digits, low digit first. -/

namespace UsbSerial

namespace Word

def ofBytes (low high : UInt8) : UInt16 := low.toUInt16 ||| (high.toUInt16 <<< 8)

def low (w : UInt16) : UInt8 := w.toUInt8

def high (w : UInt16) : UInt8 := (w >>> 8).toUInt8

def bytes (w : UInt16) : List UInt8 := [low w, high w]

def rotateLeft (w : UInt16) : UInt16 := (w <<< 1) ||| (w >>> 15)

def swap (w : UInt16) : UInt16 := ofBytes (high w) (low w)

end Word

namespace Nibble

def low (b : UInt8) : UInt8 := b % 16

def high (b : UInt8) : UInt8 := b / 16

def pair (lo hi : UInt8) : UInt8 := lo % 16 + 16 * (hi % 16)

end Nibble

def flag (mask : UInt8) (b : Bool) : UInt8 := if b then mask else 0

def hasFlag (byte mask : UInt8) : Bool := byte &&& mask != 0

end UsbSerial
