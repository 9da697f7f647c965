import UsbSerial.Word

/-! The identity burned into an R chip, which it tells in two scrambled words. -/

namespace UsbSerial.ChipId

def addressHigh : UInt16 := 0x43
def addressLow : UInt16 := 0x44

def key : UInt32 := 0xA5F0F7D1

def shuffle (b : UInt8) : UInt8 :=
  ((b &&& 0x01) <<< 1) ||| ((b &&& 0x02) <<< 5) ||| ((b &&& 0x04) >>> 2) |||
    ((b &&& 0x08) <<< 4) ||| ((b &&& 0x10) >>> 1) ||| ((b &&& 0x20) >>> 1) |||
    ((b &&& 0x40) >>> 4) ||| ((b &&& 0x80) >>> 2)

def ofBytes (b₃ b₂ b₁ b₀ : UInt8) : UInt32 :=
  (b₃.toUInt32 <<< 24) ||| (b₂.toUInt32 <<< 16) ||| (b₁.toUInt32 <<< 8) ||| b₀.toUInt32

/-- Every byte is shuffled, the low byte of each word being the higher one. -/
def decode (high low : UInt16) : UInt32 :=
  ofBytes (shuffle (Word.low high)) (shuffle (Word.high high)) (shuffle (Word.low low))
    (shuffle (Word.high low)) ^^^ key

end UsbSerial.ChipId
