import UsbSerial.Chip

/-! Baud rates. A chip divides its base clock by a divisor counted in eighths; a request carries
the whole part and a code for the eighths. -/

namespace UsbSerial.Baud

structure Setting where
  actual : Nat
  value : UInt16
  index : UInt16
  deriving DecidableEq, Repr

def slowClock : Nat := 48000000
def fastClock : Nat := 120000000
def amClock : Nat := 24000000

def fractionCode : Nat → Nat
  | 1 => 3
  | 2 => 2
  | 3 => 4
  | 4 => 1
  | 5 => 5
  | 6 => 6
  | 7 => 7
  | _ => 0

def encode (divisor : Nat) : Nat := divisor / 8 + fractionCode (divisor % 8) * 16384

def amLargest : Nat := 0x1FFF8

/-- An AM has no eighths but 0, 1, 2 and 4. A quotient is first lowered by these steps. -/
def amStepDown : Nat → Nat
  | 3 => 1
  | 5 => 3
  | 6 => 2
  | 7 => 1
  | _ => 0

def amStepUp : Nat → Nat
  | 3 => 1
  | 5 => 1
  | 6 => 2
  | 7 => 3
  | _ => 0

def amBase (rate : Nat) : Nat :=
  let quotient := amClock / rate
  quotient - amStepDown (quotient % 8)

def amCandidate (base step : Nat) : Nat :=
  let d := base + step
  if d ≤ 8 then 8
  else if base < 16 then 16
  else min (d + amStepUp (d % 8)) amLargest

def amRate (divisor : Nat) : Nat := (amClock + divisor / 2) / divisor

def distance (m n : Nat) : Nat := (m - n) + (n - m)

def amDivisor (rate : Nat) : Nat :=
  let lower := amCandidate (amBase rate) 0
  let upper := amCandidate (amBase rate) 1
  if distance (amRate upper) rate < distance (amRate lower) rate then upper else lower

def amCode (divisor : Nat) : Nat :=
  match encode divisor with
  | 0x0001 => 0
  | 0x4001 => 1
  | code => code

def divisor (clock prediv rate : Nat) : Nat :=
  let sixteenths := clock * 16 / prediv / rate
  let eighths := sixteenths / 2 + sixteenths % 2
  if 0x20000 < eighths then 0x1FFFF else eighths

def rateOf (clock prediv divisor : Nat) : Nat :=
  let doubled := clock * 16 / prediv / divisor
  doubled / 2 + doubled % 2

/-- Code and rate of the nearest divisor. The three fastest rates have codes of their own. -/
def nearest (clock prediv rate : Nat) : Nat × Nat :=
  if clock / prediv ≤ rate then (0, clock / prediv)
  else if clock / (prediv + prediv / 2) ≤ rate then (1, clock / (prediv + prediv / 2))
  else if clock / (2 * prediv) ≤ rate then (2, clock / (2 * prediv))
  else
    let d := divisor clock prediv rate
    (encode d, rateOf clock prediv d)

def fastBit : Nat := 0x20000

/-- Code and rate for a chip. A high-speed chip uses its fast clock unless the rate is too low
for it. -/
def code (chip : Chip) (rate : Nat) : Nat × Nat :=
  match chip with
  | .am =>
      let d := amDivisor rate
      (amCode d, amRate d)
  | .bm | .ft2232C | .ft232R => nearest slowClock 16 rate
  | .ft2232H | .ft4232H =>
      if fastClock / 0x3FFF < rate * 10 then
        let (c, actual) := nearest fastClock 10 rate
        (c + fastBit, actual)
      else nearest slowClock 16 rate

def index (chip : Chip) (channel : UInt16) (code : Nat) : UInt16 :=
  if chip.isHighSpeed || chip = .ft2232C then ((code / 256).toUInt16 &&& 0xFF00) ||| channel
  else (code / 65536).toUInt16

def setting? (chip : Chip) (channel : UInt16) (rate : Nat) : Option Setting :=
  if rate = 0 then none
  else
    let (c, actual) := code chip rate
    if actual = 0 then none
    else some { actual, value := c.toUInt16, index := index chip channel c }

def close (actual requested : Nat) : Bool :=
  max actual requested * 20 ≤ min actual requested * 21

end UsbSerial.Baud
