namespace UsbSerial

structure Duration where
  seconds : Nat
  nanos : Nat
  nanos_lt : nanos < 1000000000 := by decide
  deriving DecidableEq, Repr

namespace Duration

def ofSeconds (n : Nat) : Duration := { seconds := n, nanos := 0 }

def ofMillis (n : Nat) : Duration where
  seconds := n / 1000
  nanos := n % 1000 * 1000000
  nanos_lt := by omega

def ofParts (seconds nanos : Nat) : Duration where
  seconds := seconds + nanos / 1000000000
  nanos := nanos % 1000000000
  nanos_lt := Nat.mod_lt _ (by decide)

def zero : Duration := ofSeconds 0

def stripZeros (ds : List Char) : List Char := (ds.reverse.dropWhile (· = '0')).reverse

def fraction (places n : Nat) : String :=
  let ds := Nat.toDigits 10 n
  match stripZeros (List.replicate (places - ds.length) '0' ++ ds) with
  | [] => ""
  | ds => String.ofList ('.' :: ds)

def text (d : Duration) : String :=
  if 0 < d.seconds then s!"{d.seconds}{fraction 9 d.nanos}s"
  else if 1000000 ≤ d.nanos then s!"{d.nanos / 1000000}{fraction 6 (d.nanos % 1000000)}ms"
  else if 1000 ≤ d.nanos then s!"{d.nanos / 1000}{fraction 3 (d.nanos % 1000)}µs"
  else s!"{d.nanos}ns"

end Duration

end UsbSerial
