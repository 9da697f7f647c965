namespace UsbSerial.Text.Hex

def digits (width n : Nat) : String :=
  let ds := Nat.toDigits 16 n
  String.ofList (List.replicate (width - ds.length) '0' ++ ds)

def marked (width n : Nat) : String := "0x" ++ digits width n

def list (bytes : List UInt8) : String :=
  "[" ++ ", ".intercalate (bytes.map fun b => digits 2 b.toNat) ++ "]"

end UsbSerial.Text.Hex
