import UsbSerial.Proofs.Bench.Steps

namespace UsbSerial.Bench

open Attempt (exec)
open Sim (Bus DeviceId Handle)

section Runs

variable {b : Bench} {n : ℕ}

def Outcome.fails : Outcome → Bool
  | .failed _ | .refused _ => true
  | _ => false

inductive Step.Asks : Step → Prop
  | call (n : ℕ) (c : Session.Call DeviceId) : Asks (.call n c)
  | openFound (n place : ℕ) : Asks (.openFound n place)
  | claim (device : DeviceId) (channel : UInt8) : Asks (.claim device channel)

end Runs

section Clearing

variable {b : Bench}

end Clearing

end UsbSerial.Bench
