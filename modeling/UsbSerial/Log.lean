namespace UsbSerial.Log

inductive Level
  | trace
  | debug
  | info
  | warn
  | error
  deriving DecidableEq, Repr

namespace Level

def name : Level → String
  | trace => "TRACE"
  | debug => "DEBUG"
  | info => "INFO"
  | warn => "WARN"
  | error => "ERROR"

def rank : Level → Nat
  | trace => 0
  | debug => 1
  | info => 2
  | warn => 3
  | error => 4

end Level

structure Entry where
  level : Level
  text : String
  deriving DecidableEq, Repr

def Entry.line (e : Entry) : String := e.level.name ++ " " ++ e.text

def above (level : Level) (log : List Entry) : List String :=
  (log.filter fun e => level.rank ≤ e.level.rank).map Entry.line

end UsbSerial.Log
