import UsbSerial.Host
import UsbSerial.Session.Options

/-! Sessions. All that a session has only while it is opened is part of the link to its device. -/

namespace UsbSerial

structure Leftover where
  bytes : List UInt8 := []
  offset : Nat := 0
  deriving DecidableEq, Repr

namespace Leftover

def unread (l : Leftover) : List UInt8 := l.bytes.drop l.offset

def advance (n : Nat) (l : Leftover) : Leftover :=
  { l with offset := l.offset + min n l.unread.length }

@[simp] theorem unread_mk_zero (bytes : List UInt8) : unread { bytes } = bytes := rfl

@[simp] theorem unread_advance (n : Nat) (l : Leftover) :
    (l.advance n).unread = l.unread.drop n := by
  simp only [advance, unread, List.length_drop, List.drop_drop]
  rcases Nat.le_total n (l.bytes.length - l.offset) with h | h
  · rw [Nat.min_eq_left h]
  · rw [Nat.min_eq_right h, List.drop_eq_nil_of_le (by omega), List.drop_eq_nil_of_le (by omega)]

end Leftover

structure Link (κ : Type) where
  handle : κ
  chip : Chip
  packetBytes : Nat
  mode : BitMode := .reset
  baudRate : UInt32 := 0
  leftover : Leftover := {}
  deriving DecidableEq, Repr

inductive Binding (κ : Type)
  | closed
  | opened (link : Link κ)
  | destroyed
  deriving DecidableEq, Repr

structure Session (κ : Type) where
  options : Session.Options := {}
  binding : Binding κ := .closed
  lastError : Option Error := none
  deriving DecidableEq, Repr

namespace Session

variable {κ : Type}

def create (o : Options) : Except Error (Session κ) :=
  match o.allocationFault? with
  | some fault => .error (.allocation fault)
  | none => .ok { options := o }

def link? (s : Session κ) : Option (Link κ) :=
  match s.binding with
  | .opened link => some link
  | _ => none

def state (s : Session κ) : State :=
  match s.binding with
  | .closed => .closed
  | .opened link => .opened link.mode
  | .destroyed => .destroyed

def chip? (s : Session κ) : Option Chip := s.link?.map Link.chip

def mode? (s : Session κ) : Option BitMode := s.link?.map Link.mode

def packetBytes? (s : Session κ) : Option Nat := s.link?.map Link.packetBytes

def baudRate (s : Session κ) : UInt32 := (s.link?.map Link.baudRate).getD 0

def leftover (s : Session κ) : Leftover := (s.link?.map Link.leftover).getD {}

def lastCode (s : Session κ) : Int := (s.lastError.map Error.code).getD 0

def lastText (s : Session κ) : String := (s.lastError.map Error.text).getD ""

def mapLink (f : Link κ → Link κ) (s : Session κ) : Session κ :=
  match s.binding with
  | .opened link => { s with binding := .opened (f link) }
  | _ => s

theorem mapLink_opened {s : Session κ} {link : Link κ} (h : s.binding = .opened link)
    (f : Link κ → Link κ) : s.mapLink f = { s with binding := .opened (f link) } := by
  simp only [mapLink, h]

end Session

structure Hosted (β κ : Type) extends Host β where
  session : Session κ
  deriving DecidableEq, Repr

end UsbSerial
