import Mathlib.Logic.Relation
import Mathlib.Tactic.Lemma
import UsbSerial.Proofs.Listing
import UsbSerial.Session.Opening
import UsbSerial.Session.Call

/-! Paths of a host and a session. Whatever operation is asked of a session, it comes to a sequence
of the moves listed here, on any bus. -/

namespace UsbSerial.Session

open Attempt (exec)
open Relation (ReflTransGen)

variable {β δ κ α γ : Type} [Transport β δ κ]

inductive Move : Hosted β κ → Hosted β κ → Prop
  | log (w : Hosted β κ) (entries : List Log.Entry) :
      Move w { w with log := w.log ++ entries }
  | enumerate (w : Hosted β κ) (vendor product : UInt16) :
      Move w { w with bus := (exec (Transport.enumerate vendor product) w.bus).2 }
  | texts (w : Hosted β κ) (device : δ) (timeout : Duration) :
      Move w { w with bus := (exec (Transport.texts device timeout) w.bus).2 }
  | refused (w : Hosted β κ) (device : δ) (e : Usb.Error) (bus : β) :
      w.session.binding = .closed →
      exec (Transport.claim device w.session.options.channel.number) w.bus = (.error e, bus) →
      Move w { w with bus }
  | claimed (w : Hosted β κ) (device : δ) (c : Usb.Claim κ) (bus : β) :
      w.session.binding = .closed →
      exec (Transport.claim device w.session.options.channel.number) w.bus = (.ok c, bus) →
      Move w
        { w with
          bus
          session.binding := .opened
            { handle := c.handle
              chip := Chip.detect c.facts.release c.facts.hasSerial
              packetBytes := c.facts.packetBytes } }
  | released (w : Hosted β κ) (link : Link κ) :
      w.session.binding = .opened link →
      Move w
        { w with
          bus := (exec (Transport.release link.handle) w.bus).2
          session.binding := .closed }
  | controlOut (w : Hosted β κ) (link : Link κ) (request : Request) (value index : UInt16) :
      w.session.binding = .opened link →
      Move w
        { w with
          bus := (exec (Transport.controlOut link.handle request.code value index
            w.session.options.writeTimeout) w.bus).2 }
  | controlIn (w : Hosted β κ) (link : Link κ) (request : Request) (index length : UInt16) :
      w.session.binding = .opened link →
      Move w
        { w with
          bus := (exec (Transport.controlIn link.handle request.code 0 index length
            w.session.options.readTimeout) w.bus).2 }
  | bulkOut (w : Hosted β κ) (link : Link κ) (data : List UInt8) :
      w.session.binding = .opened link →
      Move w
        { w with
          bus := (exec (Transport.bulkOut link.handle w.session.options.channel.outEndpoint data
            w.session.options.writeTimeout) w.bus).2 }
  | bulkIn (w : Hosted β κ) (link : Link κ) :
      w.session.binding = .opened link →
      Move w
        { w with
          bus := (exec (Transport.bulkIn link.handle w.session.options.channel.inEndpoint
            w.session.options.readChunk w.session.options.readTimeout) w.bus).2 }
  | relink (w : Hosted β κ) (link : Link κ) (mode : BitMode) (baudRate : UInt32)
      (leftover : Leftover) :
      w.session.binding = .opened link →
      Move w { w with session.binding := .opened { link with mode, baudRate, leftover } }
  | destroyed (w : Hosted β κ) :
      w.session.binding = .closed → Move w { w with session.binding := .destroyed }
  | tuned (w : Hosted β κ) (options : Options) :
      w.session.binding = .closed ∨ options.channel = w.session.options.channel →
      Move w { w with session.options := options }
  | noted (w : Hosted β κ) (lastError : Option Error) :
      Move w { w with session.lastError := lastError }

def Path : Hosted β κ → Hosted β κ → Prop := ReflTransGen Move

lemma Path.refl (w : Hosted β κ) : Path w w := ReflTransGen.refl

lemma Path.trans {u v w : Hosted β κ} (h : Path u v) (h' : Path v w) : Path u w :=
  ReflTransGen.trans h h'

lemma Move.path {v w : Hosted β κ} (h : Move v w) : Path v w := ReflTransGen.single h

lemma Path.keeps {P : Hosted β κ → Prop} (hP : ∀ v w, Move v w → P v → P w) {v w : Hosted β κ}
    (h : Path v w) (hv : P v) : P w := by
  induction h with
  | refl => exact hv
  | tail _ hmove ih => exact hP _ _ hmove ih

section Asking

def Asks (m : Attempt (Host β) Error α) : Prop :=
  ∀ w : Hosted β κ, Path w { w with toHost := (exec m w.toHost).2 }

lemma searches_move (timeout : Duration) (s : Session κ) :
    Device.Searches timeout (fun h : Host β => ({ h with session := s } : Hosted β κ)) Move where
  record h entries := (Move.log { h with session := s } entries).path
  enumerate h vendor product := (Move.enumerate { h with session := s } vendor product).path
  texts h device := (Move.texts { h with session := s } device timeout).path

lemma asks_findAll (options : Options) (vendor product : UInt16) :
    Asks (Device.findAll options vendor product :
      Attempt (Host β) Error (List (Device.Descriptor δ))) :=
  fun w => (searches_move _ w.session).findAll vendor product w.toHost

lemma asks_find (options : Options) (filter : Device.Filter) :
    Asks (Device.find options filter : Attempt (Host β) Error δ) :=
  fun w => (searches_move _ w.session).find filter w.toHost

end Asking

end UsbSerial.Session
