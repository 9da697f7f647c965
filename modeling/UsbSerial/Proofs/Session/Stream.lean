import Mathlib.Data.Nat.Notation
import Mathlib.Tactic.Lemma
import UsbSerial.Session.Stream

namespace UsbSerial.Session

open Attempt (exec)

variable {β δ κ : Type} [Transport β δ κ] {w : Hosted β κ} {link : Link κ}

lemma exec_read_zero (h : w.session.binding = .opened link) :
    exec (read 0) w = (.ok [], w) := by
  simp [read, exec_tracked, require, State.isOpened, Session.state, h]

lemma exec_read_pending (h : w.session.binding = .opened link) {room : ℕ} (hroom : room ≠ 0)
    (hpending : link.leftover.unread ≠ []) :
    exec (read room) w =
      (.ok (link.leftover.unread.take room),
        { w with session := w.session.mapLink fun l =>
            { l with leftover := l.leftover.advance room } }) := by
  cases hunread : link.leftover.unread with
  | nil => exact absurd hunread hpending
  | cons b rest =>
    simp [read, exec_tracked, require, State.isOpened, Session.state, h, hroom, exec_link, hunread,
      modifyLink]

lemma exec_read_bulk (h : w.session.binding = .opened link) {room : ℕ} (hroom : room ≠ 0)
    (hunread : link.leftover.unread = []) {data : List UInt8} {bus : β}
    (hbulk : exec (Transport.bulkIn link.handle w.session.options.channel.inEndpoint
      w.session.options.readChunk w.session.options.readTimeout) w.bus = (.ok data, bus)) :
    exec (read room) w =
      (.ok ((Packet.strip link.packetBytes data).take room),
        { w with
          bus
          session := w.session.mapLink fun l =>
            { l with leftover :=
              { bytes := (Packet.strip link.packetBytes data).drop room } } }) := by
  simp [read, exec_tracked, require, State.isOpened, Session.state, h, hroom, exec_link, hunread,
    modifyLink, hbulk]

lemma exec_read_failed (h : w.session.binding = .opened link) {room : ℕ} (hroom : room ≠ 0)
    (hunread : link.leftover.unread = []) {e : Usb.Error} {bus : β}
    (hbulk : exec (Transport.bulkIn link.handle w.session.options.channel.inEndpoint
      w.session.options.readChunk w.session.options.readTimeout) w.bus = (.error e, bus)) :
    ∃ log, exec (read room) w =
      (.error (.transport e),
        { w with bus, log, session := { w.session with lastError := some (.transport e) } }) := by
  simp [read, exec_tracked, require, State.isOpened, Session.state, h, hroom, exec_link, hunread,
    hbulk]

end UsbSerial.Session
