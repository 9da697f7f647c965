import UsbSerial.Proofs.Session.Effect

namespace UsbSerial.Session

open Attempt (exec bind_error)

section Buffers

structure Lent (β κ : Type) extends Hosted β κ where
  buffer : List UInt8

variable {β δ κ α : Type}

def onSession (m : Action β κ α) : Attempt (Lent β κ) Error α :=
  .of fun w => ((exec m w.toHosted).1, { w with toHosted := (exec m w.toHosted).2 })

def fill (data : List UInt8) : Attempt (Lent β κ) Error Unit :=
  modify fun w => { w with buffer := data ++ w.buffer.drop data.length }

variable [Transport β δ κ]

/-- A read that copies into the buffer of its caller, in the place and at the time that bytes are at
hand. -/
def readInto : Attempt (Lent β κ) Error ℕ :=
  tryCatch
    (do
      onSession (require .read State.isOpened)
      let room := (← get).buffer.length
      if room = 0 then return 0
      let options := (← onSession session).options
      let link ← onSession (link .read)
      match link.leftover.unread with
      | [] =>
          let data ← onSession (onHost (Host.call .transport (Transport.bulkIn link.handle
            options.channel.inEndpoint options.readChunk options.readTimeout)))
          let payload := Packet.strip link.packetBytes data
          fill (payload.take room)
          onSession (modifyLink fun l => { l with leftover := { bytes := payload.drop room } })
          return (payload.take room).length
      | pending =>
          fill (pending.take room)
          onSession (modifyLink fun l => { l with leftover := l.leftover.advance room })
          return (pending.take room).length)
    fun e => onSession (tracked (throw e))

lemma exec_onSession (m : Action β κ α) (w : Lent β κ) :
    exec (onSession m) w = ((exec m w.toHosted).1, { w with toHosted := (exec m w.toHosted).2 }) :=
  rfl

lemma exec_readInto (w : Lent β κ) :
    exec readInto w =
      match exec (read w.buffer.length) w.toHosted with
      | (.ok data, v) =>
          (.ok data.length, { toHosted := v, buffer := data ++ w.buffer.drop data.length })
      | (.error e, v) => (.error e, { toHosted := v, buffer := w.buffer }) := by
  cases hbinding : w.session.binding with
  | closed =>
    simp [readInto, read, exec_onSession, exec_require, exec_tracked, Session.state, hbinding,
      State.isOpened]
  | destroyed =>
    simp [readInto, read, exec_onSession, exec_require, exec_tracked, Session.state, hbinding]
  | opened link =>
    by_cases hbuffer : w.buffer = []
    · rw [hbuffer, List.length_nil, exec_read_zero hbinding]
      simp [readInto, exec_onSession, exec_require, Session.state, hbinding, State.isOpened,
        hbuffer]
    cases hunread : link.leftover.unread with
    | nil =>
      rcases hbulk : exec (Transport.bulkIn link.handle w.session.options.channel.inEndpoint
        w.session.options.readChunk w.session.options.readTimeout) w.bus with ⟨e | data, bus⟩
      · simp [readInto, read, exec_onSession, exec_require, exec_tracked, Session.state, hbinding,
          State.isOpened, hbuffer, exec_link, hunread, hbulk]
      · simp [readInto, read, exec_onSession, exec_require, exec_tracked, Session.state, hbinding,
          State.isOpened, hbuffer, exec_link, hunread, hbulk, modifyLink, fill]
    | cons b rest =>
      simp [readInto, read, exec_onSession, exec_require, exec_tracked, Session.state, hbinding,
        State.isOpened, hbuffer, exec_link, hunread, modifyLink, fill]

end Buffers

section Calls

variable {β δ κ : Type} [Transport β δ κ] {w w' : Hosted β κ} {e : Error}

lemma exec_purge_error (h : exec purge w = (.error e, w')) :
    w'.session = { w.session with lastError := some e } ∨
      ∃ l v, w.session.binding = .opened l ∧ exec purgeReceive w = (.ok (), v) ∧
        w'.session =
          { w.session with
            binding := .opened { l with leftover := {} }
            lastError := some e } := by
  obtain ⟨hends, -⟩ := ends_purgeReceive (s := w.session) w rfl
  rcases bind_error h with hreceive | ⟨⟨⟩, v, hreceive, htransmit⟩
  · rw [hreceive] at hends
    exact .inl hends
  · rw [hreceive] at hends
    obtain ⟨l, hl, hv⟩ := hends
    obtain ⟨hlast, -⟩ := ends_request (s := v.session) .purgeTransmit .reset
      Request.purgeTransmit (fun index => index) v rfl
    rw [purgeTransmit] at htransmit
    rw [htransmit] at hlast
    exact .inr ⟨l, v, hl, hreceive, by rw [hlast, hv]⟩

lemma Call.session_of_error {c : Call δ} (hc : c ≠ .purge) (h : c.step w = (.error e, w')) :
    w'.session = { w.session with lastError := some e } := by
  have hfailure := Call.failure_of_error h
  cases c with
  | purge => exact absurd rfl hc
  | _ => exact hfailure

omit [Transport β δ κ] in
lemma exec_done_error {m : Action β κ Unit}
    (h : exec (Call.run.done m : Action β κ (Answer δ)) w = (.error e, w')) :
    exec m w = (.error e, w') := by
  rcases bind_error h with hm | ⟨_, _, -, hdone⟩
  · exact hm
  · rw [Attempt.exec_pure] at hdone
    cases hdone

lemma exec_readInto_error {buffer : List UInt8}
    (h : (Call.read buffer.length : Call δ).step w = (.error e, w')) :
    exec readInto { toHosted := w, buffer } = (.error e, { toHosted := w', buffer }) := by
  rw [Call.step, Call.run, Attempt.exec_map] at h
  rw [exec_readInto]
  rcases hread : exec (read buffer.length) w with ⟨e' | data, v⟩
  · rw [hread] at h
    cases h
    rfl
  · rw [hread] at h
    cases h

/-- An operation that fails leaves its session as it was, with the error noted; only a purge of both
queues may have dropped the bytes left over. -/
theorem failure_leaves_session {c : Call δ} (h : c.step w = (.error e, w')) :
    (w'.session = { w.session with lastError := some e } ∨
      c = .purge ∧ ∃ l v, w.session.binding = .opened l ∧ exec purgeReceive w = (.ok (), v) ∧
        w'.session =
          { w.session with
            binding := .opened { l with leftover := {} }
            lastError := some e }) ∧
      ∀ buffer : List UInt8, c = .read buffer.length →
        exec readInto { toHosted := w, buffer } = (.error e, { toHosted := w', buffer }) := by
  constructor
  · by_cases hc : c = .purge
    · subst hc
      rcases exec_purge_error (exec_done_error h) with hsame | hpurged
      · exact .inl hsame
      · exact .inr ⟨rfl, hpurged⟩
    · exact .inl (Call.session_of_error hc h)
  · rintro buffer rfl
    exact exec_readInto_error h

end Calls

section Sample

structure Fuse where
  left : ℕ
  deriving DecidableEq

namespace Fuse

def burn {α : Type} (a : α) : Attempt Fuse Usb.Error α :=
  .of fun fuse =>
    match fuse.left with
    | 0 => (.error .disconnected, fuse)
    | left + 1 => (.ok a, { left })

def facts : Usb.Facts := { release := 0x0600, hasSerial := false, packetBytes := 64 }

instance : Transport Fuse Unit Unit where
  enumerate _ _ := burn [()]
  ids _ _ := { vendor := 0x0403, product := 0x6001, release := facts.release }
  texts _ _ := burn {}
  claim _ _ := burn { handle := (), facts }
  controlOut _ _ _ _ _ := burn ()
  controlIn _ _ _ _ length _ := burn (List.replicate length.toNat 0)
  bulkOut _ _ data _ := burn data.length
  bulkIn _ _ _ _ := burn [0x01, 0x60]
  release _ := burn ()

def sample (options : Options) (left : ℕ) (leftover : Leftover) : Hosted Fuse Unit where
  bus := { left }
  session :=
    { options
      binding := .opened
        { handle := (), chip := .ft232R, packetBytes := facts.packetBytes, leftover } }

end Fuse

theorem failure_leaves_session_fuse :
    (∃ w', exec readInto { toHosted := Fuse.sample {} 0 {}, buffer := [0x07, 0x07] } =
        (.error (.transport .disconnected), { toHosted := w', buffer := [0x07, 0x07] })) ∧
      ∃ w' v, (Call.purge : Call Unit).step (Fuse.sample {} 1 { bytes := [0x2A] }) =
          (.error (.transport .disconnected), w') ∧
        exec purgeReceive (Fuse.sample {} 1 { bytes := [0x2A] }) = (.ok (), v) ∧
        w'.session.leftover = {} := by
  constructor
  · obtain ⟨-, hbuffer⟩ := failure_leaves_session (c := (.read 2 : Call Unit))
      (w := Fuse.sample {} 0 {}) (e := .transport .disconnected) (Prod.ext rfl rfl)
    exact ⟨_, hbuffer [0x07, 0x07] rfl⟩
  · have hpurge : (Call.purge : Call Unit).step (Fuse.sample {} 1 { bytes := [0x2A] }) =
        (.error (.transport .disconnected), _) := Prod.ext rfl rfl
    obtain ⟨hsession, -⟩ := failure_leaves_session hpurge
    rcases hsession with hsame | ⟨-, l, v, -, hpurged, hemptied⟩
    -- The byte is gone, so that it was not the first purge that failed.
    · have hkept := congrArg Session.leftover hsame
      cases hkept
    · exact ⟨_, v, hpurge, hpurged, congrArg Session.leftover hemptied⟩

end Sample

end UsbSerial.Session
