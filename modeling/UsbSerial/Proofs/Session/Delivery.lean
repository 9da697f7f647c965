import UsbSerial.Proofs.Session.Action
import UsbSerial.Proofs.Session.Receive

namespace UsbSerial.Sim.Device

open Attempt (exec)

def drivenPins (d : Device) (data : List UInt8) : UInt8 :=
  if d.mode = 0 then d.pins else data.getLast?.elim d.pins (merge d.pins d.outputMask)

lemma drive_eq_pins (d : Device) (data : List UInt8) :
    d.drive data = { d with pins := d.drivenPins data } := by
  rw [drive, drivenPins]
  cases data.getLast? with
  | none =>
    dsimp only
    split <;> rfl
  | some level =>
    dsimp only
    split <;> rfl

def taking (d : Device) (data : List UInt8) : Device :=
  { d with written := d.written ++ data, pins := d.drivenPins data }

lemma drive_taking (d : Device) (data : List UInt8) :
    Device.drive { d with shortWrite := false, written := d.written ++ data } data =
      { d.taking data with shortWrite := false } := by
  rw [drive_eq_pins]
  rfl

lemma merge_merge (old mask level level' : UInt8) :
    merge (merge old mask level) mask level' = merge old mask level' := by
  apply UInt8.eq_of_toBitVec_eq
  apply BitVec.eq_of_getLsbD_eq
  intro i hi
  simp only [merge, UInt8.toBitVec_or, UInt8.toBitVec_and, UInt8.toBitVec_not, BitVec.getLsbD_or,
    BitVec.getLsbD_and, BitVec.getLsbD_not, hi]
  cases old.toBitVec.getLsbD i <;> cases mask.toBitVec.getLsbD i <;> simp

lemma taking_nil (d : Device) : d.taking [] = d := by
  simp [taking, drivenPins]

lemma drivenPins_taking (d : Device) (a b : List UInt8) :
    (d.taking a).drivenPins b = d.drivenPins (a ++ b) := by
  have hpins : (d.taking a).pins = d.drivenPins a := rfl
  have hmask : (d.taking a).outputMask = d.outputMask := rfl
  have hmode : (d.taking a).mode = d.mode := rfl
  rw [drivenPins, hpins, hmask, hmode, drivenPins, drivenPins]
  by_cases hserial : d.mode = 0
  · rw [if_pos hserial, if_pos hserial, if_pos hserial]
  rw [if_neg hserial, if_neg hserial, if_neg hserial, List.getLast?_append]
  cases b.getLast? with
  | none => rfl
  | some level =>
    cases a.getLast? with
    | none => rfl
    | some level' => exact merge_merge _ _ _ _

lemma taking_taking (d : Device) (a b : List UInt8) :
    (d.taking a).taking b = d.taking (a ++ b) := by
  have hwritten : (d.taking a).written = d.written ++ a := rfl
  rw [taking, drivenPins_taking, hwritten, List.append_assoc]
  rfl

def fault? (d : Device) (timeout : Duration) : Option Usb.Error :=
  if d.disconnected then some .disconnected
  else if d.failing = 0 then none
  else some (.timeout timeout)

lemma bulkOut_fault {d : Device} {timeout : Duration} {fault : Usb.Error}
    (h : d.fault? timeout = some fault) (data : List UInt8) :
    (exec (bulkOut data timeout) d).1 = .error fault := by
  have hcheck : (exec (check timeout) d).1 = .error fault := by
    rw [exec_check]
    rw [fault?] at h
    split at h
    · rename_i hdisconnected
      rw [if_pos hdisconnected, Option.some_inj.mp h]
    · rename_i hconnected
      rw [if_neg hconnected]
      cases hfailing : d.failing with
      | zero => simp [hfailing] at h
      | succ n => simpa [hfailing] using h
  rcases hexec : exec (check timeout) d with ⟨r, d'⟩
  rw [hexec] at hcheck
  simp only at hcheck
  subst hcheck
  simp [bulkOut, hexec]

end UsbSerial.Sim.Device

namespace UsbSerial.Session

open Attempt (exec)
open Sim (Bus Device DeviceId Handle)

section Pieces

lemma flatten_pieces (size : ℕ) (size_pos : 0 < size) (data : List UInt8) :
    (pieces size size_pos data).flatten = data := by
  fun_induction pieces size size_pos data with
  | case1 => rfl
  | case2 data _ ih => rw [List.flatten_cons, ih, List.take_append_drop]

lemma pieces_ne_nil {size : ℕ} {size_pos : 0 < size} {data piece : List UInt8}
    (h : piece ∈ pieces size size_pos data) : piece ≠ [] := by
  fun_induction pieces size size_pos data with
  | case1 => cases h
  | case2 data hdata ih =>
    rcases List.mem_cons.mp h with rfl | hrest
    · simp [hdata, Nat.ne_of_gt size_pos]
    · exact ih hrest

lemma flatten_take_pieces {size : ℕ} {size_pos : 0 < size} {data : List UInt8} {k : ℕ}
    (h : k < (pieces size size_pos data).length) :
    ((pieces size size_pos data).take k).flatten = data.take (k * size) ∧
      k * size < data.length := by
  fun_induction pieces size size_pos data generalizing k with
  | case1 => cases h
  | case2 data hdata ih =>
    have hpos : 0 < data.length := List.length_pos_iff.mpr hdata
    cases k with
    | zero => simpa using hpos
    | succ k =>
      obtain ⟨hflatten, hlt⟩ := ih (Nat.lt_of_succ_lt_succ h)
      rw [List.length_drop] at hlt
      have hsum : (k + 1) * size = size + k * size := by rw [Nat.succ_mul, Nat.add_comm]
      rw [List.take_succ_cons, List.flatten_cons, hflatten, hsum, List.take_add]
      exact ⟨rfl, by omega⟩

end Pieces

section Ways

/-- How the writing of pieces ends, and which bytes were taken until then. -/
inductive Wrote (total : ℕ) : List (List UInt8) → ℕ → Except Error ℕ → List UInt8 → Prop
  | all (written : ℕ) : Wrote total [] written (.ok written) []
  | failed (piece : List UInt8) (rest : List (List UInt8)) (written : ℕ) (fault : Usb.Error) :
      Wrote total (piece :: rest) written (.error (.transport fault)) []
  | short {piece taken : List UInt8} (rest : List (List UInt8)) (written : ℕ)
      (hstart : taken <+: piece) (hshort : taken.length < piece.length) :
      Wrote total (piece :: rest) written (.error (.shortTransfer total (written + taken.length)))
        taken
  | next (piece : List UInt8) {rest : List (List UInt8)} {written : ℕ} {r : Except Error ℕ}
      {taken : List UInt8} (h : Wrote total rest (written + piece.length) r taken) :
      Wrote total (piece :: rest) written r (piece ++ taken)

namespace Wrote

variable {total written : ℕ} {ps : List (List UInt8)} {r : Except Error ℕ} {taken : List UInt8}

lemma isPrefix (h : Wrote total ps written r taken) : taken <+: ps.flatten := by
  induction h with
  | all => exact List.nil_prefix
  | failed => exact List.nil_prefix
  | short rest written hstart => exact hstart.trans (List.prefix_append _ _)
  | next piece h ih => exact (List.prefix_append_right_inj piece).mpr ih

lemma of_ok {n : ℕ} (h : Wrote total ps written (.ok n) taken) :
    taken = ps.flatten ∧ n = written + ps.flatten.length := by
  generalize hr : (.ok n : Except Error ℕ) = r at h
  induction h with
  | all =>
    cases hr
    exact ⟨rfl, rfl⟩
  | failed => cases hr
  | short => cases hr
  | next piece h ih =>
    obtain ⟨htaken, hn⟩ := ih hr
    rw [List.flatten_cons, List.length_append, htaken, hn, Nat.add_assoc]
    exact ⟨rfl, rfl⟩

lemma of_error {e : Error} (h : Wrote total ps written (.error e) taken) :
    e = .shortTransfer total (written + taken.length) ∨ ∃ fault, e = .transport fault := by
  generalize hr : (.error e : Except Error ℕ) = r at h
  induction h with
  | all => cases hr
  | failed piece rest written fault =>
    cases hr
    exact .inr ⟨fault, rfl⟩
  | short =>
    cases hr
    exact .inl rfl
  | next piece h ih =>
    rw [List.length_append, ← Nat.add_assoc]
    exact ih hr

lemma length_lt_of_error {e : Error} (h : Wrote total ps written (.error e) taken)
    (hps : ∀ piece ∈ ps, piece ≠ []) : taken.length < ps.flatten.length := by
  generalize hr : (.error e : Except Error ℕ) = r at h
  induction h with
  | all => cases hr
  | failed piece =>
    have hpiece : 0 < piece.length := List.length_pos_iff.mpr (hps piece List.mem_cons_self)
    rw [List.flatten_cons, List.length_append, List.length_nil]
    omega
  | short rest written hstart hshort =>
    rw [List.flatten_cons, List.length_append]
    omega
  | next piece h ih =>
    rw [List.flatten_cons, List.length_append, List.length_append]
    exact Nat.add_lt_add_left (ih (fun p hp => hps p (List.mem_cons_of_mem _ hp)) hr) _

lemma whole_of_transport {fault : Usb.Error}
    (h : Wrote total ps written (.error (.transport fault)) taken) :
    ∃ k < ps.length, taken = (ps.take k).flatten := by
  generalize hr : (.error (.transport fault) : Except Error ℕ) = r at h
  induction h with
  | all => cases hr
  | failed => exact ⟨0, Nat.succ_pos _, rfl⟩
  | short => cases hr
  | next piece h ih =>
    obtain ⟨k, hk, rfl⟩ := ih hr
    exact ⟨k + 1, Nat.succ_lt_succ hk, rfl⟩

end Wrote

structure Delivered (size : ℕ) (data taken : List UInt8) (r : Except Error ℕ) : Prop where
  isPrefix : taken <+: data
  ok_iff : r = .ok data.length ↔ taken = data
  count : ∀ n, r = .ok n → n = data.length
  fails : ∀ e, r = .error e →
    e = .shortTransfer data.length taken.length ∨ ∃ fault, e = .transport fault
  whole : ∀ fault, r = .error (.transport fault) →
    ∃ k, k * size < data.length ∧ taken = data.take (k * size)

lemma Wrote.delivered {size : ℕ} {size_pos : 0 < size} {data taken : List UInt8}
    {r : Except Error ℕ} (h : Wrote data.length (pieces size size_pos data) 0 r taken) :
    Delivered size data taken r := by
  have hflatten := flatten_pieces size size_pos data
  constructor
  · exact hflatten ▸ h.isPrefix
  · constructor
    · rintro rfl
      exact h.of_ok.1.trans hflatten
    · rintro rfl
      cases r with
      | ok n => rw [h.of_ok.2, hflatten, Nat.zero_add]
      | error e =>
        -- no piece is empty, so a write that fails leaves bytes out
        have hlt := h.length_lt_of_error fun _ => pieces_ne_nil
        rw [hflatten] at hlt
        exact absurd hlt (Nat.lt_irrefl _)
  · rintro n rfl
    rw [h.of_ok.2, hflatten, Nat.zero_add]
  · rintro e rfl
    simpa only [Nat.zero_add] using h.of_error
  · rintro fault rfl
    obtain ⟨k, hk, rfl⟩ := h.whole_of_transport
    obtain ⟨htake, hlt⟩ := flatten_take_pieces hk
    exact ⟨k, hlt, htake⟩

end Ways

section Opened

variable {β δ κ : Type} [Transport β δ κ] {w : Hosted β κ} {link : Link κ}

lemma exec_write_opened (hl : w.session.binding = .opened link) (data : List UInt8) :
    exec (write data) w = exec (tracked (writePieces data.length
      (pieces w.session.options.writeChunk w.session.options.writeChunk_pos data) 0)) w := by
  have hopened : w.session.state.isOpened = true := by
    rw [Session.state, hl]
    rfl
  have hrequire := exec_require_opened hl .write hopened
  rw [write, exec_tracked, exec_tracked]
  simp only [Attempt.exec_bind, hrequire, exec_session]

end Opened

section Writing

structure Faultless (d : Device) : Prop where
  connected : d.disconnected = false
  succeeding : d.failing = 0
  whole : d.shortWrite = false

variable {w : Hosted Bus Handle} {link : Link Handle} {d d' d'' : Device}
  {taken taken' : List UInt8}

lemma exec_bulkOut_faultless (h : Faultless d) (data : List UInt8) (timeout : Duration) :
    exec (Device.bulkOut data timeout) d =
      (.ok data.length, { d.taking data with shortWrite := false }) := by
  have hcheck := Device.exec_check_ok h.connected h.succeeding timeout
  simp [Device.bulkOut, hcheck, h.whole, Device.drive_taking]

def Took (d d' : Device) (taken : List UInt8) : Prop :=
  ∃ failing shortWrite, d' = { d.taking taken with failing, shortWrite }

lemma took_nil (d : Device) (failing : ℕ) : Took d { d with failing } [] := by
  refine ⟨failing, d.shortWrite, ?_⟩
  rw [Device.taking_nil]

lemma Took.trans (h : Took d d' taken) (h' : Took d' d'' taken') :
    Took d d'' (taken ++ taken') := by
  obtain ⟨failing, shortWrite, rfl⟩ := h
  obtain ⟨failing', shortWrite', rfl⟩ := h'
  refine ⟨failing', shortWrite', ?_⟩
  rw [← Device.taking_taking]
  rfl

lemma Took.written (h : Took d d' taken) : d'.written = d.written ++ taken := by
  obtain ⟨_, _, rfl⟩ := h
  rfl

lemma Took.eq_taking (h : Took d d' taken) (hd : Faultless d) (hd' : Faultless d') :
    d' = d.taking taken := by
  obtain ⟨failing, shortWrite, rfl⟩ := h
  have hfailing : failing = d.failing := hd'.succeeding.trans hd.succeeding.symm
  have hshort : shortWrite = d.shortWrite := hd'.whole.trans hd.whole.symm
  rw [hfailing, hshort]
  rfl

lemma bulkOut_outcome (hl : w.session.binding = .opened link)
    (hd : w.bus.device? link.handle.device = some d) (operation : Operation) (data : List UInt8) :
    ∃ r w' d' taken, exec (bulkOut operation data) w = (r, w') ∧ w'.session = w.session ∧
      w'.bus = w.bus.update link.handle.device (fun _ => d') ∧ Took d d' taken ∧
      ((∃ fault, r = .error (.transport fault) ∧ taken = []) ∨
        r = .ok taken.length ∧ (taken = data ∨ taken = data.dropLast)) ∧
      (Faultless d → Faultless d' ∧ r = .ok data.length ∧ taken = data) := by
  obtain ⟨log, hexec⟩ := exec_bulkOut_device hl hd operation data
  rcases hbulk : exec (Device.bulkOut data w.session.options.writeTimeout) d with ⟨e | n, d'⟩
  · rw [hexec, hbulk]
    refine ⟨_, _, d', [], rfl, rfl, rfl, ?_, .inl ⟨e, rfl, rfl⟩, ?_⟩
    · rw [Device.bulkOut_error hbulk]
      exact took_nil d d'.failing
    · intro hfaultless
      rw [exec_bulkOut_faultless hfaultless] at hbulk
      cases hbulk
  · obtain ⟨taken, htaken, rfl, hd'⟩ := Device.bulkOut_ok hbulk
    rw [Device.drive_taking] at hd'
    rw [hexec, hbulk]
    refine ⟨_, _, d', taken, rfl, rfl, rfl, ⟨d.failing, false, hd'⟩, .inr ⟨rfl, ?_⟩, ?_⟩
    · split at htaken
      · exact .inr htaken
      · exact .inl htaken
    · intro hfaultless
      rw [hfaultless.whole, if_neg Bool.false_ne_true] at htaken
      subst htaken
      rw [hd']
      exact ⟨⟨hfaultless.connected, hfaultless.succeeding, rfl⟩, rfl, rfl⟩

lemma exec_writePieces (hl : w.session.binding = .opened link)
    (hd : w.bus.device? link.handle.device = some d) (total : ℕ) (ps : List (List UInt8))
    (written : ℕ) :
    ∃ r w' d' taken, exec (writePieces total ps written) w = (r, w') ∧ w'.session = w.session ∧
      w'.bus = w.bus.update link.handle.device (fun _ => d') ∧ Took d d' taken ∧
      Wrote total ps written r taken ∧
      (Faultless d → Faultless d' ∧ r = .ok (written + ps.flatten.length)) := by
  induction ps generalizing w d written with
  | nil =>
    exact ⟨_, w, d, [], rfl, rfl, (Bus.update_self hd).symm, took_nil d d.failing, .all written,
      fun hfaultless => ⟨hfaultless, rfl⟩⟩
  | cons piece rest ih =>
    obtain ⟨r, v, d', taken, hexec, hsession, hbus, htook, hway, hfaultless⟩ :=
      bulkOut_outcome hl hd .write piece
    rw [writePieces.eq_2, Attempt.exec_bind, hexec]
    rcases hway with ⟨fault, rfl, rfl⟩ | ⟨rfl, htaken⟩
    · refine ⟨_, v, d', [], rfl, hsession, hbus, htook, .failed piece rest written fault, ?_⟩
      intro h
      cases (hfaultless h).2.1
    -- a transfer that passes decides by its count alone whether the loop goes on
    by_cases hshort : taken.length < piece.length
    · have hstart : taken <+: piece := by
        rcases htaken with rfl | rfl
        · exact List.prefix_rfl
        · exact List.dropLast_prefix piece
      refine ⟨.error (.shortTransfer total (written + taken.length)), v, d', taken, ?_, hsession,
        hbus, htook, .short rest written hstart hshort, ?_⟩
      · simp [hshort]
      · intro h
        obtain ⟨-, -, rfl⟩ := hfaultless h
        exact absurd hshort (Nat.lt_irrefl _)
    · have hwhole : taken = piece := by
        rcases htaken with rfl | rfl
        · rfl
        · exact (List.dropLast_prefix piece).eq_of_length_le (Nat.le_of_not_lt hshort)
      subst hwhole
      have hd' : v.bus.device? link.handle.device = some d' := by
        rw [hbus, Bus.device?_put w.bus hd]
      obtain ⟨r, w', d'', taken', hrest, hsession', hbus', htook', hwrote, hfaultless'⟩ :=
        ih (by rwa [hsession]) hd' (written + taken.length)
      refine ⟨r, w', d'', taken ++ taken', ?_, hsession'.trans hsession, ?_, htook.trans htook',
        .next taken hwrote, ?_⟩
      · simpa [hshort] using hrest
      · rw [hbus', hbus, Bus.update_put]
      · intro h
        obtain ⟨h', hr⟩ := hfaultless' (hfaultless h).1
        rw [List.flatten_cons, List.length_append, ← Nat.add_assoc]
        exact ⟨h', hr⟩

lemma exec_write (hl : w.session.binding = .opened link)
    (hd : w.bus.device? link.handle.device = some d) (data : List UInt8) :
    ∃ r w' d' taken, exec (write data) w = (r, w') ∧
      w'.bus = w.bus.update link.handle.device (fun _ => d') ∧ Took d d' taken ∧
      Wrote data.length (pieces w.session.options.writeChunk w.session.options.writeChunk_pos data)
        0 r taken ∧
      (Faultless d → Faultless d' ∧ r = .ok data.length ∧ taken = data) := by
  obtain ⟨r, w', d', taken, hexec, -, hbus, htook, hwrote, hresult⟩ := exec_writePieces hl hd
    data.length (pieces w.session.options.writeChunk w.session.options.writeChunk_pos data) 0
  rw [flatten_pieces, Nat.zero_add] at hresult
  have hfaultless (h : Faultless d) : Faultless d' ∧ r = .ok data.length ∧ taken = data := by
    obtain ⟨hd', rfl⟩ := hresult h
    exact ⟨hd', rfl, hwrote.of_ok.1.trans (flatten_pieces _ _ data)⟩
  rw [exec_write_opened hl, exec_tracked, hexec]
  cases r with
  | ok n => exact ⟨_, w', d', taken, rfl, hbus, htook, hwrote, hfaultless⟩
  | error e => exact ⟨_, _, d', taken, rfl, hbus, htook, hwrote, hfaultless⟩

lemma exec_write_fault (hl : w.session.binding = .opened link)
    (hd : w.bus.device? link.handle.device = some d) {fault : Usb.Error}
    (hfault : d.fault? w.session.options.writeTimeout = some fault) {data : List UInt8}
    (hdata : data ≠ []) : (exec (write data) w).1 = .error (.transport fault) := by
  have hbulk (piece : List UInt8) : (exec (bulkOut .write piece) w).1 =
      .error (.transport fault) := by
    obtain ⟨log, hexec⟩ := exec_bulkOut_device hl hd .write piece
    rw [hexec, Device.bulkOut_fault hfault]
    rfl
  rw [exec_write_opened hl, pieces.eq_def, if_neg hdata, writePieces.eq_2, exec_tracked,
    Attempt.exec_bind]
  have hfirst := hbulk (data.take w.session.options.writeChunk)
  rcases hexec : exec (bulkOut .write (data.take w.session.options.writeChunk)) w with ⟨r, v⟩
  rw [hexec] at hfirst
  simp only at hfirst
  subst hfirst
  rfl

end Writing

/-- The device takes a prefix of what is written, whatever it fails with and wherever in the data,
and how much it has taken can be told from the result. -/
theorem write_delivers {w : Hosted Bus Handle} {link : Link Handle} {d : Device}
    (hl : w.session.binding = .opened link) (hd : w.bus.device? link.handle.device = some d)
    (data : List UInt8) :
    (∃ r w' d' taken, exec (write data) w = (r, w') ∧
      w'.bus = w.bus.update link.handle.device (fun _ => d') ∧ Took d d' taken ∧
      Delivered w.session.options.writeChunk data taken r) ∧
    (∀ fault, d.fault? w.session.options.writeTimeout = some fault → data ≠ [] →
      (exec (write data) w).1 = .error (.transport fault)) ∧
    (Faultless d → ∀ n : ℕ, ∃ v v', (Call.setWriteChunk n : Call DeviceId).step w = (.ok .done, v) ∧
      v.session.options.writeChunk = max n 1 ∧ exec (write data) v = (.ok data.length, v') ∧
      v'.bus = w.bus.update link.handle.device fun _ => d.taking data) ∧
    ∀ (β δ κ : Type) [Transport β δ κ] (v : Hosted β κ) (link : Link κ),
      v.session.binding = .opened link → exec (write []) v = (.ok 0, v) := by
  refine ⟨?_, ?_, ?_, ?_⟩
  · obtain ⟨r, w', d', taken, hexec, hbus, htook, hwrote, -⟩ := exec_write hl hd data
    exact ⟨r, w', d', taken, hexec, hbus, htook, hwrote.delivered⟩
  · intro fault hfault hdata
    exact exec_write_fault hl hd hfault hdata
  · intro hfaultless n
    let v : Hosted Bus Handle :=
      { w with session.options := w.session.options.withWriteChunk n }
    obtain ⟨r, v', d', taken, hexec, hbus, htook, -, hresult⟩ := @exec_write v link d hl hd data
    obtain ⟨hfaultless', rfl, rfl⟩ := hresult hfaultless
    rw [htook.eq_taking hfaultless hfaultless'] at hbus
    exact ⟨v, v', rfl, rfl, hexec, hbus⟩
  · intro β δ κ _ v link hlink
    rw [exec_write_opened hlink, pieces.eq_def, if_pos rfl, exec_tracked]
    rfl

section Sample

def sampleLossy : Device :=
  { Receive.sampleDevice 0 [] with mode := 1, outputMask := 0x0F, shortWrite := true }

def sampleWriting (d : Device) : Hosted Bus Handle where
  bus := { devices := [d] }
  session := { options := { writeChunk := 2 }, binding := .opened Receive.sampleLink }

theorem write_delivers_short :
    (sampleWriting sampleLossy).session.binding = .opened Receive.sampleLink ∧
      (sampleWriting sampleLossy).bus.device? { place := 0 } = some sampleLossy ∧
      ∃ w' d', exec (write [0x11, 0x22, 0x33]) (sampleWriting sampleLossy) =
          (.error (.shortTransfer 3 1), w') ∧
        w'.bus.device? { place := 0 } = some d' ∧ d'.written = [0x11] ∧ d'.pins = 0x01 := by
  obtain ⟨⟨r, w', d', taken, hexec, hbus, ⟨failing, shortWrite, rfl⟩, hdelivered⟩, -⟩ :=
    write_delivers (w := sampleWriting sampleLossy) (d := sampleLossy) rfl rfl [0x11, 0x22, 0x33]
  have hresult : (exec (write [0x11, 0x22, 0x33]) (sampleWriting sampleLossy)).1 =
      .error (.shortTransfer 3 1) := by decide +kernel
  rw [hexec] at hresult
  simp only at hresult
  subst hresult
  have hlength : taken.length = 1 := by
    rcases hdelivered.fails _ rfl with hshort | ⟨fault, hfault⟩
    · injection hshort with _ hcount
      exact hcount.symm
    · cases hfault
  have htaken : taken = [0x11] :=
    (List.prefix_iff_eq_take.mp hdelivered.isPrefix).trans (by rw [hlength]; rfl)
  subst htaken
  have hpins : sampleLossy.drivenPins [0x11] = 0x01 := by decide +kernel
  refine ⟨rfl, rfl, w', { sampleLossy.taking [0x11] with failing, shortWrite }, hexec, ?_, rfl,
    hpins⟩
  rw [hbus]
  exact Bus.device?_put _ rfl _

end Sample

end UsbSerial.Session
