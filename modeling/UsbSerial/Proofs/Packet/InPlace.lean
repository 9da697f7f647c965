import Mathlib.Algebra.GroupWithZero.Nat
import UsbSerial.Proofs.Packet
import UsbSerial.Session.Stream

/-! Closing the gaps within one array. What is moved was not overwritten before, so that the front
of the array ends as the payload taken packet by packet. -/

namespace UsbSerial.Packet

open Session (pieces)

structure Move where
  source : ℕ
  target : ℕ
  count : ℕ
  deriving DecidableEq

namespace Move

def apply (data : Array UInt8) (m : Move) : Array UInt8 := moveDown data m.source m.target m.count

def Reads (m : Move) (i : ℕ) : Prop := m.source ≤ i ∧ i < m.source + m.count

def Writes (m : Move) (i : ℕ) : Prop := m.target ≤ i ∧ i < m.target + m.count

end Move

def moves (size total start kept : ℕ) : List Move :=
  if statusBytes < size ∧ start < total then
    let payload := min (start + size) total - (start + statusBytes)
    if payload = 0 then moves size total (start + size) kept
    else { source := start + statusBytes, target := kept, count := payload } ::
      moves size total (start + size) (kept + payload)
  else []
termination_by total - start
decreasing_by all_goals simp only [statusBytes] at *; omega

variable {size total start kept : ℕ}

section Moves

lemma size_foldl_apply (ms : List Move) (data : Array UInt8) :
    (ms.foldl Move.apply data).size = data.size := by
  induction ms generalizing data with
  | nil => rfl
  | cons m ms ih => rw [List.foldl_cons, ih, Move.apply, size_moveDown]

lemma compact_eq_moves (size : ℕ) (data : Array UInt8) (start kept : ℕ) :
    compact size data start kept =
      ((moves size data.size start kept).foldl Move.apply data,
        kept + ((moves size data.size start kept).map Move.count).sum) := by
  induction data, start, kept using compact.induct size with
  | case1 data start kept hstart count ih =>
    rw [size_moveDown] at ih
    rw [compact, if_pos hstart, moves, if_pos hstart]
    dsimp only
    change compact size (moveDown data (start + statusBytes) kept count) (start + size)
      (kept + count) = _
    rw [ih]
    by_cases hcount : count = 0
    · rw [if_pos hcount, hcount]
      rfl
    · rw [if_neg hcount, List.foldl_cons, List.map_cons, List.sum_cons, Nat.add_assoc]
      rfl
  | case2 data start kept hstart =>
    rw [compact, if_neg hstart, moves, if_neg hstart]
    rfl

lemma mem_moves (h : kept ≤ start) {m : Move} (hm : m ∈ moves size total start kept) :
    kept ≤ m.target ∧ m.target < m.source ∧ start < m.source ∧ m.source + m.count ≤ total := by
  -- The place that is written to stays behind all that is still to be read.
  induction start, kept using moves.induct size total with
  | case1 start kept hstart payload hpayload ih =>
    rw [moves, if_pos hstart] at hm
    dsimp only at hm
    rw [if_pos hpayload] at hm
    have hbounds := ih (by omega) hm
    omega
  | case2 start kept hstart payload hpayload ih =>
    have hcount : payload = min (start + size) total - (start + statusBytes) := rfl
    have hstatus : statusBytes = 2 := rfl
    rw [moves, if_pos hstart] at hm
    dsimp only at hm
    rw [if_neg hpayload] at hm
    rcases List.mem_cons.mp hm with rfl | hm
    · dsimp only
      omega
    · have hbounds := ih (by omega) hm
      omega
  | case3 start kept hstart =>
    rw [moves, if_neg hstart] at hm
    cases hm

lemma pairwise_moves (h : kept ≤ start) :
    (moves size total start kept).Pairwise fun earlier later =>
      earlier.target + earlier.count ≤ later.source := by
  induction start, kept using moves.induct size total with
  | case1 start kept hstart payload hpayload ih =>
    rw [moves, if_pos hstart]
    dsimp only
    rw [if_pos hpayload]
    exact ih (by omega)
  | case2 start kept hstart payload hpayload ih =>
    have hcount : payload = min (start + size) total - (start + statusBytes) := rfl
    rw [moves, if_pos hstart]
    dsimp only
    rw [if_neg hpayload]
    refine List.pairwise_cons.mpr ⟨fun m hm => ?_, ih (by omega)⟩
    have hbounds := mem_moves (by omega) hm
    dsimp only
    omega
  | case3 start kept hstart =>
    rw [moves, if_neg hstart]
    exact List.Pairwise.nil

lemma sum_moves_le (h : kept ≤ start) (htotal : kept ≤ total) :
    kept + ((moves size total start kept).map Move.count).sum ≤ total := by
  induction start, kept using moves.induct size total with
  | case1 start kept hstart payload hpayload ih =>
    rw [moves, if_pos hstart]
    dsimp only
    rw [if_pos hpayload]
    exact ih (by omega) htotal
  | case2 start kept hstart payload hpayload ih =>
    have hcount : payload = min (start + size) total - (start + statusBytes) := rfl
    rw [moves, if_pos hstart]
    dsimp only
    rw [if_neg hpayload, List.map_cons, List.sum_cons, ← Nat.add_assoc]
    exact ih (by omega) (by omega)
  | case3 start kept hstart =>
    rw [moves, if_neg hstart]
    exact htotal

end Moves

lemma flatMap_pieces (hs : statusBytes < size) (data : List UInt8) :
    (pieces size (Nat.zero_lt_of_lt hs) data).flatMap (List.drop statusBytes) =
      payload size data := by
  fun_induction pieces size (Nat.zero_lt_of_lt hs) data with
  | case1 =>
    rw [payload_nil]
    rfl
  | case2 data hdata ih => rw [List.flatMap_cons, ih, ← payload_eq hs]

/-- Closing the gaps in place leaves the payload at the front of the array and counts it; no move
reads a byte that one before it has written. -/
theorem compact_in_place (size : ℕ) (data : Array UInt8) :
    (∀ hs : statusBytes < size,
      let plain := (pieces size (Nat.zero_lt_of_lt hs) data.toList).flatMap (List.drop statusBytes)
      (compact size data 0 0).2 = plain.length ∧
        (compact size data 0 0).1.toList.take plain.length = plain ∧
        strip size data.toList = plain) ∧
    (size ≤ statusBytes → compact size data 0 0 = (data, 0) ∧ strip size data.toList = []) ∧
    (compact size data 0 0).1 = (moves size data.size 0 0).foldl Move.apply data ∧
    (∀ m ∈ moves size data.size 0 0, (∀ i, m.Reads i → i < data.size) ∧
      (∀ i, m.Writes i → i < data.size) ∧ m.target ≤ m.source) ∧
    (moves size data.size 0 0).Pairwise fun earlier later =>
      ∀ i, earlier.Writes i → ¬ later.Reads i := by
  have hmoves := compact_eq_moves size data 0 0
  have hinPlace : (compact size data 0 0).1 = (moves size data.size 0 0).foldl Move.apply data :=
    congrArg Prod.fst hmoves
  refine ⟨fun hs => ?plain, fun hs => ?none, hinPlace, fun m hm => ?bounds,
    (pairwise_moves (Nat.le_refl 0)).imp ?apart⟩
  case plain =>
    intro plain
    have hplain : plain = payload size data.toList := flatMap_pieces hs data.toList
    have htake := take_compact size data 0 0 (Nat.le_refl 0)
    rw [List.take_zero, List.nil_append, List.drop_zero, ← hplain] at htake
    have hcount : (compact size data 0 0).2 ≤ data.size := by
      have hsum : 0 + ((moves size data.size 0 0).map Move.count).sum ≤ data.size :=
        sum_moves_le (Nat.le_refl 0) (Nat.zero_le data.size)
      rwa [hmoves]
    have hlength : (compact size data 0 0).2 = plain.length := by
      rw [← htake, List.length_take, Array.length_toList, hinPlace, size_foldl_apply,
        Nat.min_eq_left hcount]
    exact ⟨hlength, hlength ▸ htake, (strip_eq_payload _ _).trans hplain.symm⟩
  case none =>
    have hnone : ¬ (statusBytes < size ∧ 0 < data.size) := fun h => Nat.not_lt.mpr hs h.1
    refine ⟨by rw [compact, if_neg hnone], ?_⟩
    rw [strip_eq_payload, payload, if_neg fun h => Nat.not_lt.mpr hs h.1]
  case bounds =>
    have hm := mem_moves (Nat.le_refl 0) hm
    exact ⟨fun i hi => Nat.lt_of_lt_of_le hi.2 (by omega),
      fun i hi => Nat.lt_of_lt_of_le hi.2 (by omega), by omega⟩
  case apart =>
    intro earlier later hle i hwrites hreads
    exact Nat.not_lt.mpr hreads.1 (Nat.lt_of_lt_of_le hwrites.2 hle)

theorem compact_in_place_overlapping :
    let data : Array UInt8 := #[1, 96, 10, 11, 12, 1, 96, 13, 14, 15, 1, 96]
    statusBytes < 5 ∧ (compact 5 data 0 0).2 = 6 ∧
      (compact 5 data 0 0).1.toList.take 6 = [10, 11, 12, 13, 14, 15] ∧
      compact 2 data 0 0 = (data, 0) ∧
      ∀ m ∈ moves 5 data.size 0 0, m.target ≤ m.source := by
  intro data
  have hs : statusBytes < 5 := by decide
  obtain ⟨hplain, -, -, hbounds, -⟩ := compact_in_place 5 data
  obtain ⟨hcount, htake, -⟩ := hplain hs
  have hpieces : (pieces 5 (by decide) data.toList).flatMap (List.drop statusBytes) =
      [10, 11, 12, 13, 14, 15] := by
    decide +kernel
  rw [hpieces] at hcount htake
  obtain ⟨-, hnone, -⟩ := compact_in_place 2 data
  exact ⟨hs, hcount, htake, (hnone (Nat.le_refl 2)).1, fun m hm => (hbounds m hm).2.2⟩

end UsbSerial.Packet
