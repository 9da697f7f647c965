import Mathlib.Data.List.Basic
import Mathlib.Tactic.Lemma
import UsbSerial.Packet

namespace UsbSerial.Packet

def payload (size : ℕ) (data : List UInt8) : List UInt8 :=
  if statusBytes < size ∧ data ≠ [] then
    (data.take size).drop statusBytes ++ payload size (data.drop size)
  else []
termination_by data.length
decreasing_by
  rename_i h
  have := List.length_pos_iff.mpr h.2
  simp only [statusBytes, List.length_drop] at *
  omega

lemma payload_nil (size : ℕ) : payload size [] = [] := by
  rw [payload, if_neg (fun h => h.2 rfl)]

lemma payload_eq {size : ℕ} (hs : statusBytes < size) (data : List UInt8) :
    payload size data = (data.take size).drop statusBytes ++ payload size (data.drop size) := by
  by_cases h : data = []
  · rw [h, List.take_nil, List.drop_nil, List.drop_nil, payload_nil, List.nil_append]
  · rw [payload, if_pos ⟨hs, h⟩]

lemma payload_last {size : ℕ} (hs : statusBytes < size) {data : List UInt8}
    (h : data.length ≤ size) : payload size data = data.drop statusBytes := by
  rw [payload_eq hs, List.take_of_length_le h, List.drop_eq_nil_of_le h, payload_nil,
    List.append_nil]

lemma payload_append {size : ℕ} (hs : statusBytes < size) {packet : List UInt8}
    (h : packet.length = size) (more : List UInt8) :
    payload size (packet ++ more) = packet.drop statusBytes ++ payload size more := by
  rw [payload_eq hs, List.take_left' h, List.drop_left' h]

section Strip

lemma toList_moveDown (data : Array UInt8) (source target count : ℕ) (ht : target ≤ source)
    (hs : source + count ≤ max source data.size) :
    (moveDown data source target count).toList =
      data.toList.take target ++ (data.toList.drop source).take count ++
        data.toList.drop (target + count) := by
  induction count generalizing data source target with
  | zero =>
    rw [moveDown, List.take_zero, List.append_nil, Nat.add_zero, List.take_append_drop]
  | succ count ih =>
    have hsource : source < data.toList.length := by
      rw [Array.length_toList]
      omega
    have hlength : (data.toList.take target).length = target := by
      rw [List.length_take]
      omega
    -- `target` is not above `source`, so the write spares all that is still to be moved.
    have hset : (data.setIfInBounds target (data.getD source 0)).toList =
        data.toList.take target ++ data.toList[source] :: data.toList.drop (target + 1) := by
      rw [Array.toList_setIfInBounds, List.set_eq_take_append_cons_drop, if_pos (by omega),
        Array.getD_eq_getD_getElem?, ← Array.getElem?_toList, List.getElem?_eq_getElem hsource,
        Option.getD_some]
    have htake : (data.setIfInBounds target (data.getD source 0)).toList.take (target + 1) =
        data.toList.take target ++ [data.toList[source]] := by
      rw [hset, List.take_append, hlength, List.take_of_length_le (by omega),
        Nat.add_sub_cancel_left, List.take_succ_cons, List.take_zero]
    have hdrop (n : ℕ) (hn : target < n) :
        (data.setIfInBounds target (data.getD source 0)).toList.drop n = data.toList.drop n := by
      rw [Array.toList_setIfInBounds, List.drop_set_of_lt hn]
    rw [moveDown, ih _ _ _ (by omega) (by rw [Array.size_setIfInBounds]; omega), htake,
      hdrop _ (by omega), hdrop _ (by omega), List.drop_eq_getElem_cons hsource,
      List.take_succ_cons, List.append_assoc, List.append_assoc, List.append_assoc,
      Nat.add_right_comm, Nat.add_assoc]
    rfl

lemma take_compact (size : ℕ) (data : Array UInt8) (start kept : ℕ) (h : kept ≤ start) :
    (compact size data start kept).1.toList.take (compact size data start kept).2 =
      data.toList.take kept ++ payload size (data.toList.drop start) := by
  induction data, start, kept using compact.induct size with
  | case1 data start kept hstart count ih =>
    have hcount : count = min (start + size) data.size - (start + statusBytes) := rfl
    clear_value count
    have hpacket : (data.toList.drop (start + statusBytes)).take count =
        ((data.toList.drop start).take size).drop statusBytes := by
      rw [List.drop_take, List.drop_drop, List.take_eq_take_iff, List.length_drop,
        Array.length_toList]
      omega
    have hmove := toList_moveDown data (start + statusBytes) kept count (by omega) (by omega)
    have hkept : ((data.toList.take kept) ++
        ((data.toList.drop start).take size).drop statusBytes).length = kept + count := by
      rw [← hpacket, List.length_append, List.length_take, List.length_take, List.length_drop,
        Array.length_toList]
      omega
    -- The packets behind this one lie above all that was moved.
    have hrest : ((moveDown data (start + statusBytes) kept count).toList).drop (start + size) =
        (data.toList.drop start).drop size := by
      rw [hmove, hpacket, List.drop_append, hkept, List.drop_eq_nil_of_le (by omega),
        List.nil_append, List.drop_drop, List.drop_drop]
      congr 1
      omega
    have hcompact : compact size data start kept =
        compact size (moveDown data (start + statusBytes) kept count) (start + size)
          (kept + count) := by
      rw [compact, if_pos hstart, hcount]
    rw [hcompact, ih (by omega), hrest, hmove, hpacket, List.take_append, hkept,
      List.take_of_length_le (by omega), Nat.sub_self, List.take_zero, List.append_nil,
      List.append_assoc, ← payload_eq hstart.1]
  | case2 data start kept hstart =>
    have hnone : ¬ (statusBytes < size ∧ data.toList.drop start ≠ []) := by
      rw [ne_eq, List.drop_eq_nil_iff, Array.length_toList, Nat.not_le]
      exact hstart
    rw [compact, if_neg hstart, payload, if_neg hnone, List.append_nil]

theorem strip_eq_payload (size : ℕ) (data : List UInt8) : strip size data = payload size data := by
  have h := take_compact size data.toArray 0 0 (Nat.le_refl 0)
  rwa [List.take_zero, List.nil_append, List.drop_zero] at h

end Strip

section Send

def room (size limit : ℕ) : ℕ :=
  limit / size * (size - statusBytes) + (limit % size - statusBytes)

lemma room_step {size limit : ℕ} (hs : statusBytes < size) (hl : size ≤ limit) :
    room size limit = (size - statusBytes) + room size (limit - size) := by
  have hmod : limit % size = (limit - size) % size := Nat.mod_eq_sub_mod hl
  have hdiv : limit / size = (limit - size) / size + 1 := Nat.div_eq_sub_div (by omega) hl
  rw [room, room, hmod, hdiv, Nat.add_mul, Nat.one_mul]
  omega

lemma room_of_lt {size limit : ℕ} (hl : limit < size) : room size limit = limit - statusBytes := by
  rw [room, Nat.div_eq_of_lt hl, Nat.mod_eq_of_lt hl, Nat.zero_mul, Nat.zero_add]

lemma min_le_room {size limit : ℕ} (hs : statusBytes < size) :
    min (size - statusBytes) (limit - statusBytes) ≤ room size limit := by
  rcases Nat.lt_or_ge limit size with hl | hl
  · rw [room_of_lt hl]
    exact Nat.min_le_right _ _
  · rw [room_step hs hl]
    omega

lemma send_short (size : ℕ) (status : UInt16) {limit : ℕ} (hl : limit < statusBytes)
    (queue : List UInt8) : send size status limit queue = ([], queue) := by
  rw [send, if_neg (Nat.not_le.mpr hl)]

lemma send_last {size limit : ℕ} (status : UInt16) {queue : List UInt8} (hl : statusBytes ≤ limit)
    (hq : queue.length ≤ min (size - statusBytes) (limit - statusBytes)) :
    send size status limit queue = (Word.bytes status ++ queue, []) := by
  rw [send, if_pos hl, Nat.min_eq_right hq]
  simp only [List.drop_length, List.take_length, if_true]

lemma send_more {size limit count : ℕ} (status : UInt16) {queue : List UInt8}
    (hl : statusBytes ≤ limit) (hc : count = min (size - statusBytes) (limit - statusBytes))
    (hq : count < queue.length) :
    send size status limit queue =
      (Word.bytes status ++ queue.take count ++
          (send size status (limit - (statusBytes + count)) (queue.drop count)).1,
        (send size status (limit - (statusBytes + count)) (queue.drop count)).2) := by
  have hdrop : queue.drop count ≠ [] := by
    rw [ne_eq, List.drop_eq_nil_iff]
    omega
  rw [send, if_pos hl, ← hc, Nat.min_eq_left (Nat.le_of_lt hq)]
  simp only [if_neg hdrop]

theorem payload_send {size : ℕ} (hs : statusBytes < size) (status : UInt16) (limit : ℕ)
    (queue : List UInt8) :
    payload size (send size status limit queue).1 = queue.take (room size limit) ∧
      (send size status limit queue).2 = queue.drop (room size limit) := by
  induction limit using Nat.strongRecOn generalizing queue with
  | ind limit ih =>
    have hstatus : (Word.bytes status).length = statusBytes := rfl
    rcases Nat.lt_or_ge limit statusBytes with hl | hl
    · rw [send_short size status hl, room_of_lt (Nat.lt_trans hl hs),
        Nat.sub_eq_zero_of_le (by omega)]
      exact ⟨payload_nil size, rfl⟩
    obtain ⟨count, hcount⟩ : ∃ n, n = min (size - statusBytes) (limit - statusBytes) := ⟨_, rfl⟩
    rcases Nat.lt_or_ge count queue.length with hq | hq
    · have hlength : (Word.bytes status ++ queue.take count).length = statusBytes + count := by
        rw [List.length_append, List.length_take, hstatus, Nat.min_eq_left (by omega)]
      have hpayload : (Word.bytes status ++ queue.take count).drop statusBytes =
          queue.take count := by
        rw [← hstatus, List.drop_left]
      rw [send_more status hl hcount hq]
      dsimp only
      rcases Nat.lt_or_ge limit size with hlast | hfull
      · have hzero : limit - (statusBytes + count) = 0 := by omega
        have hroom : room size limit = count := by
          rw [room_of_lt hlast]
          omega
        rw [hzero, send_short size status (by decide), hroom, List.append_nil,
          payload_last hs (by omega), hpayload]
        exact ⟨rfl, rfl⟩
      · have hsize : statusBytes + count = size := by omega
        obtain ⟨hmore, hrest⟩ := ih (limit - size) (by omega) (queue.drop count)
        have hroom : room size limit = count + room size (limit - size) := by
          rw [room_step hs hfull]
          omega
        rw [hsize, payload_append hs (by omega), hpayload, hmore, hrest, hroom, List.take_add,
          List.drop_drop]
        exact ⟨rfl, rfl⟩
    · have hroom := Nat.le_trans hq (hcount ▸ min_le_room hs)
      rw [send_last status hl (by omega), List.take_of_length_le hroom,
        List.drop_eq_nil_of_le hroom]
      refine ⟨?_, rfl⟩
      rw [payload_last hs (by rw [List.length_append, hstatus]; omega), ← hstatus, List.drop_left]

lemma room_pos {size limit : ℕ} (hs : statusBytes < size) (hl : statusBytes < limit) :
    0 < room size limit := by
  have h : min (size - statusBytes) (limit - statusBytes) ≤ room size limit := min_le_room hs
  omega

end Send

end UsbSerial.Packet
