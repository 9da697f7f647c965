import UsbSerial.Proofs.Packet
import UsbSerial.Proofs.Sim.Device

namespace UsbSerial.Packet

lemma length_send_le (size : ℕ) (status : UInt16) (limit : ℕ) (queue : List UInt8) :
    (send size status limit queue).1.length ≤ limit := by
  induction limit using Nat.strongRecOn generalizing queue with
  | ind limit ih =>
    have hstatus : (Word.bytes status).length = statusBytes := rfl
    rcases Nat.lt_or_ge limit statusBytes with hl | hl
    · rw [send_short size status hl]
      exact Nat.zero_le limit
    obtain ⟨count, hcount⟩ : ∃ n, n = min (size - statusBytes) (limit - statusBytes) := ⟨_, rfl⟩
    rcases Nat.lt_or_ge count queue.length with hq | hq
    · have hmore := ih (limit - (statusBytes + count)) (by simp only [statusBytes] at *; omega)
        (queue.drop count)
      rw [send_more status hl hcount hq]
      simp only [List.length_append, List.length_take, hstatus]
      omega
    · rw [send_last status hl (by omega), List.length_append, hstatus]
      omega

end UsbSerial.Packet

namespace UsbSerial.Sim.Device

open Attempt (exec)
open Packet (room send statusBytes)

variable {d : Device}

lemma exec_bulkIn (hconnected : d.disconnected = false) (hfailing : d.failing = 0) (limit : ℕ)
    (timeout : Duration) :
    exec (bulkIn limit timeout) d =
      (.ok (send d.packetBytes d.modemStatus limit d.queue).1,
        { d with queue := (send d.packetBytes d.modemStatus limit d.queue).2 }) := by
  simp [bulkIn, exec_check_ok hconnected hfailing]

lemma bulkIn_refused (h : d.disconnected = true ∨ d.failing ≠ 0) (limit : ℕ) (timeout : Duration) :
    ∃ e d', exec (bulkIn limit timeout) d = (.error e, d') := by
  rcases hexec : exec (bulkIn limit timeout) d with ⟨e | data, d'⟩
  · exact ⟨e, d', rfl⟩
  · obtain ⟨_, u, hcheck, -⟩ := Attempt.bind_ok hexec
    obtain ⟨-, hconnected, hfailing⟩ := check_ok hcheck
    rcases h with hdisconnected | hne
    · cases hconnected.symm.trans hdisconnected
    · exact absurd hfailing hne

theorem bulkIn_takes (d : Device) (limit : ℕ) (timeout : Duration) :
    let k := min d.queue.length
      (limit / d.packetBytes * (d.packetBytes - 2) + (limit % d.packetBytes - 2))
    (d.disconnected = false → d.failing = 0 →
      ∃ data, exec (bulkIn limit timeout) d = (.ok data, { d with queue := d.queue.drop k }) ∧
        data.length ≤ limit ∧ Packet.strip d.packetBytes data = d.queue.take k) ∧
    (d.disconnected = true ∨ d.failing ≠ 0 →
      ∃ e d', exec (bulkIn limit timeout) d = (.error e, d') ∧ d'.queue = d.queue) := by
  intro k
  have hk : k = min d.queue.length (room d.packetBytes limit) := rfl
  obtain ⟨hpayload, hrest⟩ := Packet.payload_send d.packetBytes_gt d.modemStatus limit d.queue
  constructor
  · intro hconnected hfailing
    refine ⟨_, ?_, Packet.length_send_le d.packetBytes d.modemStatus limit d.queue, ?_⟩
    · rw [exec_bulkIn hconnected hfailing, hrest, hk, Nat.min_comm,
        ← List.drop_eq_drop_min]
    · rw [Packet.strip_eq_payload, hpayload, hk, Nat.min_comm,
        ← List.take_eq_take_min]
  · intro h
    obtain ⟨e, d', hexec⟩ := bulkIn_refused h limit timeout
    exact ⟨e, d', hexec, by rw [bulkIn_error hexec]⟩

theorem bulkIn_takes_whole_packet :
    let queue := (List.range 70).map Nat.toUInt8
    let d : Device := { blank 0x0403 0x6001 0x0600 with queue }
    (∃ data, exec (bulkIn 66 .zero) d = (.ok data, { d with queue := queue.drop 62 }) ∧
      data.length ≤ 66 ∧ Packet.strip d.packetBytes data = queue.take 62) ∧
    ∃ e d', exec (bulkIn 66 .zero) { d with failing := 1 } = (.error e, d') ∧ d'.queue = queue := by
  intro queue d
  obtain ⟨hread, -⟩ := bulkIn_takes d 66 .zero
  obtain ⟨-, hrefused⟩ := bulkIn_takes { d with failing := 1 } 66 .zero
  have hcount : min d.queue.length
      (66 / d.packetBytes * (d.packetBytes - 2) + (66 % d.packetBytes - 2)) = 62 := by
    decide +kernel
  rw [hcount] at hread
  exact ⟨hread rfl rfl, hrefused (.inr Nat.one_ne_zero)⟩

end UsbSerial.Sim.Device
