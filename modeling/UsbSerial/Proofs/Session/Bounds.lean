import UsbSerial.Proofs.Session.Guarded
import UsbSerial.Proofs.Session.Tape
import UsbSerial.Probe
import UsbSerial.Sim.Bus

/-! No reply of a device takes an operation out of bounds, however long or short it is. -/

namespace UsbSerial

def Hosted.taped {β κ : Type} (w : Hosted β κ) : Hosted (Tape β) κ where
  bus := { bus := w.bus }
  log := w.log
  session := w.session

namespace Session

open Attempt (exec)

variable {β δ κ : Type} [Transport β δ κ]

lemma Call.step_taped (c : Call δ) (w : Hosted β κ) :
    ∃ entries, c.step w.taped =
        ((c.step w).1,
          { (c.step w).2 with bus := ({ bus := (c.step w).2.bus, entries } : Tape β) }) ∧
      Tape.Cut entries (c.step w).1 := by
  obtain ⟨entries, hentries, hcut⟩ := Call.cuts c w.taped
  have hview := Call.shows Tape.view c w.taped
  have hresult : (c.step w).1 = (c.step w.taped).1 := congrArg Prod.fst hview
  have hstate : (c.step w).2 = (c.step w.taped).2.view Tape.bus := congrArg Prod.snd hview
  rw [hresult, hstate]
  have hall : (c.step w.taped).2.bus.entries = entries := hentries.trans (List.nil_append _)
  refine ⟨entries, ?_, hcut⟩
  rw [← hall]
  rfl

/-- Whatever a bus answers, each operation makes its accesses by place in range: with all of them
checked it does what it does with none. -/
theorem Call.in_bounds (c : Call δ) (w : Hosted β κ) :
    (∀ lent, exec (c.guarded lent) w = ((c.step w).1.mapError .failed, (c.step w).2)) ∧
    ∃ entries, c.step w.taped =
        ((c.step w).1,
          { (c.step w).2 with bus := ({ bus := (c.step w).2.bus, entries } : Tape β) }) ∧
      ∀ earlier length data later, entries = earlier ++ .reply length data :: later →
        data.length < length.toNat →
        later = [] ∧ (c.step w).1 = .error (.shortTransfer length.toNat data.length) := by
  refine ⟨fun lent => by rw [Call.guarded_eq, Guarded.exec_trust, step], ?_⟩
  obtain ⟨entries, htaped, hcut⟩ := c.step_taped w
  refine ⟨entries, htaped, ?_⟩
  rintro earlier length data later rfl hshort
  exact hcut.last hshort

section Sample

open Sim (Bus Device DeviceId Handle)

def sampleScant : Hosted (Probe Bus) Handle :=
  (run
    { bus :=
        { bus := { devices := [Device.ft232R "A1"] }
          replyLimits := [2, 1]
          received := [[0x01, 0x60, 7, 8]]
          disguises := [{ packetBytes := some 1 }] }
      session := { options := { writeChunk := 40 } } }
    [.openFirst 0x0403 0x6001]).2

theorem Call.in_bounds_scant :
    let w := sampleScant
    let lent (n : ℕ) : Vector UInt8 n := Vector.replicate n 0
    exec ((Call.readChipId : Call DeviceId).guarded lent) w =
        (.error (.failed (.shortTransfer 2 1)), ((Call.readChipId : Call DeviceId).step w).2) ∧
      ((Call.readChipId : Call DeviceId).step w.taped).2.bus.entries =
        [.reply 2 [0x1A, 0x3F], .reply 2 [0x42]] ∧
      exec ((Call.read 3 : Call DeviceId).guarded lent) w =
        (.ok (.bytes []), ((Call.read 3 : Call DeviceId).step w).2) := by
  intro w lent
  obtain ⟨hguarded, entries, htaped, hcut⟩ := Call.in_bounds (.readChipId : Call DeviceId) w
  have hentries : entries = [.reply 2 [0x1A, 0x3F]] ++ .reply 2 [0x42] :: [] := by
    have htape : entries = ((Call.readChipId : Call DeviceId).step w.taped).2.bus.entries := by
      rw [htaped]
    exact htape.trans (by decide +kernel)
  obtain ⟨-, hresult⟩ := hcut _ _ _ _ hentries (by decide)
  obtain ⟨hread, -⟩ := Call.in_bounds (.read 3 : Call DeviceId) w
  have hnone : ((Call.read 3 : Call DeviceId).step w).1 = .ok (.bytes []) := by decide +kernel
  have hguarded := hguarded lent
  have hread := hread lent
  rw [hresult] at hguarded
  rw [hnone] at hread
  refine ⟨hguarded, ?_, hread⟩
  rw [htaped]
  exact hentries

end Sample

end Session

end UsbSerial
