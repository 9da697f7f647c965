import UsbSerial.Proofs.Bench.Steps
import UsbSerial.Proofs.Session.Mode
import UsbSerial.Proofs.Session.Registers

/-! The modem lines and the latency of a device on a bench are what the sessions opened for it last
made of them, whatever else happens. -/

namespace UsbSerial.Bench

open Attempt (exec)
open Relation (ReflTransGen)
open Session (Call Faced register_along)
open Sim (Bus Device DeviceId Handle Register)

variable {b : Bench} {r : Register} {id : DeviceId} {n : ℕ} {old : UInt8} {α : Type}

section History

def calls? (b : Bench) : Step → Option (ℕ × Call DeviceId)
  | .call n c => some (n, c)
  | .openFound n place => b.found[place]?.map fun descriptor => (n, .openFound descriptor)
  | .writeBack n => b.image.map fun image => (n, .writeEeprom image)
  | _ => none

def reaches (id : DeviceId) (b : Bench) (n : ℕ) (c : Call DeviceId) : Bool :=
  (b.session? n).any fun session => Faced id session ∧ c.sets { b.host with session }

def served? (id : DeviceId) (b : Bench) (s : Step) : Option (Call DeviceId) :=
  ((b.calls? s).filter fun (n, c) => b.reaches id n c).map Prod.snd

def served (id : DeviceId) (b : Bench) : List Step → List (Call DeviceId)
  | [] => []
  | s :: steps => (served? id b s).toList ++ served id ((step s).run b).2 steps

def Step.direct : Step → Bool
  | .controlOut _ _ _ _ _ => true
  | _ => false

end History

section Steps

lemma value_tweak (r : Register) (t : Tweak) (d : Device) : r.value (t.apply d) = r.value d := by
  cases r <;> cases t <;> rfl

def Spares (m : StateM Bench α) : Prop :=
  ∀ r id b old, b.bus.register r id = some old → (m.run b).2.bus.register r id = some old

lemma Spares.of_same {m : StateM Bench α}
    (h : ∀ r id b, (m.run b).2.bus.register r id = b.bus.register r id) : Spares m :=
  fun r id b _ hold => (h r id b).trans hold

lemma spares_onBus {t : Probe.Transfer Bus α}
    (ht : ∀ r id, Probe.Leaves (Bus.register r id) t) (f : α → Outcome) : Spares (onBus t f) := by
  refine .of_same fun r id b => ?_
  rw [run_onBus]
  exact ht r id b.host.bus

lemma spares_onClaim {t : Handle → Probe.Transfer Bus α}
    (ht : ∀ handle r id, Probe.Leaves (Bus.register r id) (t handle)) (f : α → Outcome) :
    Spares (onClaim n t f) := by
  intro r id b old hold
  cases hclaim : b.claim? n with
  | none => rwa [run_onClaim_none hclaim]
  | some handle =>
    rw [run_onClaim hclaim]
    exact spares_onBus (ht handle) f r id b old hold

def searching (u : Session.Use) : Prop := u = .enumerate ∨ u = .texts

lemma spares_onHost {m : Attempt (Host (Probe Bus)) Error α}
    (hm : Attempt.Along (fun h : Host (Probe Bus) => h.bus) (Session.Contact searching) m)
    (f : α → Outcome) : Spares (onHost m f) := by
  refine .of_same fun r id b => ?_
  have hrun : ((onHost m f).run b).2 = { b with host := (exec m b.host).2 } := by
    rcases hexec : exec m b.host with ⟨e | a, host⟩
    · simp [onHost, StateT.run, hexec]
    · simp [onHost, StateT.run, hexec]
  rw [hrun]
  exact register_along hm (by simp [searching]) b.host

lemma spares_claim (device : DeviceId) (channel : UInt8) : Spares (claim device channel) := by
  refine .of_same fun r id b => ?_
  have hleaves := Sim.leaves_register_claim r id device channel b.host.bus
  rw [run_claim]
  rcases hexec : exec (Transport.claim device channel : Probe.Transfer Bus (Usb.Claim Handle))
    b.host.bus with ⟨e | c, p⟩
  · rwa [hexec] at hleaves
  · rwa [hexec] at hleaves

lemma spares_release (n : ℕ) : Spares (step (.release n)) := by
  intro r id b old hold
  rw [run_release]
  exact spares_onClaim (n := n) (fun handle r id => Sim.leaves_register_release r id handle)
    (fun _ => .done) r id b old hold

lemma spares_create (options : Session.Options) : Spares (create options) := by
  refine .of_same fun r id b => ?_
  unfold create
  rw [StateT.run]
  split <;> rfl

lemma spares_decode (verbose : Bool) : Spares (decode verbose) := by
  refine .of_same fun r id b => ?_
  unfold decode
  rw [StateT.run]
  split
  · rfl
  · split <;> rfl

lemma spares_drop (n : ℕ) : Spares (drop n) := by
  have huses : Session.Uses (· = .release)
      (Session.drop : Session.Action (Probe Bus) Handle Unit) := by
    apply Session.decides_session.along.bind
    intro s
    split
    · exact (Session.uses_note _ _).bind fun _ => Session.uses_detach rfl
    · exact Attempt.Along.pure ()
  intro r id b old hold
  cases hsession : b.session? n with
  | none => rwa [run_drop_none hsession]
  | some s =>
    rw [run_drop hsession]
    exact (register_along huses (by simp) { b.host with session := s }).trans hold

lemma register_call (hold : b.bus.register r id = some old) (n : ℕ) (c : Call DeviceId) :
    ((call n c).run b).2.bus.register r id =
      some (if b.reaches id n c then c.makes r old else old) := by
  have hrun : (call n c).run b =
      let o := (onSession n c.run .answered).run b
      (o.1, remember o.1 o.2) := rfl
  have hremember (outcome : Outcome) (b : Bench) : (remember outcome b).bus = b.bus := by
    unfold remember
    split <;> rfl
  rw [hrun]
  dsimp only
  rw [hremember]
  cases hsession : b.session? n with
  | none =>
    rw [run_onSession_none hsession, reaches, hsession]
    exact hold
  | some s =>
    have hstep := c.register_step (r := r) { b.host with session := s } id
    have hbus : b.host.bus.bus.register r id = some old := hold
    rw [hbus, Option.map_some] at hstep
    rw [run_onSession hsession]
    simp only [reaches, hsession, Option.any_some, decide_eq_true_eq]
    exact hstep

lemma served?_none {s : Step} (h : b.calls? s = none) : served? id b s = none := by
  rw [served?, h]
  rfl

lemma Spares.served {s : Step} (h : Spares (step s)) (hcalls : b.calls? s = none)
    (hold : b.bus.register r id = some old) :
    ((step s).run b).2.bus.register r id =
      some ((served? id b s).toList.foldl (fun old c => c.makes r old) old) := by
  rw [served?_none hcalls]
  exact h r id b old hold

lemma run_call {s : Step} {c : Call DeviceId} (hcalls : b.calls? s = some (n, c))
    (hrun : (step s).run b = (call n c).run b) (hold : b.bus.register r id = some old) :
    ((step s).run b).2.bus.register r id =
      some ((served? id b s).toList.foldl (fun old c => c.makes r old) old) := by
  rw [hrun, register_call hold, served?, hcalls]
  by_cases hreaches : b.reaches id n c = true
  · simp [Option.filter, hreaches]
  · simp [Option.filter, hreaches]

lemma register_step {s : Step} (hs : s.direct = false) (hold : b.bus.register r id = some old) :
    ((step s).run b).2.bus.register r id =
      some ((served? id b s).toList.foldl (fun old c => c.makes r old) old) := by
  cases s with
  | attach device =>
    obtain ⟨d, hd, hvalue⟩ := Option.map_eq_some_iff.mp hold
    have hattached : (b.bus.attach device).register r id = some old := by
      rw [Bus.register, Session.device?_attach hd, Option.map_some, hvalue]
    exact hattached
  | tweak device t =>
    exact (Bus.register_update r id b.bus (value_tweak r t) device).trans hold
  | setUp s =>
    have hbus : (b.host.bus.setUp s).bus = b.host.bus.bus := by cases s <;> rfl
    exact (congrArg (Bus.register r id) hbus).trans hold
  | enumerate vendor product =>
    refine Spares.served ?_ rfl hold
    exact spares_onBus (fun r id => Sim.leaves_register_enumerate r id vendor product) _
  | texts device timeout =>
    refine Spares.served ?_ rfl hold
    exact spares_onBus (fun r id => Sim.leaves_register_texts r id device timeout) _
  | findAll options vendor product =>
    refine Spares.served ?_ rfl hold
    exact spares_onHost ((Session.searches_contact _ ⟨.inl rfl, .inr rfl⟩).findAll vendor product) _
  | find options filter =>
    refine Spares.served ?_ rfl hold
    exact spares_onHost ((Session.searches_contact _ ⟨.inl rfl, .inr rfl⟩).find filter) _
  | claim device channel => exact Spares.served (spares_claim device channel) rfl hold
  | controlOut n request value index timeout => cases hs
  | controlIn n request value index length timeout =>
    refine Spares.served ?_ rfl hold
    exact spares_onClaim (fun handle r id => Sim.leaves_register_controlIn r id handle request
      value index length timeout) _
  | bulkOut n endpoint data timeout =>
    refine Spares.served ?_ rfl hold
    exact spares_onClaim (fun handle r id => Sim.leaves_register_bulkOut r id handle endpoint data
      timeout) _
  | bulkIn n endpoint limit timeout =>
    refine Spares.served ?_ rfl hold
    exact spares_onClaim (fun handle r id => Sim.leaves_register_bulkIn r id handle endpoint limit
      timeout) _
  | release n => exact Spares.served (spares_release n) rfl hold
  | create options => exact Spares.served (spares_create options) rfl hold
  | call n c => exact run_call rfl rfl hold
  | openFound n place =>
    cases hfound : b.found[place]? with
    | none =>
      have hrun : (step (.openFound n place)).run b = (.missing, b) := by
        simp only [step, StateT.run_bind, StateT.run_get, pure_bind, hfound]
        rfl
      rw [hrun, served?_none (by rw [calls?, hfound, Option.map_none])]
      exact hold
    | some descriptor =>
      refine run_call (by rw [calls?, hfound, Option.map_some]) ?_ hold
      simp only [step, StateT.run_bind, StateT.run_get, pure_bind, hfound]
  | writeBack n =>
    cases himage : b.image with
    | none =>
      have hrun : (step (.writeBack n)).run b = (.missing, b) := by
        simp only [step, StateT.run_bind, StateT.run_get, pure_bind, himage]
        rfl
      rw [hrun, served?_none (by rw [calls?, himage, Option.map_none])]
      exact hold
    | some image =>
      refine run_call (by rw [calls?, himage, Option.map_some]) ?_ hold
      simp only [step, StateT.run_bind, StateT.run_get, pure_bind, himage]
  | decode verbose => exact Spares.served (spares_decode verbose) rfl hold
  | drop n => exact Spares.served (spares_drop n) rfl hold
  | _ => exact hold

lemma register_run (steps : List Step) (hsteps : ∀ s ∈ steps, s.direct = false)
    (hold : b.bus.register r id = some old) :
    (run b steps).2.bus.register r id =
      some ((served id b steps).foldl (fun old c => c.makes r old) old) := by
  induction steps generalizing b old with
  | nil => exact hold
  | cons s steps ih =>
    rw [served, List.foldl_append]
    exact ih (fun s hs => hsteps s (List.mem_cons_of_mem _ hs))
      (register_step (hsteps s List.mem_cons_self) hold)

end Steps

section Last

lemma foldl_makes {f : UInt8 → α} {set? : Call DeviceId → Option α}
    (hset : ∀ c old, f (c.makes r old) = (set? c).getD (f old)) (cs : List (Call DeviceId))
    (old : UInt8) :
    f (cs.foldl (fun old c => c.makes r old) old) = (cs.filterMap set?).getLastD (f old) := by
  induction cs generalizing old with
  | nil => rfl
  | cons c cs ih =>
    rw [List.foldl_cons, ih, hset]
    cases hc : set? c with
    | none => rw [List.filterMap_cons_none hc, Option.getD_none]
    | some x => rw [List.filterMap_cons_some hc, List.getLastD_cons, Option.getD_some]

lemma latency_answered {answer : Session.Answer DeviceId} {s : Session Handle}
    (hs : b.session? n = some s) (hfaced : Faced id s)
    (h : ((step (.call n .latency)).run b).1 = .answered answer) :
    (b.bus.register .latency id).map Session.Answer.byte = some answer := by
  have hrun : ((step (.call n .latency)).run b).1 =
      ((onSession n (Call.latency : Call DeviceId).run .answered).run b).1 := rfl
  rw [hrun, run_onSession hs] at h
  rcases hexec : exec ((Call.latency : Call DeviceId).run) { b.host with session := s }
    with ⟨e | a, w⟩
  · rw [hexec] at h
    cases h
  · rw [hexec] at h
    cases h
    exact Session.latency_reads (w := { b.host with session := s }) hfaced hexec

/-- Once a device is attached, its lines are at the levels last set for them and its latency is the
one last set, whatever sessions come and go, fail, open it or give it back. -/
theorem registers_last (b : Bench) (device : Device) (steps : List Step)
    (hsteps : ∀ s ∈ steps, s.direct = false) :
    let id : DeviceId := { place := b.bus.devices.length }
    let start := ((step (.attach device)).run b).2
    let calls := served id start steps
    let b' := (run start steps).2
    (∃ d, b'.device? id = some d ∧
      d.modemLines.toBitVec.getLsbD 0 = (calls.filterMap Call.dtr?).getLastD false ∧
      d.modemLines.toBitVec.getLsbD 1 = (calls.filterMap Call.rts?).getLastD false ∧
      (∀ i, 2 ≤ i → d.modemLines.toBitVec.getLsbD i = false) ∧
      d.latency = (calls.filterMap Call.latency?).getLastD 16) ∧
    ∀ n s answer, b'.session? n = some s → Faced id s →
      ((step (.call n .latency)).run b').1 = .answered answer →
      answer = .byte ((calls.filterMap Call.latency?).getLastD 16) := by
  intro id start calls b'
  have hplugged : start.bus.device? id = some device.plugged := List.getElem?_concat_length
  have hlow : start.bus.register .lines id = some 0 := by
    rw [Bus.register, hplugged]
    rfl
  have hstock : start.bus.register .latency id = some 16 := by
    rw [Bus.register, hplugged]
    rfl
  have hlines := register_run steps hsteps hlow
  have hlatency := register_run steps hsteps hstock
  have hlast := foldl_makes (f := fun x => x) Session.makes_latency calls 16
  have hline (i : ℕ) := foldl_makes (f := fun x => x.toBitVec.getLsbD i)
    (fun c old => Session.getLsbD_makes c old i) calls 0
  rw [hlast] at hlatency
  constructor
  · obtain ⟨d, hd, hvalue⟩ := Option.map_eq_some_iff.mp hlines
    obtain ⟨d', hd', hvalue'⟩ := Option.map_eq_some_iff.mp hlatency
    cases hd.symm.trans hd'
    have hbit (i : ℕ) : d.modemLines.toBitVec.getLsbD i =
        (calls.filterMap (Call.line? i)).getLastD ((0 : UInt8).toBitVec.getLsbD i) :=
      (congrArg (fun x : UInt8 => x.toBitVec.getLsbD i) hvalue).trans (hline i)
    refine ⟨d, hd, hbit 0, hbit 1, fun i hi => ?_, hvalue'⟩
    obtain ⟨j, rfl⟩ := Nat.exists_eq_add_of_le' hi
    have hnever : calls.filterMap (Call.line? (j + 2)) = [] := List.filterMap_eq_nil_iff.mpr
      fun _ _ => rfl
    rw [hbit, hnever]
    simp
  · intro n s answer hs hfaced hanswer
    have hread := latency_answered hs hfaced hanswer
    rw [hlatency] at hread
    exact (Option.some_inj.mp hread).symm

def sampleDual : Device := .blank 0x0403 0x6010 0x0500

def sampleTraffic : List Step :=
  [.create { writeChunk := 48 }, .create { writeChunk := 96, channel := .b },
    .call 0 (.openFirst 0x0403 0x6010), .call 1 (.openFirst 0x0403 0x6010),
    .call 0 (.setDtrRts true true), .call 1 (.setRts false),
    .tweak { place := 0 } (.failNext 1), .call 1 (.setDtr false), .call 0 (.setLatency 40),
    .call 0 .reset, .call 1 .readEeprom, .tweak { place := 0 } (.failRequest (some 0x91)),
    .writeBack 0, .drop 0, .setUp (.limitReply 0), .call 1 .latency]

theorem registers_last_busy :
    let start := ((step (.attach sampleDual)).run {}).2
    let b := (run start sampleTraffic).2
    (∀ s ∈ sampleTraffic, s.direct = false) ∧
      (∃ d, b.device? { place := 0 } = some d ∧ d.modemLines.toBitVec.getLsbD 0 = true ∧
        d.modemLines.toBitVec.getLsbD 1 = false ∧ d.latency = 0x77) ∧
      ∃ s answer, b.session? 1 = some s ∧ Faced { place := 0 } s ∧
        ((step (.call 1 .latency)).run b).1 = .answered answer ∧ answer = .byte 0x77 := by
  intro start b
  have hsteps : ∀ s ∈ sampleTraffic, s.direct = false := by decide
  have hcalls : (served { place := 0 } start sampleTraffic).filterMap Call.dtr? = [true] ∧
      (served { place := 0 } start sampleTraffic).filterMap Call.rts? = [true, false] ∧
      (served { place := 0 } start sampleTraffic).filterMap Call.latency? = [40, 0x77] := by
    decide +kernel
  have hopened : (b.session? 1).map (fun s => decide (Faced { place := 0 } s)) = some true := by
    decide +kernel
  have hanswered : ((step (.call 1 .latency)).run b).1 = .answered (.byte 0x77) := by
    decide +kernel
  obtain ⟨s, hs, hfaced⟩ := Option.map_eq_some_iff.mp hopened
  obtain ⟨⟨d, hd, hdtr, hrts, -, hlatency⟩, hreads⟩ :=
    registers_last {} sampleDual sampleTraffic hsteps
  have hread := hreads 1 s _ hs (of_decide_eq_true hfaced) hanswered
  refine ⟨hsteps, ⟨d, hd, ?_, ?_, ?_⟩, s, _, hs, of_decide_eq_true hfaced, hanswered, ?_⟩
  · exact hdtr.trans (congrArg (List.getLastD · false) hcalls.1)
  · exact hrts.trans (congrArg (List.getLastD · false) hcalls.2.1)
  · exact hlatency.trans (congrArg (List.getLastD · 16) hcalls.2.2)
  · exact hread.trans (congrArg (fun l => Session.Answer.byte (List.getLastD l 16)) hcalls.2.2)

end Last

end UsbSerial.Bench
