import UsbSerial.Proofs.Probe
import UsbSerial.Proofs.Session.Action
import UsbSerial.Proofs.Sim.Bus
import UsbSerial.Proofs.Sim.Storage

namespace UsbSerial

namespace Sim.Device

variable {d : Device}

def told (d : Device) (c : Control) : Device := obey { d with controls := d.controls ++ [c] } c

lemma chip_told (d : Device) (c : Control) : (d.told c).chip = d.chip := chip_obey _ c

lemma Sound.told (h : d.Sound) (c : Control) : (d.told c).Sound := (h.recorded [c]).obey c

lemma Ready.told (h : d.Ready) (c : Control) : (d.told c).Ready := (h.recorded [c]).obey c

end Sim.Device

namespace Session

open Attempt (exec)
open Sim (Bus Control Device Handle)

variable {β δ κ : Type} [Transport β δ κ]

section Issued

def send (handle : κ) (timeout : Duration) (c : Control) : Attempt β Usb.Error Unit :=
  Transport.controlOut handle c.request c.value c.index timeout

/-- Of the first list the requests are sent in their order, up to the first that fails. The second
has those that were sent. -/
inductive Issued (handle : κ) (timeout : Duration) :
    β → List Control → List Control → Except Usb.Error Unit → β → Prop
  | done (b : β) : Issued handle timeout b [] [] (.ok ()) b
  | failed {b b' : β} {c : Control} {e : Usb.Error} (cs : List Control)
      (h : exec (send handle timeout c) b = (.error e, b')) :
      Issued handle timeout b (c :: cs) [c] (.error e) b'
  | passed {b b₁ b' : β} {c : Control} {cs issued : List Control} {r : Except Usb.Error Unit}
      (h : exec (send handle timeout c) b = (.ok (), b₁))
      (hrest : Issued handle timeout b₁ cs issued r b') :
      Issued handle timeout b (c :: cs) (c :: issued) r b'

namespace Issued

variable {handle : κ} {timeout : Duration} {b b₁ b' : β} {cs cs' issued issued' : List Control}
  {r : Except Usb.Error Unit} {e : Usb.Error}

lemma append (h : Issued handle timeout b cs issued (.ok ()) b₁)
    (h' : Issued handle timeout b₁ cs' issued' r b') :
    Issued handle timeout b (cs ++ cs') (issued ++ issued') r b' := by
  generalize hok : Except.ok () = r₁ at h
  induction h with
  | done b => exact h'
  | failed cs hsend => cases hok
  | passed hsend _ ih => exact .passed hsend (ih h' hok)

lemma append_failed (h : Issued handle timeout b cs issued (.error e) b') (cs' : List Control) :
    Issued handle timeout b (cs ++ cs') issued (.error e) b' := by
  generalize herror : Except.error e = r at h ⊢
  induction h with
  | done b => cases herror
  | failed cs hsend => exact .failed (cs ++ cs') hsend
  | passed hsend _ ih => exact .passed hsend (ih herror)

lemma isPrefix (h : Issued handle timeout b cs issued r b') : issued <+: cs := by
  induction h with
  | done b => exact List.prefix_rfl
  | failed cs hsend => exact List.prefix_append [_] cs
  | passed hsend _ ih => exact (List.prefix_cons_inj _).mpr ih

lemma unique {r' : Except Usb.Error Unit} (h : Issued handle timeout b cs issued r b₁)
    (h' : Issued handle timeout b cs issued' r' b') : issued = issued' ∧ r = r' ∧ b₁ = b' := by
  induction h generalizing issued' with
  | done b =>
    cases h'
    exact ⟨rfl, rfl, rfl⟩
  | failed cs hsend =>
    cases h' with
    | failed _ hsend' =>
      cases hsend.symm.trans hsend'
      exact ⟨rfl, rfl, rfl⟩
    | passed hsend' _ => cases hsend.symm.trans hsend'
  | passed hsend _ ih =>
    cases h' with
    | failed _ hsend' => cases hsend.symm.trans hsend'
    | passed hsend' hrest' =>
      cases hsend.symm.trans hsend'
      obtain ⟨rfl, rfl, rfl⟩ := ih hrest'
      exact ⟨rfl, rfl, rfl⟩

lemma eq_of_ok (h : Issued handle timeout b cs issued (.ok ()) b') : issued = cs := by
  generalize hok : Except.ok () = r at h
  induction h with
  | done b => rfl
  | failed cs hsend => cases hok
  | passed hsend _ ih => rw [ih hok]

lemma ok_iff (h : Issued handle timeout b cs issued r b') :
    r = .ok () ↔ Issued handle timeout b cs cs (.ok ()) b' := by
  constructor
  · rintro rfl
    obtain rfl := h.eq_of_ok
    exact h
  · exact fun hall => (h.unique hall).2.1

lemma seen {p p' : Probe β} (h : Issued handle timeout p cs issued r p') :
    p'.seen = p.seen ++ issued.map fun c => .controlOut c.request c.value c.index timeout := by
  have hsend {p p' : Probe β} {c : Control} {r : Except Usb.Error Unit}
      (h : exec (send handle timeout c) p = (r, p')) :
      p'.seen = p.seen ++ [.controlOut c.request c.value c.index timeout] := by
    have hseen := Probe.seen_controlOut handle c.request c.value c.index timeout p
    rw [send] at h
    rwa [h] at hseen
  induction h with
  | done p => exact (List.append_nil _).symm
  | failed cs h => exact hsend h
  | passed h _ ih =>
    rw [ih, hsend h, List.append_assoc]
    rfl

end Issued

end Issued

section Issues

def Issues (link : Link κ) (o : Options) (m : Action β κ Unit) (cs : List Control) : Prop :=
  ∀ w : Hosted β κ, w.session.binding = .opened link → w.session.options = o →
    ∃ issued r bus log, Issued link.handle o.writeTimeout w.bus cs issued r bus ∧
      exec m w = (r.mapError .transport, { w with bus, log })

variable {link : Link κ} {o : Options} {m m' : Action β κ Unit} {cs cs' : List Control}

lemma issues_pure : Issues link o (pure () : Action β κ Unit) [] :=
  fun w _ _ => ⟨[], .ok (), w.bus, w.log, .done _, rfl⟩

lemma issues_note (level : Log.Level) (text : String) :
    Issues link o (note level text : Action β κ Unit) [] :=
  fun w _ _ => ⟨[], .ok (), w.bus, _, .done _, exec_note level text w⟩

lemma issues_controlOut (operation : Operation) (request : Request) (value index : UInt16) :
    Issues link o (controlOut operation request value index : Action β κ Unit)
      [{ request := request.code, value, index }] := by
  intro w hbinding hoptions
  obtain ⟨log, hexec⟩ := exec_controlOut hbinding operation request value index
  rw [hoptions] at hexec
  rcases hsend : exec (Transport.controlOut link.handle request.code value index o.writeTimeout)
    w.bus with ⟨e | ⟨⟩, bus⟩
  · rw [hsend] at hexec
    exact ⟨_, .error e, bus, log, .failed [] hsend, hexec⟩
  · rw [hsend] at hexec
    exact ⟨_, .ok (), bus, log, .passed hsend (.done bus), hexec⟩

lemma Issues.then (hm : Issues link o m cs) (hm' : Issues link o m' cs') :
    Issues link o (m >>= fun _ => m') (cs ++ cs') := by
  intro w hbinding hoptions
  obtain ⟨issued, r, bus, log, hissued, hexec⟩ := hm w hbinding hoptions
  rw [Attempt.exec_bind, hexec]
  cases r with
  | error e => exact ⟨issued, .error e, bus, log, hissued.append_failed cs', rfl⟩
  | ok a =>
    obtain ⟨issued', r', bus', log', hissued', hexec'⟩ := hm' { w with bus, log } hbinding hoptions
    exact ⟨issued ++ issued', r', bus', log', hissued.append hissued', hexec'⟩

lemma Issues.forM {ι : Type} {f : ι → Action β κ Unit} {g : ι → Control}
    (hf : ∀ i, Issues link o (f i) [g i]) (is : List ι) :
    Issues link o (is.forM f) (is.map g) := by
  induction is with
  | nil => exact issues_pure
  | cons i is ih => exact (hf i).then ih

lemma issues_channelIndex_bind {f : UInt16 → Action β κ Unit}
    (hf : Issues link o (f o.channel.index) cs) : Issues link o (channelIndex >>= f) cs := by
  intro w hbinding hoptions
  rw [Attempt.exec_bind, exec_channelIndex, hoptions]
  exact hf w hbinding hoptions

lemma issues_link_bind (operation : Operation) {f : Link κ → Action β κ Unit}
    (hf : Issues link o (f link) cs) : Issues link o (Session.link operation >>= f) cs := by
  intro w hbinding hoptions
  have hlink : exec (Session.link operation) w = (.ok link, w) := by rw [exec_link, hbinding]
  rw [Attempt.exec_bind, hlink]
  exact hf w hbinding hoptions

lemma Issues.tracked (hm : Issues link o m cs) {w : Hosted β κ}
    (hbinding : w.session.binding = .opened link) (hoptions : w.session.options = o) :
    ∃ issued r w', exec (tracked m) w = (r.mapError .transport, w') ∧
      Issued link.handle o.writeTimeout w.bus cs issued r w'.bus := by
  obtain ⟨issued, r, bus, log, hissued, hexec⟩ := hm w hbinding hoptions
  rw [exec_tracked, hexec]
  cases r with
  | error e => exact ⟨issued, .error e, _, rfl, hissued⟩
  | ok a => exact ⟨issued, .ok a, _, rfl, hissued⟩

end Issues

section Devices

variable {bus bus' : Bus} {handle : Handle} {timeout : Duration} {cs issued : List Control}
  {r : Except Usb.Error Unit} {d : Device}

lemma exec_send (c : Control) (hd : bus.device? handle.device = some d) (hsound : d.Sound) :
    exec (send handle timeout c) bus = (.ok (), bus.update handle.device fun _ => d.told c) := by
  refine (Bus.exec_on hd (Device.controlOut c timeout)).trans ?_
  rw [hsound.exec_controlOut]
  rfl

lemma Issued.sound (h : Issued handle timeout bus cs issued r bus')
    (hd : bus.device? handle.device = some d) (hsound : d.Sound) :
    r = .ok () ∧ bus' = bus.update handle.device fun _ => cs.foldl Device.told d := by
  induction h generalizing d with
  | done bus => exact ⟨rfl, (Bus.update_self hd).symm⟩
  | failed cs h =>
    rw [exec_send _ hd hsound] at h
    cases h
  | @passed _ bus₁ _ c _ _ _ h _ ih =>
    rw [exec_send c hd hsound] at h
    obtain rfl : _ = bus₁ := congrArg Prod.snd h
    obtain ⟨hr, hbus⟩ := ih (Bus.device?_put _ hd _) (hsound.told c)
    exact ⟨hr, hbus.trans (Bus.update_put _ _ _ _)⟩

end Devices

end Session

end UsbSerial
