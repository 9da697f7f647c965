import UsbSerial.Proofs.Session.Memory

namespace UsbSerial

namespace Eeprom

inductive Image.Made : Image → Prop
  | ofBytes {chip : Chip} {bytes : List UInt8} {img : Image}
      (h : Image.ofBytes chip bytes = .ok img) : img.Made
  | encode {chip : Chip} {s : Settings} {img : Image} (h : s.encode chip = .ok img) : img.Made
  | dump (chip : Chip) (bytes : List UInt8) : (Dump.image chip bytes).Made

lemma Image.Made.size_le {img : Image} (h : img.Made) : img.size.bytes ≤ img.chip.eepromBytes := by
  cases h with
  | ofBytes h =>
    unfold Image.ofBytes at h
    split at h
    · split_ifs at h with hle
      cases h
      exact hle
    · cases h
  | encode h =>
    obtain ⟨size, hfits, rfl⟩ := Settings.fits_of_encode h
    exact (Settings.imageSize?_eq_some hfits.size_eq).2.2
  | dump chip bytes => exact Dump.size_le chip bytes

end Eeprom

namespace Session.Memory

open Attempt (exec)
open Eeprom (Image Settings)
open Sim (Bus Device Handle)

/-- Over any bus, the requests for an image are sent in their order, up to the first that fails. A
device without faults takes them all, and changes in nothing else than what they are about. -/
theorem writeEeprom_in_order (image : Image) :
    (∀ {β δ κ : Type} [Transport β δ κ] {w : Hosted (Probe β) κ} {link : Link κ},
      w.session.binding = .opened link → image.chip = link.chip →
        let requests := orders w.session.options.channel.index image
        let timeout := w.session.options.writeTimeout
        ∃ issued r w', exec (writeEeprom image) w = (r.mapError .transport, w') ∧
          Issued link.handle timeout w.bus requests issued r w'.bus ∧ issued <+: requests ∧
          (r = .ok () ↔ Issued link.handle timeout w.bus requests requests (.ok ()) w'.bus) ∧
          w'.bus.seen = w.bus.seen ++ issued.map fun c =>
            .controlOut c.request c.value c.index timeout) ∧
      ∀ {w : Hosted Bus Handle} {link : Link Handle} {d : Device}, Bound w link d →
        image.chip = link.chip → image.Made →
          ∃ w', exec (writeEeprom image) w = (.ok (), w') ∧ w'.session = w.session ∧
            w'.bus = w.bus.update link.handle.device
              fun _ => written w.session.options.channel.index image d := by
  constructor
  · intro β δ κ _ w link hbinding hchip requests timeout
    obtain ⟨m, hwrite, hm⟩ := issues_writeEeprom (β := Probe β) w.session.options hchip
    obtain ⟨issued, r, w', hexec, hissued⟩ := hm.tracked hbinding rfl
    rw [← hwrite] at hexec
    exact ⟨issued, r, w', hexec, hissued, hissued.isPrefix, hissued.ok_iff, hissued.seen⟩
  · intro w link d h hchip hmade
    obtain ⟨w', hexec, hsession, hbus, -⟩ := h.writeEeprom image hchip (hchip ▸ hmade.size_le)
    exact ⟨w', hexec, hsession, hbus⟩

section Sample

def refusing : Hosted (Probe Bus) Handle where
  bus := { bus := { devices := [{ bare with failingRequest := some 0x91 }] } }
  session := bareHost.session

theorem writeEeprom_in_order_refused :
    let image := stock.image .bm .bytes128
    (∃ e w', exec (writeEeprom image) refusing = (.error (.transport e), w') ∧
        w'.bus.seen = ((orders 1 image).take 3).map fun c =>
          .controlOut c.request c.value c.index refusing.session.options.writeTimeout) ∧
      ∃ w', exec (writeEeprom image) bareHost = (.ok (), w') ∧
        w'.bus = bareHost.bus.update { place := 0 } fun _ => written 1 image bare := by
  intro image
  have hmade : image.Made := .encode stock_fits.encode_eq
  have hindex : bareHost.session.options.channel.index = 1 := by decide +kernel
  obtain ⟨hsent, hstored⟩ := writeEeprom_in_order image
  constructor
  · obtain ⟨issued, r, w', hexec, -, hprefix, -, hseen⟩ :=
      hsent (w := refusing) bare_bound.binding rfl
    have hcount : (exec (writeEeprom image) refusing).2.bus.seen.length = 3 := by decide +kernel
    have hfails : (exec (writeEeprom image) refusing).1.isOk = false := by decide +kernel
    have hfresh : refusing.bus.seen = [] := rfl
    rw [hexec] at hcount hfails
    rw [hfresh, List.nil_append] at hseen
    have hlength : issued.length = 3 := by
      rw [hseen, List.length_map] at hcount
      exact hcount
    rw [List.prefix_iff_eq_take.mp hprefix, hlength] at hseen
    cases r with
    | ok => cases hfails
    | error e => exact ⟨e, w', hexec, hseen⟩
  · obtain ⟨w', hexec, -, hbus⟩ := hstored bare_bound rfl hmade
    rw [hindex] at hbus
    exact ⟨w', hexec, hbus⟩

end Sample

end Session.Memory

end UsbSerial
