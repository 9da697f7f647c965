import Mathlib.Data.Nat.Notation
import Mathlib.Tactic.Lemma
import UsbSerial.Device.Label

namespace UsbSerial.Device.Label

def utf16 (c : Char) : List UInt16 :=
  if c.toNat < 0x10000 then [c.toNat.toUInt16]
  else
    [(0xD800 + (c.toNat - 0x10000) / 0x400).toUInt16,
      (0xDC00 + (c.toNat - 0x10000) % 0x400).toUInt16]

lemma length_utf16 (c : Char) : (utf16 c).length = units c := by
  rw [utf16, units]
  split <;> rfl

def utf16Length (cs : List Char) : ℕ := (cs.flatMap utf16).length

@[simp] lemma utf16Length_nil : utf16Length [] = 0 := rfl

@[simp] lemma utf16Length_cons (c : Char) (cs : List Char) :
    utf16Length (c :: cs) = units c + utf16Length cs := by
  rw [utf16Length, List.flatMap_cons, List.length_append, length_utf16, utf16Length]

/-- Among the prefixes of `cs` that fit into `room`, `kept` is the one all others are prefixes
of. -/
structure Longest (room : ℕ) (cs kept : List Char) : Prop where
  isPrefix : kept <+: cs
  fits : utf16Length kept ≤ room
  maximal : ∀ p, p <+: cs → utf16Length p ≤ room → p <+: kept

namespace Longest

variable {n m room : ℕ} {cs kept kept' inner : List Char}

lemma unique (h : Longest room cs kept) (h' : Longest room cs kept') : kept = kept' :=
  have hle := h'.maximal kept h.isPrefix h.fits
  hle.eq_of_length_le (h.maximal kept' h'.isPrefix h'.fits).length_le

lemma whole (h : utf16Length cs ≤ room) : Longest room cs cs :=
  ⟨List.prefix_rfl, h, fun _ hp _ => hp⟩

lemma trans (hnm : n ≤ m) (h : Longest m cs kept) (h' : Longest n kept inner) :
    Longest n cs inner where
  isPrefix := h'.isPrefix.trans h.isPrefix
  fits := h'.fits
  maximal p hp hfits := h'.maximal p (h.maximal p hp (Nat.le_trans hfits hnm)) hfits

end Longest

lemma longest_fitting (room : ℕ) (cs : List Char) : Longest room cs (fitting room cs) := by
  induction cs generalizing room with
  | nil => exact .whole (Nat.zero_le room)
  | cons c cs ih =>
    rw [fitting]
    split
    case isTrue hc =>
      obtain ⟨hstart, hfits, hmax⟩ := ih (room - units c)
      refine ⟨(List.prefix_cons_inj c).mpr hstart, ?_, ?_⟩
      · rw [utf16Length_cons]
        omega
      · intro p hp hroom
        rcases List.prefix_cons_iff.mp hp with rfl | ⟨rest, rfl, hrest⟩
        · exact List.nil_prefix
        · rw [utf16Length_cons] at hroom
          exact (List.prefix_cons_inj c).mpr (hmax rest hrest (by omega))
    case isFalse hc =>
      refine ⟨List.nil_prefix, Nat.zero_le room, ?_⟩
      intro p hp hroom
      rcases List.prefix_cons_iff.mp hp with rfl | ⟨rest, rfl, -⟩
      · exact List.nil_prefix
      · rw [utf16Length_cons] at hroom
        omega

lemma toList_bounded (s : String) (room : ℕ) :
    (bounded s room).text.toList = fitting room s.toList := String.toList_ofList

lemma longest_bounded (s : String) (room : ℕ) :
    Longest room s.toList (bounded s room).text.toList := by
  rw [toList_bounded]
  exact longest_fitting room s.toList

lemma text_eq_of_longest {s t : String} {room : ℕ} (h : Longest room s.toList t.toList) :
    (bounded s room).text = t :=
  String.toList_inj.mp ((longest_bounded s room).unique h)

lemma truncated_iff (s : String) (room : ℕ) :
    (bounded s room).truncated = true ↔ (bounded s room).text ≠ s := by
  have hstart : fitting room s.toList <+: s.toList := (longest_fitting room s.toList).isPrefix
  rw [ne_eq, ← String.toList_inj, toList_bounded]
  simp only [bounded, decide_eq_true_eq]
  constructor
  · intro hlt heq
    exact Nat.ne_of_lt hlt (congrArg List.length heq)
  · intro hne
    exact Nat.lt_of_not_le fun hge => hne (hstart.eq_of_length_le hge)

lemma bounded_of_fits {s : String} {room : ℕ} (h : utf16Length s.toList ≤ room) :
    bounded s room = { text := s, truncated := false } := by
  have htext : (bounded s room).text = s := text_eq_of_longest (.whole h)
  have hflag : (bounded s room).truncated = false := by
    rw [← Bool.not_eq_true, truncated_iff]
    exact not_not_intro htext
  calc bounded s room = ⟨(bounded s room).text, (bounded s room).truncated⟩ := rfl
    _ = ⟨s, false⟩ := by rw [htext, hflag]

theorem bounded_longest (s : String) (room : ℕ) :
    Longest room s.toList (bounded s room).text.toList ∧
      ((bounded s room).truncated = true ↔ (bounded s room).text ≠ s) ∧
      bounded (bounded s room).text room =
        { text := (bounded s room).text, truncated := false } ∧
      ∀ n ≤ room, (bounded (bounded s room).text n).text = (bounded s n).text := by
  have hlongest := longest_bounded s room
  refine ⟨hlongest, truncated_iff s room, bounded_of_fits hlongest.fits, ?_⟩
  intro n hn
  exact (text_eq_of_longest (hlongest.trans hn (longest_bounded _ n))).symm

theorem bounded_longest_straddling :
    (bounded "a😀b" 2).text = "a" ∧ (bounded "a😀b" 2).truncated = true ∧
      bounded "a" 2 = { text := "a", truncated := false } ∧
      (1 ≤ 2 ∧ (bounded (bounded "a😀b" 2).text 1).text = (bounded "a😀b" 1).text) := by
  have htext : (bounded "a😀b" 2).text = "a" := by decide +kernel
  obtain ⟨-, hflag, hagain, hsmaller⟩ := bounded_longest "a😀b" 2
  rw [htext] at hflag hagain
  exact ⟨htext, hflag.mpr (by decide), hagain, by decide, hsmaller 1 (by decide)⟩

end UsbSerial.Device.Label
