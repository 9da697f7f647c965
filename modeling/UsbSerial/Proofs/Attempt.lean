import Mathlib.Logic.Relation
import Mathlib.Tactic.Lemma
import UsbSerial.Attempt

namespace UsbSerial.Attempt

variable {σ ε α γ : Type} {m : Attempt σ ε α} {f : α → Attempt σ ε γ} {s u : σ}

lemma bind_ok {c : γ} (h : exec (m >>= f) s = (.ok c, u)) :
    ∃ a t, exec m s = (.ok a, t) ∧ exec (f a) t = (.ok c, u) := by
  rw [exec_bind] at h
  rcases hm : exec m s with ⟨e | a, t⟩
  · rw [hm] at h
    cases h
  · rw [hm] at h
    exact ⟨a, t, rfl, h⟩

lemma bind_error {e : ε} (h : exec (m >>= f) s = (.error e, u)) :
    exec m s = (.error e, u) ∨ ∃ a t, exec m s = (.ok a, t) ∧ exec (f a) t = (.error e, u) := by
  rw [exec_bind] at h
  rcases hm : exec m s with ⟨e' | a, t⟩
  · rw [hm] at h
    cases h
    exact .inl rfl
  · rw [hm] at h
    exact .inr ⟨a, t, rfl, h⟩

section Along

open Relation (ReflTransGen)

def Along {τ : Type} (g : σ → τ) (C : τ → τ → Prop) (m : Attempt σ ε α) : Prop :=
  ∀ s, ReflTransGen C (g s) (g (exec m s).2)

variable {τ ι : Type} {g : σ → τ} {C D : τ → τ → Prop}

lemma Along.still (h : ∀ s, g (exec m s).2 = g s) : Along g C m := by
  intro s
  rw [h s]

lemma Along.pure (a : α) : Along g C (Pure.pure a : Attempt σ ε α) := Along.still fun _ => rfl

lemma Along.throw (e : ε) : Along g C (throw e : Attempt σ ε α) := Along.still fun _ => rfl

lemma Along.mono (hm : Along g C m) (hCD : ∀ x y, C x y → D x y) : Along g D m :=
  fun s => ReflTransGen.mono hCD _ _ (hm s)

lemma Along.bind (hm : Along g C m) (hf : ∀ a, Along g C (f a)) : Along g C (m >>= f) := by
  intro s
  have hpath := hm s
  rw [exec_bind]
  rcases hexec : exec m s with ⟨e | a, t⟩
  · rw [hexec] at hpath
    exact hpath
  · rw [hexec] at hpath
    exact hpath.trans (hf a t)

lemma Along.map {f : α → γ} (hm : Along g C m) : Along g C (f <$> m) := by
  intro s
  have hpath := hm s
  rw [exec_map]
  rcases hexec : exec m s with ⟨e | a, t⟩
  · rw [hexec] at hpath
    exact hpath
  · rw [hexec] at hpath
    exact hpath

lemma Along.tryCatch {f : ε → Attempt σ ε α} (hm : Along g C m) (hf : ∀ e, Along g C (f e)) :
    Along g C (tryCatch m f) := by
  intro s
  have hpath := hm s
  rw [exec_tryCatch]
  rcases hexec : exec m s with ⟨e | a, t⟩
  · rw [hexec] at hpath
    exact hpath.trans (hf e t)
  · rw [hexec] at hpath
    exact hpath

lemma Along.mapM {f : ι → Attempt σ ε α} (hf : ∀ i, Along g C (f i)) (is : List ι) :
    Along g C (is.mapM f) := by
  induction is with
  | nil => exact Along.pure []
  | cons i is ih =>
    rw [List.mapM_cons]
    exact (hf i).bind fun _ => ih.bind fun _ => Along.pure _

lemma Along.forM {f : ι → Attempt σ ε PUnit} (hf : ∀ i, Along g C (f i)) (is : List ι) :
    Along g C (is.forM f) := by
  induction is with
  | nil => exact Along.pure PUnit.unit
  | cons i is ih => exact (hf i).bind fun _ => ih

end Along

end UsbSerial.Attempt
