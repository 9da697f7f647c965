/-! Computations on a state that may fail. What they did to the state outlives a failure. -/

namespace UsbSerial

abbrev Attempt (σ ε α : Type) := ExceptT ε (StateM σ) α

namespace Attempt

variable {σ ε α γ : Type}

def of (f : σ → Except ε α × σ) : Attempt σ ε α := ExceptT.mk f

def exec (m : Attempt σ ε α) (s : σ) : Except ε α × σ := m.run.run s

@[simp] theorem exec_of (f : σ → Except ε α × σ) (s : σ) : exec (of f) s = f s := rfl

@[ext] theorem ext {m n : Attempt σ ε α} (h : ∀ s, exec m s = exec n s) : m = n := funext h

@[simp] theorem exec_pure (a : α) (s : σ) : exec (pure a : Attempt σ ε α) s = (.ok a, s) := rfl

@[simp] theorem exec_throw (e : ε) (s : σ) :
    exec (throw e : Attempt σ ε α) s = (.error e, s) := rfl

@[simp] theorem exec_get (s : σ) : exec (get : Attempt σ ε σ) s = (.ok s, s) := rfl

@[simp] theorem exec_set (s t : σ) : exec (set t : Attempt σ ε PUnit) s = (.ok ⟨⟩, t) := rfl

@[simp] theorem exec_modify (f : σ → σ) (s : σ) :
    exec (modify f : Attempt σ ε PUnit) s = (.ok ⟨⟩, f s) := rfl

@[simp] theorem exec_bind (m : Attempt σ ε α) (f : α → Attempt σ ε γ) (s : σ) :
    exec (m >>= f) s =
      match exec m s with
      | (.ok a, t) => exec (f a) t
      | (.error e, t) => (.error e, t) := by
  simp only [exec, ExceptT.run_bind, StateT.run_bind]
  rcases m.run.run s with ⟨a | e, t⟩ <;> rfl

@[simp] theorem exec_map (f : α → γ) (m : Attempt σ ε α) (s : σ) :
    exec (f <$> m) s =
      match exec m s with
      | (.ok a, t) => (.ok (f a), t)
      | (.error e, t) => (.error e, t) := by
  simp only [exec, ExceptT.run_map, StateT.run_map]
  rcases m.run.run s with ⟨a | e, t⟩ <;> rfl

@[simp] theorem exec_tryCatch (m : Attempt σ ε α) (f : ε → Attempt σ ε α) (s : σ) :
    exec (tryCatch m f) s =
      match exec m s with
      | (.ok a, t) => (.ok a, t)
      | (.error e, t) => exec (f e) t := by
  simp only [exec, tryCatch, tryCatchThe, MonadExceptOf.tryCatch, ExceptT.tryCatch,
    ExceptT.run_mk, StateT.run_bind]
  rcases h : m.run.run s with ⟨a | e, t⟩ <;> simp only [ExceptT.run] at h <;> simp [h] <;> rfl

@[simp] theorem exec_liftM (r : Except ε α) (s : σ) :
    exec (liftM r : Attempt σ ε α) s = (r, s) := rfl

end Attempt

end UsbSerial
