import Intraday.Lib.Python

/-!
# Intraday.Lib.Simulation — methods that do the same to two objects

An object and a smaller model of it are related. A method of the one simulates a method of the
other if it keeps the relation and both calls end the same way; sequences are taken apart by
`Simulates.bind`, since an exception cuts both off in the same place.
-/

namespace Intraday.Lib.Python

variable {σ τ α β : Type}

theorem after_bind_eq (x : Method σ α) (f : α → Method σ β) (s : σ) :
    after (x >>= f) s =
      match outcome x s with
      | .ok a => after (f a) (after x s)
      | .error _ => after x s := by
  simp only [after, outcome, bind, EStateM.bind, EStateM.run]
  cases x s <;> rfl

theorem outcome_bind_eq (x : Method σ α) (f : α → Method σ β) (s : σ) :
    outcome (x >>= f) s =
      match outcome x s with
      | .ok a => outcome (f a) (after x s)
      | .error e => .error e := by
  simp only [after, outcome, bind, EStateM.bind, EStateM.run]
  cases x s <;> rfl

/-- The objects are related after the calls, and both return the same or raise the same. -/
def Simulates (R : σ → τ → Prop) (f : Method σ α) (g : Method τ α) : Prop :=
  ∀ s t, R s t → R (after f s) (after g t) ∧ outcome f s = outcome g t

variable {R : σ → τ → Prop}

theorem simulates_pure (a : α) : Simulates R (pure a : Method σ α) (pure a) :=
  fun _ _ hR => ⟨hR, rfl⟩

theorem Simulates.bind {x : Method σ α} {y : Method τ α} {f : α → Method σ β}
    {g : α → Method τ β} (hx : Simulates R x y) (hf : ∀ a, Simulates R (f a) (g a)) :
    Simulates R (x >>= f) (y >>= g) := by
  intro s t hR
  rcases hx s t hR with ⟨hR', heq⟩
  rw [after_bind_eq, after_bind_eq, outcome_bind_eq, outcome_bind_eq, heq]
  cases outcome y t with
  | ok a => exact hf a _ _ hR'
  | error e => exact ⟨hR', rfl⟩

end Intraday.Lib.Python
