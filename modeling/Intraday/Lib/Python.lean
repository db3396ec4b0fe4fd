import Mathlib.Data.List.Basic
import Mathlib.Data.Fintype.Basic

/-!
# Intraday.Lib.Python — methods, exceptions and keyword arguments

A method mutates an object and may raise: what it assigned before the exception stays
assigned, so a `Method` keeps the state on error. A call by keyword binds the arguments to
the parameters of the callee and raises a `TypeError` before its body runs when the names
do not fit.
-/

namespace Intraday.Lib.Python

/-- An exception, as far as the components tell them apart. -/
inductive Exc where
  /-- raised by a Redis call -/
  | redisError
  | typeError (message : String)
  /-- any other, with its message -/
  | other (message : String)
deriving DecidableEq, Repr

/-- A text is decoded from its bytes. -/
@[simp] theorem fromUTF8?_toByteArray (s : String) : String.fromUTF8? s.toByteArray = some s := by
  rw [String.fromUTF8?, dif_pos s.isValidUTF8]
  rfl

/-- A method of an object with state `σ`. -/
abbrev Method (σ : Type) := EStateM Exc σ

variable {σ α β : Type}

/-- The object after the call, returned or raised. -/
def after (f : Method σ α) (s : σ) : σ :=
  match f.run s with
  | .ok _ s' => s'
  | .error _ s' => s'

/-- The value returned, or the exception. -/
def outcome (f : Method σ α) (s : σ) : Except Exc α :=
  match f.run s with
  | .ok a _ => .ok a
  | .error e _ => .error e

/-- The rule for sequencing: what the first part establishes and the rest keeps holds in the
end, wherever an exception cuts the sequence off. -/
theorem after_bind {P : σ → Prop} {x : Method σ α} {f : α → Method σ β} {s : σ}
    (hx : P (after x s)) (hf : ∀ a s', P s' → P (after (f a) s')) : P (after (x >>= f) s) := by
  simp only [after, bind, EStateM.bind, EStateM.run] at hx hf ⊢
  cases hrun : x s with
  | ok a s' =>
      rw [hrun] at hx
      exact hf a s' hx
  | error e s' =>
      rw [hrun] at hx
      exact hx

/-! ## Keyword arguments -/

/-- `f(**kwargs)` for a function without defaults: the arguments by position, or the
`TypeError` raised by the call. -/
def bindKeywords (params : List String) (kwargs : List (String × α)) :
    Except Exc (Fin params.length → α) :=
  match (kwargs.map Prod.fst).find? (· ∉ params) with
  | some name => .error (.typeError ("got an unexpected keyword argument '" ++ name ++ "'"))
  | none =>
      if h : ∀ i : Fin params.length, (kwargs.lookup (params.get i)).isSome then
        .ok fun i => (kwargs.lookup (params.get i)).get (h i)
      else .error (.typeError "missing required positional arguments")

/-- A keyword that is no parameter never reaches the body. -/
theorem bindKeywords_error {params : List String} {kwargs : List (String × α)}
    (h : ∃ name ∈ kwargs.map Prod.fst, name ∉ params) :
    ∃ message, bindKeywords params kwargs = .error (.typeError message) := by
  rw [bindKeywords]
  cases hfind : (kwargs.map Prod.fst).find? (· ∉ params) with
  | some name => exact ⟨_, rfl⟩
  | none =>
      rcases h with ⟨name, hmem, hnot⟩
      rw [List.find?_eq_none] at hfind
      exact absurd (decide_eq_true hnot) (hfind name hmem)

end Intraday.Lib.Python
