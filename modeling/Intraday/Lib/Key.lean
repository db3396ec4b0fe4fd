import Mathlib.Data.List.Basic
import Mathlib.Data.List.TakeWhile

/-!
# Intraday.Lib.Key — keys made of two names

Dictionaries and stores are keyed by texts `scope:name`. Such a key is split at its first
colon, so it stands for its two names as long as the scope has no colon.
-/

namespace Intraday.Lib

/-- `f"{scope}:{name}"`. -/
def joinKey (scope name : String) : String := scope ++ ":" ++ name

/-- `key.split(":", 1)`, for a key with a colon. -/
def splitKey (key : String) : String × String :=
  (String.ofList (key.toList.takeWhile (· ≠ ':')),
    String.ofList ((key.toList.dropWhile (· ≠ ':')).drop 1))

theorem toList_joinKey (scope name : String) :
    (joinKey scope name).toList = scope.toList ++ ':' :: name.toList := by
  simp [joinKey, String.toList_append]

theorem colon_mem_joinKey (scope name : String) : ':' ∈ (joinKey scope name).toList := by
  simp [toList_joinKey]

/-- A key with a colon is put together again from its parts. -/
theorem joinKey_splitKey {key : String} (h : ':' ∈ key.toList) :
    joinKey (splitKey key).1 (splitKey key).2 = key := by
  rw [String.ext_iff]
  simp only [joinKey, splitKey, String.toList_append, String.toList_ofList]
  generalize key.toList = cs at h
  induction cs with
  | nil => cases h
  | cons c cs ih =>
      by_cases hc : c = ':'
      · simp [hc]
      · have hcs : ':' ∈ cs := (List.mem_cons.mp h).resolve_left fun heq => hc heq.symm
        simpa [hc] using ih hcs

/-- The scope that a key is split into has no colon. -/
theorem colon_notMem_splitKey (key : String) : ':' ∉ (splitKey key).1.toList := by
  intro hmem
  rw [splitKey, String.toList_ofList] at hmem
  have hcolon := List.mem_takeWhile_imp hmem
  simp at hcolon

theorem takeWhile_append_colon {cs : List Char} (h : ':' ∉ cs) (rest : List Char) :
    (cs ++ ':' :: rest).takeWhile (· ≠ ':') = cs := by
  have hcs : ∀ c ∈ cs, decide (c ≠ ':') = true := by
    intro c hc
    exact decide_eq_true fun heq => h (heq ▸ hc)
  rw [List.takeWhile_append_of_pos hcs]
  simp

/-- Keys of one scope tell their names. -/
theorem joinKey_right_inj {scope name name' : String} :
    joinKey scope name = joinKey scope name' ↔ name = name' := by
  constructor
  · intro hkey
    have hchars := congrArg String.toList hkey
    rw [toList_joinKey, toList_joinKey, List.append_cancel_left_eq, List.cons.injEq] at hchars
    exact String.ext hchars.2
  · rintro rfl
    rfl

/-- Without a colon in the scope, the key tells the scope and the name. -/
theorem joinKey_inj {scope scope' name name' : String} (h : ':' ∉ scope.toList)
    (h' : ':' ∉ scope'.toList) :
    joinKey scope name = joinKey scope' name' ↔ scope = scope' ∧ name = name' := by
  constructor
  · intro hkey
    have hchars : scope.toList ++ ':' :: name.toList = scope'.toList ++ ':' :: name'.toList := by
      rw [← toList_joinKey, ← toList_joinKey, hkey]
    have hscope : scope.toList = scope'.toList := by
      rw [← takeWhile_append_colon h name.toList, hchars, takeWhile_append_colon h']
    rw [hscope, List.append_cancel_left_eq, List.cons.injEq] at hchars
    exact ⟨String.ext hscope, String.ext hchars.2⟩
  · rintro ⟨rfl, rfl⟩
    rfl

end Intraday.Lib
