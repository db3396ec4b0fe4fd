import Mathlib.Data.List.Nodup
import Mathlib.Logic.Function.Basic

/-!
# Intraday.Lib.Custody — who holds what

Things are handed out, passed on and given back by owners that have room for one each. A thing whose
owner forgets it, or takes another one in its place, is lost: it stays handed out, and nobody can
give it back.

In `Exact` custody each thing that is handed out has one owner or is lost. All operations keep it.
-/

namespace Intraday.Lib

/-- What each owner holds, and what was lost. -/
@[ext]
structure Custody (O κ : Type) where
  held : O → Option κ
  lost : List κ

namespace Custody

variable {O κ : Type}

/-- Nobody holds anything. -/
def empty : Custody O κ := { held := fun _ => none, lost := [] }

/-- What is handed out has one owner, or is lost. -/
structure Exact (out : κ → Prop) (c : Custody O κ) : Prop where
  unique : ∀ o o' k, c.held o = some k → c.held o' = some k → o = o'
  apart : ∀ o k, c.held o = some k → k ∉ c.lost
  nodup : c.lost.Nodup
  out_iff : ∀ k, out k ↔ (∃ o, c.held o = some k) ∨ k ∈ c.lost

theorem exact_empty : Exact (fun _ => False) (empty : Custody O κ) where
  unique _ _ _ h := nomatch h
  apart _ _ h := nomatch h
  nodup := List.nodup_nil
  out_iff k := by simp [empty]

theorem Exact.congr {out out' : κ → Prop} {c : Custody O κ} (h : Exact out c)
    (hout : ∀ k, out' k ↔ out k) : Exact out' c :=
  { h with out_iff := fun k => (hout k).trans (h.out_iff k) }

variable [DecidableEq O]

/-- The thing `k` is handed out to `o`. -/
def take (c : Custody O κ) (o : O) (k : κ) : Custody O κ :=
  { c with held := Function.update c.held o (some k) }

/-- An owner forgets what it holds. -/
def abandon (c : Custody O κ) (o : O) : Custody O κ :=
  { held := Function.update c.held o none, lost := (c.held o).toList ++ c.lost }

/-- An owner gives back what it holds. -/
def giveBack (c : Custody O κ) (o : O) : Custody O κ :=
  { c with held := Function.update c.held o none }

/-- An owner passes what it holds to `o'`, in the place of what that one holds. -/
def pass (c : Custody O κ) (o o' : O) : Custody O κ :=
  { held := Function.update (Function.update c.held o none) o' (c.held o)
    lost := (c.held o').toList ++ c.lost }

theorem update_eq_some {f : O → Option κ} {o o₁ : O} {v : Option κ} {k : κ} :
    Function.update f o v o₁ = some k ↔ o₁ = o ∧ v = some k ∨ o₁ ≠ o ∧ f o₁ = some k := by
  by_cases h : o₁ = o
  · subst h
    simp
  · simp [h]

variable {out : κ → Prop} {c : Custody O κ} {o o' : O} {k : κ}

/-- What was not handed out is handed out to an owner with empty hands. -/
theorem Exact.take (h : Exact out c) (ho : c.held o = none) (hk : ¬ out k) :
    Exact (fun x => out x ∨ x = k) (c.take o k) := by
  rw [h.out_iff, not_or, not_exists] at hk
  refine ⟨?_, ?_, h.nodup, ?_⟩
  · intro o₁ o₂ x h₁ h₂
    rcases update_eq_some.mp h₁ with ⟨rfl, heq₁⟩ | ⟨-, hold₁⟩
    · rcases update_eq_some.mp h₂ with ⟨rfl, -⟩ | ⟨-, hold₂⟩
      · rfl
      · rw [← Option.some.inj heq₁] at hold₂
        exact absurd hold₂ (hk.1 o₂)
    · rcases update_eq_some.mp h₂ with ⟨rfl, heq₂⟩ | ⟨-, hold₂⟩
      · rw [← Option.some.inj heq₂] at hold₁
        exact absurd hold₁ (hk.1 o₁)
      · exact h.unique o₁ o₂ x hold₁ hold₂
  · intro o₁ x h₁
    rcases update_eq_some.mp h₁ with ⟨-, heq⟩ | ⟨-, hold⟩
    · rw [← Option.some.inj heq]
      exact hk.2
    · exact h.apart o₁ x hold
  · intro x
    constructor
    · rintro (hx | rfl)
      · rcases (h.out_iff x).mp hx with ⟨o₁, ho₁⟩ | hlost
        · have hne : o₁ ≠ o := by
            rintro rfl
            rw [ho] at ho₁
            cases ho₁
          exact .inl ⟨o₁, update_eq_some.mpr (.inr ⟨hne, ho₁⟩)⟩
        · exact .inr hlost
      · exact .inl ⟨o, update_eq_some.mpr (.inl ⟨rfl, rfl⟩)⟩
    · rintro (⟨o₁, ho₁⟩ | hlost)
      · rcases update_eq_some.mp ho₁ with ⟨-, heq⟩ | ⟨-, hold⟩
        · exact .inr (Option.some.inj heq).symm
        · exact .inl ((h.out_iff x).mpr (.inl ⟨o₁, hold⟩))
      · exact .inl ((h.out_iff x).mpr (.inr hlost))

/-- What an owner forgets is lost. -/
theorem Exact.abandon (h : Exact out c) (o : O) : Exact out (c.abandon o) := by
  have hlost : ∀ x, x ∈ (c.abandon o).lost ↔ c.held o = some x ∨ x ∈ c.lost := by
    intro x
    rw [Custody.abandon, List.mem_append, Option.mem_toList]
  refine ⟨?_, ?_, ?_, ?_⟩
  · intro o₁ o₂ x h₁ h₂
    rcases update_eq_some.mp h₁ with ⟨-, hnone⟩ | ⟨-, hold₁⟩
    · cases hnone
    · rcases update_eq_some.mp h₂ with ⟨-, hnone⟩ | ⟨-, hold₂⟩
      · cases hnone
      · exact h.unique o₁ o₂ x hold₁ hold₂
  · intro o₁ x h₁
    rcases update_eq_some.mp h₁ with ⟨-, hnone⟩ | ⟨hne, hold⟩
    · cases hnone
    · rw [hlost, not_or]
      exact ⟨fun ho => hne (h.unique o₁ o x hold ho), h.apart o₁ x hold⟩
  · show ((c.held o).toList ++ c.lost).Nodup
    cases hheld : c.held o with
    | none => exact h.nodup
    | some x => exact List.nodup_cons.mpr ⟨h.apart o x hheld, h.nodup⟩
  · intro x
    rw [h.out_iff, hlost]
    constructor
    · rintro (⟨o₁, ho₁⟩ | hold)
      · by_cases hne : o₁ = o
        · exact .inr (.inl (hne ▸ ho₁))
        · exact .inl ⟨o₁, update_eq_some.mpr (.inr ⟨hne, ho₁⟩)⟩
      · exact .inr (.inr hold)
    · rintro (⟨o₁, ho₁⟩ | hmine | hold)
      · rcases update_eq_some.mp ho₁ with ⟨-, hnone⟩ | ⟨-, hheld⟩
        · cases hnone
        · exact .inl ⟨o₁, hheld⟩
      · exact .inl ⟨o, hmine⟩
      · exact .inr hold

/-- What an owner gives back is not handed out any more. -/
theorem Exact.giveBack (h : Exact out c) (ho : c.held o = some k) :
    Exact (fun x => out x ∧ x ≠ k) (c.giveBack o) := by
  refine ⟨?_, ?_, h.nodup, ?_⟩
  · exact (h.abandon o).unique
  · intro o₁ x h₁
    rcases update_eq_some.mp h₁ with ⟨-, hnone⟩ | ⟨-, hold⟩
    · cases hnone
    · exact h.apart o₁ x hold
  · intro x
    constructor
    · rintro ⟨hx, hne⟩
      rcases (h.out_iff x).mp hx with ⟨o₁, ho₁⟩ | hlost
      · have hother : o₁ ≠ o := by
          rintro rfl
          rw [ho] at ho₁
          exact hne (Option.some.inj ho₁).symm
        exact .inl ⟨o₁, update_eq_some.mpr (.inr ⟨hother, ho₁⟩)⟩
      · exact .inr hlost
    · rintro (⟨o₁, ho₁⟩ | hlost)
      · rcases update_eq_some.mp ho₁ with ⟨-, hnone⟩ | ⟨hother, hold⟩
        · cases hnone
        · refine ⟨(h.out_iff x).mpr (.inl ⟨o₁, hold⟩), ?_⟩
          rintro rfl
          exact hother (h.unique o₁ o x hold ho)
      · refine ⟨(h.out_iff x).mpr (.inr hlost), ?_⟩
        rintro rfl
        exact h.apart o x ho hlost

/-- What is passed on has a new owner, and what that one had is lost. -/
theorem Exact.pass (h : Exact out c) (hne : o ≠ o') : Exact out (c.pass o o') := by
  have hgone := h.abandon o'
  have hheld : (c.abandon o').held o = c.held o := Function.update_of_ne hne _ _
  have hpass : (c.pass o o').held =
      Function.update (Function.update (c.abandon o').held o none) o' (c.held o) := by
    show Function.update (Function.update c.held o none) o' (c.held o) =
      Function.update (Function.update (Function.update c.held o' none) o none) o' (c.held o)
    rw [Function.update_comm hne, Function.update_comm hne, Function.update_idem]
  -- after the loss the thing goes from one owner to another with empty hands
  cases hthing : c.held o with
  | none =>
      have hsame : c.pass o o' = c.abandon o' := by
        have hheld' : (c.pass o o').held = (c.abandon o').held := by
          rw [hpass, hthing]
          funext o₁
          by_cases h₁ : o₁ = o'
          · subst h₁
            simp [Custody.abandon]
          · by_cases h₂ : o₁ = o
            · subst h₂
              rw [Function.update_of_ne h₁, Function.update_self, hheld, hthing]
            · rw [Function.update_of_ne h₁, Function.update_of_ne h₂]
        exact Custody.ext hheld' rfl
      rw [hsame]
      exact hgone
  | some k =>
      have hback := hgone.giveBack (hheld.trans hthing)
      have hempty : ((c.abandon o').giveBack o).held o' = none := by
        show Function.update (c.abandon o').held o none o' = none
        rw [Function.update_of_ne (Ne.symm hne)]
        exact Function.update_self _ _ _
      have htake := hback.take (k := k) hempty (fun hout => hout.2 rfl)
      have hout : out k := (h.out_iff k).mpr (.inl ⟨o, hthing⟩)
      have hsame : c.pass o o' = ((c.abandon o').giveBack o).take o' k := by
        refine Custody.ext ?_ rfl
        rw [hpass, hthing]
        rfl
      rw [hsame]
      refine htake.congr ?_
      intro x
      constructor
      · intro hx
        by_cases hk : x = k
        · exact .inr hk
        · exact .inl ⟨hx, hk⟩
      · rintro (⟨hx, -⟩ | rfl)
        · exact hx
        · exact hout

end Custody

end Intraday.Lib
