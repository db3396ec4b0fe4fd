import Mathlib.Data.List.Basic
import Mathlib.Tactic.Common

/-!
# Intraday.Lib.Machine — deterministic machines and their runs

A component that serves one request at a time (a script server, an order book, a
memory) is a total step function: from a state and an operation to the next
state and a reply. A schedule of any number of clients is then one list of
operations, and everything a run does is its list of transitions.

The rules below are the only induction the components need:

* `run_invariant`: what holds initially and is kept by every step holds after
  every run;
* `run_related`: what relates two machines initially and is kept by their steps relates
  them after every run of both;
* `trans_invariant_of_allowed`: the same along the transitions of a run, for steps
  that keep it under a condition;
* `trans_latch`: what no transition of a run loses holds from then on;
* `trans_eq_append_cons`: a transition of a run, with what was fired before and after
  it;
* `trans_forall_iff`: when one step keeps a property exactly if it is well
  behaved, a whole run keeps it exactly if all its steps are (`trans_forall_post_iff`
  when every step is allowed);
* `trans_forall_fire_iff`: the same for what a transition does by itself.
-/

namespace Intraday.Lib

universe u v w

/-- A machine over states `σ`, driven by operations `ι`, replying with `ο`. -/
structure Machine (σ : Type u) (ι : Type v) (ο : Type w) where
  step : σ → ι → σ × ο

/-- One fired operation: where it started, what it was, what it replied and
where it ended. -/
structure Trans (σ : Type u) (ι : Type v) (ο : Type w) where
  pre : σ
  op : ι
  reply : ο
  post : σ

namespace Machine

variable {σ : Type u} {ι : Type v} {ο : Type w} (M : Machine σ ι ο)

/-- The state after one operation. -/
def next (s : σ) (i : ι) : σ := (M.step s i).1

/-- The reply to one operation. -/
def reply (s : σ) (i : ι) : ο := (M.step s i).2

/-- The transition an operation fires. -/
def fire (s : σ) (i : ι) : Trans σ ι ο := ⟨s, i, M.reply s i, M.next s i⟩

/-- The state after a list of operations. -/
def run : σ → List ι → σ
  | s, [] => s
  | s, i :: is => run (M.next s i) is

/-- The transitions a list of operations fires, in order. -/
def trans : σ → List ι → List (Trans σ ι ο)
  | _, [] => []
  | s, i :: is => M.fire s i :: trans (M.next s i) is

@[simp] theorem trans_nil (s : σ) : M.trans s [] = [] := rfl

@[simp] theorem trans_cons (s : σ) (i : ι) (is : List ι) :
    M.trans s (i :: is) = M.fire s i :: M.trans (M.next s i) is := rfl

theorem run_append (s : σ) (is js : List ι) : M.run s (is ++ js) = M.run (M.run s is) js := by
  induction is generalizing s with
  | nil => rfl
  | cons i is ih => exact ih (M.next s i)

theorem trans_append (s : σ) (is js : List ι) :
    M.trans s (is ++ js) = M.trans s is ++ M.trans (M.run s is) js := by
  induction is generalizing s with
  | nil => rfl
  | cons i is ih => exact congrArg (M.fire s i :: ·) (ih (M.next s i))

/-- A transition of a run is the one its operation fires. -/
theorem trans_fire {s : σ} {is : List ι} {t : Trans σ ι ο} (h : t ∈ M.trans s is) :
    t = M.fire t.pre t.op := by
  induction is generalizing s with
  | nil => simp at h
  | cons i is ih =>
      rcases List.mem_cons.mp h with rfl | h
      · rfl
      · exact ih h

/-- What holds of the operations holds along the run. -/
theorem trans_forall_op {P : ι → Prop} {is : List ι} (h : ∀ i ∈ is, P i) {s : σ} :
    ∀ t ∈ M.trans s is, P t.op := by
  induction is generalizing s with
  | nil => simp
  | cons i is ih =>
      rw [List.forall_mem_cons] at h
      simp only [trans_cons, List.forall_mem_cons]
      exact ⟨h.1, ih h.2⟩

/-- Inductive invariance: an invariant kept by every step holds after every run. -/
theorem run_invariant {inv : σ → Prop} (hstep : ∀ s i, inv s → inv (M.next s i))
    {s : σ} (hs : inv s) (is : List ι) : inv (M.run s is) := by
  induction is generalizing s with
  | nil => exact hs
  | cons i is ih => exact ih (hstep s i hs)

/-- Two machines that are driven by the same operations stay related if every step keeps them so. -/
theorem run_related {τ : Type u} {π : Type w} {N : Machine τ ι π} {rel : σ → τ → Prop}
    (hstep : ∀ s t i, rel s t → rel (M.next s i) (N.next t i)) {s : σ} {t : τ} (hs : rel s t)
    (is : List ι) : rel (M.run s is) (N.run t is) := by
  induction is generalizing s t with
  | nil => exact hs
  | cons i is ih => exact ih (hstep s t i hs)

/-- Inductive invariance along a run whose steps are all allowed. -/
theorem trans_invariant_of_allowed {inv : σ → Prop} {allowed : σ → ι → Prop}
    (hstep : ∀ s i, inv s → allowed s i → inv (M.next s i)) {s : σ} (hs : inv s) {is : List ι}
    (hall : ∀ t ∈ M.trans s is, allowed t.pre t.op) :
    ∀ t ∈ M.trans s is, inv t.pre ∧ t = M.fire t.pre t.op := by
  induction is generalizing s with
  | nil => simp
  | cons i is ih =>
      simp only [trans_cons, List.forall_mem_cons] at hall ⊢
      exact ⟨⟨hs, rfl⟩, ih (hstep s i hs hall.1) hall.2⟩

/-- The same for the state in which such a run ends. -/
theorem run_invariant_of_allowed {inv : σ → Prop} {allowed : σ → ι → Prop}
    (hstep : ∀ s i, inv s → allowed s i → inv (M.next s i)) {s : σ} (hs : inv s) {is : List ι}
    (hall : ∀ t ∈ M.trans s is, allowed t.pre t.op) : inv (M.run s is) := by
  induction is generalizing s with
  | nil => exact hs
  | cons i is ih =>
      simp only [trans_cons, List.forall_mem_cons] at hall
      exact ih (hstep s i hs hall.1) hall.2

/-- A latch: what no transition of a run loses holds from then on. -/
theorem trans_latch {P : σ → Prop} {s : σ} {is : List ι}
    (hkeeps : ∀ t ∈ M.trans s is, P t.pre → P t.post) (hs : P s) :
    ∀ t ∈ M.trans s is, P t.post := by
  induction is generalizing s with
  | nil => simp
  | cons i is ih =>
      simp only [trans_cons, List.forall_mem_cons] at hkeeps ⊢
      have hnext : P (M.next s i) := hkeeps.1 hs
      exact ⟨hnext, ih hkeeps.2 hnext⟩

/-- A run taken apart at one of its transitions. -/
theorem trans_eq_append_cons {s : σ} {is : List ι} {before after : List (Trans σ ι ο)}
    {t : Trans σ ι ο} (h : M.trans s is = before ++ t :: after) :
    ∃ is₁ i is₂, is = is₁ ++ i :: is₂ ∧ before = M.trans s is₁ ∧ t = M.fire (M.run s is₁) i ∧
      after = M.trans (M.next (M.run s is₁) i) is₂ := by
  induction before generalizing s is with
  | nil =>
      cases is with
      | nil => exact nomatch h
      | cons i is =>
          rcases List.cons.inj h with ⟨rfl, rfl⟩
          exact ⟨[], i, is, rfl, rfl, rfl, rfl⟩
  | cons b before ih =>
      cases is with
      | nil => exact nomatch h
      | cons i is =>
          rcases List.cons.inj h with ⟨rfl, hrest⟩
          rcases ih hrest with ⟨is₁, j, is₂, rfl, rfl, rfl, rfl⟩
          exact ⟨i :: is₁, j, is₂, rfl, rfl, rfl, rfl⟩

/-- Two members of a list are one occurrence, or one comes before the other. -/
theorem eq_or_split_of_mem {α : Type u} {l : List α} {x y : α} (hx : x ∈ l) (hy : y ∈ l) :
    x = y ∨ (∃ p m q, l = p ++ x :: (m ++ y :: q)) ∨ ∃ p m q, l = p ++ y :: (m ++ x :: q) := by
  rcases List.append_of_mem hx with ⟨p, q, rfl⟩
  rcases List.mem_append.mp hy with hbefore | hafter
  · rcases List.append_of_mem hbefore with ⟨p, m, rfl⟩
    exact Or.inr (Or.inr ⟨p, m, q, by simp⟩)
  · rcases List.mem_cons.mp hafter with rfl | hafter
    · exact Or.inl rfl
    · rcases List.append_of_mem hafter with ⟨m, q, rfl⟩
      exact Or.inr (Or.inl ⟨p, m, q, rfl⟩)

/-- If no member of a list that has a property follows another one, at most one has it. -/
theorem countP_le_one {α : Type u} {p : α → Bool} {l : List α}
    (h : ∀ before x mid y after, l = before ++ x :: (mid ++ y :: after) → p x = true →
      p y = false) : l.countP p ≤ 1 := by
  induction l with
  | nil => exact Nat.zero_le 1
  | cons x l ih =>
      by_cases hx : p x = true
      · have hnone : l.countP p = 0 := by
          rw [List.countP_eq_zero]
          intro y hy
          rcases List.append_of_mem hy with ⟨mid, after, rfl⟩
          rw [h [] x mid y after rfl hx]
          exact Bool.false_ne_true
        exact Nat.le_of_eq (by rw [List.countP_cons_of_pos hx, hnone, Nat.zero_add])
      · rw [List.countP_cons_of_neg hx]
        apply ih
        intro before y mid z after heq hy
        exact h (x :: before) y mid z after (by rw [heq, List.cons_append]) hy

/-- Exactness along a run. If, from states that satisfy the invariant and `good`,
a step leads to a `good` state exactly when it is `fine`, then every state of a
run is `good` exactly when every step of it is `fine`. -/
theorem trans_forall_iff {inv good : σ → Prop} {allowed fine : σ → ι → Prop}
    (hstep : ∀ s i, inv s → inv (M.next s i))
    (hexact : ∀ s i, inv s → good s → allowed s i → (good (M.next s i) ↔ fine s i))
    {s : σ} (hs : inv s) (hgood : good s) {is : List ι}
    (hall : ∀ t ∈ M.trans s is, allowed t.pre t.op) :
    (∀ t ∈ M.trans s is, good t.post) ↔ ∀ t ∈ M.trans s is, fine t.pre t.op := by
  induction is generalizing s with
  | nil => simp
  | cons i is ih =>
      simp only [trans_cons, List.forall_mem_cons] at hall ⊢
      have hone : good (M.next s i) ↔ fine s i := hexact s i hs hgood hall.1
      constructor
      · rintro ⟨hg, hrest⟩
        exact ⟨hone.mp hg, (ih (hstep s i hs) hg hall.2).mp hrest⟩
      · rintro ⟨hf, hrest⟩
        have hg : good (M.next s i) := hone.mpr hf
        exact ⟨hg, (ih (hstep s i hs) hg hall.2).mpr hrest⟩

/-- The same for a machine whose steps are all allowed. -/
theorem trans_forall_post_iff {inv good : σ → Prop} {fine : σ → ι → Prop}
    (hstep : ∀ s i, inv s → inv (M.next s i))
    (hexact : ∀ s i, inv s → good s → (good (M.next s i) ↔ fine s i))
    {s : σ} (hs : inv s) (hgood : good s) (is : List ι) :
    (∀ t ∈ M.trans s is, good t.post) ↔ ∀ t ∈ M.trans s is, fine t.pre t.op := by
  refine @trans_forall_iff _ _ _ M inv good (fun _ _ => True) fine hstep ?_ s hs hgood is ?_
  · intro s i hinv hg _
    exact hexact s i hinv hg
  · intro t _
    trivial

/-- Exactness of single transitions. What a transition does from states that satisfy the
invariant is `good` exactly when its step is `fine`, so the same holds along a run. -/
theorem trans_forall_fire_iff {inv : σ → Prop} {good : Trans σ ι ο → Prop} {fine : σ → ι → Prop}
    (hstep : ∀ s i, inv s → inv (M.next s i))
    (hexact : ∀ s i, inv s → (good (M.fire s i) ↔ fine s i))
    {s : σ} (hs : inv s) (is : List ι) :
    (∀ t ∈ M.trans s is, good t) ↔ ∀ t ∈ M.trans s is, fine t.pre t.op := by
  induction is generalizing s with
  | nil => simp
  | cons i is ih =>
      simp only [trans_cons, List.forall_mem_cons]
      have hone : good (M.fire s i) ↔ fine s i := hexact s i hs
      exact and_congr hone (ih (hstep s i hs))

end Machine

end Intraday.Lib
