import Intraday.Lib.Python

/-!
# Intraday.Lib.StateGraph — checkpointed state graphs

The execution model of LangGraph, as far as the orchestrator uses it. A node reads the
whole state and returns an update, which is merged into the state; an edge leads to the
next node or to the end. After each node a checkpoint is saved: the state, and the node
that wrote it, from which what comes next is read off. A run stops with `None` before a
node it is to be interrupted at, and an exception of a node leaves the checkpoint before
that node.

* `invoke` with an input merges it into the state and starts at the entry;
* `invoke` without one goes on from the checkpoint;
* `updateState` merges an update as if the last node had written it, so that its outgoing
  edge is taken anew.

Releases of the library differ in two points, which are parameters (`Runtime`): what
`invoke(None)` does when nothing is left to run, and whether a thread without a checkpoint
can be updated.
-/

namespace Intraday.Lib

open Intraday.Lib.Python

/-- A compiled graph with nodes `ν` over states `σ`. -/
structure StateGraph (ν σ : Type) where
  entry : ν
  /-- the update a node returns, or what it raises -/
  node : ν → σ → Except Exc σ
  merge : σ → σ → σ
  /-- the state of a new thread -/
  empty : σ
  /-- the edge out of a node; `none` is the end -/
  next : ν → σ → Option ν
  interruptBefore : ν → Bool

/-- What `invoke(None)` does when there is nothing to run. -/
inductive Idle where
  | raises
  | returnsNone
  | returnsValues
deriving DecidableEq, Repr

/-- The points in which releases of the library differ. -/
structure Runtime where
  idle : Idle
  updatesEmptyThread : Bool
deriving DecidableEq, Repr

/-- A checkpoint: the state, and the node that wrote it (`none` for an input). -/
structure Checkpoint (ν σ : Type) where
  values : σ
  last : Option ν

/-- How an `invoke` ends: with the state, with `None`, or with an exception. -/
inductive Outcome (σ : Type) where
  | returned (values : σ)
  | nothing
  | raised (exc : Exc)

/-- The end of an `invoke`: the nodes it ran, the checkpoint it left and its outcome. -/
structure Invocation (ν σ : Type) where
  visited : List ν
  thread : Option (Checkpoint ν σ)
  outcome : Outcome σ

namespace StateGraph

variable {ν σ : Type} (g : StateGraph ν σ)

/-- The node to run next. -/
def scheduled (c : Checkpoint ν σ) : Option ν :=
  match c.last with
  | none => some g.entry
  | some n => g.next n c.values

/-- The nodes from a checkpoint on, at most `limit` of them; `resumed` when the run goes on
from an interrupt before the first. -/
def loop : ℕ → Bool → Checkpoint ν σ → Invocation ν σ
  | 0, _, c => { visited := [], thread := some c, outcome := .raised (.other "recursion limit") }
  | limit + 1, resumed, c =>
      match g.scheduled c with
      | none => { visited := [], thread := some c, outcome := .returned c.values }
      | some n =>
          if g.interruptBefore n && !resumed then
            { visited := [], thread := some c, outcome := .nothing }
          else
            match g.node n c.values with
            | .error exc => { visited := [n], thread := some c, outcome := .raised exc }
            | .ok update =>
                let rest := loop limit false { values := g.merge c.values update, last := some n }
                { rest with visited := n :: rest.visited }

/-- The default recursion limit. -/
def recursionLimit : ℕ := 25

/-- Nothing to run. -/
def idle (rt : Runtime) (thread : Option (Checkpoint ν σ)) : Invocation ν σ :=
  { visited := []
    thread := thread
    outcome :=
      match rt.idle, thread with
      | .raises, _ => .raised (.other "no tasks to run in graph")
      | .returnsValues, some c => .returned c.values
      | _, _ => .nothing }

/-- The state of a thread. -/
def valuesOf (thread : Option (Checkpoint ν σ)) : σ :=
  match thread with
  | some c => c.values
  | none => g.empty

/-- `app.invoke(input)`. -/
def invoke (rt : Runtime) (thread : Option (Checkpoint ν σ)) : Option σ → Invocation ν σ
  | some input =>
      g.loop recursionLimit false
        { values := g.merge (g.valuesOf thread) input, last := none }
  | none =>
      match thread with
      | none => idle rt none
      | some c =>
          if (g.scheduled c).isNone then idle rt (some c) else g.loop recursionLimit true c

/-- `app.update_state(values)`. -/
def updateState (rt : Runtime) (thread : Option (Checkpoint ν σ)) (update : σ) :
    Except Exc (Checkpoint ν σ) :=
  match thread with
  | some c => .ok { c with values := g.merge c.values update }
  | none =>
      if rt.updatesEmptyThread then .ok { values := g.merge g.empty update, last := none }
      else .error (.other "no checkpoint to update")

/-! ## One node after the other -/

variable {g} {c : Checkpoint ν σ} {n : ν} {limit : ℕ} {resumed : Bool}

theorem loop_end (h : g.scheduled c = none) :
    g.loop (limit + 1) resumed c =
      { visited := [], thread := some c, outcome := .returned c.values } := by
  simp only [loop, h]

theorem loop_interrupt (h : g.scheduled c = some n) (hint : g.interruptBefore n = true) :
    g.loop (limit + 1) false c = { visited := [], thread := some c, outcome := .nothing } := by
  simp [loop, h, hint]

theorem loop_error {exc : Exc} (h : g.scheduled c = some n) (hint : g.interruptBefore n = false)
    (hnode : g.node n c.values = .error exc) :
    g.loop (limit + 1) resumed c =
      { visited := [n], thread := some c, outcome := .raised exc } := by
  simp [loop, h, hint, hnode]

theorem loop_ok {update : σ} (h : g.scheduled c = some n) (hint : g.interruptBefore n = false)
    (hnode : g.node n c.values = .ok update) :
    g.loop (limit + 1) resumed c =
      let rest := g.loop limit false { values := g.merge c.values update, last := some n }
      { rest with visited := n :: rest.visited } := by
  simp [loop, h, hint, hnode]

/-- A run that goes on from an interrupt runs the node it stopped before. -/
theorem loop_resume {update : σ} (h : g.scheduled c = some n)
    (hnode : g.node n c.values = .ok update) :
    g.loop (limit + 1) true c =
      let rest := g.loop limit false { values := g.merge c.values update, last := some n }
      { rest with visited := n :: rest.visited } := by
  simp [loop, h, hnode]

/-- Only a thread without a checkpoint refuses an update. -/
theorem updateState_error {rt : Runtime} {thread : Option (Checkpoint ν σ)} {update : σ} {exc : Exc}
    (h : g.updateState rt thread update = .error exc) : thread = none := by
  cases thread with
  | some c₀ => exact nomatch h
  | none => rfl

theorem updateState_ok {rt : Runtime} {thread : Option (Checkpoint ν σ)} {update : σ}
    (h : g.updateState rt thread update = .ok c) :
    (∃ c₀, thread = some c₀ ∧ c = { c₀ with values := g.merge c₀.values update }) ∨
      (thread = none ∧ rt.updatesEmptyThread = true ∧
        c = { values := g.merge g.empty update, last := none }) := by
  cases thread with
  | some c₀ => exact .inl ⟨c₀, rfl, (Except.ok.inj h).symm⟩
  | none =>
      cases hrt : rt.updatesEmptyThread with
      | true =>
          rw [updateState, if_pos hrt] at h
          exact .inr ⟨rfl, rfl, (Except.ok.inj h).symm⟩
      | false =>
          rw [updateState, if_neg (Bool.eq_false_iff.mp hrt)] at h
          exact nomatch h

/-! ## Invariants of a run -/

/-- What every node keeps holds of the checkpoint that a run leaves; and a state that is
returned is the state of that checkpoint, with nothing scheduled. -/
theorem loop_invariant {I : Checkpoint ν σ → Prop}
    (hstep : ∀ c n update, I c → g.scheduled c = some n → g.node n c.values = .ok update →
      I { values := g.merge c.values update, last := some n })
    (limit : ℕ) (resumed : Bool) (hc : I c) :
    ∃ c', (g.loop limit resumed c).thread = some c' ∧ I c' ∧
      ∀ values, (g.loop limit resumed c).outcome = .returned values →
        values = c'.values ∧ g.scheduled c' = none := by
  induction limit generalizing resumed c with
  | zero => exact ⟨c, rfl, hc, fun _ h => nomatch h⟩
  | succ limit ih =>
      cases hs : g.scheduled c with
      | none =>
          simp only [loop, hs]
          refine ⟨c, rfl, hc, ?_⟩
          intro values h
          exact ⟨(Outcome.returned.inj h).symm, hs⟩
      | some n =>
          by_cases hint : (g.interruptBefore n && !resumed) = true
          · simp only [loop, hs, hint, if_true]
            exact ⟨c, rfl, hc, fun _ h => nomatch h⟩
          · cases hn : g.node n c.values with
            | error exc =>
                simp only [loop, hs, hint, hn, if_false, Bool.false_eq_true]
                exact ⟨c, rfl, hc, fun _ h => nomatch h⟩
            | ok update =>
                simp only [loop, hs, hint, hn, if_false, Bool.false_eq_true]
                exact ih false (hstep c n update hc hs hn)

/-- The rule for `invoke`: an invariant that every node keeps, and that holds where the run
starts, holds of the checkpoint it leaves; and a returned state is the state of a checkpoint
with nothing scheduled. -/
theorem invoke_invariant {I : Checkpoint ν σ → Prop} (rt : Runtime)
    {thread : Option (Checkpoint ν σ)} {input : Option σ}
    (hstep : ∀ c n update, I c → g.scheduled c = some n → g.node n c.values = .ok update →
      I { values := g.merge c.values update, last := some n })
    (hthread : input = none → ∀ c, thread = some c → I c)
    (hinput : ∀ u, input = some u → I { values := g.merge (g.valuesOf thread) u, last := none }) :
    (∀ c, (g.invoke rt thread input).thread = some c → I c) ∧
      ∀ values, (g.invoke rt thread input).outcome = .returned values →
        ∃ c, (g.invoke rt thread input).thread = some c ∧ c.values = values ∧
          g.scheduled c = none := by
  have hloop : ∀ resumed (c : Checkpoint ν σ), I c →
      (∀ c', (g.loop recursionLimit resumed c).thread = some c' → I c') ∧
        ∀ values, (g.loop recursionLimit resumed c).outcome = .returned values →
          ∃ c', (g.loop recursionLimit resumed c).thread = some c' ∧ c'.values = values ∧
            g.scheduled c' = none := by
    intro resumed c hc
    rcases loop_invariant hstep recursionLimit resumed hc with ⟨c', hthread', hc', hreturned⟩
    constructor
    · intro c'' h
      rwa [← Option.some.inj (hthread'.symm.trans h)]
    · intro values h
      exact ⟨c', hthread', (hreturned values h).1.symm, (hreturned values h).2⟩
  cases input with
  | some u => exact hloop false _ (hinput u rfl)
  | none =>
      cases thread with
      | none =>
          constructor
          · intro c h
            exact nomatch h
          · intro values h
            cases hi : rt.idle <;> simp [invoke, idle, hi] at h
      | some c =>
          have hc := hthread rfl c rfl
          by_cases hnone : (g.scheduled c).isNone
          · simp only [invoke, hnone, if_true]
            constructor
            · intro c' h
              rwa [← Option.some.inj h]
            · intro values h
              refine ⟨c, rfl, ?_, Option.isNone_iff_eq_none.mp hnone⟩
              cases hi : rt.idle <;> simp [idle, hi] at h
              exact h
          · simp only [invoke, hnone]
            exact hloop true c hc

/-- A returned state is the state of the checkpoint that is left. -/
theorem invoke_returned {rt : Runtime} {thread : Option (Checkpoint ν σ)} {input : Option σ}
    {values : σ} (h : (g.invoke rt thread input).outcome = .returned values) :
    ∃ c, (g.invoke rt thread input).thread = some c ∧ c.values = values := by
  have hrule := invoke_invariant (g := g) (I := fun _ => True) rt (fun _ _ _ _ _ _ => trivial)
    (fun _ (c : Checkpoint ν σ) (_ : thread = some c) => trivial)
    (fun u (_ : input = some u) => trivial)
  rcases hrule.2 values h with ⟨c, hthread, hvalues, -⟩
  exact ⟨c, hthread, hvalues⟩

end StateGraph

end Intraday.Lib
