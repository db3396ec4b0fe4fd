import Mathlib.Data.List.Basic

/-!
# Intraday.Lib.Proc — programs that call out

Code that talks to the outside (a broker, a Redis client, the clock) is a `Proc`:
it returns, or makes a call and goes on with the answer. One such program has
several readings, all used by the components:

* `Exec p tr a`: with *some* environment, `p` makes the calls of `tr`, receives
  the answers of `tr` and returns `a`. Quantifying over `tr` is quantifying over
  every environment, failures included;
* `p.OnlyCalls P`: in no environment does `p` make a call outside `P`;
* `p.advance env`: one call of `p`, answered by `env`, for runs in which others act
  between two calls of `p`;
* `p.eval env` and `p.calls env`: what `p` returns and the calls it makes when `env`
  answers all of them;
* `p.serve answer s`: `p` run against an environment with a state of its own, which every
  answer may change. It is an execution (`exec_serve`).
-/

namespace Intraday.Lib

/-- A program that makes calls `ε`, answered in `ρ`, and returns an `α`. -/
inductive Proc (ε : Type) (ρ : ε → Type) (α : Type) where
  | ret (a : α)
  | call (e : ε) (k : ρ e → Proc ε ρ α)

namespace Proc

variable {ε : Type} {ρ : ε → Type} {α : Type}

/-! ## Executions in an arbitrary environment -/

/-- A call with its answer. -/
abbrev Event (ε : Type) (ρ : ε → Type) := (e : ε) × ρ e

/-- `p` may make the calls of the trace, with its answers, and return. -/
inductive Exec : Proc ε ρ α → List (Event ε ρ) → α → Prop where
  | ret (a : α) : Exec (.ret a) [] a
  | call {e : ε} {k : ρ e → Proc ε ρ α} {r : ρ e} {tr : List (Event ε ρ)} {a : α} :
      Exec (k r) tr a → Exec (.call e k) (⟨e, r⟩ :: tr) a

@[simp] theorem exec_ret_iff {a b : α} {tr : List (Event ε ρ)} :
    Exec (.ret a) tr b ↔ tr = [] ∧ b = a := by
  constructor
  · rintro ⟨⟩
    exact ⟨rfl, rfl⟩
  · rintro ⟨rfl, rfl⟩
    exact .ret _

theorem exec_call_iff {e : ε} {k : ρ e → Proc ε ρ α} {tr : List (Event ε ρ)} {a : α} :
    Exec (.call e k) tr a ↔ ∃ r tr', tr = ⟨e, r⟩ :: tr' ∧ Exec (k r) tr' a := by
  constructor
  · intro h
    cases h with
    | call h' => exact ⟨_, _, rfl, h'⟩
  · rintro ⟨r, tr', rfl, h⟩
    exact .call h

/-! ## The calls a program can make -/

/-- Every call `p` can make satisfies `P`. -/
def OnlyCalls (P : ε → Prop) : Proc ε ρ α → Prop
  | .ret _ => True
  | .call e k => P e ∧ ∀ r, OnlyCalls P (k r)

theorem OnlyCalls.mono {P Q : ε → Prop} {p : Proc ε ρ α} (hp : p.OnlyCalls P)
    (h : ∀ e, P e → Q e) : p.OnlyCalls Q := by
  induction p with
  | ret a => trivial
  | call e k ih => exact ⟨h e hp.1, fun r => ih r (hp.2 r)⟩

/-- The calls of an execution are among the calls the program can make. -/
theorem OnlyCalls.of_mem {P : ε → Prop} {p : Proc ε ρ α} {tr : List (Event ε ρ)} {a : α}
    (hp : p.OnlyCalls P) (h : Exec p tr a) : ∀ ev ∈ tr, P ev.1 := by
  induction h with
  | ret a => simp
  | call _ ih =>
      intro ev hev
      rcases List.mem_cons.mp hev with rfl | hev
      · exact hp.1
      · exact ih (hp.2 _) ev hev

/-! ## One call at a time -/

/-- The program after its next call, answered by `env`. -/
def advance (env : (e : ε) → ρ e) : Proc ε ρ α → Proc ε ρ α
  | .ret a => .ret a
  | .call e k => k (env e)

theorem OnlyCalls.advance {P : ε → Prop} {p : Proc ε ρ α} (env : (e : ε) → ρ e)
    (hp : p.OnlyCalls P) : (p.advance env).OnlyCalls P := by
  cases p with
  | ret a => exact hp
  | call e k => exact hp.2 _

/-- The call a program makes next. -/
def nextCall : Proc ε ρ α → Option ε
  | .ret _ => none
  | .call e _ => some e

theorem OnlyCalls.nextCall {P : ε → Prop} {p : Proc ε ρ α} {e : ε} (hp : p.OnlyCalls P)
    (h : p.nextCall = some e) : P e := by
  cases p with
  | ret a => exact nomatch h
  | call e' k => exact Option.some.inj h ▸ hp.1

/-! ## In a fixed environment -/

/-- What `p` returns when `env` answers. -/
def eval (env : (e : ε) → ρ e) : Proc ε ρ α → α
  | .ret a => a
  | .call e k => eval env (k (env e))

/-- The calls `p` makes when `env` answers, in order. -/
def calls (env : (e : ε) → ρ e) : Proc ε ρ α → List ε
  | .ret _ => []
  | .call e k => e :: calls env (k (env e))

@[simp] theorem eval_ret (env : (e : ε) → ρ e) (a : α) : (ret a : Proc ε ρ α).eval env = a := rfl

@[simp] theorem eval_call (env : (e : ε) → ρ e) (e : ε) (k : ρ e → Proc ε ρ α) :
    (call e k).eval env = (k (env e)).eval env := rfl

@[simp] theorem calls_ret (env : (e : ε) → ρ e) (a : α) : (ret a : Proc ε ρ α).calls env = [] := rfl

@[simp] theorem calls_call (env : (e : ε) → ρ e) (e : ε) (k : ρ e → Proc ε ρ α) :
    (call e k).calls env = e :: (k (env e)).calls env := rfl

/-! ## In an environment with a state -/

variable {σ : Type}

/-- What is left of a run: the state of the environment, the calls with their answers, and what
was returned. -/
structure Served (σ : Type) (ε : Type) (ρ : ε → Type) (α : Type) where
  state : σ
  trace : List (Event ε ρ)
  result : α

/-- `p` run against `answer`, from the state `s`. -/
def serve (answer : σ → (e : ε) → σ × ρ e) : Proc ε ρ α → σ → Served σ ε ρ α
  | .ret a, s => { state := s, trace := [], result := a }
  | .call e k, s =>
      let rest := serve answer (k (answer s e).2) (answer s e).1
      { rest with trace := ⟨e, (answer s e).2⟩ :: rest.trace }

theorem exec_serve (answer : σ → (e : ε) → σ × ρ e) (p : Proc ε ρ α) (s : σ) :
    Exec p (p.serve answer s).trace (p.serve answer s).result := by
  induction p generalizing s with
  | ret a => exact .ret a
  | call e k ih => exact .call (ih (answer s e).2 (answer s e).1)

end Proc

end Intraday.Lib
