import Mathlib.Data.List.Induction
import Mathlib.Data.List.TakeWhile
import Intraday.Lib.Machine

/-!
# Intraday.Lib.Transaction — a database connection that nobody rolls back

A connection opens a transaction with its first statement and keeps it until a commit. A statement
whose arguments cannot be quoted is never sent, and leaves the transaction as it is. One that the
server rejects aborts it, and from then on the server rejects every statement until a rollback.

A caller may write statements, commit after the last one, and never roll back. A write that ends
early then leaves what it has sent in the transaction, where later statements see it (`sees_run`)
and the next commit makes it durable (`committed_run`).
-/

namespace Intraday.Lib

/-- What a statement raises. -/
inductive SqlError where
  /-- the arguments cannot be quoted -/
  | valueError
  /-- the server rejects the statement -/
  | databaseError
  /-- the transaction was aborted before -/
  | inFailedSqlTransaction
deriving DecidableEq

/-- A statement that writes; it has no effect if the server rejects it. -/
structure Statement (σ : Type) where
  quotable : Bool
  effect : σ → Option σ

/-- The transaction of a connection. -/
inductive Transaction (σ : Type) where
  | idle
  | active (work : σ)
  | failed

/-- A connection: what is durable, and its transaction. -/
structure Connection (σ : Type) where
  committed : σ
  transaction : Transaction σ

namespace Connection

variable {σ α : Type}

/-- A new connection. -/
def connect (s : σ) : Connection σ := { committed := s, transaction := .idle }

/-- What a statement finds; nothing in an aborted transaction. -/
def sees (c : Connection σ) : Option σ :=
  match c.transaction with
  | .idle => some c.committed
  | .active work => some work
  | .failed => none

/-- `execute` of a statement that writes. -/
def execute (c : Connection σ) (stmt : Statement σ) : Connection σ × Except SqlError Unit :=
  if stmt.quotable then
    match c.sees with
    | none => (c, .error .inFailedSqlTransaction)
    | some s =>
        match stmt.effect s with
        | none => ({ c with transaction := .failed }, .error .databaseError)
        | some s' => ({ c with transaction := .active s' }, .ok ())
  else (c, .error .valueError)

/-- `execute` of a query. -/
def query (c : Connection σ) (quotable : Bool) (f : σ → α) : Connection σ × Except SqlError α :=
  if quotable then
    match c.sees with
    | none => (c, .error .inFailedSqlTransaction)
    | some s => ({ c with transaction := .active s }, .ok (f s))
  else (c, .error .valueError)

/-- Statements one after the other, up to the first that raises. -/
def executeAll (c : Connection σ) : List (Statement σ) → Connection σ × Except SqlError Unit
  | [] => (c, .ok ())
  | stmt :: stmts =>
      match c.execute stmt with
      | (c, .ok ()) => c.executeAll stmts
      | (c, .error e) => (c, .error e)

/-- `commit`; of an aborted transaction it is a rollback. -/
def commit (c : Connection σ) : Connection σ :=
  { committed := c.sees.getD c.committed, transaction := .idle }

/-- Statements, and a commit if none of them raises. -/
def write (c : Connection σ) (stmts : List (Statement σ)) : Connection σ × Except SqlError Unit :=
  match c.executeAll stmts with
  | (c, .ok ()) => (c.commit, .ok ())
  | (c, .error e) => (c, .error e)

/-! ## Statements -/

/-- The statements that are sent: those before the first that cannot be quoted. -/
def sent (stmts : List (Statement σ)) : List (Statement σ) :=
  stmts.takeWhile Statement.quotable

/-- The effect of statements one after the other. -/
def effects (stmts : List (Statement σ)) (s : σ) : Option σ :=
  stmts.foldlM (fun s stmt => stmt.effect s) s

theorem effects_append (stmts stmts' : List (Statement σ)) (s : σ) :
    effects (stmts ++ stmts') s = (effects stmts s).bind (effects stmts') := by
  rw [effects, List.foldlM_append]
  rfl

theorem effects_cons (stmt : Statement σ) (stmts : List (Statement σ)) (s : σ) :
    effects (stmt :: stmts) s = (stmt.effect s).bind (effects stmts) := by
  rw [effects, List.foldlM_cons]
  rfl

theorem bind_effects_nil (o : Option σ) : o.bind (effects []) = o := by
  cases o <;> rfl

theorem sees_execute (c : Connection σ) {stmt : Statement σ} (h : stmt.quotable = true) :
    (c.execute stmt).1.sees = c.sees.bind stmt.effect := by
  rw [execute, if_pos h]
  cases hsees : c.sees with
  | none => exact hsees
  | some s =>
      rw [Option.bind_some]
      cases heffect : stmt.effect s with
      | none => simp only [heffect, sees]
      | some s' => simp only [heffect, sees]

theorem execute_ok_iff (c : Connection σ) {stmt : Statement σ} (h : stmt.quotable = true) :
    (c.execute stmt).2 = .ok () ↔ (c.execute stmt).1.sees.isSome = true := by
  rw [sees_execute c h, execute, if_pos h]
  cases c.sees with
  | none => simp
  | some s =>
      rw [Option.bind_some]
      cases heffect : stmt.effect s with
      | none => simp [heffect]
      | some s' => simp [heffect]

theorem committed_execute (c : Connection σ) (stmt : Statement σ) :
    (c.execute stmt).1.committed = c.committed := by
  rw [execute]
  split
  · split
    · rfl
    · split <;> rfl
  · rfl

/-- After a first statement that was sent the others go on, or the transaction is aborted. -/
theorem executeAll_cons (c : Connection σ) {stmt : Statement σ} (h : stmt.quotable = true)
    (stmts : List (Statement σ)) :
    c.executeAll (stmt :: stmts) =
      if (c.execute stmt).1.sees.isSome then (c.execute stmt).1.executeAll stmts
      else ((c.execute stmt).1, (c.execute stmt).2) := by
  have hok := execute_ok_iff c h
  rw [executeAll]
  generalize c.execute stmt = r at hok
  rcases r with ⟨c', reply⟩
  cases reply with
  | ok u => rw [if_pos (hok.mp rfl)]
  | error e => rw [if_neg fun hsome => nomatch hok.mpr hsome]

/-- Later statements see what was sent before, unless the server rejected any of it. -/
theorem sees_executeAll (c : Connection σ) (stmts : List (Statement σ)) :
    (c.executeAll stmts).1.sees = c.sees.bind (effects (sent stmts)) := by
  induction stmts generalizing c with
  | nil => exact (bind_effects_nil c.sees).symm
  | cons stmt stmts ih =>
      by_cases h : stmt.quotable = true
      · have hsent : sent (stmt :: stmts) = stmt :: sent stmts := List.takeWhile_cons_of_pos h
        have heffects : effects (sent (stmt :: stmts)) =
            fun s => (stmt.effect s).bind (effects (sent stmts)) := by
          funext s
          rw [hsent, effects_cons]
        rw [executeAll_cons c h, heffects, ← Option.bind_assoc, ← sees_execute c h]
        cases hsees : (c.execute stmt).1.sees with
        | none => exact hsees
        | some s =>
            rw [Option.isSome_some, if_pos rfl, ih, hsees]
      · have hsent : sent (stmt :: stmts) = [] := List.takeWhile_cons_of_neg h
        have hall : c.executeAll (stmt :: stmts) = (c, .error .valueError) := by
          simp only [executeAll, execute, h, Bool.false_eq_true, if_false]
        rw [hall, hsent]
        exact (bind_effects_nil c.sees).symm

/-- Statements return if all are sent and the server takes them. -/
theorem executeAll_ok_iff (c : Connection σ) {stmts : List (Statement σ)} (hne : stmts ≠ []) :
    (c.executeAll stmts).2 = .ok () ↔
      (∀ stmt ∈ stmts, stmt.quotable = true) ∧ (c.executeAll stmts).1.sees.isSome = true := by
  induction stmts generalizing c with
  | nil => exact absurd rfl hne
  | cons stmt stmts ih =>
      rw [List.forall_mem_cons]
      by_cases h : stmt.quotable = true
      · rw [executeAll_cons c h, and_iff_right h]
        cases hsome : (c.execute stmt).1.sees.isSome with
        | false =>
            have herror : ¬ (c.execute stmt).2 = .ok () := by
              rw [execute_ok_iff c h, hsome]
              exact Bool.false_ne_true
            rw [if_neg Bool.false_ne_true]
            simp [herror, hsome]
        | true =>
            rw [if_pos rfl]
            cases stmts with
            | nil => simp [executeAll, hsome]
            | cons stmt' stmts => exact ih _ (List.cons_ne_nil _ _)
      · have hall : c.executeAll (stmt :: stmts) = (c, .error .valueError) := by
          simp only [executeAll, execute, h, Bool.false_eq_true, if_false]
        rw [hall]
        simp [h]

theorem committed_executeAll (c : Connection σ) (stmts : List (Statement σ)) :
    (c.executeAll stmts).1.committed = c.committed := by
  induction stmts generalizing c with
  | nil => rfl
  | cons stmt stmts ih =>
      have hfirst := committed_execute c stmt
      rw [executeAll]
      generalize c.execute stmt = r at hfirst
      rcases r with ⟨c', reply⟩
      cases reply with
      | ok u => exact (ih c').trans hfirst
      | error e => exact hfirst

/-! ## Writes -/

theorem write_ok_iff (c : Connection σ) {stmts : List (Statement σ)} (hne : stmts ≠ []) :
    (c.write stmts).2 = .ok () ↔
      (∀ stmt ∈ stmts, stmt.quotable = true) ∧
        (c.sees.bind (effects (sent stmts))).isSome = true := by
  rw [← sees_executeAll, ← executeAll_ok_iff c hne, write]
  generalize c.executeAll stmts = r
  rcases r with ⟨c', reply⟩
  cases reply <;> simp

/-- A write that returns has made durable what later statements see. -/
theorem committed_write_of_ok {c : Connection σ} {stmts : List (Statement σ)} (hne : stmts ≠ [])
    (h : (c.write stmts).2 = .ok ()) :
    some (c.write stmts).1.committed = (c.write stmts).1.sees ∧
      (c.write stmts).1.sees = c.sees.bind (effects (sent stmts)) := by
  have hsome := ((write_ok_iff c hne).mp h).2
  have hsees := sees_executeAll c stmts
  rw [← hsees] at hsome ⊢
  rw [write] at h ⊢
  generalize c.executeAll stmts = r at h hsome
  rcases r with ⟨c', reply⟩
  cases reply with
  | error e => cases h
  | ok u =>
      rcases Option.isSome_iff_exists.mp hsome with ⟨s, hs⟩
      have hs : c'.sees = some s := hs
      have hcommit : c'.commit.committed = s := by
        simp only [commit, hs, Option.getD_some]
      exact ⟨rfl, (congrArg some hcommit).trans hs.symm⟩

/-- A write that raises has made nothing durable. -/
theorem committed_write_of_error {c : Connection σ} {stmts : List (Statement σ)}
    (h : (c.write stmts).2 ≠ .ok ()) :
    (c.write stmts).1.committed = c.committed ∧
      (c.write stmts).1.sees = c.sees.bind (effects (sent stmts)) := by
  have hsees := sees_executeAll c stmts
  have hcommitted := committed_executeAll c stmts
  rw [write] at h ⊢
  generalize c.executeAll stmts = r at h hsees hcommitted
  rcases r with ⟨c', reply⟩
  cases reply with
  | ok u => exact absurd rfl h
  | error e => exact ⟨hcommitted, hsees⟩

/-- On a new connection, statements that can all be quoted and that the server takes are durable, and
the connection is as new. -/
theorem write_connect {s s' : σ} {stmts : List (Statement σ)} (hne : stmts ≠ [])
    (hquotable : ∀ stmt ∈ stmts, stmt.quotable = true) (h : effects stmts s = some s') :
    (connect s).write stmts = (connect s', .ok ()) := by
  have hsent : sent stmts = stmts := List.takeWhile_eq_self_iff.mpr hquotable
  have hsees := sees_executeAll (connect s) stmts
  have hok := executeAll_ok_iff (connect s) hne
  rw [hsent, show (connect s).sees = some s from rfl, Option.bind_some, h] at hsees
  rw [hsees] at hok
  have hreply := hok.mpr ⟨hquotable, rfl⟩
  rw [write]
  generalize (connect s).executeAll stmts = r at hsees hreply
  rcases r with ⟨c, reply⟩
  obtain rfl : reply = .ok () := hreply
  have hcommit : c.commit = connect s' := by
    rw [commit, show c.sees = some s' from hsees]
    rfl
  simp only [hcommit]

/-- Otherwise the write raises, and nothing is durable. -/
theorem write_connect_error {s : σ} {stmts : List (Statement σ)} (hne : stmts ≠ [])
    (h : ¬ ((∀ stmt ∈ stmts, stmt.quotable = true) ∧ (effects stmts s).isSome = true)) :
    (∃ e, ((connect s).write stmts).2 = .error e) ∧ ((connect s).write stmts).1.committed = s := by
  have hraises : ((connect s).write stmts).2 ≠ .ok () := by
    intro hok
    rcases (write_ok_iff (connect s) hne).mp hok with ⟨hquotable, hsome⟩
    have hsent : sent stmts = stmts := List.takeWhile_eq_self_iff.mpr hquotable
    rw [hsent] at hsome
    exact h ⟨hquotable, hsome⟩
  refine ⟨?_, (committed_write_of_error hraises).1⟩
  cases hreply : ((connect s).write stmts).2 with
  | ok u => exact absurd hreply hraises
  | error e => exact ⟨e, rfl⟩

/-- A query sees what was sent before, and changes neither that nor what is durable. -/
theorem query_eq (c : Connection σ) (quotable : Bool) (f : σ → α) :
    (c.query quotable f).1.sees = c.sees ∧ (c.query quotable f).1.committed = c.committed ∧
      (c.query quotable f).2 =
        if quotable then (c.sees.map f).elim (.error .inFailedSqlTransaction) .ok
        else .error .valueError := by
  rw [query]
  cases quotable with
  | false => exact ⟨rfl, rfl, rfl⟩
  | true =>
      cases hsees : c.sees with
      | none => exact ⟨hsees, rfl, rfl⟩
      | some s => exact ⟨rfl, rfl, rfl⟩

/-! ## Runs -/

section Runs

variable {ι ο : Type} {M : Machine (Connection σ) ι ο}

/-- If each call adds what it sends, a run adds all that its calls send. -/
theorem sees_run {sentBy : ι → List (Statement σ)}
    (hstep : ∀ c i, (M.next c i).sees = c.sees.bind (effects (sentBy i))) (c : Connection σ)
    (is : List ι) : (M.run c is).sees = c.sees.bind (effects (is.flatMap sentBy)) := by
  induction is generalizing c with
  | nil => exact (bind_effects_nil c.sees).symm
  | cons i is ih =>
      have heffects : effects ((i :: is).flatMap sentBy) =
          fun s => (effects (sentBy i) s).bind (effects (is.flatMap sentBy)) := by
        funext s
        rw [List.flatMap_cons, effects_append]
      rw [Machine.run, ih, hstep, heffects, Option.bind_assoc]

/-- What a run leaves durable is what was seen after the last call that committed. -/
theorem committed_run {commits : Trans (Connection σ) ι ο → Prop}
    (hstep : ∀ c i, (commits (M.fire c i) ∧ some (M.next c i).committed = (M.next c i).sees) ∨
      ¬ commits (M.fire c i) ∧ (M.next c i).committed = c.committed)
    (c : Connection σ) (is : List ι) :
    ∃ before after, is = before ++ after ∧
      (∀ t ∈ M.trans (M.run c before) after, ¬ commits t) ∧
      ((before = [] ∧ (M.run c is).committed = c.committed) ∨
        (∃ t, (M.trans c before).getLast? = some t ∧ commits t) ∧
          some (M.run c is).committed = (M.run c before).sees) := by
  induction is using List.reverseRecOn with
  | nil => exact ⟨[], [], rfl, fun t ht => absurd ht List.not_mem_nil, .inl ⟨rfl, rfl⟩⟩
  | append_singleton is i ih =>
      have hrun : M.run c (is ++ [i]) = M.next (M.run c is) i := M.run_append c is [i]
      have htrans : M.trans c (is ++ [i]) = M.trans c is ++ [M.fire (M.run c is) i] :=
        M.trans_append c is [i]
      rcases hstep (M.run c is) i with ⟨hcommits, hdurable⟩ | ⟨hnot, hkept⟩
      · refine ⟨is ++ [i], [], (List.append_nil _).symm, fun t ht => absurd ht List.not_mem_nil,
          .inr ⟨⟨_, ?_, hcommits⟩, ?_⟩⟩
        · rw [htrans, List.getLast?_concat]
        · rw [hrun]
          exact hdurable
      · rcases ih with ⟨before, after, rfl, hafter, hcases⟩
        refine ⟨before, after ++ [i], List.append_assoc _ _ _, ?_, ?_⟩
        · intro t ht
          rw [M.trans_append, List.mem_append, ← M.run_append] at ht
          rcases ht with ht | ht
          · exact hafter t ht
          · rw [List.mem_singleton.mp ht]
            exact hnot
        · rw [hrun, hkept]
          exact hcases

end Runs

end Connection

end Intraday.Lib
