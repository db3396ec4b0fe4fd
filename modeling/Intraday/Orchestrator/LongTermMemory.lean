import Mathlib.Algebra.Field.Rat
import Intraday.Lib.Dict
import Intraday.Lib.Machine

/-!
# Intraday.Orchestrator.LongTermMemory — `LongTermMemory` of `shared/orchestrator/memory.py`

`store` writes an entry to a dictionary of the process and, as far as the database lets it, to a
table. The table then has the latest content of every key (`table_latest`), but `retrieve` reads
the dictionary only, and a new process begins with an empty one: what was stored before is there
and is not found (`retrieve_latest_iff`).

The activation scores are in `Orchestrator.Activation`.
-/

namespace Intraday.Orchestrator

open Intraday.Lib

/-! ## The memory -/

/-- `LongTermMemoryEntry`. -/
structure LongTermMemoryEntry where
  key : String
  content : String
  retrievedAtSeconds : List ℚ := []
deriving DecidableEq

/-- `record_retrieval`, at `nowS`. -/
def LongTermMemoryEntry.recordRetrieval (e : LongTermMemoryEntry) (nowS : ℚ) :
    LongTermMemoryEntry :=
  { e with retrievedAtSeconds := e.retrievedAtSeconds ++ [nowS] }

/-- A row of `orchestrator_long_term_memory`, whose key is its primary key. -/
structure Row where
  content : String
  updatedAt : ℚ
deriving DecidableEq

/-- The table. -/
abbrev Table := Dict String Row

/-- `LongTermMemory`: whether it has a connection, and its dictionary. -/
structure LongTermMemory where
  db : Bool
  memory : Dict String LongTermMemoryEntry

namespace LongTermMemory

/-- `LongTermMemory(db_conn)`. -/
def new (db : Bool) : LongTermMemory := { db := db, memory := .empty }

/-- `_persist`, at `nowS`: the row is inserted or updated, unless a call to the database raises. -/
def persist (committed : Bool) (nowS : ℚ) (table : Table) (key content : String) : Table :=
  if committed then table.set key { content := content, updatedAt := nowS } else table

/-- `store`. -/
def store (committed : Bool) (nowS : ℚ) (m : LongTermMemory) (table : Table)
    (key content : String) : LongTermMemory × Table :=
  let entry : LongTermMemoryEntry :=
    match m.memory.get? key with
    | some e => { e with content := content }
    | none => { key := key, content := content }
  ({ m with memory := m.memory.set key entry },
    if m.db then persist committed nowS table key content else table)

/-- `retrieve`. -/
def retrieve (nowS : ℚ) (m : LongTermMemory) (key : String) (recordAccess : Bool) :
    LongTermMemory × Option LongTermMemoryEntry :=
  match m.memory.get? key with
  | none => (m, none)
  | some e =>
      if recordAccess then
        ({ m with memory := m.memory.set key (e.recordRetrieval nowS) },
          some (e.recordRetrieval nowS))
      else (m, some e)

end LongTermMemory

/-! ## Processes over one database -/

/-- What happens: a call of `store`, with what its write does and the time, a new process, or a
call of `retrieve`. -/
inductive LongTermOp where
  | store (key content : String) (committed : Bool) (nowS : ℚ)
  | restart
  | retrieve (key : String) (recordAccess : Bool) (nowS : ℚ)
deriving DecidableEq

/-- The process and the table; the content that was last stored under each key, by whichever
process, and the keys that the running process has stored. -/
structure Processes where
  running : LongTermMemory
  table : Table
  latest : Dict String String
  own : List String

/-- The processes as a machine. A retrieval replies with the entry. -/
def processes : Machine Processes LongTermOp (Option LongTermMemoryEntry) where
  step x
    | .store key content committed nowS =>
        let out := x.running.store committed nowS x.table key content
        ({ running := out.1
           table := out.2
           latest := x.latest.set key content
           own := key :: x.own }, none)
    | .restart => ({ x with running := .new x.running.db, own := [] }, none)
    | .retrieve key recordAccess nowS =>
        let out := x.running.retrieve nowS key recordAccess
        ({ x with running := out.1 }, out.2)

/-- The first process, over an empty table. -/
def Processes.opening (db : Bool) : Processes where
  running := .new db
  table := .empty
  latest := .empty
  own := []

/-- A retrieval returns the content that was last stored. -/
def RetrievesLatest (t : Trans Processes LongTermOp (Option LongTermMemoryEntry)) : Prop :=
  ∀ key recordAccess nowS, t.op = .retrieve key recordAccess nowS →
    t.reply.map (·.content) = t.pre.latest.get? key

/-- A retrieval is of a key that the running process has stored, or that was never stored. -/
def OwnOrNever (x : Processes) : LongTermOp → Prop
  | .retrieve key _ _ => key ∈ x.own ∨ x.latest.get? key = none
  | _ => True

instance (x : Processes) (op : LongTermOp) : Decidable (OwnOrNever x op) :=
  match op with
  | .retrieve _ _ _ => inferInstanceAs (Decidable (_ ∨ _))
  | .store _ _ _ _ | .restart => .isTrue trivial

/-- The dictionary of the process has the keys that it has stored, with their latest contents. -/
def Processes.Inv (x : Processes) : Prop :=
  ∀ key, (x.running.memory.get? key).map (·.content) =
    if key ∈ x.own then x.latest.get? key else none

theorem Processes.Inv.opening (db : Bool) : (Processes.opening db).Inv := fun _ => rfl

/-- What `store` does to the dictionary, as far as contents go. -/
theorem store_contents (committed : Bool) (nowS : ℚ) (m : LongTermMemory) (table : Table)
    (key content key' : String) :
    ((m.store committed nowS table key content).1.memory.get? key').map (·.content) =
      if key' = key then some content else (m.memory.get? key').map (·.content) := by
  by_cases hkey : key' = key
  · subst hkey
    simp only [LongTermMemory.store, Dict.get?_set_self, if_true]
    cases m.memory.get? key' with
    | none => rfl
    | some e => rfl
  · simp only [LongTermMemory.store, Dict.get?_set_of_ne _ _ hkey, if_neg hkey]

/-- A retrieval leaves the contents alone, and returns that of its key. -/
theorem retrieve_contents (nowS : ℚ) (m : LongTermMemory) (key : String) (recordAccess : Bool) :
    (∀ key', ((m.retrieve nowS key recordAccess).1.memory.get? key').map (·.content) =
        (m.memory.get? key').map (·.content)) ∧
      (m.retrieve nowS key recordAccess).2.map (·.content) =
        (m.memory.get? key).map (·.content) := by
  rw [LongTermMemory.retrieve]
  cases hfound : m.memory.get? key with
  | none => exact ⟨fun _ => rfl, rfl⟩
  | some e =>
      cases recordAccess with
      | false => exact ⟨fun _ => rfl, rfl⟩
      | true =>
          refine ⟨?_, rfl⟩
          intro key'
          by_cases hkey : key' = key
          · subst hkey
            simp only [if_true, Dict.get?_set_self, hfound]
            rfl
          · simp only [if_true, Dict.get?_set_of_ne _ _ hkey]

theorem Processes.Inv.next {x : Processes} (h : x.Inv) (op : LongTermOp) :
    (processes.next x op).Inv := by
  cases op with
  | store key content committed nowS =>
      intro key'
      show ((x.running.store committed nowS x.table key content).1.memory.get? key').map
        (·.content) = if key' ∈ key :: x.own then (x.latest.set key content).get? key' else none
      rw [store_contents]
      by_cases hkey : key' = key
      · subst hkey
        simp
      · rw [if_neg hkey, h key', Dict.get?_set_of_ne _ _ hkey]
        simp [hkey]
  -- the new dictionary is empty, and so is what the new process has stored
  | restart => exact fun _ => rfl
  | retrieve key recordAccess nowS =>
      intro key'
      exact ((retrieve_contents nowS x.running key recordAccess).1 key').trans (h key')

theorem retrievesLatest_fire_iff {x : Processes} (h : x.Inv) (op : LongTermOp) :
    RetrievesLatest (processes.fire x op) ↔ OwnOrNever x op := by
  cases op with
  | store key content committed nowS => exact iff_of_true (fun _ _ _ hop => nomatch hop) trivial
  | restart => exact iff_of_true (fun _ _ _ hop => nomatch hop) trivial
  | retrieve key recordAccess nowS =>
      have hreply : (processes.fire x (.retrieve key recordAccess nowS)).reply.map (·.content) =
          if key ∈ x.own then x.latest.get? key else none :=
        (retrieve_contents nowS x.running key recordAccess).2.trans (h key)
      have hlatest : RetrievesLatest (processes.fire x (.retrieve key recordAccess nowS)) ↔
          (if key ∈ x.own then x.latest.get? key else none) = x.latest.get? key := by
        rw [← hreply]
        constructor
        · intro hall
          exact hall key recordAccess nowS rfl
        · intro heq key' recordAccess' nowS' hop
          cases hop
          exact heq
      -- a key of another process is not found, which is right only if it was never stored
      rw [hlatest, OwnOrNever]
      by_cases hown : key ∈ x.own
      · simp [hown]
      · simp [hown, eq_comm]

/-- In every history, each retrieval returns the content that was last stored exactly if each is of
a key that its own process has stored, or that was never stored. -/
theorem retrieve_latest_iff (db : Bool) (ops : List LongTermOp) :
    (∀ t ∈ processes.trans (.opening db) ops, RetrievesLatest t) ↔
      ∀ t ∈ processes.trans (.opening db) ops, OwnOrNever t.pre t.op :=
  processes.trans_forall_fire_iff (fun _ op h => h.next op)
    (fun _ op h => retrievesLatest_fire_iff h op) (.opening db) ops

/-- A write to the database succeeds. -/
def Commits : LongTermOp → Prop
  | .store _ _ committed _ => committed = true
  | _ => True

/-- A setup is stored, and the process is restarted before it is retrieved. -/
theorem stored_before_restart_is_not_found :
    ¬ ∀ ops : List LongTermOp, (∀ op ∈ ops, Commits op) →
      ∀ t ∈ processes.trans (.opening true) ops, RetrievesLatest t := by
  intro h
  have hrun := h [.store "setup" "long INFY" true 0, .restart, .retrieve "setup" true 1]
    (by simp [Commits])
  simp only [Machine.trans_cons, List.forall_mem_cons] at hrun
  exact absurd (hrun.2.2.1 "setup" true 1 rfl) (by decide +kernel)

/-! ## What the table has -/

/-- There is a connection, and the table has the latest content of every key. -/
structure Processes.Saved (x : Processes) : Prop where
  connected : x.running.db = true
  rows : ∀ key, (x.table.get? key).map (·.content) = x.latest.get? key

theorem Processes.Saved.next {x : Processes} (h : x.Saved) {op : LongTermOp} (hop : Commits op) :
    (processes.next x op).Saved := by
  cases op with
  | restart => exact { connected := h.connected, rows := h.rows }
  | retrieve key recordAccess nowS =>
      refine { connected := ?_, rows := h.rows }
      show (x.running.retrieve nowS key recordAccess).1.db = true
      rw [LongTermMemory.retrieve]
      cases x.running.memory.get? key with
      | none => exact h.connected
      | some e => cases recordAccess <;> exact h.connected
  | store key content committed nowS =>
      refine { connected := h.connected, rows := ?_ }
      intro key'
      have hcommitted : committed = true := hop
      show (Dict.get? (if x.running.db then
        LongTermMemory.persist committed nowS x.table key content else x.table) key').map
          (·.content) = (x.latest.set key content).get? key'
      rw [if_pos h.connected, LongTermMemory.persist, if_pos hcommitted]
      by_cases hkey : key' = key
      · subst hkey
        simp
      · rw [Dict.get?_set_of_ne _ _ hkey, Dict.get?_set_of_ne _ _ hkey]
        exact h.rows key'

/-- With a connection and writes that succeed, the table has the latest content of every key. -/
theorem table_latest {ops : List LongTermOp} (hops : ∀ op ∈ ops, Commits op) (key : String) :
    ((processes.run (.opening true) ops).table.get? key).map (·.content) =
      (processes.run (.opening true) ops).latest.get? key := by
  have hrun : ∀ x : Processes, x.Saved → (processes.run x ops).Saved := by
    induction ops with
    | nil => exact fun _ h => h
    | cons op ops ih =>
        intro x h
        rw [List.forall_mem_cons] at hops
        exact ih hops.2 _ (h.next hops.1)
  exact (hrun _ { connected := rfl, rows := fun _ => rfl }).rows key

end Intraday.Orchestrator
