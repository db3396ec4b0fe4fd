import Mathlib.Data.Finset.Basic
import Intraday.Lib.Redis

/-!
# Intraday.Lib.Keyspace — a Redis database with keys of any type

`Db` is a whole database: any key may be missing or hold a value of any type. A command that a
script calls is a function on the cell of its key, with every way in which it fails: a value of
the wrong type, a counter or an increment that is no 64-bit integer, a sum that does not fit.

A command that fails writes nothing (`onKey_error`). A script is a sequence of commands: it
stops at the first that fails (`run_bind_error`), and what the ones before it wrote stays.
-/

namespace Intraday.Lib.Keyspace

open Intraday.Lib.Redis

/-! ## Values -/

/-- A string value: the decimal text of an integer as Redis prints it, or any other text with
the number that Lua's `tonumber` reads off it. -/
inductive Str where
  | int (n : ℤ)
  | text (raw : String) (number : Option ℚ)
deriving DecidableEq, Repr

/-- Lua `tonumber`. -/
def Str.tonumber : Str → Option ℚ
  | .int n => some n
  | .text _ number => number

/-- A value of the database; `other` is a list, a sorted set or a stream. -/
inductive Value where
  | string (s : Str)
  | hash (fields : String → Option String)
  | set (members : Finset String)
  | other

/-- The database. -/
abbrev Db := String → Option Value

/-- The least signed 64-bit integer. -/
def least : ℤ := -9223372036854775808

/-- A signed 64-bit integer. -/
def Fits (n : ℤ) : Prop := least ≤ n ∧ n < -least

instance (n : ℤ) : Decidable (Fits n) := inferInstanceAs (Decidable (_ ∧ _))

/-- The integer that `INCRBY` finds under a key: a missing key counts as `0`. -/
def counter : Option Value → Except ScriptError ℤ
  | none => .ok 0
  | some (.string (.int n)) => if Fits n then .ok n else .error .notAnInteger
  | some (.string (.text _ _)) => .error .notAnInteger
  | some _ => .error .wrongType

/-- A Lua number passed as the increment of `INCRBY`; `none` is `nil`. -/
def increment : Option ℚ → Except ScriptError ℤ
  | none => .error .nilArgument
  | some q => if q.den = 1 ∧ Fits q.num then .ok q.num else .error .notAnInteger

/-- The members of a set; a missing key is the empty set. -/
def members : Option Value → Except ScriptError (Finset String)
  | none => .ok ∅
  | some (.set m) => .ok m
  | some _ => .error .wrongType

/-- The fields of a hash; a missing key is the empty hash. -/
def fields : Option Value → Except ScriptError (String → Option String)
  | none => .ok fun _ => none
  | some (.hash f) => .ok f
  | some _ => .error .wrongType

/-! ## What a command makes of its cell -/

/-- A counter that holds `n`. -/
def holding (n : ℤ) : Option Value := some (.string (.int n))

/-- `n` plus `d`, if that fits. -/
def sum (n d : ℤ) : Except ScriptError (Option Value) :=
  if Fits (n + d) then .ok (holding (n + d)) else .error .overflow

/-- `INCRBY key d`. -/
def incrBy (d : Option ℚ) (cell : Option Value) : Except ScriptError (Option Value) := do
  let d ← increment d
  let n ← counter cell
  sum n d

/-- `DECRBY key d`; the least 64-bit integer has no negative. -/
def decrBy (d : Option ℚ) (cell : Option Value) : Except ScriptError (Option Value) := do
  let d ← increment d
  if d = least then .error .overflow
  else do
    let n ← counter cell
    sum n (-d)

/-- `DEL key`, whatever its type. -/
def del (_ : Option Value) : Except ScriptError (Option Value) := .ok none

/-- `SADD key x`. -/
def sadd (x : String) (cell : Option Value) : Except ScriptError (Option Value) := do
  let m ← members cell
  return some (.set (insert x m))

/-- `SREM key x`; a set that loses its last member is no key any more. -/
def srem (x : String) (cell : Option Value) : Except ScriptError (Option Value) := do
  let m ← members cell
  if x ∈ m then return if m.erase x = ∅ then none else some (.set (m.erase x))
  else return cell

/-- The fields of a hash after `HSET`. -/
def assign (pairs : List (String × String)) (f : String → Option String) :
    String → Option String :=
  pairs.foldl (fun f p => Function.update f p.1 (some p.2)) f

/-- `HSET key field value …`. -/
def hset (pairs : List (String × String)) (cell : Option Value) :
    Except ScriptError (Option Value) := do
  let f ← fields cell
  return some (.hash (assign pairs f))

/-- `INCRBY` succeeds on integers whose sum fits. -/
theorem incrBy_eq_ok_iff {d : Option ℚ} {cell c : Option Value} :
    incrBy d cell = .ok c ↔
      ∃ r n, increment d = .ok r ∧ counter cell = .ok n ∧ Fits (n + r) ∧ c = holding (n + r) := by
  rcases hd : increment d with e | r
  -- the increment is read first, then the counter, and their sum is tested last
  · simp [incrBy, hd, bind, Except.bind]
  · rcases hn : counter cell with e | n
    · simp [incrBy, hd, hn, bind, Except.bind]
    · by_cases hfits : Fits (n + r)
      · simp [incrBy, hd, hn, bind, Except.bind, sum, hfits, eq_comm]
      · simp [incrBy, hd, hn, bind, Except.bind, sum, hfits]

/-- `DECRBY` succeeds on integers whose difference fits. -/
theorem decrBy_eq_ok_iff {d : Option ℚ} {cell c : Option Value} :
    decrBy d cell = .ok c ↔
      ∃ r n, increment d = .ok r ∧ counter cell = .ok n ∧ r ≠ least ∧ Fits (n - r) ∧
        c = holding (n - r) := by
  rcases hd : increment d with e | r
  · simp [decrBy, hd, bind, Except.bind]
  · -- the least integer has no negation, so it is refused before the counter is read
    by_cases hmin : r = least
    · simp [decrBy, hd, hmin, bind, Except.bind]
    · rcases hn : counter cell with e | n
      · simp [decrBy, hd, hn, hmin, bind, Except.bind]
      · have hsub : n + -r = n - r := Int.sub_eq_add_neg.symm
        by_cases hfits : Fits (n - r)
        · simp [decrBy, hd, hn, hmin, bind, Except.bind, sum, hsub, hfits, eq_comm]
        · simp [decrBy, hd, hn, hmin, bind, Except.bind, sum, hsub, hfits]

/-- `SREM` takes `x` out of the set, and changes the cell exactly when `x` was in it. -/
theorem srem_ok {x : String} {cell : Option Value} {m : Finset String}
    (hm : members cell = .ok m) :
    ∃ c, srem x cell = .ok c ∧ members c = .ok (m.erase x) ∧ (c = cell ↔ x ∉ m) := by
  by_cases hx : x ∈ m
  · refine ⟨if m.erase x = ∅ then none else some (.set (m.erase x)), ?_, ?_, ?_⟩
    · simp [srem, hm, hx, bind, Except.bind, pure, Except.pure]
    · by_cases hempty : m.erase x = ∅
      · rw [if_pos hempty, hempty]
        rfl
      · rw [if_neg hempty]
        rfl
    · -- a set with a member is there, and it is not the set without that member
      refine iff_of_false ?_ (not_not_intro hx)
      intro heq
      rcases cell with _ | s | f | m' | _
      · cases hm
        exact absurd hx (Finset.notMem_empty x)
      · cases hm
      · cases hm
      · cases hm
        by_cases hempty : m.erase x = ∅
        · simp [hempty] at heq
        · simp [hempty, hx] at heq
      · cases hm
  · -- what is not a member cannot be taken away
    refine ⟨cell, ?_, ?_, iff_of_true rfl hx⟩
    · simp [srem, hm, hx, bind, Except.bind, pure, Except.pure]
    · rw [hm, Finset.erase_eq_of_notMem hx]

/-- What a deduction of `r` leaves of a counter is what was there only if `r` is `0`. -/
theorem holding_sub_eq_iff {cell : Option Value} {n r : ℤ} (hn : counter cell = .ok n) :
    holding (n - r) = cell ↔ r = 0 ∧ cell ≠ none := by
  rcases cell with _ | s | f | m | _
  · simp [holding]
  · rcases s with k | ⟨raw, number⟩
    · have hk : k = n := by
        simp only [counter] at hn
        by_cases hfits : Fits k
        · simpa [hfits] using hn
        · simp [hfits] at hn
      subst hk
      have hsub : k - r = k ↔ r = 0 := by omega
      simp [holding, hsub]
    · cases hn
  · cases hn
  · cases hn
  · cases hn

/-- An increment is an integer. -/
theorem eq_some_of_increment {d : Option ℚ} {r : ℤ} (h : increment d = .ok r) :
    d = some (r : ℚ) := by
  rcases d with _ | q
  · cases h
  · simp only [increment] at h
    by_cases hq : q.den = 1 ∧ Fits q.num
    · rw [if_pos hq] at h
      cases h
      rw [(Rat.den_eq_one_iff q).mp hq.1]
    · rw [if_neg hq] at h
      cases h

/-! ## Commands in a script -/

/-- `redis.call` of a command that writes: the new cell is stored, an error stops the script. -/
def onKey (key : String) (command : Option Value → Except ScriptError (Option Value)) :
    Script Db Unit := do
  match command ((← get) key) with
  | .ok cell => modify fun db => Function.update db key cell
  | .error e => throw e

/-- `GET key`. -/
def getStr (key : String) : Script Db (Option Str) := do
  match (← get) key with
  | none => return none
  | some (.string s) => return some s
  | some _ => throw .wrongType

section Runs

variable {α β : Type} {db db' : Db} {key : String}
  {command : Option Value → Except ScriptError (Option Value)}

theorem run_bind_error {x : Script Db α} {f : α → Script Db β} {e : ScriptError}
    (h : x.run db = .error e db') : (x >>= f).run db = .error e db' := by
  simp only [EStateM.run] at h ⊢
  simp only [bind, EStateM.bind, h]

theorem onKey_ok {cell : Option Value} (h : command (db key) = .ok cell) :
    (onKey key command).run db = .ok () (Function.update db key cell) := by
  simp only [onKey]
  rw [run_bind_ok (run_get db), h]
  rfl

/-- A command that fails leaves the database as it was. -/
theorem onKey_error {e : ScriptError} (h : command (db key) = .error e) :
    (onKey key command).run db = .error e db := by
  simp only [onKey]
  rw [run_bind_ok (run_get db), h]
  rfl

end Runs

end Intraday.Lib.Keyspace
