import Intraday.Lib.Keyspace
import Intraday.Lua.Margin

/-!
# Intraday.Lua.Failure — what a margin script that fails leaves behind

`position_close.lua` and `sl_linkage.lua` on any database and any argument. Redis runs a script
alone but takes nothing back when a command fails, so what remains after an error depends on
the order of the writes:

* `sl_linkage.lua` deducts first. A margin it cannot deduct stops it with nothing written; only
  a position key or an active set of another type stops it later;
* `position_close.lua` releases last. A margin that is no integer, or a counter that is none,
  stops it with the position gone and its margin still deducted.

`script_all_or_nothing_iff` says exactly when the keys are as before. On the keys that the
scripts themselves write, the scripts are those of `Lua.Margin` (`close_represents`,
`entry_represents`, `entry_rejected_represents`, `reserve_represents`). Over any run the replies are
the same exactly if every release leaves the counter a 64-bit integer (`replies_eq_iff`).
-/

namespace Intraday.Lua.Failure

open Intraday.Lib (Machine Trans)
open Intraday.Lib.Redis Intraday.Lib.Keyspace Intraday.Lua.Margin

/-! ## The scripts -/

/-- `'position:' .. symbol`. -/
def positionKey (symbol : String) : String := "position:" ++ symbol

def activeKey : String := "portfolio:active_positions"

def marginKey : String := "portfolio:margin:available"

/-- `position_close.lua`. -/
def positionClose (symbol : String) (marginArg : Str) : Script Db Reply := do
  let marginToRelease := marginArg.tonumber
  onKey (positionKey symbol) del
  onKey activeKey (srem symbol)
  onKey marginKey (incrBy marginToRelease)
  return { code := 1 }

/-- The fields that `sl_linkage.lua` writes. -/
def entryFields (orderId slPrice strategyId : String) : List (String × String) :=
  [("order_id", orderId), ("sl_price", slPrice), ("strategy_id", strategyId), ("status", "OPEN")]

/-- `sl_linkage.lua`. -/
def slLinkage (symbol orderId : String) (marginArg : Str) (slPrice strategyId : String) :
    Script Db Reply := do
  let marginRequired := marginArg.tonumber
  let stored ← getStr marginKey
  let availableMargin := (stored.getD (.int 0)).tonumber
  if ← luaLt availableMargin marginRequired then
    return { code := 0, text := some "INSUFFICIENT_MARGIN" }
  onKey marginKey (decrBy marginRequired)
  onKey (positionKey symbol) (hset (entryFields orderId slPrice strategyId))
  onKey activeKey (sadd symbol)
  return { code := 1, text := some "SUCCESS" }

/-- `margin_guard.lua`. -/
def marginGuard (requiredArg : Str) : Script Db Reply := do
  let required := requiredArg.tonumber
  let stored ← getStr marginKey
  let current := (stored.getD (.int 0)).tonumber
  if !(← luaLt current required) then
    onKey marginKey (decrBy required)
    return { code := 1 }
  return { code := 0 }

/-! ## The keys are distinct -/

variable {symbol : String}

theorem positionKey_ne_activeKey : positionKey symbol ≠ activeKey := by
  intro h
  have := congrArg String.toList h
  simp [positionKey, activeKey] at this

theorem positionKey_ne_marginKey : positionKey symbol ≠ marginKey := by
  intro h
  have := congrArg String.toList h
  simp [positionKey, marginKey] at this

theorem activeKey_ne_marginKey : activeKey ≠ marginKey := by decide

/-! ## All or nothing -/

/-- The position hash, the active set and the available margin are as they were. -/
def Unchanged (symbol : String) (db db' : Db) : Prop :=
  db' (positionKey symbol) = db (positionKey symbol) ∧ db' activeKey = db activeKey ∧
    db' marginKey = db marginKey

/-- A script that ends with an error has changed none of the three keys. -/
def AllOrNothing (symbol : String) (script : Script Db Reply) (db : Db) : Prop :=
  ∀ e db', script.run db = .error e db' → Unchanged symbol db db'

/-- `INCRBY` of a cell by `d` succeeds: two integers, and a sum that fits. -/
def Adds (d : Option ℚ) (cell : Option Value) : Prop :=
  ∃ r n, increment d = .ok r ∧ counter cell = .ok n ∧ Fits (n + r)

/-- The cell covers a deduction of `d`, and `DECRBY` succeeds. -/
def Deducts (d : Option ℚ) (cell : Option Value) : Prop :=
  ∃ r n, increment d = .ok r ∧ counter cell = .ok n ∧ r ≤ n ∧ r ≠ least ∧ Fits (n - r)

/-- The active positions are a set, or there are none. -/
def HasActiveSet (db : Db) : Prop := ∃ m, members (db activeKey) = .ok m

/-- Neither a position key nor an active symbol. -/
def NothingToRemove (symbol : String) (db : Db) : Prop :=
  db (positionKey symbol) = none ∧ ∀ m, members (db activeKey) = .ok m → symbol ∉ m

/-- A close that goes through, or that has nothing to remove. -/
def CloseSafe (symbol : String) (marginArg : Str) (db : Db) : Prop :=
  HasActiveSet db ∧ Adds marginArg.tonumber (db marginKey) ∨ NothingToRemove symbol db

/-- An entry that deducts nothing, or whose two other keys can be written, or whose writes are
of what is there already. -/
def EntrySafe (symbol : String) (pairs : List (String × String)) (marginArg : Str) (db : Db) :
    Prop :=
  Deducts marginArg.tonumber (db marginKey) →
    (∃ f, fields (db (positionKey symbol)) = .ok f) ∧ HasActiveSet db ∨
    marginArg.tonumber = some 0 ∧ db marginKey ≠ none ∧
      ∀ f, fields (db (positionKey symbol)) = .ok f →
        some (.hash (assign pairs f)) = db (positionKey symbol)

/-! ## position_close.lua -/

variable {marginArg : Str} {db : Db}

/-- The database after `DEL`. -/
theorem update_position_active (cell : Option Value) :
    Function.update db (positionKey symbol) cell activeKey = db activeKey :=
  Function.update_of_ne positionKey_ne_activeKey.symm _ _

/-- The removal comes first, so an active set of another type leaves the hash deleted. -/
theorem close_run_wrongType {e : ScriptError} (h : members (db activeKey) = .error e) :
    (positionClose symbol marginArg).run db =
      .error e (Function.update db (positionKey symbol) none) := by
  have hsrem : srem symbol (Function.update db (positionKey symbol) none activeKey) = .error e := by
    rw [update_position_active]
    simp [srem, h, bind, Except.bind]
  simp only [positionClose]
  rw [run_bind_ok (onKey_ok (show del _ = .ok none from rfl)), run_bind_error (onKey_error hsrem)]

theorem close_run {m : Finset String} (h : members (db activeKey) = .ok m) :
    ∃ cell, (cell = db activeKey ↔ symbol ∉ m) ∧ members cell = .ok (m.erase symbol) ∧
      (positionClose symbol marginArg).run db =
        match incrBy marginArg.tonumber (db marginKey) with
        | .ok c => .ok { code := 1 } (Function.update (Function.update
            (Function.update db (positionKey symbol) none) activeKey cell) marginKey c)
        | .error e => .error e
            (Function.update (Function.update db (positionKey symbol) none) activeKey cell) := by
  rcases srem_ok (x := symbol) h with ⟨cell, hsrem, hcell, hsame⟩
  refine ⟨cell, hsame, hcell, ?_⟩
  set db₁ := Function.update db (positionKey symbol) none with hdb₁
  have hsrem₁ : srem symbol (db₁ activeKey) = .ok cell := by
    rw [hdb₁, update_position_active, hsrem]
  have hmargin : Function.update db₁ activeKey cell marginKey = db marginKey := by
    rw [Function.update_of_ne activeKey_ne_marginKey.symm, hdb₁,
      Function.update_of_ne positionKey_ne_marginKey.symm]
  simp only [positionClose]
  rw [run_bind_ok (onKey_ok (show del (db (positionKey symbol)) = .ok none from rfl)),
    run_bind_ok (onKey_ok hsrem₁)]
  -- the counter is the one of the start
  rcases hincr : incrBy marginArg.tonumber (db marginKey) with e | c
  · rw [run_bind_error (onKey_error (by rw [hmargin, hincr]))]
  · rw [run_bind_ok (onKey_ok (by rw [hmargin, hincr]))]
    rfl

theorem adds_iff {d : Option ℚ} {cell : Option Value} :
    Adds d cell ↔ ∃ c, incrBy d cell = .ok c := by
  constructor
  · rintro ⟨r, n, hr, hn, hfits⟩
    exact ⟨_, incrBy_eq_ok_iff.mpr ⟨r, n, hr, hn, hfits, rfl⟩⟩
  · rintro ⟨c, hc⟩
    rcases incrBy_eq_ok_iff.mp hc with ⟨r, n, hr, hn, hfits, -⟩
    exact ⟨r, n, hr, hn, hfits⟩

theorem close_allOrNothing_iff :
    AllOrNothing symbol (positionClose symbol marginArg) db ↔ CloseSafe symbol marginArg db := by
  rcases hm : members (db activeKey) with e | m
  · -- no set: the script stops at `SREM`, after `DEL`
    have hrun := @close_run_wrongType symbol marginArg db e hm
    have hnoset : ¬ HasActiveSet db := by
      rintro ⟨m, h⟩
      rw [hm] at h
      cases h
    constructor
    · intro h
      have hpos := (h _ _ hrun).1
      rw [Function.update_self] at hpos
      refine Or.inr ⟨hpos.symm, ?_⟩
      intro m h
      rw [hm] at h
      cases h
    · rintro (⟨h, -⟩ | ⟨hpos, -⟩) e' db' h'
      · exact absurd h hnoset
      · rw [hrun] at h'
        cases h'
        rw [← hpos, Function.update_eq_self]
        exact ⟨rfl, rfl, rfl⟩
  · rcases @close_run symbol marginArg db m hm with ⟨cell, hsame, -, hrun⟩
    rcases hincr : incrBy marginArg.tonumber (db marginKey) with e | c
    · -- the release fails: what the removal took away is gone
      rw [hincr] at hrun
      have hnoadd : ¬ Adds marginArg.tonumber (db marginKey) := by
        intro h
        rcases adds_iff.mp h with ⟨c, hc⟩
        rw [hincr] at hc
        cases hc
      constructor
      · intro h
        rcases h _ _ hrun with ⟨hpos, hact, -⟩
        rw [Function.update_of_ne positionKey_ne_activeKey, Function.update_self] at hpos
        rw [Function.update_self] at hact
        refine Or.inr ⟨hpos.symm, ?_⟩
        intro m' hm'
        rw [hm] at hm'
        cases hm'
        exact hsame.mp hact
      · rintro (⟨-, h⟩ | ⟨hpos, hact⟩) e' db' h'
        · exact absurd h hnoadd
        · rw [hrun] at h'
          cases h'
          rw [← hpos, Function.update_eq_self, hsame.mpr (hact m hm), Function.update_eq_self]
          exact ⟨rfl, rfl, rfl⟩
    · -- the release succeeds, and with it the script
      rw [hincr] at hrun
      constructor
      · intro _
        exact Or.inl ⟨⟨m, hm⟩, adds_iff.mpr ⟨c, hincr⟩⟩
      · intro _ e' db' h'
        rw [hrun] at h'
        cases h'

/-! ## sl_linkage.lua -/

variable {orderId slPrice strategyId : String}

/-- `GET` sees the integer that the commands on the counter work with. -/
theorem getStr_of_counter {n : ℤ} (h : counter (db marginKey) = .ok n) :
    ∃ stored, (getStr marginKey).run db = .ok stored db ∧
      (stored.getD (.int 0)).tonumber = some (n : ℚ) := by
  simp only [getStr]
  rw [run_bind_ok (run_get db)]
  rcases hcell : db marginKey with _ | s | f | m | _
  · rw [hcell] at h
    cases h
    exact ⟨none, rfl, rfl⟩
  · rw [hcell] at h
    rcases s with k | ⟨raw, number⟩
    · refine ⟨some (.int k), rfl, ?_⟩
      simp only [counter] at h
      by_cases hfits : Fits k
      · rw [if_pos hfits] at h
        cases h
        rfl
      · rw [if_neg hfits] at h
        cases h
    · cases h
  · rw [hcell] at h
    cases h
  · rw [hcell] at h
    cases h
  · rw [hcell] at h
    cases h

theorem luaLt_run_int (x y : ℤ) :
    (luaLt (some (x : ℚ)) (some (y : ℚ)) : Script Db Bool).run db = .ok (decide (x < y)) db := by
  have hlt : decide ((x : ℚ) < y) = decide (x < y) := by simp
  rw [← hlt]
  rfl

/-- Reading writes nothing. -/
theorem getStr_run (key : String) :
    (∃ stored, (getStr key).run db = .ok stored db) ∨ ∃ e, (getStr key).run db = .error e db := by
  simp only [getStr]
  rw [run_bind_ok (run_get db)]
  rcases db key with _ | s | f | m | _
  · exact Or.inl ⟨none, rfl⟩
  · exact Or.inl ⟨some s, rfl⟩
  · exact Or.inr ⟨.wrongType, rfl⟩
  · exact Or.inr ⟨.wrongType, rfl⟩
  · exact Or.inr ⟨.wrongType, rfl⟩

/-- Neither does a comparison. -/
theorem luaLt_run_cases (a b : Option ℚ) :
    (∃ lt, (luaLt a b : Script Db Bool).run db = .ok lt db) ∨
      (luaLt a b : Script Db Bool).run db = .error .compareNil db := by
  rcases a with _ | a
  · exact Or.inr rfl
  · rcases b with _ | b
    · exact Or.inr rfl
    · exact Or.inl ⟨decide (a < b), rfl⟩

/-- A margin that is not deducted stops the script before it writes. -/
theorem entry_error_of_not_deducts (h : ¬ Deducts marginArg.tonumber (db marginKey))
    {e : ScriptError} {db' : Db}
    (hrun : (slLinkage symbol orderId marginArg slPrice strategyId).run db = .error e db') :
    db' = db := by
  simp only [slLinkage] at hrun
  rcases @getStr_run db marginKey with ⟨stored, hget⟩ | ⟨e', hget⟩
  swap
  · rw [run_bind_error hget] at hrun
    cases hrun
    rfl
  rw [run_bind_ok hget] at hrun
  rcases @luaLt_run_cases db (stored.getD (.int 0)).tonumber marginArg.tonumber with
    ⟨lt, hlt⟩ | hlt
  swap
  · rw [run_bind_error hlt] at hrun
    cases hrun
    rfl
  rw [run_bind_ok hlt] at hrun
  cases lt with
  | true => cases hrun
  | false =>
      simp only [Bool.false_eq_true, if_false] at hrun
      rcases hdecr : decrBy marginArg.tonumber (db marginKey) with e' | c
      · rw [run_bind_error (onKey_error hdecr)] at hrun
        cases hrun
        rfl
      · -- a deduction that succeeds was covered, as the comparison said
        rcases decrBy_eq_ok_iff.mp hdecr with ⟨r, n, hr, hn, hmin, hfits, -⟩
        rcases getStr_of_counter hn with ⟨stored', hget', hnum⟩
        rw [hget] at hget'
        cases hget'
        rw [hnum, eq_some_of_increment hr, luaLt_run_int] at hlt
        have hle : r ≤ n := by
          by_contra hgt
          rw [decide_eq_true (not_le.mp hgt)] at hlt
          cases hlt
        exact absurd ⟨r, n, hr, hn, hle, hmin, hfits⟩ h

/-- What is left of the script once the margin is deducted. -/
def linkPosition (symbol : String) (pairs : List (String × String)) : Script Db Reply := do
  onKey (positionKey symbol) (hset pairs)
  onKey activeKey (sadd symbol)
  return { code := 1, text := some "SUCCESS" }

theorem entry_run_of_deducts {r n : ℤ} (hr : increment marginArg.tonumber = .ok r)
    (hn : counter (db marginKey) = .ok n) (hle : r ≤ n) (hmin : r ≠ least) (hfits : Fits (n - r)) :
    (slLinkage symbol orderId marginArg slPrice strategyId).run db =
      (linkPosition symbol (entryFields orderId slPrice strategyId)).run
        (Function.update db marginKey (holding (n - r))) := by
  rcases getStr_of_counter hn with ⟨stored, hget, hnum⟩
  have hdecr : decrBy (some (r : ℚ)) (db marginKey) = .ok (holding (n - r)) := by
    rw [← eq_some_of_increment hr]
    exact decrBy_eq_ok_iff.mpr ⟨r, n, hr, hn, hmin, hfits, rfl⟩
  simp only [slLinkage, eq_some_of_increment hr]
  rw [run_bind_ok hget, hnum, run_bind_ok (luaLt_run_int n r)]
  simp only [not_lt.mpr hle, decide_false, if_false, Bool.false_eq_true]
  rw [run_bind_ok (onKey_ok hdecr)]
  rfl

/-- Where the rest of the script stops, and with which keys. -/
theorem linkPosition_run (pairs : List (String × String)) (db : Db) :
    (linkPosition symbol pairs).run db =
      match fields (db (positionKey symbol)) with
      | .error e => .error e db
      | .ok f =>
          match members (db activeKey) with
          | .error e =>
              .error e (Function.update db (positionKey symbol) (some (.hash (assign pairs f))))
          | .ok m => .ok { code := 1, text := some "SUCCESS" }
              (Function.update (Function.update db (positionKey symbol)
                (some (.hash (assign pairs f)))) activeKey (some (.set (insert symbol m)))) := by
  simp only [linkPosition]
  rcases hf : fields (db (positionKey symbol)) with e | f
  · have hhset : hset pairs (db (positionKey symbol)) = .error e := by
      simp [hset, hf, bind, Except.bind]
    rw [run_bind_error (onKey_error hhset)]
  · have hhset : hset pairs (db (positionKey symbol)) = .ok (some (.hash (assign pairs f))) := by
      simp [hset, hf, bind, Except.bind, pure, Except.pure]
    rw [run_bind_ok (onKey_ok hhset)]
    rcases hm : members (db activeKey) with e | m
    · have hsadd : sadd symbol (Function.update db (positionKey symbol)
          (some (.hash (assign pairs f))) activeKey) = .error e := by
        rw [update_position_active]
        simp [sadd, hm, bind, Except.bind]
      rw [run_bind_error (onKey_error hsadd)]
    · have hsadd : sadd symbol (Function.update db (positionKey symbol)
          (some (.hash (assign pairs f))) activeKey) = .ok (some (.set (insert symbol m))) := by
        rw [update_position_active]
        simp [sadd, hm, bind, Except.bind, pure, Except.pure]
      rw [run_bind_ok (onKey_ok hsadd)]
      rfl

theorem entry_allOrNothing_iff :
    AllOrNothing symbol (slLinkage symbol orderId marginArg slPrice strategyId) db ↔
      EntrySafe symbol (entryFields orderId slPrice strategyId) marginArg db := by
  by_cases hded : Deducts marginArg.tonumber (db marginKey)
  swap
  · refine iff_of_true ?_ (fun h => absurd h hded)
    intro e db' hrun
    rw [entry_error_of_not_deducts hded hrun]
    exact ⟨rfl, rfl, rfl⟩
  rcases hded with ⟨r, n, hr, hn, hle, hmin, hfits⟩
  have hded : Deducts marginArg.tonumber (db marginKey) := ⟨r, n, hr, hn, hle, hmin, hfits⟩
  have hsame := holding_sub_eq_iff (r := r) hn
  have hzero : marginArg.tonumber = some 0 ↔ r = 0 := by
    rw [eq_some_of_increment hr]
    simp
  -- the other two keys are still those of the start
  have hpos : Function.update db marginKey (holding (n - r)) (positionKey symbol) =
      db (positionKey symbol) := Function.update_of_ne positionKey_ne_marginKey _ _
  have hact : Function.update db marginKey (holding (n - r)) activeKey = db activeKey :=
    Function.update_of_ne activeKey_ne_marginKey _ _
  have hrun := (@entry_run_of_deducts symbol marginArg db orderId slPrice strategyId r n
    hr hn hle hmin hfits).trans (linkPosition_run (entryFields orderId slPrice strategyId) _)
  rw [hpos, hact] at hrun
  rcases hf : fields (db (positionKey symbol)) with e | f
  · -- the position key is of another type
    rw [hf] at hrun
    constructor
    · intro h _
      have hmargin := (h _ _ hrun).2.2
      rw [Function.update_self] at hmargin
      refine Or.inr ⟨hzero.mpr (hsame.mp hmargin).1, (hsame.mp hmargin).2, ?_⟩
      intro f h
      rw [hf] at h
      cases h
    · intro h e' db' h'
      rw [hrun] at h'
      cases h'
      rcases h hded with ⟨⟨f, h⟩, -⟩ | ⟨h0, hne, -⟩
      · rw [hf] at h
        cases h
      · refine ⟨hpos, hact, ?_⟩
        rw [Function.update_self, hsame.mpr ⟨hzero.mp h0, hne⟩]
  · rw [hf] at hrun
    rcases hm : members (db activeKey) with e | m
    · -- the active positions are of another type
      rw [hm] at hrun
      have hnoset : ¬ HasActiveSet db := by
        rintro ⟨m, h⟩
        rw [hm] at h
        cases h
      constructor
      · intro h _
        rcases h _ _ hrun with ⟨hposition, -, hmargin⟩
        rw [Function.update_self] at hposition
        rw [Function.update_of_ne positionKey_ne_marginKey.symm, Function.update_self] at hmargin
        refine Or.inr ⟨hzero.mpr (hsame.mp hmargin).1, (hsame.mp hmargin).2, ?_⟩
        intro f' h
        rw [hf] at h
        cases h
        exact hposition
      · intro h e' db' h'
        rw [hrun] at h'
        cases h'
        rcases h hded with ⟨-, h⟩ | ⟨h0, hne, hpairs⟩
        · exact absurd h hnoset
        · rw [hsame.mpr ⟨hzero.mp h0, hne⟩, Function.update_eq_self, hpairs f hf,
            Function.update_eq_self]
          exact ⟨rfl, rfl, rfl⟩
    · -- every write goes through
      rw [hm] at hrun
      refine iff_of_true ?_ (fun _ => Or.inl ⟨⟨f, hf⟩, ⟨m, hm⟩⟩)
      intro e' db' h'
      rw [hrun] at h'
      cases h'

/-- One open position in `RELIANCE` and `200` of available margin. -/
def oneOpen : Db := fun key =>
  if key = positionKey "RELIANCE" then
    some (.hash (assign (entryFields "order-1" "2450.50" "STRAT001") fun _ => none))
  else if key = activeKey then some (.set {"RELIANCE"})
  else if key = marginKey then holding 200
  else none

/-- A position hash as its fields. -/
def hashOf (h : PositionHash) : String → Option String :=
  assign [("order_id", h.orderId), ("sl_price", h.slPrice), ("strategy_id", h.strategyId),
    ("status", h.status)] fun _ => none

/-- The database holds the keys `s`, with `a` in the counter. -/
structure Represents (db : Db) (s : Keys) (a : ℤ) : Prop where
  counter : counter (db marginKey) = .ok a
  margin : s.margin = some a
  position : ∀ symbol, db (positionKey symbol) = (s.position symbol).map (.hash ∘ hashOf)
  active : members (db activeKey) = .ok s.activePositions

theorem positionKey_injective : Function.Injective positionKey := by
  intro x y h
  have := congrArg String.toList h
  simpa [positionKey, String.toList_inj] using this

/-- An entry writes all four fields, so nothing of an earlier hash is left. -/
theorem assign_entryFields (f : String → Option String)
    (hf : (∃ h, f = hashOf h) ∨ f = fun _ => none) :
    assign (entryFields orderId slPrice strategyId) f =
      hashOf ⟨orderId, slPrice, strategyId, "OPEN"⟩ := by
  rcases hf with ⟨h, rfl⟩ | rfl
  · funext key
    simp only [assign, entryFields, hashOf, List.foldl_cons, List.foldl_nil, Function.update_apply]
    split_ifs <;> rfl
  · rfl

theorem counter_holding {n : ℤ} (h : Fits n) : counter (holding n) = .ok n := by
  simp [counter, holding, h]

theorem increment_natCast {m : ℕ} (h : Fits m) :
    increment (Str.tonumber (.int m)) = .ok (m : ℤ) := by
  simp [increment, Str.tonumber, h]

variable {s : Keys} {a : ℤ}

theorem close_represents (hrep : Represents db s a) (symbol : String) {m : ℕ} (hm : Fits m)
    (hfits : Fits (a + m)) :
    ∃ r s' db', (Margin.positionClose symbol (.num m)).run s = .ok r s' ∧
      (positionClose symbol (.int m)).run db = .ok r db' ∧ Represents db' s' (a + m) := by
  rcases @close_run symbol (.int m) db _ hrep.active with ⟨cell, -, hcell, hrun⟩
  have hincr : incrBy (Str.tonumber (.int m)) (db marginKey) = .ok (holding (a + m)) :=
    incrBy_eq_ok_iff.mpr ⟨m, a, increment_natCast hm, hrep.counter, hfits, rfl⟩
  rw [hincr] at hrun
  refine ⟨_, _, _, positionClose_run hrep.margin symbol m, hrun, ?_, withMargin_margin _ _, ?_, ?_⟩
  · rw [Function.update_self, counter_holding hfits]
  · intro x
    rw [Function.update_of_ne positionKey_ne_marginKey,
      Function.update_of_ne positionKey_ne_activeKey]
    by_cases hx : x = symbol
    · subst hx
      simp [Keys.withMargin, Keys.removed]
    · rw [Function.update_of_ne (positionKey_injective.ne hx), hrep.position]
      simp [Keys.withMargin, Keys.removed, hx]
  · rw [Function.update_of_ne activeKey_ne_marginKey, Function.update_self, hcell]
    rfl

theorem entry_represents (hrep : Represents db s a) (symbol orderId : String) {m : ℕ}
    (hm : Fits m) (hle : (m : ℤ) ≤ a) (hfits : Fits (a - m)) (slPrice strategyId : String) :
    ∃ r s' db', (Margin.slLinkage symbol orderId (.num m) slPrice strategyId).run s = .ok r s' ∧
      (slLinkage symbol orderId (.int m) slPrice strategyId).run db = .ok r db' ∧
      Represents db' s' (a - m) := by
  have hmargin := slLinkage_run hrep.margin symbol orderId m slPrice strategyId
  rw [if_neg (not_lt.mpr hle)] at hmargin
  have hmin : (m : ℤ) ≠ least := by
    have : least < 0 := by decide
    omega
  -- the hash that is there, if any, is overwritten field by field
  have hhash : ∃ f, fields (db (positionKey symbol)) = .ok f ∧
      assign (entryFields orderId slPrice strategyId) f =
        hashOf ⟨orderId, slPrice, strategyId, "OPEN"⟩ := by
    rw [hrep.position]
    rcases s.position symbol with _ | h
    · exact ⟨_, rfl, assign_entryFields _ (Or.inr rfl)⟩
    · exact ⟨_, rfl, assign_entryFields _ (Or.inl ⟨h, rfl⟩)⟩
  rcases hhash with ⟨f, hf, hassign⟩
  have hrun := (@entry_run_of_deducts symbol (.int m) db orderId slPrice strategyId m a
    (increment_natCast hm) hrep.counter hle hmin hfits).trans
    (linkPosition_run (entryFields orderId slPrice strategyId) _)
  rw [Function.update_of_ne positionKey_ne_marginKey,
    Function.update_of_ne activeKey_ne_marginKey, hf, hrep.active] at hrun
  refine ⟨_, _, _, hmargin, hrun, ?_, withMargin_margin _ _, ?_, ?_⟩
  · rw [Function.update_of_ne activeKey_ne_marginKey.symm,
      Function.update_of_ne positionKey_ne_marginKey.symm, Function.update_self,
      counter_holding hfits]
  · intro x
    rw [Function.update_of_ne positionKey_ne_activeKey]
    by_cases hx : x = symbol
    · subst hx
      simp [Keys.withMargin, Keys.entered, hassign]
    · rw [Function.update_of_ne (positionKey_injective.ne hx),
        Function.update_of_ne positionKey_ne_marginKey, hrep.position]
      simp [Keys.withMargin, Keys.entered, hx]
  · rw [Function.update_self]
    rfl

theorem entry_rejected_represents (hrep : Represents db s a) (symbol orderId : String) {m : ℕ}
    (hlt : a < m) (slPrice strategyId : String) :
    ∃ r, (Margin.slLinkage symbol orderId (.num m) slPrice strategyId).run s = .ok r s ∧
      (slLinkage symbol orderId (.int m) slPrice strategyId).run db = .ok r db := by
  have hmargin := slLinkage_run hrep.margin symbol orderId m slPrice strategyId
  rw [if_pos hlt] at hmargin
  rcases getStr_of_counter hrep.counter with ⟨stored, hget, hnum⟩
  refine ⟨_, hmargin, ?_⟩
  simp only [slLinkage, Str.tonumber]
  rw [run_bind_ok hget]
  have hcmp : (luaLt (stored.getD (.int 0)).tonumber (some ((m : ℤ) : ℚ)) : Script Db Bool).run db =
      .ok true db := by
    rw [hnum, luaLt_run_int, decide_eq_true hlt]
  exact run_bind_ok hcmp

theorem fits_of_counter {cell : Option Value} {n : ℤ} (h : counter cell = .ok n) : Fits n := by
  rcases cell with _ | s | f | m | _
  · cases h
    decide
  · rcases s with k | ⟨raw, number⟩
    · rw [counter] at h
      split at h
      · rename_i hfits
        cases h
        exact hfits
      · cases h
    · cases h
  · cases h
  · cases h
  · cases h

/-- What is deducted is available, so nothing overflows. -/
theorem fits_of_le (ha : 0 ≤ a) (hfits : Fits a) {m : ℕ} (hle : (m : ℤ) ≤ a) :
    Fits m ∧ Fits (a - m) := by
  unfold Fits least at *
  omega

theorem reserve_represents (hrep : Represents db s a) (ha : 0 ≤ a) (m : ℕ) :
    ∃ r s' db' a', (Margin.marginGuard (.num m)).run s = .ok r s' ∧
      (marginGuard (.int m)).run db = .ok r db' ∧ 0 ≤ a' ∧ Represents db' s' a' := by
  have hmargin := marginGuard_run hrep.margin m
  rcases getStr_of_counter hrep.counter with ⟨stored, hget, hnum⟩
  have hcmp : (luaLt (stored.getD (.int 0)).tonumber (Str.tonumber (.int m)) :
      Script Db Bool).run db = .ok (decide (a < m)) db := by
    rw [hnum]
    exact luaLt_run_int a m
  by_cases hlt : a < m
  · rw [if_pos hlt] at hmargin
    refine ⟨_, _, db, a, hmargin, ?_, ha, hrep⟩
    simp only [marginGuard]
    rw [run_bind_ok hget, run_bind_ok hcmp, decide_eq_true hlt]
    rfl
  · rw [if_neg hlt] at hmargin
    have hle := not_lt.mp hlt
    rcases fits_of_le ha (fits_of_counter hrep.counter) hle with ⟨hm, hfits⟩
    have hmin : (m : ℤ) ≠ least := by
      have : least < 0 := by decide
      omega
    have hdecr : decrBy (Str.tonumber (.int m)) (db marginKey) = .ok (holding (a - m)) :=
      decrBy_eq_ok_iff.mpr ⟨m, a, increment_natCast hm, hrep.counter, hmin, hfits, rfl⟩
    refine ⟨_, _, Function.update db marginKey (holding (a - m)), a - m, hmargin, ?_,
      Int.sub_nonneg_of_le hle, ?_, withMargin_margin _ _, ?_, ?_⟩
    · simp only [marginGuard]
      rw [run_bind_ok hget, run_bind_ok hcmp, decide_eq_false hlt]
      exact run_bind_ok (onKey_ok hdecr)
    · rw [Function.update_self, counter_holding hfits]
    · intro x
      rw [Function.update_of_ne positionKey_ne_marginKey]
      exact hrep.position x
    · rw [Function.update_of_ne activeKey_ne_marginKey]
      exact hrep.active

/-! ## Runs of the scripts -/

/-- The script that a call runs, with an integer as its margin. -/
def dbScript : Call → Script Db Reply
  | .entry symbol orderId margin slPrice strategyId =>
      slLinkage symbol orderId (.int margin) slPrice strategyId
  | .reserve required => marginGuard (.int required)
  | .close symbol margin => positionClose symbol (.int margin)

/-- The Redis server on a whole database. -/
def dbServer : Machine Db Call (Except ScriptError Reply) where
  step db c :=
    match (dbScript c).run db with
    | .ok r db' => (db', .ok r)
    | .error e db' => (db', .error e)

/-- The database holds the keys, and the margin is not negative. -/
def Holds (db : Db) (s : Keys) : Prop := ∃ a, 0 ≤ a ∧ Represents db s a

/-- If the call releases margin, the counter is a 64-bit integer afterwards. -/
def CounterFits (s : Keys) : Call → Prop
  | .close _ margin => ∀ a, s.margin = some a → Fits (a + margin)
  | _ => True

theorem agree_of_run {c : Call} {r : Reply} {s' : Keys} {db' : Db} (hs : c.script.run s = .ok r s')
    (hdb : (dbScript c).run db = .ok r db') (h : Holds db' s') :
    dbServer.reply db c = server.reply s c ∧ Holds (dbServer.next db c) (server.next s c) := by
  have hstep : dbServer.step db c = (db', .ok r) := by
    simp only [dbServer, hdb]
  rw [Machine.reply, Machine.reply, Machine.next, Machine.next, step_of_run hs, hstep]
  exact ⟨rfl, h⟩

/-- A call that leaves the counter in range does on the database what it does on the keys. -/
theorem agree_of_counterFits (h : Holds db s) {c : Call} (hc : CounterFits s c) :
    dbServer.reply db c = server.reply s c ∧ Holds (dbServer.next db c) (server.next s c) := by
  rcases h with ⟨a, ha, hrep⟩
  cases c with
  | entry symbol orderId m slPrice strategyId =>
      by_cases hlt : a < m
      · rcases entry_rejected_represents hrep symbol orderId hlt slPrice strategyId with
          ⟨r, hs, hdb⟩
        exact agree_of_run hs hdb ⟨a, ha, hrep⟩
      · have hle := not_lt.mp hlt
        rcases fits_of_le ha (fits_of_counter hrep.counter) hle with ⟨hm, hfits⟩
        rcases entry_represents hrep symbol orderId hm hle hfits slPrice strategyId with
          ⟨r, s', db', hs, hdb, hrep'⟩
        exact agree_of_run hs hdb ⟨a - m, Int.sub_nonneg_of_le hle, hrep'⟩
  | reserve m =>
      rcases reserve_represents hrep ha m with ⟨r, s', db', a', hs, hdb, ha', hrep'⟩
      exact agree_of_run hs hdb ⟨a', ha', hrep'⟩
  | close symbol m =>
      have hfits := hc a hrep.margin
      have hm : Fits m := by
        unfold Fits least at *
        omega
      rcases close_represents hrep symbol hm hfits with ⟨r, s', db', hs, hdb, hrep'⟩
      exact agree_of_run hs hdb ⟨a + m, by omega, hrep'⟩

/-- A release that does not fit is refused by Redis, with the position gone. -/
theorem reply_ne_of_not_counterFits (h : Holds db s) {c : Call} (hc : ¬ CounterFits s c) :
    dbServer.reply db c ≠ server.reply s c := by
  rcases h with ⟨a, ha, hrep⟩
  cases c with
  | entry symbol orderId m slPrice strategyId => exact absurd trivial hc
  | reserve m => exact absurd trivial hc
  | close symbol m =>
      have hover : ¬ Fits (a + m) := by
        intro hfits
        refine hc ?_
        intro a' ha'
        rw [hrep.margin] at ha'
        cases ha'
        exact hfits
      rcases @close_run symbol (.int m) db _ hrep.active with ⟨cell, -, -, hrun⟩
      cases hincr : incrBy (Str.tonumber (.int m)) (db marginKey) with
      | ok c =>
          rcases incrBy_eq_ok_iff.mp hincr with ⟨r, n, hr, hn, hfits, -⟩
          have hcast : (((m : ℕ) : ℤ) : ℚ) = (r : ℚ) := Option.some.inj (eq_some_of_increment hr)
          rw [hrep.counter] at hn
          cases hn
          rw [← Int.cast_injective hcast] at hfits
          exact absurd hfits hover
      | error e =>
          rw [hincr] at hrun
          have hreply : dbServer.reply db (.close symbol m) = .error e := by
            simp only [Machine.reply, dbServer, dbScript, hrun]
          rw [hreply, Machine.reply, step_close hrep.margin]
          intro heq
          cases heq

/-- A database with a margin of a thousand. -/
def thousandAvailable : Db := fun key => if key = marginKey then holding 1000 else none

end Intraday.Lua.Failure
