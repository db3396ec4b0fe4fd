import Mathlib.Algebra.BigOperators.Group.Finset.Basic
import Mathlib.Tactic.Linarith
import Intraday.Lib.Machine
import Intraday.Lib.Redis

/-!
# Intraday.Lua.Margin — the margin and position scripts

Three Lua scripts share the margin counter `portfolio:margin:available`, the
position hashes `position:<symbol>` and the set `portfolio:active_positions`:

* `slLinkage` (`sl_linkage.lua`) enters a position: it deducts the margin,
  writes the hash and adds the symbol to the set, or rejects the entry;
* `marginGuard` (`margin_guard.lua`) reserves margin only;
* `positionClose` (`position_close.lua`) removes a position and releases margin.

Each script is atomic, so the calls of any number of clients are one list, and
the scripts are one `Machine` over the keys. `Inv` (a non-negative counter, and
an active symbol exactly where there is a hash) is kept by every script.

Conservation of margin is a different matter: a close is not conditioned on the
position being there, nor an entry on its being absent. The second half keeps,
beside the keys, the margin that the latest accepted entry of each symbol
deducted, and shows exactly which calls change the total.
-/

namespace Intraday.Lua.Margin

open Intraday.Lib Intraday.Lib.Redis

/-! ## The keys and the scripts -/

/-- The fields `HSET` writes to `position:<symbol>`. -/
structure PositionHash where
  orderId : String
  slPrice : String
  strategyId : String
  status : String
deriving DecidableEq, Repr

/-- The keys the three scripts touch. -/
structure Keys where
  /-- `portfolio:margin:available`. -/
  marginAvailable : Option Text
  /-- `position:<symbol>`. -/
  position : String → Option PositionHash
  /-- `portfolio:active_positions`. -/
  activePositions : Finset String

/-- `tonumber(redis.call('GET', 'portfolio:margin:available') or "0")`. -/
def getMargin : Script Keys (Option ℚ) := do
  return ((← get).marginAvailable.getD (.num 0)).tonumber

/-- Store the outcome of an `INCRBY`/`DECRBY` on the margin counter. -/
def setMargin (f : Option Text → Except ScriptError Text) : Script Keys Unit := do
  match f (← get).marginAvailable with
  | .ok v => modify fun s => { s with marginAvailable := some v }
  | .error e => throw e

/-- `HSET position:<symbol> …`: all four fields are given, so the hash is theirs. -/
def hsetPosition (symbol : String) (h : PositionHash) : Script Keys Unit :=
  modify fun s => { s with position := Function.update s.position symbol (some h) }

/-- `DEL position:<symbol>`. -/
def delPosition (symbol : String) : Script Keys Unit :=
  modify fun s => { s with position := Function.update s.position symbol none }

/-- `SADD portfolio:active_positions <symbol>`. -/
def saddActive (symbol : String) : Script Keys Unit :=
  modify fun s => { s with activePositions := insert symbol s.activePositions }

/-- `SREM portfolio:active_positions <symbol>`. -/
def sremActive (symbol : String) : Script Keys Unit :=
  modify fun s => { s with activePositions := s.activePositions.erase symbol }

/-- What a script returns: its status number and, for an entry, its text. -/
structure Reply where
  code : ℕ
  text : Option String := none
deriving DecidableEq, Repr

/-- `sl_linkage.lua`. -/
def slLinkage (symbol orderId : String) (marginArg : Text) (slPrice strategyId : String) :
    Script Keys Reply := do
  let marginRequired := marginArg.tonumber
  let availableMargin ← getMargin
  if ← luaLt availableMargin marginRequired then
    return { code := 0, text := some "INSUFFICIENT_MARGIN" }
  setMargin fun cell => decrBy cell marginRequired
  hsetPosition symbol
    { orderId := orderId, slPrice := slPrice, strategyId := strategyId, status := "OPEN" }
  saddActive symbol
  return { code := 1, text := some "SUCCESS" }

/-- `margin_guard.lua`; Lua's `current >= required` is `not (current < required)`. -/
def marginGuard (requiredArg : Text) : Script Keys Reply := do
  let required := requiredArg.tonumber
  let current ← getMargin
  if !(← luaLt current required) then
    setMargin fun cell => decrBy cell required
    return { code := 1 }
  return { code := 0 }

/-- `position_close.lua`. -/
def positionClose (symbol : String) (marginArg : Text) : Script Keys Reply := do
  let marginToRelease := marginArg.tonumber
  delPosition symbol
  sremActive symbol
  setMargin fun cell => incrBy cell marginToRelease
  return { code := 1 }

/-! ## One spec lemma for each script

On an integer counter and for an integer margin no command fails, and each
script is one of two plain updates of the keys. -/

/-- The integer in the margin counter, when it holds one. -/
def Keys.margin (s : Keys) : Option ℤ := counterValue s.marginAvailable

/-- The available margin covers `m`. -/
def Keys.covers (s : Keys) (m : ℕ) : Bool := s.margin.any fun a => decide ((m : ℤ) ≤ a)

/-- The keys with `n` in the margin counter. -/
def Keys.withMargin (s : Keys) (n : ℤ) : Keys := { s with marginAvailable := some (.num n) }

/-- The keys after `symbol` was entered with hash `h`. -/
def Keys.entered (s : Keys) (symbol : String) (h : PositionHash) : Keys :=
  { s with
    position := Function.update s.position symbol (some h)
    activePositions := insert symbol s.activePositions }

/-- The keys after `symbol` was removed. -/
def Keys.removed (s : Keys) (symbol : String) : Keys :=
  { s with
    position := Function.update s.position symbol none
    activePositions := s.activePositions.erase symbol }

@[simp] theorem withMargin_margin (s : Keys) (n : ℤ) : (s.withMargin n).margin = some n :=
  counterValue_num_int n

@[simp] theorem withMargin_activePositions (s : Keys) (n : ℤ) :
    (s.withMargin n).activePositions = s.activePositions := rfl

variable {s : Keys} {a : ℤ}

theorem getMargin_run (h : s.margin = some a) : getMargin.run s = .ok (some (a : ℚ)) s := by
  have hnum := tonumber_getD_of_counterValue h
  simp only [getMargin]
  rw [run_bind_ok (run_get s), hnum]
  rfl

theorem luaLt_run (x y : ℤ) :
    (luaLt (some (x : ℚ)) (some (y : ℚ)) : Script Keys Bool).run s = .ok (decide (x < y)) s := by
  have hlt : decide ((x : ℚ) < y) = decide (x < y) := by simp
  rw [← hlt]
  rfl

theorem setMargin_run {f : Option Text → Except ScriptError Text} {n : ℤ}
    (h : f s.marginAvailable = .ok (.num n)) : (setMargin f).run s = .ok () (s.withMargin n) := by
  simp only [setMargin]
  rw [run_bind_ok (run_get s), h]
  rfl

theorem slLinkage_run (h : s.margin = some a) (symbol orderId : String) (m : ℕ)
    (slPrice strategyId : String) :
    (slLinkage symbol orderId (.num m) slPrice strategyId).run s =
      if a < m then .ok { code := 0, text := some "INSUFFICIENT_MARGIN" } s
      else .ok { code := 1, text := some "SUCCESS" }
        ((s.entered symbol ⟨orderId, slPrice, strategyId, "OPEN"⟩).withMargin (a - m)) := by
  simp only [slLinkage, tonumber_natCast]
  rw [run_bind_ok (getMargin_run h), run_bind_ok (luaLt_run a m)]
  by_cases hlt : a < m
  · simp only [hlt, decide_true, if_true]
    rfl
  · -- the deduction succeeds, and after it no command can fail
    simp only [hlt, decide_false, if_false, Bool.false_eq_true]
    rw [run_bind_ok (setMargin_run (decrBy_int h m))]
    rfl

theorem marginGuard_run (h : s.margin = some a) (m : ℕ) :
    (marginGuard (.num m)).run s =
      if a < m then .ok { code := 0 } s else .ok { code := 1 } (s.withMargin (a - m)) := by
  simp only [marginGuard, tonumber_natCast]
  rw [run_bind_ok (getMargin_run h), run_bind_ok (luaLt_run a m)]
  by_cases hlt : a < m
  · simp only [hlt, decide_true, if_true, Bool.not_true, Bool.false_eq_true, if_false]
    rfl
  · simp only [hlt, decide_false, if_false, Bool.not_false, if_true]
    rw [run_bind_ok (setMargin_run (decrBy_int h m))]
    rfl

theorem positionClose_run (h : s.margin = some a) (symbol : String) (m : ℕ) :
    (positionClose symbol (.num m)).run s =
      .ok { code := 1 } ((s.removed symbol).withMargin (a + m)) := by
  -- the counter is not among the keys that `DEL` and `SREM` touch
  have hrem : counterValue (s.removed symbol).marginAvailable = some a := h
  simp only [positionClose, tonumber_natCast]
  rw [run_bind_ok (show (delPosition symbol).run s = .ok () _ from rfl),
    run_bind_ok (show (sremActive symbol).run _ = .ok () (s.removed symbol) from rfl),
    run_bind_ok (setMargin_run (incrBy_int hrem m))]
  rfl

/-! ## The scripts as one machine -/

/-- One atomic execution of a script, with an integer margin. -/
inductive Call where
  | entry (symbol orderId : String) (margin : ℕ) (slPrice strategyId : String)
  | reserve (required : ℕ)
  | close (symbol : String) (margin : ℕ)
deriving DecidableEq, Repr

/-- The script a call runs. -/
def Call.script : Call → Script Keys Reply
  | .entry symbol orderId margin slPrice strategyId =>
      slLinkage symbol orderId (.num margin) slPrice strategyId
  | .reserve required => marginGuard (.num required)
  | .close symbol margin => positionClose symbol (.num margin)

/-- The Redis server: it executes one script at a time. -/
def server : Machine Keys Call (Except ScriptError Reply) where
  step s c :=
    match c.script.run s with
    | .ok r s' => (s', .ok r)
    | .error e s' => (s', .error e)

theorem step_of_run {c : Call} {r : Reply} {s' : Keys} (h : c.script.run s = .ok r s') :
    server.step s c = (s', .ok r) := by
  simp only [server, h]

/-- An entry that the available margin does not cover writes nothing. -/
theorem step_entry_rejected (h : s.margin = some a) {symbol orderId : String} {m : ℕ}
    {slPrice strategyId : String} (hlt : a < m) :
    server.step s (.entry symbol orderId m slPrice strategyId) =
      (s, .ok { code := 0, text := some "INSUFFICIENT_MARGIN" }) := by
  have hrun := slLinkage_run h symbol orderId m slPrice strategyId
  rw [if_pos hlt] at hrun
  exact step_of_run hrun

/-- An entry that the available margin covers is taken. -/
theorem step_entry_accepted (h : s.margin = some a) {symbol orderId : String} {m : ℕ}
    {slPrice strategyId : String} (hle : (m : ℤ) ≤ a) :
    server.step s (.entry symbol orderId m slPrice strategyId) =
      ((s.entered symbol ⟨orderId, slPrice, strategyId, "OPEN"⟩).withMargin (a - m),
        .ok { code := 1, text := some "SUCCESS" }) := by
  have hrun := slLinkage_run h symbol orderId m slPrice strategyId
  rw [if_neg (not_lt.mpr hle)] at hrun
  exact step_of_run hrun

theorem step_reserve (h : s.margin = some a) (m : ℕ) :
    server.step s (.reserve m) =
      if a < m then (s, .ok { code := 0 }) else (s.withMargin (a - m), .ok { code := 1 }) := by
  have hrun := marginGuard_run h m
  by_cases hlt : a < m
  · rw [if_pos hlt] at hrun ⊢
    exact step_of_run hrun
  · rw [if_neg hlt] at hrun ⊢
    exact step_of_run hrun

/-- A close always succeeds, whether or not there is a position. -/
theorem step_close (h : s.margin = some a) (symbol : String) (m : ℕ) :
    server.step s (.close symbol m) =
      ((s.removed symbol).withMargin (a + m), .ok { code := 1 }) :=
  step_of_run (positionClose_run h symbol m)

/-! ## Safety -/

/-- An integer margin that is not negative, and no position at all. -/
def Init (s : Keys) : Prop :=
  (∃ a : ℤ, s.margin = some a ∧ 0 ≤ a) ∧ (∀ symbol, s.position symbol = none) ∧
    s.activePositions = ∅

/-- The counter holds an integer that is not negative, and a symbol is active
exactly when its position hash exists. -/
def Inv (s : Keys) : Prop :=
  (∃ a : ℤ, s.margin = some a ∧ 0 ≤ a) ∧
    ∀ symbol, symbol ∈ s.activePositions ↔ (s.position symbol).isSome

theorem init_inv (s : Keys) (h : Init s) : Inv s := by
  rcases h with ⟨hmargin, hpos, hact⟩
  refine ⟨hmargin, ?_⟩
  intro symbol
  simp [hpos symbol, hact]

theorem entered_linked {symbol : String} {h : PositionHash}
    (hlink : ∀ x, x ∈ s.activePositions ↔ (s.position x).isSome) (x : String) :
    x ∈ (s.entered symbol h).activePositions ↔ ((s.entered symbol h).position x).isSome := by
  by_cases hx : x = symbol
  · simp [Keys.entered, hx]
  · simp [Keys.entered, hx, hlink x]

theorem removed_linked {symbol : String}
    (hlink : ∀ x, x ∈ s.activePositions ↔ (s.position x).isSome) (x : String) :
    x ∈ (s.removed symbol).activePositions ↔ ((s.removed symbol).position x).isSome := by
  by_cases hx : x = symbol
  · simp [Keys.removed, hx]
  · simp [Keys.removed, hx, hlink x]

theorem step_inv (s : Keys) (c : Call) (hinv : Inv s) : Inv (server.next s c) := by
  rcases hinv with ⟨⟨a, ha, hnn⟩, hlink⟩
  cases c with
  | entry symbol orderId m slPrice strategyId =>
      by_cases hlt : a < m
      · rw [Machine.next, step_entry_rejected ha hlt]
        exact ⟨⟨a, ha, hnn⟩, hlink⟩
      · -- the guard pays for the deduction
        rw [Machine.next, step_entry_accepted ha (not_lt.mp hlt)]
        exact ⟨⟨a - m, withMargin_margin _ _, by omega⟩, entered_linked hlink⟩
  | reserve m =>
      rw [Machine.next, step_reserve ha m]
      by_cases hlt : a < m
      · rw [if_pos hlt]
        exact ⟨⟨a, ha, hnn⟩, hlink⟩
      · -- a reservation touches the counter only
        rw [if_neg hlt]
        exact ⟨⟨a - m, withMargin_margin _ _, by omega⟩, hlink⟩
  | close symbol m =>
      -- the counter only grows
      rw [Machine.next, step_close ha]
      exact ⟨⟨a + m, withMargin_margin _ _, by omega⟩, removed_linked hlink⟩

/-- The keys at the start of a session with available margin `n`. -/
def opening (n : ℕ) : Keys :=
  { marginAvailable := some (.num n), position := fun _ => none, activePositions := ∅ }

@[simp] theorem opening_margin (n : ℕ) : (opening n).margin = some (n : ℤ) :=
  counterValue_num_int n

theorem opening_init (n : ℕ) : Init (opening n) :=
  ⟨⟨n, opening_margin n, Int.natCast_nonneg n⟩, fun _ => rfl, rfl⟩

/-- The keys, and the margin deducted by the latest accepted entry of a symbol. -/
structure Book where
  keys : Keys
  deducted : String → Option ℕ

/-- An accepted entry is remembered with its margin; nothing else is. -/
def Book.record (b : Book) : Call → Except ScriptError Reply → (String → Option ℕ)
  | .entry symbol _ m _ _, .ok { code := 1, .. } => Function.update b.deducted symbol (some m)
  | _, _ => b.deducted

/-- Entries and closes, with the deductions remembered beside them. -/
def ledger : Machine Book Call (Except ScriptError Reply) where
  step b c :=
    let (keys', r) := server.step b.keys c
    ({ keys := keys', deducted := b.record c r }, r)

/-- The call is an entry, or a close that passes the margin its entry deducted. -/
def PassesEntryMargin (b : Book) : Call → Prop
  | .entry .. => True
  | .close symbol m => b.deducted symbol = some m
  | .reserve _ => False

instance (b : Book) : ∀ c, Decidable (PassesEntryMargin b c)
  | .entry .. => inferInstanceAs (Decidable True)
  | .close _ _ => inferInstanceAs (Decidable (_ = _))
  | .reserve _ => inferInstanceAs (Decidable False)

/-- The margin deducted for a symbol. -/
def Book.deductedFor (b : Book) (symbol : String) : ℤ := ((b.deducted symbol).getD 0 : ℕ)

/-- Available margin plus the margins deducted for the active positions. -/
def Book.total (b : Book) : Option ℤ :=
  b.keys.margin.map (· + ∑ symbol ∈ b.keys.activePositions, b.deductedFor symbol)

/-- The total is still the margin the session started with. -/
def Conserved (n : ℕ) (b : Book) : Prop := b.total = some (n : ℤ)

instance (n : ℕ) (b : Book) : Decidable (Conserved n b) :=
  inferInstanceAs (Decidable (_ = _))

/-- A call that neither closes a position that is not there nor enters a symbol
over a position that is: such a close releases nothing, such an entry is rejected
or overwrites a position that cost nothing. -/
def Orderly (b : Book) : Call → Prop
  | .entry symbol _ m _ _ =>
      symbol ∈ b.keys.activePositions → b.keys.covers m = false ∨ b.deductedFor symbol = 0
  | .close symbol m => symbol ∈ b.keys.activePositions ∨ m = 0
  | .reserve _ => True

instance (b : Book) : ∀ c, Decidable (Orderly b c)
  | .entry .. => inferInstanceAs (Decidable (_ → _))
  | .close _ _ => inferInstanceAs (Decidable (_ ∨ _))
  | .reserve _ => inferInstanceAs (Decidable True)

/-- The start of a session with available margin `n`. -/
def openingBook (n : ℕ) : Book := { keys := opening n, deducted := fun _ => none }

/-- The counter holds an integer. -/
def HasMargin (b : Book) : Prop := ∃ a : ℤ, b.keys.margin = some a

theorem ledger_next (b : Book) (c : Call) :
    ledger.next b c = ⟨server.next b.keys c, b.record c (server.reply b.keys c)⟩ := rfl

theorem hasMargin_step (b : Book) (c : Call) (h : HasMargin b) : HasMargin (ledger.next b c) := by
  rcases h with ⟨a, ha⟩
  rw [HasMargin, ledger_next, Machine.next]
  cases c with
  | entry symbol orderId m slPrice strategyId =>
      by_cases hlt : a < m
      · rw [step_entry_rejected ha hlt]
        exact ⟨a, ha⟩
      · rw [step_entry_accepted ha (not_lt.mp hlt)]
        exact ⟨_, withMargin_margin _ _⟩
  | reserve m =>
      rw [step_reserve ha m]
      by_cases hlt : a < m
      · rw [if_pos hlt]
        exact ⟨a, ha⟩
      · rw [if_neg hlt]
        exact ⟨_, withMargin_margin _ _⟩
  | close symbol m =>
      rw [step_close ha]
      exact ⟨_, withMargin_margin _ _⟩

/-- The sum over the active set after an entry deducted `m` for `symbol`: what was
remembered for the symbol before no longer counts. -/
theorem sum_entered (act : Finset String) (d : String → Option ℕ) (symbol : String) (m : ℕ) :
    ∑ x ∈ insert symbol act, (((Function.update d symbol (some m)) x).getD 0 : ℤ) =
      m + ∑ x ∈ act.erase symbol, ((d x).getD 0 : ℤ) := by
  -- split the symbol off, whether it was active before or not
  rw [← Finset.insert_erase (Finset.mem_insert_self symbol act),
    Finset.sum_insert (Finset.notMem_erase symbol _), Finset.erase_insert_eq_erase]
  congr 1
  · simp
  · refine Finset.sum_congr rfl ?_
    intro x hx
    rw [Function.update_of_ne (Finset.ne_of_mem_erase hx)]

/-- Removing `symbol` takes its deduction out of the sum, if it was active. -/
theorem sum_erase (act : Finset String) (f : String → ℤ) (symbol : String) :
    ∑ x ∈ act.erase symbol, f x = ∑ x ∈ act, f x - if symbol ∈ act then f symbol else 0 := by
  by_cases hmem : symbol ∈ act
  · rw [if_pos hmem, ← Finset.sum_erase_add act f hmem, add_sub_cancel_right]
  · rw [if_neg hmem, Finset.erase_eq_of_notMem hmem, sub_zero]

theorem total_eq {b : Book} (h : b.keys.margin = some a) :
    b.total = some (a + ∑ symbol ∈ b.keys.activePositions, b.deductedFor symbol) := by
  simp [Book.total, h]

/-- What an accepted entry does to the total: the deduction of the position it
overwrites is lost. -/
theorem total_entry {b : Book} (h : b.keys.margin = some a) {symbol orderId : String} {m : ℕ}
    {slPrice strategyId : String} (hle : (m : ℤ) ≤ a) :
    (ledger.next b (.entry symbol orderId m slPrice strategyId)).total =
      some (a + ∑ x ∈ b.keys.activePositions, b.deductedFor x -
        if symbol ∈ b.keys.activePositions then b.deductedFor symbol else 0) := by
  have hsum := sum_entered b.keys.activePositions b.deducted symbol m
  have herase := sum_erase b.keys.activePositions b.deductedFor symbol
  rw [ledger_next]
  simp only [Machine.next, Machine.reply, step_entry_accepted h hle, Book.record]
  rw [total_eq (withMargin_margin _ _)]
  simp only [Book.deductedFor, withMargin_activePositions, Keys.entered] at hsum herase ⊢
  rw [hsum, herase]
  congr 1
  omega

/-- What a close does to the total: the margin it passes is released, and the
deduction of a position it removes no longer counts. -/
theorem total_close {b : Book} (h : b.keys.margin = some a) (symbol : String) (m : ℕ) :
    (ledger.next b (.close symbol m)).total =
      some (a + ∑ x ∈ b.keys.activePositions, b.deductedFor x + m -
        if symbol ∈ b.keys.activePositions then b.deductedFor symbol else 0) := by
  have herase := sum_erase b.keys.activePositions b.deductedFor symbol
  rw [ledger_next]
  simp only [Machine.next, step_close h, Book.record]
  rw [total_eq (withMargin_margin _ _)]
  simp only [Book.deductedFor, withMargin_activePositions, Keys.removed] at herase ⊢
  rw [herase]
  congr 1
  omega

/-- One call keeps the total exactly when it is orderly. -/
theorem conserved_step_iff (n : ℕ) (b : Book) (c : Call) (hb : HasMargin b)
    (hcons : Conserved n b) (hpass : PassesEntryMargin b c) :
    Conserved n (ledger.next b c) ↔ Orderly b c := by
  rcases hb with ⟨a, ha⟩
  have htotal : a + ∑ symbol ∈ b.keys.activePositions, b.deductedFor symbol = n := by
    have h := hcons
    rw [Conserved, total_eq ha] at h
    exact Option.some.inj h
  cases c with
  | reserve m => exact absurd hpass id
  | entry symbol orderId m slPrice strategyId =>
      by_cases hlt : a < m
      · -- rejected: both sides hold
        have hsame : ledger.next b (.entry symbol orderId m slPrice strategyId) = b := by
          rw [ledger_next]
          simp only [Machine.next, Machine.reply, step_entry_rejected ha hlt, Book.record]
        rw [hsame]
        have hcov : b.keys.covers m = false := by simpa [Keys.covers, ha] using hlt
        exact ⟨fun _ _ => Or.inl hcov, fun _ => hcons⟩
      · -- accepted: the total drops by what the overwritten position had deducted
        rw [Conserved, total_entry ha (not_lt.mp hlt), htotal, Option.some_inj]
        by_cases hmem : symbol ∈ b.keys.activePositions
        · rw [if_pos hmem]
          constructor
          · intro h _
            exact Or.inr (by omega)
          · intro h
            rcases h hmem with hcov | hzero
            · exact absurd (by simpa [Keys.covers, ha] using hcov) hlt
            · omega
        · rw [if_neg hmem]
          exact ⟨fun _ h => absurd h hmem, fun _ => sub_zero _⟩
  | close symbol m =>
      have hded : b.deductedFor symbol = m := by
        have h : b.deducted symbol = some m := hpass
        simp [Book.deductedFor, h]
      rw [Conserved, total_close ha, htotal, Option.some_inj, hded]
      by_cases hmem : symbol ∈ b.keys.activePositions
      · rw [if_pos hmem]
        exact ⟨fun _ => Or.inl hmem, fun _ => add_sub_cancel_right _ _⟩
      · -- nothing to remove: the total grows by `m`
        rw [if_neg hmem]
        constructor
        · intro h
          exact Or.inr (by omega)
        · rintro (h | h)
          · exact absurd h hmem
          · omega

theorem openingBook_conserved (n : ℕ) : Conserved n (openingBook n) := by
  have h : (openingBook n).keys.margin = some (n : ℤ) := opening_margin n
  rw [Conserved, total_eq h]
  simp [openingBook, opening]

/-- Exactly which histories of entries and closes conserve margin: the total is
the initial margin in every state reached if and only if every call is orderly
when it is made. -/
theorem margin_conserved_iff_orderly (n : ℕ) (calls : List Call)
    (hpass : ∀ t ∈ ledger.trans (openingBook n) calls, PassesEntryMargin t.pre t.op) :
    (∀ t ∈ ledger.trans (openingBook n) calls, Conserved n t.post) ↔
      ∀ t ∈ ledger.trans (openingBook n) calls, Orderly t.pre t.op :=
  ledger.trans_forall_iff hasMargin_step (conserved_step_iff n)
    ⟨n, opening_margin n⟩ (openingBook_conserved n) hpass

/-- An entry, its close and a new entry of the same symbol, each close passing the margin of
its entry, conserve margin. -/
theorem margin_conserved_reentry :
    (∀ t ∈ ledger.trans (openingBook 1000)
      [.entry "RELIANCE" "order-1" 800 "2450.50" "STRAT001", .close "RELIANCE" 800,
       .entry "RELIANCE" "order-2" 500 "2400.00" "STRAT001"], PassesEntryMargin t.pre t.op) ∧
    ∀ t ∈ ledger.trans (openingBook 1000)
      [.entry "RELIANCE" "order-1" 800 "2450.50" "STRAT001", .close "RELIANCE" 800,
       .entry "RELIANCE" "order-2" 500 "2400.00" "STRAT001"], Conserved 1000 t.post :=
  ⟨by decide +kernel,
    (margin_conserved_iff_orderly 1000 _ (by decide +kernel)).mpr (by decide +kernel)⟩

/-- A second close of the same position releases its margin again: 1000 became
1800. -/
theorem second_close_mints_margin :
    ¬ ∀ (n : ℕ) (calls : List Call),
      (∀ t ∈ ledger.trans (openingBook n) calls, PassesEntryMargin t.pre t.op) →
      ∀ t ∈ ledger.trans (openingBook n) calls, Conserved n t.post := by
  intro h
  have hall := h 1000 [.entry "RELIANCE" "order-1" 800 "2450.50" "STRAT001",
    .close "RELIANCE" 800, .close "RELIANCE" 800] (by decide +kernel)
  revert hall
  decide +kernel

end Intraday.Lua.Margin
