import Mathlib.Algebra.BigOperators.Group.List.Basic
import Mathlib.Data.List.Infix
import Intraday.Core.Constants
import Intraday.Lib.Dict
import Intraday.Lib.Machine
import Intraday.Lib.Python

/-!
# Intraday.Orchestrator.WorkingMemory — `WorkingMemory` of `shared/orchestrator/memory.py`

A dictionary with a budget. The keys are also kept in a list, in the order of their last
`put`; after a `put` the oldest entries are evicted until the rest fits the budget.

The entries in the order of the list are what a memory is for (`entries`), and a `put` is
read off them: the key is moved to the end and the longest suffix that fits is kept
(`put_spec`). `working_memory_run` says so for every step of every history, with the list and
the dictionary in agreement throughout.
-/

namespace Intraday.Orchestrator

open Intraday.Core Intraday.Lib Intraday.Lib.Python

/-! ## Suffixes that fit a budget -/

section Fitting

variable {α : Type} (weight : α → ℕ) (budget : ℕ)

/-- The weight of a list. -/
def total (l : List α) : ℕ := (l.map weight).sum

/-- What is left when the first elements are dropped until the rest fits. -/
def fit : List α → List α
  | [] => []
  | a :: rest => if budget < total weight (a :: rest) then fit rest else a :: rest

/-- `s` is the longest suffix of `l` that fits. -/
structure LongestFitting (l s : List α) : Prop where
  suffix : s <:+ l
  fits : total weight s ≤ budget
  longest : ∀ s', s' <:+ l → total weight s' ≤ budget → s' <:+ s

variable {weight budget}

theorem longestFitting_fit (l : List α) : LongestFitting weight budget l (fit weight budget l) := by
  induction l with
  | nil =>
      refine ⟨List.suffix_refl [], Nat.zero_le _, ?_⟩
      intro s' hs' _
      exact hs'
  | cons a rest ih =>
      rw [fit]
      split
      · rename_i hover
        refine ⟨ih.suffix.trans (List.suffix_cons a rest), ih.fits, ?_⟩
        intro s' hs' hfits
        rcases List.suffix_cons_iff.mp hs' with rfl | hs'
        · -- the whole list does not fit
          omega
        · exact ih.longest s' hs' hfits
      · rename_i hunder
        refine ⟨List.suffix_refl _, by omega, ?_⟩
        intro s' hs' _
        exact hs'

end Fitting

/-! ## The memory -/

/-- `_approx_tokens`. -/
def approxTokens (text : String) : ℕ := max 1 (text.length / 4)

/-- `WorkingMemory`. -/
structure WorkingMemory where
  maxTokens : ℕ
  store : Dict String String
  order : List String

/-- `sum(_approx_tokens(v) for v in store.values())`. -/
def storeTokens (store : Dict String String) : ℕ := (store.values.map approxTokens).sum

namespace WorkingMemory

/-- `WorkingMemory(max_tokens)`. -/
def new (maxTokens : ℕ) : WorkingMemory :=
  { maxTokens := maxTokens, store := .empty, order := [] }

/-- `get`. -/
def get (w : WorkingMemory) (key : String) : Option String := w.store.get? key

/-- `token_count`. -/
def tokenCount (w : WorkingMemory) : ℕ := storeTokens w.store

/-- `self._order.remove(key)`. -/
def removeFromOrder (w : WorkingMemory) (key : String) : Except Exc WorkingMemory :=
  if key ∈ w.order then .ok { w with order := w.order.erase key }
  else .error (.other "list.remove(x): x not in list")

/-- The loop of `_prune`. It pops the key that it evicts, so it is a recursion over the list of
keys. -/
def pruneLoop (maxTokens : ℕ) (store : Dict String String) :
    List String → Except Exc WorkingMemory
  | [] => .ok { maxTokens := maxTokens, store := store, order := [] }
  | evicted :: order =>
      if storeTokens store > maxTokens then
        match store.get? evicted with
        | none => .error (.other ("'" ++ evicted ++ "'"))
        | some _ => pruneLoop maxTokens (store.erase evicted) order
      else .ok { maxTokens := maxTokens, store := store, order := evicted :: order }

/-- `_prune`. -/
def prune (w : WorkingMemory) : Except Exc WorkingMemory :=
  pruneLoop w.maxTokens w.store w.order

/-- `put`. -/
def put (w : WorkingMemory) (key value : String) : Except Exc WorkingMemory := do
  let w ← if (w.store.get? key).isSome then w.removeFromOrder key else .ok w
  prune { w with store := w.store.set key value, order := w.order ++ [key] }

/-- `delete`. -/
def delete (w : WorkingMemory) (key : String) : Except Exc WorkingMemory :=
  if (w.store.get? key).isSome then removeFromOrder { w with store := w.store.erase key } key
  else .ok w

end WorkingMemory

/-- A call that writes. -/
inductive MemoryOp where
  | put (key value : String)
  | delete (key : String)
deriving DecidableEq, Repr

/-- What a call does to the memory. -/
def MemoryOp.apply (w : WorkingMemory) : MemoryOp → Except Exc WorkingMemory
  | .put key value => w.put key value
  | .delete key => w.delete key

/-- The memory as a machine; it replies with the exception of a call that raises, if any. -/
def workingMemory : Machine WorkingMemory MemoryOp (Option Exc) where
  step w op :=
    match op.apply w with
    | .ok w => (w, none)
    | .error e => (w, some e)

/-! ## Entries in order -/

/-- The entries of the listed keys. -/
def entriesOf (store : Dict String String) (order : List String) : List (String × String) :=
  order.filterMap fun key => (store.get? key).map fun value => (key, value)

/-- The entries, the least recently put first. -/
def WorkingMemory.entries (w : WorkingMemory) : List (String × String) :=
  entriesOf w.store w.order

/-- The list of keys has no duplicates and names what is stored. -/
structure Agrees (store : Dict String String) (order : List String) : Prop where
  nodup : order.Nodup
  mem_iff : ∀ key, key ∈ order ↔ (store.get? key).isSome = true

/-- The tokens of an entry. -/
def entryTokens (e : String × String) : ℕ := approxTokens e.2

/-- The entries with a key moved to the end. -/
def movedToEnd (l : List (String × String)) (key value : String) : List (String × String) :=
  l.filter (fun e => decide (e.1 ≠ key)) ++ [(key, value)]

variable {store : Dict String String} {order : List String} {key : String}

theorem mem_entriesOf {e : String × String} :
    e ∈ entriesOf store order ↔ e.1 ∈ order ∧ store.get? e.1 = some e.2 := by
  rcases e with ⟨k, v⟩
  simp only [entriesOf, List.mem_filterMap, Option.map_eq_some_iff, Prod.mk.injEq]
  constructor
  · rintro ⟨k', hmem, v', hget, rfl, rfl⟩
    exact ⟨hmem, hget⟩
  · rintro ⟨hmem, hget⟩
    exact ⟨k, hmem, v, hget, rfl, rfl⟩

theorem entriesOf_append (order₁ order₂ : List String) :
    entriesOf store (order₁ ++ order₂) = entriesOf store order₁ ++ entriesOf store order₂ :=
  List.filterMap_append

theorem entriesOf_cons {value : String} (h : store.get? key = some value) :
    entriesOf store (key :: order) = (key, value) :: entriesOf store order := by
  simp [entriesOf, h]

/-- Only the listed keys matter. -/
theorem entriesOf_congr {store' : Dict String String}
    (h : ∀ key ∈ order, store.get? key = store'.get? key) :
    entriesOf store order = entriesOf store' order := by
  refine List.filterMap_congr ?_
  intro key hkey
  rw [h key hkey]

/-- Leaving a key out of the list leaves its entry out. -/
theorem entriesOf_filter (key : String) :
    entriesOf store (order.filter fun k => decide (k ≠ key)) =
      (entriesOf store order).filter fun e => decide (e.1 ≠ key) := by
  induction order with
  | nil => rfl
  | cons k rest ih =>
      cases hget : store.get? k with
      | none =>
          have hskip : ∀ l, entriesOf store (k :: l) = entriesOf store l := by
            intro l
            simp [entriesOf, hget]
          rw [hskip]
          by_cases hk : k = key
          · simpa [hk] using ih
          · simpa [List.filter_cons, hk, hskip] using ih
      | some value =>
          rw [entriesOf_cons hget]
          by_cases hk : k = key
          · simpa [List.filter_cons, hk] using ih
          · simpa [List.filter_cons, hk, entriesOf_cons hget] using ih

theorem entriesOf_nodup (h : order.Nodup) : (entriesOf store order).Nodup := by
  refine h.filterMap ?_
  intro k k' e he he'
  rw [Option.mem_def, Option.map_eq_some_iff] at he he'
  rcases he with ⟨v, _, rfl⟩
  rcases he' with ⟨v', _, heq⟩
  exact (Prod.mk.inj heq).1.symm

/-- The entries in order are the entries of the dictionary. -/
theorem Agrees.perm (h : Agrees store order) : (entriesOf store order).Perm store.entries := by
  have hentries : store.entries.Nodup := List.Nodup.of_map Prod.fst store.nodup
  rw [List.perm_ext_iff_of_nodup (entriesOf_nodup h.nodup) hentries]
  intro e
  rw [mem_entriesOf, ← Dict.get?_eq_some_iff]
  constructor
  · exact fun he => he.2
  · intro he
    refine ⟨(h.mem_iff e.1).mpr ?_, he⟩
    rw [he]
    rfl

theorem Agrees.total_eq (h : Agrees store order) :
    total entryTokens (entriesOf store order) = storeTokens store := by
  have hsum := (h.perm.map entryTokens).sum_eq
  rw [total, hsum, storeTokens, Dict.values, List.map_map]
  rfl

theorem agrees_new (maxTokens : ℕ) :
    Agrees (WorkingMemory.new maxTokens).store (WorkingMemory.new maxTokens).order where
  nodup := List.nodup_nil
  mem_iff := by
    intro key
    simp [WorkingMemory.new, Dict.empty, Dict.get?, Dict.lookup]

/-- A key is taken out of both places. -/
theorem Agrees.erase (h : Agrees store order) (key : String) :
    Agrees (store.erase key) (order.filter fun k => decide (k ≠ key)) where
  nodup := h.nodup.filter _
  mem_iff := by
    intro k
    rw [List.mem_filter, decide_eq_true_eq, h.mem_iff]
    by_cases hk : k = key
    · simp [hk]
    · simp [hk, Dict.get?_erase_of_ne _ hk]

/-- A key is put into both places, at the end of the list. -/
theorem Agrees.put (h : Agrees store order) (key value : String) :
    Agrees (store.set key value) ((order.filter fun k => decide (k ≠ key)) ++ [key]) where
  nodup := by
    rw [List.nodup_append]
    refine ⟨h.nodup.filter _, List.nodup_singleton key, ?_⟩
    intro a ha b hb hab
    rw [List.mem_filter, decide_eq_true_eq] at ha
    rw [List.mem_singleton] at hb
    exact ha.2 (hab.trans hb)
  mem_iff := by
    intro k
    rw [List.mem_append, List.mem_filter, decide_eq_true_eq, List.mem_singleton, h.mem_iff]
    by_cases hk : k = key
    · simp [hk]
    · simp [hk, Dict.get?_set_of_ne _ _ hk]

theorem entriesOf_put (value : String) :
    entriesOf (store.set key value) ((order.filter fun k => decide (k ≠ key)) ++ [key]) =
      movedToEnd (entriesOf store order) key value := by
  have hold : entriesOf (store.set key value) (order.filter fun k => decide (k ≠ key)) =
      entriesOf store (order.filter fun k => decide (k ≠ key)) := by
    refine entriesOf_congr ?_
    intro k hk
    rw [List.mem_filter, decide_eq_true_eq] at hk
    exact Dict.get?_set_of_ne _ _ hk.2
  rw [entriesOf_append, hold, entriesOf_filter, entriesOf_cons (Dict.get?_set_self _ _ _)]
  rfl

/-! ## One call -/

open WorkingMemory

/-- The list without its first key. -/
theorem filter_ne_head (h : (key :: order).Nodup) :
    (key :: order).filter (fun k => decide (k ≠ key)) = order := by
  have hnot : key ∉ order := (List.nodup_cons.mp h).1
  rw [List.filter_cons_of_neg (by simp), List.filter_eq_self]
  intro k hk
  rw [decide_eq_true_eq]
  rintro rfl
  exact hnot hk

/-- The loop evicts until the rest fits, and raises nothing. -/
theorem pruneLoop_spec (maxTokens : ℕ) (h : Agrees store order) :
    ∃ w, pruneLoop maxTokens store order = .ok w ∧ w.maxTokens = maxTokens ∧
      Agrees w.store w.order ∧ w.entries = fit entryTokens maxTokens (entriesOf store order) := by
  -- the induction is on the list of keys, which loses its head with every eviction
  induction order generalizing store with
  | nil => exact ⟨_, rfl, rfl, h, rfl⟩
  | cons evicted rest ih =>
      have hsome : (store.get? evicted).isSome = true :=
        (h.mem_iff evicted).mp List.mem_cons_self
      rcases Option.isSome_iff_exists.mp hsome with ⟨value, hvalue⟩
      have hentries : entriesOf store (evicted :: rest) =
          (evicted, value) :: entriesOf store rest := entriesOf_cons hvalue
      have htotal := h.total_eq
      by_cases hover : storeTokens store > maxTokens
      · have herase : Agrees (store.erase evicted) rest := by
          have := h.erase evicted
          rwa [filter_ne_head h.nodup] at this
        -- the other entries stay as they are, since no key comes twice
        have hrest : entriesOf (store.erase evicted) rest = entriesOf store rest := by
          refine entriesOf_congr ?_
          intro k hk
          refine Dict.get?_erase_of_ne _ ?_
          rintro rfl
          exact (List.nodup_cons.mp h.nodup).1 hk
        rcases ih herase with ⟨w, hw, hmax, hagrees, hfit⟩
        refine ⟨w, ?_, hmax, hagrees, ?_⟩
        · rw [pruneLoop, if_pos hover, hvalue]
          exact hw
        · rw [hfit, hrest, hentries, fit, if_pos]
          rw [← hentries, htotal]
          exact hover
      · refine ⟨⟨maxTokens, store, evicted :: rest⟩, ?_, rfl, h, ?_⟩
        · rw [pruneLoop, if_neg hover]
        · have hfits :
              ¬ maxTokens < total entryTokens ((evicted, value) :: entriesOf store rest) := by
            rw [← hentries, htotal]
            exact hover
          rw [WorkingMemory.entries, hentries, fit, if_neg hfits]

/-- `remove` finds a stored key and takes it out of the list. -/
theorem removeFromOrder_of_mem {w : WorkingMemory} (hnodup : w.order.Nodup)
    (hmem : key ∈ w.order) :
    w.removeFromOrder key =
      .ok { w with order := w.order.filter fun k => decide (k ≠ key) } := by
  have hfilter : w.order.erase key = w.order.filter fun k => decide (k ≠ key) := by
    rw [hnodup.erase_eq_filter]
    refine List.filter_congr ?_
    intro k _
    by_cases hk : k = key <;> simp [hk]
  rw [removeFromOrder, if_pos hmem, hfilter]

/-- A key that is not listed need not be taken out. -/
theorem filter_ne_of_not_mem (h : key ∉ order) :
    order.filter (fun k => decide (k ≠ key)) = order := by
  rw [List.filter_eq_self]
  intro k hk
  rw [decide_eq_true_eq]
  rintro rfl
  exact h hk

/-- A `put` moves its key to the end and keeps the longest suffix that fits. -/
theorem put_spec {w : WorkingMemory} (h : Agrees w.store w.order) (key value : String) :
    ∃ w', w.put key value = .ok w' ∧ w'.maxTokens = w.maxTokens ∧ Agrees w'.store w'.order ∧
      w'.entries = fit entryTokens w.maxTokens (movedToEnd w.entries key value) := by
  have hput : w.put key value =
      pruneLoop w.maxTokens (w.store.set key value)
        ((w.order.filter fun k => decide (k ≠ key)) ++ [key]) := by
    rw [put]
    by_cases hkey : (w.store.get? key).isSome = true
    · rw [if_pos hkey, removeFromOrder_of_mem h.nodup ((h.mem_iff key).mpr hkey)]
      rfl
    · have hnot : key ∉ w.order := fun hmem => hkey ((h.mem_iff key).mp hmem)
      rw [if_neg hkey, filter_ne_of_not_mem hnot]
      rfl
  rw [hput, WorkingMemory.entries, ← entriesOf_put]
  exact pruneLoop_spec w.maxTokens (h.put key value)

/-- A `delete` takes its key out. -/
theorem delete_spec {w : WorkingMemory} (h : Agrees w.store w.order) (key : String) :
    ∃ w', w.delete key = .ok w' ∧ w'.maxTokens = w.maxTokens ∧ Agrees w'.store w'.order := by
  rw [WorkingMemory.delete]
  by_cases hkey : (w.store.get? key).isSome = true
  · have hmem : key ∈ w.order := (h.mem_iff key).mpr hkey
    have hremove : removeFromOrder { w with store := w.store.erase key } key =
        .ok { w with
              store := w.store.erase key
              order := w.order.filter fun k => decide (k ≠ key) } :=
      removeFromOrder_of_mem h.nodup hmem
    rw [if_pos hkey, hremove]
    exact ⟨_, rfl, rfl, h.erase key⟩
  · rw [if_neg hkey]
    exact ⟨w, rfl, rfl, h⟩

/-! ## Whole histories -/

/-- The list of keys agrees with the dictionary. -/
def WorkingMemory.Consistent (w : WorkingMemory) : Prop :=
  w.order.Nodup ∧ ∀ key, key ∈ w.order ↔ key ∈ w.store.entries.map Prod.fst

theorem consistent_iff {w : WorkingMemory} : w.Consistent ↔ Agrees w.store w.order := by
  have hstored : ∀ key, key ∈ w.store.entries.map Prod.fst ↔
      (w.store.get? key).isSome = true := by
    intro key
    rw [Option.isSome_iff_exists, List.mem_map]
    constructor
    · rintro ⟨⟨k, v⟩, hmem, rfl⟩
      exact ⟨v, Dict.get?_eq_some_iff.mpr hmem⟩
    · rintro ⟨v, hv⟩
      exact ⟨(key, v), Dict.get?_eq_some_iff.mp hv, rfl⟩
  constructor
  · intro h
    refine ⟨h.1, ?_⟩
    intro key
    rw [h.2, hstored]
  · intro h
    refine ⟨h.nodup, ?_⟩
    intro key
    rw [h.mem_iff, hstored]

/-- One call raises nothing and does what it is for. -/
theorem workingMemory_next {w : WorkingMemory} (h : Agrees w.store w.order) (op : MemoryOp) :
    workingMemory.reply w op = none ∧ (workingMemory.next w op).maxTokens = w.maxTokens ∧
      Agrees (workingMemory.next w op).store (workingMemory.next w op).order ∧
      ∀ key value, op = .put key value →
        (workingMemory.next w op).entries =
          fit entryTokens w.maxTokens (movedToEnd w.entries key value) := by
  cases op with
  | put key value =>
      rcases put_spec h key value with ⟨w', hput, hmax, hagrees, hentries⟩
      have hstep : workingMemory.step w (.put key value) = (w', none) := by
        simp only [workingMemory, MemoryOp.apply, hput]
      rw [Machine.reply, Machine.next, hstep]
      refine ⟨rfl, hmax, hagrees, ?_⟩
      intro key' value' hop
      cases hop
      exact hentries
  | delete key =>
      rcases delete_spec h key with ⟨w', hdelete, hmax, hagrees⟩
      have hstep : workingMemory.step w (.delete key) = (w', none) := by
        simp only [workingMemory, MemoryOp.apply, hdelete]
      rw [Machine.reply, Machine.next, hstep]
      refine ⟨rfl, hmax, hagrees, ?_⟩
      intro key' value' hop
      cases hop

/-- In every step of every history no call raises and the list of keys is duplicate-free and
names exactly what is stored; after a `put` the tokens are within the budget, and the entries
are the longest suffix, of those before with the key moved to the end, that fits it. -/
theorem working_memory_run (maxTokens : ℕ) (ops : List MemoryOp) :
    ∀ t ∈ workingMemory.trans (.new maxTokens) ops,
      t.reply = none ∧ t.post.Consistent ∧
        ∀ key value, t.op = .put key value →
          t.post.tokenCount ≤ maxTokens ∧
            LongestFitting entryTokens maxTokens (movedToEnd t.pre.entries key value)
              t.post.entries := by
  have hkeeps : ∀ (w : WorkingMemory) (op : MemoryOp),
      w.maxTokens = maxTokens ∧ Agrees w.store w.order → True →
      (workingMemory.next w op).maxTokens = maxTokens ∧
        Agrees (workingMemory.next w op).store (workingMemory.next w op).order := by
    intro w op hw _
    have hnext := workingMemory_next hw.2 op
    exact ⟨hnext.2.1.trans hw.1, hnext.2.2.1⟩
  intro t ht
  rcases workingMemory.trans_invariant_of_allowed hkeeps ⟨rfl, agrees_new maxTokens⟩
    (fun _ _ => trivial) t ht with ⟨⟨hmax, hpre⟩, hfire⟩
  rcases workingMemory_next hpre t.op with ⟨hreply, _, hpost, hput⟩
  rw [hfire]
  refine ⟨hreply, consistent_iff.mpr hpost, ?_⟩
  intro key value hop
  have hlongest : LongestFitting entryTokens maxTokens (movedToEnd t.pre.entries key value)
      (workingMemory.next t.pre t.op).entries := by
    rw [hput key value hop, hmax]
    exact longestFitting_fit _
  refine ⟨?_, hlongest⟩
  exact hpost.total_eq.symm.trans_le hlongest.fits

/-- The first value that is put fits a budget of eight tokens. -/
theorem first_put_fits :
    workingMemory.fire (.new 8) (.put "regime" "BULL") ∈
        workingMemory.trans (.new 8) [.put "regime" "BULL", .delete "regime"] ∧
      (workingMemory.next (.new 8) (.put "regime" "BULL")).tokenCount ≤ 8 := by
  refine ⟨List.mem_cons_self, ?_⟩
  have hfirst := working_memory_run 8 [.put "regime" "BULL", .delete "regime"] _ List.mem_cons_self
  exact (hfirst.2.2 "regime" "BULL" rfl).1

end Intraday.Orchestrator
