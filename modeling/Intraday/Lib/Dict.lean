import Mathlib.Algebra.Group.Basic
import Mathlib.Algebra.Ring.Nat
import Mathlib.Data.List.Induction
import Mathlib.Data.List.Nodup

/-!
# Intraday.Lib.Dict — insertion-ordered dictionaries

A Python `dict`: at most one value for a key, iterated in the order in which the
keys were first inserted; assigning to a present key keeps its place. That keys
are not repeated is part of the value.
-/

namespace Intraday.Lib

/-- A dictionary, as its entries in insertion order. -/
structure Dict (κ ν : Type) where
  entries : List (κ × ν)
  nodup : (entries.map Prod.fst).Nodup

namespace Dict

variable {κ ν : Type} [DecidableEq κ]

/-- Value of the first entry for `k`. -/
def lookup (k : κ) : List (κ × ν) → Option ν
  | [] => none
  | (k', v) :: rest => if k' = k then some v else lookup k rest

/-- Replace the value for `k` in place, or append an entry. -/
def assign (k : κ) (v : ν) : List (κ × ν) → List (κ × ν)
  | [] => [(k, v)]
  | (k', v') :: rest => if k' = k then (k, v) :: rest else (k', v') :: assign k v rest

theorem keys_assign (k : κ) (v : ν) (l : List (κ × ν)) :
    (assign k v l).map Prod.fst =
      if k ∈ l.map Prod.fst then l.map Prod.fst else l.map Prod.fst ++ [k] := by
  induction l with
  | nil => simp [assign]
  | cons e rest ih =>
      rcases e with ⟨k', v'⟩
      by_cases hk : k' = k
      · simp [assign, hk]
      · have hk' : ¬ k = k' := fun h => hk h.symm
        simp only [assign, hk, if_false, List.map_cons, ih, List.mem_cons, hk', false_or]
        split <;> rfl

/-- A new key is appended. -/
theorem assign_of_notMem {k : κ} (v : ν) {l : List (κ × ν)} (h : k ∉ l.map Prod.fst) :
    assign k v l = l ++ [(k, v)] := by
  induction l with
  | nil => rfl
  | cons e rest ih =>
      rw [List.map_cons, List.mem_cons, not_or] at h
      rw [assign, if_neg (Ne.symm h.1), ih h.2]
      rfl

theorem nodup_assign (k : κ) (v : ν) {l : List (κ × ν)} (h : (l.map Prod.fst).Nodup) :
    ((assign k v l).map Prod.fst).Nodup := by
  rw [keys_assign]
  split
  · exact h
  · rename_i hk
    rw [List.nodup_append]
    refine ⟨h, List.nodup_singleton k, ?_⟩
    intro a ha b hb hab
    rw [List.mem_singleton] at hb
    exact hk (hb ▸ hab ▸ ha)

omit [DecidableEq κ] in
theorem eq_of_entries {d d' : Dict κ ν} (h : d.entries = d'.entries) : d = d' := by
  cases d
  cases d'
  cases h
  rfl

/-- The empty dictionary. -/
def empty : Dict κ ν := { entries := [], nodup := List.nodup_nil }

/-- `d.get(k)`. -/
def get? (d : Dict κ ν) (k : κ) : Option ν := lookup k d.entries

/-- `d[k] = v`. -/
def set (d : Dict κ ν) (k : κ) (v : ν) : Dict κ ν :=
  { entries := assign k v d.entries, nodup := nodup_assign k v d.nodup }

/-- `del d[k]`, and `d.pop(k, None)`. -/
def erase (d : Dict κ ν) (k : κ) : Dict κ ν :=
  { entries := d.entries.filter fun e => decide (e.1 ≠ k)
    nodup := d.nodup.sublist (List.filter_sublist.map Prod.fst) }

/-- `list(d.values())`. -/
def values (d : Dict κ ν) : List ν := d.entries.map Prod.snd

/-- `{key(x): x for x in xs}`. -/
def ofList (key : ν → κ) (xs : List ν) : Dict κ ν :=
  xs.foldl (fun d x => d.set (key x) x) empty

/-- `{k: f(k, v) for k, v in d.items()}`. -/
def mapEntries {ν' : Type} (f : κ → ν → ν') (d : Dict κ ν) : Dict κ ν' :=
  { entries := d.entries.map fun e => (e.1, f e.1 e.2)
    nodup := by
      rw [List.map_map]
      exact d.nodup }

/-- `d.update(other)`. -/
def update (d other : Dict κ ν) : Dict κ ν :=
  other.entries.foldl (fun d e => d.set e.1 e.2) d

@[simp] theorem get?_set_self (d : Dict κ ν) (k : κ) (v : ν) : (d.set k v).get? k = some v := by
  simp only [get?, set]
  induction d.entries with
  | nil => simp [assign, lookup]
  | cons e rest ih =>
      rcases e with ⟨k', v'⟩
      by_cases hk : k' = k
      · simp [assign, lookup, hk]
      · simpa [assign, lookup, hk] using ih

theorem get?_set_of_ne (d : Dict κ ν) {k k' : κ} (v : ν) (h : k' ≠ k) :
    (d.set k v).get? k' = d.get? k' := by
  simp only [get?, set]
  induction d.entries with
  | nil => simp [assign, lookup, h.symm]
  | cons e rest ih =>
      rcases e with ⟨k'', v'⟩
      by_cases hk : k'' = k
      · have hk' : ¬ k = k' := fun heq => h heq.symm
        simp [assign, lookup, hk, hk']
      · by_cases hk' : k'' = k'
        · have hne : ¬ k' = k := h
          simp [assign, lookup, hk', hne]
        · simpa [assign, lookup, hk, hk'] using ih

/-- A key has the values of its entries, and has only one. -/
theorem get?_eq_some_iff {d : Dict κ ν} {k : κ} {v : ν} :
    d.get? k = some v ↔ (k, v) ∈ d.entries := by
  have hnd := d.nodup
  simp only [get?]
  generalize d.entries = l at hnd
  induction l with
  | nil => simp [lookup]
  | cons e rest ih =>
      rcases e with ⟨k', v'⟩
      simp only [List.map_cons, List.nodup_cons] at hnd
      by_cases hk : k' = k
      · subst hk
        have hrest : (k', v) ∉ rest := fun hmem => hnd.1 (List.mem_map_of_mem hmem)
        simp [lookup, hrest, eq_comm]
      · have hk' : ¬ k = k' := fun h => hk h.symm
        simp [lookup, hk, hk', ih hnd.2]

theorem lookup_eq_none {k : κ} {l : List (κ × ν)} (h : k ∉ l.map Prod.fst) :
    lookup k l = none := by
  induction l with
  | nil => rfl
  | cons e rest ih =>
      rw [List.map_cons, List.mem_cons, not_or] at h
      have hk : ¬ e.1 = k := fun heq => h.1 heq.symm
      simp [lookup, hk, ih h.2]

@[simp] theorem get?_erase_self (d : Dict κ ν) (k : κ) : (d.erase k).get? k = none := by
  cases hfound : (d.erase k).get? k with
  | none => rfl
  | some v =>
      have hmem := get?_eq_some_iff.mp hfound
      simp [erase] at hmem

theorem get?_erase_of_ne (d : Dict κ ν) {k k' : κ} (h : k' ≠ k) :
    (d.erase k).get? k' = d.get? k' := by
  refine Option.ext ?_
  intro v
  rw [get?_eq_some_iff, get?_eq_some_iff]
  simp [erase, h]

theorem mem_values {d : Dict κ ν} {v : ν} : v ∈ d.values ↔ ∃ k, d.get? k = some v := by
  constructor
  · intro h
    rcases List.mem_map.mp h with ⟨⟨k, v'⟩, hmem, rfl⟩
    exact ⟨k, get?_eq_some_iff.mpr hmem⟩
  · rintro ⟨k, hk⟩
    exact List.mem_map.mpr ⟨(k, v), get?_eq_some_iff.mp hk, rfl⟩

/-! ## Dictionaries made from a list -/

/-- A key has the last element of the list that it is the key of. -/
theorem get?_ofList (key : ν → κ) (xs : List ν) (k : κ) :
    (ofList key xs).get? k = (xs.filter fun x => decide (key x = k)).getLast? := by
  induction xs using List.reverseRecOn with
  | nil => rfl
  | append_singleton xs x ih =>
      have hset : ofList key (xs ++ [x]) = (ofList key xs).set (key x) x := by
        simp [ofList, List.foldl_append]
      rw [hset, List.filter_append]
      by_cases hk : key x = k
      · subst hk
        simp
      · have hne : k ≠ key x := fun h => hk h.symm
        rw [get?_set_of_ne _ _ hne, ih]
        simp [hk]

/-- Mapping the list maps what is found. -/
theorem get?_ofList_map {α : Type} (key : ν → κ) (f : α → ν) (xs : List α) (k : κ) :
    (ofList key (xs.map f)).get? k = ((ofList (fun x => key (f x)) xs).get? k).map f := by
  rw [get?_ofList, get?_ofList, List.filter_map, List.getLast?_map]
  rfl

theorem get?_ofList_eq_some {key : ν → κ} {xs : List ν} {k : κ} {x : ν}
    (h : (ofList key xs).get? k = some x) : x ∈ xs ∧ key x = k := by
  rw [get?_ofList] at h
  have hmem := List.mem_of_getLast? h
  rw [List.mem_filter, decide_eq_true_eq] at hmem
  exact hmem

/-- A key that the list has is in the dictionary. -/
theorem exists_get?_ofList (key : ν → κ) {xs : List ν} {x : ν} (h : x ∈ xs) :
    ∃ y, (ofList key xs).get? (key x) = some y := by
  rw [get?_ofList]
  have hmem : x ∈ xs.filter fun y => decide (key y = key x) := by
    rw [List.mem_filter, decide_eq_true_eq]
    exact ⟨h, rfl⟩
  exact ⟨_, List.getLast?_eq_some_getLast (List.ne_nil_of_mem hmem)⟩

/-- Without repeated keys, a key has the one element it is the key of. -/
theorem get?_ofList_of_nodup {key : ν → κ} {xs : List ν} (h : (xs.map key).Nodup) {k : κ} {x : ν} :
    (ofList key xs).get? k = some x ↔ x ∈ xs ∧ key x = k := by
  refine ⟨get?_ofList_eq_some, ?_⟩
  rintro ⟨hx, rfl⟩
  rcases exists_get?_ofList key hx with ⟨y, hy⟩
  rcases get?_ofList_eq_some hy with ⟨hmem, hkey⟩
  rw [hy, List.inj_on_of_nodup_map h hmem hx hkey]

theorem get?_ofList_eq_none_iff {key : ν → κ} {xs : List ν} {k : κ} :
    (ofList key xs).get? k = none ↔ ∀ x ∈ xs, key x ≠ k := by
  rw [get?_ofList, List.getLast?_eq_none_iff, List.filter_eq_nil_iff]
  simp only [decide_eq_true_eq, ne_eq]

/-! ## Mapped and merged dictionaries -/

theorem get?_mapEntries {ν' : Type} (f : κ → ν → ν') (d : Dict κ ν) (k : κ) :
    (d.mapEntries f).get? k = (d.get? k).map (f k) := by
  simp only [get?, mapEntries]
  induction d.entries with
  | nil => rfl
  | cons e rest ih =>
      by_cases hk : e.1 = k
      · simp [lookup, hk]
      · simpa [lookup, hk] using ih

/-- The other dictionary's values win. -/
theorem get?_update (d other : Dict κ ν) (k : κ) :
    (d.update other).get? k = (other.get? k).or (d.get? k) := by
  rcases other with ⟨entries, hnodup⟩
  simp only [update, get?]
  induction entries generalizing d with
  | nil => rfl
  | cons e rest ih =>
      rcases e with ⟨k', v⟩
      rw [List.map_cons, List.nodup_cons] at hnodup
      rw [List.foldl_cons]
      refine (ih (d.set k' v) hnodup.2).trans ?_
      by_cases hk : k' = k
      · subst hk
        -- the key does not come again
        have hrest : lookup k' rest = none := lookup_eq_none hnodup.1
        have hset : lookup k' (d.set k' v).entries = some v := get?_set_self d k' v
        simp [lookup, hrest, hset]
      · have hset : lookup k (d.set k' v).entries = lookup k d.entries :=
          get?_set_of_ne d v fun h => hk h.symm
        simp [lookup, hk, hset]

/-- After assignments a key has the last value that was assigned to it. -/
theorem get?_foldl_set (items : List (κ × ν)) (d : Dict κ ν) (k : κ) :
    (items.foldl (fun d e => d.set e.1 e.2) d).get? k =
      ((items.filter fun e => decide (e.1 = k)).getLast?.map Prod.snd).or (d.get? k) := by
  induction items using List.reverseRecOn with
  | nil => rfl
  | append_singleton items e ih =>
      rw [List.foldl_append, List.foldl_cons, List.foldl_nil, List.filter_append]
      by_cases hk : e.1 = k
      · subst hk
        simp
      · have hne : k ≠ e.1 := fun h => hk h.symm
        rw [get?_set_of_ne _ _ hne, ih]
        simp [hk]

/-- Assigning to a key between others keeps its place. -/
theorem assign_middle {k : κ} (v v' : ν) {before : List (κ × ν)} (after : List (κ × ν))
    (h : k ∉ before.map Prod.fst) :
    assign k v (before ++ (k, v') :: after) = before ++ (k, v) :: after := by
  induction before with
  | nil => simp [assign]
  | cons e before ih =>
      rw [List.map_cons, List.mem_cons, not_or] at h
      rw [List.cons_append, assign, if_neg (Ne.symm h.1), ih h.2]
      rfl

/-- Assigning to the keys that are left of a dictionary, in their order. -/
theorem foldl_set_keys (items : List (κ × ν)) (d : Dict κ ν) (before after : List (κ × ν))
    (hd : d.entries = before ++ after)
    (hkeys : ∃ more, items.map Prod.fst = after.map Prod.fst ++ more)
    (hnodup : ((before ++ items).map Prod.fst).Nodup) :
    (items.foldl (fun d e => d.set e.1 e.2) d).entries = before ++ items := by
  induction items generalizing d before after with
  | nil =>
      rcases hkeys with ⟨more, hmore⟩
      have hafter : after = [] := by
        cases after with
        | nil => rfl
        | cons e after => cases hmore
      rw [List.foldl_nil, hd, hafter]
  | cons e items ih =>
      rcases e with ⟨k, v⟩
      have hk : k ∉ before.map Prod.fst := by
        rw [List.map_append, List.nodup_append] at hnodup
        intro hmem
        exact hnodup.2.2 k hmem k (by simp) rfl
      have hnext : ((before ++ [(k, v)] ++ items).map Prod.fst).Nodup := by
        rw [List.append_assoc]
        exact hnodup
      rcases hkeys with ⟨more, hmore⟩
      rw [List.foldl_cons]
      cases after with
      | nil =>
          -- the key is new
          have hset : (d.set k v).entries = (before ++ [(k, v)]) ++ [] := by
            rw [List.append_nil]
            show assign k v d.entries = _
            rw [hd, List.append_nil, assign_of_notMem v hk]
          have hrest := ih (d.set k v) (before ++ [(k, v)]) [] hset ⟨_, rfl⟩ hnext
          rwa [List.append_assoc] at hrest
      | cons e' after =>
          rcases e' with ⟨k', v'⟩
          rw [List.map_cons, List.map_cons, List.cons_append, List.cons.injEq] at hmore
          obtain rfl : k = k' := hmore.1
          have hset : (d.set k v).entries = (before ++ [(k, v)]) ++ after := by
            show assign k v d.entries = _
            rw [hd, assign_middle v v' after hk, List.append_assoc]
            rfl
          have hrest := ih (d.set k v) (before ++ [(k, v)]) after hset ⟨more, hmore.2⟩ hnext
          rwa [List.append_assoc] at hrest

/-- A dictionary that begins with the keys of another one replaces it. -/
theorem update_eq_self {d other : Dict κ ν}
    (h : ∃ more, other.entries.map Prod.fst = d.entries.map Prod.fst ++ more) :
    d.update other = other := by
  refine eq_of_entries ?_
  have hfold := foldl_set_keys other.entries d [] d.entries (List.nil_append _).symm h
    (by simpa using other.nodup)
  rwa [List.nil_append] at hfold

/-- An update keeps the keys at the front. -/
theorem keys_update (d other : Dict κ ν) :
    ∃ more, (d.update other).entries.map Prod.fst = d.entries.map Prod.fst ++ more := by
  rw [update]
  generalize other.entries = items
  induction items generalizing d with
  | nil => exact ⟨[], (List.append_nil _).symm⟩
  | cons e items ih =>
      rcases ih (d.set e.1 e.2) with ⟨more, hmore⟩
      rw [List.foldl_cons, hmore]
      have hset : (d.set e.1 e.2).entries.map Prod.fst =
          if e.1 ∈ d.entries.map Prod.fst then d.entries.map Prod.fst
          else d.entries.map Prod.fst ++ [e.1] := keys_assign e.1 e.2 d.entries
      rw [hset]
      split
      · exact ⟨more, rfl⟩
      · exact ⟨e.1 :: more, by rw [List.append_assoc]; rfl⟩

/-! ## Totals -/

/-- Assigning takes the old value out of a total and puts the new one in. -/
theorem sum_values_set {M : Type*} [AddCommMonoid M] (d : Dict κ ν) (k : κ) (v : ν) (f : ν → M) :
    ((d.set k v).values.map f).sum + (d.get? k).elim 0 f = (d.values.map f).sum + f v := by
  simp only [values, set, get?]
  induction d.entries with
  | nil => simp [assign, lookup]
  | cons e rest ih =>
      rcases e with ⟨k', v'⟩
      by_cases hk : k' = k
      · simp only [assign, lookup, hk, if_true, List.map_cons, List.sum_cons, Option.elim_some]
        rw [add_right_comm, add_comm (f v), add_right_comm]
      · simp only [assign, lookup, hk, if_false, List.map_cons, List.sum_cons]
        rw [add_assoc, ih, ← add_assoc]

end Dict

end Intraday.Lib
