import Intraday.Lib.Dict
import Intraday.Lib.Pages
import Mathlib.Data.List.Pairwise

/-!
# Intraday.Lib.Upsert — tables with a unique key

A table has at most one row for a key. `INSERT … ON CONFLICT (key) DO UPDATE` puts rows in the
place of those with their keys, but one statement may not hit a key twice. A long list of rows is
inserted in pages, one statement each, so a key may come twice if it is on two pages: then the
later row stays (`insertPages_eq`, `find_foldl_put`).
-/

namespace Intraday.Lib

variable {κ ρ : Type} [DecidableEq κ]

/-- A table whose rows have the unique key `key`. -/
structure Table (κ ρ : Type) (key : ρ → κ) where
  rows : Dict κ ρ
  keyed : ∀ e ∈ rows.entries, key e.2 = e.1

namespace Table

variable {key : ρ → κ}

/-- The empty table. -/
def empty (key : ρ → κ) : Table κ ρ key :=
  { rows := Dict.empty, keyed := fun _ he => absurd he List.not_mem_nil }

/-- The row with a key. -/
def find (t : Table κ ρ key) (k : κ) : Option ρ := t.rows.get? k

/-- All rows. -/
def all (t : Table κ ρ key) : List ρ := t.rows.values

/-- A row in the place of the one with its key. -/
def put (t : Table κ ρ key) (r : ρ) : Table κ ρ key where
  rows := t.rows.set (key r) r
  keyed := by
    intro e he
    have hget : (t.rows.set (key r) r).get? e.1 = some e.2 := Dict.get?_eq_some_iff.mpr he
    by_cases hkey : e.1 = key r
    · rw [hkey, Dict.get?_set_self, Option.some.injEq] at hget
      rw [hkey, hget]
    · rw [Dict.get?_set_of_ne _ _ hkey] at hget
      exact t.keyed e (Dict.get?_eq_some_iff.mp hget)

/-- One statement; `none` is its error, if it hits a key twice. -/
def insert (t : Table κ ρ key) (rows : List ρ) : Option (Table κ ρ key) :=
  if (rows.map key).Nodup then some (rows.foldl put t) else none

/-- A statement for each page of the rows. -/
def insertPages (size : ℕ) (t : Table κ ρ key) (rows : List ρ) : Option (Table κ ρ key) :=
  (pages size rows).foldlM insert t

theorem find_put (t : Table κ ρ key) (r : ρ) (k : κ) :
    (t.put r).find k = if key r = k then some r else t.find k := by
  have hset : (t.put r).find k = (t.rows.set (key r) r).get? k := rfl
  rw [hset]
  split
  case isTrue hkey => rw [hkey, Dict.get?_set_self]
  case isFalse hkey => rw [Dict.get?_set_of_ne _ _ (Ne.symm hkey), find]

/-- A row is in the table under its key. -/
theorem mem_all {t : Table κ ρ key} {r : ρ} : r ∈ t.all ↔ t.find (key r) = some r := by
  rw [all, Dict.mem_values, find]
  constructor
  · rintro ⟨k, hk⟩
    rw [t.keyed (k, r) (Dict.get?_eq_some_iff.mp hk)]
    exact hk
  · intro h
    exact ⟨key r, h⟩

omit [DecidableEq κ] in
/-- The rows of a table have different keys. -/
theorem nodup_keys (t : Table κ ρ key) : (t.all.map key).Nodup := by
  have hkeys : t.all.map key = t.rows.entries.map Prod.fst := by
    rw [all, Dict.values, List.map_map]
    exact List.map_congr_left fun e he => t.keyed e he
  rw [hkeys]
  exact t.rows.nodup

/-- Of the rows that were put, the last one with a key stays. -/
theorem find_foldl_put (rows : List ρ) (t : Table κ ρ key) (k : κ) :
    (rows.foldl put t).find k =
      ((rows.filter fun r => decide (key r = k)).getLast?).or (t.find k) := by
  induction rows using List.reverseRecOn with
  | nil => rfl
  | append_singleton rows r ih =>
      rw [List.foldl_append, List.foldl_cons, List.foldl_nil, find_put, List.filter_append, ih]
      by_cases hkey : key r = k
      · simp [hkey]
      · simp [hkey]

/-- The keys of a table that began empty are those of the rows that were put. -/
theorem exists_mem_all_puts {rows : List ρ} {k : κ} :
    (∃ r ∈ (rows.foldl put (empty key)).all, key r = k) ↔ ∃ r ∈ rows, key r = k := by
  have hfind := find_foldl_put rows (empty key) k
  have hnone : (empty key).find k = none := rfl
  rw [hnone, Option.or_none] at hfind
  constructor
  · rintro ⟨r, hr, rfl⟩
    rw [mem_all, hfind] at hr
    exact ⟨r, List.mem_of_mem_filter (List.mem_of_getLast? hr), rfl⟩
  · rintro ⟨r, hr, hkey⟩
    have hmem : r ∈ rows.filter fun r => decide (key r = k) :=
      List.mem_filter.mpr ⟨hr, decide_eq_true hkey⟩
    rw [List.getLast?_eq_some_getLast (List.ne_nil_of_mem hmem)] at hfind
    have hlast := List.getLast_mem (List.ne_nil_of_mem hmem)
    generalize (rows.filter fun r => decide (key r = k)).getLast _ = last at hfind hlast
    have hkey' : key last = k := of_decide_eq_true (List.mem_filter.mp hlast).2
    refine ⟨last, ?_, hkey'⟩
    rw [mem_all, hkey', hfind]

/-- A key that a row has is found. -/
theorem exists_mem_all_iff {t : Table κ ρ key} {k : κ} :
    (∃ r ∈ t.all, key r = k) ↔ (t.find k).isSome = true := by
  constructor
  · rintro ⟨r, hr, rfl⟩
    rw [mem_all.mp hr]
    rfl
  · intro hsome
    rcases Option.isSome_iff_exists.mp hsome with ⟨r, hr⟩
    have hkey : key r = k := t.keyed (k, r) (Dict.get?_eq_some_iff.mp hr)
    refine ⟨r, mem_all.mpr ?_, hkey⟩
    rw [hkey, hr]

/-- The keys of a table after some rows were put: those it had, and those of the rows. -/
theorem exists_mem_all_foldl_put {rows : List ρ} {t : Table κ ρ key} {k : κ} :
    (∃ r ∈ (rows.foldl put t).all, key r = k) ↔ ∃ r ∈ t.all ++ rows, key r = k := by
  have hrows : ((rows.filter fun r => decide (key r = k)).getLast?).isSome = true ↔
      ∃ r ∈ rows, key r = k := by
    rw [List.getLast?_isSome, ne_eq, List.filter_eq_nil_iff]
    simp only [decide_eq_true_eq, not_forall, not_not, exists_prop]
  rw [exists_mem_all_iff, find_foldl_put, Option.isSome_or, Bool.or_eq_true, hrows,
    ← exists_mem_all_iff]
  simp only [List.mem_append, or_and_right, exists_or]
  exact or_comm

/-- Tables with the same row under each key have the same rows. -/
theorem all_perm {t t' : Table κ ρ key} (h : ∀ k, t.find k = t'.find k) : t.all.Perm t'.all := by
  have hnodup : ∀ u : Table κ ρ key, u.all.Nodup := fun u => u.nodup_keys.of_map key
  refine (List.perm_ext_iff_of_nodup (hnodup t) (hnodup t')).mpr ?_
  intro r
  rw [mem_all, mem_all, h]

/-- Of some rows, those after which none has their key. -/
def lastRows (key : ρ → κ) (rows : List ρ) : List ρ := rows.pwFilter fun r r' => key r ≠ key r'

theorem mem_lastRows {rows : List ρ} {r : ρ} :
    r ∈ lastRows key rows ↔
      (rows.filter fun r' => decide (key r' = key r)).getLast? = some r := by
  induction rows generalizing r with
  | nil => simp [lastRows]
  | cons a rows ih =>
      have hkeys : (∃ b ∈ lastRows key rows, key b = key a) ↔
          (rows.filter fun r' => decide (key r' = key a)) ≠ [] := by
        constructor
        · rintro ⟨b, hb, hkey⟩ hnil
          rw [ih, hkey, hnil] at hb
          cases hb
        · intro hne
          have hlast := List.getLast_mem hne
          rw [List.mem_filter, decide_eq_true_eq] at hlast
          refine ⟨_, ih.mpr ?_, hlast.2⟩
          rw [hlast.2]
          exact List.getLast?_eq_some_getLast hne
      by_cases hlater : ∃ b ∈ lastRows key rows, key b = key a
      · -- the first row is replaced by a later one
        have hcons : lastRows key (a :: rows) = lastRows key rows := by
          refine List.pwFilter_cons_of_neg fun h => ?_
          rcases hlater with ⟨b, hb, hkey⟩
          exact h b hb hkey.symm
        rw [hcons, ih, List.filter_cons]
        split
        · rename_i hkey
          have hne := hkeys.mp hlater
          rw [of_decide_eq_true hkey] at hne
          rw [List.getLast?_cons_of_ne_nil hne]
        · rfl
      · have hcons : lastRows key (a :: rows) = a :: lastRows key rows :=
          List.pwFilter_cons_of_pos fun b hb hkey => hlater ⟨b, hb, hkey.symm⟩
        have hnil := not_not.mp (fun hne => hlater (hkeys.mpr hne))
        rw [hcons, List.mem_cons, List.filter_cons]
        split
        · rename_i hkey
          have hkey' := of_decide_eq_true hkey
          rw [ih, ← hkey', hnil]
          simp [eq_comm]
        · rename_i hkey
          have hne : r ≠ a := fun heq => hkey (by rw [heq]; exact decide_eq_true rfl)
          rw [or_iff_right hne]
          exact ih

/-- The rows of a table that began empty. -/
theorem all_puts_perm (rows : List ρ) :
    (rows.foldl put (empty key)).all.Perm (lastRows key rows) := by
  have hlast : (lastRows key rows).Nodup :=
    (List.pairwise_pwFilter rows).imp fun hne heq => hne (congrArg key heq)
  refine (List.perm_ext_iff_of_nodup ((nodup_keys _).of_map key) hlast).mpr ?_
  intro r
  rw [mem_all, find_foldl_put, mem_lastRows]
  exact iff_of_eq (congrArg (· = some r) Option.or_none)

/-- The pages go through exactly if none has a key twice, and then all rows were put. -/
theorem foldlM_insert (ps : List (List ρ)) (t : Table κ ρ key) :
    ps.foldlM insert t =
      if ∀ page ∈ ps, (page.map key).Nodup then some (ps.flatten.foldl put t) else none := by
  induction ps generalizing t with
  | nil => simp
  | cons page ps ih =>
      rw [List.foldlM_cons, insert]
      by_cases hpage : (page.map key).Nodup
      · rw [if_pos hpage, Option.bind_eq_bind, Option.bind_some, ih, List.flatten_cons,
          List.foldl_append]
        simp [hpage]
      · simp [hpage]

theorem insertPages_eq {size : ℕ} (hsize : 0 < size) (t : Table κ ρ key) (rows : List ρ) :
    insertPages size t rows =
      if ∀ page ∈ pages size rows, (page.map key).Nodup then some (rows.foldl put t) else none := by
  rw [insertPages, foldlM_insert, flatten_pages hsize]

end Table

end Intraday.Lib
