import Intraday.Lib.Transaction
import Intraday.Lib.Upsert

/-!
# Intraday.Lib.UpsertStatement — rows upserted through a connection

Rows are written in pages, one statement each, and committed after the last one. A row may have
texts that cannot be quoted, or values that do not fit their columns. The rows are put into the
table as a whole, or the table stays as it is (`write_upserts`).
-/

namespace Intraday.Lib

variable {κ ρ : Type} [DecidableEq κ] {key : ρ → κ} (quotable fits : ρ → Prop)
  [DecidablePred quotable] [DecidablePred fits]

/-- `INSERT … ON CONFLICT … DO UPDATE` of a page of rows. -/
def upsertStatement (key : ρ → κ) (page : List ρ) : Statement (Table κ ρ key) where
  quotable := decide (∀ r ∈ page, quotable r)
  effect t := if ∀ r ∈ page, fits r then t.insert page else none

/-- The rows can be written: all can be quoted, and on each page they fit and no key comes twice. -/
def Upsertable (key : ρ → κ) (size : ℕ) (rows : List ρ) : Prop :=
  (∀ r ∈ rows, quotable r) ∧
    ∀ page ∈ pages size rows, (∀ r ∈ page, fits r) ∧ (page.map key).Nodup

instance (size : ℕ) (rows : List ρ) : Decidable (Upsertable quotable fits key size rows) :=
  inferInstanceAs (Decidable (_ ∧ _))

namespace Connection

variable {quotable fits}

theorem effect_upsert (page : List ρ) (t : Table κ ρ key) :
    (upsertStatement quotable fits key page).effect t =
      if (∀ r ∈ page, fits r) ∧ (page.map key).Nodup then some (page.foldl Table.put t)
      else none := by
  by_cases hfits : ∀ r ∈ page, fits r
  · simp only [upsertStatement, if_pos hfits, Table.insert, and_iff_right hfits]
  · simp only [upsertStatement, if_neg hfits, if_neg (not_and_of_not_left _ hfits)]

/-- The pages are put one after the other, if the server takes each of them. -/
theorem effects_upserts (ps : List (List ρ)) (t : Table κ ρ key) :
    effects (ps.map (upsertStatement quotable fits key)) t =
      if ∀ page ∈ ps, (∀ r ∈ page, fits r) ∧ (page.map key).Nodup then
        some (ps.flatten.foldl Table.put t)
      else none := by
  induction ps generalizing t with
  | nil => simp [effects]
  | cons page ps ih =>
      rw [List.map_cons, effects_cons, effect_upsert]
      by_cases hpage : (∀ r ∈ page, fits r) ∧ (page.map key).Nodup
      · rw [if_pos hpage, Option.bind_some, ih, List.flatten_cons, List.foldl_append]
        simp only [List.forall_mem_cons, and_iff_right hpage]
      · simp only [if_neg hpage, Option.bind_none, List.forall_mem_cons,
          if_neg (not_and_of_not_left _ hpage)]

/-- The statements of some rows can be quoted if the rows can. -/
theorem quotable_upserts {size : ℕ} (hsize : 0 < size) (rows : List ρ) :
    (∀ stmt ∈ (pages size rows).map (upsertStatement quotable fits key), stmt.quotable = true) ↔
      ∀ r ∈ rows, quotable r := by
  conv_rhs => rw [← flatten_pages hsize rows]
  simp only [List.forall_mem_map, upsertStatement, decide_eq_true_eq, List.mem_flatten]
  constructor
  · rintro h r ⟨page, hpage, hr⟩
    exact h page hpage r hr
  · intro h page hpage r hr
    exact h r ⟨page, hpage, hr⟩

/-- Rows that can be written are put into the table, and otherwise nothing is. -/
theorem write_upserts {size : ℕ} (hsize : 0 < size) (t : Table κ ρ key) {rows : List ρ}
    (hne : rows ≠ []) :
    if Upsertable quotable fits key size rows then
      (connect t).write ((pages size rows).map (upsertStatement quotable fits key)) =
        (connect (rows.foldl Table.put t), .ok ())
    else
      (∃ e, ((connect t).write
        ((pages size rows).map (upsertStatement quotable fits key))).2 = .error e) ∧
        ((connect t).write
          ((pages size rows).map (upsertStatement quotable fits key))).1.committed = t := by
  have hflatten := flatten_pages hsize rows
  have hstmts : (pages size rows).map (upsertStatement quotable fits key) ≠ [] := by
    intro hnil
    rw [List.map_eq_nil_iff] at hnil
    rw [hnil] at hflatten
    exact hne hflatten.symm
  have heffects := @effects_upserts _ _ _ key quotable fits _ _ (pages size rows) t
  rw [hflatten] at heffects
  split
  · rename_i h
    rw [if_pos h.2] at heffects
    exact write_connect hstmts ((quotable_upserts hsize rows).mpr h.1) heffects
  · rename_i h
    refine write_connect_error hstmts ?_
    rintro ⟨hquotable, hsome⟩
    rw [heffects] at hsome
    split at hsome
    · rename_i hpages
      exact h ⟨(quotable_upserts hsize rows).mp hquotable, hpages⟩
    · cases hsome

end Connection

end Intraday.Lib
