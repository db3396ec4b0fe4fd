import Mathlib.Algebra.BigOperators.Group.List.Basic
import Mathlib.Order.Lattice

/-!
# Intraday.Lib.Rollup — bars that sum up bars

A bar sums up rows by the first open, the highest high, the lowest low, the last close and the sum
of the volumes. The prices have a preorder only, so the highest high is known up to equivalence.

Rows that are grouped by a monotone label can be summed up group by group: a bar sums up the bars of
the groups exactly if it sums up the rows (`rollsUp_groups_iff`).
-/

namespace Intraday.Lib

/-- A bar at a time `τ`, with prices in `P` and a volume in `V`. -/
structure Bar (τ P V : Type) where
  time : τ
  openPrice : P
  high : P
  low : P
  close : P
  volume : V

variable {τ P V : Type} [LinearOrder τ] [AddCommMonoid V] {R : P → P → Prop}

/-- The bar sums up the rows. -/
structure RollsUp (R : P → P → Prop) (rows : List (Bar τ P V)) (c : Bar τ P V) : Prop where
  first_open : ∃ r ∈ rows, r.openPrice = c.openPrice ∧ ∀ r' ∈ rows, r.time ≤ r'.time
  max_high : (∃ r ∈ rows, R c.high r.high) ∧ ∀ r ∈ rows, R r.high c.high
  min_low : (∃ r ∈ rows, R r.low c.low) ∧ ∀ r ∈ rows, R c.low r.low
  last_close : ∃ r ∈ rows, r.close = c.close ∧ ∀ r' ∈ rows, r'.time ≤ r.time
  sum_volume : c.volume = (rows.map Bar.volume).sum

/-- What is summed up is not empty. -/
theorem RollsUp.exists_mem {rows : List (Bar τ P V)} {c : Bar τ P V} (h : RollsUp R rows c) :
    ∃ r, r ∈ rows := by
  rcases h.first_open with ⟨r, hr, -⟩
  exact ⟨r, hr⟩

/-- The order in which the rows are listed does not matter. -/
theorem RollsUp.perm {rows rows' : List (Bar τ P V)} {c : Bar τ P V} (hperm : rows.Perm rows')
    (h : RollsUp R rows c) : RollsUp R rows' c := by
  rcases h with ⟨hfirst, hhigh, hlow, hlast, hsum⟩
  simp only [hperm.mem_iff] at hfirst hhigh hlow hlast
  exact ⟨hfirst, hhigh, hlow, hlast, hsum.trans (hperm.map _).sum_eq⟩

/-- Two bars that sum up the same rows agree, the highs and the lows up to equivalence. -/
theorem RollsUp.agree (htrans : ∀ {x y z}, R x y → R y z → R x z) {rows : List (Bar τ P V)}
    {c d : Bar τ P V} (hunique : ∀ r ∈ rows, ∀ r' ∈ rows, r.time = r'.time → r = r')
    (hc : RollsUp R rows c) (hd : RollsUp R rows d) :
    c.openPrice = d.openPrice ∧ (R c.high d.high ∧ R d.high c.high) ∧
      (R c.low d.low ∧ R d.low c.low) ∧ c.close = d.close ∧ c.volume = d.volume := by
  refine ⟨?_, ⟨?_, ?_⟩, ⟨?_, ?_⟩, ?_, ?_⟩
  · rcases hc.first_open with ⟨r, hr, hopen, hfirst⟩
    rcases hd.first_open with ⟨r', hr', hopen', hfirst'⟩
    have hsame := hunique r hr r' hr' (le_antisymm (hfirst r' hr') (hfirst' r hr))
    rw [← hopen, ← hopen', hsame]
  · rcases hc.max_high.1 with ⟨r, hr, hle⟩
    exact htrans hle (hd.max_high.2 r hr)
  · rcases hd.max_high.1 with ⟨r, hr, hle⟩
    exact htrans hle (hc.max_high.2 r hr)
  · rcases hd.min_low.1 with ⟨r, hr, hle⟩
    exact htrans (hc.min_low.2 r hr) hle
  · rcases hc.min_low.1 with ⟨r, hr, hle⟩
    exact htrans (hd.min_low.2 r hr) hle
  · rcases hc.last_close with ⟨r, hr, hclose, hlast⟩
    rcases hd.last_close with ⟨r', hr', hclose', hlast'⟩
    have hsame := hunique r hr r' hr' (le_antisymm (hlast' r hr) (hlast r' hr'))
    rw [← hclose, ← hclose', hsame]
  · rw [hc.sum_volume, hd.sum_volume]

/-! ## Group by group -/

/-- Rows in groups, each with the bar that sums it up. Later rows are in groups with later bars, and
no two groups have bars at one time, nor do two rows of a group. -/
structure Grouped (R : P → P → Prop) (groups : List (List (Bar τ P V) × Bar τ P V)) : Prop where
  rolled : ∀ p ∈ groups, RollsUp R p.1 p.2
  mono : ∀ p ∈ groups, ∀ q ∈ groups, ∀ r ∈ p.1, ∀ r' ∈ q.1,
    r.time ≤ r'.time → p.2.time ≤ q.2.time
  apart : ∀ p ∈ groups, ∀ q ∈ groups, p.2.time = q.2.time → p = q
  unique : ∀ p ∈ groups, ∀ r ∈ p.1, ∀ r' ∈ p.1, r.time = r'.time → r = r'

section Groups

variable {groups : List (List (Bar τ P V) × Bar τ P V)} {c : Bar τ P V}

/-- All rows. -/
def allRows (groups : List (List (Bar τ P V) × Bar τ P V)) : List (Bar τ P V) :=
  (groups.map Prod.fst).flatten

/-- The bars of the groups. -/
def allBars (groups : List (List (Bar τ P V) × Bar τ P V)) : List (Bar τ P V) :=
  groups.map Prod.snd

omit [LinearOrder τ] [AddCommMonoid V] in
theorem mem_allRows {r : Bar τ P V} : r ∈ allRows groups ↔ ∃ p ∈ groups, r ∈ p.1 := by
  simp only [allRows, List.mem_flatten, List.mem_map, exists_exists_and_eq_and]

omit [LinearOrder τ] [AddCommMonoid V] in
theorem mem_allBars {b : Bar τ P V} : b ∈ allBars groups ↔ ∃ p ∈ groups, p.2 = b := List.mem_map

theorem Grouped.first_open_iff (h : Grouped R groups) :
    (∃ r ∈ allRows groups, r.openPrice = c.openPrice ∧ ∀ r' ∈ allRows groups, r.time ≤ r'.time) ↔
      ∃ b ∈ allBars groups,
        b.openPrice = c.openPrice ∧ ∀ b' ∈ allBars groups, b.time ≤ b'.time := by
  constructor
  · rintro ⟨r, hr, hopen, hfirst⟩
    rcases mem_allRows.mp hr with ⟨p, hp, hrp⟩
    -- the first row of its group is the first one of all
    rcases (h.rolled p hp).first_open with ⟨r₀, hr₀, hopen₀, hfirst₀⟩
    have htime := le_antisymm (hfirst₀ r hrp) (hfirst r₀ (mem_allRows.mpr ⟨p, hp, hr₀⟩))
    have hsame := h.unique p hp r₀ hr₀ r hrp htime
    refine ⟨p.2, mem_allBars.mpr ⟨p, hp, rfl⟩, ?_, ?_⟩
    · rw [← hopen₀, hsame, hopen]
    · intro b hb
      rcases mem_allBars.mp hb with ⟨q, hq, rfl⟩
      rcases (h.rolled q hq).exists_mem with ⟨r', hr'⟩
      exact h.mono p hp q hq r hrp r' hr' (hfirst r' (mem_allRows.mpr ⟨q, hq, hr'⟩))
  · rintro ⟨b, hb, hopen, hfirst⟩
    rcases mem_allBars.mp hb with ⟨p, hp, rfl⟩
    rcases (h.rolled p hp).first_open with ⟨r₀, hr₀, hopen₀, hfirst₀⟩
    refine ⟨r₀, mem_allRows.mpr ⟨p, hp, hr₀⟩, hopen₀.trans hopen, ?_⟩
    intro r' hr'
    rcases mem_allRows.mp hr' with ⟨q, hq, hrq⟩
    rcases le_total r₀.time r'.time with hle | hle
    · exact hle
    · have hback := h.mono q hq p hp r' hrq r₀ hr₀ hle
      have hpq := h.apart p hp q hq (le_antisymm (hfirst q.2 (mem_allBars.mpr ⟨q, hq, rfl⟩)) hback)
      exact hfirst₀ r' (hpq ▸ hrq)

theorem Grouped.last_close_iff (h : Grouped R groups) :
    (∃ r ∈ allRows groups, r.close = c.close ∧ ∀ r' ∈ allRows groups, r'.time ≤ r.time) ↔
      ∃ b ∈ allBars groups, b.close = c.close ∧ ∀ b' ∈ allBars groups, b'.time ≤ b.time := by
  constructor
  · rintro ⟨r, hr, hclose, hlast⟩
    rcases mem_allRows.mp hr with ⟨p, hp, hrp⟩
    rcases (h.rolled p hp).last_close with ⟨r₀, hr₀, hclose₀, hlast₀⟩
    have htime := le_antisymm (hlast r₀ (mem_allRows.mpr ⟨p, hp, hr₀⟩)) (hlast₀ r hrp)
    have hsame := h.unique p hp r₀ hr₀ r hrp htime
    refine ⟨p.2, mem_allBars.mpr ⟨p, hp, rfl⟩, ?_, ?_⟩
    · rw [← hclose₀, hsame, hclose]
    · intro b hb
      rcases mem_allBars.mp hb with ⟨q, hq, rfl⟩
      rcases (h.rolled q hq).exists_mem with ⟨r', hr'⟩
      exact h.mono q hq p hp r' hr' r hrp (hlast r' (mem_allRows.mpr ⟨q, hq, hr'⟩))
  · rintro ⟨b, hb, hclose, hlast⟩
    rcases mem_allBars.mp hb with ⟨p, hp, rfl⟩
    rcases (h.rolled p hp).last_close with ⟨r₀, hr₀, hclose₀, hlast₀⟩
    refine ⟨r₀, mem_allRows.mpr ⟨p, hp, hr₀⟩, hclose₀.trans hclose, ?_⟩
    intro r' hr'
    rcases mem_allRows.mp hr' with ⟨q, hq, hrq⟩
    rcases le_total r'.time r₀.time with hle | hle
    · exact hle
    · have hback := h.mono p hp q hq r₀ hr₀ r' hrq hle
      have hpq := h.apart q hq p hp (le_antisymm (hlast q.2 (mem_allBars.mpr ⟨q, hq, rfl⟩)) hback)
      exact hlast₀ r' (hpq ▸ hrq)

omit [LinearOrder τ] [AddCommMonoid V] in
/-- A value that is the top of the groups' tops is the top of all rows, by any transitive
relation. -/
theorem top_iff {R : P → P → Prop} (htrans : ∀ {x y z}, R x y → R y z → R x z)
    (value : Bar τ P V → P) (m : P)
    (hgroups : ∀ p ∈ groups, (∃ r ∈ p.1, R (value p.2) (value r)) ∧
      ∀ r ∈ p.1, R (value r) (value p.2)) :
    ((∃ r ∈ allRows groups, R m (value r)) ∧ ∀ r ∈ allRows groups, R (value r) m) ↔
      (∃ b ∈ allBars groups, R m (value b)) ∧ ∀ b ∈ allBars groups, R (value b) m := by
  constructor
  · rintro ⟨⟨r, hr, hle⟩, hall⟩
    rcases mem_allRows.mp hr with ⟨p, hp, hrp⟩
    refine ⟨⟨p.2, mem_allBars.mpr ⟨p, hp, rfl⟩, htrans hle ((hgroups p hp).2 r hrp)⟩, ?_⟩
    intro b hb
    rcases mem_allBars.mp hb with ⟨q, hq, rfl⟩
    rcases (hgroups q hq).1 with ⟨r', hr', hle'⟩
    exact htrans hle' (hall r' (mem_allRows.mpr ⟨q, hq, hr'⟩))
  · rintro ⟨⟨b, hb, hle⟩, hall⟩
    rcases mem_allBars.mp hb with ⟨p, hp, rfl⟩
    rcases (hgroups p hp).1 with ⟨r, hr, hle'⟩
    refine ⟨⟨r, mem_allRows.mpr ⟨p, hp, hr⟩, htrans hle hle'⟩, ?_⟩
    intro r' hr'
    rcases mem_allRows.mp hr' with ⟨q, hq, hrq⟩
    exact htrans ((hgroups q hq).2 r' hrq) (hall q.2 (mem_allBars.mpr ⟨q, hq, rfl⟩))

theorem Grouped.sum_volume_eq (h : Grouped R groups) :
    ((allRows groups).map Bar.volume).sum = ((allBars groups).map Bar.volume).sum := by
  have hrolled := h.rolled
  clear h
  induction groups with
  | nil => rfl
  | cons p groups ih =>
      rw [List.forall_mem_cons] at hrolled
      simp only [allRows, allBars, List.map_cons, List.flatten_cons, List.map_append,
        List.sum_append, List.sum_cons] at ih ⊢
      rw [ih hrolled.2, ← hrolled.1.sum_volume]

/-- A bar sums up the bars of the groups exactly if it sums up the rows. -/
theorem rollsUp_groups_iff (htrans : ∀ {x y z}, R x y → R y z → R x z)
    (h : Grouped R groups) : RollsUp R (allRows groups) c ↔ RollsUp R (allBars groups) c := by
  have hhigh := top_iff (R := R) htrans (fun b => b.high) c.high
    fun p hp => (h.rolled p hp).max_high
  have hlow := top_iff (R := fun x y => R y x) (fun hxy hyz => htrans hyz hxy)
    (fun b => b.low) c.low fun p hp => (h.rolled p hp).min_low
  constructor
  · intro hc
    exact
      { first_open := h.first_open_iff.mp hc.first_open
        max_high := hhigh.mp hc.max_high
        min_low := hlow.mp hc.min_low
        last_close := h.last_close_iff.mp hc.last_close
        sum_volume := hc.sum_volume.trans h.sum_volume_eq }
  · intro hc
    exact
      { first_open := h.first_open_iff.mpr hc.first_open
        max_high := hhigh.mpr hc.max_high
        min_low := hlow.mpr hc.min_low
        last_close := h.last_close_iff.mpr hc.last_close
        sum_volume := hc.sum_volume.trans h.sum_volume_eq.symm }

end Groups

end Intraday.Lib
