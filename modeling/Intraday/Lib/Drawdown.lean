import Mathlib.Algebra.Order.Field.Basic
import Mathlib.Order.Bounds.Basic
import Mathlib.Tactic.FieldSimp
import Mathlib.Tactic.Linarith
import Intraday.Lib.Increments

/-!
# Intraday.Lib.Drawdown — the deepest fall of a path

A path of values falls from `x` to a later `y` by the share `(x - y) / x`. The deepest fall is
computed in one pass, against the highest value so far, and is the greatest of the falls over all
pairs (`maxDrawdown_le_iff`, `le_maxDrawdown_iff`).
-/

namespace Intraday.Lib

variable {K : Type*} [LinearOrder K]

/-! ## The pass -/

/-- The highest value so far, from `high` on. -/
def accumulateFrom (high : K) : List K → List K
  | [] => []
  | x :: xs => max high x :: accumulateFrom (max high x) xs

/-- `np.maximum.accumulate`. -/
def accumulate : List K → List K
  | [] => []
  | x :: xs => x :: accumulateFrom x xs

variable [Field K]

/-- The share of `high` that is lost at `low`; of nothing, nothing is. -/
def fallShare (high low : K) : K := if 0 < high then (high - low) / high else 0

@[simp] theorem fallShare_self (x : K) : fallShare x x = 0 := by
  rw [fallShare, sub_self, zero_div, ite_self]

/-- The falls from the highest value so far. -/
def drawdowns (xs : List K) : List K := List.zipWith fallShare (accumulate xs) xs

/-- `np.max`; of nothing, zero. -/
def greatest : List K → K
  | [] => 0
  | x :: xs => peak x xs

/-- The deepest of the falls. -/
def maxDrawdown (xs : List K) : K := greatest (drawdowns xs)

/-- At the first value nothing has fallen yet. -/
theorem maxDrawdown_eq_peak (xs : List K) : maxDrawdown xs = peak 0 (drawdowns xs) := by
  cases xs with
  | nil => rfl
  | cons x xs =>
      rw [maxDrawdown, drawdowns, accumulate, List.zipWith_cons_cons, fallShare_self, greatest,
        peak, max_eq_right (le_peak _ _)]

/-! ## All falls -/

/-- The path falls by the share `d` from a positive value to one not before it. -/
def IsFall (xs : List K) (d : K) : Prop :=
  ∃ (i j : ℕ) (x y : K), i ≤ j ∧ xs[i]? = some x ∧ xs[j]? = some y ∧ 0 < x ∧ d = (x - y) / x

@[simp] theorem not_isFall_nil (d : K) : ¬ IsFall [] d := by
  rintro ⟨i, j, x, y, -, hx, -⟩
  simp at hx

/-- A fall from the first value, or one of the rest. -/
theorem isFall_cons {a d : K} {xs : List K} :
    IsFall (a :: xs) d ↔ (0 < a ∧ ∃ y ∈ a :: xs, d = (a - y) / a) ∨ IsFall xs d := by
  constructor
  · rintro ⟨i, j, x, y, hle, hx, hy, hpos, rfl⟩
    cases i with
    | zero =>
        obtain rfl : a = x := by simpa using hx
        exact .inl ⟨hpos, y, List.mem_of_getElem? hy, rfl⟩
    | succ i =>
        cases j with
        | zero => omega
        | succ j =>
            rw [List.getElem?_cons_succ] at hx hy
            exact .inr ⟨i, j, x, y, by omega, hx, hy, hpos, rfl⟩
  · rintro (⟨hpos, y, hy, rfl⟩ | ⟨i, j, x, y, hle, hx, hy, hpos, rfl⟩)
    · rcases List.mem_iff_getElem?.mp hy with ⟨j, hj⟩
      exact ⟨0, j, a, y, Nat.zero_le j, rfl, hj, hpos, rfl⟩
    · exact ⟨i + 1, j + 1, x, y, by omega, hx, hy, hpos, rfl⟩

theorem fallShare_of_pos {high low : K} (h : 0 < high) :
    fallShare high low = (high - low) / high := if_pos h

/-- The maximum of the two values at the front stands for one of them. -/
theorem isFall_of_max {high y d : K} {xs : List K} (h : IsFall (max high y :: xs) d) :
    IsFall (high :: y :: xs) d := by
  rcases le_total high y with hle | hle
  · rw [max_eq_right hle] at h
    exact isFall_cons.mpr (.inr h)
  · rw [max_eq_left hle] at h
    rcases isFall_cons.mp h with ⟨hpos, z, hz, rfl⟩ | h
    · refine isFall_cons.mpr (.inl ⟨hpos, z, ?_, rfl⟩)
      rcases List.mem_cons.mp hz with rfl | hz
      · exact List.mem_cons_self
      · exact List.mem_cons_of_mem _ (List.mem_cons_of_mem _ hz)
    · exact isFall_cons.mpr (.inr (isFall_cons.mpr (.inr h)))

/-- What the pass compares at `y` is a fall, or nothing. -/
theorem fallShare_max_cases (high y : K) (xs : List K) :
    fallShare (max high y) y = 0 ∨ IsFall (high :: y :: xs) (fallShare (max high y) y) := by
  by_cases hpos : 0 < max high y
  · rcases le_total high y with hle | hle
    · -- `y` is a new maximum
      left
      rw [max_eq_right hle, fallShare_self]
    · right
      rw [max_eq_left hle] at hpos ⊢
      rw [fallShare_of_pos hpos]
      exact isFall_cons.mpr (.inl ⟨hpos, y, by simp, rfl⟩)
  · left
    rw [fallShare, if_neg hpos]

/-- Every share that the pass compares is a fall, or nothing. -/
theorem mem_falls_cases {high d : K} {xs : List K}
    (hd : d ∈ List.zipWith fallShare (accumulateFrom high xs) xs) :
    d = 0 ∨ IsFall (high :: xs) d := by
  induction xs generalizing high with
  | nil => simp at hd
  | cons y xs ih =>
      rw [accumulateFrom, List.zipWith_cons_cons] at hd
      rcases List.mem_cons.mp hd with rfl | hd
      · exact fallShare_max_cases high y xs
      · exact (ih hd).imp_right isFall_of_max

variable [IsStrictOrderedRing K]

/-- The higher the start, the deeper the fall to the same value. -/
theorem share_mono {x x' y : K} (hx : 0 < x) (hle : x ≤ x') (hy : 0 ≤ y) :
    (x - y) / x ≤ (x' - y) / x' := by
  have hx' : 0 < x' := lt_of_lt_of_le hx hle
  rw [sub_div, sub_div, div_self hx.ne', div_self hx'.ne']
  exact sub_le_sub_left (div_le_div_of_nonneg_left hy hx hle) 1

theorem share_le_one {x y : K} (hx : 0 < x) (hy : 0 ≤ y) : (x - y) / x ≤ 1 := by
  rw [div_le_one hx]
  exact sub_le_self x hy

theorem share_lt_one {x y : K} (hx : 0 < x) (hy : 0 < y) : (x - y) / x < 1 := by
  rw [div_lt_one hx]
  exact sub_lt_self x hy

/-- The invariant of the pass: behind the highest value it bounds the falls from that value and
those of the rest. -/
theorem peak_falls_le_iff {high b : K} {xs : List K} (hhigh : 0 ≤ high) (hxs : ∀ x ∈ xs, 0 ≤ x) :
    peak 0 (List.zipWith fallShare (accumulateFrom high xs) xs) ≤ b ↔
      0 ≤ b ∧ ∀ d, IsFall (high :: xs) d → d ≤ b := by
  induction xs generalizing high with
  | nil =>
      rw [accumulateFrom, List.zipWith_nil_right, peak]
      constructor
      · intro hb
        refine ⟨hb, fun d hd => ?_⟩
        rcases isFall_cons.mp hd with ⟨-, y, hy, rfl⟩ | hd
        · rw [List.mem_singleton.mp hy, sub_self, zero_div]
          exact hb
        · exact absurd hd (not_isFall_nil d)
      · exact fun h => h.1
  | cons y xs ih =>
      rw [List.forall_mem_cons] at hxs
      have hmax : 0 ≤ max high y := le_trans hhigh (le_max_left high y)
      have hsplit : peak 0 (List.zipWith fallShare (accumulateFrom high (y :: xs)) (y :: xs)) ≤ b ↔
          fallShare (max high y) y ≤ b ∧
            peak 0 (List.zipWith fallShare (accumulateFrom (max high y) xs) xs) ≤ b := by
        rw [accumulateFrom, List.zipWith_cons_cons, peak_le_iff, peak_le_iff]
        simp only [List.forall_mem_cons]
        tauto
      rw [hsplit, ih hmax hxs.2]
      constructor
      · rintro ⟨hy, hb, hall⟩
        refine ⟨hb, fun d hd => ?_⟩
        -- a fall from `high` is no deeper than the one from the maximum
        have hfrom : ∀ x z, 0 < x → x ≤ max high y → 0 ≤ z → z ∈ y :: xs → (x - z) / x ≤ b := by
          intro x z hx hle hz hmem
          refine le_trans (share_mono hx hle hz) ?_
          rcases List.mem_cons.mp hmem with rfl | hmem
          · rwa [fallShare_of_pos (lt_of_lt_of_le hx hle)] at hy
          · refine hall _ (isFall_cons.mpr (.inl ⟨lt_of_lt_of_le hx hle, z, ?_, rfl⟩))
            exact List.mem_cons_of_mem _ hmem
        rcases isFall_cons.mp hd with ⟨hpos, z, hz, rfl⟩ | hd
        · rcases List.mem_cons.mp hz with rfl | hz
          · rw [sub_self, zero_div]
            exact hb
          · refine hfrom high z hpos (le_max_left high y) ?_ hz
            exact List.forall_mem_cons.mpr hxs z hz
        · rcases isFall_cons.mp hd with ⟨hpos, z, hz, rfl⟩ | hd
          · exact hfrom y z hpos (le_max_right high y) (List.forall_mem_cons.mpr hxs z hz) hz
          · exact hall d (isFall_cons.mpr (.inr hd))
      · rintro ⟨hb, hall⟩
        refine ⟨?_, hb, fun d hd => hall d (isFall_of_max hd)⟩
        rcases fallShare_max_cases high y xs with hzero | hfall
        · rw [hzero]
          exact hb
        · exact hall _ hfall

section Path

variable {xs : List K} {b : K}

theorem maxDrawdown_le_iff (hxs : ∀ x ∈ xs, 0 ≤ x) :
    maxDrawdown xs ≤ b ↔ 0 ≤ b ∧ ∀ d, IsFall xs d → d ≤ b := by
  cases xs with
  | nil => simp [maxDrawdown, drawdowns, accumulate, greatest]
  | cons x xs =>
      rw [List.forall_mem_cons] at hxs
      rw [maxDrawdown, drawdowns, accumulate, List.zipWith_cons_cons, fallShare_self, greatest]
      exact peak_falls_le_iff hxs.1 hxs.2

theorem maxDrawdown_nonneg (hxs : ∀ x ∈ xs, 0 ≤ x) : 0 ≤ maxDrawdown xs :=
  ((maxDrawdown_le_iff hxs).mp le_rfl).1

/-- No fall is deeper. -/
theorem IsFall.le_maxDrawdown {d : K} (hd : IsFall xs d) (hxs : ∀ x ∈ xs, 0 ≤ x) :
    d ≤ maxDrawdown xs :=
  ((maxDrawdown_le_iff hxs).mp le_rfl).2 d hd

omit [IsStrictOrderedRing K] in
/-- The deepest fall is one, unless the path never falls. -/
theorem maxDrawdown_cases (xs : List K) : maxDrawdown xs = 0 ∨ IsFall xs (maxDrawdown xs) := by
  rw [maxDrawdown_eq_peak]
  rcases le_peak_iff.mp (le_refl (peak 0 (drawdowns xs))) with ⟨d, hd, hle⟩
  have heq : peak 0 (drawdowns xs) = d := le_antisymm hle (peak_le_iff.mp le_rfl d hd)
  rw [heq]
  rcases List.mem_cons.mp hd with rfl | hd
  · exact .inl rfl
  · cases xs with
    | nil => simp [drawdowns, accumulate] at hd
    | cons x xs =>
        rw [drawdowns, accumulate, List.zipWith_cons_cons] at hd
        rcases List.mem_cons.mp hd with rfl | hd
        · exact .inl (fallShare_self x)
        · exact mem_falls_cases hd

theorem le_maxDrawdown_iff (hxs : ∀ x ∈ xs, 0 ≤ x) :
    b ≤ maxDrawdown xs ↔ b ≤ 0 ∨ ∃ d, IsFall xs d ∧ b ≤ d := by
  constructor
  · intro hle
    rcases maxDrawdown_cases xs with hzero | hfall
    · exact .inl (hzero ▸ hle)
    · exact .inr ⟨_, hfall, hle⟩
  · rintro (hb | ⟨d, hd, hle⟩)
    · exact le_trans hb (maxDrawdown_nonneg hxs)
    · exact le_trans hle (hd.le_maxDrawdown hxs)

/-- Of a path that is positive somewhere the deepest fall is the greatest of all. -/
theorem isGreatest_maxDrawdown (hxs : ∀ x ∈ xs, 0 ≤ x) (hpos : ∃ x ∈ xs, 0 < x) :
    IsGreatest {d | IsFall xs d} (maxDrawdown xs) := by
  refine ⟨?_, fun d hd => IsFall.le_maxDrawdown hd hxs⟩
  rcases maxDrawdown_cases xs with hzero | hfall
  · rcases hpos with ⟨x, hx, hpos⟩
    rcases List.mem_iff_getElem?.mp hx with ⟨i, hi⟩
    rw [hzero]
    exact ⟨i, i, x, x, le_rfl, hi, hi, hpos, by rw [sub_self, zero_div]⟩
  · exact hfall

theorem maxDrawdown_le_one (hxs : ∀ x ∈ xs, 0 ≤ x) : maxDrawdown xs ≤ 1 := by
  rw [maxDrawdown_le_iff hxs]
  refine ⟨zero_le_one, ?_⟩
  rintro _ ⟨i, j, x, y, -, -, hy, hpos, rfl⟩
  exact share_le_one hpos (hxs y (List.mem_of_getElem? hy))

/-- A path that stays positive never loses everything. -/
theorem maxDrawdown_lt_one (hxs : ∀ x ∈ xs, 0 < x) : maxDrawdown xs < 1 := by
  rcases maxDrawdown_cases xs with hzero | ⟨i, j, x, y, -, -, hy, hpos, heq⟩
  · rw [hzero]
    exact zero_lt_one
  · rw [heq]
    exact share_lt_one hpos (hxs y (List.mem_of_getElem? hy))

/-- A start before the path counts exactly if its fall to some value is deeper than every fall of
the rest. -/
theorem maxDrawdown_cons_eq_iff {start : K} (hstart : 0 < start) (hxs : ∀ x ∈ xs, 0 ≤ x) :
    maxDrawdown (start :: xs) = maxDrawdown xs ↔
      ∀ y ∈ xs, start ≤ y ∨ ∃ d, IsFall xs d ∧ (start - y) / start ≤ d := by
  have hall : ∀ x ∈ start :: xs, 0 ≤ x := List.forall_mem_cons.mpr ⟨hstart.le, hxs⟩
  have hle : maxDrawdown xs ≤ maxDrawdown (start :: xs) := by
    rw [maxDrawdown_le_iff hxs]
    refine ⟨maxDrawdown_nonneg hall, fun d hd => ?_⟩
    exact IsFall.le_maxDrawdown (isFall_cons.mpr (.inr hd)) hall
  have hshare : ∀ y, start ≤ y ↔ (start - y) / start ≤ 0 := by
    intro y
    rw [div_le_iff₀ hstart, zero_mul, sub_nonpos]
  simp only [hshare, ← le_maxDrawdown_iff hxs]
  constructor
  · intro heq y hy
    rw [← heq]
    refine IsFall.le_maxDrawdown (isFall_cons.mpr (.inl ⟨hstart, y, ?_, rfl⟩)) hall
    exact List.mem_cons_of_mem _ hy
  · -- a fall from the start is matched, any other is one of the rest
    intro hmatched
    refine le_antisymm ?_ hle
    rw [maxDrawdown_le_iff hall]
    refine ⟨maxDrawdown_nonneg hxs, fun d hd => ?_⟩
    rcases isFall_cons.mp hd with ⟨-, y, hy, rfl⟩ | hd
    · rcases List.mem_cons.mp hy with rfl | hy
      · rw [sub_self, zero_div]
        exact maxDrawdown_nonneg hxs
      · exact hmatched y hy
    · exact hd.le_maxDrawdown hxs

omit [IsStrictOrderedRing K] in
/-- On a positive path the highest value so far is positive, and no guard is needed. -/
theorem zipWith_share_accumulateFrom {high : K} (hhigh : 0 < high) (xs : List K) :
    List.zipWith (fun top x => (top - x) / top) (accumulateFrom high xs) xs =
      List.zipWith fallShare (accumulateFrom high xs) xs := by
  induction xs generalizing high with
  | nil => rfl
  | cons x xs ih =>
      have hmax : 0 < max high x := lt_of_lt_of_le hhigh (le_max_left high x)
      rw [accumulateFrom, List.zipWith_cons_cons, List.zipWith_cons_cons, ih hmax,
        fallShare_of_pos hmax]

omit [IsStrictOrderedRing K] in
theorem zipWith_share_accumulate (hxs : ∀ x ∈ xs, 0 < x) :
    List.zipWith (fun top x => (top - x) / top) (accumulate xs) xs = drawdowns xs := by
  cases xs with
  | nil => rfl
  | cons x xs =>
      have hx : 0 < x := hxs x List.mem_cons_self
      rw [drawdowns, accumulate, List.zipWith_cons_cons, List.zipWith_cons_cons,
        zipWith_share_accumulateFrom hx, fallShare_of_pos hx]

end Path

end Intraday.Lib
