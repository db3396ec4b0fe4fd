import Mathlib.Algebra.Order.Group.Defs
import Mathlib.Algebra.Order.Group.Unbundled.Basic
import Mathlib.Data.List.Induction
import Mathlib.Tactic.Common

/-!
# Intraday.Lib.SlidingWindow — limits over a sliding window

A limiter remembers when it let items through, forgets from the front what is older than the
window, and lets the next one through while it remembers fewer than the limit. Then every window
has at most that many items (`countP_window_le`), also if the clock is read once before an item
passes and once after it, and the item passes anywhere between.
-/

namespace Intraday.Lib.SlidingWindow

variable {τ α : Type} [LinearOrder τ]

/-- What is remembered from `cut` on. -/
def prune (cut : τ) (times : List τ) : List τ := times.dropWhile fun t => decide (t < cut)

/-- Only times before the cut are forgotten. -/
theorem countP_prune {cut lo : τ} (h : cut ≤ lo) (times : List τ) :
    (prune cut times).countP (fun t => decide (lo ≤ t)) =
      times.countP fun t => decide (lo ≤ t) := by
  induction times with
  | nil => rfl
  | cons t times ih =>
      by_cases ht : t < cut
      · have hlo : ¬lo ≤ t := not_le.mpr (ht.trans_le h)
        have hpruned : prune cut (t :: times) = prune cut times :=
          List.dropWhile_cons_of_pos (by simpa using ht)
        rw [hpruned, ih, List.countP_cons_of_neg (by simpa using hlo)]
      · have hkept : prune cut (t :: times) = t :: times :=
          List.dropWhile_cons_of_neg (by simpa using ht)
        rw [hkept]

/-- What is remembered from the cut on is as much as what happened from then on. -/
theorem countP_le_length_prune (cut : τ) (times : List τ) :
    times.countP (fun t => decide (cut ≤ t)) ≤ (prune cut times).length := by
  rw [← countP_prune le_rfl]
  exact List.countP_le_length

variable [AddCommGroup τ] [IsOrderedAddMonoid τ] {checked sent recorded : α → τ} {width : τ}
  {limit : ℕ}

/-- If each item is let through while fewer than `limit` earlier ones are in the window before
it, every window has at most `limit` items. -/
theorem countP_window_le {items : List α}
    (hordered : ∀ a ∈ items, checked a ≤ sent a ∧ sent a ≤ recorded a)
    (hpassed : ∀ before a after, items = before ++ a :: after →
      before.countP (fun b => decide (checked a - width ≤ recorded b)) < limit) (start : τ) :
    items.countP (fun a => decide (start ≤ sent a ∧ sent a ≤ start + width)) ≤ limit := by
  induction items using List.reverseRecOn with
  | nil => exact Nat.zero_le limit
  | append_singleton items a ih =>
      have hearlier : ∀ b ∈ items, checked b ≤ sent b ∧ sent b ≤ recorded b := by
        intro b hb
        exact hordered b (List.mem_append_left _ hb)
      rw [List.countP_append, List.countP_singleton]
      by_cases hin : start ≤ sent a ∧ sent a ≤ start + width
      · -- an item of the window before `a` was recorded within the window that `a` is checked for
        have hcut : checked a - width ≤ start :=
          sub_le_iff_le_add.mpr ((hordered a (by simp)).1.trans hin.2)
        have hseen : items.countP (fun b => decide (start ≤ sent b ∧ sent b ≤ start + width)) ≤
            items.countP (fun b => decide (checked a - width ≤ recorded b)) := by
          apply List.countP_mono_left
          intro b hb hwindow
          have hstart := (of_decide_eq_true hwindow).1
          exact decide_eq_true (hcut.trans (hstart.trans (hearlier b hb).2))
        have hfew := hpassed items a [] rfl
        rw [if_pos (decide_eq_true hin)]
        omega
      · rw [if_neg (by simpa using hin), Nat.add_zero]
        apply ih hearlier
        intro before b after heq
        exact hpassed before b (after ++ [a]) (by rw [heq, List.append_assoc, List.cons_append])

end Intraday.Lib.SlidingWindow
