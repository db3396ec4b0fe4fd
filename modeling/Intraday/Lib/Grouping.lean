import Mathlib.Algebra.BigOperators.Group.List.Basic
import Mathlib.Data.List.Induction
import Mathlib.Data.List.Nodup

/-!
# Intraday.Lib.Grouping — lists taken apart by a label

Facts about the groups of a list, over any label: the top of a group as it is
kept up element by element, the ends of a group, and a sum that is taken group by
group.
-/

namespace Intraday.Lib

variable {α β M : Type*}

/-! ## Tops -/

/-- `m` is one of the list and above all of it, by a relation. -/
structure IsTop (r : α → α → Prop) (xs : List α) (m : α) : Prop where
  mem : m ∈ xs
  top : ∀ x ∈ xs, r x m

section Tops

variable {r : α → α → Prop} {xs : List α} {m m' x : α}

theorem IsTop.singleton (hx : r x x) : IsTop r [x] x := by
  refine ⟨List.mem_singleton_self x, ?_⟩
  intro y hy
  rcases List.mem_singleton.mp hy with rfl
  exact hx

/-- A running top: of the old top and a new element take one that is above both. -/
theorem IsTop.concat (htrans : ∀ {a b c}, r a b → r b c → r a c) (h : IsTop r xs m)
    (hpick : m' = m ∨ m' = x) (hm : r m m') (hx : r x m') : IsTop r (xs ++ [x]) m' := by
  constructor
  · rcases hpick with rfl | rfl
    · exact List.mem_append_left _ h.mem
    · exact List.mem_append_right _ (List.mem_singleton_self _)
  · intro y hy
    rcases List.mem_append.mp hy with hold | hnew
    · exact htrans (h.top y hold) hm
    · rcases List.mem_singleton.mp hnew with rfl
      exact hx

/-- A fold that takes the new element if it is above the one that it has, and otherwise keeps that
one, ends with the top. -/
theorem isTop_foldl {p : α → α → Prop} [∀ a b, Decidable (p a b)] (hrefl : ∀ a, r a a)
    (htrans : ∀ {a b c}, r a b → r b c → r a c) (htakes : ∀ a b, p a b → r a b)
    (hkeeps : ∀ a b, ¬ p a b → r b a) (x : α) (xs : List α) :
    IsTop r (x :: xs) (xs.foldl (fun a b => if p a b then b else a) x) := by
  induction xs using List.reverseRecOn with
  | nil => exact .singleton (hrefl x)
  | append_singleton xs y ih =>
      rw [List.foldl_append, List.foldl_cons, List.foldl_nil]
      generalize xs.foldl (fun a b => if p a b then b else a) x = m at ih
      have htop : IsTop r ((x :: xs) ++ [y]) (if p m y then y else m) := by
        split
        · rename_i h
          exact ih.concat htrans (.inr rfl) (htakes m y h) (hrefl y)
        · rename_i h
          exact ih.concat htrans (.inl rfl) (hrefl m) (hkeeps m y h)
      exact htop

end Tops

/-! ## Groups by a key -/

/-- The groups of some keys, one after the other, are the elements with one of these keys. -/
theorem flatten_groups_perm {κ : Type*} [DecidableEq κ] [DecidableEq α] (key : α → κ) {ks : List κ}
    (hks : ks.Nodup) (xs : List α) :
    ((ks.map fun k => xs.filter fun x => decide (key x = k)).flatten).Perm
      (xs.filter fun x => decide (key x ∈ ks)) := by
  induction ks with
  | nil => simp
  | cons k ks ih =>
      rw [List.nodup_cons] at hks
      rw [List.map_cons, List.flatten_cons]
      refine ((ih hks.2).append_left _).trans (List.perm_iff_count.mpr ?_)
      intro a
      have hcount : ∀ p : α → Bool, (xs.filter p).count a = if p a then xs.count a else 0 := by
        intro p
        split
        · rename_i hp
          exact List.count_filter hp
        · rename_i hp
          exact List.count_eq_zero_of_not_mem fun hmem => hp (List.mem_filter.mp hmem).2
      rw [List.count_append, hcount, hcount, hcount]
      simp only [decide_eq_true_eq, List.mem_cons]
      by_cases hk : key a = k
      · have hnot : ¬ key a ∈ ks := hk ▸ hks.1
        rw [if_pos hk, if_neg hnot, if_pos (.inl hk), Nat.add_zero]
      · simp only [hk, false_or, if_false, Nat.zero_add]

/-! ## Ends -/

/-- If the keys are different, an element is alone with its key. -/
theorem filter_key_eq_singleton {κ : Type*} [DecidableEq κ] {key : α → κ} {xs : List α}
    (h : (xs.map key).Nodup) {x : α} (hx : x ∈ xs) :
    xs.filter (fun y => decide (key y = key x)) = [x] := by
  induction xs with
  | nil => cases hx
  | cons y ys ih =>
      rw [List.map_cons, List.nodup_cons] at h
      rcases List.mem_cons.mp hx with rfl | hmem
      · have hrest : ys.filter (fun y => decide (key y = key x)) = [] := by
          refine List.filter_eq_nil_iff.mpr ?_
          intro z hz hkey
          exact h.1 (of_decide_eq_true hkey ▸ List.mem_map_of_mem hz)
        rw [List.filter_cons, if_pos (decide_eq_true rfl), hrest]
      · have hne : key y ≠ key x := fun hkey => h.1 (hkey ▸ List.mem_map_of_mem hmem)
        rw [List.filter_cons_of_neg (by rwa [decide_eq_true_eq])]
        exact ih h.2 hmem

/-- If the first element of a list is in a group, it is the first of the group. -/
theorem head?_filter_of_head? {p : α → Bool} {xs : List α} {x : α} (h : xs.head? = some x)
    (hp : p x = true) : (xs.filter p).head? = some x := by
  cases xs with
  | nil => cases h
  | cons y ys =>
      rcases Option.some.inj h with rfl
      rw [List.filter_cons_of_pos hp]
      rfl

/-- If the last element of a list is in a group, it is the last of the group. -/
theorem getLast?_filter_of_getLast? {p : α → Bool} {xs : List α} {x : α}
    (h : xs.getLast? = some x) (hp : p x = true) : (xs.filter p).getLast? = some x := by
  rw [← List.head?_reverse] at h ⊢
  rw [← List.filter_reverse]
  exact head?_filter_of_head? h hp

/-- In an ordered list the first element is below all. -/
theorem le_of_head? {r : α → α → Prop} (hrefl : ∀ x, r x x) {xs : List α} {x y : α}
    (hsorted : xs.Pairwise r) (h : xs.head? = some x) (hy : y ∈ xs) : r x y := by
  cases xs with
  | nil => cases h
  | cons z zs =>
      rcases Option.some.inj h with rfl
      rcases List.mem_cons.mp hy with rfl | hy
      · exact hrefl y
      · exact (List.pairwise_cons.mp hsorted).1 y hy

/-- In an ordered list the last element is above all. -/
theorem le_of_getLast? {r : α → α → Prop} (hrefl : ∀ x, r x x) {xs : List α} {x y : α}
    (hsorted : xs.Pairwise r) (h : xs.getLast? = some x) (hy : y ∈ xs) : r y x := by
  rw [← List.head?_reverse] at h
  rw [← List.pairwise_reverse] at hsorted
  exact le_of_head? (r := fun b a => r a b) hrefl hsorted h (List.mem_reverse.mpr hy)

/-! ## Sums -/

/-- A sum over a list is the sum of the sums over its groups. -/
theorem sum_groups [AddCommMonoid M] [DecidableEq β] {labels : List β} (hnodup : labels.Nodup)
    {f : α → β} {xs : List α} (hlabel : ∀ x ∈ xs, f x ∈ labels) (g : α → M) :
    (labels.map fun l => ((xs.filter fun x => f x = l).map g).sum).sum = (xs.map g).sum := by
  induction xs with
  | nil => simp
  | cons x xs ih =>
      rw [List.forall_mem_cons] at hlabel
      -- the first element counts in its own group only
      have hone : ∀ l, (((x :: xs).filter fun x => f x = l).map g).sum
          = (if f x = l then g x else 0) + ((xs.filter fun x => f x = l).map g).sum := by
        intro l
        by_cases hl : f x = l
        · simp [hl]
        · simp [hl]
      have hfirst : (labels.map fun l => if f x = l then g x else 0).sum = g x := by
        rw [List.sum_map_eq_nsmul_single (f x) _ fun l hne _ => if_neg (Ne.symm hne),
          List.count_eq_one_of_mem hnodup hlabel.1, if_pos rfl, one_nsmul]
      simp only [hone, List.sum_map_add, hfirst, ih hlabel.2, List.map_cons, List.sum_cons]

end Intraday.Lib
