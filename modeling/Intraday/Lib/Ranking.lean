import Mathlib.Data.List.Pairwise
import Mathlib.Data.List.Sort

/-!
# Intraday.Lib.Ranking — the best of a list

A list is sorted by a comparison and cut. The comparison need not be total: it is enough if it is
on the elements of the list.

A list that is sorted by a score, in descending order and stably, has each element at the place that
is the number of those before it: those with a higher score, and those with the same score that
were before it in the list (`mem_take_sortByScore`). So the best are found without a sort, and
raising the scores of some elements takes no other one up (`rankIn_le_rankIn_map`).
-/

namespace Intraday.Lib

variable {α : Type*} {le : α → α → Bool} {xs : List α}

/-- A merge sort by a comparison that is total on the elements of the list sorts them. -/
theorem pairwise_mergeSort_of_total_on {p : α → Prop}
    (trans : ∀ a b c, le a b = true → le b c = true → le a c = true)
    (total : ∀ a b, p a → p b → le a b = true ∨ le b a = true) (hxs : ∀ x ∈ xs, p x) :
    (xs.mergeSort le).Pairwise fun a b => le a b = true := by
  -- the same sort, on elements that carry what the comparison needs
  let held := xs.attachWith p hxs
  let leHeld : Subtype p → Subtype p → Bool := fun a b => le a.1 b.1
  have hheld : held.map Subtype.val = xs := List.attachWith_map_subtype_val hxs
  have htotal : ∀ a b, (leHeld a b || leHeld b a) = true := by
    intro a b
    rw [Bool.or_eq_true]
    exact total a.1 b.1 a.2 b.2
  have hsorted := List.pairwise_mergeSort (fun a b c => trans a.1 b.1 c.1) htotal held
  have hmap : (held.mergeSort leHeld).map Subtype.val = (held.map Subtype.val).mergeSort le :=
    List.map_mergeSort fun _ _ _ _ => rfl
  rw [hheld] at hmap
  rw [← hmap, List.pairwise_map]
  exact hsorted

/-- What is kept of a sorted list is before what is cut off. -/
theorem rel_take_drop {r : α → α → Prop} (h : xs.Pairwise r) (n : ℕ) :
    ∀ x ∈ xs.take n, ∀ y ∈ xs.drop n, r x y := by
  rw [← List.take_append_drop n xs] at h
  exact (List.pairwise_append.mp h).2.2

/-- Two sorted lists of the same elements, of which no two are equal in rank, are the same. -/
theorem eq_of_perm_of_distinct {ys : List α} (hperm : xs.Perm ys)
    (hxs : xs.Pairwise fun a b => le a b = true) (hys : ys.Pairwise fun a b => le a b = true)
    (hdistinct : xs.Pairwise fun a b => ¬ (le a b = true ∧ le b a = true)) : xs = ys := by
  refine hperm.eq_of_pairwise ?_ hxs hys
  intro a b ha hb hab hba
  by_contra hne
  have hsymm : Std.Symm fun a b => ¬ (le a b = true ∧ le b a = true) :=
    ⟨fun a b h hboth => h hboth.symm⟩
  exact hdistinct.forall ha (hperm.mem_iff.mpr hb) hne ⟨hab, hba⟩

/-! ## The place of an element -/

/-- What is first in a list that is sorted by a strict order is what few elements are before. -/
theorem mem_take_iff_countP_lt {r : α → α → Prop} [DecidableRel r]
    (asymm : ∀ a b, r a b → ¬ r b a) (h : xs.Pairwise r) {x : α} (hx : x ∈ xs) (n : ℕ) :
    x ∈ xs.take n ↔ xs.countP (fun y => decide (r y x)) < n := by
  rcases List.append_of_mem hx with ⟨before, after, rfl⟩
  rw [List.pairwise_append, List.pairwise_cons] at h
  rcases h with ⟨-, ⟨hafter, -⟩, hbefore⟩
  have hall : before.countP (fun y => decide (r y x)) = before.length := by
    rw [List.countP_eq_length]
    intro y hy
    exact decide_eq_true (hbefore y hy x List.mem_cons_self)
  have hself : ¬ r x x := fun hxx => asymm x x hxx hxx
  have hnone : after.countP (fun y => decide (r y x)) = 0 := by
    rw [List.countP_eq_zero]
    intro y hy
    rw [decide_eq_true_eq]
    exact asymm x y (hafter y hy)
  have hcount : (before ++ x :: after).countP (fun y => decide (r y x)) = before.length := by
    rw [List.countP_append, List.countP_cons, hall, hnone]
    simp [hself]
  rw [hcount]
  constructor
  · intro hmem
    by_contra hle
    rw [List.take_append_of_le_length (Nat.le_of_not_lt hle)] at hmem
    exact hself (hbefore x (List.mem_of_mem_take hmem) x List.mem_cons_self)
  · intro hlt
    rw [List.take_append, List.take_of_length_le (Nat.le_of_lt hlt),
      List.take_cons (Nat.sub_pos_of_lt hlt)]
    exact List.mem_append_right _ List.mem_cons_self

section Scores

variable {β : Type*} [LinearOrder β] (score : α → β)

/-- `sorted(xs, key=score, reverse=True)`. -/
def sortByScore (xs : List α) : List α := xs.mergeSort fun a b => decide (score b ≤ score a)

/-- A numbered element is before another: its score is higher, or the same and its number lower. -/
def RanksBefore (p q : α × ℕ) : Prop := score q.1 < score p.1 ∨ score p.1 = score q.1 ∧ p.2 < q.2

instance : DecidableRel (RanksBefore score) := fun _ _ => inferInstanceAs (Decidable (_ ∨ _))

/-- How many elements of a list are before a numbered one. -/
def rankIn (xs : List α) (p : α × ℕ) : ℕ := xs.zipIdx.countP fun q => decide (RanksBefore score q p)

variable {score}

theorem RanksBefore.asymm {p q : α × ℕ} (h : RanksBefore score p q) : ¬ RanksBefore score q p := by
  rintro (hlt | ⟨heq, hlt⟩)
  · rcases h with h | ⟨h, -⟩
    · exact lt_asymm h hlt
    · exact absurd h hlt.ne
  · rcases h with h | ⟨-, h⟩
    · exact absurd heq h.ne
    · exact Nat.lt_asymm h hlt

/-- The comparison by which a stable sort orders numbered elements. -/
theorem ranksBefore_of_zipIdxLE {p q : α × ℕ} (hne : p.2 ≠ q.2)
    (h : List.zipIdxLE (fun a b => decide (score b ≤ score a)) p q = true) :
    RanksBefore score p q := by
  rw [List.zipIdxLE] at h
  by_cases hle : score q.1 ≤ score p.1
  · rcases hle.lt_or_eq with hlt | heq
    · exact .inl hlt
    · simp only [heq, le_refl, decide_true, if_true, decide_eq_true_eq] at h
      exact .inr ⟨heq.symm, Nat.lt_of_le_of_ne h hne⟩
  · simp [hle] at h

theorem length_sortByScore (score : α → β) (xs : List α) :
    (sortByScore score xs).length = xs.length :=
  List.length_mergeSort _

theorem sortByScore_map {γ : Type*} (f : γ → α) (xs : List γ) :
    sortByScore score (xs.map f) = (sortByScore (fun x => score (f x)) xs).map f :=
  (@List.map_mergeSort _ _ (fun x y => decide (score (f y) ≤ score (f x))) _ f xs
    fun _ _ _ _ => rfl).symm

theorem higher_trans (a b c : α) (hab : decide (score b ≤ score a) = true)
    (hbc : decide (score c ≤ score b) = true) : decide (score c ≤ score a) = true := by
  rw [decide_eq_true_eq] at hab hbc ⊢
  exact hbc.trans hab

theorem higher_total (a b : α) :
    (decide (score b ≤ score a) || decide (score a ≤ score b)) = true := by
  rw [Bool.or_eq_true, decide_eq_true_eq, decide_eq_true_eq]
  exact le_total _ _

theorem pairwise_sortByScore (score : α → β) (xs : List α) :
    (sortByScore score xs).Pairwise fun a b => score b ≤ score a :=
  (List.pairwise_mergeSort higher_trans higher_total xs).imp fun h => of_decide_eq_true h

/-- The best elements are those that few are before. -/
theorem mem_take_sortByScore {x : α} {n : ℕ} :
    x ∈ (sortByScore score xs).take n ↔ ∃ i, (x, i) ∈ xs.zipIdx ∧ rankIn score xs (x, i) < n := by
  -- the numbers make the sorted list the only one
  let le : α → α → Bool := fun a b => decide (score b ≤ score a)
  let sorted := xs.zipIdx.mergeSort (List.zipIdxLE le)
  have hmap : sorted.map Prod.fst = sortByScore score xs := List.mergeSort_zipIdx
  have hperm : sorted.Perm xs.zipIdx := List.mergeSort_perm _ _
  have hnumbers : (sorted.map Prod.snd).Nodup := by
    rw [(hperm.map Prod.snd).nodup_iff, List.zipIdx_map_snd]
    exact List.nodup_range'
  have hsorted : sorted.Pairwise (RanksBefore score) := by
    have hle := List.pairwise_mergeSort (List.zipIdxLE_trans (@higher_trans _ _ _ score))
      (List.zipIdxLE_total higher_total) xs.zipIdx
    refine (hle.and (List.pairwise_map.mp hnumbers)).imp ?_
    rintro p q ⟨hpq, hne⟩
    exact ranksBefore_of_zipIdxLE hne hpq
  have hrank : ∀ p ∈ sorted, p ∈ sorted.take n ↔ rankIn score xs p < n := by
    intro p hp
    rw [mem_take_iff_countP_lt (fun _ _ => RanksBefore.asymm) hsorted hp, rankIn, hperm.countP_eq]
  rw [← hmap, ← List.map_take, List.mem_map]
  constructor
  · rintro ⟨⟨y, i⟩, hmem, rfl⟩
    have hp := List.mem_of_mem_take hmem
    exact ⟨i, hperm.mem_iff.mp hp, (hrank _ hp).mp hmem⟩
  · rintro ⟨i, hmem, hlt⟩
    exact ⟨(x, i), (hrank _ (hperm.mem_iff.mpr hmem)).mpr hlt, rfl⟩

/-- If the elements of a list only rise, no fewer of them are before a given one. -/
theorem rankIn_le_rankIn_map {f : α → α} (hrise : ∀ x ∈ xs, score x ≤ score (f x)) (p : α × ℕ) :
    rankIn score xs p ≤ rankIn score (xs.map f) p := by
  rw [rankIn, rankIn, List.zipIdx_map, List.countP_map]
  refine List.countP_mono_left ?_
  rintro ⟨x, i⟩ hmem hbefore
  have hx := hrise x (List.fst_mem_of_mem_zipIdx hmem)
  simp only [Function.comp_apply, Prod.map_apply, id_eq, decide_eq_true_eq] at hbefore ⊢
  rcases hbefore with hlt | ⟨heq, hlt⟩
  · exact .inl (hlt.trans_le hx)
  · rcases hx.lt_or_eq with hup | hsame
    · exact .inl (heq ▸ hup)
    · exact .inr ⟨hsame ▸ heq, hlt⟩

end Scores

end Intraday.Lib
