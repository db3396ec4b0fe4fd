import Mathlib.Data.List.Basic

/-!
# Intraday.Lib.Traverse — reading the items of a list one after the other

A loop that builds a list out of what it reads from each item returns if every item can be
read, and otherwise stops at the first one that cannot, with what that one raises.
-/

namespace Intraday.Lib

/-! ## Items that raise -/

section Items

variable {ε ι α : Type} {f : ι → Except ε α}

/-- What a sequence of two returns, its first part has returned something for. -/
theorem bind_eq_ok_iff {β : Type} {x : Except ε α} {g : α → Except ε β} {b : β} :
    (x >>= g) = .ok b ↔ ∃ a, x = .ok a ∧ g a = .ok b := by
  cases x with
  | error e =>
      constructor
      · intro h
        cases h
      · rintro ⟨a, h, -⟩
        cases h
  | ok a =>
      constructor
      · exact fun h => ⟨a, rfl, h⟩
      · rintro ⟨a', h, hg⟩
        rw [Except.ok.inj h]
        exact hg

theorem exists_of_map_ok {β : Type} {x : Except ε α} {g : α → β} {b : β}
    (h : x.map g = .ok b) : ∃ a, x = .ok a ∧ g a = b := by
  cases x with
  | error e => cases h
  | ok a => exact ⟨a, rfl, Except.ok.inj h⟩

theorem mapM_cons_ok {i : ι} {a : α} {items : List ι} (h : f i = .ok a) :
    (i :: items).mapM f = (items.mapM f).map (a :: ·) := by
  rw [List.mapM_cons, h]
  cases items.mapM f <;> rfl

/-- Items that are all read give a list. -/
theorem mapM_ok {items : List ι} (h : ∀ i ∈ items, ∃ a, f i = .ok a) :
    ∃ as, items.mapM f = .ok as := by
  induction items with
  | nil => exact ⟨[], rfl⟩
  | cons i items ih =>
      rcases h i (by simp) with ⟨a, ha⟩
      rcases ih fun j hj => h j (List.mem_cons_of_mem _ hj) with ⟨as, has⟩
      exact ⟨a :: as, by rw [mapM_cons_ok ha, has]; rfl⟩

/-- Items that are read as `g` gives them. -/
theorem mapM_eq_map {g : ι → α} {items : List ι} (h : ∀ i ∈ items, f i = .ok (g i)) :
    items.mapM f = .ok (items.map g) := by
  induction items with
  | nil => rfl
  | cons i items ih =>
      rw [List.forall_mem_cons] at h
      rw [mapM_cons_ok h.1, ih h.2]
      rfl

/-- The first item that raises decides. -/
theorem mapM_error {before after : List ι} {i : ι} {e : ε}
    (h : ∀ j ∈ before, ∃ a, f j = .ok a) (hi : f i = .error e) :
    (before ++ i :: after).mapM f = .error e := by
  induction before with
  | nil =>
      rw [List.nil_append, List.mapM_cons, hi]
      rfl
  | cons j before ih =>
      rcases h j (by simp) with ⟨a, ha⟩
      rw [List.cons_append, mapM_cons_ok ha, ih fun k hk => h k (List.mem_cons_of_mem _ hk)]
      rfl

/-- All items are read, or one is the first that is not. -/
theorem all_or_first (f : ι → Except ε α) (items : List ι) :
    (∀ i ∈ items, ∃ a, f i = .ok a) ∨
      ∃ before i after e, items = before ++ i :: after ∧
        (∀ j ∈ before, ∃ a, f j = .ok a) ∧ f i = .error e := by
  induction items with
  | nil => exact Or.inl (by simp)
  | cons i items ih =>
      cases hi : f i with
      | error e => exact Or.inr ⟨[], i, items, e, rfl, by simp, hi⟩
      | ok a =>
          rcases ih with hall | ⟨before, j, after, e, rfl, hbefore, hj⟩
          · exact Or.inl (List.forall_mem_cons.mpr ⟨⟨a, hi⟩, hall⟩)
          · exact Or.inr ⟨i :: before, j, after, e, rfl,
              List.forall_mem_cons.mpr ⟨⟨a, hi⟩, hbefore⟩, hj⟩

/-- A list of items that is read has read each. -/
theorem exists_of_mapM_ok {items : List ι} {as : List α} (h : items.mapM f = .ok as) :
    ∀ i ∈ items, ∃ a, f i = .ok a := by
  rcases all_or_first f items with hall | ⟨before, i, after, e, rfl, hbefore, hi⟩
  · exact hall
  · rw [mapM_error hbefore hi] at h
    cases h

/-- A list is read exactly if each of its items can be read. -/
theorem mapM_eq_ok_iff {P : ι → Prop} {g : ι → α} (hf : ∀ i a, f i = .ok a ↔ P i ∧ a = g i)
    {items : List ι} {as : List α} :
    items.mapM f = .ok as ↔ (∀ i ∈ items, P i) ∧ as = items.map g := by
  constructor
  · intro h
    have hall : ∀ i ∈ items, P i := by
      intro i hi
      rcases exists_of_mapM_ok h i hi with ⟨a, ha⟩
      exact ((hf i a).mp ha).1
    have hread : items.mapM f = .ok (items.map g) :=
      mapM_eq_map fun i hi => (hf i (g i)).mpr ⟨hall i hi, rfl⟩
    rw [hread] at h
    exact ⟨hall, (Except.ok.inj h).symm⟩
  · rintro ⟨hall, rfl⟩
    exact mapM_eq_map fun i hi => (hf i (g i)).mpr ⟨hall i hi, rfl⟩

end Items

/-! ## Tests that raise -/

section Tests

variable {ε ι : Type} {p : ι → Except ε Bool}

/-- `[x for x in items if p(x)]`. -/
def filterExcept (p : ι → Except ε Bool) : List ι → Except ε (List ι)
  | [] => .ok []
  | i :: items =>
      match p i with
      | .error e => .error e
      | .ok keep => (filterExcept p items).map fun rest => if keep then i :: rest else rest

/-- A test that returns on every item is a filter. -/
theorem filterExcept_ok {q : ι → Bool} {items : List ι} (h : ∀ i ∈ items, p i = .ok (q i)) :
    filterExcept p items = .ok (items.filter q) := by
  induction items with
  | nil => rfl
  | cons i items ih =>
      have hrest : ∀ j ∈ items, p j = .ok (q j) := by
        intro j hj
        exact h j (List.mem_cons_of_mem _ hj)
      rw [filterExcept, h i List.mem_cons_self]
      simp only [ih hrest, Except.map]
      cases hq : q i with
      | false => rw [List.filter_cons_of_neg (by rw [hq]; exact Bool.false_ne_true)]; rfl
      | true => rw [List.filter_cons_of_pos hq]; rfl

/-- If every test returns, the filter does. -/
theorem exists_filterExcept {items : List ι} (h : ∀ i ∈ items, ∃ keep, p i = .ok keep) :
    ∃ kept, filterExcept p items = .ok kept ∧ ∀ i ∈ kept, i ∈ items := by
  have hall : ∀ i ∈ items, p i = .ok ((p i).toOption.getD false) := by
    intro i hi
    rcases h i hi with ⟨keep, hkeep⟩
    rw [hkeep]
    rfl
  refine ⟨items.filter fun i => (p i).toOption.getD false, filterExcept_ok hall, ?_⟩
  intro i hi
  exact List.mem_of_mem_filter hi

/-- A filter that returns has tested every item. -/
theorem exists_of_filterExcept {items kept : List ι} (h : filterExcept p items = .ok kept) :
    ∀ i ∈ items, ∃ keep, p i = .ok keep := by
  induction items generalizing kept with
  | nil =>
      intro i hi
      cases hi
  | cons j items ih =>
      rw [filterExcept] at h
      cases hj : p j with
      | error e =>
          rw [hj] at h
          cases h
      | ok keep =>
          rw [hj] at h
          rcases exists_of_map_ok h with ⟨rest, hrest, -⟩
          intro i hi
          rcases List.mem_cons.mp hi with rfl | hlater
          · exact ⟨keep, hj⟩
          · exact ih hrest i hlater

end Tests

/-! ## Folds that raise -/

section Folds

variable {ε ι σ : Type} {f : σ → ι → Except ε σ}

/-- A fold returns if every step returns and keeps what the next one needs. -/
theorem exists_foldlM {inv : σ → Prop} {items : List ι}
    (hstep : ∀ s, inv s → ∀ i ∈ items, ∃ s', f s i = .ok s' ∧ inv s') {s : σ} (hs : inv s) :
    ∃ s', items.foldlM f s = .ok s' ∧ inv s' := by
  induction items generalizing s with
  | nil => exact ⟨s, rfl, hs⟩
  | cons i items ih =>
      rcases hstep s hs i List.mem_cons_self with ⟨next, hnext, hinv⟩
      rcases ih (fun t ht j hj => hstep t ht j (List.mem_cons_of_mem _ hj)) hinv with
        ⟨s', hs', hinv'⟩
      refine ⟨s', ?_, hinv'⟩
      rw [List.foldlM_cons, hnext]
      exact hs'

/-- A fold raises what one of its steps raises. -/
theorem foldlM_error {items : List ι} {s : σ} {e : ε} (h : items.foldlM f s = .error e) :
    ∃ s' i, f s' i = .error e := by
  induction items generalizing s with
  | nil => cases h
  | cons i items ih =>
      rw [List.foldlM_cons] at h
      cases hnext : f s i with
      | error e' =>
          rw [hnext] at h
          rcases Except.error.inj h with rfl
          exact ⟨s, i, hnext⟩
      | ok next =>
          rw [hnext] at h
          exact ih h

/-- A loop that reads each item and goes on with what it has read: all items are read, and the loop
goes over what they gave. -/
theorem foldlM_read {α : Type} {read : ι → Except ε α} {g : σ → ι → α → σ} (items : List ι)
    (s : σ) :
    items.foldlM (fun s i => read i >>= fun a => .ok (g s i a)) s =
      (items.mapM read).map fun as => (items.zip as).foldl (fun s p => g s p.1 p.2) s := by
  induction items generalizing s with
  | nil => rfl
  | cons i items ih =>
      rw [List.foldlM_cons, List.mapM_cons]
      cases hi : read i with
      | error e => rfl
      | ok a =>
          refine (ih (g s i a)).trans ?_
          cases items.mapM read <;> rfl

end Folds

/-! ## Items that are missing -/

/-- All items are read if each is. -/
theorem isSome_mapM {α β : Type} {f : α → Option β} {xs : List α} :
    (xs.mapM f).isSome = true ↔ ∀ x ∈ xs, (f x).isSome = true := by
  induction xs with
  | nil => simp
  | cons x xs ih =>
      rw [List.mapM_cons, List.forall_mem_cons, ← ih]
      cases f x with
      | none => simp
      | some y => cases xs.mapM f <;> simp

/-- Items that are all read as `g` gives them. -/
theorem mapM_eq_some_map {α β : Type} {f : α → Option β} {g : α → β} {xs : List α}
    (h : ∀ x ∈ xs, f x = some (g x)) : xs.mapM f = some (xs.map g) := by
  induction xs with
  | nil => rfl
  | cons x xs ih =>
      rw [List.forall_mem_cons] at h
      rw [List.mapM_cons, h.1, ih h.2]
      rfl

/-- One item that is missing is enough. -/
theorem mapM_eq_none {α β : Type} {f : α → Option β} {xs : List α} {x : α} (hx : x ∈ xs)
    (h : f x = none) : xs.mapM f = none := by
  rw [← Option.not_isSome_iff_eq_none, isSome_mapM]
  intro hall
  have hsome := hall x hx
  rw [h] at hsome
  cases hsome

end Intraday.Lib
