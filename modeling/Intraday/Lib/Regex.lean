import Mathlib.Data.List.Basic

/-!
# Intraday.Lib.Regex — regular expressions with groups

The part of Python's `re` without alternatives: classes of characters, their greedy
repetition, greedy optional parts and numbered groups. `results` lists the ways in which a
pattern matches at the front of a text, in the order in which backtracking finds them, and
`search` takes the first way at the first place. What a group captured matches the pattern
of the group (`capture_of_search`), however the rest of the text looks.
-/

namespace Intraday.Lib.Regex

/-- A pattern; a class of characters is its test. -/
inductive Pattern where
  | char (p : Char → Bool)
  | many (p : Char → Bool)
  | opt (a : Pattern)
  | seq (a b : Pattern)
  | group (n : ℕ) (a : Pattern)

/-- The texts of the groups, by their numbers. -/
abbrev Captures := List (ℕ × List Char)

namespace Pattern

/-- What a greedy repetition leaves of a text, the longest match first. -/
def manyRests (p : Char → Bool) : List Char → List (List Char)
  | [] => [[]]
  | c :: cs => if p c then manyRests p cs ++ [c :: cs] else [c :: cs]

/-- The matches at the front of a text: what is left of it, and what the groups captured. -/
def results : Pattern → List Char → List (List Char × Captures)
  | char _, [] => []
  | char p, c :: cs => if p c then [(cs, [])] else []
  | many p, cs => (manyRests p cs).map fun rest => (rest, [])
  | opt a, cs => a.results cs ++ [(cs, [])]
  | seq a b, cs =>
      (a.results cs).flatMap fun x => (b.results x.1).map fun y => (y.1, x.2 ++ y.2)
  | group n a, cs =>
      (a.results cs).map fun x => (x.1, x.2 ++ [(n, cs.take (cs.length - x.1.length))])

/-- `re.search`: the groups of the first match. -/
def search (p : Pattern) : List Char → Option Captures
  | [] => (p.results []).head?.map Prod.snd
  | c :: cs =>
      match (p.results (c :: cs)).head? with
      | some x => some x.2
      | none => p.search cs

/-- The texts that a pattern matches. -/
def Matches : Pattern → List Char → Prop
  | char p, text => ∃ c, text = [c] ∧ p c = true
  | many p, text => ∀ c ∈ text, p c = true
  | opt a, text => text = [] ∨ a.Matches text
  | seq a b, text => ∃ front back, text = front ++ back ∧ a.Matches front ∧ b.Matches back
  | group _ a, text => a.Matches text

/-- `p+`. -/
def plus (p : Char → Bool) : Pattern := seq (char p) (many p)

/-- A literal text, up to `same` in each character, and what follows it. -/
def literal (same : Char → Char → Bool) (text : List Char) (rest : Pattern) : Pattern :=
  text.foldr (fun c p => seq (char (same c)) p) rest

/-- The groups of a pattern. -/
def groups : Pattern → List (ℕ × Pattern)
  | char _ => []
  | many _ => []
  | opt a => a.groups
  | seq a b => a.groups ++ b.groups
  | group n a => a.groups ++ [(n, a)]

/-- The numbers of the groups that take part in every match. -/
def sure : Pattern → List ℕ
  | char _ => []
  | many _ => []
  | opt _ => []
  | seq a b => a.sure ++ b.sure
  | group n a => a.sure ++ [n]

theorem groups_literal (same : Char → Char → Bool) (text : List Char) (rest : Pattern) :
    (literal same text rest).groups = rest.groups := by
  induction text with
  | nil => rfl
  | cons c text ih => exact ih

theorem sure_literal (same : Char → Char → Bool) (text : List Char) (rest : Pattern) :
    (literal same text rest).sure = rest.sure := by
  induction text with
  | nil => rfl
  | cons c text ih => exact ih

/-- A repetition takes characters of its class off the front. -/
theorem mem_manyRests {p : Char → Bool} {cs rest : List Char} (h : rest ∈ manyRests p cs) :
    ∃ text, cs = text ++ rest ∧ ∀ c ∈ text, p c = true := by
  have hnone : ∀ c ∈ ([] : List Char), p c = true := by
    intro c hc
    cases hc
  induction cs with
  | nil =>
      rw [List.mem_singleton.mp h]
      exact ⟨[], rfl, hnone⟩
  | cons c cs ih =>
      rw [manyRests] at h
      split_ifs at h with hc
      · rcases List.mem_append.mp h with hlonger | hhere
        · rcases ih hlonger with ⟨text, htext, hall⟩
          refine ⟨c :: text, by rw [htext, List.cons_append], ?_⟩
          intro d hd
          rcases List.mem_cons.mp hd with rfl | hlater
          · exact hc
          · exact hall d hlater
        · rw [List.mem_singleton.mp hhere]
          exact ⟨[], rfl, hnone⟩
      · rw [List.mem_singleton.mp h]
        exact ⟨[], rfl, hnone⟩

/-- A match takes a text of the pattern off the front. -/
theorem matches_of_mem_results {p : Pattern} {cs : List Char} {x : List Char × Captures}
    (h : x ∈ p.results cs) : ∃ text, cs = text ++ x.1 ∧ p.Matches text := by
  induction p generalizing cs x with
  | char p =>
      cases cs with
      | nil => cases h
      | cons c cs =>
          rw [results] at h
          split_ifs at h with hc
          · rw [List.mem_singleton.mp h]
            exact ⟨[c], rfl, c, rfl, hc⟩
          · cases h
  | many p =>
      rcases List.mem_map.mp h with ⟨rest, hrest, rfl⟩
      exact mem_manyRests hrest
  | opt a iha =>
      rcases List.mem_append.mp h with htaken | hskipped
      · rcases iha htaken with ⟨text, htext, hmatch⟩
        exact ⟨text, htext, Or.inr hmatch⟩
      · rw [List.mem_singleton.mp hskipped]
        exact ⟨[], rfl, Or.inl rfl⟩
  | seq a b iha ihb =>
      rcases List.mem_flatMap.mp h with ⟨y, hy, hx⟩
      rcases List.mem_map.mp hx with ⟨z, hz, rfl⟩
      rcases iha hy with ⟨front, hfront, hmatchFront⟩
      rcases ihb hz with ⟨back, hback, hmatchBack⟩
      refine ⟨front ++ back, ?_, front, back, rfl, hmatchFront, hmatchBack⟩
      rw [hfront, hback, List.append_assoc]
  | group n a iha =>
      rcases List.mem_map.mp h with ⟨y, hy, rfl⟩
      rcases iha hy with ⟨text, htext, hmatch⟩
      exact ⟨text, htext, hmatch⟩

/-- What a match captured in a group is a text of the group. -/
theorem matches_of_mem_captures {p : Pattern} {cs : List Char} {x : List Char × Captures}
    (h : x ∈ p.results cs) {n : ℕ} {text : List Char} (hcapture : (n, text) ∈ x.2) :
    ∃ a, (n, a) ∈ p.groups ∧ a.Matches text := by
  induction p generalizing cs x with
  | char p =>
      cases cs with
      | nil => cases h
      | cons c cs =>
          rw [results] at h
          split_ifs at h with hc
          · rw [List.mem_singleton.mp h] at hcapture
            cases hcapture
          · cases h
  | many p =>
      rcases List.mem_map.mp h with ⟨rest, -, rfl⟩
      cases hcapture
  | opt a iha =>
      rcases List.mem_append.mp h with htaken | hskipped
      · exact iha htaken hcapture
      · rw [List.mem_singleton.mp hskipped] at hcapture
        cases hcapture
  | seq a b iha ihb =>
      rcases List.mem_flatMap.mp h with ⟨y, hy, hx⟩
      rcases List.mem_map.mp hx with ⟨z, hz, rfl⟩
      rcases List.mem_append.mp hcapture with hfront | hback
      · rcases iha hy hfront with ⟨g, hg, hmatch⟩
        exact ⟨g, List.mem_append_left _ hg, hmatch⟩
      · rcases ihb hz hback with ⟨g, hg, hmatch⟩
        exact ⟨g, List.mem_append_right _ hg, hmatch⟩
  | group m a iha =>
      rcases List.mem_map.mp h with ⟨y, hy, rfl⟩
      rcases List.mem_append.mp hcapture with hinner | hthis
      · rcases iha hy hinner with ⟨g, hg, hmatch⟩
        exact ⟨g, List.mem_append_left _ hg, hmatch⟩
      · -- the text is what the match took off the front
        rcases matches_of_mem_results hy with ⟨taken, htaken, hmatch⟩
        rcases Prod.mk.inj (List.mem_singleton.mp hthis) with ⟨rfl, htext⟩
        have hcut : text = taken := by
          rw [htext, htaken, List.length_append, Nat.add_sub_cancel, List.take_left]
        rw [hcut]
        exact ⟨a, List.mem_append_right _ List.mem_cons_self, hmatch⟩

/-- A group that takes part in every match has captured a text. -/
theorem exists_capture {p : Pattern} {cs : List Char} {x : List Char × Captures}
    (h : x ∈ p.results cs) {n : ℕ} (hn : n ∈ p.sure) : ∃ text, (n, text) ∈ x.2 := by
  induction p generalizing cs x with
  | char p => cases hn
  | many p => cases hn
  | opt a => cases hn
  | seq a b iha ihb =>
      rcases List.mem_flatMap.mp h with ⟨y, hy, hx⟩
      rcases List.mem_map.mp hx with ⟨z, hz, rfl⟩
      rcases List.mem_append.mp hn with hfront | hback
      · rcases iha hy hfront with ⟨text, htext⟩
        exact ⟨text, List.mem_append_left _ htext⟩
      · rcases ihb hz hback with ⟨text, htext⟩
        exact ⟨text, List.mem_append_right _ htext⟩
  | group m a iha =>
      rcases List.mem_map.mp h with ⟨y, hy, rfl⟩
      rcases List.mem_append.mp hn with hinner | hthis
      · rcases iha hy hinner with ⟨text, htext⟩
        exact ⟨text, List.mem_append_left _ htext⟩
      · rw [List.mem_singleton.mp hthis]
        exact ⟨_, List.mem_append_right _ List.mem_cons_self⟩

/-- A search finds a match somewhere in the text. -/
theorem exists_mem_results {p : Pattern} {cs : List Char} {captures : Captures}
    (h : p.search cs = some captures) : ∃ back rest, (rest, captures) ∈ p.results back := by
  have hhead : ∀ back x, (p.results back).head? = some x → x ∈ p.results back := by
    intro back x hx
    exact List.mem_of_head? hx
  induction cs with
  | nil =>
      rcases Option.map_eq_some_iff.mp h with ⟨x, hx, rfl⟩
      exact ⟨[], x.1, hhead _ _ hx⟩
  | cons c cs ih =>
      rw [search] at h
      split at h
      · rename_i x hx
        rcases Option.some.inj h with rfl
        exact ⟨c :: cs, x.1, hhead _ _ hx⟩
      · exact ih h

/-- What a search gives for a group that takes part in every match. -/
theorem capture_of_search {p : Pattern} {cs : List Char} {captures : Captures}
    (h : p.search cs = some captures) {n : ℕ} (hn : n ∈ p.sure) :
    ∃ text, captures.lookup n = some text ∧ ∃ a, (n, a) ∈ p.groups ∧ a.Matches text := by
  rcases exists_mem_results h with ⟨back, rest, hmem⟩
  rcases exists_capture hmem hn with ⟨text, htext⟩
  cases hlookup : captures.lookup n with
  | none =>
      have hnone := List.lookup_eq_none_iff.mp hlookup _ htext
      simp at hnone
  | some found =>
      have hfound : (n, found) ∈ captures := by
        rcases List.lookup_eq_some_iff.mp hlookup with ⟨front, behind, hsplit, -⟩
        rw [hsplit]
        exact List.mem_append_right _ List.mem_cons_self
      exact ⟨found, rfl, matches_of_mem_captures hmem hfound⟩

end Pattern

end Intraday.Lib.Regex
