import Intraday.Lib.Ranking
import Intraday.Orchestrator.LongTermMemory
import Mathlib.Analysis.SpecialFunctions.Pow.Real

/-!
# Intraday.Orchestrator.Activation — the ranking of `LongTermMemory`

An entry is scored by the times at which it was recalled, each weighed by a power of its age, and
`retrieve_top_k` returns the entries with the best scores. A recall adds a time to its entry, which
raises its score.

The scores are exact numbers; what the code needs of the power and of the logarithm is in
`ActivationCurve`, which the real functions satisfy (`actR`). `retrieveTopK_run` says what is
returned after any history: recalls of entries that are returned change the order of what is
returned only.
-/

namespace Intraday.Orchestrator

open Intraday.Lib

variable {K : Type} [AddCommMonoid K] [LinearOrder K] [IsOrderedAddMonoid K]

/-! ## Scores -/

/-- `ACT_R_DECAY_PARAM`. -/
def actRDecayParam : ℚ := 1 / 2

/-- `elapsed ** (-ACT_R_DECAY_PARAM)` of a positive number of seconds, and `math.log`. -/
structure ActivationCurve (K : Type) [AddCommMonoid K] [LinearOrder K] where
  decayed : ℚ → K
  log : K → K
  decayed_pos : ∀ elapsed, 0 < elapsed → 0 < decayed elapsed
  log_mono : ∀ x y, 0 < x → x ≤ y → log x ≤ log y

/-- The functions of the real numbers. -/
noncomputable def actR : ActivationCurve ℝ where
  decayed elapsed := (elapsed : ℝ) ^ (-(actRDecayParam : ℝ))
  log := Real.log
  decayed_pos := fun _ h => Real.rpow_pos_of_pos (Rat.cast_pos.mpr h) _
  log_mono := fun _ _ hx hxy => Real.log_le_log hx hxy

/-- The seconds since a recall, as the loop of `activation_score` has them. -/
def secondsSince (nowS retrievedS : ℚ) : ℚ :=
  let elapsed := nowS - retrievedS
  if elapsed ≤ 0 then 1 / 1000 else elapsed

/-- `activation_score`, at `nowS`; `⊥` is `-inf`. -/
def LongTermMemoryEntry.activationScore (c : ActivationCurve K) (nowS : ℚ)
    (e : LongTermMemoryEntry) : WithBot K :=
  if e.retrievedAtSeconds = [] then ⊥
  else
    ((c.log (e.retrievedAtSeconds.foldl
      (fun total t => total + c.decayed (secondsSince nowS t)) 0) : K) : WithBot K)

namespace LongTermMemory

/-- How many elements of a list `[:stop]` keeps. -/
def keptBy (stop : ℤ) (length : ℕ) : ℕ :=
  if 0 ≤ stop then stop.toNat else length - stop.natAbs

/-- `retrieve_top_k`, with `nowS` given: without it every entry would read the clock itself. -/
def retrieveTopK (c : ActivationCurve K) (m : LongTermMemory) (topK : ℤ) (nowS : ℚ) :
    List LongTermMemoryEntry :=
  let scored := m.memory.values.map fun e => (e, e.activationScore c nowS)
  let scored := sortByScore Prod.snd scored
  (scored.take (keptBy topK scored.length)).map Prod.fst

/-- `score_nightly`, at `nowS`. -/
def scoreNightly (c : ActivationCurve K) (m : LongTermMemory) (nowS : ℚ) :
    Dict String (WithBot K) :=
  m.memory.mapEntries fun _ e => e.activationScore c nowS

end LongTermMemory

/-! ## A recall -/

section Recall

variable (c : ActivationCurve K) (nowS : ℚ)

theorem secondsSince_pos (retrievedS : ℚ) : 0 < secondsSince nowS retrievedS := by
  rw [secondsSince]
  split
  · norm_num
  · rename_i h
    exact not_le.mp h

/-- The sum over the times of an entry is positive unless it has none. -/
theorem foldl_decayed_pos {ts : List ℚ} {total : K} (h : ts ≠ [] ∨ 0 < total) (h0 : 0 ≤ total) :
    0 < ts.foldl (fun total t => total + c.decayed (secondsSince nowS t)) total := by
  induction ts generalizing total with
  | nil =>
      rcases h with h | h
      · exact absurd rfl h
      · exact h
  | cons t ts ih =>
      have hpos : 0 < total + c.decayed (secondsSince nowS t) :=
        (c.decayed_pos _ (secondsSince_pos nowS t)).trans_le (le_add_of_nonneg_left h0)
      exact ih (.inr hpos) hpos.le

/-- A recall does not lower the score of its entry. -/
theorem activationScore_le_recordRetrieval (e : LongTermMemoryEntry) (atS : ℚ) :
    e.activationScore c nowS ≤ (e.recordRetrieval atS).activationScore c nowS := by
  rw [LongTermMemoryEntry.activationScore]
  split
  · exact bot_le
  · rename_i hne
    have hsum := foldl_decayed_pos c nowS (.inl hne) le_rfl
    rw [LongTermMemoryEntry.activationScore, if_neg (by simp [LongTermMemoryEntry.recordRetrieval])]
    refine WithBot.coe_le_coe.mpr (c.log_mono _ _ hsum ?_)
    rw [LongTermMemoryEntry.recordRetrieval, List.foldl_concat]
    exact le_add_of_nonneg_right (c.decayed_pos _ (secondsSince_pos nowS atS)).le

end Recall

/-! ## What is returned -/

/-- Each entry is under its own key. -/
def LongTermMemory.Keyed (m : LongTermMemory) : Prop :=
  ∀ key e, m.memory.get? key = some e → e.key = key

/-- An entry is put under its own key. -/
theorem keyed_set {m : LongTermMemory} (h : m.Keyed) {key : String} {e : LongTermMemoryEntry}
    (he : e.key = key) : LongTermMemory.Keyed { m with memory := m.memory.set key e } := by
  intro key' e' hget
  change (m.memory.set key e).get? key' = some e' at hget
  by_cases hkey : key' = key
  · subst hkey
    rw [Dict.get?_set_self, Option.some.injEq] at hget
    rw [← hget]
    exact he
  · rw [Dict.get?_set_of_ne _ _ hkey] at hget
    exact h key' e' hget

theorem keyed_next {x : Processes} (h : x.running.Keyed) (op : LongTermOp) :
    (processes.next x op).running.Keyed := by
  cases op with
  | restart => exact fun _ _ hget => nomatch hget
  | store key content committed nowS =>
      refine keyed_set h ?_
      cases hfound : x.running.memory.get? key with
      | none => rfl
      | some e => exact h key e hfound
  | retrieve key recordAccess nowS =>
      show (x.running.retrieve nowS key recordAccess).1.Keyed
      rw [LongTermMemory.retrieve]
      cases hfound : x.running.memory.get? key with
      | none => exact h
      | some e =>
          cases recordAccess with
          | false => exact h
          | true => exact keyed_set h (h key e hfound)

/-- Assigning to a key that is present changes its entry only. -/
theorem entries_set {d : Dict String LongTermMemoryEntry} {key : String}
    {e₀ : LongTermMemoryEntry} (e : LongTermMemoryEntry) (h : d.get? key = some e₀) :
    (d.set key e).entries = d.entries.map fun p => if p.1 = key then (key, e) else p := by
  have hnodup := d.nodup
  simp only [Dict.get?, Dict.set] at h ⊢
  generalize d.entries = l at h hnodup
  induction l with
  | nil => cases h
  | cons p rest ih =>
      rcases p with ⟨key', e'⟩
      rw [List.map_cons, List.nodup_cons] at hnodup
      by_cases hkey : key' = key
      · subst hkey
        have hrest : rest.map (fun p => if p.1 = key' then (key', e) else p) = rest := by
          refine (List.map_congr_left ?_).trans (List.map_id rest)
          intro p hp
          refine if_neg ?_
          rintro rfl
          exact hnodup.1 (List.mem_map.mpr ⟨p, hp, rfl⟩)
        simp [Dict.assign, hrest]
      · rw [Dict.lookup, if_neg hkey] at h
        simp [Dict.assign, hkey, ih h hnodup.2]

/-- What a recall of a key makes of an entry. -/
def recalled (key : String) (recordAccess : Bool) (atS : ℚ) (e : LongTermMemoryEntry) :
    LongTermMemoryEntry :=
  if e.key = key ∧ recordAccess = true then e.recordRetrieval atS else e

section TopK

variable {m : LongTermMemory} (c : ActivationCurve K) (topK : ℤ) (nowS : ℚ)

/-- A recall leaves every entry in its place. -/
theorem values_retrieve (h : m.Keyed) (key : String) (recordAccess : Bool) (atS : ℚ) :
    (m.retrieve atS key recordAccess).1.memory.values =
      m.memory.values.map (recalled key recordAccess atS) := by
  have hsame : (∀ e ∈ m.memory.values, ¬ (e.key = key ∧ recordAccess = true)) →
      m.memory.values = m.memory.values.map (recalled key recordAccess atS) := by
    intro hnone
    refine ((List.map_congr_left ?_).trans (List.map_id _)).symm
    intro e he
    exact if_neg (hnone e he)
  rw [LongTermMemory.retrieve]
  cases hfound : m.memory.get? key with
  | none =>
      refine hsame ?_
      rintro e he ⟨hkey, -⟩
      rcases Dict.mem_values.mp he with ⟨key', hget⟩
      rw [← h key' e hget, hkey, hfound] at hget
      cases hget
  | some e₀ =>
      cases recordAccess with
      | false => exact hsame fun _ _ he => Bool.false_ne_true he.2
      | true =>
          have hentries := entries_set (e₀.recordRetrieval atS) hfound
          show (m.memory.set key (e₀.recordRetrieval atS)).entries.map Prod.snd = _
          rw [hentries, Dict.values, List.map_map, List.map_map]
          refine List.map_congr_left ?_
          rintro ⟨key', e⟩ hmem
          have hget : m.memory.get? key' = some e := Dict.get?_eq_some_iff.mpr hmem
          have hkey' := h key' e hget
          by_cases hkey : key' = key
          · subst hkey
            rw [hfound] at hget
            cases hget
            simp [recalled, hkey']
          · have hne : ¬ e.key = key := fun heq => hkey (hkey'.symm.trans heq)
            simp [recalled, hkey, hne]

theorem nodup_keys (h : m.Keyed) : (m.memory.values.map (·.key)).Nodup := by
  have hkeys : m.memory.values.map (·.key) = m.memory.entries.map Prod.fst := by
    rw [Dict.values, List.map_map]
    refine List.map_congr_left ?_
    rintro ⟨key, e⟩ hmem
    exact h key e (Dict.get?_eq_some_iff.mpr hmem)
  rw [hkeys]
  exact m.memory.nodup

omit [IsOrderedAddMonoid K] in
theorem retrieveTopK_eq (m : LongTermMemory) :
    m.retrieveTopK c topK nowS =
      (sortByScore (·.activationScore c nowS) m.memory.values).take
        (LongTermMemory.keptBy topK m.memory.values.length) := by
  dsimp only [LongTermMemory.retrieveTopK]
  rw [sortByScore_map, List.length_map, length_sortByScore, ← List.map_take, List.map_map]
  exact List.map_id _

omit [IsOrderedAddMonoid K] in
theorem nodup_keys_retrieveTopK (h : m.Keyed) :
    ((m.retrieveTopK c topK nowS).map (·.key)).Nodup := by
  rw [retrieveTopK_eq]
  refine List.Nodup.sublist ((List.take_sublist _ _).map _) ?_
  exact ((List.mergeSort_perm _ _).map _).nodup_iff.mpr (nodup_keys h)

/-- A recall of an entry that is returned leaves the others out: it raises no other score, and
those that are left out had enough entries before them without it. -/
theorem keys_retrieveTopK_subset (h : m.Keyed) {key : String} (recordAccess : Bool) (atS : ℚ)
    (hkey : key ∈ (m.retrieveTopK c topK nowS).map (·.key)) :
    ((m.retrieve atS key recordAccess).1.retrieveTopK c topK nowS).map (·.key) ⊆
      (m.retrieveTopK c topK nowS).map (·.key) := by
  intro key' hmem
  rcases List.mem_map.mp hmem with ⟨e', he', rfl⟩
  rw [retrieveTopK_eq, values_retrieve h, List.length_map, mem_take_sortByScore] at he'
  rcases he' with ⟨i, hi, hrank⟩
  rw [List.zipIdx_map] at hi
  rcases List.mem_map.mp hi with ⟨⟨e, j⟩, he, heq⟩
  cases heq
  have hrecalled : (recalled key recordAccess atS e).key = e.key := by
    rw [recalled]
    split <;> rfl
  by_cases hek : e.key = key
  · show (recalled key recordAccess atS e).key ∈ _
    rw [hrecalled, hek]
    exact hkey
  · have hsame : recalled key recordAccess atS e = e := if_neg fun hboth => hek hboth.1
    have hrise : ∀ e ∈ m.memory.values, e.activationScore c nowS ≤
        (recalled key recordAccess atS e).activationScore c nowS := by
      intro e _
      rw [recalled]
      split
      · exact activationScore_le_recordRetrieval c nowS e atS
      · exact le_rfl
    have hle := rankIn_le_rankIn_map hrise (e, j)
    refine List.mem_map.mpr ⟨e, ?_, hrecalled.symm⟩
    rw [retrieveTopK_eq, mem_take_sortByScore]
    refine ⟨j, he, hle.trans_lt ?_⟩
    have hrank' : rankIn (fun e : LongTermMemoryEntry => e.activationScore c nowS)
        (m.memory.values.map (recalled key recordAccess atS))
        (recalled key recordAccess atS e, j) <
          LongTermMemory.keptBy topK m.memory.values.length := hrank
    rwa [hsame] at hrank'

/-- A recall of an entry that is returned changes only the order of what is returned. -/
theorem keys_retrieveTopK_perm (h : m.Keyed) {key : String} (recordAccess : Bool) (atS : ℚ)
    (h' : (m.retrieve atS key recordAccess).1.Keyed)
    (hkey : key ∈ (m.retrieveTopK c topK nowS).map (·.key)) :
    (((m.retrieve atS key recordAccess).1.retrieveTopK c topK nowS).map (·.key)).Perm
      ((m.retrieveTopK c topK nowS).map (·.key)) := by
  have hsub := List.subperm_of_subset (nodup_keys_retrieveTopK c topK nowS h')
    (keys_retrieveTopK_subset c topK nowS h recordAccess atS hkey)
  refine hsub.perm_of_length_le ?_
  simp only [retrieveTopK_eq, values_retrieve h, sortByScore, List.length_map, List.length_take,
    List.length_mergeSort, le_refl]

end TopK

/-! ## Whole histories -/

/-- Recalls of keys, each with whether it is recorded and its time. -/
def recallOps (recalls : List (String × Bool × ℚ)) : List LongTermOp :=
  recalls.map fun r => .retrieve r.1 r.2.1 r.2.2

/-- Recalls of entries that are returned change only the order of what is returned. -/
theorem keys_recalls_perm (c : ActivationCurve K) (topK : ℤ) (nowS : ℚ)
    {recalls : List (String × Bool × ℚ)} {x : Processes} (h : x.running.Keyed)
    (hrecalls : ∀ r ∈ recalls, r.1 ∈ (x.running.retrieveTopK c topK nowS).map (·.key)) :
    (((processes.run x (recallOps recalls)).running.retrieveTopK c topK nowS).map (·.key)).Perm
      ((x.running.retrieveTopK c topK nowS).map (·.key)) := by
  induction recalls generalizing x with
  | nil => exact List.Perm.refl _
  | cons r recalls ih =>
      rcases r with ⟨key, recordAccess, atS⟩
      rw [List.forall_mem_cons] at hrecalls
      have hnext := keyed_next h (.retrieve key recordAccess atS)
      have hperm := keys_retrieveTopK_perm c topK nowS h recordAccess atS hnext hrecalls.1
      refine (ih hnext ?_).trans hperm
      intro r hr
      exact hperm.mem_iff.mpr (hrecalls.2 r hr)

/-- After any stores, recalls and restarts, `retrieve_top_k` returns entries of different keys, with
the contents that were last stored, by descending score, and the entries that it leaves out score
no more. As long as only such entries are recalled, it returns the same ones at that time. -/
theorem retrieveTopK_run (c : ActivationCurve K) (db : Bool) (ops : List LongTermOp) (topK : ℤ)
    (nowS : ℚ) :
    let x := processes.run (.opening db) ops
    let top := x.running.retrieveTopK c topK nowS
    (top.map (·.key)).Nodup ∧
      (∀ e ∈ top, x.latest.get? e.key = some e.content ∧
        (x.running.scoreNightly c nowS).get? e.key = some (e.activationScore c nowS)) ∧
      top.Pairwise (fun a b => b.activationScore c nowS ≤ a.activationScore c nowS) ∧
      (∀ e ∈ top, ∀ e' ∈ x.running.memory.values, e' ∉ top →
        e'.activationScore c nowS ≤ e.activationScore c nowS) ∧
      ∀ recalls, (∀ r ∈ recalls, r.1 ∈ top.map (·.key)) →
        (((processes.run x (recallOps recalls)).running.retrieveTopK c topK nowS).map
          (·.key)).Perm (top.map (·.key)) := by
  intro x top
  have hkeyed : x.running.Keyed :=
    @Machine.run_invariant _ _ _ processes (fun x => x.running.Keyed)
      (fun _ op h => keyed_next h op) (.opening db) (fun _ _ hget => nomatch hget) ops
  have hinv : x.Inv :=
    @Machine.run_invariant _ _ _ processes Processes.Inv (fun _ op h => h.next op) _ (.opening db)
      ops
  have htop : top = (sortByScore (·.activationScore c nowS) x.running.memory.values).take
      (LongTermMemory.keptBy topK x.running.memory.values.length) := retrieveTopK_eq c topK nowS _
  have hsorted := pairwise_sortByScore (fun e : LongTermMemoryEntry => e.activationScore c nowS)
    x.running.memory.values
  refine ⟨nodup_keys_retrieveTopK c topK nowS hkeyed, ?_, ?_, ?_, ?_⟩
  · intro e he
    rw [htop] at he
    have hmem := List.mem_mergeSort.mp (List.mem_of_mem_take he)
    rcases Dict.mem_values.mp hmem with ⟨key, hget⟩
    have hkey := hkeyed key e hget
    subst hkey
    refine ⟨?_, ?_⟩
    · have hcontent := hinv e.key
      rw [hget] at hcontent
      split at hcontent
      · exact hcontent.symm
      · cases hcontent
    · rw [LongTermMemory.scoreNightly, Dict.get?_mapEntries, hget]
      rfl
  · rw [htop]
    exact hsorted.sublist (List.take_sublist _ _)
  · intro e he e' he' hout
    rw [htop] at he hout
    have hmem : e' ∈ sortByScore (·.activationScore c nowS) x.running.memory.values :=
      List.mem_mergeSort.mpr he'
    rw [← List.take_append_drop (LongTermMemory.keptBy topK x.running.memory.values.length)
      (sortByScore _ _), List.mem_append] at hmem
    exact rel_take_drop hsorted _ e he e' (hmem.resolve_left hout)
  · intro recalls hrecalls
    exact keys_recalls_perm c topK nowS hkeyed hrecalls

/-- A setup that was stored and recalled is returned. -/
theorem recalled_setup_is_returned :
    ((processes.run (.opening true)
      [.store "setup" "long INFY" true 0, .retrieve "setup" true 1]).running.retrieveTopK
        actR 1 10).map (·.key) = ["setup"] := by
  have hvalues :
      (processes.run (.opening true) [.store "setup" "long INFY" true 0]).running.memory.values =
        [{ key := "setup", content := "long INFY" }] := by
    decide +kernel
  have hstored : ((processes.run (.opening true)
      [.store "setup" "long INFY" true 0]).running.retrieveTopK actR 1 10).map (·.key) =
        ["setup"] := by
    rw [retrieveTopK_eq, hvalues]
    simp [sortByScore, LongTermMemory.keptBy]
  have hperm := (retrieveTopK_run actR true [.store "setup" "long INFY" true 0] 1 10).2.2.2.2
    [("setup", true, 1)] (by simp [hstored])
  rw [hstored] at hperm
  exact List.perm_singleton.mp hperm

end Intraday.Orchestrator
