import Intraday.Patterns.SupportResistance

/-!
# Intraday.Patterns.Clustering — how far apart the clusters of `_cluster` are

The scan compares each price with the mean of the last cluster, and that mean moves as the cluster
grows. A cluster that is left has its last mean, though, and what comes after it is not below the
price that left it: so the means of two neighbours are as far apart as that price was
(`cluster_separates`).
-/

namespace Intraday.Patterns

open Intraday.Lib Intraday.Lib.Decimal Intraday.Lib.Raise

/-! ## Means -/

theorem mean_mul_length {prices : List ℚ} (hne : prices ≠ []) :
    mean prices * prices.length = prices.sum := by
  have hlength : (prices.length : ℚ) ≠ 0 := by
    exact_mod_cast (List.length_pos_of_ne_nil hne).ne'
  rw [mean, div_mul_cancel₀ _ hlength]

/-- A mean is above what all prices are above. -/
theorem lt_mean {prices : List ℚ} {bound : ℚ} (hne : prices ≠ []) (h : ∀ p ∈ prices, bound < p) :
    bound < mean prices := by
  have hlength : (0 : ℚ) < prices.length := by
    exact_mod_cast List.length_pos_of_ne_nil hne
  have hsum : (prices.map fun _ => bound).sum < (prices.map id).sum :=
    List.sum_lt_sum_of_ne_nil hne (fun _ => bound) id h
  rw [List.map_const', List.sum_replicate, nsmul_eq_mul, List.map_id] at hsum
  rw [mean, lt_div_iff₀ hlength, mul_comm]
  exact hsum

/-- A mean is not above what no price is above. -/
theorem mean_le {prices : List ℚ} {bound : ℚ} (hne : prices ≠ []) (h : ∀ p ∈ prices, p ≤ bound) :
    mean prices ≤ bound := by
  have hlength : (0 : ℚ) < prices.length := by
    exact_mod_cast List.length_pos_of_ne_nil hne
  have hsum := List.sum_le_card_nsmul prices bound h
  rw [nsmul_eq_mul] at hsum
  rw [mean, div_le_iff₀ hlength, mul_comm]
  exact hsum

/-! ## The scan -/

/-- The clusters of the rest of the prices, where `last` is the one that grows. -/
def scan (tolerancePct : ℚ) : List ℚ → List ℚ → List (List ℚ)
  | last, [] => [last]
  | last, p :: rest =>
      if |p - mean last| / mean last * 100 ≤ tolerancePct then scan tolerancePct (last ++ [p]) rest
      else last :: scan tolerancePct [p] rest

/-- `clusters` of `_cluster`, after its loop. -/
def finalClusters (prices : List ℚ) (tolerancePct : ℚ) : Except SrExc (List (List ℚ)) :=
  match prices.mergeSort (fun a b => decide (a ≤ b)) with
  | [] => .ok []
  | p :: rest => do
      let clusters ← rest.foldlM (clusterStep tolerancePct) ([], [p])
      pure (clusters.1 ++ [clusters.2])

theorem cluster_eq_map (prices : List ℚ) (tolerancePct : ℚ) :
    cluster prices tolerancePct = (finalClusters prices tolerancePct).map (List.map mean) := by
  rw [cluster, finalClusters]
  cases prices.mergeSort fun a b => decide (a ≤ b) with
  | nil => rfl
  | cons p rest =>
      cases hrun : rest.foldlM (clusterStep tolerancePct) ([], [p]) with
      | error e =>
          simp only [hrun]
          rfl
      | ok c =>
          simp only [hrun]
          rfl

/-- The clusters, if no mean is zero. -/
def clusters (prices : List ℚ) (tolerancePct : ℚ) : List (List ℚ) :=
  match prices.mergeSort (fun a b => decide (a ≤ b)) with
  | [] => []
  | p :: rest => scan tolerancePct [p] rest

section Scan

variable {tolerancePct : ℚ} {last rest : List ℚ}

/-- One price of the loop, where the mean of the last cluster is not zero. -/
theorem clusterStep_eq (before : List (List ℚ)) (hmean : mean last ≠ 0) (p : ℚ) :
    clusterStep tolerancePct (before, last) p =
      .ok (if |p - mean last| / mean last * 100 ≤ tolerancePct then (before, last ++ [p])
        else (before ++ [last], [p])) := by
  rw [clusterStep, div_of_ne _ hmean]
  by_cases hnear : |p - mean last| / mean last * 100 ≤ tolerancePct
  · rw [if_pos hnear]
    exact if_pos hnear
  · rw [if_neg hnear]
    exact if_neg hnear

/-- The loop of the source is the scan, as long as no mean is zero. -/
theorem foldlM_clusterStep (before : List (List ℚ)) (hne : last ≠ []) (hlast : ∀ q ∈ last, 0 < q)
    (hrest : ∀ q ∈ rest, 0 < q) :
    (rest.foldlM (clusterStep tolerancePct) (before, last)).map (fun c => c.1 ++ [c.2]) =
      .ok (before ++ scan tolerancePct last rest) := by
  induction rest generalizing before last with
  | nil => rfl
  | cons p rest ih =>
      rw [List.forall_mem_cons] at hrest
      have hone : ∀ q ∈ [p], 0 < q := List.forall_mem_singleton.mpr hrest.1
      rw [List.foldlM_cons, clusterStep_eq before (mean_pos hne hlast).ne', scan]
      by_cases hnear : |p - mean last| / mean last * 100 ≤ tolerancePct
      · rw [if_pos hnear, if_pos hnear]
        refine ih before ?_ ?_ hrest.2
        · exact List.append_ne_nil_of_right_ne_nil _ (List.cons_ne_nil _ _)
        · exact List.forall_mem_append.mpr ⟨hlast, hone⟩
      · rw [if_neg hnear, if_neg hnear]
        have hnext := ih (before ++ [last]) (List.cons_ne_nil p []) hone hrest.2
        rw [List.append_assoc] at hnext
        exact hnext

/-- The scan only cuts: no price is lost and none is moved. -/
theorem flatten_scan (tolerancePct : ℚ) (last rest : List ℚ) :
    (scan tolerancePct last rest).flatten = last ++ rest := by
  induction rest generalizing last with
  | nil => rw [scan, List.flatten_singleton, List.append_nil]
  | cons p rest ih =>
      rw [scan]
      split
      · rw [ih, List.append_assoc, List.singleton_append]
      · rw [List.flatten_cons, ih, List.singleton_append]

theorem ne_nil_of_mem_scan (hne : last ≠ []) : ∀ c ∈ scan tolerancePct last rest, c ≠ [] := by
  induction rest generalizing last with
  | nil => exact List.forall_mem_singleton.mpr hne
  | cons p rest ih =>
      rw [scan]
      split
      · exact ih (List.append_ne_nil_of_right_ne_nil _ (List.cons_ne_nil _ _))
      · exact List.forall_mem_cons.mpr ⟨hne, ih (List.cons_ne_nil _ _)⟩

/-- Every price of the one cluster is above the mean of the other by more than the tolerance. -/
def Apart (tolerancePct : ℚ) (a b : List ℚ) : Prop :=
  ∀ p ∈ b, tolerancePct < (p - mean a) / mean a * 100

/-- A price that leaves the cluster leaves it upwards, and what comes after it is above it, too. -/
theorem pairwise_scan (hne : last ≠ []) (hpos : ∀ q ∈ last ++ rest, 0 < q)
    (hsorted : (last ++ rest).Pairwise (· ≤ ·)) :
    (scan tolerancePct last rest).Pairwise (Apart tolerancePct) := by
  induction rest generalizing last with
  | nil => exact List.pairwise_singleton _ _
  | cons p rest ih =>
      rw [scan]
      split
      case isTrue hnear =>
        rw [List.append_cons] at hpos hsorted
        exact ih (List.append_ne_nil_of_right_ne_nil _ (List.cons_ne_nil _ _)) hpos hsorted
      case isFalse hfar =>
        rcases List.forall_mem_append.mp hpos with ⟨hlast, hrest⟩
        rcases List.pairwise_append.mp hsorted with ⟨-, hlater, hle⟩
        refine List.pairwise_cons.mpr ⟨?_, ih (List.cons_ne_nil _ _) hrest hlater⟩
        intro c hc q hq
        have hmean := mean_pos hne hlast
        -- the mean that was compared is the final one, and not above `p`
        have hbelow : mean last ≤ p := mean_le hne fun r hr => hle r hr p List.mem_cons_self
        have hpq : p ≤ q := by
          have hmem : q ∈ [p] ++ rest := by
            rw [← flatten_scan tolerancePct]
            exact List.mem_flatten.mpr ⟨c, hc, hq⟩
          rcases List.mem_cons.mp hmem with rfl | hq
          · exact le_rfl
          · exact (List.pairwise_cons.mp hlater).1 q hq
        rw [abs_of_nonneg (sub_nonneg.mpr hbelow), not_le] at hfar
        refine hfar.trans_le ?_
        gcongr

end Scan

/-! ## What the clusters are -/

section Clusters

variable {prices : List ℚ} {tolerancePct : ℚ}

theorem flatten_clusters (prices : List ℚ) (tolerancePct : ℚ) :
    (clusters prices tolerancePct).flatten = prices.mergeSort (fun a b => decide (a ≤ b)) := by
  rw [clusters]
  split
  case h_1 hsorted => rw [hsorted, List.flatten_nil]
  case h_2 p rest hsorted => rw [hsorted, flatten_scan, List.singleton_append]

/-- The clusters have the prices of the list, each as often as it has them. -/
theorem flatten_clusters_perm (prices : List ℚ) (tolerancePct : ℚ) :
    (clusters prices tolerancePct).flatten.Perm prices := by
  rw [flatten_clusters]
  exact List.mergeSort_perm prices _

theorem ne_nil_of_mem_clusters : ∀ c ∈ clusters prices tolerancePct, c ≠ [] := by
  rw [clusters]
  split
  · exact List.forall_mem_nil _
  · exact ne_nil_of_mem_scan (List.cons_ne_nil _ _)

theorem pos_of_mem_clusters (hpos : ∀ p ∈ prices, 0 < p) :
    ∀ c ∈ clusters prices tolerancePct, ∀ p ∈ c, 0 < p := by
  intro c hc p hp
  exact hpos p ((flatten_clusters_perm prices tolerancePct).mem_iff.mp
    (List.mem_flatten.mpr ⟨c, hc, hp⟩))

theorem pairwise_sorted (prices : List ℚ) :
    (prices.mergeSort fun a b => decide (a ≤ b)).Pairwise (· ≤ ·) := by
  have hsorted := List.pairwise_mergeSort
    (fun (a b c : ℚ) (hab : decide (a ≤ b) = true) hbc => decide_eq_true
      ((of_decide_eq_true hab).trans (of_decide_eq_true hbc)))
    (fun a b => by simpa using le_total a b) prices
  exact hsorted.imp of_decide_eq_true

theorem pairwise_clusters (hpos : ∀ p ∈ prices, 0 < p) :
    (clusters prices tolerancePct).Pairwise (Apart tolerancePct) := by
  have hsorted := pairwise_sorted prices
  have hmem : ∀ p ∈ prices.mergeSort (fun a b => decide (a ≤ b)), 0 < p := by
    intro p hp
    exact hpos p (List.mem_mergeSort.mp hp)
  rw [clusters]
  split
  · exact List.Pairwise.nil
  case h_2 p rest heq =>
    rw [heq] at hsorted hmem
    exact pairwise_scan (List.cons_ne_nil _ _) hmem hsorted

/-- Positive prices are scanned to the end. -/
theorem finalClusters_eq (hpos : ∀ p ∈ prices, 0 < p) :
    finalClusters prices tolerancePct = .ok (clusters prices tolerancePct) := by
  have hmem : ∀ p ∈ prices.mergeSort (fun a b => decide (a ≤ b)), 0 < p := by
    intro p hp
    exact hpos p (List.mem_mergeSort.mp hp)
  rw [finalClusters, clusters]
  cases hsorted : prices.mergeSort (fun a b => decide (a ≤ b)) with
  | nil => rfl
  | cons p rest =>
      rw [hsorted, List.forall_mem_cons] at hmem
      have hfold : (rest.foldlM (clusterStep tolerancePct) ([], [p])).map (fun c => c.1 ++ [c.2]) =
          .ok ([] ++ scan tolerancePct [p] rest) :=
        foldlM_clusterStep [] (List.cons_ne_nil p []) (List.forall_mem_singleton.mpr hmem.1) hmem.2
      rw [List.nil_append] at hfold
      exact hfold

/-- The same prices in another order are sorted the same, so they have the same clusters. -/
theorem clusters_of_perm {other : List ℚ} (h : other.Perm prices) :
    clusters other tolerancePct = clusters prices tolerancePct := by
  have hperm := (List.mergeSort_perm other fun a b => decide (a ≤ b)).trans
    (h.trans (List.mergeSort_perm prices fun a b => decide (a ≤ b)).symm)
  have hsorted := List.Perm.eq_of_pairwise (fun a b _ _ hab hba => le_antisymm hab hba)
    (pairwise_sorted other) (pairwise_sorted prices) hperm
  rw [clusters, clusters, hsorted]

/-- Each cluster has its mean for each of its prices, so the means keep the sum. -/
theorem sum_mean_mul_length (prices : List ℚ) (tolerancePct : ℚ) :
    ((clusters prices tolerancePct).map fun c => mean c * c.length).sum = prices.sum := by
  rw [← (flatten_clusters_perm prices tolerancePct).sum_eq, List.sum_flatten]
  congr 1
  refine List.map_congr_left ?_
  intro c hc
  exact mean_mul_length (ne_nil_of_mem_clusters c hc)

/-- What is promised of the clusters of a list. -/
structure Separated (prices : List ℚ) (tolerancePct : ℚ) (groups : List (List ℚ)) : Prop where
  nonempty : ∀ c ∈ groups, c ≠ []
  partition : groups.flatten.Perm prices
  sizes : (groups.map List.length).sum = prices.length
  sums : (groups.map fun c => mean c * c.length).sum = prices.sum
  increasing : (groups.map mean).Pairwise (· < ·)
  apart : (groups.map mean).IsChain fun a b => tolerancePct < (b - a) / a * 100

theorem separated_clusters (hpos : ∀ p ∈ prices, 0 < p) (htol : 0 < tolerancePct) :
    Separated prices tolerancePct (clusters prices tolerancePct) := by
  -- two clusters, one before the other: their means are apart like the prices of the later one
  have hmeans : (clusters prices tolerancePct).Pairwise fun a b =>
      mean a < mean b ∧ tolerancePct < (mean b - mean a) / mean a * 100 := by
    refine (pairwise_clusters hpos).imp_of_mem ?_
    intro a b ha hb hapart
    have hmean := mean_pos (ne_nil_of_mem_clusters a ha) (pos_of_mem_clusters hpos a ha)
    have habove : (1 + tolerancePct / 100) * mean a < mean b := by
      refine lt_mean (ne_nil_of_mem_clusters b hb) ?_
      intro p hp
      have hfar := hapart p hp
      rw [div_mul_eq_mul_div, lt_div_iff₀ hmean] at hfar
      linarith
    constructor
    · have hextra : 0 < tolerancePct / 100 * mean a := by positivity
      linarith
    · rw [div_mul_eq_mul_div, lt_div_iff₀ hmean]
      linarith
  refine
    { nonempty := ne_nil_of_mem_clusters
      partition := flatten_clusters_perm prices tolerancePct
      sizes := ?_
      sums := sum_mean_mul_length prices tolerancePct
      increasing := List.pairwise_map.mpr (hmeans.imp And.left)
      apart := (List.pairwise_map.mpr (hmeans.imp And.right)).isChain }
  rw [← List.length_flatten]
  exact (flatten_clusters_perm prices tolerancePct).length_eq

end Clusters

end Intraday.Patterns
