import Mathlib.Algebra.Order.BigOperators.Group.List
import Mathlib.Data.Rat.Floor
import Mathlib.Tactic.Linarith
import Intraday.Lib.Decimal
import Intraday.Lib.Traverse
import Intraday.Patterns.Models

/-!
# Intraday.Patterns.SupportResistance — `shared/patterns/support_resistance.py`

Candidates for levels are the swing pivots and the local maxima of a volume profile. They are
clustered, touches are counted for each cluster, and what has enough touches becomes a level.
Everything is in exact arithmetic; an access past the end of an array and a division by zero
raise.
-/

namespace Intraday.Patterns

open Intraday.Lib Intraday.Lib.Decimal Intraday.Lib.Raise

/-- What the detector raises. -/
inductive SrExc where
  | arith (e : Exc)
  | indexError
deriving DecidableEq

/-- The parameters of `detect_sr_levels`. -/
structure SrParams where
  swingWindow : ℕ
  touchTolerancePct : ℚ
  minTouches : ℕ
  clusterTolerancePct : ℚ
  volumeProfileBuckets : ℕ

/-- All parameters are positive. -/
structure SrParams.Positive (params : SrParams) : Prop where
  swingWindow : 0 < params.swingWindow
  touchTolerancePct : 0 < params.touchTolerancePct
  minTouches : 0 < params.minTouches
  clusterTolerancePct : 0 < params.clusterTolerancePct
  volumeProfileBuckets : 0 < params.volumeProfileBuckets

/-! ## Swing pivots -/

/-- `np.max`; of an empty array a `ValueError`. -/
def npMax (xs : List ℚ) : Except SrExc ℚ :=
  xs.max?.elim (.error (.arith (.valueError "zero-size array"))) .ok

/-- `np.min`. -/
def npMin (xs : List ℚ) : Except SrExc ℚ :=
  xs.min?.elim (.error (.arith (.valueError "zero-size array"))) .ok

/-- `xs[start:stop]`. -/
def slice (xs : List ℚ) (start stop : ℕ) : List ℚ := (xs.drop start).take (stop - start)

/-- Whether the price of bar `i` beats the extreme of the window on each side. The right window is
looked at only if the bar beats the left one. -/
def isPivot (extreme : List ℚ → Except SrExc ℚ) (beats : ℚ → ℚ → Bool) (prices : List ℚ)
    (window i : ℕ) : Except SrExc Bool := do
  let left ← extreme (slice prices (i - window) i)
  if beats (prices.getD i 0) left then
    let right ← extreme (slice prices (i + 1) (i + window + 1))
    pure (beats (prices.getD i 0) right)
  else pure false

/-- The test of a swing high. -/
def isSwingHigh : List ℚ → ℕ → ℕ → Except SrExc Bool :=
  isPivot npMax fun high other => decide (other < high)

/-- The test of a swing low. -/
def isSwingLow : List ℚ → ℕ → ℕ → Except SrExc Bool :=
  isPivot npMin fun low other => decide (low < other)

/-- `range(swing_window, n - swing_window)`. -/
def pivotBars (n window : ℕ) : List ℕ := List.range' window (n - window - window)

/-! ## Volume profile -/

/-- The bucket of a close. -/
def bucketIdx (priceMin bucketSize : ℚ) (buckets : ℕ) (close : ℚ) : Except SrExc ℤ := do
  let q ← (div (close - priceMin) bucketSize).mapError .arith
  pure (min (truncate q) (buckets - 1))

/-- `xs[i] += v`; a negative index counts from the end. -/
def addAt (xs : List ℚ) (i : ℤ) (v : ℚ) : Except SrExc (List ℚ) :=
  let j := if i < 0 then i + xs.length else i
  if 0 ≤ j ∧ j < xs.length then .ok (xs.modify j.toNat (· + v)) else .error .indexError

/-- `vol_buckets`, from the closes and their volumes. -/
def volumeProfile (priceMin bucketSize : ℚ) (buckets : ℕ) (bars : List (ℚ × ℚ)) :
    Except SrExc (List ℚ) :=
  bars.foldlM (fun profile bar => do
    let idx ← bucketIdx priceMin bucketSize buckets bar.1
    addAt profile idx bar.2) (List.replicate buckets 0)

/-- The midpoints of the buckets with more volume than both neighbours. -/
def profilePeaks (priceMin bucketSize : ℚ) (buckets : ℕ) (profile : List ℚ) : List ℚ :=
  ((List.range' 1 (buckets - 2)).filter fun i =>
      profile.getD (i - 1) 0 < profile.getD i 0 && profile.getD (i + 1) 0 < profile.getD i 0).map
    fun (i : ℕ) => priceMin + (i + 1 / 2) * bucketSize

/-- The candidates of the profile, if there is one. -/
def profileCandidates (priceMin priceMax : ℚ) (buckets : ℕ) (bars : List (ℚ × ℚ)) :
    Except SrExc (List ℚ) :=
  if priceMin < priceMax ∧ 2 < buckets then do
    let bucketSize ← (div (priceMax - priceMin) buckets).mapError .arith
    let profile ← volumeProfile priceMin bucketSize buckets bars
    pure (profilePeaks priceMin bucketSize buckets profile)
  else pure []

/-! ## Clusters -/

/-- `sum(cl) / len(cl)`; no cluster is empty. -/
def mean (cluster : List ℚ) : ℚ := cluster.sum / cluster.length

/-- One price of the scan: the clusters before the last one, and the last one. -/
def clusterStep (tolerancePct : ℚ) (clusters : List (List ℚ) × List ℚ) (p : ℚ) :
    Except SrExc (List (List ℚ) × List ℚ) := do
  let distance ← (div |p - mean clusters.2| (mean clusters.2)).mapError .arith
  if distance * 100 ≤ tolerancePct then pure (clusters.1, clusters.2 ++ [p])
  else pure (clusters.1 ++ [clusters.2], [p])

/-- `_cluster`. -/
def cluster (prices : List ℚ) (tolerancePct : ℚ) : Except SrExc (List ℚ) :=
  match prices.mergeSort (fun a b => decide (a ≤ b)) with
  | [] => .ok []
  | p :: rest => do
      let clusters ← rest.foldlM (clusterStep tolerancePct) ([], [p])
      pure ((clusters.1 ++ [clusters.2]).map mean)

/-! ## Touches and levels -/

/-- `_touch_count`: the touches and the last bar of them. -/
def touchCount (wicks : List ℚ) (touchTolerancePct level : ℚ) : ℕ × ℕ :=
  wicks.zipIdx.foldl (fun count wick =>
    if |wick.1 - level| ≤ level * touchTolerancePct / 100 then (count.1 + 1, wick.2) else count)
    (0, 0)

/-- A level before its strength is known. -/
structure Candidate where
  price : ℚ
  levelType : String
  touches : ℕ
  lastBar : ℕ

/-- The prices with enough touches. -/
def touched (params : SrParams) (levelType : String) (wicks prices : List ℚ) : List Candidate :=
  prices.filterMap fun price =>
    let count := touchCount wicks params.touchTolerancePct price
    if params.minTouches ≤ count.1 then
      some { price := price, levelType := levelType, touches := count.1, lastBar := count.2 }
    else none

/-- `max_touches`. -/
def maxTouches (candidates : List Candidate) : ℕ :=
  candidates.foldl (fun best c => max best c.touches) 1

/-- The level of a candidate. -/
def levelOf (maxTouches : ℕ) (c : Candidate) : SRLevel where
  price := roundTo 6 c.price
  levelType := c.levelType
  strength := c.touches / maxTouches
  touches := c.touches
  lastTouchBar := c.lastBar

/-- The levels of the candidates, sorted by price. -/
def levelsOf (candidates : List Candidate) : List SRLevel :=
  (candidates.map (levelOf (maxTouches candidates))).mergeSort fun a b => decide (a.price ≤ b.price)

/-- The levels of both lists of prices. -/
def rankLevels (params : SrParams) (high low resistance support : List ℚ) : List SRLevel :=
  levelsOf (touched params "RESISTANCE" high resistance ++ touched params "SUPPORT" low support)

/-- `detect_sr_levels`. -/
def detectSrLevels (params : SrParams) (candles : List OHLCVCandle) :
    Except SrExc (List SRLevel) :=
  if candles.length < 2 * params.swingWindow + 1 then .ok []
  else do
    let high := candles.map (·.high)
    let low := candles.map (·.low)
    let close := candles.map (·.close)
    let bars := pivotBars candles.length params.swingWindow
    let highs ← filterExcept (isSwingHigh high params.swingWindow) bars
    let lows ← filterExcept (isSwingLow low params.swingWindow) bars
    let priceMin ← npMin low
    let priceMax ← npMax high
    let lastClose := close.getLastD 0
    let peaks ← profileCandidates priceMin priceMax params.volumeProfileBuckets
      (candles.map fun c => (c.close, (c.volume : ℚ)))
    let resistance ← cluster
      (highs.map (high.getD · 0) ++ peaks.filter (fun mid => !decide (mid < lastClose)))
      params.clusterTolerancePct
    let support ← cluster
      (lows.map (low.getD · 0) ++ peaks.filter (fun mid => decide (mid < lastClose)))
      params.clusterTolerancePct
    pure (rankLevels params high low resistance support)

/-! ## Levels are in order -/

/-- What is promised of the levels. -/
structure GoodLevels (minTouches : ℕ) (levels : List SRLevel) : Prop where
  sorted : levels.Pairwise fun a b => a.price ≤ b.price
  touches : ∀ lv ∈ levels, (minTouches : ℤ) ≤ lv.touches
  strength_pos : ∀ lv ∈ levels, 0 < lv.strength
  strength_le : ∀ lv ∈ levels, lv.strength ≤ 1
  strongest : levels ≠ [] → ∃ lv ∈ levels, lv.strength = 1

/-- The running maximum of touches. -/
theorem foldl_touches (candidates : List Candidate) (start : ℕ) :
    start ≤ candidates.foldl (fun best c => max best c.touches) start ∧
      (∀ c ∈ candidates,
        c.touches ≤ candidates.foldl (fun best c => max best c.touches) start) ∧
      (candidates.foldl (fun best c => max best c.touches) start = start ∨
        ∃ c ∈ candidates,
          c.touches = candidates.foldl (fun best c => max best c.touches) start) := by
  induction candidates generalizing start with
  | nil =>
      refine ⟨le_rfl, ?_, Or.inl rfl⟩
      intro c hc
      cases hc
  | cons d candidates ih =>
      rw [List.foldl_cons]
      rcases ih (max start d.touches) with ⟨hstart, hall, hreached⟩
      refine ⟨(le_max_left _ _).trans hstart, ?_, ?_⟩
      · intro c hc
        rcases List.mem_cons.mp hc with rfl | hlater
        · exact (le_max_right _ _).trans hstart
        · exact hall c hlater
      · rcases hreached with hkept | ⟨c, hc, hmax⟩
        · rcases le_total d.touches start with hle | hle
          · rw [max_eq_left hle] at hkept ⊢
            exact Or.inl hkept
          · rw [max_eq_right hle] at hkept ⊢
            exact Or.inr ⟨d, List.mem_cons_self, hkept.symm⟩
        · exact Or.inr ⟨c, List.mem_cons_of_mem _ hc, hmax⟩

theorem minTouches_le_of_touched {params : SrParams} {levelType : String} {wicks prices : List ℚ}
    {c : Candidate} (h : c ∈ touched params levelType wicks prices) :
    params.minTouches ≤ c.touches := by
  rcases List.mem_filterMap.mp h with ⟨price, -, hprice⟩
  simp only at hprice
  split_ifs at hprice with hle
  rcases Option.some.inj hprice with rfl
  exact hle

/-- Candidates with touches give levels in order. -/
theorem goodLevels_levelsOf {minTouches : ℕ} (hpos : 0 < minTouches) {candidates : List Candidate}
    (h : ∀ c ∈ candidates, minTouches ≤ c.touches) :
    GoodLevels minTouches (levelsOf candidates) := by
  rcases foldl_touches candidates 1 with ⟨hone, hle, hreached⟩
  have hmem : ∀ lv, lv ∈ levelsOf candidates ↔
      ∃ c ∈ candidates, levelOf (maxTouches candidates) c = lv := by
    intro lv
    rw [levelsOf, List.mem_mergeSort, List.mem_map]
  have hmax : (0 : ℚ) < maxTouches candidates := by
    exact_mod_cast Nat.lt_of_lt_of_le Nat.zero_lt_one hone
  refine { sorted := ?_, touches := ?_, strength_pos := ?_, strength_le := ?_, strongest := ?_ }
  · have hsorted := List.pairwise_mergeSort
      (fun (a b c : SRLevel) (hab : decide (a.price ≤ b.price) = true) hbc => decide_eq_true
        ((of_decide_eq_true hab).trans (of_decide_eq_true hbc)))
      (fun a b => by simpa using le_total a.price b.price)
      (candidates.map (levelOf (maxTouches candidates)))
    exact hsorted.imp of_decide_eq_true
  · intro lv hlv
    rcases (hmem lv).mp hlv with ⟨c, hc, rfl⟩
    exact Int.ofNat_le.mpr (h c hc)
  · intro lv hlv
    rcases (hmem lv).mp hlv with ⟨c, hc, rfl⟩
    have htouches : (0 : ℚ) < c.touches := by
      exact_mod_cast Nat.lt_of_lt_of_le hpos (h c hc)
    exact div_pos htouches hmax
  · intro lv hlv
    rcases (hmem lv).mp hlv with ⟨c, hc, rfl⟩
    exact (div_le_one hmax).mpr (by exact_mod_cast hle c hc)
  · intro hne
    -- the most touched candidate, or any if one touch is the maximum
    have hstrongest : ∃ c ∈ candidates, c.touches = maxTouches candidates := by
      rcases hreached with hkept | hexists
      · rcases List.exists_mem_of_ne_nil _ hne with ⟨lv, hlv⟩
        rcases (hmem lv).mp hlv with ⟨c, hc, -⟩
        refine ⟨c, hc, le_antisymm (hle c hc) ?_⟩
        rw [maxTouches, hkept]
        exact Nat.lt_of_lt_of_le hpos (h c hc)
      · exact hexists
    rcases hstrongest with ⟨c, hc, hmost⟩
    refine ⟨levelOf (maxTouches candidates) c, (hmem _).mpr ⟨c, hc, rfl⟩, ?_⟩
    rw [levelOf, hmost]
    exact div_self hmax.ne'

theorem levelsOf_nil : levelsOf [] = [] := by
  rw [levelsOf, List.map_nil, List.mergeSort_nil]

theorem goodLevels_rankLevels {params : SrParams} (hpos : 0 < params.minTouches)
    (high low resistance support : List ℚ) :
    GoodLevels params.minTouches (rankLevels params high low resistance support) := by
  apply goodLevels_levelsOf hpos
  intro c hc
  rcases List.mem_append.mp hc with hresistance | hsupport
  · exact minTouches_le_of_touched hresistance
  · exact minTouches_le_of_touched hsupport

/-! ## The volume profile -/

/-- The bucket of a close within the range is one of the profile. -/
theorem exists_bucketIdx {priceMin priceMax close : ℚ} {buckets : ℕ} (hrange : priceMin < priceMax)
    (hbuckets : 0 < buckets) (hmin : priceMin ≤ close) :
    ∃ idx, bucketIdx priceMin ((priceMax - priceMin) / buckets) buckets close = .ok idx ∧
      0 ≤ idx ∧ idx < buckets := by
  have hcount : (0 : ℚ) < buckets := by exact_mod_cast hbuckets
  have hsize : 0 < (priceMax - priceMin) / buckets := div_pos (sub_pos.mpr hrange) hcount
  have hq : 0 ≤ (close - priceMin) / ((priceMax - priceMin) / buckets) :=
    div_nonneg (sub_nonneg.mpr hmin) hsize.le
  refine ⟨min (truncate ((close - priceMin) / ((priceMax - priceMin) / buckets))) (buckets - 1),
    ?_, ?_, ?_⟩
  · rw [bucketIdx, div_of_ne _ hsize.ne']
    rfl
  · rw [truncate, if_pos hq]
    exact le_min (Int.floor_nonneg.mpr hq) (by omega)
  · exact (min_le_right _ _).trans_lt (by omega)

theorem sum_modify {xs : List ℚ} {i : ℕ} (h : i < xs.length) (v : ℚ) :
    (xs.modify i (· + v)).sum = xs.sum + v := by
  induction xs generalizing i with
  | nil => cases h
  | cons x xs ih =>
      cases i with
      | zero =>
          rw [List.modify_zero_cons, List.sum_cons, List.sum_cons]
          ring
      | succ i =>
          rw [List.modify_succ_cons, List.sum_cons, List.sum_cons,
            ih (Nat.lt_of_succ_lt_succ h), add_assoc]

/-- Adding at an index within the bounds adds to the total. -/
theorem addAt_eq_ok {xs : List ℚ} {i : ℤ} (hi : 0 ≤ i) (hlt : i < xs.length) (v : ℚ) :
    ∃ ys, addAt xs i v = .ok ys ∧ ys.length = xs.length ∧ ys.sum = xs.sum + v := by
  refine ⟨xs.modify i.toNat (· + v), ?_, List.length_modify _ _ _, sum_modify (by omega) v⟩
  simp only [addAt, if_neg (not_lt.mpr hi), hi, hlt, and_self, if_true]

/-- The volumes of all bars are in the buckets. -/
theorem exists_volumeProfile {priceMin priceMax : ℚ} {buckets : ℕ} (hrange : priceMin < priceMax)
    (hbuckets : 0 < buckets) {bars : List (ℚ × ℚ)} (hbars : ∀ bar ∈ bars, priceMin ≤ bar.1) :
    ∃ profile, volumeProfile priceMin ((priceMax - priceMin) / buckets) buckets bars =
        .ok profile ∧ profile.length = buckets ∧ profile.sum = (bars.map Prod.snd).sum := by
  have hrun : ∀ start : List ℚ, start.length = buckets → ∃ profile,
      bars.foldlM (fun profile bar => do
        let idx ← bucketIdx priceMin ((priceMax - priceMin) / buckets) buckets bar.1
        addAt profile idx bar.2) start = (.ok profile : Except SrExc (List ℚ)) ∧
        profile.length = buckets ∧ profile.sum = start.sum + (bars.map Prod.snd).sum := by
    induction bars with
    | nil =>
        intro start hstart
        exact ⟨start, rfl, hstart, by rw [List.map_nil, List.sum_nil, add_zero]⟩
    | cons bar bars ih =>
        intro start hstart
        rcases exists_bucketIdx hrange hbuckets (hbars bar List.mem_cons_self) with
          ⟨idx, hidx, hnonneg, hlt⟩
        rcases addAt_eq_ok hnonneg (hstart ▸ hlt : idx < start.length) bar.2 with
          ⟨next, hnext, hlength, hsum⟩
        rcases ih (fun b hb => hbars b (List.mem_cons_of_mem _ hb)) next
          (hlength.trans hstart) with ⟨profile, hprofile, hlen, htotal⟩
        refine ⟨profile, ?_, hlen, ?_⟩
        · rw [List.foldlM_cons, hidx]
          simp only [bind, Except.bind, hnext]
          exact hprofile
        · rw [htotal, hsum, List.map_cons, List.sum_cons, add_assoc]
  rcases hrun (List.replicate buckets 0) List.length_replicate with ⟨profile, hprofile, hlen, hsum⟩
  refine ⟨profile, hprofile, hlen, ?_⟩
  rw [hsum, List.sum_eq_zero (fun x hx => List.eq_of_mem_replicate hx), zero_add]

/-! ## What returns -/

theorem exists_npMax (xs : List ℚ) (h : xs ≠ []) : ∃ m, npMax xs = .ok m := by
  rcases Option.isSome_iff_exists.mp (List.isSome_max?_of_ne_nil h) with ⟨m, hm⟩
  exact ⟨m, by rw [npMax, hm]; rfl⟩

theorem exists_npMin (xs : List ℚ) (h : xs ≠ []) : ∃ m, npMin xs = .ok m := by
  rcases Option.isSome_iff_exists.mp (List.isSome_min?_of_ne_nil h) with ⟨m, hm⟩
  exact ⟨m, by rw [npMin, hm]; rfl⟩

theorem npMin_spec {xs : List ℚ} {m : ℚ} (h : npMin xs = .ok m) : m ∈ xs ∧ ∀ x ∈ xs, m ≤ x := by
  cases hmin : xs.min? with
  | none =>
      rw [npMin, hmin] at h
      cases h
  | some m' =>
      rw [npMin, hmin] at h
      rcases Except.ok.inj h with rfl
      exact List.min?_eq_some_iff.mp hmin

theorem slice_ne_nil (xs : List ℚ) {start stop : ℕ} (h : start < stop) (hlen : start < xs.length) :
    slice xs start stop ≠ [] := by
  apply List.ne_nil_of_length_pos
  rw [slice, List.length_take, List.length_drop]
  omega

theorem mem_pivotBars {n window i : ℕ} (h : i ∈ pivotBars n window) :
    window ≤ i ∧ i + window < n := by
  rw [pivotBars, List.mem_range'_1] at h
  omega

/-- Both windows of a pivot bar have bars. -/
theorem exists_isPivot {extreme : List ℚ → Except SrExc ℚ}
    (hextreme : ∀ xs, xs ≠ [] → ∃ m, extreme xs = .ok m) (beats : ℚ → ℚ → Bool)
    {window : ℕ} (hwindow : 0 < window) (prices : List ℚ) :
    ∀ i ∈ pivotBars prices.length window, ∃ keep,
      isPivot extreme beats prices window i = .ok keep := by
  intro i hi
  rcases mem_pivotBars hi with ⟨hleft, hright⟩
  rcases hextreme _ (slice_ne_nil prices (show i - window < i by omega) (by omega)) with
    ⟨left, hleftExtreme⟩
  rcases hextreme _ (slice_ne_nil prices (show i + 1 < i + window + 1 by omega) (by omega)) with
    ⟨right, hrightExtreme⟩
  simp only [isPivot, hleftExtreme, hrightExtreme, bind, Except.bind, pure, Except.pure]
  split_ifs
  · exact ⟨_, rfl⟩
  · exact ⟨_, rfl⟩

/-- The candidates of the profile are above its lowest price. -/
theorem exists_profileCandidates {priceMin : ℚ} (priceMax : ℚ) (buckets : ℕ)
    {bars : List (ℚ × ℚ)} (hbars : ∀ bar ∈ bars, priceMin ≤ bar.1) :
    ∃ peaks, profileCandidates priceMin priceMax buckets bars = .ok peaks ∧
      ∀ mid ∈ peaks, priceMin ≤ mid := by
  by_cases hprofile : priceMin < priceMax ∧ 2 < buckets
  · have hpos : 0 < buckets := by omega
    have hcount : (0 : ℚ) < buckets := by exact_mod_cast hpos
    have hsize : 0 < (priceMax - priceMin) / buckets := div_pos (sub_pos.mpr hprofile.1) hcount
    rcases exists_volumeProfile hprofile.1 hpos hbars with ⟨profile, hvolumes, -, -⟩
    refine ⟨profilePeaks priceMin ((priceMax - priceMin) / buckets) buckets profile, ?_, ?_⟩
    · rw [profileCandidates, if_pos hprofile, div_of_ne _ hcount.ne']
      simp only [Except.mapError, bind, Except.bind, hvolumes]
      rfl
    · intro mid hmid
      rcases List.mem_map.mp hmid with ⟨i, -, rfl⟩
      have hi : (0 : ℚ) ≤ i + 1 / 2 := add_nonneg (Nat.cast_nonneg i) (by norm_num)
      linarith [mul_nonneg hi hsize.le]
  · refine ⟨[], by rw [profileCandidates, if_neg hprofile]; rfl, ?_⟩
    intro mid hmid
    cases hmid

/-! ## Clusters of positive prices -/

theorem mean_pos {prices : List ℚ} (hne : prices ≠ []) (hpos : ∀ p ∈ prices, 0 < p) :
    0 < mean prices := by
  apply div_pos (List.sum_pos prices hpos hne)
  exact_mod_cast List.length_pos_of_ne_nil hne

/-- Only a mean of 0 raises. -/
theorem clusterStep_error {tolerancePct p : ℚ} {clusters : List (List ℚ) × List ℚ} {e : SrExc}
    (h : clusterStep tolerancePct clusters p = .error e) : e = .arith .zeroDivisionError := by
  by_cases hmean : mean clusters.2 = 0
  · rw [clusterStep, hmean, div_zero] at h
    exact (Except.error.inj h).symm
  · rw [clusterStep, div_of_ne _ hmean] at h
    simp only [Except.mapError, bind, Except.bind] at h
    split_ifs at h
    · cases h
    · cases h

theorem exists_clusterStep {tolerancePct p : ℚ} {clusters : List (List ℚ) × List ℚ} (hp : 0 < p)
    (hclusters : clusters.2 ≠ [] ∧ ∀ q ∈ clusters.2, 0 < q) :
    ∃ next, clusterStep tolerancePct clusters p = .ok next ∧ next.2 ≠ [] ∧
      ∀ q ∈ next.2, 0 < q := by
  have hmean := mean_pos hclusters.1 hclusters.2
  simp only [clusterStep, div_of_ne _ hmean.ne', Except.mapError, bind, Except.bind]
  split_ifs
  · refine ⟨_, rfl, List.append_ne_nil_of_right_ne_nil _ (List.cons_ne_nil _ _), ?_⟩
    intro q hq
    rcases List.mem_append.mp hq with hold | hnew
    · exact hclusters.2 q hold
    · rw [List.mem_singleton.mp hnew]
      exact hp
  · refine ⟨_, rfl, List.cons_ne_nil _ _, ?_⟩
    intro q hq
    rw [List.mem_singleton.mp hq]
    exact hp

theorem cluster_error {prices : List ℚ} {tolerancePct : ℚ} {e : SrExc}
    (h : cluster prices tolerancePct = .error e) : e = .arith .zeroDivisionError := by
  rw [cluster] at h
  cases hsorted : prices.mergeSort (fun a b => decide (a ≤ b)) with
  | nil =>
      rw [hsorted] at h
      cases h
  | cons p rest =>
      simp only [hsorted] at h
      cases hfold : rest.foldlM (clusterStep tolerancePct) ([], [p]) with
      | error e' =>
          simp only [hfold, bind, Except.bind] at h
          rcases Except.error.inj h with rfl
          rcases foldlM_error hfold with ⟨clusters, q, hstep⟩
          exact clusterStep_error hstep
      | ok clusters =>
          simp only [hfold, bind, Except.bind] at h
          cases h

/-- Positive prices are clustered. -/
theorem exists_cluster {prices : List ℚ} (hpos : ∀ p ∈ prices, 0 < p) (tolerancePct : ℚ) :
    ∃ centres, cluster prices tolerancePct = .ok centres := by
  have hmem : ∀ p ∈ prices.mergeSort (fun a b => decide (a ≤ b)), 0 < p := by
    intro p hp
    exact hpos p (List.mem_mergeSort.mp hp)
  rw [cluster]
  cases hsorted : prices.mergeSort (fun a b => decide (a ≤ b)) with
  | nil => exact ⟨[], rfl⟩
  | cons p rest =>
      rw [hsorted, List.forall_mem_cons] at hmem
      have hstart : ([p] : List ℚ) ≠ [] ∧ ∀ q ∈ [p], 0 < q := by
        refine ⟨List.cons_ne_nil _ _, ?_⟩
        intro q hq
        rw [List.mem_singleton.mp hq]
        exact hmem.1
      have hstep : ∀ clusters : List (List ℚ) × List ℚ,
          (clusters.2 ≠ [] ∧ ∀ q ∈ clusters.2, 0 < q) → ∀ q ∈ rest,
            ∃ next, clusterStep tolerancePct clusters q = .ok next ∧
              next.2 ≠ [] ∧ ∀ r ∈ next.2, 0 < r := by
        intro clusters hclusters q hq
        exact exists_clusterStep (hmem.2 q hq) hclusters
      rcases exists_foldlM hstep (s := ([], [p])) hstart with ⟨clusters, hfold, -⟩
      refine ⟨(clusters.1 ++ [clusters.2]).map mean, ?_⟩
      simp only [hfold, bind, Except.bind]
      rfl

/-! ## The detector -/

section Detector

variable {params : SrParams} {candles : List OHLCVCandle}

/-- The price of a pivot bar is that of a candle. -/
theorem pivot_pos {price : OHLCVCandle → ℚ} (h : ∀ c ∈ candles, 0 < price c) {window i : ℕ}
    (hi : i ∈ pivotBars candles.length window) : 0 < (candles.map price).getD i 0 := by
  have hlt : i < (candles.map price).length := by
    rw [List.length_map]
    exact (Nat.le_add_right _ _).trans_lt (mem_pivotBars hi).2
  have hmem : (candles.map price).getD i 0 ∈ candles.map price := by
    rw [List.getD_eq_getElem?_getD, List.getElem?_eq_getElem hlt]
    exact List.getElem_mem hlt
  rcases List.mem_map.mp hmem with ⟨c, hc, hprice⟩
  rw [← hprice]
  exact h c hc

/-- The candidates are positive if the prices of the candles and the peaks are. -/
theorem candidates_pos {price : OHLCVCandle → ℚ} (hprice : ∀ c ∈ candles, 0 < price c)
    {window : ℕ} {kept : List ℕ} (hkept : ∀ i ∈ kept, i ∈ pivotBars candles.length window)
    {peaks : List ℚ} (hpeaks : ∀ mid ∈ peaks, 0 < mid) (side : ℚ → Bool) :
    ∀ p ∈ kept.map ((candles.map price).getD · 0) ++ peaks.filter side, 0 < p := by
  intro p hp
  rcases List.mem_append.mp hp with hpivot | hpeak
  · rcases List.mem_map.mp hpivot with ⟨i, hi, rfl⟩
    exact pivot_pos hprice (hkept i hi)
  · exact hpeaks p (List.mem_of_mem_filter hpeak)

/-- Both kinds of pivots are found. -/
theorem exists_pivots {window : ℕ} (hwindow : 0 < window) (candles : List OHLCVCandle) :
    ∃ highs lows,
      filterExcept (isSwingHigh (candles.map (·.high)) window) (pivotBars candles.length window) =
          .ok highs ∧
        filterExcept (isSwingLow (candles.map (·.low)) window) (pivotBars candles.length window) =
          .ok lows ∧
        (∀ i ∈ highs, i ∈ pivotBars candles.length window) ∧
        ∀ i ∈ lows, i ∈ pivotBars candles.length window := by
  have hlength (price : OHLCVCandle → ℚ) : (candles.map price).length = candles.length :=
    List.length_map _
  have hhigh := exists_isPivot exists_npMax (fun high other => decide (other < high)) hwindow
    (candles.map (·.high))
  have hlow := exists_isPivot exists_npMin (fun low other => decide (low < other)) hwindow
    (candles.map (·.low))
  rw [hlength] at hhigh hlow
  rcases exists_filterExcept hhigh with ⟨highs, hhighs, hhighsMem⟩
  rcases exists_filterExcept hlow with ⟨lows, hlows, hlowsMem⟩
  exact ⟨highs, lows, hhighs, hlows, hhighsMem, hlowsMem⟩

/-- Up to the clusters nothing raises, and the candidates are above the lowest low. -/
theorem exists_candidates (hparams : params.Positive)
    (hcandles : ∀ c ∈ candles, c.low ≤ c.close ∧ c.close ≤ c.high)
    (hlen : ¬candles.length < 2 * params.swingWindow + 1) :
    ∃ resistance support,
      detectSrLevels params candles = (do
        let resistancePrices ← cluster resistance params.clusterTolerancePct
        let supportPrices ← cluster support params.clusterTolerancePct
        pure (rankLevels params (candles.map (·.high)) (candles.map (·.low)) resistancePrices
          supportPrices)) ∧
      ((∀ c ∈ candles, 0 < c.low) → (∀ p ∈ resistance, 0 < p) ∧ ∀ p ∈ support, 0 < p) := by
  have hne : candles ≠ [] := by
    apply List.ne_nil_of_length_pos
    omega
  have hprices (price : OHLCVCandle → ℚ) : candles.map price ≠ [] := by
    rwa [ne_eq, List.map_eq_nil_iff]
  rcases exists_pivots hparams.swingWindow candles with
    ⟨highs, lows, hhighs, hlows, hhighsMem, hlowsMem⟩
  rcases exists_npMin _ (hprices (·.low)) with ⟨priceMin, hpriceMin⟩
  rcases exists_npMax _ (hprices (·.high)) with ⟨priceMax, hpriceMax⟩
  rcases npMin_spec hpriceMin with ⟨hminMem, hmin⟩
  have hbars : ∀ bar ∈ candles.map fun c => (c.close, (c.volume : ℚ)), priceMin ≤ bar.1 := by
    intro bar hbar
    rcases List.mem_map.mp hbar with ⟨c, hc, rfl⟩
    exact (hmin c.low (List.mem_map_of_mem hc)).trans (hcandles c hc).1
  rcases exists_profileCandidates priceMax params.volumeProfileBuckets hbars with
    ⟨peaks, hpeaks, hpeaksMin⟩
  refine ⟨highs.map ((candles.map (·.high)).getD · 0) ++
      peaks.filter (fun mid => !decide (mid < (candles.map (·.close)).getLastD 0)),
    lows.map ((candles.map (·.low)).getD · 0) ++
      peaks.filter (fun mid => decide (mid < (candles.map (·.close)).getLastD 0)), ?_, ?_⟩
  · rw [detectSrLevels, if_neg hlen]
    simp only [hhighs, hlows, hpriceMin, hpriceMax, hpeaks, bind, Except.bind]
  · intro hpositive
    have hminPos : 0 < priceMin := by
      rcases List.mem_map.mp hminMem with ⟨c, hc, rfl⟩
      exact hpositive c hc
    have hhighPos : ∀ c ∈ candles, 0 < c.high := by
      intro c hc
      exact (hpositive c hc).trans_le ((hcandles c hc).1.trans (hcandles c hc).2)
    have hpeaksPos : ∀ mid ∈ peaks, 0 < mid := by
      intro mid hmid
      exact hminPos.trans_le (hpeaksMin mid hmid)
    exact ⟨candidates_pos hhighPos hhighsMem hpeaksPos _,
      candidates_pos hpositive hlowsMem hpeaksPos _⟩

/-- What comes of the clusters is levels in order, or the division by a mean of 0. -/
theorem detectSrLevels_outcome (hparams : params.Positive)
    (hcandles : ∀ c ∈ candles, c.low ≤ c.close ∧ c.close ≤ c.high) :
    (∃ levels, detectSrLevels params candles = .ok levels ∧
      GoodLevels params.minTouches levels) ∨
      detectSrLevels params candles = .error (.arith .zeroDivisionError) := by
  by_cases hlen : candles.length < 2 * params.swingWindow + 1
  · refine Or.inl ⟨[], by rw [detectSrLevels, if_pos hlen], ?_⟩
    rw [← levelsOf_nil]
    exact goodLevels_levelsOf hparams.minTouches (List.forall_mem_nil _)
  · rcases exists_candidates hparams hcandles hlen with ⟨resistance, support, hdetect, -⟩
    rw [hdetect]
    cases hresistance : cluster resistance params.clusterTolerancePct with
    | error e =>
        rw [cluster_error hresistance]
        exact Or.inr rfl
    | ok resistancePrices =>
        cases hsupport : cluster support params.clusterTolerancePct with
        | error e =>
            rw [cluster_error hsupport]
            exact Or.inr rfl
        | ok supportPrices =>
            exact Or.inl ⟨_, rfl, goodLevels_rankLevels hparams.minTouches _ _ _ _⟩

/-- Candles with positive prices have levels. -/
theorem exists_detectSrLevels (hparams : params.Positive)
    (hcandles : ∀ c ∈ candles, c.low ≤ c.close ∧ c.close ≤ c.high)
    (hpositive : ∀ c ∈ candles, 0 < c.low) :
    ∃ levels, detectSrLevels params candles = .ok levels := by
  by_cases hlen : candles.length < 2 * params.swingWindow + 1
  · exact ⟨[], by rw [detectSrLevels, if_pos hlen]⟩
  · rcases exists_candidates hparams hcandles hlen with ⟨resistance, support, hdetect, hpos⟩
    rcases exists_cluster (hpos hpositive).1 params.clusterTolerancePct with
      ⟨resistancePrices, hresistance⟩
    rcases exists_cluster (hpos hpositive).2 params.clusterTolerancePct with
      ⟨supportPrices, hsupport⟩
    refine ⟨rankLevels params (candles.map (·.high)) (candles.map (·.low)) resistancePrices
      supportPrices, ?_⟩
    rw [hdetect, hresistance]
    simp only [bind, Except.bind, hsupport]
    rfl

/-- What is promised of the volume profile: every close has its bucket, and the buckets hold the
total volume. -/
def GoodProfile (buckets : ℕ) (candles : List OHLCVCandle) : Prop :=
  ∀ priceMin priceMax, npMin (candles.map (·.low)) = .ok priceMin →
    npMax (candles.map (·.high)) = .ok priceMax → priceMin < priceMax →
      (∀ c ∈ candles, ∃ idx,
        bucketIdx priceMin ((priceMax - priceMin) / buckets) buckets c.close = .ok idx ∧
          0 ≤ idx ∧ idx < buckets) ∧
      ∃ profile,
        volumeProfile priceMin ((priceMax - priceMin) / buckets) buckets
            (candles.map fun c => (c.close, (c.volume : ℚ))) = .ok profile ∧
          profile.length = buckets ∧
          profile.sum = (candles.map fun c => (c.volume : ℚ)).sum

theorem goodProfile {buckets : ℕ} (hbuckets : 0 < buckets)
    (hcandles : ∀ c ∈ candles, c.low ≤ c.close) : GoodProfile buckets candles := by
  intro priceMin priceMax hpriceMin hpriceMax hrange
  have hclose : ∀ c ∈ candles, priceMin ≤ c.close := by
    intro c hc
    exact ((npMin_spec hpriceMin).2 c.low (List.mem_map_of_mem hc)).trans (hcandles c hc)
  constructor
  · intro c hc
    exact exists_bucketIdx hrange hbuckets (hclose c hc)
  · have hbars : ∀ bar ∈ candles.map fun c => (c.close, (c.volume : ℚ)), priceMin ≤ bar.1 := by
      intro bar hbar
      rcases List.mem_map.mp hbar with ⟨c, hc, rfl⟩
      exact hclose c hc
    rcases exists_volumeProfile hrange hbuckets hbars with ⟨profile, hprofile, hlen, hsum⟩
    refine ⟨profile, hprofile, hlen, ?_⟩
    rw [hsum, List.map_map]
    rfl

/-- The detector returns levels in order, or a cluster of prices around 0 divides by 0; positive
prices are never divided by 0. -/
theorem detectSrLevels_good (hparams : params.Positive)
    (hcandles : ∀ c ∈ candles, c.low ≤ c.close ∧ c.close ≤ c.high) :
    ((∃ levels, detectSrLevels params candles = .ok levels ∧
        GoodLevels params.minTouches levels) ∨
      detectSrLevels params candles = .error (.arith .zeroDivisionError)) ∧
    ((∀ c ∈ candles, 0 < c.low) → ∃ levels, detectSrLevels params candles = .ok levels) ∧
    GoodProfile params.volumeProfileBuckets candles := by
  refine ⟨detectSrLevels_outcome hparams hcandles, exists_detectSrLevels hparams hcandles, ?_⟩
  exact goodProfile hparams.volumeProfileBuckets (fun c hc => (hcandles c hc).1)

end Detector

/-- One bar on each side, and three buckets. -/
def threeBars : SrParams where
  swingWindow := 1
  touchTolerancePct := 1 / 5
  minTouches := 1
  clusterTolerancePct := 3 / 10
  volumeProfileBuckets := 3

theorem threeBars_positive : threeBars.Positive := by
  constructor <;> decide +kernel

/-- A candle at a minute of 16 January 2024, from a low to 2. -/
def lowBar (minute : ℕ) (h : minute < 1440) (low : ℚ) : OHLCVCandle where
  time :=
    { wall := 738900 * 86400000000 + minute * 60000000
      utcoffset := some 0
      range := by
        unfold maxWall
        omega }
  symbol := "EXAMPLE"
  exchange := "NSE"
  openPrice := 1
  high := 2
  low := low
  close := 1
  volume := 7

/-- A dip to 1/2 is a level. -/
theorem detectSrLevels_good_dip :
    ((∃ levels, detectSrLevels threeBars
          [lowBar 225 (by decide) 1, lowBar 226 (by decide) (1 / 2), lowBar 227 (by decide) 1] =
          .ok levels ∧ GoodLevels 1 levels) ∨
      detectSrLevels threeBars
          [lowBar 225 (by decide) 1, lowBar 226 (by decide) (1 / 2), lowBar 227 (by decide) 1] =
        .error (.arith .zeroDivisionError)) ∧
    ((∀ c ∈ [lowBar 225 (by decide) 1, lowBar 226 (by decide) (1 / 2), lowBar 227 (by decide) 1],
        0 < c.low) → ∃ levels, detectSrLevels threeBars
          [lowBar 225 (by decide) 1, lowBar 226 (by decide) (1 / 2), lowBar 227 (by decide) 1] =
          .ok levels) ∧
    GoodProfile 3
      [lowBar 225 (by decide) 1, lowBar 226 (by decide) (1 / 2), lowBar 227 (by decide) 1] := by
  refine detectSrLevels_good threeBars_positive ?_
  decide +kernel

/-- Two dips to 0 are a cluster around 0, and the second of them is compared with its mean. -/
theorem zero_lows_divide_by_zero :
    ¬∀ (params : SrParams) (candles : List OHLCVCandle), params.Positive →
      (∀ c ∈ candles, c.low ≤ c.close ∧ c.close ≤ c.high) →
        ∃ levels, detectSrLevels params candles = .ok levels := by
  intro h
  rcases h threeBars
    [lowBar 225 (by decide) 1, lowBar 226 (by decide) 0, lowBar 227 (by decide) 1,
      lowBar 228 (by decide) 0, lowBar 229 (by decide) 1] threeBars_positive
    (by decide +kernel) with ⟨levels, hlevels⟩
  have hhighs : filterExcept (isSwingHigh [2, 2, 2, 2, 2] 1) (pivotBars 5 1) = .ok [] := by
    decide +kernel
  have hlows : filterExcept (isSwingLow [1, 0, 1, 0, 1] 1) (pivotBars 5 1) = .ok [1, 3] := by
    decide +kernel
  have hmin : npMin [1, 0, 1, 0, 1] = .ok 0 := by decide +kernel
  have hmax : npMax [2, 2, 2, 2, 2] = .ok 2 := by decide +kernel
  have hpeaks : profileCandidates 0 2 3 [(1, 7), (1, 7), (1, 7), (1, 7), (1, 7)] = .ok [1] := by
    decide +kernel
  have habove : [] ++ [1].filter (fun mid : ℚ => !decide (mid < [1, 1, 1, 1, 1].getLastD 0)) =
      [1] := by
    decide +kernel
  have hbelow : [[1, 0, 1, 0, 1].getD 1 0, [1, 0, 1, 0, 1].getD 3 0] ++
      [1].filter (fun mid : ℚ => decide (mid < [1, 1, 1, 1, 1].getLastD 0)) = [0, 0] := by
    decide +kernel
  have hresistance : cluster [1] (3 / 10) = .ok [1] := by
    rw [cluster, List.mergeSort_singleton]
    decide +kernel
  have hsorted : ([0, 0] : List ℚ).mergeSort (fun a b => decide (a ≤ b)) = [0, 0] :=
    List.mergeSort_of_pairwise (by decide +kernel)
  have hsupport : cluster [0, 0] (3 / 10) = .error (.arith .zeroDivisionError) := by
    rw [cluster, hsorted]
    decide +kernel
  rw [detectSrLevels, if_neg (by decide)] at hlevels
  simp only [threeBars, lowBar, List.map_cons, List.map_nil, List.length_cons, List.length_nil,
    Nat.reduceAdd, Int.cast_ofNat, hhighs, hlows, hmin, hmax, hpeaks, bind, Except.bind] at hlevels
  simp only [habove, hbelow, hresistance, hsupport] at hlevels
  cases hlevels

end Intraday.Patterns
