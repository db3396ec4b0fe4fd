import Mathlib.Data.List.Dedup
import Intraday.Lib.FloatOrder
import Intraday.Lib.Grouping
import Intraday.Lib.Rollup
import Intraday.Storage.Repositories

/-!
# Intraday.Storage.Aggregates — the continuous aggregates of `schema.sql`

The views `ohlcv_5m`, `ohlcv_15m` and `ohlcv_1h` group the one-minute candles by `time_bucket`, each
on its own. They agree nevertheless: the fifteen-minute and the hourly candles are those that the
finer views would give (`views_agree`), where two prices are the same if the database has them
equal, so up to the sign of a zero.
-/

namespace Intraday.Storage.Repositories

open Intraday.Lib Intraday.Lib.PyFloat

/-! ## The views -/

/-- The origin of `time_bucket`, 3 January 2000, in microseconds. -/
def bucketOrigin : ℤ := 946857600000000

/-- `time_bucket(width, time)`. -/
def timeBucket (width time : ℤ) : ℤ := bucketOrigin + (time - bucketOrigin) / width * width

/-- `GROUP BY time_bucket(width, time), symbol, exchange`. -/
def groupKey (width : ℤ) (c : OHLCVCandle) : CandleKey :=
  { symbol := c.symbol, exchange := c.exchange, time := timeBucket width c.time }

/-- One step of `max`. The database has NaN above all numbers. -/
def larger (a b : PyFloat) : PyFloat := if b = .nan ∨ le a b then b else a

/-- One step of `min`. -/
def smaller (a b : PyFloat) : PyFloat := if a = .nan ∨ le b a then b else a

/-- One step of `first(…, time)`. -/
def earlier (a b : OHLCVCandle) : OHLCVCandle := if b.time < a.time then b else a

/-- One step of `last(…, time)`. -/
def later (a b : OHLCVCandle) : OHLCVCandle := if a.time < b.time then b else a

/-- The row of a group, which has the rows `r` and `rs`. -/
def rollUp (key : CandleKey) (r : OHLCVCandle) (rs : List OHLCVCandle) : OHLCVCandle :=
  { time := key.time
    symbol := key.symbol
    exchange := key.exchange
    openPrice := (rs.foldl earlier r).openPrice
    high := (rs.map OHLCVCandle.high).foldl larger r.high
    low := (rs.map OHLCVCandle.low).foldl smaller r.low
    close := (rs.foldl later r).close
    volume := ((r :: rs).map OHLCVCandle.volume).sum }

/-- The rows of a group. -/
def groupRows (width : ℤ) (rows : List OHLCVCandle) (key : CandleKey) : List OHLCVCandle :=
  rows.filter fun r => decide (groupKey width r = key)

/-- The row of a group that has rows. -/
def groupRow (width : ℤ) (rows : List OHLCVCandle) (key : CandleKey) : Option OHLCVCandle :=
  match groupRows width rows key with
  | [] => none
  | r :: rs => some (rollUp key r rs)

/-- The view of a width. -/
def view (width : ℤ) (rows : List OHLCVCandle) : List OHLCVCandle :=
  (rows.map (groupKey width)).dedup.filterMap (groupRow width rows)

/-- Five minutes, in microseconds. -/
def fiveMinutes : ℤ := 300000000

/-- Fifteen minutes. -/
def fifteenMinutes : ℤ := 900000000

/-- One hour. -/
def oneHour : ℤ := 3600000000

/-- The views by their names. -/
def views (name : String) (t : CandleTable) : List OHLCVCandle :=
  match name with
  | "ohlcv_5m" => view fiveMinutes t.all
  | "ohlcv_15m" => view fifteenMinutes t.all
  | "ohlcv_1h" => view oneHour t.all
  | _ => []

/-! ## The row of a group -/

/-- A candle as a bar. -/
def toBar (c : OHLCVCandle) : Bar ℤ PyFloat ℤ :=
  { time := c.time, openPrice := c.openPrice, high := c.high, low := c.low, close := c.close
    volume := c.volume }

theorem leNanLast_total (a b : PyFloat) : LeNanLast a b ∨ LeNanLast b a := by
  by_cases ha : a = .nan
  · exact .inr (.inl ha)
  · by_cases hb : b = .nan
    · exact .inl (.inl hb)
    · exact (le_total_of_ne_nan ha hb).imp .inr .inr

theorem isTop_larger (x : PyFloat) (xs : List PyFloat) :
    IsTop LeNanLast (x :: xs) (xs.foldl larger x) :=
  isTop_foldl (p := fun a b : PyFloat => b = .nan ∨ le a b = true) LeNanLast.refl
    LeNanLast.trans (fun _ _ h => h) (fun a b h => (leNanLast_total a b).resolve_left h) x xs

theorem isTop_smaller (x : PyFloat) (xs : List PyFloat) :
    IsTop (fun a b => LeNanLast b a) (x :: xs) (xs.foldl smaller x) :=
  isTop_foldl (r := fun a b => LeNanLast b a)
    (p := fun a b : PyFloat => a = .nan ∨ le b a = true) LeNanLast.refl
    (fun hab hbc => hbc.trans hab) (fun _ _ h => h)
    (fun a b h => (leNanLast_total b a).resolve_left h) x xs

theorem isTop_earlier (r : OHLCVCandle) (rs : List OHLCVCandle) :
    IsTop (fun a b => b.time ≤ a.time) (r :: rs) (rs.foldl earlier r) :=
  isTop_foldl (r := fun a b => b.time ≤ a.time) (p := fun a b => b.time < a.time)
    (fun _ => le_refl _) (fun hab hbc => le_trans hbc hab) (fun _ _ h => h.le)
    (fun _ _ h => not_lt.mp h) r rs

theorem isTop_later (r : OHLCVCandle) (rs : List OHLCVCandle) :
    IsTop (fun a b => a.time ≤ b.time) (r :: rs) (rs.foldl later r) :=
  isTop_foldl (r := fun a b => a.time ≤ b.time) (p := fun a b => a.time < b.time)
    (fun _ => le_refl _) (fun hab hbc => le_trans hab hbc) (fun _ _ h => h.le)
    (fun _ _ h => not_lt.mp h) r rs

/-- The row of a group sums up its rows. -/
theorem rollsUp_rollUp (key : CandleKey) (r : OHLCVCandle) (rs : List OHLCVCandle) :
    RollsUp LeNanLast ((r :: rs).map toBar) (toBar (rollUp key r rs)) where
  first_open := by
    have htop := isTop_earlier r rs
    refine ⟨toBar (rs.foldl earlier r), List.mem_map_of_mem htop.mem, rfl, ?_⟩
    exact List.forall_mem_map.mpr htop.top
  max_high := by
    have htop := isTop_larger r.high (rs.map OHLCVCandle.high)
    rw [← List.map_cons] at htop
    rcases List.mem_map.mp htop.mem with ⟨x, hx, hhigh⟩
    refine ⟨⟨toBar x, List.mem_map_of_mem hx, ?_⟩, ?_⟩
    · show LeNanLast ((rs.map OHLCVCandle.high).foldl larger r.high) x.high
      rw [hhigh]
      exact .refl _
    · exact List.forall_mem_map.mpr fun y hy => htop.top y.high (List.mem_map_of_mem hy)
  min_low := by
    have htop := isTop_smaller r.low (rs.map OHLCVCandle.low)
    rw [← List.map_cons] at htop
    rcases List.mem_map.mp htop.mem with ⟨x, hx, hlow⟩
    refine ⟨⟨toBar x, List.mem_map_of_mem hx, ?_⟩, ?_⟩
    · show LeNanLast x.low ((rs.map OHLCVCandle.low).foldl smaller r.low)
      rw [hlow]
      exact .refl _
    · exact List.forall_mem_map.mpr fun y hy => htop.top y.low (List.mem_map_of_mem hy)
  last_close := by
    have htop := isTop_later r rs
    refine ⟨toBar (rs.foldl later r), List.mem_map_of_mem htop.mem, rfl, ?_⟩
    exact List.forall_mem_map.mpr htop.top
  sum_volume := by
    rw [List.map_map]
    rfl

theorem groupRow_key {width : ℤ} {rows : List OHLCVCandle} {key : CandleKey} {c : OHLCVCandle}
    (h : groupRow width rows key = some c) : candleKey c = key := by
  rw [groupRow] at h
  split at h
  · cases h
  · rw [← Option.some.inj h]
    rfl

/-- A view has one row for each group that has rows. -/
theorem mem_view {width : ℤ} {rows : List OHLCVCandle} {c : OHLCVCandle} :
    c ∈ view width rows ↔ groupRow width rows (candleKey c) = some c := by
  rw [view, List.mem_filterMap]
  constructor
  · rintro ⟨key, -, hrow⟩
    rw [groupRow_key hrow]
    exact hrow
  · intro hrow
    refine ⟨candleKey c, ?_, hrow⟩
    rw [groupRow] at hrow
    split at hrow
    · cases hrow
    · rename_i r rs hgroup
      have hr : r ∈ groupRows width rows (candleKey c) := by
        rw [hgroup]
        exact List.mem_cons_self
      rw [groupRows, List.mem_filter, decide_eq_true_eq] at hr
      rw [List.mem_dedup, ← hr.2]
      exact List.mem_map_of_mem hr.1

/-- A group with a row in it has a row in the view, which sums it up. -/
theorem exists_mem_view {width : ℤ} {rows : List OHLCVCandle} {key : CandleKey}
    (h : groupRows width rows key ≠ []) :
    ∃ c ∈ view width rows, candleKey c = key := by
  have hrow : ∃ c, groupRow width rows key = some c := by
    rw [groupRow]
    split
    · rename_i hnil
      exact absurd hnil h
    · exact ⟨_, rfl⟩
  rcases hrow with ⟨c, hc⟩
  have hkey := groupRow_key hc
  exact ⟨c, mem_view.mpr (hkey ▸ hc), hkey⟩

theorem rollsUp_of_mem_view {width : ℤ} {rows : List OHLCVCandle} {c : OHLCVCandle}
    (h : c ∈ view width rows) :
    RollsUp LeNanLast ((groupRows width rows (candleKey c)).map toBar) (toBar c) := by
  rw [mem_view, groupRow] at h
  split at h
  · cases h
  · rename_i r rs hgroup
    rw [hgroup, ← Option.some.inj h]
    exact rollsUp_rollUp _ r rs

theorem nodup_view (width : ℤ) (rows : List OHLCVCandle) :
    ((view width rows).map candleKey).Nodup := by
  rw [view, List.map_filterMap]
  have hkeys : ∀ key, ∀ k ∈ (groupRow width rows key).map candleKey, k = key := by
    intro key k hk
    rcases Option.map_eq_some_iff.mp hk with ⟨c, hc, rfl⟩
    exact groupRow_key hc
  refine List.Nodup.filterMap ?_ (List.nodup_dedup _)
  intro key key' k hk hk'
  rw [← hkeys key k hk, ← hkeys key' k hk']

/-! ## Buckets of buckets -/

section Buckets

variable {w k : ℤ}

theorem timeBucket_mono (hw : 0 < w) {t t' : ℤ} (h : t ≤ t') :
    timeBucket w t ≤ timeBucket w t' := by
  have hdiv : (t - bucketOrigin) / w ≤ (t' - bucketOrigin) / w :=
    Int.ediv_le_ediv hw (by omega)
  have hmul := Int.mul_le_mul_of_nonneg_right hdiv hw.le
  unfold timeBucket
  omega

/-- A bucket lies in one bucket of a multiple of its width. -/
theorem timeBucket_timeBucket (hw : 0 < w) (t : ℤ) :
    timeBucket (w * k) (timeBucket w t) = timeBucket (w * k) t := by
  have hquot : (timeBucket w t - bucketOrigin) / (w * k) = (t - bucketOrigin) / (w * k) := by
    have hstart : timeBucket w t - bucketOrigin = (t - bucketOrigin) / w * w := by
      unfold timeBucket
      omega
    rw [hstart, Int.mul_comm _ w, Int.mul_ediv_mul_of_pos _ _ hw, Int.ediv_ediv_of_nonneg hw.le]
  rw [timeBucket, hquot, timeBucket]

theorem groupKey_of_key (hw : 0 < w) {b r : OHLCVCandle} (h : candleKey b = groupKey w r) :
    groupKey (w * k) b = groupKey (w * k) r := by
  simp only [candleKey, groupKey, CandleKey.mk.injEq] at h ⊢
  refine ⟨h.1, h.2.1, ?_⟩
  rw [h.2.2, timeBucket_timeBucket hw]

/-- The rows of the finer view in a group, each with the rows that it sums up. -/
def subgroups (w k : ℤ) (rows : List OHLCVCandle) (key : CandleKey) :
    List (List (Bar ℤ PyFloat ℤ) × Bar ℤ PyFloat ℤ) :=
  (groupRows (w * k) (view w rows) key).map fun b =>
    ((groupRows w rows (candleKey b)).map toBar, toBar b)

variable {rows : List OHLCVCandle} {key : CandleKey}

theorem mem_groupRows {width : ℤ} {r : OHLCVCandle} :
    r ∈ groupRows width rows key ↔ r ∈ rows ∧ groupKey width r = key := by
  rw [groupRows, List.mem_filter, decide_eq_true_eq]

/-- Rows of one group at one time are the same, if the rows have different keys. -/
theorem eq_of_time (hkeys : (rows.map candleKey).Nodup) {width : ℤ} {r r' : OHLCVCandle}
    (hr : r ∈ groupRows width rows key) (hr' : r' ∈ groupRows width rows key)
    (htime : r.time = r'.time) : r = r' := by
  rw [mem_groupRows] at hr hr'
  have hsame : groupKey width r = groupKey width r' := hr.2.trans hr'.2.symm
  refine List.inj_on_of_nodup_map hkeys hr.1 hr'.1 ?_
  simp only [groupKey, candleKey, CandleKey.mk.injEq] at hsame ⊢
  exact ⟨hsame.1, hsame.2.1, htime⟩

theorem grouped_subgroups (hw : 0 < w) (hkeys : (rows.map candleKey).Nodup) :
    Grouped LeNanLast (subgroups w k rows key) where
  rolled := by
    refine List.forall_mem_map.mpr ?_
    intro b hb
    exact rollsUp_of_mem_view (mem_groupRows.mp hb).1
  mono := by
    refine List.forall_mem_map.mpr ?_
    intro b hb
    refine List.forall_mem_map.mpr ?_
    intro b' hb'
    refine List.forall_mem_map.mpr ?_
    intro r hr
    refine List.forall_mem_map.mpr ?_
    intro r' hr' hle
    -- the time of a bar is the bucket of each of its rows
    have htime := congrArg CandleKey.time (mem_groupRows.mp hr).2
    have htime' := congrArg CandleKey.time (mem_groupRows.mp hr').2
    show b.time ≤ b'.time
    rw [show b.time = timeBucket w r.time from htime.symm,
      show b'.time = timeBucket w r'.time from htime'.symm]
    exact timeBucket_mono hw hle
  apart := by
    refine List.forall_mem_map.mpr ?_
    intro b hb
    refine List.forall_mem_map.mpr ?_
    intro b' hb' htime
    rw [eq_of_time (nodup_view w rows) hb hb' htime]
  unique := by
    refine List.forall_mem_map.mpr ?_
    intro b _
    refine List.forall_mem_map.mpr ?_
    intro r hr
    refine List.forall_mem_map.mpr ?_
    intro r' hr' htime
    rw [eq_of_time hkeys hr hr' htime]

theorem allBars_subgroups :
    allBars (subgroups w k rows key) = (groupRows (w * k) (view w rows) key).map toBar := by
  rw [allBars, subgroups, List.map_map]
  rfl

/-- The rows of a group are those of the subgroups. -/
theorem allRows_subgroups (hw : 0 < w) :
    (allRows (subgroups w k rows key)).Perm ((groupRows (w * k) rows key).map toBar) := by
  have hks : ((groupRows (w * k) (view w rows) key).map candleKey).Nodup :=
    (nodup_view w rows).sublist (List.filter_sublist.map candleKey)
  have hperm := (flatten_groups_perm (groupKey w) hks rows).map toBar
  have hrows : allRows (subgroups w k rows key) =
      (((groupRows (w * k) (view w rows) key).map candleKey).map fun key =>
        rows.filter fun r => decide (groupKey w r = key)).flatten.map toBar := by
    rw [allRows, subgroups, List.map_map, List.map_map, List.map_flatten, List.map_map]
    rfl
  have hfilter : (rows.filter fun r => decide
      (groupKey w r ∈ (groupRows (w * k) (view w rows) key).map candleKey)) =
        groupRows (w * k) rows key := by
    refine List.filter_congr ?_
    intro r hr
    rw [decide_eq_decide, List.mem_map]
    constructor
    · rintro ⟨b, hb, hkey⟩
      rw [← groupKey_of_key hw hkey]
      exact (mem_groupRows.mp hb).2
    · intro hkey
      have hne : groupRows w rows (groupKey w r) ≠ [] :=
        List.ne_nil_of_mem (mem_groupRows.mpr ⟨hr, rfl⟩)
      rcases exists_mem_view hne with ⟨b, hb, hbkey⟩
      exact ⟨b, mem_groupRows.mpr ⟨hb, (groupKey_of_key hw hbkey).trans hkey⟩, hbkey⟩
  rw [hrows, ← hfilter]
  exact hperm

/-- Two rows that the database cannot tell apart: the same candle, up to the signs of zeros. -/
structure SameRow (c d : OHLCVCandle) : Prop where
  key : candleKey c = candleKey d
  openPrice : c.openPrice = d.openPrice
  high : LeNanLast c.high d.high ∧ LeNanLast d.high c.high
  low : LeNanLast c.low d.low ∧ LeNanLast d.low c.low
  close : c.close = d.close
  volume : c.volume = d.volume

/-- Two views with the same rows. -/
def SameRows (cs ds : List OHLCVCandle) : Prop :=
  (∀ c ∈ cs, ∃ d ∈ ds, SameRow c d) ∧ ∀ d ∈ ds, ∃ c ∈ cs, SameRow c d

theorem sameRow_of_mem (hw : 0 < w) (hkeys : (rows.map candleKey).Nodup) {c d : OHLCVCandle}
    (hc : c ∈ view (w * k) rows) (hd : d ∈ view (w * k) (view w rows))
    (hkey : candleKey c = candleKey d) : SameRow c d := by
  have hrows := rollsUp_of_mem_view hc
  have hbars := rollsUp_of_mem_view hd
  rw [← hkey, ← allBars_subgroups] at hbars
  have hall := (rollsUp_groups_iff (R := LeNanLast) LeNanLast.trans
    (grouped_subgroups hw hkeys)).mpr hbars
  have hagree := RollsUp.agree (R := LeNanLast) LeNanLast.trans
    (List.forall_mem_map.mpr fun r hr => List.forall_mem_map.mpr fun r' hr' htime => by
      rw [eq_of_time hkeys hr hr' htime]) hrows (hall.perm (allRows_subgroups hw))
  rcases hagree with ⟨hopen, hhigh, hlow, hclose, hvolume⟩
  exact ⟨hkey, hopen, hhigh, hlow, hclose, hvolume⟩

/-- A view gives the same rows on a finer view as on the table. -/
theorem sameRows_view (hw : 0 < w) (hkeys : (rows.map candleKey).Nodup) :
    SameRows (view (w * k) rows) (view (w * k) (view w rows)) := by
  constructor
  · intro c hc
    have hbars : groupRows (w * k) (view w rows) (candleKey c) ≠ [] := by
      rcases (rollsUp_of_mem_view hc).exists_mem with ⟨x, hx⟩
      rw [← (allRows_subgroups hw).mem_iff, mem_allRows] at hx
      rcases hx with ⟨p, hp, -⟩
      intro hnil
      rw [subgroups, hnil] at hp
      cases hp
    rcases exists_mem_view hbars with ⟨d, hd, hkey⟩
    exact ⟨d, hd, sameRow_of_mem hw hkeys hc hd hkey.symm⟩
  · intro d hd
    have hrows : groupRows (w * k) rows (candleKey d) ≠ [] := by
      rcases (rollsUp_of_mem_view hd).exists_mem with ⟨x, hx⟩
      rw [← allBars_subgroups] at hx
      rcases mem_allBars.mp hx with ⟨p, hp, -⟩
      rcases ((grouped_subgroups (k := k) hw hkeys).rolled p hp).exists_mem with ⟨r, hr⟩
      have hmem := (allRows_subgroups hw).mem_iff.mp (mem_allRows.mpr ⟨p, hp, hr⟩)
      intro hnil
      rw [hnil] at hmem
      cases hmem
    rcases exists_mem_view hrows with ⟨c, hc, hkey⟩
    exact ⟨c, hc, sameRow_of_mem hw hkeys hc hd hkey⟩

end Buckets

/-- The views agree: for any candles, the fifteen-minute and the hourly ones are those that the
five-minute view gives, and the hourly ones those that the fifteen-minute view gives. -/
theorem views_agree (t : CandleTable) :
    SameRows (views "ohlcv_15m" t) (view fifteenMinutes (views "ohlcv_5m" t)) ∧
      SameRows (views "ohlcv_1h" t) (view oneHour (views "ohlcv_5m" t)) ∧
      SameRows (views "ohlcv_1h" t) (view oneHour (views "ohlcv_15m" t)) := by
  have hkeys := t.nodup_keys
  refine ⟨?_, ?_, ?_⟩
  · exact sameRows_view (w := fiveMinutes) (k := 3) (by decide) hkeys
  · exact sameRows_view (w := fiveMinutes) (k := 12) (by decide) hkeys
  · exact sameRows_view (w := fifteenMinutes) (k := 4) (by decide) hkeys

end Intraday.Storage.Repositories
