import Mathlib.Algebra.Order.Field.Rat
import Intraday.Core.Constants
import Intraday.Lib.Clock

/-!
# Intraday.Indicators.Vwap — `shared/indicators/definitions/vwap.py`, `vwap_bands.py`

The current session is taken to be the bars with the UTC date of the last one. While Sydney has
daylight saving, the ASX opens an hour before UTC midnight, and that hour has the date of the day
before: it is cut off from its own session, or taken together with the one before
(`wholeSession_iff`). On the NSE, and in Sydney's standard time, no session is cut
(`wholeSession_of_hours`).

Prices and volumes are exact; a NaN is `none`.
-/

namespace Intraday.Indicators

open Intraday.Core Intraday.Lib

/-! ## Bars -/

/-- A place of the arrays of `CandleArrays`, its time by the microseconds that a clock of UTC shows
since the first midnight. -/
structure Bar where
  time : ℤ
  high : ℚ
  low : ℚ
  close : ℚ
  volume : ℚ
deriving DecidableEq

/-- `t.date()`, as a number of days. -/
def utcDate (b : Bar) : ℤ := b.time / dayMicros

/-- `(high + low + close) / 3.0`. -/
def typicalPrice (b : Bar) : ℚ := (b.high + b.low + b.close) / 3

/-! ## Session VWAP -/

/-- The mask of the bars that agree with the last one in `date`; `none` is the `IndexError` of no
bars. -/
def maskBy (date : Bar → ℤ) (candles : List Bar) : Option (List Bool) :=
  candles.getLast?.map fun last => candles.map fun b => decide (date b = date last)

/-- `current_session_mask`. -/
def currentSessionMask (candles : List Bar) : Option (List Bool) := maskBy utcDate candles

/-- `xs[mask]`. -/
def select {α : Type} (mask : List Bool) (xs : List α) : List α :=
  ((mask.zip xs).filter Prod.fst).map Prod.snd

/-- `np.cumsum`. -/
def cumsum (xs : List ℚ) : List ℚ := (xs.scanl (· + ·) 0).tail

/-- The VWAP at every bar of a session. -/
def vwapSeries (session : List Bar) : List (Option ℚ) :=
  List.zipWith (fun value volume => if 0 < volume then some (value / volume) else none)
    (cumsum (session.map fun b => typicalPrice b * b.volume)) (cumsum (session.map (·.volume)))

/-- The VWAP of a session. -/
def vwapOf (session : List Bar) : Option ℚ := (vwapSeries session).getLast?.join

/-- `session_vwap_series`. -/
def sessionVwapSeries (candles : List Bar) : Option (List (Option ℚ)) :=
  (currentSessionMask candles).map fun mask => vwapSeries (select mask candles)

/-- `compute` of the VWAP. -/
def vwap (candles : List Bar) : Option (Option ℚ) :=
  (sessionVwapSeries candles).map fun series => series.getLast?.join

/-! ## Bands -/

/-- `np.nanstd`, with the square root of the floats. -/
def nanstd (sqrt : ℚ → ℚ) (xs : List (Option ℚ)) : ℚ :=
  let known := xs.filterMap id
  let mean := known.sum / known.length
  sqrt ((known.map fun x => (x - mean) * (x - mean)).sum / known.length)

/-- `typical_price - series`. -/
def deviations (session : List Bar) (series : List (Option ℚ)) : List (Option ℚ) :=
  List.zipWith (fun b vwap => vwap.map (typicalPrice b - ·)) session series

/-- The bands around the VWAP of a session, the upper one first. -/
def bandsOf (sqrt : ℚ → ℚ) (session : List Bar) (series : List (Option ℚ)) : Option (ℚ × ℚ) :=
  series.getLast?.join.map fun vwap =>
    let deviation := nanstd sqrt (deviations session series)
    (vwap + vwapBandStddevMultiplier * deviation, vwap - vwapBandStddevMultiplier * deviation)

/-- `compute` of the VWAP bands. -/
def vwapBands (sqrt : ℚ → ℚ) (candles : List Bar) : Option (Option (ℚ × ℚ)) := do
  let series ← sessionVwapSeries candles
  let mask ← currentSessionMask candles
  pure (bandsOf sqrt (select mask candles) series)

/-! ## Sessions of an exchange -/

/-- An exchange; that in Sydney with what is known of its clocks, whether they are on daylight
saving time at a moment. -/
inductive Exchange where
  | nse
  | asx (daylightSaving : ℤ → Bool)

/-- The offset of the clocks of an exchange to UTC, in microseconds. -/
def Exchange.offset (exchange : Exchange) (time : ℤ) : ℤ :=
  match exchange with
  | .nse => 19800000000
  | .asx daylightSaving => if daylightSaving time then 39600000000 else 36000000000

/-- What the clocks of an exchange show at a bar. -/
def Exchange.wall (exchange : Exchange) (b : Bar) : ℤ := b.time + exchange.offset b.time

/-- The date of a bar where its exchange is. -/
def Exchange.date (exchange : Exchange) (b : Bar) : ℤ := exchange.wall b / dayMicros

/-- The time of day of a bar where its exchange is. -/
def Exchange.timeOfDay (exchange : Exchange) (b : Bar) : ℤ := exchange.wall b % dayMicros

/-- The time of day at which an exchange opens. -/
def Exchange.opens : Exchange → ℤ
  | .nse => 33300000000
  | .asx _ => 36000000000

/-- The bars of the date of the last one. -/
def Exchange.session (exchange : Exchange) (candles : List Bar) : Option (List Bar) :=
  candles.getLast?.map fun last =>
    candles.filter fun b => decide (exchange.date b = exchange.date last)

/-- What is promised of the indicators: the mask has the bars of the current session, and the VWAP
and its bands are those of that session. -/
structure WholeSession (sqrt : ℚ → ℚ) (exchange : Exchange) (candles : List Bar) : Prop where
  mask : currentSessionMask candles = maskBy exchange.date candles
  series : sessionVwapSeries candles = (exchange.session candles).map vwapSeries
  vwap : vwap candles = (exchange.session candles).map vwapOf
  bands : vwapBands sqrt candles = (exchange.session candles).map fun session =>
    bandsOf sqrt session (vwapSeries session)

/-! ## Midnight -/

/-- A bar is before the UTC midnight that its date has at the exchange. -/
def BeforeMidnight (exchange : Exchange) (b : Bar) : Prop :=
  exchange.timeOfDay b < exchange.offset b.time

instance (exchange : Exchange) (b : Bar) : Decidable (BeforeMidnight exchange b) :=
  inferInstanceAs (Decidable (_ < _))

/-- UTC midnight does not come between two bars of a day, and two bars of successive days are not
those after the one midnight and before the other. -/
structure SameSide (exchange : Exchange) (b last : Bar) : Prop where
  sameDay : exchange.date b = exchange.date last →
    (BeforeMidnight exchange b ↔ BeforeMidnight exchange last)
  dayBefore : exchange.date b + 1 = exchange.date last → BeforeMidnight exchange last →
    BeforeMidnight exchange b
  dayAfter : exchange.date last + 1 = exchange.date b → BeforeMidnight exchange b →
    BeforeMidnight exchange last

section Sessions

variable {exchange : Exchange} {candles : List Bar}

theorem offset_range (exchange : Exchange) (time : ℤ) :
    0 ≤ exchange.offset time ∧ exchange.offset time < (dayMicros : ℤ) := by
  have hday : (dayMicros : ℤ) = 86400000000 := by norm_num [dayMicros]
  rw [hday]
  cases exchange with
  | nse => simp [Exchange.offset]
  | asx daylightSaving =>
      rw [Exchange.offset]
      split
      · omega
      · omega

/-- The date of UTC is that of the exchange, or the day before. -/
theorem utcDate_eq (exchange : Exchange) (b : Bar) :
    utcDate b = exchange.date b - if BeforeMidnight exchange b then 1 else 0 := by
  have hday : (dayMicros : ℤ) = 86400000000 := by norm_num [dayMicros]
  rcases offset_range exchange b.time with ⟨hnonneg, hlt⟩
  rw [hday] at hlt
  by_cases hb : BeforeMidnight exchange b
  · rw [if_pos hb]
    rw [BeforeMidnight, Exchange.timeOfDay, Exchange.wall, hday] at hb
    rw [utcDate, Exchange.date, Exchange.wall, hday]
    omega
  · rw [if_neg hb]
    rw [BeforeMidnight, Exchange.timeOfDay, Exchange.wall, hday] at hb
    rw [utcDate, Exchange.date, Exchange.wall, hday]
    omega

/-- The mask is right about a bar exactly if the bar and the last one are on the same side. -/
theorem sameSide_iff (b last : Bar) :
    (utcDate b = utcDate last ↔ exchange.date b = exchange.date last) ↔
      SameSide exchange b last := by
  rw [utcDate_eq exchange b, utcDate_eq exchange last]
  constructor
  · intro h
    refine { sameDay := ?_, dayBefore := ?_, dayAfter := ?_ }
    · intro hdate
      have hutc := h.mpr hdate
      by_cases hb : BeforeMidnight exchange b <;> by_cases hl : BeforeMidnight exchange last <;>
        simp only [hb, hl, if_true, if_false] at hutc ⊢ <;> omega
    · intro hdate hl
      by_contra hb
      simp only [hb, hl, if_true, if_false] at h
      omega
    · intro hdate hb
      by_contra hl
      simp only [hb, hl, if_true, if_false] at h
      omega
  · rintro ⟨hsame, hbefore, hafter⟩
    -- the four ways in which the two can be at midnight
    by_cases hb : BeforeMidnight exchange b <;> by_cases hl : BeforeMidnight exchange last <;>
      simp only [hb, hl, if_true, if_false, imp_false, not_true, iff_true, iff_false,
        iff_self, implies_true, not_false_eq_true] at hsame hbefore hafter ⊢ <;> omega

/-- The mask of a predicate selects what the predicate holds of. -/
theorem select_map (p : Bar → Bool) (bars : List Bar) :
    select (bars.map p) bars = bars.filter p := by
  rw [select]
  induction bars with
  | nil => rfl
  | cons b bars ih =>
      rw [List.map_cons, List.zip_cons_cons]
      cases hb : p b with
      | true => rw [List.filter_cons_of_pos rfl, List.map_cons, ih, List.filter_cons_of_pos hb]
      | false =>
          rw [List.filter_cons_of_neg Bool.false_ne_true, ih,
            List.filter_cons_of_neg (Bool.not_eq_true _ ▸ hb)]

/-- The bars that the mask of the exchange's dates selects are the session. -/
theorem select_maskBy (exchange : Exchange) (candles : List Bar) :
    (maskBy exchange.date candles).map (select · candles) = exchange.session candles := by
  rw [maskBy, Exchange.session, Option.map_map]
  refine Option.map_congr ?_
  intro last _
  exact select_map _ candles

/-- If the mask is right, so is all that is computed with it. -/
theorem wholeSession_of_mask (sqrt : ℚ → ℚ)
    (h : currentSessionMask candles = maskBy exchange.date candles) :
    WholeSession sqrt exchange candles := by
  have hseries : sessionVwapSeries candles = (exchange.session candles).map vwapSeries := by
    rw [sessionVwapSeries, h, ← select_maskBy, Option.map_map]
    rfl
  refine { mask := h, series := hseries, vwap := ?_, bands := ?_ }
  · rw [vwap, hseries, Option.map_map]
    rfl
  · rw [vwapBands, hseries, h, ← select_maskBy]
    cases maskBy exchange.date candles with
    | none => rfl
    | some mask => rfl

/-- No bar is before midnight where the exchange opens after it. -/
theorem not_beforeMidnight {b : Bar} (hopen : exchange.opens ≤ exchange.timeOfDay b)
    (hoffset : exchange.offset b.time ≤ exchange.opens) : ¬BeforeMidnight exchange b :=
  not_lt.mpr (hoffset.trans hopen)

end Sessions

/-- The indicators are those of the current session exactly if each bar is on the same side of UTC
midnight as the last one. -/
theorem wholeSession_iff (sqrt : ℚ → ℚ) (exchange : Exchange) (candles : List Bar) :
    WholeSession sqrt exchange candles ↔
      ∀ last ∈ candles.getLast?, ∀ b ∈ candles, SameSide exchange b last := by
  have hmask : currentSessionMask candles = maskBy exchange.date candles ↔
      ∀ last ∈ candles.getLast?, ∀ b ∈ candles, SameSide exchange b last := by
    rw [currentSessionMask, maskBy, maskBy]
    cases hlast : candles.getLast? with
    | none => simp
    | some last =>
        simp only [Option.map_some, Option.some.injEq, List.map_inj_left, decide_eq_decide,
          sameSide_iff, Option.mem_some_iff, forall_eq']
  constructor
  · intro h
    exact hmask.mp h.mask
  · intro h
    exact wholeSession_of_mask sqrt (hmask.mpr h)

/-- No session is cut where the bars are from trading hours and the exchange opens after UTC
midnight. That is always so on the NSE, and in Sydney in standard time. -/
theorem wholeSession_of_hours (sqrt : ℚ → ℚ) {exchange : Exchange} {candles : List Bar}
    (hopen : ∀ b ∈ candles, exchange.opens ≤ exchange.timeOfDay b)
    (hoffset : ∀ b ∈ candles, exchange.offset b.time ≤ exchange.opens) :
    WholeSession sqrt exchange candles := by
  rw [wholeSession_iff]
  intro last hlast b hb
  have hlast' : last ∈ candles := List.mem_of_getLast? hlast
  have h₁ : ¬BeforeMidnight exchange b := not_beforeMidnight (hopen b hb) (hoffset b hb)
  have h₂ : ¬BeforeMidnight exchange last :=
    not_beforeMidnight (hopen last hlast') (hoffset last hlast')
  refine { sameDay := ?_, dayBefore := ?_, dayAfter := ?_ }
  · intro _
    exact iff_of_false h₁ h₂
  · intro _ h
    exact absurd h h₂
  · intro _ h
    exact absurd h h₁

/-- The sessions of the NSE are never cut. -/
theorem wholeSession_nse (sqrt : ℚ → ℚ) {candles : List Bar}
    (hopen : ∀ b ∈ candles, Exchange.nse.opens ≤ Exchange.nse.timeOfDay b) :
    WholeSession sqrt .nse candles :=
  wholeSession_of_hours sqrt hopen fun _ _ => by norm_num [Exchange.offset, Exchange.opens]

/-- 16 January 2024 in Sydney: the first bar, of ten o'clock, has the UTC date of the day before. -/
def openingBars : List Bar :=
  [⟨1705359600000000, 101, 99, 100, 1000⟩, ⟨1705363200000000, 103, 101, 102, 1000⟩]

theorem opening_hour_is_cut :
    ¬ ∀ (sqrt : ℚ → ℚ) (exchange : Exchange) (candles : List Bar),
      (∀ b ∈ candles, exchange.opens ≤ exchange.timeOfDay b) →
        WholeSession sqrt exchange candles := by
  intro h
  have hmask := (h id (.asx fun _ => true) openingBars (by decide)).mask
  revert hmask
  decide

end Intraday.Indicators
