import Intraday.Instruments.Adjustment

/-!
# Intraday.Instruments.ExDates — whose day the ex-date is compared with

`adjusted_candles` compares the ex-date with the date of the timestamp as it is stored. The
ex-date is a day of the exchange, and a timestamp in UTC has another date for a part of it:
a session of the ASX begins, in summer, on the UTC date before.
-/

namespace Intraday.Instruments

open Intraday.Lib Intraday.Lib.Raise Intraday.Patterns

/-- The day of the exchange at an aware time; a naive one is taken as the exchange's own. -/
def exchangeDay (tz : Zone) (t : PyDateTime) : ℤ :=
  match t.utcoffset with
  | some offset => (tz (t.wall - offset)).date.toOrdinal
  | none => t.ordinal

/-- A candle from before an action, adjusted by it. -/
def adjustBy (a : CorporateAction String ℚ) (c : OHLCVCandle) : OHLCVCandle :=
  match a.ratio? with
  | some r => scaled (r.denominator / r.numerator) c
  | none => c

/-- The day that is compared with the ex-date: both are before it, or none. -/
def SameSide (tz : Zone) (c : OHLCVCandle) (exDate : Date) : Prop :=
  c.time.ordinal < exDate.toOrdinal ↔ exchangeDay tz c.time < exDate.toOrdinal

instance (tz : Zone) (c : OHLCVCandle) (exDate : Date) : Decidable (SameSide tz c exDate) :=
  inferInstanceAs (Decidable (_ ↔ _))

theorem ratio?_exDate {a : CorporateAction String ℚ} {r : Ratio} (h : a.ratio? = some r) :
    r.exDate = a.args.exDate := by
  have hmem : r ∈ ratios [a] := List.mem_filterMap.mpr ⟨a, List.mem_singleton_self a, h⟩
  rcases mem_ratios hmem with ⟨b, hb, hdate⟩
  rw [hdate, List.mem_singleton.mp hb]

/-- One action, on the dates as they are stored. -/
theorem adjustedCandles_singleton (candles : List OHLCVCandle) (a : CorporateAction String ℚ) :
    adjustedCandles candles [a] =
      candles.map fun c =>
        if c.time.ordinal < (a.args.exDate.toOrdinal : ℤ) then adjustBy a c else c := by
  rw [adjustedCandles_eq]
  apply List.map_congr_left
  intro c _
  unfold adjustBy
  cases hratio : a.ratio? with
  | none =>
      rw [ratios, List.filterMap_cons_none hratio, List.filterMap_nil, ite_self]
      exact scaled_one c
  | some r =>
      have hfactor : factor (ratios [a]) c.time.ordinal =
          if c.time.ordinal < (a.args.exDate.toOrdinal : ℤ) then r.denominator / r.numerator
          else 1 := by
        rw [ratios, List.filterMap_cons_some hratio, List.filterMap_nil, factor_cons,
          ratio?_exDate hratio]
        exact mul_one _
      rw [hfactor]
      split_ifs with h
      · rfl
      · exact scaled_one c

/-- The factor by the days of the exchange is the one by the stored dates, if no ex-date
separates the two. -/
theorem factor_eq_of_sameSide {tz : Zone} {c : OHLCVCandle} {ratios : List Ratio}
    (h : ∀ r ∈ ratios, SameSide tz c r.exDate) :
    factor ratios c.time.ordinal = factor ratios (exchangeDay tz c.time) := by
  unfold factor
  congr 2
  apply List.filter_congr
  intro r hr
  exact decide_eq_decide.mpr (h r hr)

/-- Candles are adjusted by an action exactly if they are from days of the exchange before its
ex-date, as long as no candle that the action changes has the ex-date between its stored date and
its day; and then a series is adjusted by all its actions so. -/
theorem adjusted_by_exchange_day_iff (tz : Zone) (candles : List OHLCVCandle) :
    (∀ a : CorporateAction String ℚ,
      adjustedCandles candles [a] = (candles.map fun c =>
          if exchangeDay tz c.time < (a.args.exDate.toOrdinal : ℤ) then adjustBy a c else c) ↔
        ∀ c ∈ candles, adjustBy a c ≠ c → SameSide tz c a.args.exDate) ∧
    ∀ actions, (∀ c ∈ candles, ∀ r ∈ ratios actions, SameSide tz c r.exDate) →
      adjustedCandles candles actions = candles.map fun c =>
        scaled (factor (ratios actions) (exchangeDay tz c.time)) c := by
  refine ⟨?_, ?_⟩
  · intro a
    rw [adjustedCandles_singleton, List.map_inj_left]
    refine forall_congr' fun c => forall_congr' fun _ => ?_
    unfold SameSide
    constructor
    · intro h hchanges
      by_cases hstored : c.time.ordinal < (a.args.exDate.toOrdinal : ℤ)
      · rw [if_pos hstored] at h
        refine iff_of_true hstored ?_
        by_contra hday
        rw [if_neg hday] at h
        exact hchanges h
      · rw [if_neg hstored] at h
        refine iff_of_false hstored ?_
        intro hday
        rw [if_pos hday] at h
        exact hchanges h.symm
    · intro h
      by_cases hchanges : adjustBy a c = c
      · rw [hchanges, ite_self, ite_self]
      · exact if_congr (h hchanges) rfl rfl
  · intro actions h
    rw [adjustedCandles_eq]
    apply List.map_congr_left
    intro c hc
    rw [factor_eq_of_sameSide (h c hc)]

/-- 14 January 2024 at 23:00 UTC; in Sydney the session of 15 January opens. -/
def asxOpen : PyDateTime where
  wall := 738898 * 86400000000 + 23 * 3600000000
  utcoffset := some 0
  range := by decide

/-- The opening candle, in prices from after the split. -/
def asxOpenCandle : OHLCVCandle where
  time := asxOpen
  symbol := "BHP"
  exchange := "ASX"
  openPrice := 20
  high := 20
  low := 20
  close := 20
  volume := 100

/-- A split of two shares for one, effective on 15 January 2024. -/
def asxSplit : CorporateAction String ℚ where
  args :=
    { symbol := "BHP"
      exchange := "ASX"
      exDate := (Date.ofFields 2024 1 15).get rfl
      actionType := .split
      source := "MANUAL"
      ratioNumerator := some 2
      ratioDenominator := some 1 }
  checked := by decide +kernel

/-- A session that opens on the UTC date before the ex-date is adjusted again. -/
theorem utc_date_adjusts_session_of_exDate :
    ¬ ∀ (tz : Zone) (candles : List OHLCVCandle) (a : CorporateAction String ℚ),
      (∀ c ∈ candles, c.time.utcoffset.isSome = true) →
      adjustedCandles candles [a] = candles.map fun c =>
        if exchangeDay tz c.time < (a.args.exDate.toOrdinal : ℤ) then adjustBy a c else c := by
  intro h
  have hadjusted := h (fixedZone (11 * 3600000000)) [asxOpenCandle] asxSplit (by decide)
  rw [adjustedCandles_singleton] at hadjusted
  have hlocal : ¬ exchangeDay (fixedZone (11 * 3600000000)) asxOpenCandle.time <
      (asxSplit.args.exDate.toOrdinal : ℤ) := by decide +kernel
  have hstored : asxOpenCandle.time.ordinal < (asxSplit.args.exDate.toOrdinal : ℤ) := by
    decide +kernel
  simp only [List.map_cons, List.map_nil, if_neg hlocal, if_pos hstored] at hadjusted
  exact absurd hadjusted (by decide +kernel)

end Intraday.Instruments
