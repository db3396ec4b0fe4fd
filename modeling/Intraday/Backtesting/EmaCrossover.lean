import Mathlib.Data.List.Chain
import Mathlib.Data.List.Range
import Intraday.Core.Constants
import Intraday.Patterns.Models

/-!
# Intraday.Backtesting.EmaCrossover — `ema_crossover_signals` of `shared/backtesting/engine.py`

A scan over the bars enters when the fast average crosses above the slow one and exits when it
crosses below, and remembers whether it is in a trade: entries and exits alternate. The averages
of a bar depend on the bars up to it, so the flags do, too; the guard at the front, against
too few candles, cuts off no bar that has a slow average and one before it.

The averages are a parameter; `none` is the NaN of their first bars.
-/

namespace Intraday.Backtesting

open Intraday.Core
open Intraday.Patterns (OHLCVCandle)

/-! ## The averages -/

/-- `talib.EMA`: the average of a bar. -/
abbrev Ema := ℕ → List ℚ → List (Option ℚ)

/-- What is assumed of it: a value for each bar, which later bars do not change, and which is NaN
exactly on the bars of its warm-up. -/
structure IsEma (ema : Ema) : Prop where
  length : ∀ p xs, (ema p xs).length = xs.length
  causal : ∀ p xs k, ema p (xs.take k) = (ema p xs).take k
  warmUp : ∀ p xs i, i < xs.length → ((ema p xs)[i]? = some none ↔ i + 1 < p)

/-- The average of the last of some bars: the mean of the first `p`, moved towards each later one
by `2 / (p + 1)` of the way. -/
def emaValue (p : ℕ) (xs : List ℚ) : ℚ :=
  (xs.drop p).foldl (fun avg x => avg + 2 / (p + 1) * (x - avg)) ((xs.take p).sum / p)

/-- `talib.EMA`, in exact arithmetic. -/
def talibEma : Ema := fun p xs =>
  (List.range xs.length).map fun i =>
    if i + 1 < p then none else some (emaValue p (xs.take (i + 1)))

theorem isEma_talibEma : IsEma talibEma where
  length p xs := by rw [talibEma, List.length_map, List.length_range]
  causal p xs k := by
    rw [talibEma, talibEma, ← List.map_take, List.take_range, List.length_take]
    apply List.map_congr_left
    intro i hi
    -- the bars up to `i` are the same
    rw [List.mem_range] at hi
    have hbars : (xs.take k).take (i + 1) = xs.take (i + 1) := by
      rw [List.take_take]
      congr 1
      omega
    rw [hbars]
  warmUp p xs i hi := by
    rw [talibEma, List.getElem?_map, List.getElem?_range hi, Option.map_some, Option.some.injEq]
    split
    · rename_i hlt
      exact iff_of_true rfl hlt
    · rename_i hge
      exact iff_of_false (Option.some_ne_none _) hge

/-! ## The scan -/

/-- The flags of the bars scanned so far, an entry and an exit for each, and `in_trade`. -/
structure Scan where
  flags : List (Bool × Bool)
  inTrade : Bool

/-- The averages of a bar, if both are there. -/
def averagesAt (fast slow : List (Option ℚ)) (i : ℕ) : Option (ℚ × ℚ) := do
  let f ← fast.getD i none
  let s ← slow.getD i none
  return (f, s)

/-- The loop body at bar `i`. -/
def scanBar (fast slow : List (Option ℚ)) (scan : Scan) (i : ℕ) : Scan :=
  match averagesAt fast slow i, averagesAt fast slow (i - 1) with
  | some now, some before =>
      let crossUp := now.1 > now.2 ∧ before.1 ≤ before.2
      let crossDown := now.1 < now.2 ∧ before.1 ≥ before.2
      if crossUp ∧ scan.inTrade = false then
        { flags := scan.flags ++ [(true, false)], inTrade := true }
      else if crossDown ∧ scan.inTrade = true then
        { flags := scan.flags ++ [(false, true)], inTrade := false }
      else { scan with flags := scan.flags ++ [(false, false)] }
  | _, _ => { scan with flags := scan.flags ++ [(false, false)] }

/-- The scan of the bars up to `m`; the first one has no flag. -/
def scanTo (fast slow : List (Option ℚ)) (m : ℕ) : Scan :=
  (List.range' 1 m).foldl (scanBar fast slow) { flags := [(false, false)], inTrade := false }

/-- `ema_crossover_signals`. -/
def emaCrossoverSignals (ema : Ema) (candles : List OHLCVCandle)
    (fastPeriod : ℕ := emaFastPeriod) (slowPeriod : ℕ := emaSlowPeriod) : List Bool × List Bool :=
  if candles.length < slowPeriod + 1 then
    (List.replicate candles.length false, List.replicate candles.length false)
  else
    let close := candles.map OHLCVCandle.close
    let scan := scanTo (ema fastPeriod close) (ema slowPeriod close) (candles.length - 1)
    (scan.flags.map Prod.fst, scan.flags.map Prod.snd)

/-! ## One bar -/

variable {fast slow : List (Option ℚ)}

/-- What a bar does: it enters, exits, or neither. -/
theorem scanBar_cases (fast slow : List (Option ℚ)) (scan : Scan) (i : ℕ) :
    (scan.inTrade = false ∧
        scanBar fast slow scan i = { flags := scan.flags ++ [(true, false)], inTrade := true }) ∨
      (scan.inTrade = true ∧
        scanBar fast slow scan i = { flags := scan.flags ++ [(false, true)], inTrade := false }) ∨
      scanBar fast slow scan i = { scan with flags := scan.flags ++ [(false, false)] } := by
  unfold scanBar
  split
  · dsimp only
    split
    · rename_i h
      exact .inl ⟨h.2, rfl⟩
    · split
      · rename_i h
        exact .inr (.inl ⟨h.2, rfl⟩)
      · exact .inr (.inr rfl)
  · exact .inr (.inr rfl)

/-- Without averages on the bar before nothing happens. -/
theorem scanBar_of_none (scan : Scan) {i : ℕ} (h : averagesAt fast slow (i - 1) = none) :
    scanBar fast slow scan i = { scan with flags := scan.flags ++ [(false, false)] } := by
  unfold scanBar
  rw [h]
  cases averagesAt fast slow i <;> rfl

theorem scanTo_succ (m : ℕ) :
    scanTo fast slow (m + 1) = scanBar fast slow (scanTo fast slow m) (m + 1) := by
  rw [scanTo, List.range'_1_concat, List.foldl_append, List.foldl_cons, List.foldl_nil,
    Nat.add_comm 1 m]
  rfl

/-- A bar appends its flags. -/
theorem exists_flags_scanBar (fast slow : List (Option ℚ)) (scan : Scan) (i : ℕ) :
    ∃ flag, (scanBar fast slow scan i).flags = scan.flags ++ [flag] := by
  rcases scanBar_cases fast slow scan i with ⟨-, h⟩ | ⟨-, h⟩ | h
  · exact ⟨_, by rw [h]⟩
  · exact ⟨_, by rw [h]⟩
  · exact ⟨_, by rw [h]⟩

@[simp] theorem length_flags (fast slow : List (Option ℚ)) (m : ℕ) :
    (scanTo fast slow m).flags.length = m + 1 := by
  induction m with
  | zero => rfl
  | succ m ih =>
      rcases exists_flags_scanBar fast slow (scanTo fast slow m) (m + 1) with
        ⟨flag, h⟩
      rw [scanTo_succ, h, List.length_append, ih, List.length_singleton]

/-- The flags of a bar stay as they are. -/
theorem take_flags {m n : ℕ} (hle : m ≤ n) :
    (scanTo fast slow n).flags.take (m + 1) = (scanTo fast slow m).flags := by
  induction n, hle using Nat.le_induction with
  | base => rw [← length_flags fast slow m, List.take_length]
  | succ n hle ih =>
      rcases exists_flags_scanBar fast slow (scanTo fast slow n) (n + 1) with
        ⟨flag, h⟩
      rw [scanTo_succ, h, List.take_append_of_le_length, ih]
      rw [length_flags]
      omega

/-! ## Alternation -/

/-- The entries (`true`) and exits (`false`) among flags, in order. -/
def eventsOf (flags : List (Bool × Bool)) : List Bool :=
  flags.filterMap fun f => if f.1 then some true else if f.2 then some false else none

/-- The invariant of the scan: no bar has both flags; the events alternate and begin with an
entry, and the last one is an entry exactly while in a trade. -/
structure Scan.Alternates (scan : Scan) : Prop where
  apart : ∀ f ∈ scan.flags, ¬ (f.1 = true ∧ f.2 = true)
  chain : (eventsOf scan.flags).IsChain (· ≠ ·)
  head : (eventsOf scan.flags).head? ≠ some false
  last : (eventsOf scan.flags).getLast? = some true ↔ scan.inTrade = true

/-- One more event, which is not the last one again. -/
theorem alternates_append {scan : Scan} (h : scan.Alternates) {flag : Bool × Bool} {event : Bool}
    (hapart : ¬ (flag.1 = true ∧ flag.2 = true)) (hevent : eventsOf [flag] = [event])
    (hnew : event = !scan.inTrade) :
    Scan.Alternates { flags := scan.flags ++ [flag], inTrade := event } := by
  have hevents : eventsOf (scan.flags ++ [flag]) = eventsOf scan.flags ++ [event] := by
    rw [eventsOf, List.filterMap_append]
    exact congrArg _ hevent
  -- in a trade the last event is an entry; before the first trade there is none
  have hlast : ∀ e ∈ (eventsOf scan.flags).getLast?, e ≠ event := by
    intro e he
    rw [Option.mem_def] at he
    cases e with
    | true =>
        rw [hnew, h.last.mp he]
        decide
    | false =>
        have hnot : scan.inTrade ≠ true := by
          intro htrade
          rw [h.last.mpr htrade] at he
          cases he
        rw [hnew, Bool.eq_false_iff.mpr hnot]
        decide
  constructor
  · intro f hf
    rcases List.mem_append.mp hf with hf | hf
    · exact h.apart f hf
    · rw [List.mem_singleton.mp hf]
      exact hapart
  · rw [hevents, List.isChain_append]
    refine ⟨h.chain, List.isChain_singleton _, ?_⟩
    intro e he e' he'
    rw [← Option.some.inj he']
    exact hlast e he
  · rw [hevents]
    cases hlist : eventsOf scan.flags with
    | nil =>
        -- the first event is an entry
        have hnot : scan.inTrade ≠ true := by
          intro htrade
          have hsome := h.last.mpr htrade
          rw [hlist] at hsome
          cases hsome
        rw [hnew, Bool.eq_false_iff.mpr hnot]
        decide
    | cons e rest =>
        have hhead := h.head
        rw [hlist] at hhead
        exact hhead
  · rw [hevents, List.getLast?_append_of_ne_nil _ (List.cons_ne_nil _ _)]
    simp

theorem alternates_scanBar {scan : Scan} (h : scan.Alternates) (i : ℕ) :
    (scanBar fast slow scan i).Alternates := by
  rcases scanBar_cases fast slow scan i with
    ⟨htrade, heq⟩ | ⟨htrade, heq⟩ | heq
  · -- an entry without a trade
    rw [heq]
    exact alternates_append h (by decide) rfl (by rw [htrade]; rfl)
  · -- an exit from one
    rw [heq]
    exact alternates_append h (by decide) rfl (by rw [htrade]; rfl)
  · -- no event
    have hevents : eventsOf (scan.flags ++ [(false, false)]) = eventsOf scan.flags := by
      rw [eventsOf, List.filterMap_append]
      exact List.append_nil _
    rw [heq]
    constructor
    · intro f hf
      rcases List.mem_append.mp hf with hf | hf
      · exact h.apart f hf
      · rw [List.mem_singleton.mp hf]
        decide
    · rw [hevents]
      exact h.chain
    · rw [hevents]
      exact h.head
    · rw [hevents]
      exact h.last

/-- The invariant holds after every bar. -/
theorem alternates_scanTo (fast slow : List (Option ℚ)) (m : ℕ) :
    (scanTo fast slow m).Alternates := by
  induction m with
  | zero =>
      have hzero : scanTo fast slow 0 = { flags := [(false, false)], inTrade := false } := rfl
      rw [hzero]
      constructor
      · decide
      · exact List.isChain_nil
      · decide
      · decide
  | succ m ih =>
      rw [scanTo_succ]
      exact alternates_scanBar ih (m + 1)

/-! ## Causality -/

/-- Before the slow average has two values nothing happens. -/
theorem scanTo_warmUp {p m : ℕ} (hslow : ∀ i, i + 1 < p → slow.getD i none = none) (hm : m < p) :
    scanTo fast slow m =
      { flags := List.replicate (m + 1) (false, false), inTrade := false } := by
  induction m with
  | zero => rfl
  | succ m ih =>
      have hnone : averagesAt fast slow (m + 1 - 1) = none := by
        rw [averagesAt, Nat.add_sub_cancel, hslow m hm]
        cases fast.getD m none <;> rfl
      rw [scanTo_succ, ih (by omega), scanBar_of_none _ hnone,
        List.replicate_succ' (n := m + 1)]

/-- The scan reads the averages up to its bar. -/
theorem scanTo_congr {fast' slow' : List (Option ℚ)} {m : ℕ}
    (h : ∀ i, i ≤ m → fast.getD i none = fast'.getD i none ∧ slow.getD i none = slow'.getD i none) :
    scanTo fast slow m = scanTo fast' slow' m := by
  induction m with
  | zero => rfl
  | succ m ih =>
      have hat : ∀ i, i ≤ m + 1 → averagesAt fast slow i = averagesAt fast' slow' i := by
        intro i hi
        rw [averagesAt, averagesAt, (h i hi).1, (h i hi).2]
      rw [scanTo_succ, scanTo_succ, ih fun i hi => h i (by omega), scanBar, scanBar,
        hat (m + 1) le_rfl, hat (m + 1 - 1) (by omega)]

section Ema

variable {ema : Ema} (hema : IsEma ema) {p : ℕ} {xs ys : List ℚ} {i : ℕ}
include hema

theorem getD_warmUp (hi : i + 1 < p) : (ema p xs).getD i none = none := by
  rw [List.getD_eq_getElem?_getD]
  by_cases hlen : i < xs.length
  · rw [(hema.warmUp p xs i hlen).mpr hi]
    rfl
  · rw [List.getElem?_eq_none]
    · rfl
    · rw [hema.length]
      omega

/-- The averages of the first bars are those of the longer series. -/
theorem getD_append (hi : i < xs.length) :
    (ema p xs).getD i none = (ema p (xs ++ ys)).getD i none := by
  have htake : ema p xs = (ema p (xs ++ ys)).take xs.length := by
    rw [← hema.causal, List.take_left]
  rw [htake, List.getD_eq_getElem?_getD, List.getD_eq_getElem?_getD, List.getElem?_take_of_lt hi]

end Ema

/-- The flags of the bars, with their guard in front: a scan in every case. -/
theorem emaCrossoverSignals_eq {ema : Ema} (hema : IsEma ema) {candles : List OHLCVCandle}
    (hne : candles ≠ []) (fastPeriod slowPeriod : ℕ) :
    emaCrossoverSignals ema candles fastPeriod slowPeriod =
      let close := candles.map OHLCVCandle.close
      let scan := scanTo (ema fastPeriod close) (ema slowPeriod close) (candles.length - 1)
      (scan.flags.map Prod.fst, scan.flags.map Prod.snd) := by
  rw [emaCrossoverSignals]
  split
  · rename_i hfew
    have hlen : 0 < candles.length := List.length_pos_of_ne_nil hne
    have hshort : candles.length - 1 < slowPeriod ∨ candles.length - 1 = 0 := by omega
    have hwarm : ∀ i, i + 1 < slowPeriod →
        (ema slowPeriod (candles.map OHLCVCandle.close)).getD i none = none := by
      intro i hi
      exact getD_warmUp hema hi
    have hscan : scanTo (ema fastPeriod (candles.map OHLCVCandle.close))
        (ema slowPeriod (candles.map OHLCVCandle.close)) (candles.length - 1) =
          { flags := List.replicate (candles.length - 1 + 1) (false, false)
            inTrade := false } := by
      rcases hshort with hlt | hzero
      · exact scanTo_warmUp hwarm hlt
      · rw [hzero]
        rfl
    simp only [hscan, List.map_replicate, Nat.sub_add_cancel hlen]
  · rfl

theorem zip_flags (flags : List (Bool × Bool)) :
    (flags.map Prod.fst).zip (flags.map Prod.snd) = flags := by
  rw [List.zip_map']
  exact List.map_id flags

/-- The flags of the two scans agree on the bars of the shorter one. -/
theorem take_flags_append {ema : Ema} (hema : IsEma ema) {xs : List ℚ} (hne : xs ≠ [])
    (ys : List ℚ) (fastPeriod slowPeriod : ℕ) :
    (scanTo (ema fastPeriod (xs ++ ys)) (ema slowPeriod (xs ++ ys))
        ((xs ++ ys).length - 1)).flags.take xs.length =
      (scanTo (ema fastPeriod xs) (ema slowPeriod xs) (xs.length - 1)).flags := by
  have hlen : 0 < xs.length := List.length_pos_of_ne_nil hne
  have hle : xs.length - 1 ≤ (xs ++ ys).length - 1 := by
    rw [List.length_append]
    omega
  have htake : (scanTo (ema fastPeriod (xs ++ ys)) (ema slowPeriod (xs ++ ys))
      ((xs ++ ys).length - 1)).flags.take (xs.length - 1 + 1) =
        (scanTo (ema fastPeriod (xs ++ ys)) (ema slowPeriod (xs ++ ys)) (xs.length - 1)).flags :=
    take_flags hle
  rw [Nat.sub_add_cancel hlen] at htake
  rw [htake]
  congr 1
  apply scanTo_congr
  intro i hi
  have hlt : i < xs.length := by omega
  exact ⟨(getD_append hema hlt).symm, (getD_append hema hlt).symm⟩

/-- No bar has both flags; the events alternate and begin with an entry; and the flags are those
of the same bars in any longer series. -/
theorem emaCrossoverSignals_causal {ema : Ema} (hema : IsEma ema) (candles more : List OHLCVCandle)
    (fastPeriod slowPeriod : ℕ) :
    let signals := emaCrossoverSignals ema candles fastPeriod slowPeriod
    let longer := emaCrossoverSignals ema (candles ++ more) fastPeriod slowPeriod
    let events := eventsOf (signals.1.zip signals.2)
    (∀ i : ℕ, ¬ (signals.1[i]? = some true ∧ signals.2[i]? = some true)) ∧
      (events.IsChain (· ≠ ·) ∧ events.head? ≠ some false) ∧
        longer.1.take candles.length = signals.1 ∧ longer.2.take candles.length = signals.2 := by
  intro signals longer events
  by_cases hnil : candles = []
  · have hsignals : signals = ([], []) := by
      simp [signals, hnil, emaCrossoverSignals]
    have hevents : events = [] := by
      simp [events, hsignals, eventsOf]
    rw [hsignals, hevents, hnil]
    simp
  · have hmore : candles ++ more ≠ [] := by simp [hnil]
    have hsignals := emaCrossoverSignals_eq hema hnil fastPeriod slowPeriod
    have hlonger := emaCrossoverSignals_eq hema hmore fastPeriod slowPeriod
    have hclose : candles.map OHLCVCandle.close ≠ [] := by simp [hnil]
    have htake := take_flags_append hema hclose (more.map OHLCVCandle.close) fastPeriod
      slowPeriod
    rw [← List.map_append, List.length_map, List.length_map] at htake
    have halternates := alternates_scanTo (ema fastPeriod (candles.map OHLCVCandle.close))
      (ema slowPeriod (candles.map OHLCVCandle.close)) (candles.length - 1)
    simp only [signals, longer, events, hsignals, hlonger]
    refine ⟨?_, ⟨?_, ?_⟩, ?_, ?_⟩
    · intro i
      rw [List.getElem?_map, List.getElem?_map]
      rintro ⟨hentry, hexit⟩
      rw [Option.map_eq_some_iff] at hentry hexit
      rcases hentry with ⟨f, hf, hentry⟩
      rcases hexit with ⟨g, hg, hexit⟩
      rcases Option.some.inj (hf.symm.trans hg) with rfl
      exact halternates.apart f (List.mem_of_getElem? hf) ⟨hentry, hexit⟩
    · rw [zip_flags]
      exact halternates.chain
    · rw [zip_flags]
      exact halternates.head
    · rw [← List.map_take, htake]
    · rw [← List.map_take, htake]

/-- Bars of five minutes with these closes. -/
def barsOf (closes : List ℚ) : List OHLCVCandle :=
  closes.mapIdx fun i close =>
    { time :=
        { wall := 33300000000 + 300000000 * ((i % 288 : ℕ) : ℤ)
          utcoffset := some 0
          range := by unfold Intraday.Lib.Raise.maxWall; omega }
      symbol := "RELIANCE"
      exchange := "NSE"
      openPrice := close
      high := close
      low := close
      close := close
      volume := 10000 }

/-- A fall, a rise and a fall: one entry and one exit, and three bars less do not change it. -/
theorem emaCrossoverSignals_causal_rise :
    let candles := barsOf [10, 9, 8, 9, 11, 13, 12, 9, 7]
    let more := barsOf [8, 10, 12]
    emaCrossoverSignals talibEma candles 2 3 =
        ([false, false, false, false, true, false, false, false, false],
          [false, false, false, false, false, false, false, true, false]) ∧
      (emaCrossoverSignals talibEma (candles ++ more) 2 3).1.take candles.length =
        (emaCrossoverSignals talibEma candles 2 3).1 := by
  intro candles more
  have hcausal := emaCrossoverSignals_causal isEma_talibEma candles more 2 3
  exact ⟨by decide +kernel, hcausal.2.2.1⟩

end Intraday.Backtesting
