import Intraday.Lib.FloatOrder
import Intraday.Lib.Ranking
import Intraday.Universe.Filter

/-!
# Intraday.Universe.TopN — what the filter keeps of the instruments

The filter returns the best of the eligible instruments, whatever exchanges they are of: none that
is left out has a higher score than one that is returned, and if no two have the same score the
order of the instruments does not matter (`filterInstruments_topN`).
-/

namespace Intraday.Universe

open Intraday.Core Intraday.Lib
open Intraday.Risk (MarketRegime)

/-! ## Instruments of all exchanges -/

/-- `run_universe_filter` on any instruments, with the other arguments of a run. -/
def filterInstruments (upper : String → String) (scoring : Scoring) (run : FilterRun)
    (instruments : List Instrument) : List WatchlistEntry :=
  if run.regime = .highVolChaos then []
  else (rankEntries (instruments.filterMap (scoreInstrument upper scoring run))).take run.topN

/-- On the instruments of the run itself it is the filter of the run. -/
theorem filterInstruments_self (upper : String → String) (scoring : Scoring) (run : FilterRun) :
    filterInstruments upper scoring run run.instruments = runUniverseFilter upper scoring run := rfl

/-- An entry before it is ranked. -/
def WatchlistEntry.unranked (e : WatchlistEntry) : WatchlistEntry := { e with rank := 0 }

/-- The score of `b` is at most that of `a`. -/
def atLeast (a b : WatchlistEntry) : Bool := PyFloat.le b.compositeScore a.compositeScore

/-- The symbols of the four lists. -/
def ComplianceExclusionList.symbols (l : ComplianceExclusionList) : List String :=
  l.asmSymbols ++ l.esmSymbols ++ l.banSymbols ++ l.mwplExceededSymbols

/-- What is to be returned for the entries of the eligible instruments. -/
structure TopN (upper : String → String) (exclusionList : ComplianceExclusionList) (topN : ℕ)
    (eligible result : List WatchlistEntry) : Prop where
  length : result.length ≤ topN
  ranks : ∀ (i : ℕ) e, result[i]? = some e → e.rank = i + 1
  sorted : result.Pairwise fun a b => atLeast a b = true
  notExcluded : ∀ e ∈ result, ∀ symbol, upper symbol = upper e.symbol →
    exclusionList.isExcluded upper symbol = false
  /-- the symbols of the lists are in upper case, as the class says -/
  notListed : (∀ symbol ∈ exclusionList.symbols, upper symbol = symbol) →
    ∀ e ∈ result, ∀ symbol ∈ exclusionList.symbols, upper symbol ≠ upper e.symbol
  own : ∀ e ∈ result, e.unranked ∈ eligible
  best : ∃ rest, eligible.Perm (result.map WatchlistEntry.unranked ++ rest) ∧
    (∀ e ∈ result, ∀ other ∈ rest, atLeast e other = true) ∧ (result.length = topN ∨ rest = [])

/-! ## Ranking -/

section Ranking

variable {entries : List WatchlistEntry}

/-- Before the ranks are given. -/
def sortEntries (entries : List WatchlistEntry) : List WatchlistEntry := entries.mergeSort atLeast

theorem rankEntries_eq (entries : List WatchlistEntry) :
    rankEntries entries =
      (sortEntries entries).mapIdx fun idx e => { e with rank := idx + 1 } := rfl

/-- Scores that are numbers are sorted. -/
theorem pairwise_sortEntries (h : ∀ e ∈ entries, e.compositeScore ≠ .nan) :
    (sortEntries entries).Pairwise fun a b => atLeast a b = true := by
  refine pairwise_mergeSort_of_total_on ?_ ?_ h
  · intro a b c hab hbc
    exact PyFloat.le_of_le_of_le hbc hab
  · intro a b ha hb
    exact PyFloat.le_total_of_ne_nan hb ha

theorem sortEntries_perm (entries : List WatchlistEntry) : (sortEntries entries).Perm entries :=
  List.mergeSort_perm _ _

/-- Of entries with different scores the order does not matter. -/
theorem sortEntries_congr {entries' : List WatchlistEntry} (hperm : entries'.Perm entries)
    (h : ∀ e ∈ entries, e.compositeScore ≠ .nan)
    (hdistinct : entries.Pairwise fun a b => ¬ (atLeast a b = true ∧ atLeast b a = true)) :
    sortEntries entries' = sortEntries entries := by
  have hsame : (sortEntries entries).Perm (sortEntries entries') :=
    (sortEntries_perm entries).trans (hperm.symm.trans (sortEntries_perm entries').symm)
  have h' : ∀ e ∈ entries', e.compositeScore ≠ .nan := fun e he => h e (hperm.mem_iff.mp he)
  refine (eq_of_perm_of_distinct hsame (pairwise_sortEntries h) (pairwise_sortEntries h') ?_).symm
  refine (sortEntries_perm entries).symm.pairwise hdistinct ?_
  exact fun hboth hsymm => hboth hsymm.symm

/-- Without the ranks, ranking only sorts. -/
theorem map_unranked_rankEntries (hzero : ∀ e ∈ entries, e.rank = 0) :
    (rankEntries entries).map WatchlistEntry.unranked = sortEntries entries := by
  apply List.ext_getElem
  · rw [List.length_map, rankEntries_eq, List.length_mapIdx]
  · intro i hi hi'
    have hrank : (sortEntries entries)[i].rank = 0 :=
      hzero _ ((sortEntries_perm entries).mem_iff.mp (List.getElem_mem hi'))
    simp only [rankEntries_eq, List.getElem_map, List.getElem_mapIdx, WatchlistEntry.unranked]
    rw [← hrank]

end Ranking

/-! ## Eligible instruments -/

section Eligible

variable {upper : String → String} {scoring : Scoring} {run : FilterRun} {e : WatchlistEntry}

/-- The entry of an instrument is not excluded, and has no rank yet. -/
theorem of_scoreInstrument {instrument : Instrument}
    (h : scoreInstrument upper scoring run instrument = some e) :
    run.exclusionList.isExcluded upper e.symbol = false ∧ e.rank = 0 := by
  unfold scoreInstrument at h
  split at h
  · cases h
  · rename_i hallowed
    split at h
    · cases h
    · split at h
      · cases h
      · rw [← Option.some.inj h]
        exact ⟨Bool.eq_false_iff.mpr hallowed, rfl⟩

/-- An exclusion is a matter of the symbol in upper case. -/
theorem isExcluded_congr {l : ComplianceExclusionList} {symbol other : String}
    (h : upper symbol = upper other) : l.isExcluded upper symbol = l.isExcluded upper other := by
  unfold ComplianceExclusionList.isExcluded
  rw [h]

/-- A listed symbol in upper case is excluded. -/
theorem isExcluded_of_mem {l : ComplianceExclusionList} {symbol : String} (h : symbol ∈ l.symbols)
    (hupper : upper symbol = symbol) : l.isExcluded upper symbol = true := by
  unfold ComplianceExclusionList.isExcluded
  rw [hupper, decide_eq_true_eq]
  simpa [ComplianceExclusionList.symbols, or_assoc] using h

end Eligible

/-! ## The filter -/

/-- The first of the ranked entries are the top of the eligible ones. -/
theorem topN_rankEntries {upper : String → String} {exclusionList : ComplianceExclusionList}
    {eligible : List WatchlistEntry} (hscores : ∀ e ∈ eligible, e.compositeScore ≠ .nan)
    (heligible : ∀ e ∈ eligible,
      exclusionList.isExcluded upper e.symbol = false ∧ e.rank = 0) (topN : ℕ) :
    TopN upper exclusionList topN eligible ((rankEntries eligible).take topN) := by
  -- without their ranks the entries are the first of the sorted list
  have hunranked : ((rankEntries eligible).take topN).map WatchlistEntry.unranked =
      (sortEntries eligible).take topN := by
    rw [List.map_take, map_unranked_rankEntries fun e he => (heligible e he).2]
  have hkept : ∀ e ∈ (rankEntries eligible).take topN,
      e.unranked ∈ (sortEntries eligible).take topN := by
    intro e he
    rw [← hunranked]
    exact List.mem_map_of_mem he
  have hown : ∀ e ∈ (rankEntries eligible).take topN, e.unranked ∈ eligible := fun e he =>
    (sortEntries_perm eligible).mem_iff.mp (List.mem_of_mem_take (hkept e he))
  have hallowed : ∀ e ∈ (rankEntries eligible).take topN,
      exclusionList.isExcluded upper e.symbol = false := fun e he => (heligible _ (hown e he)).1
  have hsorted := pairwise_sortEntries hscores
  refine
    { length := List.length_take_le _ _
      ranks := ?_
      sorted := ?_
      notExcluded := ?_
      notListed := ?_
      own := hown
      best := ⟨(sortEntries eligible).drop topN, ?_, ?_, ?_⟩ }
  · intro i e hi
    rw [List.getElem?_take, rankEntries_eq, List.getElem?_mapIdx] at hi
    split at hi
    · rcases Option.map_eq_some_iff.mp hi with ⟨_, -, rfl⟩
      rfl
    · cases hi
  · have htake := hsorted.sublist (List.take_sublist topN _)
    rw [← hunranked, List.pairwise_map] at htake
    exact htake
  · intro e he symbol hsymbol
    rw [isExcluded_congr hsymbol]
    exact hallowed e he
  · intro hupper e he symbol hsymbol hsame
    have hexcluded := isExcluded_of_mem hsymbol (hupper symbol hsymbol)
    rw [isExcluded_congr hsame, hallowed e he] at hexcluded
    cases hexcluded
  · rw [hunranked, List.take_append_drop]
    exact (sortEntries_perm eligible).symm
  · exact fun e he other hother => rel_take_drop hsorted topN _ (hkept e he) other hother
  · rcases le_total topN (sortEntries eligible).length with hle | hle
    · left
      rw [← List.length_map (f := WatchlistEntry.unranked), hunranked, List.length_take,
        min_eq_left hle]
    · right
      exact List.drop_eq_nil_of_le hle

section Filter

variable (upper : String → String) (scoring : Scoring) (run : FilterRun)
  (instruments : List Instrument)

/-- The filter returns the top of the eligible instruments, and the same for all orders of them if
no two have the same score. -/
theorem filterInstruments_topN (hregime : run.regime ≠ .highVolChaos)
    (hscores : ∀ e ∈ instruments.filterMap (scoreInstrument upper scoring run),
      e.compositeScore ≠ .nan) :
    TopN upper run.exclusionList run.topN
        (instruments.filterMap (scoreInstrument upper scoring run))
        (filterInstruments upper scoring run instruments) ∧
      ((instruments.filterMap (scoreInstrument upper scoring run)).Pairwise
          (fun a b => ¬ (atLeast a b = true ∧ atLeast b a = true)) →
        ∀ instruments', instruments'.Perm instruments →
          filterInstruments upper scoring run instruments' =
            filterInstruments upper scoring run instruments) := by
  have hfilter : ∀ list, filterInstruments upper scoring run list =
      (rankEntries (list.filterMap (scoreInstrument upper scoring run))).take run.topN :=
    fun _ => if_neg hregime
  rw [hfilter]
  have heligible : ∀ e ∈ instruments.filterMap (scoreInstrument upper scoring run),
      run.exclusionList.isExcluded upper e.symbol = false ∧ e.rank = 0 := by
    intro e he
    rcases List.mem_filterMap.mp he with ⟨instrument, -, hscore⟩
    exact of_scoreInstrument hscore
  refine ⟨topN_rankEntries hscores heligible run.topN, ?_⟩
  intro hdistinct instruments' hperm
  rw [hfilter, rankEntries_eq, rankEntries_eq,
    sortEntries_congr (hperm.filterMap _) hscores hdistinct]

end Filter

/-! ## Stocks of two exchanges -/

/-- Stocks of two exchanges, one of them in its ban period. -/
def twoExchanges : List Instrument :=
  [{ symbol := "TCS", exchange := "NSE" }, { symbol := "bhp", exchange := "ASX" },
    { symbol := "yesbank", exchange := "NSE" }]

/-- Scores by the first close. -/
def firstCloseScoring : Scoring where
  scoreStock candles _ :=
    { trendScore := candles.close.headD .zero
      volScore := .zero
      liqScore := .zero
      sentScore := .zero }
  computeComposite components _ := components.trendScore

/-- Candles that all close at one value. -/
def candlesAt (close : PyFloat) : CandleArrays where
  close := List.replicate watchlistMinCandles close

/-- The other arguments of a run over these stocks, which keeps one. -/
def twoExchangesRun : FilterRun where
  exchange := "NSE"
  instruments := []
  candlesBySymbol :=
    ((Dict.empty.set "TCS" (candlesAt .zero)).set "bhp"
      (candlesAt (.finite false { digits := 7, exp := -1, normal := by decide }))).set "yesbank"
        (candlesAt .zero)
  regime := .bullTrend
  exclusionList :=
    { asmSymbols := [], esmSymbols := [], banSymbols := ["YESBANK"], mwplExceededSymbols := [] }
  topN := 1
  now := (DateTime.ofFields 2026 7 2 3 30 0 0).get rfl
  ofExchange := by simp

/-- One of two eligible stocks is kept, from the front or from the back. -/
theorem filterInstruments_twoExchanges :
    TopN String.toUpper twoExchangesRun.exclusionList 1
        (twoExchanges.filterMap (scoreInstrument String.toUpper firstCloseScoring twoExchangesRun))
        (filterInstruments String.toUpper firstCloseScoring twoExchangesRun twoExchanges) ∧
      filterInstruments String.toUpper firstCloseScoring twoExchangesRun twoExchanges.reverse =
        filterInstruments String.toUpper firstCloseScoring twoExchangesRun twoExchanges := by
  have htop := filterInstruments_topN String.toUpper firstCloseScoring twoExchangesRun twoExchanges
    (by decide) (by decide +kernel)
  exact ⟨htop.1, htop.2 (by decide +kernel) _ (List.reverse_perm _)⟩

end Intraday.Universe
