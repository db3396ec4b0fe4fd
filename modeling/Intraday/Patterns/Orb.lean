import Intraday.Lib.Clock
import Intraday.Lib.Traverse
import Intraday.Patterns.Models

/-!
# Intraday.Patterns.Orb — `detect_orb` of `shared/patterns/orb.py`

The opening range is made of the candles of the last day up to the cutoff, and the breakout is
the first later close outside it. The state is computed from the whole list each time; candles
that come later are after the cutoff, once a candle has been, so they change neither.
-/

namespace Intraday.Patterns

open Intraday.Lib Intraday.Lib.Raise

/-! ## The detector -/

/-- `min` of times, the first of equal ones. -/
def minTime : PyDateTime → List PyDateTime → Except Exc PyDateTime
  | best, [] => .ok best
  | best, t :: times => do
      let less ← t.lt best
      minTime (if less then t else best) times

/-- `session_open.replace(tzinfo=timezone.utc)` of a naive time. -/
def assumeUtc (t : PyDateTime) : PyDateTime :=
  { wall := t.wall, utcoffset := some (t.utcoffset.getD 0), range := t.range }

/-- `inferred_open <= c.time <= orb_cutoff`. -/
def inRange (inferredOpen cutoff : PyDateTime) (c : OHLCVCandle) : Except Exc Bool := do
  if ← c.time.ge inferredOpen then cutoff.ge c.time else pure false

/-- `c.time > orb_cutoff`. -/
def afterCutoff (cutoff : PyDateTime) (c : OHLCVCandle) : Except Exc Bool := cutoff.lt c.time

/-- The direction and the price, if the close of a candle is outside the range. -/
def breakout (orbHigh orbLow : ℚ) (c : OHLCVCandle) : Option (ℤ × ℚ) :=
  if orbHigh < c.close then some (1, c.close)
  else if c.close < orbLow then some (-1, c.close)
  else none

/-- The state of a range and of the candles after it; without a candle in the range there is no
maximum. -/
def orbState (inferredOpen : PyDateTime) (orb post : List OHLCVCandle) : ORBState :=
  match (orb.map (·.high)).max?, (orb.map (·.low)).min? with
  | some orbHigh, some orbLow =>
      let hit := post.findSome? (breakout orbHigh orbLow)
      { orbHigh := orbHigh
        orbLow := orbLow
        orbRange := orbHigh - orbLow
        sessionOpen := inferredOpen
        rangeFormed := true
        breakoutDirection := hit.map Prod.fst
        breakoutPrice := hit.map Prod.snd }
  | _, _ =>
      { orbHigh := 0
        orbLow := 0
        orbRange := 0
        sessionOpen := inferredOpen
        rangeFormed := false
        breakoutDirection := none
        breakoutPrice := none }

/-- The candles of the last day. -/
def sessionCandles (candles : List OHLCVCandle) : List OHLCVCandle :=
  match candles.getLast? with
  | some last => candles.filter fun c => c.time.ordinal = last.time.ordinal
  | none => []

/-- `inferred_open`, for a session that begins with `first`. -/
def openTime (sessionOpen : Option PyDateTime) (first : OHLCVCandle) (rest : List OHLCVCandle) :
    Except Exc PyDateTime :=
  match sessionOpen with
  | some t => .ok (assumeUtc t)
  | none => minTime first.time (rest.map (·.time))

/-- `detect_orb`. -/
def detectOrb (candles : List OHLCVCandle) (openingRangeMinutes : ℤ)
    (sessionOpen : Option PyDateTime) : Except Exc (Option ORBState) :=
  match sessionCandles candles with
  | [] => .ok none
  | first :: rest => do
      let inferredOpen ← openTime sessionOpen first rest
      let cutoff ← inferredOpen.add (minutes openingRangeMinutes)
      let orb ← filterExcept (inRange inferredOpen cutoff) (first :: rest)
      let post ← filterExcept (afterCutoff cutoff) (first :: rest)
      pure (some (orbState inferredOpen orb post))

/-! ## Times of one session -/

/-- Candles of one day, the oldest first. -/
structure SameDay (candles : List OHLCVCandle) : Prop where
  day : ∀ c ∈ candles, ∀ d ∈ candles, c.time.ordinal = d.time.ordinal
  sorted : candles.Pairwise fun c d => d.time.ge c.time = .ok true

theorem SameDay.sessionCandles {candles : List OHLCVCandle} (h : SameDay candles) :
    sessionCandles candles = candles := by
  unfold Patterns.sessionCandles
  cases hlast : candles.getLast? with
  | none => exact (List.getLast?_eq_none_iff.mp hlast).symm
  | some last =>
      rw [List.filter_eq_self]
      intro c hc
      exact decide_eq_true (h.day c hc last (List.mem_of_getLast? hlast))

theorem SameDay.left {candles later : List OHLCVCandle} (h : SameDay (candles ++ later)) :
    SameDay candles where
  day c hc d hd := h.day c (List.mem_append_left _ hc) d (List.mem_append_left _ hd)
  sorted := (List.pairwise_append.mp h.sorted).1

/-- Of sorted times the first is the minimum. -/
theorem minTime_eq {best : PyDateTime} {times : List PyDateTime}
    (h : ∀ t ∈ times, t.ge best = .ok true) : minTime best times = .ok best := by
  induction times with
  | nil => rfl
  | cons t times ih =>
      have ht := h t List.mem_cons_self
      have hconsistent := PyDateTime.consistent_of_ge ht
      have hle : ¬ t.instant < best.instant := by
        rw [PyDateTime.ge_eq hconsistent] at ht
        exact not_lt.mpr (of_decide_eq_true (Except.ok.inj ht))
      rw [minTime, PyDateTime.lt_eq hconsistent, decide_eq_false hle, ok_bind]
      exact ih fun u hu => h u (List.mem_cons_of_mem _ hu)

theorem openTime_eq {sessionOpen : Option PyDateTime} {first : OHLCVCandle}
    {rest : List OHLCVCandle} (h : SameDay (first :: rest)) :
    openTime sessionOpen first rest = .ok ((sessionOpen.map assumeUtc).getD first.time) := by
  cases sessionOpen with
  | some t => rfl
  | none =>
      apply minTime_eq
      intro t ht
      rcases List.mem_map.mp ht with ⟨c, hc, rfl⟩
      exact (List.pairwise_cons.mp h.sorted).1 c hc

/-! ## The state of a session -/

/-- A candle inside the opening range, by its moment. -/
def inside (inferredOpen cutoff : ℤ) (c : OHLCVCandle) : Bool :=
  decide (inferredOpen ≤ c.time.instant) && decide (c.time.instant ≤ cutoff)

/-- A candle after the opening range. -/
def past (cutoff : ℤ) (c : OHLCVCandle) : Bool := decide (cutoff < c.time.instant)

/-- A state reported for a session is that of its candles inside and after the range, and all its
times are as aware as the open. -/
theorem exists_cutoff {first : OHLCVCandle} {rest : List OHLCVCandle} {n : ℤ}
    {sessionOpen : Option PyDateTime} {st : Option ORBState} (hday : SameDay (first :: rest))
    (h : detectOrb (first :: rest) n sessionOpen = .ok st) :
    ∃ cutoff, ((sessionOpen.map assumeUtc).getD first.time).add (minutes n) = .ok cutoff ∧
      ∀ c ∈ first :: rest, c.time.Consistent ((sessionOpen.map assumeUtc).getD first.time) := by
  rw [detectOrb, hday.sessionCandles] at h
  simp only [openTime_eq hday, ok_bind, bind_eq_ok] at h
  rcases h with ⟨cutoff, hcutoff, orb, -, post, hpost, -⟩
  refine ⟨cutoff, hcutoff, ?_⟩
  intro c hc
  rcases exists_of_filterExcept hpost c hc with ⟨keep, hkeep⟩
  have hconsistent : cutoff.Consistent c.time := PyDateTime.consistent_of_lt hkeep
  rw [PyDateTime.Consistent] at hconsistent ⊢
  rw [← hconsistent, (PyDateTime.add_eq_ok hcutoff).1]

theorem detectOrb_eq {first : OHLCVCandle} {rest : List OHLCVCandle} {n : ℤ}
    {sessionOpen : Option PyDateTime} {cutoff : PyDateTime} (hday : SameDay (first :: rest))
    (hcutoff : ((sessionOpen.map assumeUtc).getD first.time).add (minutes n) = .ok cutoff)
    (hconsistent : ∀ c ∈ first :: rest,
      c.time.Consistent ((sessionOpen.map assumeUtc).getD first.time)) :
    detectOrb (first :: rest) n sessionOpen =
      .ok (some (orbState ((sessionOpen.map assumeUtc).getD first.time)
        ((first :: rest).filter (inside ((sessionOpen.map assumeUtc).getD first.time).instant
          cutoff.instant))
        ((first :: rest).filter (past cutoff.instant)))) := by
  generalize hopen : (sessionOpen.map assumeUtc).getD first.time = inferredOpen at *
  have hcut : ∀ c ∈ first :: rest, cutoff.Consistent c.time := by
    intro c hc
    rw [PyDateTime.Consistent, (PyDateTime.add_eq_ok hcutoff).1]
    exact (hconsistent c hc).symm
  have hinside : ∀ c ∈ first :: rest, inRange inferredOpen cutoff c =
      .ok (inside inferredOpen.instant cutoff.instant c) := by
    intro c hc
    rw [inRange, PyDateTime.ge_eq (hconsistent c hc), ok_bind, inside]
    by_cases hstart : inferredOpen.instant ≤ c.time.instant
    · rw [decide_eq_true hstart, if_pos rfl, PyDateTime.ge_eq (hcut c hc), Bool.true_and]
    · rw [decide_eq_false hstart, Bool.false_and]
      rfl
  have hpast : ∀ c ∈ first :: rest, afterCutoff cutoff c = .ok (past cutoff.instant c) := by
    intro c hc
    exact PyDateTime.lt_eq (hcut c hc)
  rw [detectOrb, hday.sessionCandles]
  simp only [openTime_eq hday, hopen, hcutoff, filterExcept_ok hinside, filterExcept_ok hpast,
    ok_bind]
  rfl

theorem sessionOpen_orbState (inferredOpen : PyDateTime) (orb post : List OHLCVCandle) :
    (orbState inferredOpen orb post).sessionOpen = inferredOpen := by
  unfold orbState
  split <;> rfl

/-- A breakout has been seen on a candle after the cutoff, and more candles do not change it. -/
theorem orbState_append {inferredOpen : PyDateTime} {orb post : List OHLCVCandle}
    (h : (orbState inferredOpen orb post).breakoutDirection.isSome = true) :
    post ≠ [] ∧
      ∀ more, orbState inferredOpen orb (post ++ more) = orbState inferredOpen orb post := by
  unfold orbState at h ⊢
  cases hhigh : (orb.map (·.high)).max? with
  | none =>
      simp only [hhigh] at h
      cases h
  | some orbHigh =>
      cases hlow : (orb.map (·.low)).min? with
      | none =>
          simp only [hhigh, hlow] at h
          cases h
      | some orbLow =>
          simp only [hhigh, hlow, Option.isSome_map] at h ⊢
          rcases Option.isSome_iff_exists.mp h with ⟨hit, hhit⟩
          refine ⟨?_, ?_⟩
          · intro hnil
            rw [hnil] at hhit
            cases hhit
          · intro more
            rw [List.findSome?_append, hhit, Option.some_or]

/-- What a reported breakout says: the range spans the extremes of the candles inside it, and the
first close outside it, after the range, is the breakout. -/
structure ReportsBreakout (openingRangeMinutes : ℤ) (candles : List OHLCVCandle) (st : ORBState) :
    Prop where
  high_mem : ∃ c ∈ candles, c.high = st.orbHigh ∧ inside st.sessionOpen.instant
    (st.sessionOpen.instant + minutes openingRangeMinutes) c = true
  high_max : ∀ c ∈ candles, inside st.sessionOpen.instant
    (st.sessionOpen.instant + minutes openingRangeMinutes) c = true → c.high ≤ st.orbHigh
  low_mem : ∃ c ∈ candles, c.low = st.orbLow ∧ inside st.sessionOpen.instant
    (st.sessionOpen.instant + minutes openingRangeMinutes) c = true
  low_min : ∀ c ∈ candles, inside st.sessionOpen.instant
    (st.sessionOpen.instant + minutes openingRangeMinutes) c = true → st.orbLow ≤ c.low
  range : st.orbRange = st.orbHigh - st.orbLow
  first : ∃ before c after, candles = before ++ c :: after ∧
    past (st.sessionOpen.instant + minutes openingRangeMinutes) c = true ∧
    st.breakoutPrice = some c.close ∧
    (st.breakoutDirection = some 1 ∧ st.orbHigh < c.close ∨
      st.breakoutDirection = some (-1) ∧ c.close < st.orbLow) ∧
    ∀ d ∈ before, past (st.sessionOpen.instant + minutes openingRangeMinutes) d = true →
      st.orbLow ≤ d.close ∧ d.close ≤ st.orbHigh

/-- The first hit among the candles that pass a test. -/
theorem findSome?_filter_eq_some {p : OHLCVCandle → Bool} {f : OHLCVCandle → Option (ℤ × ℚ)}
    {candles : List OHLCVCandle} {hit : ℤ × ℚ}
    (h : (candles.filter p).findSome? f = some hit) :
    ∃ before c after, candles = before ++ c :: after ∧ p c = true ∧ f c = some hit ∧
      ∀ d ∈ before, p d = true → f d = none := by
  induction candles with
  | nil => cases h
  | cons c candles ih =>
      cases hp : p c with
      | false =>
          rw [List.filter_cons_of_neg (by rw [hp]; exact Bool.false_ne_true)] at h
          rcases ih h with ⟨before, e, after, rfl, he, hhit, hnone⟩
          refine ⟨c :: before, e, after, rfl, he, hhit, ?_⟩
          intro d hd hpd
          rcases List.mem_cons.mp hd with rfl | hlater
          · rw [hp] at hpd
            cases hpd
          · exact hnone d hlater hpd
      | true =>
          rw [List.filter_cons_of_pos hp, List.findSome?_cons] at h
          cases hf : f c with
          | some hit' =>
              rw [hf] at h
              rcases Option.some.inj h with rfl
              refine ⟨[], c, candles, rfl, hp, hf, ?_⟩
              intro d hd
              cases hd
          | none =>
              rw [hf] at h
              rcases ih h with ⟨before, e, after, rfl, he, hhit, hnone⟩
              refine ⟨c :: before, e, after, rfl, he, hhit, ?_⟩
              intro d hd hpd
              rcases List.mem_cons.mp hd with rfl | hlater
              · exact hf
              · exact hnone d hlater hpd

theorem breakout_eq_none {orbHigh orbLow : ℚ} {c : OHLCVCandle}
    (h : breakout orbHigh orbLow c = none) : orbLow ≤ c.close ∧ c.close ≤ orbHigh := by
  unfold breakout at h
  split_ifs at h with habove hbelow
  exact ⟨not_lt.mp hbelow, not_lt.mp habove⟩

theorem breakout_eq_some {orbHigh orbLow price : ℚ} {direction : ℤ} {c : OHLCVCandle}
    (h : breakout orbHigh orbLow c = some (direction, price)) :
    price = c.close ∧ (direction = 1 ∧ orbHigh < c.close ∨ direction = -1 ∧ c.close < orbLow) := by
  unfold breakout at h
  split_ifs at h with habove hbelow
  · rcases Prod.mk.inj (Option.some.inj h) with ⟨rfl, rfl⟩
    exact ⟨rfl, Or.inl ⟨rfl, habove⟩⟩
  · rcases Prod.mk.inj (Option.some.inj h) with ⟨rfl, rfl⟩
    exact ⟨rfl, Or.inr ⟨rfl, hbelow⟩⟩

/-- The state of a range with a breakout, in terms of the candles of the session. -/
theorem reportsBreakout_orbState {inferredOpen : PyDateTime} {n : ℤ} {candles : List OHLCVCandle}
    (h : (orbState inferredOpen
      (candles.filter (inside inferredOpen.instant (inferredOpen.instant + minutes n)))
      (candles.filter (past (inferredOpen.instant + minutes n)))).breakoutDirection.isSome = true) :
    ReportsBreakout n candles (orbState inferredOpen
      (candles.filter (inside inferredOpen.instant (inferredOpen.instant + minutes n)))
      (candles.filter (past (inferredOpen.instant + minutes n)))) := by
  generalize hcutoff : inferredOpen.instant + minutes n = cutoff at *
  cases hhigh : ((candles.filter (inside inferredOpen.instant cutoff)).map (·.high)).max? with
  | none =>
      simp only [orbState, hhigh] at h
      cases h
  | some orbHigh =>
  cases hlow : ((candles.filter (inside inferredOpen.instant cutoff)).map (·.low)).min? with
  | none =>
      simp only [orbState, hhigh, hlow] at h
      cases h
  | some orbLow =>
  simp only [orbState, hhigh, hlow, Option.isSome_map] at h ⊢
  rcases Option.isSome_iff_exists.mp h with ⟨⟨direction, price⟩, hhit⟩
  rcases List.max?_eq_some_iff.mp hhigh with ⟨hhighMem, hhighMax⟩
  rcases List.min?_eq_some_iff.mp hlow with ⟨hlowMem, hlowMin⟩
  rcases findSome?_filter_eq_some hhit with ⟨before, c, after, hsplit, hpast, hbreak, hbefore⟩
  rcases breakout_eq_some hbreak with ⟨rfl, hside⟩
  refine { high_mem := ?_, high_max := ?_, low_mem := ?_, low_min := ?_, range := rfl, first := ?_ }
  · rcases List.mem_map.mp hhighMem with ⟨d, hd, hdhigh⟩
    rw [hcutoff]
    exact ⟨d, (List.mem_filter.mp hd).1, hdhigh, (List.mem_filter.mp hd).2⟩
  · intro d hd hinside
    rw [hcutoff] at hinside
    exact hhighMax _ (List.mem_map.mpr ⟨d, List.mem_filter.mpr ⟨hd, hinside⟩, rfl⟩)
  · rcases List.mem_map.mp hlowMem with ⟨d, hd, hdlow⟩
    rw [hcutoff]
    exact ⟨d, (List.mem_filter.mp hd).1, hdlow, (List.mem_filter.mp hd).2⟩
  · intro d hd hinside
    rw [hcutoff] at hinside
    exact hlowMin _ (List.mem_map.mpr ⟨d, List.mem_filter.mpr ⟨hd, hinside⟩, rfl⟩)
  · rw [hcutoff]
    refine ⟨before, c, after, hsplit, hpast, ?_, ?_, ?_⟩
    · rw [hhit]
      rfl
    · rw [hhit]
      rcases hside with ⟨rfl, habove⟩ | ⟨rfl, hbelow⟩
      · exact Or.inl ⟨rfl, habove⟩
      · exact Or.inr ⟨rfl, hbelow⟩
    · intro d hd hdpast
      exact breakout_eq_none (hbefore d hd hdpast)

/-- Once a breakout is reported the state stays as it is, whatever candles of the day follow; the
range begins at the open that was given, or with the first candle. -/
theorem detectOrb_never_repaints {candles later : List OHLCVCandle} {n : ℤ}
    {sessionOpen : Option PyDateTime} {st : ORBState} (hday : SameDay (candles ++ later))
    (h : detectOrb candles n sessionOpen = .ok (some st))
    (hbreakout : st.breakoutDirection.isSome = true) :
    detectOrb (candles ++ later) n sessionOpen = .ok (some st) ∧
      ReportsBreakout n candles st ∧
      ∀ first ∈ candles.head?, st.sessionOpen = (sessionOpen.map assumeUtc).getD first.time := by
  cases candles with
  | nil => cases h
  | cons first rest =>
  rcases exists_cutoff hday.left h with ⟨cutoff, hcutoff, hconsistent⟩
  have hstate := detectOrb_eq hday.left hcutoff hconsistent
  rw [h] at hstate
  have hst := Option.some.inj (Except.ok.inj hstate)
  have hinstant := (PyDateTime.add_eq_ok hcutoff).2
  generalize hopen : (sessionOpen.map assumeUtc).getD first.time = inferredOpen at *
  -- the later candles follow the first one, so their times can be compared with the open
  have hlater : ∀ d ∈ later, d.time.Consistent inferredOpen := by
    intro d hd
    have hge := (List.pairwise_append.mp hday.sorted).2.2 first List.mem_cons_self d hd
    exact (PyDateTime.consistent_of_ge hge).trans (hconsistent first List.mem_cons_self)
  have hall : ∀ c ∈ first :: (rest ++ later), c.time.Consistent inferredOpen := by
    intro c hc
    rcases List.mem_append.mp (List.cons_append ▸ hc : c ∈ (first :: rest) ++ later) with hc | hc
    · exact hconsistent c hc
    · exact hlater c hc
  rw [hst] at hbreakout
  rcases orbState_append hbreakout with ⟨hne, hmore⟩
  -- a candle of the list is past the cutoff, and so are those that follow
  rcases List.exists_mem_of_ne_nil _ hne with ⟨p, hp⟩
  rcases List.mem_filter.mp hp with ⟨hpmem, hppast⟩
  have hoff : ∀ d ∈ later, inside inferredOpen.instant cutoff.instant d = false := by
    intro d hd
    have hge := (List.pairwise_append.mp hday.sorted).2.2 p hpmem d hd
    rw [PyDateTime.ge_eq (PyDateTime.consistent_of_ge hge)] at hge
    have hle : p.time.instant ≤ d.time.instant := of_decide_eq_true (Except.ok.inj hge)
    have hpcutoff : cutoff.instant < p.time.instant := of_decide_eq_true hppast
    rw [inside, decide_eq_false (not_le.mpr (hpcutoff.trans_le hle)), Bool.and_false]
  have hnone : later.filter (inside inferredOpen.instant cutoff.instant) = [] := by
    rw [List.filter_eq_nil_iff]
    intro d hd
    rw [hoff d hd]
    exact Bool.false_ne_true
  refine ⟨?_, ?_, ?_⟩
  · rw [List.cons_append] at hday ⊢
    rw [detectOrb_eq hday (by rw [hopen]; exact hcutoff) (by rw [hopen]; exact hall), hopen,
      ← List.cons_append, List.filter_append, List.filter_append, hnone, List.append_nil, hmore,
      hst]
  · rw [hst]
    rw [hinstant] at hbreakout ⊢
    exact reportsBreakout_orbState hbreakout
  · intro first' hfirst
    rcases Option.some.inj hfirst with rfl
    rw [hopen, hst]
    exact sessionOpen_orbState _ _ _

/-- A candle at a minute of 15 January 2024, UTC. -/
def barAt (minute : ℕ) (h : minute < 1440) (price : ℚ) : OHLCVCandle where
  time :=
    { wall := 738899 * 86400000000 + minute * 60000000
      utcoffset := some 0
      range := by
        unfold maxWall
        omega }
  symbol := "EXAMPLE"
  exchange := "NSE"
  openPrice := price
  high := price
  low := price
  close := price
  volume := 1

/-- A candle of the range at 100, a breakout at 105, and a later fall to 90. -/
theorem detectOrb_never_repaints_example :
    ∃ st, detectOrb ([barAt 225 (by decide) 100, barAt 245 (by decide) 105] ++
        [barAt 250 (by decide) 90]) 15 none = .ok (some st) ∧
      ReportsBreakout 15 [barAt 225 (by decide) 100, barAt 245 (by decide) 105] st ∧
      ∀ first ∈ [barAt 225 (by decide) 100, barAt 245 (by decide) 105].head?,
        st.sessionOpen = ((none : Option PyDateTime).map assumeUtc).getD first.time := by
  refine ⟨{ orbHigh := 100, orbLow := 100, orbRange := 0,
            sessionOpen := (barAt 225 (by decide) 100).time, rangeFormed := true,
            breakoutDirection := some 1, breakoutPrice := some 105 }, ?_⟩
  refine detectOrb_never_repaints ⟨?_, ?_⟩ ?_ rfl
  · decide +kernel
  · decide +kernel
  · decide +kernel

end Intraday.Patterns
