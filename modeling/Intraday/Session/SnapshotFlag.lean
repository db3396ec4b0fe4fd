import Intraday.Session.States

/-!
# Intraday.Session.SnapshotFlag — when the snapshot window counts as active

The snapshot window is documented as one interval, from its start to the close of the
market (`snapshot_window_active` of the trading state, `is_snapshot_window` of the risk
parameters). The flag is the session state, and the state changes at the square-off: from
there to the close the flag is false.
-/

namespace Intraday.Session

open Intraday.Lib

variable {lib : SessionLib} {m : SessionStateMachine} {tz : Zone} {b : Bounds}

/-- The documented window, on a day of which the calendar answered `trading`. -/
def InSnapshotWindow (b : Bounds) (start : Time) (trading : Bool) (t : Time) : Prop :=
  trading = true ∧ start ≤ t ∧ t < b.marketClose

instance (b : Bounds) (start : Time) (trading : Bool) (t : Time) :
    Decidable (InSnapshotWindow b start trading t) := inferInstanceAs (Decidable (_ ∧ _ ∧ _))

/-- The state is `SNAPSHOT_WINDOW` from its start to the square-off, in market hours. -/
theorem stateAt_eq_snapshotWindow {start t : Time} (hstart : b.snapshotStart = some start) :
    stateAt b t = .snapshotWindow ↔
      b.preMarket ≤ t ∧ b.marketOpen ≤ t ∧ start ≤ t ∧ t < b.squareOff ∧ t < b.marketClose := by
  unfold stateAt
  rw [hstart, Option.any_some]
  constructor
  · intro h
    split_ifs at h with hclosed hopen hsquareOff hwindow
    rcases not_or.mp hclosed with ⟨hpre, hclose⟩
    exact ⟨not_lt.mp hpre, not_lt.mp hopen, of_decide_eq_true hwindow, not_le.mp hsquareOff,
      not_le.mp hclose⟩
  · intro h
    rcases h with ⟨hpre, hopen, hwindow, hsquareOff, hclose⟩
    rw [if_neg (not_or.mpr ⟨not_lt.mpr hpre, not_le.mpr hclose⟩), if_neg (not_lt.mpr hopen),
      if_neg (not_le.mpr hsquareOff), if_pos (decide_eq_true hwindow)]

/-- What the flag says, on a day that the calendar knows. -/
theorem isSnapshotWindowActive_eq (h : m.region.Reads lib tz b) {q : Query} {trading : Bool}
    (hq : m.trading tz q = .ok trading) :
    m.isSnapshotWindowActive lib q = .ok (decide (trading = true ∧
      stateAt b (localNow tz q.clock q.now).time = .snapshotWindow)) := by
  rw [SessionStateMachine.isSnapshotWindowActive, SessionStateMachine.getState_eq h, hq]
  cases trading with
  | false => rfl
  | true => simp [Except.map]

/-- The flag is that of the documented window exactly outside the part of it in which the state
is another one: the square-off period, and what lies before the market opens. Where the bounds
are in order only the square-off period is left. -/
theorem snapshot_flag_iff (h : m.region.Reads lib tz b) {start : Time}
    (hstart : b.snapshotStart = some start) {q : Query} {trading : Bool}
    (hq : m.trading tz q = .ok trading) :
    (m.isSnapshotWindowActive lib q =
        .ok (decide (InSnapshotWindow b start trading (localNow tz q.clock q.now).time)) ↔
      ¬ (InSnapshotWindow b start trading (localNow tz q.clock q.now).time ∧
        ((localNow tz q.clock q.now).time < b.preMarket ∨
          (localNow tz q.clock q.now).time < b.marketOpen ∨
          b.squareOff ≤ (localNow tz q.clock q.now).time))) ∧
    (b.Ordered →
      (m.isSnapshotWindowActive lib q =
          .ok (decide (InSnapshotWindow b start trading (localNow tz q.clock q.now).time)) ↔
        ¬ (trading = true ∧ b.squareOff ≤ (localNow tz q.clock q.now).time ∧
          (localNow tz q.clock q.now).time < b.marketClose))) := by
  generalize ht : (localNow tz q.clock q.now).time = t
  have hflag : m.isSnapshotWindowActive lib q = .ok (decide (InSnapshotWindow b start trading t)) ↔
      ¬ (InSnapshotWindow b start trading t ∧
        (t < b.preMarket ∨ t < b.marketOpen ∨ b.squareOff ≤ t)) := by
    rw [isSnapshotWindowActive_eq h hq, ht, Except.ok.injEq, decide_eq_decide,
      stateAt_eq_snapshotWindow hstart]
    constructor
    · intro hiff hdiff
      -- in the window, so the state would have to be that of the window
      rcases hiff.mpr hdiff.1 with ⟨-, hpre, hopen, -, hsquareOff, -⟩
      rcases hdiff.2 with hbefore | hbefore | hafter
      · exact absurd hbefore (not_lt.mpr hpre)
      · exact absurd hbefore (not_lt.mpr hopen)
      · exact absurd hafter (not_le.mpr hsquareOff)
    · intro hsame
      constructor
      · intro hstate
        exact ⟨hstate.1, hstate.2.2.2.1, hstate.2.2.2.2.2⟩
      · intro hwindow
        have hinside := fun hdiff => hsame ⟨hwindow, hdiff⟩
        rcases not_or.mp hinside with ⟨hpre, hrest⟩
        rcases not_or.mp hrest with ⟨hopen, hsquareOff⟩
        exact ⟨hwindow.1, not_lt.mp hpre, not_lt.mp hopen, hwindow.2.1, not_le.mp hsquareOff,
          hwindow.2.2⟩
  refine ⟨hflag, ?_⟩
  intro hordered
  rw [hflag]
  apply not_congr
  have hopen := hordered.open_le_snapshot start hstart
  have hsnapshot := hordered.snapshot_le start hstart
  constructor
  · intro hdiff
    rcases hdiff with ⟨⟨htrading, hafter, hclose⟩, hbefore | hbefore | hsquareOff⟩
    · exact absurd ((hordered.preMarket_le.trans hopen).trans hafter) (not_le.mpr hbefore)
    · exact absurd (hopen.trans hafter) (not_le.mpr hbefore)
    · exact ⟨htrading, hsquareOff, hclose⟩
  · intro hoff
    rcases hoff with ⟨htrading, hsquareOff, hclose⟩
    exact ⟨⟨htrading, hsnapshot.trans hsquareOff, hclose⟩, Or.inr (Or.inr hsquareOff)⟩

/-- At 14:50 the flag is that of the window. -/
theorem snapshot_flag_iff_india :
    indiaMachine.isSnapshotWindowActive indiaLib ((indiaQuery 14 50).get rfl) =
        .ok (decide (InSnapshotWindow indiaBounds ((Time.ofHourMinute 14 45).get rfl) true
          ((Time.ofHourMinute 14 50).get rfl))) ∧
      (indiaBounds.Ordered →
        (indiaMachine.isSnapshotWindowActive indiaLib ((indiaQuery 14 50).get rfl) =
            .ok (decide (InSnapshotWindow indiaBounds ((Time.ofHourMinute 14 45).get rfl) true
              ((Time.ofHourMinute 14 50).get rfl))) ↔
          ¬ (true = true ∧ indiaBounds.squareOff ≤ (Time.ofHourMinute 14 50).get rfl ∧
            (Time.ofHourMinute 14 50).get rfl < indiaBounds.marketClose))) := by
  have htrading : indiaMachine.trading (fixedZone (330 * 60000000)) ((indiaQuery 14 50).get rfl) =
      .ok true := by decide +kernel
  rcases snapshot_flag_iff (m := indiaMachine) indiaRegion_reads rfl htrading with ⟨hflag, hordered⟩
  exact ⟨hflag.mpr (by decide +kernel), hordered⟩

/-- At 15:12 the state is that of the square-off, and the flag is false. -/
theorem snapshot_flag_false_in_window :
    ¬ ∀ (lib : SessionLib) (m : SessionStateMachine) (tz : Zone) (b : Bounds) (start : Time)
      (q : Query) (trading : Bool), m.region.Reads lib tz b → b.Ordered →
      b.snapshotStart = some start → m.trading tz q = .ok trading →
      m.isSnapshotWindowActive lib q =
        .ok (decide (InSnapshotWindow b start trading (localNow tz q.clock q.now).time)) := by
  intro h
  have hflag := h indiaLib indiaMachine _ _ _ ((indiaQuery 15 12).get rfl) true indiaRegion_reads
    indiaBounds_ordered rfl (by decide +kernel)
  exact absurd hflag (by decide +kernel)

end Intraday.Session
