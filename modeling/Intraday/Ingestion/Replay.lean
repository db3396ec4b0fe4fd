import Mathlib.Data.List.Chain
import Intraday.Lib.Machine
import Intraday.Ingestion.Aggregator

/-!
# Intraday.Ingestion.Replay — how far accepted ticks go back

The validator compares a tick with the last accepted one of its symbol, and a late
tick that it accepts becomes the last one. Each step back is bounded by the
tolerance, several of them in a row are bounded by that many tolerances, and no
bound holds against the newest tick.
-/

namespace Intraday.Ingestion

open Intraday.Core Intraday.Lib

/-! ## The validator as a machine -/

/-- `validate` on one arrival after the other. A call that raises leaves the
validator as it is. -/
def validatorMachine :
    Machine TickSequenceValidator Arrival (Option TickValidationError) where
  step v a := match v.validate a.nowMs a.tick with
    | .ok v' => (v', none)
    | .error e => (v, some e)

/-- The accepted ticks are those of the calls that return. -/
theorem accepted_eq_trans (v : TickSequenceValidator) (arrivals : List Arrival) :
    v.accepted arrivals =
      ((validatorMachine.trans v arrivals).filter fun t => t.reply = none).map (·.op.tick) := by
  induction arrivals generalizing v with
  | nil => rfl
  | cons a rest ih =>
      rw [TickSequenceValidator.accepted, Machine.trans_cons]
      cases hvalid : v.validate a.nowMs a.tick with
      | ok v' =>
          have hfire : validatorMachine.fire v a = ⟨v, a, none, v'⟩ := by
            simp [Machine.fire, Machine.reply, Machine.next, validatorMachine, hvalid]
          have hnext : validatorMachine.next v a = v' := congrArg Trans.post hfire
          simp [hfire, hnext, ih]
      | error e =>
          have hfire : validatorMachine.fire v a = ⟨v, a, some e, v⟩ := by
            simp [Machine.fire, Machine.reply, Machine.next, validatorMachine, hvalid]
          have hnext : validatorMachine.next v a = v := congrArg Trans.post hfire
          simp [hfire, hnext, ih]

/-- A rejected tick leaves the validator as it was. -/
theorem rejected_keeps {v : TickSequenceValidator} {arrivals : List Arrival}
    {t : Trans TickSequenceValidator Arrival (Option TickValidationError)}
    (ht : t ∈ validatorMachine.trans v arrivals) (h : t.reply ≠ none) : t.post = t.pre := by
  rw [validatorMachine.trans_fire ht] at h ⊢
  simp only [Machine.fire, Machine.reply, Machine.next, validatorMachine] at h ⊢
  cases hvalid : t.pre.validate t.op.nowMs t.op.tick with
  | ok v' =>
      rw [hvalid] at h
      exact absurd rfl h
  | error e => rfl

/-! ## Steps back -/

/-- What an accepted tick is: positive in price, not negative in volume, not in the
future, and not too far behind the last one, which it replaces. -/
theorem validate_ok {v v' : TickSequenceValidator} {nowMs : ℤ} {tick : RawTick}
    (h : v.validate nowMs tick = .ok v') :
    tick.ltp.le .zero = false ∧ 0 ≤ tick.volume ∧ tick.timestampMs ≤ nowMs + tickMaxFutureMs ∧
      (∀ last, v.lastTsMs.get? tick.key = some last →
        last - tickMaxBackwardMs ≤ tick.timestampMs) ∧
      v' = { lastTsMs := v.lastTsMs.set tick.key tick.timestampMs } := by
  unfold TickSequenceValidator.validate at h
  split at h
  · cases h
  · rename_i hprice
    split at h
    · cases h
    · rename_i hvolume
      split at h
      · cases h
      · rename_i hfuture
        refine ⟨by simpa using hprice, not_lt.mp hvolume, not_lt.mp hfuture, ?_⟩
        split at h
        · rename_i last hlast
          split at h
          · cases h
          · rename_i hback
            cases h
            refine ⟨?_, rfl⟩
            intro last' hlast'
            rw [hlast] at hlast'
            rcases Option.some.inj hlast' with rfl
            exact not_lt.mp hback
        · rename_i hnone
          cases h
          refine ⟨?_, rfl⟩
          intro last hlast
          rw [hnone] at hlast
          cases hlast

/-- A tick is at most the tolerance behind another. -/
def StepsBack (t u : RawTick) : Prop := t.timestampMs - tickMaxBackwardMs ≤ u.timestampMs

/-- Along the accepted ticks of a key every one is at most the tolerance behind the
one before it, the first of them behind what the validator remembers. -/
theorem accepted_chain (key : String) (arrivals : List Arrival) (v : TickSequenceValidator) :
    ((v.accepted arrivals).filter fun t => t.key = key).IsChain StepsBack ∧
      ∀ last, v.lastTsMs.get? key = some last →
        ∀ t ∈ ((v.accepted arrivals).filter fun t => t.key = key).head?,
          last - tickMaxBackwardMs ≤ t.timestampMs := by
  induction arrivals generalizing v with
  | nil => simp [TickSequenceValidator.accepted]
  | cons a rest ih =>
      rw [TickSequenceValidator.accepted]
      cases hvalid : v.validate a.nowMs a.tick with
      | error e => exact ih v
      | ok v' =>
          rcases validate_ok hvalid with ⟨-, -, -, hback, hv'⟩
          rcases ih v' with ⟨hchain, hhead⟩
          by_cases hkey : a.tick.key = key
          · rw [List.filter_cons_of_pos (by simpa using hkey)]
            constructor
            · -- the tick is what the rest is compared with
              rw [List.isChain_cons]
              refine ⟨?_, hchain⟩
              intro t ht
              apply hhead a.tick.timestampMs _ t ht
              rw [hv', ← hkey, Dict.get?_set_self]
            · intro last hlast t ht
              rcases Option.some.inj ht with rfl
              rw [← hkey] at hlast
              exact hback last hlast
          · rw [List.filter_cons_of_neg (by simpa using hkey)]
            refine ⟨hchain, ?_⟩
            intro last hlast
            apply hhead last
            rw [hv', Dict.get?_set_of_ne _ _ (Ne.symm hkey)]
            exact hlast

/-- Over `n + 1` steps of a chain, a tick is at most `n + 1` tolerances behind. -/
theorem stepsBack_chain_le {t u : RawTick} {mid : List RawTick}
    (h : (t :: (mid ++ [u])).IsChain StepsBack) :
    t.timestampMs - tickMaxBackwardMs * (mid.length + 1) ≤ u.timestampMs := by
  induction mid generalizing t with
  | nil =>
      have hstep : StepsBack t u := (List.isChain_cons_cons.mp h).1
      unfold StepsBack at hstep
      simpa using hstep
  | cons w mid ih =>
      rcases List.isChain_cons_cons.mp h with ⟨hstep, hrest⟩
      have htail := ih hrest
      unfold StepsBack at hstep
      rw [List.length_cons, Nat.cast_add, Nat.cast_one, mul_add, mul_one]
      linarith

/-- Replay is bounded step by step: of two ticks of one key, accepted with `mid`
between them, the later is at most `mid.length + 1` tolerances behind the earlier,
and a rejected tick changes nothing. -/
theorem accepted_replay_bounded (arrivals : List Arrival) :
    (∀ key before t mid u after,
      (({} : TickSequenceValidator).accepted arrivals).filter (fun t => t.key = key) =
        before ++ t :: (mid ++ u :: after) →
      t.timestampMs - tickMaxBackwardMs * (mid.length + 1) ≤ u.timestampMs) ∧
      ∀ t ∈ validatorMachine.trans {} arrivals, t.reply ≠ none → t.post = t.pre := by
  constructor
  · intro key before t mid u after hsplit
    have hchain := (accepted_chain key arrivals {}).1
    rw [hsplit] at hchain
    have hpart : (t :: (mid ++ [u])) <:+: (before ++ t :: (mid ++ u :: after)) :=
      ⟨before, after, by simp⟩
    have hinner := List.IsChain.infix hchain hpart
    exact stepsBack_chain_le hinner
  · intro t ht
    exact rejected_keeps ht

/-- Two late ticks in a row, each within the tolerance of the one before it, are
accepted: the last is 800 ms behind the first. -/
theorem late_ticks_replay :
    ¬ ∀ arrivals : List Arrival,
      (({} : TickSequenceValidator).accepted arrivals).Pairwise
        (fun t u => t.key = u.key → t.timestampMs - tickMaxBackwardMs ≤ u.timestampMs) := by
  intro h
  exact absurd (h [infyTick 1000, infyTick 600, infyTick 200]) (by decide +kernel)

end Intraday.Ingestion
