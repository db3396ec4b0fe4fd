import Intraday.Lib.Rounding
import Intraday.Compliance.Checks

/-!
# Intraday.Compliance.Mpp — what the rounded MPP price protects

`compute_mpp_price` adds or takes off the buffer and rounds to the nearest tick
of `0.01`. Where the buffer is smaller than the rounding, the price can land on
the wrong side of the last price, or at zero. One comparison on the last price
says when it does not: the next whole tick on the protected side has to be
within half a tick and the buffer.
-/

namespace Intraday.Compliance

open Intraday.Core Intraday.Lib.Decimal

/-! ## The protection -/

/-- `buf`. -/
def mppBuffer : ℚ := mppSlippageBufferPct / 100

/-- What an MPP price is for: positive, not worse than the last price for the
side of the order, and away from it by the buffer and half a tick at most. -/
structure MppProtects (direction : String) (ltp price : ℚ) : Prop where
  positive : 0 < price
  buy : direction = "LONG" → ltp ≤ price
  sell : direction ≠ "LONG" → price ≤ ltp
  near : |price - ltp| ≤ ltp * mppBuffer + 1 / 200

/-! ## Ticks -/

/-- A price in ticks of `0.01`. -/
def inTicks (x : ℚ) : ℚ := x * 10 ^ 2

/-- The gap to a whole tick is less than half a tick and the buffer, or just as
much when the tick is even. -/
def WithinReach (gap ltp : ℚ) (tick : ℤ) : Prop :=
  gap < 1 / 2 + mppBuffer * inTicks ltp ∨
    gap = 1 / 2 + mppBuffer * inTicks ltp ∧ tick % 2 = 0

/-- For a buy the next whole tick above is within reach; for a sell the one
below, and the price less the buffer is more than half a tick. -/
def MppSafe (direction : String) (ltp : ℚ) : Prop :=
  (direction = "LONG" →
    WithinReach (⌈inTicks ltp⌉ - inTicks ltp) ltp ⌈inTicks ltp⌉) ∧
  (direction ≠ "LONG" →
    WithinReach (inTicks ltp - ⌊inTicks ltp⌋) ltp ⌊inTicks ltp⌋ ∧
      1 / 2 < inTicks ltp * (1 - mppBuffer))

theorem mppBuffer_eq : mppBuffer = 1 / 400 := by
  norm_num [mppBuffer, mppSlippageBufferPct]

/-- The buffered buy price rounds to the last price or above. -/
theorem le_roundTo_buy_iff (ltp : ℚ) :
    ltp ≤ roundTo 2 (ltp * (1 + mppBuffer)) ↔
      WithinReach (⌈inTicks ltp⌉ - inTicks ltp) ltp ⌈inTicks ltp⌉ := by
  have hscale : ltp * (1 + mppBuffer) * 10 ^ 2 = inTicks ltp * (1 + mppBuffer) := by
    rw [inTicks]
    ring
  rw [← not_lt, roundTo_lt_iff, not_not, hscale, ← inTicks]
  unfold PastHalf WithinReach
  push_cast
  apply or_congr
  · constructor <;> intro h <;> linarith
  · apply and_congr
    · constructor <;> intro h <;> linarith
    · omega

/-- The buffered sell price rounds to the last price or below. -/
theorem roundTo_sell_le_iff (ltp : ℚ) :
    roundTo 2 (ltp * (1 - mppBuffer)) ≤ ltp ↔
      WithinReach (inTicks ltp - ⌊inTicks ltp⌋) ltp ⌊inTicks ltp⌋ := by
  have hscale : ltp * (1 - mppBuffer) * 10 ^ 2 = inTicks ltp * (1 - mppBuffer) := by
    rw [inTicks]
    ring
  rw [← not_lt, lt_roundTo_iff, hscale, ← inTicks]
  unfold PastHalf WithinReach
  generalize inTicks ltp = t
  constructor
  · intro h
    rw [not_or] at h
    rcases lt_or_eq_of_le (not_lt.mp h.1) with hlt | heq
    · left
      linarith
    · -- exactly at the half: the floor is not odd
      right
      have hodd : ¬ ⌊t⌋ % 2 = 1 := fun hodd => h.2 ⟨heq, hodd⟩
      constructor
      · linarith
      · omega
  · rintro (hlt | ⟨heq, heven⟩) (habove | ⟨hat, hodd⟩)
    · linarith
    · linarith
    · linarith
    · omega

theorem roundTo_sell_pos_iff (ltp : ℚ) :
    0 < roundTo 2 (ltp * (1 - mppBuffer)) ↔ 1 / 2 < inTicks ltp * (1 - mppBuffer) := by
  have hscale : ltp * (1 - mppBuffer) * 10 ^ 2 = inTicks ltp * (1 - mppBuffer) := by
    rw [inTicks]
    ring
  rw [lt_roundTo_iff, hscale, zero_mul, Int.floor_zero, pastHalf_zero]

/-- The rounded price stays near, on either side. -/
theorem abs_roundTo_sub_ltp_le {ltp side : ℚ} (hltp : 0 < ltp) (hside : |side| = mppBuffer) :
    |roundTo 2 (ltp * (1 + side)) - ltp| ≤ ltp * mppBuffer + 1 / 200 := by
  have hround := abs_roundTo_sub_le 2 (ltp * (1 + side))
  have hbuffer : |ltp * (1 + side) - ltp| = ltp * mppBuffer := by
    have hdiff : ltp * (1 + side) - ltp = ltp * side := by ring
    rw [hdiff, abs_mul, hside, abs_of_pos hltp]
  have htriangle := abs_sub_le (roundTo 2 (ltp * (1 + side))) (ltp * (1 + side)) ltp
  have htick : (1 : ℚ) / 2 / 10 ^ 2 = 1 / 200 := by norm_num
  rw [htick] at hround
  linarith

/-! ## The price -/

theorem computeMppPrice_long {order : OrderIntent} {ltp : ℚ} (hltp : order.ltp = some ltp)
    (hpos : 0 < ltp) (hlong : order.direction = "LONG") :
    computeMppPrice order = some (roundTo 2 (ltp * (1 + mppBuffer))) := by
  simp only [computeMppPrice, hltp, not_le.mpr hpos, hlong, if_true, if_false]
  rfl

theorem computeMppPrice_short {order : OrderIntent} {ltp : ℚ} (hltp : order.ltp = some ltp)
    (hpos : 0 < ltp) (hshort : order.direction ≠ "LONG") :
    computeMppPrice order = some (roundTo 2 (ltp * (1 - mppBuffer))) := by
  simp only [computeMppPrice, hltp, not_le.mpr hpos, hshort, if_false]
  rfl

/-- A buy is protected when the next whole tick above is within reach. -/
theorem mppProtects_long_iff {ltp : ℚ} (hltp : 0 < ltp) :
    MppProtects "LONG" ltp (roundTo 2 (ltp * (1 + mppBuffer))) ↔ MppSafe "LONG" ltp := by
  constructor
  · intro h
    refine ⟨fun _ => (le_roundTo_buy_iff ltp).mp (h.buy rfl), ?_⟩
    intro hne
    exact absurd rfl hne
  · intro h
    have hle : ltp ≤ roundTo 2 (ltp * (1 + mppBuffer)) := (le_roundTo_buy_iff ltp).mpr (h.1 rfl)
    have hbuffer : |mppBuffer| = mppBuffer := by norm_num [mppBuffer_eq]
    exact
      { positive := lt_of_lt_of_le hltp hle
        buy := fun _ => hle
        sell := fun hne => absurd rfl hne
        near := abs_roundTo_sub_ltp_le hltp hbuffer }

/-- A sell is protected when the next whole tick below is within reach and the
buffered price does not round to zero. -/
theorem mppProtects_short_iff {direction : String} {ltp : ℚ} (hltp : 0 < ltp)
    (hshort : direction ≠ "LONG") :
    MppProtects direction ltp (roundTo 2 (ltp * (1 - mppBuffer))) ↔ MppSafe direction ltp := by
  constructor
  · intro h
    refine ⟨fun hlong => absurd hlong hshort, fun _ => ?_⟩
    exact ⟨(roundTo_sell_le_iff ltp).mp (h.sell hshort), (roundTo_sell_pos_iff ltp).mp h.positive⟩
  · intro h
    rcases h.2 hshort with ⟨hreach, hhalf⟩
    have hbuffer : |-mppBuffer| = mppBuffer := by norm_num [mppBuffer_eq]
    exact
      { positive := (roundTo_sell_pos_iff ltp).mpr hhalf
        buy := fun hlong => absurd hlong hshort
        sell := fun _ => (roundTo_sell_le_iff ltp).mpr hreach
        near := by
          rw [sub_eq_add_neg 1 mppBuffer]
          exact abs_roundTo_sub_ltp_le hltp hbuffer }

/-- From two units of currency on the buffer is half a tick, and every order is
protected. -/
theorem mppSafe_of_two_le (direction : String) {ltp : ℚ} (h : 2 ≤ ltp) :
    MppSafe direction ltp := by
  have hticks : 200 ≤ inTicks ltp := by
    unfold inTicks
    linarith
  have hreach : 1 ≤ 1 / 2 + mppBuffer * inTicks ltp := by
    rw [mppBuffer_eq]
    linarith
  have hceil := Int.ceil_lt_add_one (inTicks ltp)
  have hfloor := Int.lt_floor_add_one (inTicks ltp)
  refine ⟨fun _ => .inl (by linarith), fun _ => ⟨.inl (by linarith), ?_⟩⟩
  rw [mppBuffer_eq]
  linarith

/-- So is every order whose last price is a whole number of ticks. -/
theorem mppSafe_of_whole_tick (direction : String) {ltp : ℚ} {n : ℤ} (hn : inTicks ltp = n)
    (hpos : 0 < ltp) : MppSafe direction ltp := by
  have htick : (1 : ℚ) ≤ n := by
    have hpos' : (0 : ℚ) < n := by
      rw [← hn, inTicks]
      positivity
    exact_mod_cast hpos'
  unfold MppSafe WithinReach
  rw [hn, Int.ceil_intCast, Int.floor_intCast, mppBuffer_eq]
  refine ⟨fun _ => .inl ?_, fun _ => ⟨.inl ?_, ?_⟩⟩ <;> linarith

/-- A market order in a stock that trades below one tick. -/
def pennyOrder (direction : String) (ltp : ℚ) : OrderIntent :=
  { symbol := "RCOM", exchange := "BSE", direction := direction, orderType := "MARKET"
    quantity := 700, price := none, stopLoss := 0, strategyName := "BREAKOUT"
    clientOrderId := "penny-1", ltp := some ltp }

end Intraday.Compliance
