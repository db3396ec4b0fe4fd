import Intraday.Lib.Clock

/-!
# Intraday.Instruments.Models — `shared/instruments/models.py`

A `CorporateAction` is made of arguments that its `__post_init__` has accepted. The feed
gives it texts and floats, the override file values of any type, so the arguments are of
any types of which a test of truth and `value <= 0` are known.
-/

namespace Intraday.Instruments

open Intraday.Lib Intraday.Lib.Raise

/-- `CorporateActionType`. -/
inductive CorporateActionType where
  | split
  | bonus
  | dividend
  | symbolChange
deriving DecidableEq, Repr

/-- `CorporateActionType.value`. -/
def CorporateActionType.value : CorporateActionType → String
  | .split => "SPLIT"
  | .bonus => "BONUS"
  | .dividend => "DIVIDEND"
  | .symbolChange => "SYMBOL_CHANGE"

/-- What the checks ask of a value. -/
class PyArg (V : Type) where
  /-- `bool(value)` -/
  truthy : V → Bool
  /-- `value <= 0` -/
  nonPositive : V → Except Exc Bool

instance : PyArg ℚ where
  truthy x := decide (x ≠ 0)
  nonPositive x := .ok (decide (x ≤ 0))

theorem nonPositive_rat (x : ℚ) : PyArg.nonPositive x = .ok (decide (x ≤ 0)) := rfl

instance : PyArg String where
  truthy text := text != ""
  nonPositive _ := .error .typeError

/-- The arguments of `CorporateAction`, its texts in `T` and its numbers in `N`. -/
structure ActionArgs (T N : Type) where
  symbol : T
  exchange : T
  exDate : Date
  actionType : CorporateActionType
  source : String
  ratioNumerator : Option N := none
  ratioDenominator : Option N := none
  dividendAmount : Option N := none
  newSymbol : Option T := none
deriving DecidableEq

namespace ActionArgs

variable {T N : Type} [PyArg T] [PyArg N]

/-- Raises if `value <= 0`. -/
def requirePositive (value : N) (message : String) : Except Exc Unit :=
  match PyArg.nonPositive value with
  | .error e => .error e
  | .ok true => .error (.valueError message)
  | .ok false => .ok ()

theorem requirePositive_eq_ok {value : N} {message : String} :
    requirePositive value message = .ok () ↔ PyArg.nonPositive value = .ok false := by
  unfold requirePositive
  split <;> simp_all

/-- The check of a ratio: both numbers are there, and neither is `<= 0`. -/
def checkRatio (args : ActionArgs T N) : Except Exc Unit :=
  match args.ratioNumerator.filter PyArg.truthy, args.ratioDenominator.filter PyArg.truthy with
  | some numerator, some denominator => do
      requirePositive numerator "ratio must be positive"
      requirePositive denominator "ratio must be positive"
  | _, _ =>
      .error (.valueError (args.actionType.value ++
        " requires positive ratio_numerator and ratio_denominator"))

/-- `__post_init__`. -/
def postInit (args : ActionArgs T N) : Except Exc Unit :=
  match args.actionType with
  | .split | .bonus => args.checkRatio
  | .dividend =>
      match args.dividendAmount.filter PyArg.truthy with
      | some amount => requirePositive amount "DIVIDEND requires a positive dividend_amount"
      | none => .error (.valueError "DIVIDEND requires a positive dividend_amount")
  | .symbolChange =>
      if args.newSymbol.any PyArg.truthy then .ok ()
      else .error (.valueError "SYMBOL_CHANGE requires new_symbol")

end ActionArgs

/-- The checks of a positive number. -/
theorem filter_truthy {x : ℚ} (h : 0 < x) : (some x).filter PyArg.truthy = some x := by
  simp [Option.filter, PyArg.truthy, h.ne']

theorem requirePositive_eq_ok_iff {x : ℚ} {message : String} :
    ActionArgs.requirePositive x message = .ok () ↔ 0 < x := by
  rw [ActionArgs.requirePositive_eq_ok, nonPositive_rat, Except.ok.injEq, decide_eq_false_iff_not,
    not_le]

/-- `CorporateAction`: arguments that passed `__post_init__`. -/
structure CorporateAction (T N : Type) [PyArg T] [PyArg N] where
  args : ActionArgs T N
  checked : args.postInit = .ok ()

namespace CorporateAction

variable {T N : Type} [PyArg T] [PyArg N]

/-- `CorporateAction(…)`. -/
def make (args : ActionArgs T N) : Except Exc (CorporateAction T N) :=
  match h : args.postInit with
  | .ok () => .ok ⟨args, h⟩
  | .error e => .error e

/-- What is made has the arguments it was made of. -/
theorem make_eq_ok {args : ActionArgs T N} {a : CorporateAction T N} :
    make args = .ok a ↔ a.args = args := by
  unfold make
  constructor
  · intro h
    split at h
    · rcases Except.ok.inj h with rfl
      rfl
    · cases h
  · intro h
    subst h
    split
    · rfl
    · rename_i e he
      rw [a.checked] at he
      cases he

theorem make_eq_error {args : ActionArgs T N} {e : Exc} :
    make args = .error e ↔ args.postInit = .error e := by
  unfold make
  split
  · rename_i h
    constructor
    · intro hmake
      cases hmake
    · intro hargs
      rw [h] at hargs
      cases hargs
  · rename_i e' h
    rw [h, Except.error.injEq, Except.error.injEq]

end CorporateAction

/-- The ratio of a split or a bonus. -/
structure Ratio where
  exDate : Date
  numerator : ℚ
  denominator : ℚ
  numerator_pos : 0 < numerator
  denominator_pos : 0 < denominator

namespace CorporateAction

/-- `action_type in _PRICE_ADJUSTING_TYPES`. -/
def priceAdjusting (a : CorporateAction String ℚ) : Bool :=
  a.args.actionType = .split || a.args.actionType = .bonus

/-- The checks leave a split or a bonus with a positive ratio. -/
theorem exists_ratio {a : CorporateAction String ℚ} (h : a.priceAdjusting = true) :
    ∃ numerator ∈ a.args.ratioNumerator, ∃ denominator ∈ a.args.ratioDenominator,
      0 < numerator ∧ 0 < denominator := by
  have hchecked := a.checked
  have hratio : a.args.checkRatio = .ok () := by
    rw [ActionArgs.postInit] at hchecked
    simp only [priceAdjusting, Bool.or_eq_true, decide_eq_true_eq] at h
    rcases h with htype | htype
    · rwa [htype] at hchecked
    · rwa [htype] at hchecked
  unfold ActionArgs.checkRatio at hratio
  split at hratio
  · rename_i numerator denominator hnumerator hdenominator
    rcases Option.filter_eq_some_iff.mp hnumerator with ⟨hnum, -⟩
    rcases Option.filter_eq_some_iff.mp hdenominator with ⟨hden, -⟩
    refine ⟨numerator, hnum, denominator, hden, ?_⟩
    rcases bind_eq_ok.mp hratio with ⟨⟨⟩, hn, hd⟩
    exact ⟨requirePositive_eq_ok_iff.mp hn, requirePositive_eq_ok_iff.mp hd⟩
  · cases hratio

/-- What `adjusted_candles` reads of an action: the ratio of a split or a bonus. -/
def ratio? (a : CorporateAction String ℚ) : Option Ratio :=
  if a.priceAdjusting = true then
    match a.args.ratioNumerator, a.args.ratioDenominator with
    | some numerator, some denominator =>
        if h : 0 < numerator ∧ 0 < denominator then
          some ⟨a.args.exDate, numerator, denominator, h.1, h.2⟩
        else none
    | _, _ => none
  else none

/-- A split or a bonus has a ratio, and the asserts of `adjusted_candles` hold. -/
theorem ratio?_eq_some {a : CorporateAction String ℚ} (h : a.priceAdjusting = true) :
    ∃ r, a.ratio? = some r ∧ r.exDate = a.args.exDate ∧
      a.args.ratioNumerator = some r.numerator ∧ a.args.ratioDenominator = some r.denominator := by
  rcases exists_ratio h with ⟨numerator, hnum, denominator, hden, hpos⟩
  rw [Option.mem_def] at hnum hden
  refine ⟨⟨a.args.exDate, numerator, denominator, hpos.1, hpos.2⟩, ?_, rfl, hnum, hden⟩
  simp only [ratio?, h, if_true, hnum, hden, hpos, and_self, dite_true]

theorem ratio?_eq_none {a : CorporateAction String ℚ} (h : a.priceAdjusting = false) :
    a.ratio? = none := by
  rw [ratio?, if_neg (by rw [h]; exact Bool.false_ne_true)]

end CorporateAction

end Intraday.Instruments
