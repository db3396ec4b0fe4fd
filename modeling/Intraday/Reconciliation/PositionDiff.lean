import Intraday.Reconciliation.Differ

/-!
# Intraday.Reconciliation.PositionDiff — what the position diff does not see

A diff without a quantity mismatch says that the two dictionaries hold the same quantities. It
says that the totals agree exactly if the dictionaries hide the same quantity on both sides
(`positions_complete_iff`): the positions that a later one with the same key overwrites, less
a position of another symbol that stands under a colliding key.
-/

namespace Intraday.Reconciliation

open Intraday.Lib

/-! ## What the dictionaries hold -/

/-- A position of either side, as far as quantities are compared. -/
structure Holding where
  symbol : String
  exchange : String
  quantity : ℤ
deriving DecidableEq, Repr

/-- The key of a holding. -/
def Holding.key (h : Holding) : String := positionKey h.symbol h.exchange

/-- A broker position as a holding. -/
def BrokerPosition.holding (p : BrokerPosition) : Holding :=
  { symbol := p.symbol, exchange := p.exchange, quantity := p.quantity }

/-- An internal position as a holding. -/
def InternalPosition.holding (p : InternalPosition) : Holding :=
  { symbol := p.symbol, exchange := p.exchange, quantity := p.quantity }

/-- The holding that is held under a key: the last one. -/
def held (hs : List Holding) (key : String) : Option Holding :=
  (Dict.ofList Holding.key hs).get? key

/-- The quantity held under a key; nothing counts as zero. -/
def heldQuantity (hs : List Holding) (key : String) : ℤ :=
  match held hs key with
  | some h => h.quantity
  | none => 0

/-- The total quantity of a symbol on an exchange. -/
def total (symbol exchange : String) : List Holding → ℤ
  | [] => 0
  | h :: rest =>
      (if h.symbol = symbol ∧ h.exchange = exchange then h.quantity else 0) +
        total symbol exchange rest

/-- The quantity of a symbol on an exchange that later holdings of the same key overwrite. -/
def overwritten (symbol exchange : String) : List Holding → ℤ
  | [] => 0
  | h :: rest =>
      (if (h.symbol = symbol ∧ h.exchange = exchange) ∧ ∃ h' ∈ rest, h'.key = h.key then
        h.quantity
      else 0) + overwritten symbol exchange rest

/-- The quantity held under the key of a symbol on an exchange that belongs to another pair
with the same key. -/
def foreign (symbol exchange : String) (hs : List Holding) : ℤ :=
  match held hs (positionKey symbol exchange) with
  | some h => if h.symbol = symbol ∧ h.exchange = exchange then 0 else h.quantity
  | none => 0

/-- The quantity of a symbol on an exchange that the dictionary does not show. -/
def hidden (symbol exchange : String) (hs : List Holding) : ℤ :=
  overwritten symbol exchange hs - foreign symbol exchange hs

theorem held_cons_of_some {h h' : Holding} {rest : List Holding} {key : String}
    (hrest : held rest key = some h') : held (h :: rest) key = some h' := by
  rw [held, Dict.get?_ofList] at hrest ⊢
  rw [List.filter_cons]
  split
  · rw [List.getLast?_cons, hrest]
    rfl
  · exact hrest

theorem held_cons_of_none {h : Holding} {rest : List Holding} {key : String}
    (hrest : held rest key = none) :
    held (h :: rest) key = if h.key = key then some h else none := by
  rw [held, Dict.get?_ofList] at hrest ⊢
  rw [List.filter_cons]
  by_cases hkey : h.key = key
  · rw [if_pos (decide_eq_true hkey), List.getLast?_cons, hrest, if_pos hkey]
    rfl
  · rw [if_neg (by simpa using hkey), hrest, if_neg hkey]

theorem held_isNone_iff {hs : List Holding} {key : String} :
    held hs key = none ↔ ¬ ∃ h ∈ hs, h.key = key := by
  rw [held, Dict.get?_ofList_eq_none_iff]
  simp

/-- The total is what is shown and what is hidden. -/
theorem total_eq (symbol exchange : String) (hs : List Holding) :
    total symbol exchange hs =
      heldQuantity hs (positionKey symbol exchange) + hidden symbol exchange hs := by
  induction hs with
  | nil => rfl
  | cons h rest ih =>
      simp only [hidden] at ih ⊢
      by_cases hpair : h.symbol = symbol ∧ h.exchange = exchange
      · have hkey : h.key = positionKey symbol exchange := by
          rw [Holding.key, hpair.1, hpair.2]
        cases hrest : held rest (positionKey symbol exchange) with
        | some h' =>
            -- overwritten by a later holding: nothing else changes
            have hlater : ∃ h'' ∈ rest, h''.key = h.key := by
              by_contra hnone
              rw [hkey, ← held_isNone_iff, hrest] at hnone
              cases hnone
            simp only [heldQuantity, foreign, held_cons_of_some hrest, hrest, total,
              overwritten] at ih ⊢
            rw [if_pos hpair, if_pos ⟨hpair, hlater⟩]
            omega
        | none =>
            have hlast : ¬ ∃ h'' ∈ rest, h''.key = h.key := by
              rw [hkey]
              exact held_isNone_iff.mp hrest
            simp only [heldQuantity, foreign, held_cons_of_none hrest, hrest, if_pos hkey, total,
              overwritten] at ih ⊢
            rw [if_pos hpair, if_pos hpair, if_neg fun hover => hlast hover.2]
            omega
      · have hover : ¬ ((h.symbol = symbol ∧ h.exchange = exchange) ∧
            ∃ h'' ∈ rest, h''.key = h.key) := fun hover => hpair hover.1
        cases hrest : held rest (positionKey symbol exchange) with
        | some h' =>
            simp only [heldQuantity, foreign, held_cons_of_some hrest, hrest, total,
              overwritten] at ih ⊢
            rw [if_neg hpair, if_neg hover]
            omega
        | none =>
            simp only [heldQuantity, foreign, held_cons_of_none hrest, hrest, total,
              overwritten] at ih ⊢
            rw [if_neg hpair, if_neg hover]
            by_cases hkey : h.key = positionKey symbol exchange
            · -- a foreign holding: shown and taken back
              simp only [if_pos hkey, if_neg hpair]
              omega
            · simp only [if_neg hkey]
              omega

/-! ## When the position diff is silent -/

/-- The mismatch is one of quantity. -/
def ReportsQuantity (m : ReconciliationMismatch) : Prop :=
  m.field = .quantity ∨ m.field = .positionMissing ∨ m.field = .unexpectedPosition

theorem comparePosition_silent_iff {ts : ℤ} {broker : Option BrokerPosition}
    {internal : InternalPosition} :
    (∀ m ∈ comparePosition ts broker internal, ¬ ReportsQuantity m) ↔
      broker.elim 0 (·.quantity) = internal.quantity := by
  cases broker with
  | none =>
      by_cases hq : internal.quantity = 0
      · simp [comparePosition, hq]
      · simp [comparePosition, hq, ReportsQuantity, InternalPosition.mismatch, eq_comm]
  | some broker =>
      by_cases hq : broker.quantity = internal.quantity
      · by_cases hp : priceDiffers broker internal
        · simp [comparePosition, hq, hp, ReportsQuantity, InternalPosition.mismatch]
        · simp [comparePosition, hq, hp]
      · simp [comparePosition, hq, ReportsQuantity, InternalPosition.mismatch]

theorem unexpectedPosition_silent_iff {ts : ℤ} {internal : Option InternalPosition}
    {broker : BrokerPosition} :
    (∀ m ∈ unexpectedPosition ts internal broker, ¬ ReportsQuantity m) ↔
      (internal = none → broker.quantity = 0) := by
  cases internal with
  | some internal => simp [unexpectedPosition]
  | none =>
      by_cases hq : broker.quantity = 0
      · simp [unexpectedPosition, hq]
      · simp [unexpectedPosition, hq, ReportsQuantity]

/-- What is held of the holdings of positions is what the dictionary of the positions has. -/
theorem heldQuantity_map {α : Type} (f : α → Holding) (ps : List α) (key : String) :
    heldQuantity (ps.map f) key =
      ((Dict.ofList (fun p => (f p).key) ps).get? key).elim 0 fun p => (f p).quantity := by
  rw [heldQuantity, held, Dict.get?_ofList_map]
  cases (Dict.ofList (fun p => (f p).key) ps).get? key with
  | none => rfl
  | some p => rfl

/-- The diff reports no quantity exactly if the two sides hold the same quantities. -/
theorem diffPositions_silent_iff {broker : List BrokerPosition}
    {internal : List InternalPosition} {ts : ℤ} :
    (∀ m ∈ diffPositions broker internal ts, ¬ ReportsQuantity m) ↔
      ∀ key, heldQuantity (broker.map (·.holding)) key =
        heldQuantity (internal.map (·.holding)) key := by
  have hloops : (∀ m ∈ diffPositions broker internal ts, ¬ ReportsQuantity m) ↔
      (∀ key i, (Dict.ofList InternalPosition.key internal).get? key = some i →
        ((Dict.ofList BrokerPosition.key broker).get? key).elim 0 (·.quantity) = i.quantity) ∧
      ∀ key b, (Dict.ofList BrokerPosition.key broker).get? key = some b →
        (Dict.ofList InternalPosition.key internal).get? key = none → b.quantity = 0 := by
    simp only [diffPositions, List.forall_mem_append, List.forall_mem_flatMap, Prod.forall,
      comparePosition_silent_iff, unexpectedPosition_silent_iff, Dict.get?_eq_some_iff]
  rw [hloops]
  have hbrokerHeld : ∀ key, heldQuantity (broker.map (·.holding)) key =
      ((Dict.ofList BrokerPosition.key broker).get? key).elim 0 (·.quantity) :=
    heldQuantity_map BrokerPosition.holding broker
  have hinternalHeld : ∀ key, heldQuantity (internal.map (·.holding)) key =
      ((Dict.ofList InternalPosition.key internal).get? key).elim 0 (·.quantity) :=
    heldQuantity_map InternalPosition.holding internal
  simp only [hbrokerHeld, hinternalHeld]
  constructor
  · rintro ⟨hinternal, hbroker⟩ key
    cases hi : (Dict.ofList InternalPosition.key internal).get? key with
    | some i => exact hinternal key i hi
    | none =>
        cases hb : (Dict.ofList BrokerPosition.key broker).get? key with
        | none => rfl
        | some b => exact hbroker key b hb hi
  · intro h
    constructor
    · intro key i hi
      rw [h key, hi]
      rfl
    · intro key b hb hi
      have hkey := h key
      rw [hb, hi] at hkey
      exact hkey

/-- If the diff reports no quantity, then the totals of every symbol agree. -/
def PositionsComplete (broker : List BrokerPosition) (internal : List InternalPosition)
    (ts : ℤ) : Prop :=
  (∀ m ∈ diffPositions broker internal ts, ¬ ReportsQuantity m) →
    ∀ symbol exchange, total symbol exchange (broker.map (·.holding)) =
      total symbol exchange (internal.map (·.holding))

/-- The position diff is complete exactly if two held quantities differ, or both sides hide
the same quantity of every symbol. -/
theorem positions_complete_iff (broker : List BrokerPosition) (internal : List InternalPosition)
    (ts : ℤ) :
    PositionsComplete broker internal ts ↔
      (∃ key, heldQuantity (broker.map (·.holding)) key ≠
        heldQuantity (internal.map (·.holding)) key) ∨
      ∀ symbol exchange, hidden symbol exchange (broker.map (·.holding)) =
        hidden symbol exchange (internal.map (·.holding)) := by
  rw [PositionsComplete, diffPositions_silent_iff]
  by_cases hheld : ∀ key, heldQuantity (broker.map (·.holding)) key =
      heldQuantity (internal.map (·.holding)) key
  · -- equal held quantities cancel in the totals
    simp only [hheld, total_eq, add_right_inj, true_implies, implies_true, ne_eq,
      not_true_eq_false, exists_false, false_or]
  · refine iff_of_true (fun h => absurd h hheld) (.inl ?_)
    exact not_forall.mp hheld

/-- A position under two products, of which the first is overwritten. -/
def twoProducts : List BrokerPosition :=
  [{ symbol := "INFY", exchange := "NSE", quantity := 100, avgPrice := 1500, product := "CNC" },
    { symbol := "INFY", exchange := "NSE", quantity := 50, avgPrice := 1500 }]

/-- The system knows of the second product only. -/
def oneProduct : List InternalPosition :=
  [{ symbol := "INFY", exchange := "NSE", quantity := 50, avgPrice := 1500 }]

/-- The diff is empty, and 100 shares are not accounted for. -/
theorem overwritten_product_is_not_seen : ¬ PositionsComplete twoProducts oneProduct 0 := by
  intro h
  have hnil : diffPositions twoProducts oneProduct 0 = [] := by decide +kernel
  have htotal := h (by simp [hnil]) "INFY" "NSE"
  exact absurd htotal (by decide)

end Intraday.Reconciliation
