import Intraday.Lib.Machine
import Intraday.Execution.Paper

/-!
# Intraday.Execution.PaperFills — the quantities of the paper broker

`PaperBroker` as a machine: any sequence of `place_order`, `query_order` and
`cancel_order`. A simulated partial fill fills one share at least, whatever was
requested, and no check upstream reads the quantity. The reports are sound along
a run exactly when every order that is filled afresh asks for a share, or asks
for none while fills are complete.
-/

namespace Intraday.Execution

open Intraday.Core Intraday.Lib Intraday.Lib.Decimal Intraday.Compliance

/-! ## Sound reports -/

/-- The quantities of a report agree with its status. -/
structure FillSound (report : FillReport) : Prop where
  nonneg : 0 ≤ report.filledQuantity
  le_requested : report.filledQuantity ≤ report.requestedQuantity
  filled_iff : report.status = .filled ↔ report.filledQuantity = report.requestedQuantity
  partial_iff : report.isPartial = true ↔
    0 < report.filledQuantity ∧ report.filledQuantity < report.requestedQuantity
  hedged : report.slQuantity = report.filledQuantity

/-- A ratio in `(0, 1)`, or none. -/
def ProperRatio (ratio : Option ℚ) : Prop := ∀ r, ratio = some r → 0 < r ∧ r < 1

/-- A quantity of which a share can be filled: one at least, or none when the
broker fills completely. -/
def Fillable (ratio : Option ℚ) (quantity : ℤ) : Prop :=
  1 ≤ quantity ∨ quantity = 0 ∧ ratio = none

namespace PaperBroker

/-- A part of a positive quantity, cut to an integer, is smaller. -/
theorem truncate_mul_lt {quantity : ℤ} {r : ℚ} (hq : 1 ≤ quantity) (hr : 0 < r ∧ r < 1) :
    truncate (quantity * r) < quantity := by
  have hq' : (1 : ℚ) ≤ quantity := by exact_mod_cast hq
  have hnonneg : 0 ≤ (quantity : ℚ) * r := mul_nonneg (by linarith) hr.1.le
  have hlt : (quantity : ℚ) * r < quantity := by nlinarith [hr.2]
  rw [truncate, if_pos hnonneg, Int.floor_lt]
  exact hlt

/-- What is filled of a quantity, with and without a ratio. -/
theorem filledQuantity_bounds_iff {ratio : Option ℚ} (hratio : ProperRatio ratio) (quantity : ℤ) :
    0 ≤ filledQuantity ratio quantity ∧ filledQuantity ratio quantity ≤ quantity ↔
      Fillable ratio quantity := by
  unfold Fillable
  cases ratio with
  | none =>
      simp only [filledQuantity, and_true, le_refl]
      omega
  | some r =>
      simp only [filledQuantity, reduceCtorEq, and_false, or_false]
      constructor
      · intro h
        have hone := le_max_left 1 (truncate (quantity * r))
        omega
      · intro hq
        have hlt := truncate_mul_lt hq (hratio r rfl)
        refine ⟨?_, max_le hq hlt.le⟩
        have hone := le_max_left 1 (truncate (quantity * r))
        omega

/-- A fill that is not negative is positive, or nothing was requested. -/
theorem filledQuantity_pos {ratio : Option ℚ} {quantity : ℤ}
    (h : filledQuantity ratio quantity < quantity) : 0 < filledQuantity ratio quantity := by
  cases ratio with
  | none => exact absurd h (lt_irrefl _)
  | some r => exact lt_of_lt_of_le one_pos (le_max_left 1 _)

/-- A fresh report is sound exactly when its order can be filled. -/
theorem fillReport_sound_iff {s : PaperBroker} (hratio : ProperRatio s.partialFillRatio)
    (nowMs : ℤ) (id : String) (tagged : TaggedOrder) :
    FillSound (s.fillReport nowMs id tagged) ↔
      Fillable s.partialFillRatio tagged.original.quantity := by
  rw [← filledQuantity_bounds_iff hratio]
  constructor
  · intro h
    exact ⟨h.nonneg, h.le_requested⟩
  · rintro ⟨hnonneg, hle⟩
    refine ⟨hnonneg, hle, ?_, ?_, rfl⟩
    · simp only [fillReport]
      split
      · rename_i heq
        simp [heq]
      · rename_i hne
        simp [hne]
    · simp only [fillReport, decide_eq_true_eq]
      constructor
      · intro hlt
        exact ⟨filledQuantity_pos hlt, hlt⟩
      · intro h
        exact h.2

/-! ## One request -/

/-- The order is filled now: its id is new and no simulated failure is due. -/
def Fresh (s : PaperBroker) (tagged : TaggedOrder) : Prop :=
  s.orders.get? tagged.original.clientOrderId = none ∧ s.remainingFailures ≤ 0

/-- `place_order` leaves the book, or files the report of a fresh fill. -/
theorem placeOrder_book (clock : ℕ → ℤ) (tagged : TaggedOrder) (s : PaperBroker) :
    (¬ Fresh s tagged ∧ (placeOrder clock tagged s).2.orders = s.orders) ∨
    (Fresh s tagged ∧ ∃ nowMs id, (placeOrder clock tagged s).2.orders =
      s.orders.set tagged.original.clientOrderId (s.fillReport nowMs id tagged)) := by
  unfold Fresh placeOrder
  cases hget : s.orders.get? tagged.original.clientOrderId with
  | some existing => exact .inl ⟨fun h => Option.some_ne_none _ h.1, rfl⟩
  | none =>
      dsimp only
      by_cases hfail : 0 < s.remainingFailures
      · rw [if_pos hfail]
        refine .inl ⟨?_, rfl⟩
        intro h
        omega
      · rw [if_neg hfail]
        exact .inr ⟨⟨rfl, not_lt.mp hfail⟩, _, _, rfl⟩

theorem placeOrder_ratio (clock : ℕ → ℤ) (tagged : TaggedOrder) (s : PaperBroker) :
    (placeOrder clock tagged s).2.partialFillRatio = s.partialFillRatio := by
  unfold placeOrder
  split
  · rfl
  · split <;> rfl

/-- A report that `place_order` returns is on record afterwards. -/
theorem placeOrder_recorded {clock : ℕ → ℤ} {tagged : TaggedOrder} {s : PaperBroker}
    {report : FillReport} (h : (placeOrder clock tagged s).1 = .ok report) :
    (placeOrder clock tagged s).2.orders.get? tagged.original.clientOrderId = some report :=
  (broker clock).place_truthful (Prod.ext h rfl)

/-- The records of the book are fills: none is open, none was cancelled. -/
def OnlyFills (s : PaperBroker) : Prop :=
  ∀ id rec, s.orders.get? id = some rec → rec.status = .filled ∨ rec.status = .partiallyFilled

/-- A book of fills has nothing to cancel. -/
theorem cancelOrder_of_onlyFills {s : PaperBroker} (h : s.OnlyFills) (id : String) :
    cancelOrder id s = (false, s) := by
  unfold cancelOrder
  cases hget : s.orders.get? id with
  | none => rfl
  | some existing => exact if_pos (h id existing hget)

theorem fillReport_status (s : PaperBroker) (nowMs : ℤ) (id : String) (tagged : TaggedOrder) :
    (s.fillReport nowMs id tagged).status = .filled ∨
      (s.fillReport nowMs id tagged).status = .partiallyFilled := by
  simp only [fillReport]
  split
  · exact .inl rfl
  · exact .inr rfl

/-- A property of all records after a fresh fill: the old records have it, and
the new one. -/
theorem forall_record_set {P : FillReport → Prop} {orders : Dict String FillReport} {id : String}
    (hnew : orders.get? id = none) (rec : FillReport) :
    (∀ id' rec', (orders.set id rec).get? id' = some rec' → P rec') ↔
      (∀ id' rec', orders.get? id' = some rec' → P rec') ∧ P rec := by
  constructor
  · intro h
    refine ⟨fun id' rec' hrec' => ?_, h id rec (Dict.get?_set_self _ _ _)⟩
    have hne : id' ≠ id := by
      rintro rfl
      rw [hnew] at hrec'
      cases hrec'
    exact h id' rec' ((Dict.get?_set_of_ne _ _ hne).trans hrec')
  · rintro ⟨hold, hrec⟩ id' rec' hget
    by_cases heq : id' = id
    · subst heq
      rw [Dict.get?_set_self] at hget
      exact Option.some.inj hget ▸ hrec
    · rw [Dict.get?_set_of_ne _ _ heq] at hget
      exact hold id' rec' hget

end PaperBroker

/-! ## The broker as a machine -/

/-- A request to the broker. -/
inductive PaperOp where
  | place (tagged : TaggedOrder)
  | query (id : String)
  | cancel (id : String)

/-- What the broker answers. -/
inductive PaperReply where
  | placed (result : Except BrokerError FillReport)
  | queried (result : Except BrokerError (Option FillReport))
  | cancelled (done : Bool)

/-- The report an answer carries. -/
def PaperReply.report : PaperReply → Option FillReport
  | .placed (.ok report) => some report
  | .queried (.ok found) => found
  | _ => none

/-- `PaperBroker`, one request at a time. -/
def paperMachine (clock : ℕ → ℤ) : Machine PaperBroker PaperOp PaperReply where
  step s op := match op with
    | .place tagged =>
        let (result, s') := PaperBroker.placeOrder clock tagged s
        (s', .placed result)
    | .query id =>
        let (result, s') := PaperBroker.queryOrder id s
        (s', .queried result)
    | .cancel id =>
        let (done, s') := PaperBroker.cancelOrder id s
        (s', .cancelled done)

/-- Every record of the book is sound. -/
def BookSound (s : PaperBroker) : Prop :=
  ∀ id rec, s.orders.get? id = some rec → FillSound rec

/-- A request fills nothing now, or an order of which a share can be filled. -/
def FillsAShare (s : PaperBroker) : PaperOp → Prop
  | .place tagged => s.Fresh tagged → Fillable s.partialFillRatio tagged.original.quantity
  | .query _ => True
  | .cancel _ => True

/-- What a run keeps: the ratio, and a book of fills. -/
structure PaperInv (ratio : Option ℚ) (s : PaperBroker) : Prop where
  ratio_eq : s.partialFillRatio = ratio
  onlyFills : s.OnlyFills

section Machine

variable {clock : ℕ → ℤ} {ratio : Option ℚ} {s : PaperBroker}

theorem paper_step_inv (op : PaperOp) (h : PaperInv ratio s) :
    PaperInv ratio ((paperMachine clock).next s op) := by
  cases op with
  | place tagged =>
      refine ⟨(PaperBroker.placeOrder_ratio clock tagged s).trans h.ratio_eq, ?_⟩
      have hfills : (PaperBroker.placeOrder clock tagged s).2.OnlyFills := by
        unfold PaperBroker.OnlyFills
        rcases PaperBroker.placeOrder_book clock tagged s with
          ⟨-, hsame⟩ | ⟨hfresh, nowMs, id, hset⟩
        · rw [hsame]
          exact h.onlyFills
        · rw [hset, PaperBroker.forall_record_set hfresh.1]
          exact ⟨h.onlyFills, PaperBroker.fillReport_status s nowMs id tagged⟩
      exact hfills
  | query id => exact h
  | cancel id =>
      have hsame : (paperMachine clock).next s (.cancel id) = s :=
        congrArg Prod.snd (PaperBroker.cancelOrder_of_onlyFills h.onlyFills id)
      rw [hsame]
      exact h

/-- A request keeps the book sound exactly when it fills a share or nothing. -/
theorem paper_step_sound_iff (hratio : ProperRatio ratio) (op : PaperOp) (h : PaperInv ratio s)
    (hsound : BookSound s) :
    BookSound ((paperMachine clock).next s op) ↔ FillsAShare s op := by
  cases op with
  | place tagged =>
      have hproper : ProperRatio s.partialFillRatio := h.ratio_eq ▸ hratio
      have hiff : BookSound (PaperBroker.placeOrder clock tagged s).2 ↔
          FillsAShare s (.place tagged) := by
        unfold BookSound FillsAShare
        rcases PaperBroker.placeOrder_book clock tagged s with
          ⟨hold, hsame⟩ | ⟨hfresh, nowMs, id, hset⟩
        · rw [hsame]
          exact iff_of_true hsound fun hfresh => absurd hfresh hold
        · rw [hset, PaperBroker.forall_record_set hfresh.1,
            PaperBroker.fillReport_sound_iff hproper]
          constructor
          · intro hboth _
            exact hboth.2
          · intro hfillable
            exact ⟨hsound, hfillable hfresh⟩
      exact hiff
  | query id => exact iff_of_true hsound trivial
  | cancel id =>
      have hsame : (paperMachine clock).next s (.cancel id) = s :=
        congrArg Prod.snd (PaperBroker.cancelOrder_of_onlyFills h.onlyFills id)
      rw [hsame]
      exact iff_of_true hsound trivial

/-- A report the broker hands out is on record after the request. -/
theorem paper_report_recorded {op : PaperOp} {report : FillReport}
    (h : ((paperMachine clock).reply s op).report = some report) :
    ∃ id, ((paperMachine clock).next s op).orders.get? id = some report := by
  cases op with
  | place tagged =>
      have hplaced : (PaperReply.placed (PaperBroker.placeOrder clock tagged s).1).report
          = some report := h
      refine ⟨tagged.original.clientOrderId, ?_⟩
      cases hresult : (PaperBroker.placeOrder clock tagged s).1 with
      | error exc =>
          rw [hresult] at hplaced
          cases hplaced
      | ok report' =>
          rw [hresult] at hplaced
          cases hplaced
          exact PaperBroker.placeOrder_recorded hresult
  | query id => exact ⟨id, h⟩
  | cancel id => cases h

/-- Along any sequence of requests, every report handed out and every record of
the book is sound exactly when every fresh fill is of an order that can be
filled. -/
theorem paper_fills_sound_iff (hratio : ProperRatio ratio) (failCount : ℤ) (ops : List PaperOp) :
    (∀ t ∈ (paperMachine clock).trans (.init ratio failCount) ops,
      BookSound t.post ∧ ∀ report, t.reply.report = some report → FillSound report) ↔
    ∀ t ∈ (paperMachine clock).trans (.init ratio failCount) ops, FillsAShare t.pre t.op := by
  have hempty : ∀ id rec, (PaperBroker.init ratio failCount).orders.get? id ≠ some rec := by
    intro id rec h
    cases h
  have hinv : PaperInv ratio (.init ratio failCount) :=
    ⟨rfl, fun id rec h => absurd h (hempty id rec)⟩
  have hsound : BookSound (.init ratio failCount) := fun id rec h => absurd h (hempty id rec)
  have hbook : (∀ t ∈ (paperMachine clock).trans (.init ratio failCount) ops, BookSound t.post) ↔
      ∀ t ∈ (paperMachine clock).trans (.init ratio failCount) ops, FillsAShare t.pre t.op :=
    (paperMachine clock).trans_forall_post_iff (fun s op h => paper_step_inv op h)
      (fun s op h => paper_step_sound_iff hratio op h) hinv hsound ops
  rw [← hbook]
  constructor
  · intro h t ht
    exact (h t ht).1
  · intro h t ht
    refine ⟨h t ht, ?_⟩
    intro report hreport
    -- the report is one of the records after the transition
    rw [(paperMachine clock).trans_fire ht] at hreport
    rcases paper_report_recorded hreport with ⟨id, hrec⟩
    have hpost := h t ht
    rw [(paperMachine clock).trans_fire ht] at hpost
    exact hpost id report hrec

end Machine

/-! ## Quantities that compliance lets through -/

/-- Compliance does not read the quantity: what it approves it approves for every
quantity. -/
theorem check_withQuantity (registry : StrategyRegistry) (auditId : String) (clockMs : ℤ)
    (order : OrderIntent) (ctx : Context) (quantity : ℤ) :
    (check registry auditId clockMs { order with quantity := quantity } ctx).approved =
      (check registry auditId clockMs order ctx).approved := by
  have hsame : violationsOf registry clockMs { order with quantity := quantity } ctx
      = violationsOf registry clockMs order ctx := rfl
  by_cases hviolations : violationsOf registry clockMs order ctx = []
  · rw [check_of_nil hviolations, check_of_nil (hsame.trans hviolations)]
  · rw [check_of_violations hviolations, check_of_violations (hsame ▸ hviolations)]

/-- An order of `quantity` shares on NSE. -/
def sharesOrder (quantity : ℤ) : OrderIntent :=
  { symbol := "ITC", exchange := "NSE", direction := "LONG", orderType := "LIMIT"
    quantity := quantity, price := some 412, stopLoss := 409, strategyName := "VWAP_REVERSION"
    clientOrderId := "ORD-31" }

/-- Every credential is the generic one. -/
def sharedCredential : StrategyRegistry := .init (fun _ => none) (some true)

/-- A run that places an order, queries and tries to cancel it. -/
def sharesRun (quantity : ℤ) : List PaperOp :=
  [.place (taggedFor sharedCredential (sharesOrder quantity)), .query "ORD-31", .cancel "ORD-31"]

theorem paper_fills_sound_iff_shares :
    (∀ t ∈ (paperMachine fun _ => 0).trans (.init (some (2 / 5)) 0) (sharesRun 7),
      BookSound t.post ∧ ∀ report, t.reply.report = some report → FillSound report) ↔
    ∀ t ∈ (paperMachine fun _ => 0).trans (.init (some (2 / 5)) 0) (sharesRun 7),
      FillsAShare t.pre t.op := by
  apply paper_fills_sound_iff
  intro r hr
  rcases Option.some.inj hr with rfl
  norm_num

/-- Compliance approves an order of no shares. With a ratio one share is filled of
it, and the stop is for that share. A negative order is filled completely. -/
theorem paper_overfills :
    ((check sharedCredential "audit-31" 0 (sharesOrder 0) {}).approved = true ∧
      ∃ report, ((paperMachine fun _ => 0).reply (.init (some (2 / 5)) 0)
          (.place (taggedFor sharedCredential (sharesOrder 0)))).report = some report ∧
        report.filledQuantity = 1 ∧ report.slQuantity = 1 ∧ report.requestedQuantity = 0 ∧
        report.status = .partiallyFilled ∧ report.isPartial = false ∧ ¬ FillSound report) ∧
    ((check sharedCredential "audit-31" 0 (sharesOrder (-4)) {}).approved = true ∧
      ∃ report, ((paperMachine fun _ => 0).reply (.init none 0)
          (.place (taggedFor sharedCredential (sharesOrder (-4))))).report = some report ∧
        report.filledQuantity = -4 ∧ report.status = .filled ∧ ¬ FillSound report) := by
  refine ⟨⟨by decide, _, rfl, by decide +kernel, by decide +kernel, by decide, by decide +kernel,
    by decide +kernel, ?_⟩, by decide, _, rfl, by decide, by decide, ?_⟩
  · intro h
    have hproper : ProperRatio (some (2 / 5)) := by
      intro r hr
      rcases Option.some.inj hr with rfl
      norm_num
    rcases (PaperBroker.fillReport_sound_iff hproper _ _ _).mp h with hone | ⟨-, hnone⟩
    · exact absurd hone (by decide)
    · cases hnone
  · intro h
    have hproper : ProperRatio none := fun r hr => nomatch hr
    rcases (PaperBroker.fillReport_sound_iff hproper _ _ _).mp h with hone | ⟨hzero, -⟩
    · exact absurd hone (by decide)
    · exact absurd hzero (by decide)

end Intraday.Execution
