import Intraday.Lib.Decimal
import Intraday.Lib.Dict
import Intraday.Execution.Broker

/-!
# Intraday.Execution.Paper — `PaperBroker`, and at-most-once execution

The in-memory broker, and sessions with it: any sequence of submissions (by any
engine, in any environment), cancellations and queries. A session keeps a book in which
every client order id has one record, every record one broker id, and every report that
came from the broker the broker id of the record.
-/

namespace Intraday.Execution

open Intraday.Core Intraday.Lib Intraday.Lib.Proc Intraday.Lib.Decimal Intraday.Compliance

/-! ## The broker -/

/-- `PaperBroker`. -/
structure PaperBroker where
  orders : Dict String FillReport
  partialFillRatio : Option ℚ
  remainingFailures : ℤ
  seq : ℕ

namespace PaperBroker

/-- `PaperBroker.__init__`. -/
def init (partialFillRatio : Option ℚ) (failCount : ℤ) : PaperBroker :=
  { orders := Dict.empty
    partialFillRatio := partialFillRatio
    remainingFailures := failCount
    seq := 0 }

/-- The broker id with number `n`. -/
def brokerId (n : ℕ) : String := "PAPER-" ++ zeroPad 6 n

theorem brokerId_injective : Function.Injective brokerId := by
  intro m n h
  exact zeroPad_injective 6 (String.append_right_inj _ |>.mp h)

/-- The quantity of a fill. -/
def filledQuantity (partialFillRatio : Option ℚ) (requested : ℤ) : ℤ :=
  match partialFillRatio with
  | some ratio => max 1 (truncate (requested * ratio))
  | none => requested

/-- The report of a new fill, with the broker id `id`. -/
def fillReport (s : PaperBroker) (nowMs : ℤ) (id : String) (tagged : TaggedOrder) : FillReport :=
  let requested := tagged.original.quantity
  let filled := filledQuantity s.partialFillRatio requested
  let price := (tagged.mppPrice.or tagged.original.price).getD tagged.original.stopLoss
  { clientOrderId := tagged.original.clientOrderId
    brokerOrderId := some id
    symbol := tagged.original.symbol
    exchange := tagged.original.exchange
    direction := tagged.original.direction
    filledQuantity := filled
    requestedQuantity := requested
    filledPrice := some price
    status := if filled = requested then .filled else .partiallyFilled
    rejectionReason := none
    placedAtMs := nowMs
    filledAtMs := some nowMs
    slippagePct := match tagged.original.price with
      | some ref => if 0 < ref then some (|price - ref| / ref * 100) else none
      | none => none
    isPartial := filled < requested
    slQuantity := filled
    attemptCount := 1
    strategyTag := tagged.strategyTag
    complianceAuditId := "" }

/-- `place_order`. `clock` gives the time at which each new order is filled. -/
def placeOrder (clock : ℕ → ℤ) (tagged : TaggedOrder) (s : PaperBroker) :
    Except BrokerError FillReport × PaperBroker :=
  match s.orders.get? tagged.original.clientOrderId with
  | some existing => (.ok existing, s)
  | none =>
      if 0 < s.remainingFailures then
        (.error (.transient ("Paper broker simulated transient error (" ++
          toString s.remainingFailures ++ " remaining)")),
          { s with remainingFailures := s.remainingFailures - 1 })
      else
        let report := s.fillReport (clock s.seq) (brokerId (s.seq + 1)) tagged
        (.ok report,
          { s with
            seq := s.seq + 1
            orders := s.orders.set tagged.original.clientOrderId report })

/-- `query_order`. -/
def queryOrder (id : String) (s : PaperBroker) :
    Except BrokerError (Option FillReport) × PaperBroker :=
  (.ok (s.orders.get? id), s)

/-- The record a cancellation leaves. -/
def cancelledReport (existing : FillReport) : FillReport :=
  { existing with
    filledQuantity := 0
    filledPrice := none
    status := .cancelled
    rejectionReason := some "cancelled"
    filledAtMs := none
    slippagePct := none
    isPartial := false
    slQuantity := 0 }

/-- `cancel_order`. -/
def cancelOrder (id : String) (s : PaperBroker) : Bool × PaperBroker :=
  match s.orders.get? id with
  | none => (false, s)
  | some existing =>
      if existing.status = .filled ∨ existing.status = .partiallyFilled then (false, s)
      else (true, { s with orders := s.orders.set id (cancelledReport existing) })

/-- `PaperBroker` keeps the broker contract. -/
def broker (clock : ℕ → ℤ) : Broker PaperBroker where
  placeOrder := placeOrder clock
  queryOrder := queryOrder
  record s id := s.orders.get? id
  place_truthful := by
    intro tagged s fill s' h
    unfold placeOrder at h
    split at h
    · rename_i existing hget
      rcases Prod.mk.inj h with ⟨hfill, rfl⟩
      rw [hget, Except.ok.inj hfill]
    · split at h
      · exact nomatch congrArg Prod.fst h
      · rcases Prod.mk.inj h with ⟨hfill, rfl⟩
        rw [← Except.ok.inj hfill]
        exact Dict.get?_set_self _ _ _
  query_truthful := by
    intro id s found s' h
    rcases Prod.mk.inj h with ⟨hfound, rfl⟩
    exact Except.ok.inj hfound
  query_keeps := by
    intro id s res s' h
    rcases Prod.mk.inj h with ⟨-, rfl⟩
    rfl
  permanent_keeps := by
    intro tagged s exc s' h
    unfold placeOrder at h
    split at h
    · exact nomatch congrArg Prod.fst h
    · split at h <;> exact nomatch congrArg Prod.fst h

/-! ## The book -/

/-- The invariant of the book: records are filed under their own id, with broker ids that
have been drawn, no two of them the same. -/
structure Inv (s : PaperBroker) : Prop where
  keyed : ∀ id rec, s.orders.get? id = some rec → rec.clientOrderId = id
  drawn : ∀ id rec, s.orders.get? id = some rec →
    ∃ n ≤ s.seq, rec.brokerOrderId = some (brokerId n)
  distinct : ∀ id₁ id₂ rec₁ rec₂, s.orders.get? id₁ = some rec₁ → s.orders.get? id₂ = some rec₂ →
    rec₁.brokerOrderId = rec₂.brokerOrderId → id₁ = id₂

/-- Every record stays, with its broker id. -/
def Extends (s s' : PaperBroker) : Prop :=
  ∀ id rec, s.orders.get? id = some rec →
    ∃ rec', s'.orders.get? id = some rec' ∧ rec'.brokerOrderId = rec.brokerOrderId

theorem Extends.refl (s : PaperBroker) : s.Extends s := fun _ rec h => ⟨rec, h, rfl⟩

theorem Extends.trans {s₁ s₂ s₃ : PaperBroker} (h₁ : s₁.Extends s₂) (h₂ : s₂.Extends s₃) :
    s₁.Extends s₃ := by
  intro id rec hrec
  rcases h₁ id rec hrec with ⟨rec₂, hrec₂, hid₂⟩
  rcases h₂ id rec₂ hrec₂ with ⟨rec₃, hrec₃, hid₃⟩
  exact ⟨rec₃, hrec₃, hid₃.trans hid₂⟩

theorem init_inv (partialFillRatio : Option ℚ) (failCount : ℤ) :
    (init partialFillRatio failCount).Inv :=
  { keyed := fun _ _ h => nomatch h
    drawn := fun _ _ h => nomatch h
    distinct := fun _ _ _ _ h => nomatch h }

variable {s s' : PaperBroker} {id : String} {rec old : FillReport}

/-- What `place_order` can do to the book: nothing, or file a new record under the next
broker id. -/
theorem placeOrder_cases (clock : ℕ → ℤ) (tagged : TaggedOrder) (s : PaperBroker) :
    ((placeOrder clock tagged s).2.orders = s.orders ∧ (placeOrder clock tagged s).2.seq = s.seq) ∨
    ∃ rec, s.orders.get? tagged.original.clientOrderId = none ∧
      rec.clientOrderId = tagged.original.clientOrderId ∧
      rec.brokerOrderId = some (brokerId (s.seq + 1)) ∧
      (placeOrder clock tagged s).2.orders =
        s.orders.set tagged.original.clientOrderId rec ∧
      (placeOrder clock tagged s).2.seq = s.seq + 1 := by
  unfold placeOrder
  cases hget : s.orders.get? tagged.original.clientOrderId with
  | some existing => exact .inl ⟨rfl, rfl⟩
  | none =>
      dsimp only
      by_cases hfail : 0 < s.remainingFailures
      · rw [if_pos hfail]
        exact .inl ⟨rfl, rfl⟩
      · rw [if_neg hfail]
        exact .inr ⟨_, rfl, rfl, rfl, rfl, rfl⟩

/-- What `cancel_order` can do to the book: nothing, or change one record but not its
ids. -/
theorem cancelOrder_cases (id : String) (s : PaperBroker) :
    (cancelOrder id s).2 = s ∨
    ∃ old rec, s.orders.get? id = some old ∧ rec.clientOrderId = old.clientOrderId ∧
      rec.brokerOrderId = old.brokerOrderId ∧
      (cancelOrder id s).2.orders = s.orders.set id rec ∧ (cancelOrder id s).2.seq = s.seq := by
  unfold cancelOrder
  cases hget : s.orders.get? id with
  | none => exact .inl rfl
  | some existing =>
      dsimp only
      by_cases hfilled : existing.status = .filled ∨ existing.status = .partiallyFilled
      · rw [if_pos hfilled]
        exact .inl rfl
      · rw [if_neg hfilled]
        exact .inr ⟨existing, cancelledReport existing, rfl, rfl, rfl, rfl, rfl⟩

/-- Filing a record under a fresh id with the next number keeps the invariant. -/
theorem Inv.file (h : s.Inv) (hnew : s.orders.get? id = none) (hkey : rec.clientOrderId = id)
    (hnum : rec.brokerOrderId = some (brokerId (s.seq + 1)))
    (horders : s'.orders = s.orders.set id rec) (hseq : s'.seq = s.seq + 1) : s'.Inv := by
  -- a record of `s'` is the new one, or an old one with a smaller number
  have hcases : ∀ id' rec', s'.orders.get? id' = some rec' →
      (id' = id ∧ rec' = rec) ∨ (id' ≠ id ∧ s.orders.get? id' = some rec') := by
    intro id' rec' hrec
    rw [horders] at hrec
    by_cases heq : id' = id
    · subst heq
      rw [Dict.get?_set_self] at hrec
      exact .inl ⟨rfl, (Option.some.inj hrec).symm⟩
    · rw [Dict.get?_set_of_ne _ _ heq] at hrec
      exact .inr ⟨heq, hrec⟩
  have hfresh : ∀ id' rec', s.orders.get? id' = some rec' →
      rec'.brokerOrderId ≠ rec.brokerOrderId := by
    intro id' rec' hrec heq
    rcases h.drawn id' rec' hrec with ⟨n, hn, hbroker⟩
    rw [hbroker, hnum] at heq
    -- the new number is larger than any drawn before
    have hnumber := brokerId_injective (Option.some.inj heq)
    omega
  refine { keyed := fun id' rec' hrec => ?_, drawn := fun id' rec' hrec => ?_
           distinct := fun id₁ id₂ rec₁ rec₂ h₁ h₂ heq => ?_ }
  · rcases hcases id' rec' hrec with ⟨rfl, rfl⟩ | ⟨-, hold⟩
    · exact hkey
    · exact h.keyed id' rec' hold
  · rcases hcases id' rec' hrec with ⟨rfl, rfl⟩ | ⟨-, hold⟩
    · exact ⟨s.seq + 1, hseq.ge, hnum⟩
    · rcases h.drawn id' rec' hold with ⟨n, hn, hbroker⟩
      exact ⟨n, by omega, hbroker⟩
  · rcases hcases id₁ rec₁ h₁ with ⟨rfl, rfl⟩ | ⟨-, hold₁⟩
    · rcases hcases id₂ rec₂ h₂ with ⟨rfl, -⟩ | ⟨-, hold₂⟩
      · rfl
      · exact absurd heq.symm (hfresh id₂ rec₂ hold₂)
    · rcases hcases id₂ rec₂ h₂ with ⟨rfl, rfl⟩ | ⟨-, hold₂⟩
      · exact absurd heq (hfresh id₁ rec₁ hold₁)
      · exact h.distinct id₁ id₂ rec₁ rec₂ hold₁ hold₂ heq

/-- Changing a record but not its ids keeps the invariant. -/
theorem Inv.refile (h : s.Inv) (hold : s.orders.get? id = some old)
    (hkey : rec.clientOrderId = old.clientOrderId) (hnum : rec.brokerOrderId = old.brokerOrderId)
    (horders : s'.orders = s.orders.set id rec) (hseq : s'.seq = s.seq) : s'.Inv := by
  -- every record of `s'` has the ids of a record of `s`
  have hcases : ∀ id' rec', s'.orders.get? id' = some rec' →
      ∃ rec'', s.orders.get? id' = some rec'' ∧ rec'.clientOrderId = rec''.clientOrderId ∧
        rec'.brokerOrderId = rec''.brokerOrderId := by
    intro id' rec' hrec
    rw [horders] at hrec
    by_cases heq : id' = id
    · subst heq
      rw [Dict.get?_set_self] at hrec
      rcases Option.some.inj hrec with rfl
      exact ⟨old, hold, hkey, hnum⟩
    · rw [Dict.get?_set_of_ne _ _ heq] at hrec
      exact ⟨rec', hrec, rfl, rfl⟩
  refine { keyed := fun id' rec' hrec => ?_, drawn := fun id' rec' hrec => ?_
           distinct := fun id₁ id₂ rec₁ rec₂ h₁ h₂ heq => ?_ }
  · rcases hcases id' rec' hrec with ⟨rec'', hrec'', hk, -⟩
    exact hk.trans (h.keyed id' rec'' hrec'')
  · rcases hcases id' rec' hrec with ⟨rec'', hrec'', -, hn⟩
    rw [hn, hseq]
    exact h.drawn id' rec'' hrec''
  · rcases hcases id₁ rec₁ h₁ with ⟨rec₁', h₁', -, hn₁⟩
    rcases hcases id₂ rec₂ h₂ with ⟨rec₂', h₂', -, hn₂⟩
    exact h.distinct id₁ id₂ rec₁' rec₂' h₁' h₂' (hn₁.symm.trans (heq.trans hn₂))

/-- A new record does not touch the others; a changed one keeps its broker id. -/
theorem extends_set (horders : s'.orders = s.orders.set id rec)
    (hsame : ∀ old, s.orders.get? id = some old → rec.brokerOrderId = old.brokerOrderId) :
    s.Extends s' := by
  intro id' rec' hrec
  by_cases heq : id' = id
  · subst heq
    exact ⟨rec, by rw [horders, Dict.get?_set_self], hsame rec' hrec⟩
  · exact ⟨rec', by rw [horders, Dict.get?_set_of_ne _ _ heq]; exact hrec, rfl⟩

theorem extends_of_orders_eq (h : s'.orders = s.orders) : s.Extends s' := by
  intro id rec hrec
  exact ⟨rec, by rw [h]; exact hrec, rfl⟩

theorem placeOrder_inv (clock : ℕ → ℤ) (tagged : TaggedOrder) (h : s.Inv) :
    (placeOrder clock tagged s).2.Inv ∧ s.Extends (placeOrder clock tagged s).2 := by
  rcases placeOrder_cases clock tagged s with
    ⟨horders, hseq⟩ | ⟨rec, hnew, hkey, hnum, horders, hseq⟩
  · refine ⟨?_, extends_of_orders_eq horders⟩
    exact { keyed := horders ▸ h.keyed, drawn := by rw [horders, hseq]; exact h.drawn
            distinct := horders ▸ h.distinct }
  · refine ⟨h.file hnew hkey hnum horders hseq, extends_set horders ?_⟩
    intro old hold
    rw [hnew] at hold
    exact nomatch hold

theorem cancelOrder_inv (id : String) (h : s.Inv) :
    (cancelOrder id s).2.Inv ∧ s.Extends (cancelOrder id s).2 := by
  rcases cancelOrder_cases id s with heq | ⟨old, rec, hold, hkey, hnum, horders, hseq⟩
  · rw [heq]
    exact ⟨h, .refl s⟩
  · refine ⟨h.refile hold hkey hnum horders hseq, extends_set horders ?_⟩
    intro old' hold'
    rw [hold] at hold'
    exact Option.some.inj hold' ▸ hnum

end PaperBroker

/-! ## Sessions -/

/-- The report of a submission, filed under the client order id, if it did not raise. -/
def reportOf (id : String) : Except String FillReport → List (String × FillReport)
  | .ok report => [(id, report)]
  | .error _ => []

/-- A session with one `PaperBroker`: the reports it gave, in order, and the broker after
it. Each submission may use another engine and run in any environment. -/
inductive Session (clock : ℕ → ℤ) (partialFillRatio : Option ℚ) (failCount : ℤ) :
    List (String × FillReport) → PaperBroker → Prop where
  | start : Session clock partialFillRatio failCount [] (.init partialFillRatio failCount)
  | submit {hist : List (String × FillReport)} {s s' : PaperBroker} {tr : List Event}
      {r : Except String FillReport} (e : ExecutionEngine) (order : OrderIntent) (ctx : Context) :
      Session clock partialFillRatio failCount hist s → Exec (submit e order ctx) tr r →
      (PaperBroker.broker clock).Answers s tr s' →
      Session clock partialFillRatio failCount (hist ++ reportOf order.clientOrderId r) s'
  | query {hist : List (String × FillReport)} {s : PaperBroker} (id : String) :
      Session clock partialFillRatio failCount hist s →
      Session clock partialFillRatio failCount
        (hist ++ (s.orders.get? id).toList.map fun report => (id, report)) s
  | cancel {hist : List (String × FillReport)} {s : PaperBroker} (id : String) :
      Session clock partialFillRatio failCount hist s →
      Session clock partialFillRatio failCount hist (PaperBroker.cancelOrder id s).2

/-- The engine's own rejection: it carries no broker id. -/
def IsEngineRejection (report : FillReport) : Prop :=
  report.status = .rejected ∧ report.brokerOrderId = none

/-- A report given for the id is an engine rejection, or has the broker id of the
record. -/
def Backed (s : PaperBroker) (id : String) (report : FillReport) : Prop :=
  IsEngineRejection report ∨
    ∃ rec, s.orders.get? id = some rec ∧ rec.brokerOrderId = report.brokerOrderId

section Sessions

variable {clock : ℕ → ℤ} {partialFillRatio : Option ℚ} {failCount : ℤ}
  {hist : List (String × FillReport)} {s s' : PaperBroker} {e : ExecutionEngine}
  {order : OrderIntent} {ctx : Context} {tr : List Event} {r : Except String FillReport}

theorem Backed.extend {id : String} {report : FillReport} (h : Backed s id report)
    (hext : s.Extends s') : Backed s' id report := by
  rcases h with hrej | ⟨rec, hrec, hid⟩
  · exact .inl hrej
  · rcases hext id rec hrec with ⟨rec', hrec', hid'⟩
    exact .inr ⟨rec', hrec', hid'.trans hid⟩

/-- A submission keeps the book. -/
theorem submit_inv (hans : (PaperBroker.broker clock).Answers s tr s') (h : s.Inv) :
    s'.Inv ∧ s.Extends s' := by
  refine Broker.answers_invariant (fun s' => s'.Inv ∧ s.Extends s') ?_ ?_ hans ⟨h, .refl s⟩
  · rintro tagged s₁ ⟨hinv, hext⟩
    rcases PaperBroker.placeOrder_inv clock tagged hinv with ⟨hinv', hext'⟩
    exact ⟨hinv', hext.trans hext'⟩
  · exact fun id s₁ hs₁ => hs₁

/-- A submission reports a rejection of the engine, or the record. -/
theorem submit_backed (hexec : Exec (submit e order ctx) tr r)
    (hans : (PaperBroker.broker clock).Answers s tr s') :
    ∀ report, r = .ok report → Backed s' order.clientOrderId report := by
  rintro report rfl
  rcases exec_submit_broker hexec hans with
    ⟨-, -, report', heq, hrej⟩ | ⟨nowMs, auditId, post, -, -, rfl, hshow, -, -⟩
  · rcases Except.ok.inj heq with rfl
    exact .inl ⟨hrej.1, hrej.2.1⟩
  · have hrec := Ticket.recorded_replay (b := PaperBroker.broker clock)
      (t := ticket e order auditId) rfl e.attempts s
    cases hending : ((ticket e order auditId).replay (PaperBroker.broker clock) e.attempts s).1 with
    | reported fill =>
        rw [hending] at hshow
        rcases hshow with ⟨⟨attempt, heq⟩, -⟩
        rcases Except.ok.inj heq with rfl
        exact .inr ⟨fill, hrec fill hending, rfl⟩
    | deadLettered =>
        -- the engine's own rejection, whatever the broker holds
        rw [hending] at hshow
        have hrej := hshow.2 report rfl
        exact .inl ⟨hrej.1, hrej.2.1⟩
    | raised =>
        rw [hending] at hshow
        rcases hshow with ⟨⟨exc, heq⟩, -⟩
        exact nomatch heq

/-- The invariant of a session: the book, and every report given is backed by it. -/
theorem session_inv (h : Session clock partialFillRatio failCount hist s) :
    s.Inv ∧ ∀ id report, (id, report) ∈ hist → Backed s id report := by
  induction h with
  | start => exact ⟨PaperBroker.init_inv _ _, fun _ _ h => nomatch h⟩
  | @submit hist s s' tr r e order ctx _ hexec hans ih =>
      rcases submit_inv hans ih.1 with ⟨hinv, hext⟩
      refine ⟨hinv, ?_⟩
      intro id report hmem
      rcases List.mem_append.mp hmem with hmem | hmem
      · -- an older report: its record kept its broker id
        exact (ih.2 id report hmem).extend hext
      · cases r with
        | error exc => exact nomatch hmem
        | ok report' =>
            rcases Prod.mk.inj (List.mem_singleton.mp hmem) with ⟨rfl, rfl⟩
            exact submit_backed hexec hans _ rfl
  | @query hist s id' _ ih =>
      refine ⟨ih.1, ?_⟩
      intro id report hmem
      rcases List.mem_append.mp hmem with hmem | hmem
      · exact ih.2 id report hmem
      · rcases List.mem_map.mp hmem with ⟨rec, hrec, heq⟩
        rcases Prod.mk.inj heq with ⟨rfl, rfl⟩
        exact .inr ⟨rec, Option.mem_toList.mp hrec, rfl⟩
  | @cancel hist s id' _ ih =>
      rcases PaperBroker.cancelOrder_inv id' ih.1 with ⟨hinv, hext⟩
      exact ⟨hinv, fun id report hmem => (ih.2 id report hmem).extend hext⟩

theorem IsEngineRejection.ne_some {report : FillReport} (h : IsEngineRejection report)
    (bid : String) : report.brokerOrderId ≠ some bid := by
  rw [h.2]
  exact nofun

/-- At-most-once execution. After any session, a client order id has at most one record;
all reports given for it that are not the engine's own rejections carry one broker id; and
no broker id is on record or reported for two client order ids. -/
theorem paper_at_most_once (h : Session clock partialFillRatio failCount hist s) :
    (∀ rec₁ ∈ s.orders.values, ∀ rec₂ ∈ s.orders.values,
      rec₁.clientOrderId = rec₂.clientOrderId → rec₁ = rec₂) ∧
    (∀ id report₁ report₂, (id, report₁) ∈ hist → (id, report₂) ∈ hist →
      ¬ IsEngineRejection report₁ → ¬ IsEngineRejection report₂ →
        ∃ bid, report₁.brokerOrderId = some bid ∧ report₂.brokerOrderId = some bid) ∧
    (∀ id₁ id₂ rec₁ rec₂, s.orders.get? id₁ = some rec₁ → s.orders.get? id₂ = some rec₂ →
      rec₁.brokerOrderId = rec₂.brokerOrderId → id₁ = id₂) ∧
    (∀ id₁ id₂ report₁ report₂ bid, (id₁, report₁) ∈ hist → (id₂, report₂) ∈ hist →
      report₁.brokerOrderId = some bid → report₂.brokerOrderId = some bid → id₁ = id₂) := by
  rcases session_inv h with ⟨hinv, hback⟩
  refine ⟨?_, ?_, hinv.distinct, ?_⟩
  · intro rec₁ hmem₁ rec₂ hmem₂ heq
    rcases List.mem_map.mp hmem₁ with ⟨⟨id₁, _⟩, hentry₁, rfl⟩
    rcases List.mem_map.mp hmem₂ with ⟨⟨id₂, _⟩, hentry₂, rfl⟩
    have hget₁ := Dict.get?_eq_some_iff.mpr hentry₁
    have hget₂ := Dict.get?_eq_some_iff.mpr hentry₂
    -- both are filed under their common id
    obtain rfl : id₁ = id₂ :=
      (hinv.keyed _ _ hget₁).symm.trans (heq.trans (hinv.keyed _ _ hget₂))
    exact Option.some.inj (hget₁.symm.trans hget₂)
  · intro id report₁ report₂ hmem₁ hmem₂ hrej₁ hrej₂
    rcases (hback id report₁ hmem₁).resolve_left hrej₁ with ⟨rec₁, hrec₁, hid₁⟩
    rcases (hback id report₂ hmem₂).resolve_left hrej₂ with ⟨rec₂, hrec₂, hid₂⟩
    obtain rfl : rec₁ = rec₂ := Option.some.inj (hrec₁.symm.trans hrec₂)
    rcases hinv.drawn id rec₁ hrec₁ with ⟨n, -, hbroker⟩
    exact ⟨PaperBroker.brokerId n, hid₁.symm.trans hbroker, hid₂.symm.trans hbroker⟩
  · intro id₁ id₂ report₁ report₂ bid hmem₁ hmem₂ hbid₁ hbid₂
    rcases (hback id₁ report₁ hmem₁).resolve_left fun hrej => hrej.ne_some bid hbid₁ with
      ⟨rec₁, hrec₁, hid₁⟩
    rcases (hback id₂ report₂ hmem₂).resolve_left fun hrej => hrej.ne_some bid hbid₂ with
      ⟨rec₂, hrec₂, hid₂⟩
    exact hinv.distinct id₁ id₂ rec₁ rec₂ hrec₁ hrec₂
      (hid₁.trans (hbid₁.trans (hbid₂.symm.trans hid₂.symm)))

/-! ### A filled order, submitted again after a halt -/

/-- A halted flag rejects the order, and the broker is not asked. -/
theorem exists_halted_run (e : ExecutionEngine) (order : OrderIntent) (ctx : Context)
    (hreads : ReadsFlag e order) :
    ∃ tr report, Exec (submit e order ctx) tr (.ok report) ∧ IsRejection order report ∧
      ∀ ev ∈ tr, ¬ IsBroker ev.1 := by
  have hhalted : isHalted (.bytes "true".toByteArray) = true := by simp [isHalted, readFlag]
  obtain ⟨report, hfill, hrej⟩ : ∃ report,
      Exec (makeRejectedFill order "System is halted — kill switch active" "" "" 0)
        [⟨.timeMs, (0 : ℤ)⟩] (.ok report) ∧ IsRejection order report :=
    ⟨_, .call (.ret _), rfl, rfl, rfl⟩
  have hpre : Exec (precheck e order ctx (ctx.nowMs.getD 0))
      (flagEvents e order (.bytes "true".toByteArray) ++ [⟨.timeMs, (0 : ℤ)⟩]) (.ok report) :=
    exec_precheck_iff.mpr ⟨_, _, rfl, .inl ⟨hreads, hhalted, hfill⟩⟩
  refine ⟨_, report, exec_submit_iff.mpr ⟨_, _, fun t ht => by simp [ht], rfl, hpre⟩, hrej, ?_⟩
  exact not_isBroker_readings (by simp [IsBroker])

/-- An engine with a Redis client and no retries. -/
def onceEngine : ExecutionEngine := .init (.init (fun _ => none) (some true)) true (some 0) (some 0)

/-- An order on `PAPER`. -/
def simulatedOrder : OrderIntent :=
  { symbol := "BHP", exchange := "PAPER", direction := "LONG", orderType := "LIMIT", quantity := 10
    price := some 45, stopLoss := 44, strategyName := "ORB_BREAKOUT", clientOrderId := "ORD-7" }

/-- A session that fills an order and, after a halt, rejects it. -/
theorem exists_resubmission : ∃ fill rejection s,
    Session (fun _ => 0) none 0 [("ORD-7", fill), ("ORD-7", rejection)] s ∧
      fill.brokerOrderId = some "PAPER-000001" ∧ IsEngineRejection rejection := by
  have hcomp : Compliant onceEngine simulatedOrder { nowMs := some 0 } 0 :=
    violationsOf_other (by decide) (by decide)
  have hends := Ticket.endsLike_loop (b := PaperBroker.broker fun _ => 0)
    (t := ticket onceEngine simulatedOrder "") 1 (.init none 0)
  rcases hends.2 with ⟨post, r, hloop, hans⟩
  rcases (hends.1 post r _ hloop hans).2 with ⟨⟨attempt, rfl⟩, -⟩
  have hstart : Session (fun _ => 0) none 0 [] (.init none 0) := .start
  have hfirst := hstart.submit onceEngine simulatedOrder { nowMs := some 0 }
    (exec_submit_of_loop (fun t ht => Option.some.inj ht)
      (fun _ => isHalted_missing) hcomp hloop)
    (Broker.answers_append.mpr
      ⟨_, (Broker.answers_of_not_isBroker not_isBroker_front).mpr rfl, hans⟩)
  -- the same order again, with the flag set
  rcases exists_halted_run onceEngine simulatedOrder {} ⟨rfl, rfl⟩ with
    ⟨tr, rejection, hexec, hrej, hnone⟩
  have hsecond := hfirst.submit onceEngine simulatedOrder {} hexec
    ((Broker.answers_of_not_isBroker hnone).mpr rfl)
  exact ⟨_, rejection, _, hsecond, rfl, hrej.1, hrej.2.1⟩

/-- At-most-once, on that session: the record is unique and both reports are accounted
for. -/
theorem paper_at_most_once_resubmission : ∃ fill rejection s,
    Session (fun _ => 0) none 0 [("ORD-7", fill), ("ORD-7", rejection)] s ∧
      ∀ rec₁ ∈ s.orders.values, ∀ rec₂ ∈ s.orders.values,
        rec₁.clientOrderId = rec₂.clientOrderId → rec₁ = rec₂ := by
  rcases exists_resubmission with ⟨fill, rejection, s, hsession, -⟩
  exact ⟨fill, rejection, s, hsession, (paper_at_most_once hsession).1⟩

/-- A later report need not carry the broker id: the rejection after the halt has none. -/
theorem rejection_loses_broker_id :
    ¬ ∀ clock partialFillRatio failCount before id report later s,
      Session clock partialFillRatio failCount (before ++ (id, report) :: later) s →
        report.brokerOrderId ≠ none → ∀ report', (id, report') ∈ later →
          report'.brokerOrderId = report.brokerOrderId := by
  intro h
  rcases exists_resubmission with ⟨fill, rejection, s, hsession, hfill, hrej⟩
  have heq := h _ _ _ [] "ORD-7" fill [("ORD-7", rejection)] s hsession (by simp [hfill]) rejection
    (List.mem_singleton_self _)
  rw [hfill, hrej.2] at heq
  exact nomatch heq

end Sessions

end Intraday.Execution
