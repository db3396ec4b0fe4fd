import Intraday.Reconciliation.Differ

/-!
# Intraday.Reconciliation.OrderDiff — what the order diff does not see

Orders are held by client order id. An unmatched broker order that a later one with the same
id overwrites is reported only if another mismatch happens to name its symbol; and of two
matched orders only the held ones are compared, by status and not by filled quantity. The
order diff is complete exactly if none of this makes a difference (`orders_complete_iff`).
-/

namespace Intraday.Reconciliation

open Intraday.Lib

variable {upper : String → String} {broker : List BrokerOrder} {internal : List InternalOrder}
  {ts : ℤ} {coid : String} {b b' : BrokerOrder} {i i' : InternalOrder}

/-- The broker order that is held under an id: the last one. -/
def heldBroker (broker : List BrokerOrder) (coid : String) : Option BrokerOrder :=
  (Dict.ofList BrokerOrder.clientOrderId broker).get? coid

/-- The internal order that is held under an id: the last one. -/
def heldInternal (internal : List InternalOrder) (coid : String) : Option InternalOrder :=
  (Dict.ofList InternalOrder.clientOrderId internal).get? coid

/-- No internal order has the id of `b`. -/
def Unmatched (internal : List InternalOrder) (b : BrokerOrder) : Prop :=
  ∀ i ∈ internal, i.clientOrderId ≠ b.clientOrderId

theorem heldInternal_eq_none_iff : heldInternal internal b.clientOrderId = none ↔
    Unmatched internal b :=
  Dict.get?_ofList_eq_none_iff

theorem heldBroker_mem (h : heldBroker broker coid = some b) :
    b ∈ broker ∧ b.clientOrderId = coid :=
  Dict.get?_ofList_eq_some h

theorem heldInternal_mem (h : heldInternal internal coid = some i) :
    i ∈ internal ∧ i.clientOrderId = coid :=
  Dict.get?_ofList_eq_some h

theorem exists_heldBroker (h : b ∈ broker) : ∃ b', heldBroker broker b.clientOrderId = some b' :=
  Dict.exists_get?_ofList BrokerOrder.clientOrderId h

theorem exists_heldInternal (h : i ∈ internal) :
    ∃ i', heldInternal internal i.clientOrderId = some i' :=
  Dict.exists_get?_ofList InternalOrder.clientOrderId h

/-! ## What the diff reports -/

/-- A held order with this symbol and exchange is reported: an internal one that the broker
does not have or has in another status, or a broker order that is unmatched. -/
def Reported (upper : String → String) (broker : List BrokerOrder)
    (internal : List InternalOrder) (symbol exchange : String) : Prop :=
  (∃ coid i, heldInternal internal coid = some i ∧ i.symbol = symbol ∧ i.exchange = exchange ∧
    ∀ b, heldBroker broker coid = some b → upper b.status ≠ upper i.status) ∨
  ∃ coid b, heldBroker broker coid = some b ∧ b.symbol = symbol ∧ b.exchange = exchange ∧
    Unmatched internal b

theorem mem_diffOrders {m : ReconciliationMismatch} :
    m ∈ diffOrders upper broker internal ts ↔
      (∃ coid i, heldInternal internal coid = some i ∧
        m ∈ compareOrder upper ts (heldBroker broker coid) i) ∨
      ∃ coid b, heldBroker broker coid = some b ∧
        m ∈ unexpectedOrder ts (heldInternal internal coid) b := by
  simp only [diffOrders, List.mem_append, List.mem_flatMap, Prod.exists, heldInternal, heldBroker,
    Dict.get?_eq_some_iff]

theorem exists_mem_compareOrder {held : Option BrokerOrder} {symbol exchange : String} :
    (∃ m ∈ compareOrder upper ts held i, m.symbol = symbol ∧ m.exchange = exchange) ↔
      i.symbol = symbol ∧ i.exchange = exchange ∧
        ∀ b, held = some b → upper b.status ≠ upper i.status := by
  cases held with
  | none => simp [compareOrder]
  | some b =>
      by_cases hstatus : upper b.status = upper i.status
      · simp [compareOrder, hstatus]
      · simp [compareOrder, hstatus]

theorem exists_mem_unexpectedOrder {held : Option InternalOrder} {symbol exchange : String} :
    (∃ m ∈ unexpectedOrder ts held b, m.symbol = symbol ∧ m.exchange = exchange) ↔
      b.symbol = symbol ∧ b.exchange = exchange ∧ held = none := by
  cases held with
  | none => simp [unexpectedOrder]
  | some i => simp [unexpectedOrder]

/-- The symbols and exchanges that the diff names. -/
theorem exists_mem_diffOrders {symbol exchange : String} :
    (∃ m ∈ diffOrders upper broker internal ts, m.symbol = symbol ∧ m.exchange = exchange) ↔
      Reported upper broker internal symbol exchange := by
  constructor
  · rintro ⟨m, hm, hnames⟩
    rcases mem_diffOrders.mp hm with ⟨coid, i, hi, hmem⟩ | ⟨coid, b, hb, hmem⟩
    · exact .inl ⟨coid, i, hi, exists_mem_compareOrder.mp ⟨m, hmem, hnames⟩⟩
    · rcases exists_mem_unexpectedOrder.mp ⟨m, hmem, hnames⟩ with ⟨hsymbol, hexchange, hnone⟩
      rw [← (heldBroker_mem hb).2] at hnone
      exact .inr ⟨coid, b, hb, hsymbol, hexchange, heldInternal_eq_none_iff.mp hnone⟩
  · rintro (⟨coid, i, hi, hreported⟩ | ⟨coid, b, hb, hsymbol, hexchange, hunmatched⟩)
    · rcases exists_mem_compareOrder.mpr hreported with ⟨m, hmem, hnames⟩
      exact ⟨m, mem_diffOrders.mpr (.inl ⟨coid, i, hi, hmem⟩), hnames⟩
    · have hnone : heldInternal internal coid = none := by
        rw [← (heldBroker_mem hb).2]
        exact heldInternal_eq_none_iff.mpr hunmatched
      rcases exists_mem_unexpectedOrder.mpr ⟨hsymbol, hexchange, hnone⟩ with ⟨m, hmem, hnames⟩
      exact ⟨m, mem_diffOrders.mpr (.inr ⟨coid, b, hb, hmem⟩), hnames⟩

/-- The diff is empty exactly if every order is matched and the held orders agree in status. -/
def Quiet (upper : String → String) (broker : List BrokerOrder)
    (internal : List InternalOrder) : Prop :=
  (∀ coid i, heldInternal internal coid = some i →
    ∃ b, heldBroker broker coid = some b ∧ upper b.status = upper i.status) ∧
  ∀ b ∈ broker, ¬ Unmatched internal b

theorem diffOrders_eq_nil_iff :
    diffOrders upper broker internal ts = [] ↔ Quiet upper broker internal := by
  constructor
  · intro hnil
    have hnone : ∀ symbol exchange, ¬ Reported upper broker internal symbol exchange := by
      intro symbol exchange hreported
      have hnamed : ∃ m ∈ diffOrders upper broker internal ts,
          m.symbol = symbol ∧ m.exchange = exchange := exists_mem_diffOrders.mpr hreported
      rcases hnamed with ⟨m, hm, -⟩
      rw [hnil] at hm
      cases hm
    constructor
    · intro coid i hi
      by_contra hdiffers
      refine hnone i.symbol i.exchange (.inl ⟨coid, i, hi, rfl, rfl, ?_⟩)
      intro b hb hstatus
      exact hdiffers ⟨b, hb, hstatus⟩
    · intro b hb hunmatched
      rcases exists_heldBroker hb with ⟨b', hb'⟩
      have hid : b'.clientOrderId = b.clientOrderId := (heldBroker_mem hb').2
      refine hnone b'.symbol b'.exchange (.inr ⟨_, b', hb', rfl, rfl, ?_⟩)
      intro i hi
      rw [hid]
      exact hunmatched i hi
  · rintro ⟨hheld, hmatched⟩
    by_contra hne
    rcases List.exists_mem_of_ne_nil _ hne with ⟨m, hm⟩
    rcases exists_mem_diffOrders.mp ⟨m, hm, rfl, rfl⟩ with
      ⟨coid, i, hi, -, -, hdiffers⟩ | ⟨coid, b, hb, -, -, hunmatched⟩
    · rcases hheld coid i hi with ⟨b, hb, hstatus⟩
      exact hdiffers b hb hstatus
    · exact hmatched b (heldBroker_mem hb).1 hunmatched

/-! ## Completeness -/

/-- The order diff is complete: it names every unmatched broker order, and if it is empty,
then matched orders agree in status and filled quantity. -/
structure OrdersComplete (upper : String → String) (broker : List BrokerOrder)
    (internal : List InternalOrder) (ts : ℤ) : Prop where
  named : ∀ b ∈ broker, Unmatched internal b →
    ∃ m ∈ diffOrders upper broker internal ts, m.symbol = b.symbol ∧ m.exchange = b.exchange
  agree : diffOrders upper broker internal ts = [] → ∀ b ∈ broker, ∀ i ∈ internal,
    b.clientOrderId = i.clientOrderId →
      upper b.status = upper i.status ∧ b.filledQuantity = i.filledQuantity

/-- Every unmatched broker order that is overwritten has the symbol and the exchange of the
order that overwrites it, or those of another reported order. -/
def OverwrittenNamed (upper : String → String) (broker : List BrokerOrder)
    (internal : List InternalOrder) : Prop :=
  ∀ b ∈ broker, Unmatched internal b → ∀ b', heldBroker broker b.clientOrderId = some b' →
    (b'.symbol = b.symbol ∧ b'.exchange = b.exchange) ∨
      Reported upper broker internal b.symbol b.exchange

/-- Overwritten orders agree with the held ones of their id, and held orders agree in their
filled quantity. -/
structure Uniform (upper : String → String) (broker : List BrokerOrder)
    (internal : List InternalOrder) : Prop where
  brokerSide : ∀ b ∈ broker, ∀ b', heldBroker broker b.clientOrderId = some b' →
    upper b.status = upper b'.status ∧ b.filledQuantity = b'.filledQuantity
  internalSide : ∀ i ∈ internal, ∀ i', heldInternal internal i.clientOrderId = some i' →
    upper i.status = upper i'.status ∧ i.filledQuantity = i'.filledQuantity
  filled : ∀ coid b i, heldBroker broker coid = some b → heldInternal internal coid = some i →
    b.filledQuantity = i.filledQuantity

theorem named_iff :
    (∀ b ∈ broker, Unmatched internal b → ∃ m ∈ diffOrders upper broker internal ts,
      m.symbol = b.symbol ∧ m.exchange = b.exchange) ↔
      OverwrittenNamed upper broker internal := by
  simp only [exists_mem_diffOrders]
  constructor
  · intro h b hb hunmatched b' _
    exact .inr (h b hb hunmatched)
  · intro h b hb hunmatched
    rcases exists_heldBroker hb with ⟨b', hb'⟩
    rcases h b hb hunmatched b' hb' with ⟨hsymbol, hexchange⟩ | hreported
    · have hid : b'.clientOrderId = b.clientOrderId := (heldBroker_mem hb').2
      refine .inr ⟨_, b', hb', hsymbol, hexchange, ?_⟩
      intro i hi
      rw [hid]
      exact hunmatched i hi
    · exact hreported

/-- Where the diff is empty, matched orders agree exactly if the orders are uniform. -/
theorem agree_iff (hquiet : Quiet upper broker internal) :
    (∀ b ∈ broker, ∀ i ∈ internal, b.clientOrderId = i.clientOrderId →
      upper b.status = upper i.status ∧ b.filledQuantity = i.filledQuantity) ↔
      Uniform upper broker internal := by
  constructor
  · intro h
    constructor
    · intro b hb b' hb'
      rcases heldBroker_mem hb' with ⟨hmem, hid⟩
      have hmatched := hquiet.2 b hb
      rw [Unmatched] at hmatched
      push Not at hmatched
      rcases hmatched with ⟨i, hi, hids⟩
      have hagree := h b hb i hi hids.symm
      have hagree' := h b' hmem i hi (hid.trans hids.symm)
      exact ⟨hagree.1.trans hagree'.1.symm, hagree.2.trans hagree'.2.symm⟩
    · intro i hi i' hi'
      rcases heldInternal_mem hi' with ⟨hmem, hid⟩
      rcases hquiet.1 _ i' hi' with ⟨b, hb, -⟩
      rcases heldBroker_mem hb with ⟨hbmem, hbid⟩
      have hagree := h b hbmem i hi hbid
      have hagree' := h b hbmem i' hmem (hbid.trans hid.symm)
      exact ⟨hagree.1.symm.trans hagree'.1, hagree.2.symm.trans hagree'.2⟩
    · intro coid b i hb hi
      rcases heldBroker_mem hb with ⟨hbmem, hbid⟩
      rcases heldInternal_mem hi with ⟨himem, hiid⟩
      exact (h b hbmem i himem (hbid.trans hiid.symm)).2
  · intro h b hb i hi hids
    rcases exists_heldBroker hb with ⟨b', hb'⟩
    rcases exists_heldInternal hi with ⟨i', hi'⟩
    rw [hids] at hb'
    rcases hquiet.1 _ i' hi' with ⟨b'', hb'', hstatus⟩
    obtain rfl := Option.some.inj (hb'.symm.trans hb'')
    have hbroker := h.brokerSide b hb b' (hids ▸ hb')
    have hinternal := h.internalSide i hi i' hi'
    have hfilled := h.filled _ b' i' hb' hi'
    exact ⟨(hbroker.1.trans hstatus).trans hinternal.1.symm,
      (hbroker.2.trans hfilled).trans hinternal.2.symm⟩

/-- The order diff is complete exactly if overwritten orders are named anyway and, unless the
diff has something to report, the orders under one id are uniform. -/
theorem orders_complete_iff (upper : String → String) (broker : List BrokerOrder)
    (internal : List InternalOrder) (ts : ℤ) :
    OrdersComplete upper broker internal ts ↔
      OverwrittenNamed upper broker internal ∧
        (Quiet upper broker internal → Uniform upper broker internal) := by
  constructor
  · intro h
    refine ⟨named_iff.mp h.named, ?_⟩
    intro hquiet
    exact (agree_iff hquiet).mp (h.agree (diffOrders_eq_nil_iff.mpr hquiet))
  · rintro ⟨hnamed, huniform⟩
    refine ⟨named_iff.mpr hnamed, ?_⟩
    intro hnil
    have hquiet := diffOrders_eq_nil_iff.mp hnil
    exact (agree_iff hquiet).mpr (huniform hquiet)

/-- Two orders placed at the terminal, both without a client order id. -/
def terminalOrders : List BrokerOrder :=
  [{ orderId := "1", clientOrderId := "", symbol := "INFY", exchange := "NSE", status := "OPEN"
     quantity := 10, filledQuantity := 0, avgPrice := 0 },
    { orderId := "2", clientOrderId := "", symbol := "TCS", exchange := "NSE", status := "OPEN"
      quantity := 5, filledQuantity := 0, avgPrice := 0 }]

/-- Only the second of them is reported. -/
theorem first_terminal_order_is_not_named :
    ¬ OrdersComplete String.toUpper terminalOrders [] 0 := by
  intro h
  have hall : ∀ m ∈ diffOrders String.toUpper terminalOrders [] 0, m.symbol = "TCS" := by decide
  rcases h.named _ (List.mem_cons_self ..) (by simp [Unmatched]) with ⟨m, hm, hsymbol, -⟩
  exact absurd ((hall m hm).symm.trans hsymbol) (by decide)

end Intraday.Reconciliation
