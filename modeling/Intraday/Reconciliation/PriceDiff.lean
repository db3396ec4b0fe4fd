import Mathlib.Algebra.Order.Field.Basic
import Intraday.Reconciliation.Differ

/-!
# Intraday.Reconciliation.PriceDiff — closed positions and zero prices in the position diff

What the diff should report of a symbol on an exchange: nothing when the position
is closed on both sides, and of a position that is not, a price mismatch exactly
when the prices differ. The price test of the code does not look at the
quantities and does not run for an internal price of zero or below. The diff is
sound exactly for the positions on which neither shows.
-/

namespace Intraday.Reconciliation

open Intraday.Core Intraday.Lib Intraday.Lib.Decimal

/-! ## What a sound diff reports -/

/-- The average prices differ by more than the tolerance. -/
def PricesDiffer (broker : BrokerPosition) (internal : InternalPosition) : Prop :=
  reconciliationTolerancePricePct * |internal.avgPrice| < |broker.avgPrice - internal.avgPrice|

/-- The two positions are of one symbol on one exchange. -/
def SamePair (broker : BrokerPosition) (internal : InternalPosition) : Prop :=
  broker.symbol = internal.symbol ∧ broker.exchange = internal.exchange

/-- A symbol on an exchange is closed or absent on both sides. -/
def Flat (brokers : List BrokerPosition) (internals : List InternalPosition)
    (symbol exchange : String) : Prop :=
  (∀ b ∈ brokers, b.symbol = symbol → b.exchange = exchange → b.quantity = 0) ∧
    ∀ i ∈ internals, i.symbol = symbol → i.exchange = exchange → i.quantity = 0

/-- A mismatch is about a symbol on an exchange. -/
def ReconciliationMismatch.About (m : ReconciliationMismatch) (symbol exchange : String) : Prop :=
  m.symbol = symbol ∧ m.exchange = exchange

/-- The diff says nothing of flat pairs, and of a common position that is not
flat it reports the price exactly when the prices differ. -/
structure DiffSound (brokers : List BrokerPosition) (internals : List InternalPosition)
    (ts : ℤ) : Prop where
  flat : ∀ symbol exchange, Flat brokers internals symbol exchange →
    ∀ m ∈ diffPositions brokers internals ts, ¬ m.About symbol exchange
  price : ∀ b ∈ brokers, ∀ i ∈ internals, SamePair b i → (b.quantity ≠ 0 ∨ i.quantity ≠ 0) →
    ((∃ m ∈ diffPositions brokers internals ts,
      m.About i.symbol i.exchange ∧ m.field = .avgPrice) ↔ PricesDiffer b i)

/-! ## What the code reports -/

/-- The test of the code: the prices differ, and the internal one is positive. -/
theorem priceDiffers_iff {b : BrokerPosition} {i : InternalPosition} :
    priceDiffers b i ↔ 0 < i.avgPrice ∧ PricesDiffer b i := by
  unfold priceDiffers PricesDiffer
  apply and_congr_right
  intro hpos
  rw [lt_div_iff₀ hpos, abs_of_pos hpos]

theorem mem_comparePosition_none {ts : ℤ} {i : InternalPosition} {m : ReconciliationMismatch} :
    m ∈ comparePosition ts none i ↔
      i.quantity ≠ 0 ∧ m = i.mismatch .positionMissing (toString i.quantity) "0" ts := by
  unfold comparePosition
  by_cases hq : i.quantity = 0
  · simp [hq]
  · simp [hq]

theorem mem_comparePosition_some {ts : ℤ} {b : BrokerPosition} {i : InternalPosition}
    {m : ReconciliationMismatch} :
    m ∈ comparePosition ts (some b) i ↔
      (b.quantity ≠ i.quantity ∧
        m = i.mismatch .quantity (toString i.quantity) (toString b.quantity) ts) ∨
      (priceDiffers b i ∧
        m = i.mismatch .avgPrice (fmtFixed 4 i.avgPrice) (fmtFixed 4 b.avgPrice) ts) := by
  unfold comparePosition
  by_cases hq : b.quantity = i.quantity
  · by_cases hp : priceDiffers b i
    · simp [hq, hp]
    · simp [hq, hp]
  · by_cases hp : priceDiffers b i
    · simp [hq, hp]
    · simp [hq, hp]

theorem mem_unexpectedPosition {ts : ℤ} {internal : Option InternalPosition} {b : BrokerPosition}
    {m : ReconciliationMismatch} :
    m ∈ unexpectedPosition ts internal b ↔
      internal = none ∧ b.quantity ≠ 0 ∧
        m = { symbol := b.symbol, exchange := b.exchange, field := .unexpectedPosition,
              internalValue := "0", brokerValue := toString b.quantity, detectedAtMs := ts } := by
  unfold unexpectedPosition
  by_cases hnone : internal = none
  · by_cases hq : b.quantity = 0
    · simp [hq]
    · simp [hnone, hq]
  · simp [hnone]

section Diff

variable {brokers : List BrokerPosition} {internals : List InternalPosition} {ts : ℤ}

/-- Without repeated keys, the two loops go over the positions, each with the one
of the other side under its key. -/
theorem mem_diffPositions (hbrokers : (brokers.map (·.key)).Nodup)
    (hinternals : (internals.map (·.key)).Nodup) {m : ReconciliationMismatch} :
    m ∈ diffPositions brokers internals ts ↔
      (∃ i ∈ internals, (∀ b ∈ brokers, b.key ≠ i.key) ∧ m ∈ comparePosition ts none i) ∨
      (∃ i ∈ internals, ∃ b ∈ brokers, b.key = i.key ∧ m ∈ comparePosition ts (some b) i) ∨
      (∃ b ∈ brokers, (∀ i ∈ internals, i.key ≠ b.key) ∧
        m ∈ unexpectedPosition ts none b) := by
  simp only [diffPositions, List.mem_append, List.mem_flatMap, Prod.exists,
    ← Dict.get?_eq_some_iff]
  have hb := fun k b => Dict.get?_ofList_of_nodup (k := k) (x := b) hbrokers
  have hi := fun k i => Dict.get?_ofList_of_nodup (k := k) (x := i) hinternals
  constructor
  · rintro (⟨key, i, hget, hm⟩ | ⟨key, b, hget, hm⟩)
    · rcases (hi key i).mp hget with ⟨hmem, rfl⟩
      cases hbroker : (Dict.ofList BrokerPosition.key brokers).get? i.key with
      | none =>
          rw [hbroker] at hm
          exact .inl ⟨i, hmem, Dict.get?_ofList_eq_none_iff.mp hbroker, hm⟩
      | some b =>
          rw [hbroker] at hm
          rcases (hb i.key b).mp hbroker with ⟨hbmem, hkey⟩
          exact .inr (.inl ⟨i, hmem, b, hbmem, hkey, hm⟩)
    · rcases (hb key b).mp hget with ⟨hmem, rfl⟩
      have hnone := (mem_unexpectedPosition.mp hm).1
      rw [hnone] at hm
      exact .inr (.inr ⟨b, hmem, Dict.get?_ofList_eq_none_iff.mp hnone, hm⟩)
  · rintro (⟨i, hmem, habsent, hm⟩ | ⟨i, hmem, b, hbmem, hkey, hm⟩ | ⟨b, hmem, habsent, hm⟩)
    · refine .inl ⟨i.key, i, (hi _ i).mpr ⟨hmem, rfl⟩, ?_⟩
      rw [Dict.get?_ofList_eq_none_iff.mpr habsent]
      exact hm
    · refine .inl ⟨i.key, i, (hi _ i).mpr ⟨hmem, rfl⟩, ?_⟩
      rw [(hb i.key b).mpr ⟨hbmem, hkey⟩]
      exact hm
    · refine .inr ⟨b.key, b, (hb _ b).mpr ⟨hmem, rfl⟩, ?_⟩
      rw [Dict.get?_ofList_eq_none_iff.mpr habsent]
      exact hm

/-- What is reported about a symbol on an exchange. -/
theorem exists_about_iff (hbrokers : (brokers.map (·.key)).Nodup)
    (hinternals : (internals.map (·.key)).Nodup) {symbol exchange : String} :
    (∃ m ∈ diffPositions brokers internals ts, m.About symbol exchange) ↔
      (∃ i ∈ internals, (i.symbol = symbol ∧ i.exchange = exchange) ∧
        (∀ b ∈ brokers, b.key ≠ i.key) ∧ i.quantity ≠ 0) ∨
      (∃ i ∈ internals, (i.symbol = symbol ∧ i.exchange = exchange) ∧
        ∃ b ∈ brokers, b.key = i.key ∧ (b.quantity ≠ i.quantity ∨ priceDiffers b i)) ∨
      (∃ b ∈ brokers, (b.symbol = symbol ∧ b.exchange = exchange) ∧
        (∀ i ∈ internals, i.key ≠ b.key) ∧ b.quantity ≠ 0) := by
  simp only [mem_diffPositions hbrokers hinternals, mem_comparePosition_none,
    mem_comparePosition_some, mem_unexpectedPosition]
  constructor
  · rintro ⟨m, ⟨i, hi, habsent, hq, rfl⟩ | ⟨i, hi, b, hb, hkey, hcase⟩ |
      ⟨b, hb, habsent, -, hq, rfl⟩, habout⟩
    · exact .inl ⟨i, hi, habout, habsent, hq⟩
    · refine .inr (.inl ⟨i, hi, ?_, b, hb, hkey, ?_⟩)
      · rcases hcase with ⟨-, rfl⟩ | ⟨-, rfl⟩
        · exact habout
        · exact habout
      · exact hcase.imp And.left And.left
    · exact .inr (.inr ⟨b, hb, habout, habsent, hq⟩)
  · rintro (⟨i, hi, habout, habsent, hq⟩ | ⟨i, hi, habout, b, hb, hkey, hq | hp⟩ |
      ⟨b, hb, habout, habsent, hq⟩)
    · exact ⟨_, .inl ⟨i, hi, habsent, hq, rfl⟩, habout⟩
    · exact ⟨_, .inr (.inl ⟨i, hi, b, hb, hkey, .inl ⟨hq, rfl⟩⟩), habout⟩
    · exact ⟨_, .inr (.inl ⟨i, hi, b, hb, hkey, .inr ⟨hp, rfl⟩⟩), habout⟩
    · exact ⟨_, .inr (.inr ⟨b, hb, habsent, trivial, hq, rfl⟩), habout⟩

/-- A price mismatch about a symbol on an exchange is one of the internal position
and the broker position under its key. -/
theorem exists_price_iff (hbrokers : (brokers.map (·.key)).Nodup)
    (hinternals : (internals.map (·.key)).Nodup) {symbol exchange : String} :
    (∃ m ∈ diffPositions brokers internals ts, m.About symbol exchange ∧ m.field = .avgPrice) ↔
      ∃ i ∈ internals, (i.symbol = symbol ∧ i.exchange = exchange) ∧
        ∃ b ∈ brokers, b.key = i.key ∧ priceDiffers b i := by
  simp only [mem_diffPositions hbrokers hinternals, mem_comparePosition_none,
    mem_comparePosition_some, mem_unexpectedPosition]
  constructor
  · rintro ⟨m, ⟨i, hi, -, -, rfl⟩ | ⟨i, hi, b, hb, hkey, ⟨-, rfl⟩ | ⟨hp, rfl⟩⟩ |
      ⟨b, hb, -, -, -, rfl⟩, habout, hfield⟩
    · cases hfield
    · cases hfield
    · exact ⟨i, hi, habout, b, hb, hkey, hp⟩
    · cases hfield
  · rintro ⟨i, hi, habout, b, hb, hkey, hp⟩
    exact ⟨_, .inr (.inl ⟨i, hi, b, hb, hkey, .inr ⟨hp, rfl⟩⟩), habout, rfl⟩

/-! ## When the diff is sound -/

/-- The positions on which the price test does what it should: closed ones whose
prices do not differ or whose internal price is not positive, and open ones whose
internal price is positive or whose prices do not differ. A closed internal
position must not share its key with an open position of another pair. -/
structure PricesSafe (brokers : List BrokerPosition) (internals : List InternalPosition) :
    Prop where
  closed : ∀ b ∈ brokers, ∀ i ∈ internals, SamePair b i → b.quantity = 0 → i.quantity = 0 →
    i.avgPrice ≤ 0 ∨ ¬ PricesDiffer b i
  opened : ∀ b ∈ brokers, ∀ i ∈ internals, SamePair b i → (b.quantity ≠ 0 ∨ i.quantity ≠ 0) →
    0 < i.avgPrice ∨ ¬ PricesDiffer b i
  foreign : ∀ b ∈ brokers, ∀ i ∈ internals, b.key = i.key → ¬ SamePair b i → i.quantity = 0 →
    b.quantity = 0 ∧ (i.avgPrice ≤ 0 ∨ ¬ PricesDiffer b i)

theorem SamePair.key_eq {b : BrokerPosition} {i : InternalPosition} (h : SamePair b i) :
    b.key = i.key := by
  rw [BrokerPosition.key, InternalPosition.key, h.1, h.2]

theorem not_priceDiffers_iff {b : BrokerPosition} {i : InternalPosition} :
    ¬ priceDiffers b i ↔ i.avgPrice ≤ 0 ∨ ¬ PricesDiffer b i := by
  rw [priceDiffers_iff, not_and_or, not_lt]

/-- A sound diff has safe prices. -/
theorem DiffSound.pricesSafe (hbrokers : (brokers.map (·.key)).Nodup)
    (hinternals : (internals.map (·.key)).Nodup) (h : DiffSound brokers internals ts) :
    PricesSafe brokers internals := by
  -- nothing is reported about a flat pair, so neither test fires on it
  have hsilent : ∀ b ∈ brokers, ∀ i ∈ internals, b.key = i.key →
      Flat brokers internals i.symbol i.exchange →
      b.quantity = i.quantity ∧ ¬ priceDiffers b i := by
    intro b hb i hi hkey hflat
    have hnone : ¬ ∃ m ∈ diffPositions brokers internals ts, m.About i.symbol i.exchange := by
      rintro ⟨m, hm, habout⟩
      exact h.flat _ _ hflat m hm habout
    rw [exists_about_iff hbrokers hinternals] at hnone
    by_contra hfires
    apply hnone
    refine .inr (.inl ⟨i, hi, ⟨rfl, rfl⟩, b, hb, hkey, ?_⟩)
    by_contra hquiet
    rw [not_or, not_not] at hquiet
    exact hfires hquiet
  have honly : ∀ b ∈ brokers, ∀ i ∈ internals, b.key = i.key → i.quantity = 0 →
      (SamePair b i → b.quantity = 0) → Flat brokers internals i.symbol i.exchange := by
    intro b hb i hi hkey hq hsame
    constructor
    · intro b' hb' hsymbol hexchange
      have hpair : SamePair b' i := ⟨hsymbol, hexchange⟩
      have heq : b' = b := List.inj_on_of_nodup_map hbrokers hb' hb (hpair.key_eq.trans hkey.symm)
      rw [heq] at hpair ⊢
      exact hsame hpair
    · intro i' hi' hsymbol hexchange
      have hkey' : i'.key = i.key := by
        rw [InternalPosition.key, InternalPosition.key, hsymbol, hexchange]
      rw [List.inj_on_of_nodup_map hinternals hi' hi hkey']
      exact hq
  refine { closed := ?_, opened := ?_, foreign := ?_ }
  · intro b hb i hi hpair hbq hiq
    have hflat := honly b hb i hi hpair.key_eq hiq fun _ => hbq
    exact not_priceDiffers_iff.mp (hsilent b hb i hi hpair.key_eq hflat).2
  · intro b hb i hi hpair hopen
    by_cases hdiffer : PricesDiffer b i
    · -- a reported price mismatch is this pair's, and has passed the test of the code
      rcases (exists_price_iff hbrokers hinternals).mp ((h.price b hb i hi hpair hopen).mpr hdiffer)
        with ⟨i', hi', ⟨hsymbol, hexchange⟩, b', -, -, hp⟩
      have hkey' : i'.key = i.key := by
        rw [InternalPosition.key, InternalPosition.key, hsymbol, hexchange]
      rw [List.inj_on_of_nodup_map hinternals hi' hi hkey'] at hp
      exact .inl (priceDiffers_iff.mp hp).1
    · exact .inr hdiffer
  · intro b hb i hi hkey hother hiq
    have hflat := honly b hb i hi hkey hiq fun hpair => absurd hpair hother
    rcases hsilent b hb i hi hkey hflat with ⟨hq, hp⟩
    exact ⟨hq.trans hiq, not_priceDiffers_iff.mp hp⟩

/-- With safe prices the diff is sound. -/
theorem PricesSafe.diffSound (hbrokers : (brokers.map (·.key)).Nodup)
    (hinternals : (internals.map (·.key)).Nodup) (h : PricesSafe brokers internals) :
    DiffSound brokers internals ts := by
  refine { flat := ?_, price := ?_ }
  · intro symbol exchange hflat m hm habout
    rcases (exists_about_iff hbrokers hinternals).mp ⟨m, hm, habout⟩ with
      ⟨i, hi, hpair, -, hq⟩ | ⟨i, hi, hpair, b, hb, hkey, hcase⟩ | ⟨b, hb, hpair, -, hq⟩
    · exact hq (hflat.2 i hi hpair.1 hpair.2)
    · have hiq := hflat.2 i hi hpair.1 hpair.2
      by_cases hsame : SamePair b i
      · have hbq := hflat.1 b hb (hsame.1.trans hpair.1) (hsame.2.trans hpair.2)
        have hp := not_priceDiffers_iff.mpr (h.closed b hb i hi hsame hbq hiq)
        exact hcase.elim (fun hne => hne (hbq.trans hiq.symm)) hp
      · rcases h.foreign b hb i hi hkey hsame hiq with ⟨hbq, hprice⟩
        exact hcase.elim (fun hne => hne (hbq.trans hiq.symm)) (not_priceDiffers_iff.mpr hprice)
    · exact hq (hflat.1 b hb hpair.1 hpair.2)
  · intro b hb i hi hpair hopen
    rw [exists_price_iff hbrokers hinternals]
    constructor
    · rintro ⟨i', hi', ⟨hsymbol, hexchange⟩, b', hb', hkey, hp⟩
      have hkey' : i'.key = i.key := by
        rw [InternalPosition.key, InternalPosition.key, hsymbol, hexchange]
      have hi'eq := List.inj_on_of_nodup_map hinternals hi' hi hkey'
      have hb'eq := List.inj_on_of_nodup_map hbrokers hb' hb
        (hkey.trans (hkey'.trans hpair.key_eq.symm))
      rw [hi'eq, hb'eq] at hp
      exact (priceDiffers_iff.mp hp).2
    · intro hdiffer
      have hpos := (h.opened b hb i hi hpair hopen).resolve_right (not_not.mpr hdiffer)
      exact ⟨i, hi, ⟨rfl, rfl⟩, b, hb, hpair.key_eq, priceDiffers_iff.mpr ⟨hpos, hdiffer⟩⟩

/-- The diff of lists without repeated keys is sound exactly when the prices are
safe. -/
theorem diff_positions_sound_iff (hbrokers : (brokers.map (·.key)).Nodup)
    (hinternals : (internals.map (·.key)).Nodup) (ts : ℤ) :
    DiffSound brokers internals ts ↔ PricesSafe brokers internals :=
  ⟨DiffSound.pricesSafe hbrokers hinternals, PricesSafe.diffSound hbrokers hinternals⟩

end Diff

/-- A position of `quantity` shares at the broker. -/
def brokerSail (quantity : ℤ) (avgPrice : ℚ) : BrokerPosition :=
  { symbol := "SAIL", exchange := "NSE", quantity := quantity, avgPrice := avgPrice }

/-- The same in the system. -/
def internalSail (quantity : ℤ) (avgPrice : ℚ) : InternalPosition :=
  { symbol := "SAIL", exchange := "NSE", quantity := quantity, avgPrice := avgPrice }

theorem diff_positions_sound_iff_sail :
    DiffSound [brokerSail 60 131] [internalSail 60 130] 8 ↔
      PricesSafe [brokerSail 60 131] [internalSail 60 130] :=
  diff_positions_sound_iff (by decide) (by decide) 8

/-- A position closed on both sides is reported for its old prices, and an open one
with an internal price of zero is not reported. -/
theorem diff_positions_unsound :
    ((∃ m ∈ diffPositions [brokerSail 0 0] [internalSail 0 130] 8,
        m.About "SAIL" "NSE" ∧ m.field = .avgPrice) ∧
      ¬ DiffSound [brokerSail 0 0] [internalSail 0 130] 8) ∧
    (diffPositions [brokerSail 60 131] [internalSail 60 0] 8 = [] ∧
      ¬ DiffSound [brokerSail 60 131] [internalSail 60 0] 8) := by
  have hclosed : ∃ m ∈ diffPositions [brokerSail 0 0] [internalSail 0 130] 8,
      m.About "SAIL" "NSE" ∧ m.field = .avgPrice := by
    rw [exists_price_iff (by decide) (by decide)]
    exact ⟨_, List.mem_singleton_self _, ⟨rfl, rfl⟩, _, List.mem_singleton_self _, by decide,
      by decide +kernel⟩
  have hmissed : diffPositions [brokerSail 60 131] [internalSail 60 0] 8 = [] := by
    decide +kernel
  refine ⟨⟨hclosed, ?_⟩, hmissed, ?_⟩
  · intro h
    rcases hclosed with ⟨m, hm, habout, -⟩
    have hflat : Flat [brokerSail 0 0] [internalSail 0 130] "SAIL" "NSE" := by
      simp [Flat, brokerSail, internalSail]
    exact h.flat _ _ hflat m hm habout
  · intro h
    have hdiffer : PricesDiffer (brokerSail 60 131) (internalSail 60 0) := by
      norm_num [PricesDiffer, brokerSail, internalSail, reconciliationTolerancePricePct]
    have hreport := (h.price _ (List.mem_singleton_self _) _ (List.mem_singleton_self _)
      ⟨rfl, rfl⟩ (.inl (by decide))).mpr hdiffer
    rw [hmissed] at hreport
    simp at hreport

end Intraday.Reconciliation
