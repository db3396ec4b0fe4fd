import Intraday.Instruments.Models
import Intraday.Lib.Traverse
import Intraday.Lib.Upsert

/-!
# Intraday.Instruments.Refresh — `shared/instruments/service.py`

A refresh upserts the live actions and then the manual overrides, each list in statements of a
hundred rows. The table has one row for a symbol, an exchange, an ex-date and a type of action.
Two actions with one key stop the refresh if they are in one statement; otherwise the later one
replaces the other (`refresh_keeps_iff`).
-/

namespace Intraday.Instruments

open Intraday.Lib

/-! ## The table -/

/-- An action as the table has it, with its ratio and its amount in exact arithmetic. -/
abbrev Action := CorporateAction String ℚ

/-- `UNIQUE (symbol, exchange, ex_date, action_type)`. -/
structure ActionKey where
  symbol : String
  exchange : String
  exDate : Date
  actionType : CorporateActionType
deriving DecidableEq

/-- The key of a row. -/
def actionKey (a : Action) : ActionKey :=
  { symbol := a.args.symbol, exchange := a.args.exchange, exDate := a.args.exDate
    actionType := a.args.actionType }

/-- `corporate_actions`. A row has the fields of an action, and is read as this action again. -/
abbrev ActionTable := Table ActionKey Action actionKey

/-- What a statement raises. -/
inductive DbError where
  /-- a text with a NUL -/
  | valueError
  /-- `ON CONFLICT DO UPDATE command cannot affect row a second time` -/
  | cardinalityViolation
deriving DecidableEq

/-- The texts of a row, besides the name of its type. -/
def rowTexts (a : Action) : List String :=
  [a.args.symbol, a.args.exchange, a.args.source] ++ a.args.newSymbol.toList

/-- No text of a row has a NUL. -/
def Storable (a : Action) : Prop := ∀ text ∈ rowTexts a, '\x00' ∉ text.toList

instance (a : Action) : Decidable (Storable a) := inferInstanceAs (Decidable (∀ _ ∈ _, _))

/-- One statement of `execute_values`. -/
def upsertPage (t : ActionTable) (page : List Action) : Except DbError ActionTable :=
  if ∀ a ∈ page, Storable a then (t.insert page).elim (.error .cardinalityViolation) .ok
  else .error .valueError

/-- The default `page_size` of `execute_values`. -/
def pageSize : ℕ := 100

/-- `CorporateActionRepository.upsert_many`; what raises is not committed. -/
def upsertMany (t : ActionTable) (actions : List Action) : Except DbError (ActionTable × ℕ) :=
  if actions.isEmpty then .ok (t, 0)
  else do
    let t ← (pages pageSize actions).foldlM upsertPage t
    pure (t, actions.length)

/-- `CorporateActionRepository.list_for_symbol`. -/
def listForSymbol (t : ActionTable) (symbol exchange : String) : List Action :=
  (t.all.filter fun a => decide (a.args.symbol = symbol ∧ a.args.exchange = exchange)).mergeSort
    fun a b => decide (a.args.exDate.stamp ≤ b.args.exDate.stamp)

/-- `refresh_corporate_actions`, with the live actions and the manual overrides that it loads. -/
def refreshCorporateActions (t : ActionTable) (live manual : List Action) :
    Except DbError (ActionTable × ℕ) := do
  let (t, liveWritten) ← upsertMany t live
  let (t, manualWritten) ← upsertMany t manual
  pure (t, liveWritten + manualWritten)

/-! ## What is written -/

/-- The rows can be written: there is no NUL, and no statement has a key twice. -/
def Insertable (actions : List Action) : Prop :=
  (∀ a ∈ actions, Storable a) ∧ ∀ page ∈ pages pageSize actions, (page.map actionKey).Nodup

/-- The statements go through if each page can be written. -/
theorem foldlM_upsertPage {ps : List (List Action)} {t t' : ActionTable} :
    ps.foldlM upsertPage t = .ok t' ↔
      (∀ a ∈ ps.flatten, Storable a) ∧ ps.foldlM Table.insert t = some t' := by
  induction ps generalizing t with
  | nil =>
      simp only [List.foldlM_nil, List.flatten_nil, List.not_mem_nil, false_imp_iff, implies_true,
        true_and, pure, Except.pure, Except.ok.injEq, Option.some.injEq]
  | cons page ps ih =>
      rw [List.foldlM_cons, List.foldlM_cons, List.flatten_cons, List.forall_mem_append, upsertPage]
      by_cases hpage : ∀ a ∈ page, Storable a
      · rw [if_pos hpage]
        cases hinsert : t.insert page with
        | none => simp [bind, Except.bind]
        | some u =>
            rw [Option.elim_some]
            exact (ih (t := u)).trans (and_congr_left fun _ => (and_iff_right hpage).symm)
      · rw [if_neg hpage]
        simp [hpage, bind, Except.bind]

/-- A list that can be written is written, row by row. -/
theorem upsertMany_eq_ok_iff {t t' : ActionTable} {actions : List Action} {n : ℕ} :
    upsertMany t actions = .ok (t', n) ↔
      Insertable actions ∧ t' = actions.foldl Table.put t ∧ n = actions.length := by
  rw [upsertMany]
  by_cases hempty : actions.isEmpty = true
  · rw [if_pos hempty, List.isEmpty_iff.mp hempty]
    simp [Insertable, pages, eq_comm]
  · have hsize : 0 < pageSize := by decide
    have hinserted := Table.insertPages_eq hsize t actions
    rw [Table.insertPages] at hinserted
    rw [if_neg hempty, bind_eq_ok_iff]
    constructor
    · rintro ⟨u, hfold, hpure⟩
      cases hpure
      rcases foldlM_upsertPage.mp hfold with ⟨hstorable, hinsert⟩
      rw [flatten_pages hsize] at hstorable
      rw [hinserted] at hinsert
      split at hinsert
      · rename_i hpages
        exact ⟨⟨hstorable, hpages⟩, (Option.some.inj hinsert).symm, rfl⟩
      · cases hinsert
    · rintro ⟨⟨hstorable, hpages⟩, rfl, rfl⟩
      refine ⟨actions.foldl Table.put t, foldlM_upsertPage.mpr ⟨?_, ?_⟩, rfl⟩
      · rwa [flatten_pages hsize]
      · rw [hinserted, if_pos hpages]

/-- A refresh completes if both lists can be written, and has then put the live actions and after
them the manual overrides. -/
theorem refresh_eq_ok_iff {t t' : ActionTable} {live manual : List Action} {n : ℕ} :
    refreshCorporateActions t live manual = .ok (t', n) ↔
      Insertable live ∧ Insertable manual ∧ t' = (live ++ manual).foldl Table.put t ∧
        n = live.length + manual.length := by
  rw [refreshCorporateActions, bind_eq_ok_iff]
  constructor
  · rintro ⟨⟨u, liveWritten⟩, hlive, hrest⟩
    rcases bind_eq_ok_iff.mp hrest with ⟨⟨v, manualWritten⟩, hmanual, hpure⟩
    cases hpure
    rcases upsertMany_eq_ok_iff.mp hlive with ⟨hinsertable, rfl, rfl⟩
    rcases upsertMany_eq_ok_iff.mp hmanual with ⟨hinsertable', rfl, rfl⟩
    exact ⟨hinsertable, hinsertable', List.foldl_append.symm, rfl⟩
  · rintro ⟨hlive, hmanual, rfl, rfl⟩
    refine ⟨_, upsertMany_eq_ok_iff.mpr ⟨hlive, rfl, rfl⟩, ?_⟩
    refine bind_eq_ok_iff.mpr ⟨_, upsertMany_eq_ok_iff.mpr ⟨hmanual, rfl, rfl⟩, ?_⟩
    rw [List.foldl_append]
    rfl

/-! ## What is kept -/

/-- The rows of a symbol. -/
theorem mem_listForSymbol {t : ActionTable} {symbol exchange : String} {a : Action} :
    a ∈ listForSymbol t symbol exchange ↔
      t.find (actionKey a) = some a ∧ a.args.symbol = symbol ∧ a.args.exchange = exchange := by
  rw [listForSymbol, List.mem_mergeSort, List.mem_filter, decide_eq_true_eq, Table.mem_all]

/-- A row is listed with the rows of any action that has its key. -/
theorem mem_listForSymbol_of_key {t : ActionTable} {a b : Action}
    (hkey : actionKey b = actionKey a) :
    b ∈ listForSymbol t a.args.symbol a.args.exchange ↔ t.find (actionKey a) = some b := by
  have hsymbol : b.args.symbol = a.args.symbol := congrArg ActionKey.symbol hkey
  have hexchange : b.args.exchange = a.args.exchange := congrArg ActionKey.exchange hkey
  rw [mem_listForSymbol, hkey]
  exact and_iff_left ⟨hsymbol, hexchange⟩

/-- The last action of a list with the key of another one of it. -/
theorem exists_last {actions : List Action} {a : Action} (h : a ∈ actions) :
    ∃ b, (actions.filter fun r => decide (actionKey r = actionKey a)).getLast? = some b ∧
      b ∈ actions ∧ actionKey b = actionKey a := by
  have hmem : a ∈ actions.filter fun r => decide (actionKey r = actionKey a) :=
    List.mem_filter.mpr ⟨h, decide_eq_true rfl⟩
  cases hlast : (actions.filter fun r => decide (actionKey r = actionKey a)).getLast? with
  | none =>
      rw [List.getLast?_eq_none_iff.mp hlast] at hmem
      cases hmem
  | some b =>
      have hb := List.mem_filter.mp (List.mem_of_getLast? hlast)
      exact ⟨b, rfl, hb.1, of_decide_eq_true hb.2⟩

section Refreshed

variable {t : ActionTable} {live manual : List Action} {a : Action}

/-- Under the key of an override is the last override with it. -/
theorem find_manual (h : a ∈ manual) :
    ∃ b, ((live ++ manual).foldl Table.put t).find (actionKey a) = some b ∧ b ∈ manual ∧
      actionKey b = actionKey a := by
  rcases exists_last h with ⟨b, hlast, hb, hkey⟩
  refine ⟨b, ?_, hb, hkey⟩
  rw [List.foldl_append, Table.find_foldl_put, hlast, Option.some_or]

/-- Under the key of a live action that no override has is the last live action with it. -/
theorem find_live (h : a ∈ live) (hmanual : ∀ m ∈ manual, actionKey m ≠ actionKey a) :
    ∃ b, ((live ++ manual).foldl Table.put t).find (actionKey a) = some b ∧ b ∈ live ∧
      actionKey b = actionKey a := by
  rcases exists_last h with ⟨b, hlast, hb, hkey⟩
  have hnone : (manual.filter fun r => decide (actionKey r = actionKey a)) = [] := by
    rw [List.filter_eq_nil_iff]
    intro m hm
    rw [decide_eq_true_eq]
    exact hmanual m hm
  refine ⟨b, ?_, hb, hkey⟩
  rw [List.foldl_append, Table.find_foldl_put, hnone, Table.find_foldl_put, hlast]
  rfl

end Refreshed

/-- After the refresh each action has a row under its key, and under that of an override the row is
an override. -/
def KeepsKeys (t : ActionTable) (live manual : List Action) : Prop :=
  ∃ t' n, refreshCorporateActions t live manual = .ok (t', n) ∧
    (∀ a ∈ live ++ manual, ∃ b ∈ listForSymbol t' a.args.symbol a.args.exchange,
      actionKey b = actionKey a) ∧
    ∀ m ∈ manual, ∀ b ∈ listForSymbol t' m.args.symbol m.args.exchange,
      actionKey b = actionKey m → b ∈ manual

/-- After the refresh each override is in the table itself, and so is each live action whose key
no override has. -/
def KeepsEvery (t : ActionTable) (live manual : List Action) : Prop :=
  ∃ t' n, refreshCorporateActions t live manual = .ok (t', n) ∧
    (∀ m ∈ manual, m ∈ listForSymbol t' m.args.symbol m.args.exchange) ∧
    ∀ a ∈ live, (∀ m ∈ manual, actionKey m ≠ actionKey a) →
      a ∈ listForSymbol t' a.args.symbol a.args.exchange

/-- No override has the key of another one, and no live action that of another one, unless an
override has it, too. -/
def OnePerKey (live manual : List Action) : Prop :=
  (∀ m ∈ manual, ∀ m' ∈ manual, actionKey m = actionKey m' → m = m') ∧
    ∀ a ∈ live, ∀ b ∈ live, actionKey a = actionKey b →
      a = b ∨ ∃ m ∈ manual, actionKey m = actionKey a

theorem keepsKeys_iff (t : ActionTable) (live manual : List Action) :
    KeepsKeys t live manual ↔ Insertable live ∧ Insertable manual := by
  constructor
  · rintro ⟨t', n, hrefresh, -⟩
    rcases refresh_eq_ok_iff.mp hrefresh with ⟨hlive, hmanual, -⟩
    exact ⟨hlive, hmanual⟩
  · rintro ⟨hlive, hmanual⟩
    refine ⟨_, _, refresh_eq_ok_iff.mpr ⟨hlive, hmanual, rfl, rfl⟩, ?_, ?_⟩
    · intro a ha
      by_cases hover : ∀ m ∈ manual, actionKey m ≠ actionKey a
      · -- no override has its key, so the row is that of a live action
        have hmem : a ∈ live := by
          rcases List.mem_append.mp ha with hmem | hmem
          · exact hmem
          · exact absurd rfl (hover a hmem)
        rcases find_live hmem hover with ⟨b, hfind, -, hkey⟩
        exact ⟨b, (mem_listForSymbol_of_key hkey).mpr hfind, hkey⟩
      · simp only [not_forall, not_not] at hover
        rcases hover with ⟨m, hm, hkey⟩
        rcases find_manual hm with ⟨b, hfind, -, hb⟩
        rw [hkey] at hfind hb
        exact ⟨b, (mem_listForSymbol_of_key hb).mpr hfind, hb⟩
    · intro m hm b hb hkey
      rw [mem_listForSymbol_of_key hkey] at hb
      rcases find_manual hm with ⟨b', hfind, hb', -⟩
      rw [hfind, Option.some.injEq] at hb
      rwa [← hb]

theorem keepsEvery_iff (t : ActionTable) (live manual : List Action) :
    KeepsEvery t live manual ↔ Insertable live ∧ Insertable manual ∧ OnePerKey live manual := by
  constructor
  · rintro ⟨t', n, hrefresh, hmanual, hlive⟩
    rcases refresh_eq_ok_iff.mp hrefresh with ⟨hinsertable, hinsertable', -⟩
    refine ⟨hinsertable, hinsertable', ?_, ?_⟩
    · intro m hm m' hm' hkey
      have hfind := (mem_listForSymbol_of_key rfl).mp (hmanual m hm)
      have hfind' := (mem_listForSymbol_of_key rfl).mp (hmanual m' hm')
      rw [hkey, hfind'] at hfind
      exact (Option.some.inj hfind).symm
    · -- two live actions of a key are both found, unless the key is overridden
      intro a ha b hb hkey
      by_cases hover : ∀ m ∈ manual, actionKey m ≠ actionKey a
      · have hfind := (mem_listForSymbol_of_key rfl).mp (hlive a ha hover)
        have hfind' := (mem_listForSymbol_of_key rfl).mp (hlive b hb (hkey ▸ hover))
        rw [hkey, hfind'] at hfind
        exact .inl (Option.some.inj hfind).symm
      · simp only [not_forall, not_not] at hover
        rcases hover with ⟨m, hm, hmkey⟩
        exact .inr ⟨m, hm, hmkey⟩
  · rintro ⟨hinsertable, hinsertable', hmanual, hlive⟩
    refine ⟨_, _, refresh_eq_ok_iff.mpr ⟨hinsertable, hinsertable', rfl, rfl⟩, ?_, ?_⟩
    · intro m hm
      rcases find_manual hm with ⟨b, hfind, hb, hkey⟩
      rw [hmanual b hb m hm hkey] at hfind
      exact (mem_listForSymbol_of_key rfl).mpr hfind
    · intro a ha hover
      rcases find_live ha hover with ⟨b, hfind, hb, hkey⟩
      rcases hlive b hb a ha hkey with rfl | ⟨m, hm, hmkey⟩
      · exact (mem_listForSymbol_of_key rfl).mpr hfind
      · exact absurd (hmkey.trans hkey) (hover m hm)

/-- A refresh completes, and has a row for each action, exactly if each of its statements can be
written. It has the actions themselves exactly if there is also one for each key. -/
theorem refresh_keeps_iff (t : ActionTable) (live manual : List Action) :
    (KeepsKeys t live manual ↔ Insertable live ∧ Insertable manual) ∧
      (KeepsEvery t live manual ↔
        Insertable live ∧ Insertable manual ∧ OnePerKey live manual) :=
  ⟨keepsKeys_iff t live manual, keepsEvery_iff t live manual⟩

/-- A dividend of INFY on 18 July 2024. -/
def infyDividend (amount : ℚ) (h : 0 < amount) : Action where
  args :=
    { symbol := "INFY", exchange := "NSE", exDate := (Date.ofFields 2024 7 18).get rfl
      actionType := .dividend, source := "NSE_LIVE", dividendAmount := some amount }
  checked := by
    rw [ActionArgs.postInit, filter_truthy h]
    exact requirePositive_eq_ok_iff.mpr h

/-- A final and a special dividend of one day are one key, and stop the refresh. -/
theorem two_dividends_stop_refresh :
    ¬∀ (t : ActionTable) (live manual : List Action), KeepsKeys t live manual := by
  intro h
  have hinsertable := ((keepsKeys_iff _ _ _).mp (h (Table.empty actionKey)
    [infyDividend 20 (by decide), infyDividend 8 (by decide)] [])).1
  have hpage := hinsertable.2 _ List.mem_cons_self
  revert hpage
  decide +kernel

end Intraday.Instruments
