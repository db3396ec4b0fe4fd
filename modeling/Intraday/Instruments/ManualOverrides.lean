import Intraday.Instruments.Models
import Intraday.Lib.PyFloat
import Intraday.Lib.PyValue
import Intraday.Lib.Traverse

/-!
# Intraday.Instruments.ManualOverrides — `shared/instruments/manual_overrides.py`

The loader reads a YAML file, and YAML has values of many types. Each entry is read in a `try`
that turns a `KeyError` and a `ValueError` into the documented `ConfigValidationError`; a
`TypeError` escapes, and so do the exceptions of reading the file that are neither `OSError` nor
`YAMLError`.
-/

namespace Intraday.Instruments

open Intraday.Lib Intraday.Lib.Raise

/-- What `yaml.safe_load` returns. The keys of a `dict` are distinct. -/
inductive Yaml where
  | null
  | bool (b : Bool)
  | int (n : ℤ)
  | float (x : PyFloat)
  | str (text : String)
  | bytes (bs : List ℕ)
  | date (d : Date)
  | datetime (t : PyDateTime)
  | list (items : List Yaml)
  | tuple (items : List Yaml)
  | set (items : List Yaml)
  | dict (items : List (Yaml × Yaml))

namespace Yaml

/-- `bool(value)`. -/
def truthy : Yaml → Bool
  | null => false
  | bool b => b
  | int n => n ≠ 0
  | float x => x.nonzero
  | str text => text ≠ ""
  | bytes bs => !bs.isEmpty
  | date _ => true
  | datetime _ => true
  | list items => !items.isEmpty
  | tuple items => !items.isEmpty
  | set items => !items.isEmpty
  | dict items => !items.isEmpty

/-- `value <= 0`. -/
def nonPositive : Yaml → Except Exc Bool
  | bool b => .ok !b
  | int n => .ok (n ≤ 0)
  | float x => .ok (x.le .zero)
  | _ => .error .typeError

instance : PyArg Yaml := ⟨truthy, nonPositive⟩

/-- The items of `for item in value`; `none` is a `TypeError`. -/
def iterate : Yaml → Option (List Yaml)
  | str text => some (text.toList.map fun c => str (String.singleton c))
  | bytes bs => some (bs.map fun b => int b)
  | list items => some items
  | tuple items => some items
  | set items => some items
  | dict items => some (items.map Prod.fst)
  | _ => none

/-- The value of a key that is a text. -/
def lookup (key : String) : List (Yaml × Yaml) → Option Yaml
  | [] => none
  | (str k, v) :: rest => if k = key then some v else lookup key rest
  | _ :: rest => lookup key rest

/-- An argument that may be `None`. -/
def arg? : Yaml → Option Yaml
  | null => none
  | v => some v

end Yaml

/-- What an entry raises. -/
inductive EntryExc where
  | keyError (key : String)
  | raised (e : Exc)
deriving DecidableEq

/-- What the loader raises. -/
inductive LoadExc where
  | configValidationError
  | uncaught (e : Exc)
  | uncaughtReading (name : String)
deriving DecidableEq

/-- What reading the file and parsing it comes to. -/
inductive Loaded where
  | osError
  | yamlError
  | raises (name : String)
  | parsed (raw : Yaml)

/-- `CorporateActionType(value)`; `none` is a `ValueError`. -/
def CorporateActionType.ofYaml : Yaml → Option CorporateActionType
  | .str text => [split, bonus, dividend, symbolChange].find? fun t => t.value = text
  | _ => none

variable (fromisoformat : String → Option Date)

/-- `entry[key]`, of an entry that is a `dict`. -/
def field (items : List (Yaml × Yaml)) (key : String) : Except EntryExc Yaml :=
  match Yaml.lookup key items with
  | some v => .ok v
  | none => .error (.keyError key)

/-- `date.fromisoformat(value)`. -/
def isoDate : Yaml → Except EntryExc Date
  | .str text =>
      match fromisoformat text with
      | some d => .ok d
      | none => .error (.raised (.valueError "Invalid isoformat string"))
  | _ => .error (.raised .typeError)

/-- `CorporateActionType(value)`. -/
def actionTypeOf (v : Yaml) : Except EntryExc CorporateActionType :=
  match CorporateActionType.ofYaml v with
  | some t => .ok t
  | none => .error (.raised (.valueError "is not a valid CorporateActionType"))

/-- `CorporateAction(…)` of the checked arguments. -/
def makeAction (args : ActionArgs Yaml Yaml) : Except EntryExc (CorporateAction Yaml Yaml) :=
  match CorporateAction.make args with
  | .ok a => .ok a
  | .error e => .error (.raised e)

/-- One entry of the loop. -/
def parseEntry : Yaml → Except EntryExc (CorporateAction Yaml Yaml)
  | .dict items => do
      let symbol ← field items "symbol"
      let exchange ← field items "exchange"
      let exDate ← field items "ex_date" >>= isoDate fromisoformat
      let actionType ← field items "action_type" >>= actionTypeOf
      makeAction
        { symbol := symbol
          exchange := exchange
          exDate := exDate
          actionType := actionType
          source := "MANUAL"
          ratioNumerator := (Yaml.lookup "ratio_numerator" items).bind Yaml.arg?
          ratioDenominator := (Yaml.lookup "ratio_denominator" items).bind Yaml.arg?
          dividendAmount := (Yaml.lookup "dividend_amount" items).bind Yaml.arg?
          newSymbol := (Yaml.lookup "new_symbol" items).bind Yaml.arg? }
  -- `entry["symbol"]` of anything else
  | _ => .error (.raised .typeError)

/-- The `except` clause of the loop. -/
def caught (entry : Yaml) : Except LoadExc (CorporateAction Yaml Yaml) :=
  match parseEntry fromisoformat entry with
  | .ok a => .ok a
  | .error (.keyError _) => .error .configValidationError
  | .error (.raised (.valueError _)) => .error .configValidationError
  | .error (.raised e) => .error (.uncaught e)

/-- `load_manual_overrides`. -/
def loadManualOverrides : Loaded → Except LoadExc (List (CorporateAction Yaml Yaml))
  | .osError => .error .configValidationError
  | .yamlError => .error .configValidationError
  | .raises name => .error (.uncaughtReading name)
  | .parsed raw =>
      if raw.truthy then
        match raw.iterate with
        | some entries => entries.mapM (caught fromisoformat)
        | none => .error (.uncaught .typeError)
      else .ok []

/-! ## Entries that are read -/

variable {fromisoformat}

/-- The fields of an entry but its ex-date. -/
structure ReadsAs (items : List (Yaml × Yaml)) (args : ActionArgs Yaml Yaml) : Prop where
  symbol : Yaml.lookup "symbol" items = some args.symbol
  exchange : Yaml.lookup "exchange" items = some args.exchange
  actionType : (Yaml.lookup "action_type" items).bind CorporateActionType.ofYaml =
    some args.actionType
  source : args.source = "MANUAL"
  ratioNumerator :
    args.ratioNumerator = (Yaml.lookup "ratio_numerator" items).bind Yaml.arg?
  ratioDenominator :
    args.ratioDenominator = (Yaml.lookup "ratio_denominator" items).bind Yaml.arg?
  dividendAmount :
    args.dividendAmount = (Yaml.lookup "dividend_amount" items).bind Yaml.arg?
  newSymbol : args.newSymbol = (Yaml.lookup "new_symbol" items).bind Yaml.arg?

/-- The ex-date is a text. -/
def Quoted (fromisoformat : String → Option Date) (items : List (Yaml × Yaml)) (d : Date) : Prop :=
  ∃ text, Yaml.lookup "ex_date" items = some (.str text) ∧ fromisoformat text = some d

/-- The ex-date stands without quotes, and YAML reads a date. -/
def Unquoted (items : List (Yaml × Yaml)) (d : Date) : Prop :=
  Yaml.lookup "ex_date" items = some (.date d)

/-- The fields determine the arguments. -/
theorem ReadsAs.eq {items : List (Yaml × Yaml)} {args args' : ActionArgs Yaml Yaml}
    (h : ReadsAs items args) (h' : ReadsAs items args') (hdate : args.exDate = args'.exDate) :
    args = args' := by
  have hsymbol := Option.some.inj (h.symbol.symm.trans h'.symbol)
  have hexchange := Option.some.inj (h.exchange.symm.trans h'.exchange)
  have htype := Option.some.inj (h.actionType.symm.trans h'.actionType)
  have hsource := h.source.trans h'.source.symm
  have hnumerator := h.ratioNumerator.trans h'.ratioNumerator.symm
  have hdenominator := h.ratioDenominator.trans h'.ratioDenominator.symm
  have hdividend := h.dividendAmount.trans h'.dividendAmount.symm
  have hnew := h.newSymbol.trans h'.newSymbol.symm
  cases args
  cases args'
  simp_all

/-- The values of the four required fields of an entry, as far as they are read: up to the first
one that is missing or not readable. -/
inductive Fields (fromisoformat : String → Option Date) (items : List (Yaml × Yaml)) :
    Except EntryExc (ActionArgs Yaml Yaml) → Prop where
  | missing (key : String) : Fields fromisoformat items (.error (.keyError key))
  | unreadable (message : String) :
      Fields fromisoformat items (.error (.raised (.valueError message)))
  | notText {symbol exchange v : Yaml} : Yaml.lookup "symbol" items = some symbol →
      Yaml.lookup "exchange" items = some exchange → Yaml.lookup "ex_date" items = some v →
      (∀ text, v ≠ .str text) → Fields fromisoformat items (.error (.raised .typeError))
  | read {args : ActionArgs Yaml Yaml} : ReadsAs items args →
      Quoted fromisoformat items args.exDate → Fields fromisoformat items (.ok args)

theorem field_of_some {items : List (Yaml × Yaml)} {key : String} {v : Yaml}
    (h : Yaml.lookup key items = some v) : field items key = .ok v := by
  rw [field, h]

theorem isoDate_of_not_str {v : Yaml} (h : ∀ text, v ≠ .str text) :
    isoDate fromisoformat v = .error (.raised .typeError) := by
  cases v with
  | str text => exact absurd rfl (h text)
  | _ => rfl

/-- Readable fields give the arguments of an action. -/
theorem parseEntry_of_reads {items : List (Yaml × Yaml)} {args : ActionArgs Yaml Yaml}
    (h : ReadsAs items args) (hdate : Quoted fromisoformat items args.exDate) :
    parseEntry fromisoformat (.dict items) = makeAction args := by
  rcases hdate with ⟨text, htext, hiso⟩
  rcases Option.bind_eq_some_iff.mp h.actionType with ⟨v, hv, htype⟩
  have hargs : args =
      { symbol := args.symbol
        exchange := args.exchange
        exDate := args.exDate
        actionType := args.actionType
        source := "MANUAL"
        ratioNumerator := (Yaml.lookup "ratio_numerator" items).bind Yaml.arg?
        ratioDenominator := (Yaml.lookup "ratio_denominator" items).bind Yaml.arg?
        dividendAmount := (Yaml.lookup "dividend_amount" items).bind Yaml.arg?
        newSymbol := (Yaml.lookup "new_symbol" items).bind Yaml.arg? } := by
    rw [← h.ratioNumerator, ← h.ratioDenominator, ← h.dividendAmount, ← h.newSymbol, ← h.source]
  simp only [parseEntry, field_of_some h.symbol, field_of_some h.exchange, field_of_some htext,
    field_of_some hv, isoDate, hiso, actionTypeOf, htype, bind, Except.bind]
  rw [← hargs]

/-- An ex-date that is no text raises a `TypeError`. -/
theorem parseEntry_of_notText {items : List (Yaml × Yaml)} {symbol exchange v : Yaml}
    (hsymbol : Yaml.lookup "symbol" items = some symbol)
    (hexchange : Yaml.lookup "exchange" items = some exchange)
    (hv : Yaml.lookup "ex_date" items = some v) (htext : ∀ text, v ≠ .str text) :
    parseEntry fromisoformat (.dict items) = .error (.raised .typeError) := by
  simp only [parseEntry, field_of_some hsymbol, field_of_some hexchange, field_of_some hv,
    isoDate_of_not_str htext, bind, Except.bind]

/-- Every mapping is read so far. -/
theorem exists_fields (fromisoformat : String → Option Date) (items : List (Yaml × Yaml)) :
    ∃ r, Fields fromisoformat items r ∧
      parseEntry fromisoformat (.dict items) = r >>= makeAction := by
  cases hsymbol : Yaml.lookup "symbol" items with
  | none =>
      refine ⟨_, .missing "symbol", ?_⟩
      simp only [parseEntry, field, hsymbol, bind, Except.bind]
  | some symbol =>
  cases hexchange : Yaml.lookup "exchange" items with
  | none =>
      refine ⟨_, .missing "exchange", ?_⟩
      simp only [parseEntry, field, hsymbol, hexchange, bind, Except.bind]
  | some exchange =>
  cases hdate : Yaml.lookup "ex_date" items with
  | none =>
      refine ⟨_, .missing "ex_date", ?_⟩
      simp only [parseEntry, field, hsymbol, hexchange, hdate, bind, Except.bind]
  | some v =>
  by_cases htext : ∀ text, v ≠ .str text
  · exact ⟨_, .notText hsymbol hexchange hdate htext,
      by rw [parseEntry_of_notText hsymbol hexchange hdate htext]; rfl⟩
  · rcases not_forall.mp htext with ⟨text, hv⟩
    rw [not_ne_iff] at hv
    subst hv
    cases hiso : fromisoformat text with
    | none =>
        refine ⟨_, .unreadable "Invalid isoformat string", ?_⟩
        simp only [parseEntry, field, hsymbol, hexchange, hdate, isoDate, hiso, bind,
          Except.bind]
    | some exDate =>
    cases haction : Yaml.lookup "action_type" items with
    | none =>
        refine ⟨_, .missing "action_type", ?_⟩
        simp only [parseEntry, field, hsymbol, hexchange, hdate, isoDate, hiso, haction, bind,
          Except.bind]
    | some t =>
    cases htype : CorporateActionType.ofYaml t with
    | none =>
        refine ⟨_, .unreadable "is not a valid CorporateActionType", ?_⟩
        simp only [parseEntry, field, hsymbol, hexchange, hdate, isoDate, hiso, haction,
          actionTypeOf, htype, bind, Except.bind]
    | some actionType =>
        have hreads : ReadsAs items
            { symbol := symbol
              exchange := exchange
              exDate := exDate
              actionType := actionType
              source := "MANUAL"
              ratioNumerator := (Yaml.lookup "ratio_numerator" items).bind Yaml.arg?
              ratioDenominator := (Yaml.lookup "ratio_denominator" items).bind Yaml.arg?
              dividendAmount := (Yaml.lookup "dividend_amount" items).bind Yaml.arg?
              newSymbol := (Yaml.lookup "new_symbol" items).bind Yaml.arg? } :=
          ⟨hsymbol, hexchange, by rw [haction]; exact htype, rfl, rfl, rfl, rfl, rfl⟩
        have hquoted : Quoted fromisoformat items exDate := ⟨text, hdate, hiso⟩
        exact ⟨_, .read hreads hquoted, parseEntry_of_reads hreads hquoted⟩

/-! ## Checks that compare something else than a number -/

/-- A value that `<=` compares with a number. -/
def Yaml.IsNumber : Yaml → Prop
  | .bool _ => True
  | .int _ => True
  | .float _ => True
  | _ => False

theorem nonPositive_error_iff {v : Yaml} {e : Exc} :
    PyArg.nonPositive v = .error e ↔ ¬ v.IsNumber ∧ e = .typeError := by
  cases v <;> simp [PyArg.nonPositive, Yaml.nonPositive, Yaml.IsNumber, eq_comm]

theorem requirePositive_error_iff {v : Yaml} {message : String} {e : Exc} :
    ActionArgs.requirePositive v message = .error e ↔
      ¬ v.IsNumber ∧ e = .typeError ∨
        PyArg.nonPositive v = .ok true ∧ e = .valueError message := by
  unfold ActionArgs.requirePositive
  cases hv : PyArg.nonPositive v with
  | error e' =>
      have hnumber := nonPositive_error_iff.mp hv
      rw [hnumber.2]
      simp [hnumber.1, eq_comm]
  | ok b =>
      have hnumber : v.IsNumber := by
        by_contra hnot
        rw [nonPositive_error_iff.mpr ⟨hnot, rfl⟩] at hv
        cases hv
      cases b <;> simp [hnumber, eq_comm]

/-- A check of `__post_init__` that comes to compare a text, a list or the like with zero. -/
def ComparesNonNumber (args : ActionArgs Yaml Yaml) : Prop :=
  match args.actionType with
  | .split | .bonus =>
      ∃ numerator denominator, args.ratioNumerator.filter PyArg.truthy = some numerator ∧
        args.ratioDenominator.filter PyArg.truthy = some denominator ∧
        (¬ numerator.IsNumber ∨ PyArg.nonPositive numerator = .ok false ∧ ¬ denominator.IsNumber)
  | .dividend => ∃ amount, args.dividendAmount.filter PyArg.truthy = some amount ∧
      ¬ amount.IsNumber
  | .symbolChange => False

/-- A ratio check fails with a `TypeError` or a `ValueError`. -/
theorem checkRatio_error {args : ActionArgs Yaml Yaml} {e : Exc} (h : args.checkRatio = .error e) :
    (e = .typeError ∧ ∃ numerator denominator,
        args.ratioNumerator.filter PyArg.truthy = some numerator ∧
        args.ratioDenominator.filter PyArg.truthy = some denominator ∧
        (¬ numerator.IsNumber ∨ PyArg.nonPositive numerator = .ok false ∧ ¬ denominator.IsNumber)) ∨
      ∃ message, e = .valueError message := by
  unfold ActionArgs.checkRatio at h
  split at h
  · rename_i numerator denominator hnumerator hdenominator
    cases hfirst : ActionArgs.requirePositive numerator "ratio must be positive" with
    | error e' =>
        rw [hfirst, error_bind] at h
        rcases Except.error.inj h with rfl
        rcases requirePositive_error_iff.mp hfirst with ⟨hnot, htype⟩ | ⟨-, hvalue⟩
        · exact Or.inl ⟨htype, numerator, denominator, hnumerator, hdenominator, Or.inl hnot⟩
        · exact Or.inr ⟨_, hvalue⟩
    | ok _ =>
        rw [hfirst, ok_bind] at h
        have hpositive := ActionArgs.requirePositive_eq_ok.mp hfirst
        rcases requirePositive_error_iff.mp h with ⟨hnot, htype⟩ | ⟨-, hvalue⟩
        · exact Or.inl ⟨htype, numerator, denominator, hnumerator, hdenominator,
            Or.inr ⟨hpositive, hnot⟩⟩
        · exact Or.inr ⟨_, hvalue⟩
  · rcases Except.error.inj h with rfl
    exact Or.inr ⟨_, rfl⟩

/-- The checks fail with a `TypeError` or a `ValueError`. -/
theorem postInit_error_cases {args : ActionArgs Yaml Yaml} {e : Exc}
    (h : args.postInit = .error e) :
    (e = .typeError ∧ ComparesNonNumber args) ∨ ∃ message, e = .valueError message := by
  unfold ActionArgs.postInit at h
  unfold ComparesNonNumber
  cases htype : args.actionType with
  | split =>
      rw [htype] at h
      exact checkRatio_error h
  | bonus =>
      rw [htype] at h
      exact checkRatio_error h
  | dividend =>
      rw [htype] at h
      simp only at h
      split at h
      · rename_i amount hamount
        rcases requirePositive_error_iff.mp h with ⟨hnot, he⟩ | ⟨-, hvalue⟩
        · exact Or.inl ⟨he, amount, hamount, hnot⟩
        · exact Or.inr ⟨_, hvalue⟩
      · rcases Except.error.inj h with rfl
        exact Or.inr ⟨_, rfl⟩
  | symbolChange =>
      rw [htype] at h
      simp only at h
      split_ifs at h
      rcases Except.error.inj h with rfl
      exact Or.inr ⟨_, rfl⟩

/-- Such a comparison does raise. -/
theorem postInit_of_comparesNonNumber {args : ActionArgs Yaml Yaml} (h : ComparesNonNumber args) :
    args.postInit = .error .typeError := by
  have hratio : (∃ numerator denominator,
      args.ratioNumerator.filter PyArg.truthy = some numerator ∧
      args.ratioDenominator.filter PyArg.truthy = some denominator ∧
      (¬ numerator.IsNumber ∨ PyArg.nonPositive numerator = .ok false ∧ ¬ denominator.IsNumber)) →
      args.checkRatio = .error .typeError := by
    rintro ⟨numerator, denominator, hnumerator, hdenominator, hcompare⟩
    simp only [ActionArgs.checkRatio, hnumerator, hdenominator]
    rcases hcompare with hnot | ⟨hpositive, hnot⟩
    · rw [requirePositive_error_iff.mpr (Or.inl ⟨hnot, rfl⟩), error_bind]
    · rw [ActionArgs.requirePositive_eq_ok.mpr hpositive, ok_bind,
        requirePositive_error_iff.mpr (Or.inl ⟨hnot, rfl⟩)]
  unfold ComparesNonNumber at h
  unfold ActionArgs.postInit
  cases htype : args.actionType with
  | split =>
      rw [htype] at h
      exact hratio h
  | bonus =>
      rw [htype] at h
      exact hratio h
  | dividend =>
      rw [htype] at h
      rcases h with ⟨amount, hamount, hnot⟩
      simp only [hamount]
      exact requirePositive_error_iff.mpr (Or.inl ⟨hnot, rfl⟩)
  | symbolChange =>
      rw [htype] at h
      exact h.elim

/-! ## What escapes -/

variable (fromisoformat) in
/-- An entry on which a `TypeError` is raised: it is no mapping; or it has an ex-date that is no
text, such as a date without quotes; or its checks compare something else than a number. -/
def TypeFault (entry : Yaml) : Prop :=
  (∀ items, entry ≠ .dict items) ∨
    ∃ items, entry = .dict items ∧
      ((∃ symbol exchange v, Yaml.lookup "symbol" items = some symbol ∧
          Yaml.lookup "exchange" items = some exchange ∧ Yaml.lookup "ex_date" items = some v ∧
          ∀ text, v ≠ .str text) ∨
        ∃ args, ReadsAs items args ∧ Quoted fromisoformat items args.exDate ∧
          ComparesNonNumber args)

variable (fromisoformat) in
/-- An entry that is returned: its fields are read, with a text as ex-date, and pass the checks. -/
def Accepted (entry : Yaml) (args : ActionArgs Yaml Yaml) : Prop :=
  ∃ items, entry = .dict items ∧ ReadsAs items args ∧
    Quoted fromisoformat items args.exDate ∧ args.postInit = .ok ()

theorem makeAction_eq_ok {args : ActionArgs Yaml Yaml} {a : CorporateAction Yaml Yaml} :
    makeAction args = .ok a ↔ a.args = args := by
  unfold makeAction
  cases hmake : CorporateAction.make args with
  | ok b =>
      rw [Except.ok.injEq, ← CorporateAction.make_eq_ok, hmake, Except.ok.injEq]
  | error e =>
      rw [← CorporateAction.make_eq_ok, hmake]
      simp

theorem makeAction_eq_error {args : ActionArgs Yaml Yaml} {e : EntryExc} :
    makeAction args = .error e ↔ ∃ e', args.postInit = .error e' ∧ e = .raised e' := by
  unfold makeAction
  cases hmake : CorporateAction.make args with
  | ok a =>
      have hargs := CorporateAction.make_eq_ok.mp hmake
      have hok : args.postInit = .ok () := by
        rw [← hargs]
        exact a.checked
      simp [hok]
  | error e' =>
      rw [CorporateAction.make_eq_error.mp hmake, Except.error.injEq]
      constructor
      · intro h
        exact ⟨e', rfl, h.symm⟩
      · rintro ⟨e'', he, rfl⟩
        rw [Except.error.inj he]

/-- An entry is returned with the values of its fields. -/
theorem parseEntry_eq_ok {entry : Yaml} {a : CorporateAction Yaml Yaml} :
    parseEntry fromisoformat entry = .ok a ↔ Accepted fromisoformat entry a.args := by
  constructor
  · intro h
    cases entry with
    | dict items =>
        rcases exists_fields fromisoformat items with ⟨r, hfields, hparse⟩
        rw [h] at hparse
        cases hfields with
        | missing key => cases hparse
        | unreadable message => cases hparse
        | notText => cases hparse
        | read hreads hdate =>
            have hargs := makeAction_eq_ok.mp hparse.symm
            rw [← hargs] at hreads hdate
            exact ⟨items, rfl, hreads, hdate, a.checked⟩
    | _ => cases h
  · rintro ⟨items, rfl, hreads, hdate, -⟩
    rw [parseEntry_of_reads hreads hdate]
    exact makeAction_eq_ok.mpr rfl

theorem parseEntry_eq_typeError {entry : Yaml} :
    parseEntry fromisoformat entry = .error (.raised .typeError) ↔
      TypeFault fromisoformat entry := by
  constructor
  · intro h
    cases entry with
    | dict items =>
        refine Or.inr ⟨items, rfl, ?_⟩
        rcases exists_fields fromisoformat items with ⟨r, hfields, hparse⟩
        rw [h] at hparse
        cases hfields with
        | missing key => cases hparse
        | unreadable message => cases hparse
        | notText hsymbol hexchange hv htext =>
            exact Or.inl ⟨_, _, _, hsymbol, hexchange, hv, htext⟩
        | read hreads hdate =>
            rcases makeAction_eq_error.mp hparse.symm with ⟨e, hinit, he⟩
            rcases EntryExc.raised.inj he with rfl
            rcases postInit_error_cases hinit with ⟨-, hcompares⟩ | ⟨message, hvalue⟩
            · exact Or.inr ⟨_, hreads, hdate, hcompares⟩
            · cases hvalue
    | _ => exact Or.inl fun items hitems => by cases hitems
  · intro h
    rcases h with hother | ⟨items, rfl, hfault⟩
    · cases entry with
      | dict items => exact absurd rfl (hother items)
      | _ => rfl
    · rcases hfault with ⟨symbol, exchange, v, hsymbol, hexchange, hv, htext⟩ |
        ⟨args, hreads, hdate, hcompares⟩
      · exact parseEntry_of_notText hsymbol hexchange hv htext
      · rw [parseEntry_of_reads hreads hdate]
        exact makeAction_eq_error.mpr ⟨_, postInit_of_comparesNonNumber hcompares, rfl⟩

/-- An entry raises `KeyError`, `ValueError` or `TypeError`. -/
theorem parseEntry_error_cases {entry : Yaml} {e : EntryExc}
    (h : parseEntry fromisoformat entry = .error e) :
    (∃ key, e = .keyError key) ∨ (∃ message, e = .raised (.valueError message)) ∨
      e = .raised .typeError := by
  cases entry with
  | dict items =>
      rcases exists_fields fromisoformat items with ⟨r, hfields, hparse⟩
      rw [h] at hparse
      cases hfields with
      | missing key => exact Or.inl ⟨key, Except.error.inj hparse⟩
      | unreadable message => exact Or.inr (Or.inl ⟨message, Except.error.inj hparse⟩)
      | notText => exact Or.inr (Or.inr (Except.error.inj hparse))
      | read hreads hdate =>
          rcases makeAction_eq_error.mp hparse.symm with ⟨e', hinit, rfl⟩
          rcases postInit_error_cases hinit with ⟨htype, -⟩ | ⟨message, hvalue⟩
          · exact Or.inr (Or.inr (by rw [htype]))
          · exact Or.inr (Or.inl ⟨message, by rw [hvalue]⟩)
  | _ => exact Or.inr (Or.inr (Except.error.inj h).symm)

/-- An entry in the loop is returned, refused with the documented exception, or escapes. -/
theorem caught_cases (fromisoformat : String → Option Date) (entry : Yaml) :
    (∃ a, caught fromisoformat entry = .ok a ∧ Accepted fromisoformat entry a.args) ∨
      (caught fromisoformat entry = .error .configValidationError ∧
        (∀ args, ¬ Accepted fromisoformat entry args) ∧ ¬ TypeFault fromisoformat entry) ∨
      (caught fromisoformat entry = .error (.uncaught .typeError) ∧
        TypeFault fromisoformat entry) := by
  unfold caught
  cases hparse : parseEntry fromisoformat entry with
  | ok a => exact Or.inl ⟨a, rfl, parseEntry_eq_ok.mp hparse⟩
  | error e =>
      have hrefused : ∀ args, ¬ Accepted fromisoformat entry args := by
        intro args haccepted
        have hchecked : args.postInit = .ok () := by
          rcases haccepted with ⟨-, -, -, -, hok⟩
          exact hok
        have hok := parseEntry_eq_ok (a := ⟨args, hchecked⟩).mpr haccepted
        rw [hparse] at hok
        cases hok
      rw [← parseEntry_eq_typeError, hparse]
      rcases parseEntry_error_cases hparse with ⟨key, rfl⟩ | ⟨message, rfl⟩ | rfl
      · exact Or.inr (Or.inl ⟨rfl, hrefused, by simp⟩)
      · exact Or.inr (Or.inl ⟨rfl, hrefused, by simp⟩)
      · exact Or.inr (Or.inr ⟨rfl, rfl⟩)

/-! ## Whole documents -/

/-- A positive number. -/
def Yaml.Positive : Yaml → Prop
  | .int n => 0 < n
  | .float x => x ≠ .nan ∧ x.le .zero = false
  | _ => False

theorem Yaml.Positive.checks {v : Yaml} (h : v.Positive) :
    (some v).filter PyArg.truthy = some v ∧ PyArg.nonPositive v = .ok false := by
  cases v with
  | int n =>
      have hpos : 0 < n := h
      simp [Option.filter, PyArg.truthy, Yaml.truthy, PyArg.nonPositive, Yaml.nonPositive, hpos.ne',
        hpos]
  | float x =>
      rcases h with ⟨-, hle⟩
      have hnonzero : x.nonzero = true := by
        rw [PyFloat.nonzero, PyFloat.eq, hle]
        rfl
      simp [Option.filter, PyArg.truthy, Yaml.truthy, PyArg.nonPositive, Yaml.nonPositive,
        hnonzero, hle]
  | _ => exact h.elim

/-- The values that the schema asks for: texts for the symbol and the exchange, and what the type
of the action needs. -/
def Proper (args : ActionArgs Yaml Yaml) : Prop :=
  (∃ text, args.symbol = .str text) ∧ (∃ text, args.exchange = .str text) ∧
    match args.actionType with
    | .split | .bonus => ∃ numerator denominator, args.ratioNumerator = some numerator ∧
        args.ratioDenominator = some denominator ∧ numerator.Positive ∧ denominator.Positive
    | .dividend => ∃ amount, args.dividendAmount = some amount ∧ amount.Positive
    | .symbolChange => ∃ text, args.newSymbol = some (.str text) ∧ text ≠ ""

theorem Proper.postInit {args : ActionArgs Yaml Yaml} (h : Proper args) :
    args.postInit = .ok () := by
  rcases h with ⟨-, -, h⟩
  have hratio : (∃ numerator denominator, args.ratioNumerator = some numerator ∧
      args.ratioDenominator = some denominator ∧ numerator.Positive ∧ denominator.Positive) →
      args.checkRatio = .ok () := by
    rintro ⟨numerator, denominator, hnumerator, hdenominator, hnum, hden⟩
    simp only [ActionArgs.checkRatio, hnumerator, hdenominator, hnum.checks.1, hden.checks.1,
      ActionArgs.requirePositive_eq_ok.mpr hnum.checks.2,
      ActionArgs.requirePositive_eq_ok.mpr hden.checks.2, ok_bind]
  unfold ActionArgs.postInit
  cases htype : args.actionType with
  | split =>
      rw [htype] at h
      exact hratio h
  | bonus =>
      rw [htype] at h
      exact hratio h
  | dividend =>
      rw [htype] at h
      rcases h with ⟨amount, hamount, hpos⟩
      simp only [hamount, hpos.checks.1]
      exact ActionArgs.requirePositive_eq_ok.mpr hpos.checks.2
  | symbolChange =>
      rw [htype] at h
      rcases h with ⟨text, htext, hne⟩
      simp [htext, PyArg.truthy, Yaml.truthy, hne]

variable (fromisoformat) in
/-- An entry by the schema, with its values; the ex-date may stand without quotes. -/
def WellFormed (entry : Yaml) (args : ActionArgs Yaml Yaml) : Prop :=
  ∃ items, entry = .dict items ∧ ReadsAs items args ∧ Proper args ∧
    (Quoted fromisoformat items args.exDate ∨ Unquoted items args.exDate)

/-- A well-formed entry is returned, or its date is not quoted and raises. -/
theorem WellFormed.accepted_or_typeFault {entry : Yaml} {args : ActionArgs Yaml Yaml}
    (h : WellFormed fromisoformat entry args) :
    Accepted fromisoformat entry args ∨ TypeFault fromisoformat entry := by
  rcases h with ⟨items, hentry, hreads, hproper, hdate | hdate⟩
  · exact Or.inl ⟨items, hentry, hreads, hdate, hproper.postInit⟩
  · refine Or.inr (Or.inr ⟨items, hentry, Or.inl ?_⟩)
    refine ⟨_, _, _, hreads.symbol, hreads.exchange, hdate, ?_⟩
    intro text htext
    cases htext

/-- What is returned of a well-formed entry are its values. -/
theorem Accepted.eq_of_wellFormed {entry : Yaml} {args args' : ActionArgs Yaml Yaml}
    (h : Accepted fromisoformat entry args) (h' : WellFormed fromisoformat entry args') :
    args = args' := by
  rcases h with ⟨items, rfl, hreads, ⟨text, htext, hiso⟩, -⟩
  rcases h' with ⟨items', hitems, hreads', -, hdate⟩
  rcases Yaml.dict.inj hitems with rfl
  apply hreads.eq hreads'
  rcases hdate with ⟨text', htext', hiso'⟩ | hdate
  · rcases Yaml.str.inj (Option.some.inj (htext.symm.trans htext')) with rfl
    exact Option.some.inj (hiso.symm.trans hiso')
  · cases htext.symm.trans hdate

/-- The entries of a document. -/
def Loaded.entries : Loaded → Option (List Yaml)
  | .parsed raw => if raw.truthy then raw.iterate else some []
  | _ => none

variable (fromisoformat) in
/-- No entry that the loop reaches raises a `TypeError`. -/
def NoEscape : List Yaml → Prop
  | [] => True
  | entry :: rest => ¬ TypeFault fromisoformat entry ∧
      ((∃ args, Accepted fromisoformat entry args) → NoEscape rest)

variable (fromisoformat) in
/-- The loader returns the entries, those that are well-formed with their values, or it raises the
documented exception, and not on a document of well-formed entries. -/
def LoadsAsDocumented (loaded : Loaded) : Prop :=
  match loadManualOverrides fromisoformat loaded with
  | .ok actions => ∃ entries, loaded.entries = some entries ∧
      List.Forall₂ (fun entry a => ∀ args, WellFormed fromisoformat entry args → a.args = args)
        entries actions
  | .error .configValidationError => ¬ ∃ entries, loaded.entries = some entries ∧
      ∀ entry ∈ entries, ∃ args, WellFormed fromisoformat entry args
  | .error _ => False

variable (fromisoformat) in
/-- Reading raises nothing undocumented, a document that is not empty has items, and no entry that
is reached raises a `TypeError`. -/
def Loadable : Loaded → Prop
  | .osError => True
  | .yamlError => True
  | .raises _ => False
  | .parsed raw => raw.truthy = true →
      ∃ entries, raw.iterate = some entries ∧ NoEscape fromisoformat entries

/-- How the loop ends. -/
theorem mapM_caught (fromisoformat : String → Option Date) (entries : List Yaml) :
    (∃ actions, entries.mapM (caught fromisoformat) = .ok actions ∧
      NoEscape fromisoformat entries ∧
      List.Forall₂ (fun entry a => Accepted fromisoformat entry (CorporateAction.args a))
        entries actions) ∨
      (entries.mapM (caught fromisoformat) = .error .configValidationError ∧
        NoEscape fromisoformat entries ∧
        ∃ entry ∈ entries, ∀ args, ¬ WellFormed fromisoformat entry args) ∨
      (entries.mapM (caught fromisoformat) = .error (.uncaught .typeError) ∧
        ¬ NoEscape fromisoformat entries) := by
  induction entries with
  | nil => exact Or.inl ⟨[], rfl, trivial, .nil⟩
  | cons entry rest ih =>
      rcases caught_cases fromisoformat entry with ⟨a, hcaught, haccepted⟩ |
        ⟨hcaught, hrefused, hfault⟩ | ⟨hcaught, hfault⟩
      · -- the entry is returned, so the rest decides
        have hok : ¬ TypeFault fromisoformat entry := by
          intro hfault
          have hraises := parseEntry_eq_typeError.mpr hfault
          rw [parseEntry_eq_ok.mpr haccepted] at hraises
          cases hraises
        rw [mapM_cons_ok hcaught]
        rcases ih with ⟨actions, hmap, hnone, hall⟩ | ⟨hmap, hnone, bad, hbad, hill⟩ |
          ⟨hmap, hescapes⟩
        · exact Or.inl ⟨a :: actions, by rw [hmap]; rfl, ⟨hok, fun _ => hnone⟩,
            .cons haccepted hall⟩
        · exact Or.inr (Or.inl ⟨by rw [hmap]; rfl, ⟨hok, fun _ => hnone⟩, bad,
            List.mem_cons_of_mem _ hbad, hill⟩)
        · exact Or.inr (Or.inr ⟨by rw [hmap]; rfl, fun h => hescapes (h.2 ⟨_, haccepted⟩)⟩)
      · refine Or.inr (Or.inl ⟨?_, ⟨hfault, ?_⟩, entry, List.mem_cons_self, ?_⟩)
        · rw [List.mapM_cons, hcaught]
          rfl
        · rintro ⟨args, haccepted⟩
          exact absurd haccepted (hrefused args)
        · intro args hwell
          rcases hwell.accepted_or_typeFault with haccepted | hraises
          · exact hrefused args haccepted
          · exact hfault hraises
      · refine Or.inr (Or.inr ⟨?_, fun h => h.1 hfault⟩)
        rw [List.mapM_cons, hcaught]
        rfl

/-- The loader does what is documented exactly on the documents that raise nothing else on the
way: reading raises at most `OSError` or `YAMLError`, a document that is not empty can be iterated
over, and no entry that is reached raises a `TypeError`. -/
theorem loadsAsDocumented_iff (fromisoformat : String → Option Date) (loaded : Loaded) :
    LoadsAsDocumented fromisoformat loaded ↔ Loadable fromisoformat loaded := by
  cases loaded with
  | osError => exact iff_of_true (fun ⟨entries, hentries, _⟩ => by cases hentries) trivial
  | yamlError => exact iff_of_true (fun ⟨entries, hentries, _⟩ => by cases hentries) trivial
  | raises name => exact Iff.rfl
  | parsed raw =>
      simp only [LoadsAsDocumented, Loadable, loadManualOverrides, Loaded.entries]
      cases htruthy : raw.truthy with
      | false =>
          simp only [Bool.false_eq_true, if_false]
          exact iff_of_true ⟨[], rfl, .nil⟩ (fun h => h.elim)
      | true =>
          cases hiterate : raw.iterate with
          | none => simp
          | some entries =>
              simp only [if_true, true_implies, Option.some.injEq, exists_eq_left']
              rcases mapM_caught fromisoformat entries with ⟨actions, hmap, hnone, hall⟩ |
                ⟨hmap, hnone, bad, hbad, hill⟩ | ⟨hmap, hescapes⟩
              · rw [hmap]
                refine iff_of_true ?_ hnone
                apply List.Forall₂.imp ?_ hall
                intro entry a haccepted args hwell
                exact haccepted.eq_of_wellFormed hwell
              · rw [hmap]
                refine iff_of_true ?_ hnone
                intro hwell
                rcases hwell bad hbad with ⟨args, hargs⟩
                exact hill args hargs
              · rw [hmap]
                exact iff_of_false id hescapes

/-- An entry with an ex-date without quotes. -/
def unquotedEntry (d : Date) : Yaml :=
  .dict [(.str "symbol", .str "EXAMPLE"), (.str "exchange", .str "NSE"), (.str "ex_date", .date d),
    (.str "action_type", .str "SPLIT"), (.str "ratio_numerator", .int 2),
    (.str "ratio_denominator", .int 1)]

/-- On an ex-date without quotes a `TypeError` escapes. -/
theorem unquoted_date_escapes :
    ¬ ∀ (fromisoformat : String → Option Date) (loaded : Loaded),
      LoadsAsDocumented fromisoformat loaded := by
  intro h
  rcases (⟨_, rfl⟩ : ∃ d, Date.ofFields 2024 1 1 = some d) with ⟨d, -⟩
  exact h Date.fromisoformat (.parsed (.list [unquotedEntry d]))

end Intraday.Instruments
