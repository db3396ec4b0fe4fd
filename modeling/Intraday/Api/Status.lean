import Intraday.Orchestrator.Persist

/-!
# Intraday.Api.Status — `api/routers/status.py` and `api/routers/positions.py`

The two endpoints read the state that the orchestrator has written: `GET /status` picks its
fields, `GET /positions` the entries of its open positions. Writer and readers share nothing
but the texts of the keys. Those of the P&L, the counters and the flags are the same on both
sides (`getStatus_persisted`), but the regime is read under `regime`, which the state does not
have, and a position under `symbol` and `entry_price`, where the orchestrator has the symbol as
the key of the entry and the price under `avg_price` (`getPositions_persisted`).
-/

namespace Intraday.Api.Status

open Intraday.Core Intraday.Lib Intraday.Lib.Python
open Intraday.Orchestrator.Persist

/-- `r.get(key)` of a client that decodes its responses. -/
abbrev Get := String → Except Exc (Option String)

/-! ## Readers -/

/-- `_read_state`: any JSON value that is there, else an empty dictionary. -/
def readState (py : Builtins) (get : Get) : Json :=
  match get orchestratorStateRedisKey with
  | .ok (some raw) => if raw = "" then .obj [] else (py.loads raw).getD (.obj [])
  | _ => .obj []

/-- `_bool_key`. -/
def boolKey (get : Get) (key : String) : Bool :=
  match get key with
  | .ok (some v) => decide (v ≠ "" ∧ v ∉ ["0", "false", "False"])
  | _ => false

variable (state : Dict String Json) (key : String)

/-- `_state_bool`. -/
def stateBool : Bool := ((state.get? key).getD .null).truthy

/-- `_state_float`. -/
def stateFloat (py : Builtins) : Except Exc PyFloat :=
  ((state.get? key).getD (.float .zero)).floatOrZero py

/-- `_state_int`. -/
def stateInt : Except Exc ℤ := ((state.get? key).getD (.int 0)).truncOrZero

/-- `_state_str_opt`. -/
def stateStrOpt (py : Builtins) : Option String :=
  match state.get? key with
  | none | some .null => none
  | some v => some (v.pyStr py)

/-- `_state_dict_len`. -/
def stateDictLen : ℕ :=
  match state.get? key with
  | some (.obj members) => (Json.dictOf members).entries.length
  | _ => 0

/-! ## GET /status -/

/-- `SystemStatus`. -/
structure SystemStatus where
  tradingMode : String
  isHalted : Bool
  isPaused : Bool
  isDegraded : Bool
  killSwitchActive : Bool
  circuitBreakerActive : Bool
  regime : Option String
  pnlToday : PyFloat
  pnlTodayPct : PyFloat
  openPositionsCount : ℕ
  signalsToday : ℤ
  tradesToday : ℤ
  reconciliationMismatches : ℤ
  timestampMs : ℤ
deriving DecidableEq

/-- `get_status`. -/
def getStatus (py : Builtins) (tradingMode : String) (nowMs : ℤ) (get : Get) :
    Except Exc SystemStatus := do
  let state ← (readState py get).asDict
  let ksActive := stateBool state "kill_switch_active"
  let cbActive := stateBool state "circuit_breaker_active"
  let pnlToday ← stateFloat state "pnl_today" py
  let pnlTodayPct ← stateFloat state "pnl_today_pct" py
  let signalsToday ← stateInt state "signals_today"
  let tradesToday ← stateInt state "trades_today"
  let mismatches ← stateInt state "reconciliation_mismatches_today"
  return {
    tradingMode := tradingMode
    isHalted := boolKey get killSwitchHaltedKey || ksActive || cbActive
    isPaused := boolKey get apiPauseRedisKey
    isDegraded := boolKey get ingestionDegradedRedisKey
    killSwitchActive := ksActive
    circuitBreakerActive := cbActive
    regime := stateStrOpt state "regime" py
    pnlToday := pnlToday
    pnlTodayPct := pnlTodayPct
    openPositionsCount := stateDictLen state "open_positions"
    signalsToday := signalsToday
    tradesToday := tradesToday
    reconciliationMismatches := mismatches
    timestampMs := nowMs }

/-! ## GET /positions -/

/-- `PositionOut`. -/
structure PositionOut where
  symbol : String
  exchange : String
  direction : String
  quantity : ℤ
  entryPrice : PyFloat
deriving DecidableEq

/-- The row of one position. -/
def positionOut (py : Builtins) (pos : Dict String Json) : Except Exc PositionOut := do
  let quantity ← ((pos.get? "quantity").getD (.int 0)).truncOrZero
  let entryPrice ← ((pos.get? "entry_price").getD (.float .zero)).floatOrZero py
  return {
    symbol := ((pos.get? "symbol").getD (.str "")).pyStr py
    exchange := ((pos.get? "exchange").getD (.str "")).pyStr py
    direction := ((pos.get? "direction").getD (.str "")).pyStr py
    quantity := quantity
    entryPrice := entryPrice }

/-- The rows of the open positions: a position that is no dictionary, or raises a `TypeError` or a
`ValueError`, is left out; an `OverflowError` is not caught. -/
def positionRows (py : Builtins) : List (String × Json) → Except Exc (List PositionOut)
  | [] => .ok []
  | (_, pos) :: rest =>
      match pos with
      | .obj fields =>
          match positionOut py (Json.dictOf fields) with
          | .ok row => (positionRows py rest).map (row :: ·)
          -- only an overflow leaves the loop
          | .error exc => if exc = overflowError then .error exc else positionRows py rest
      | _ => positionRows py rest

/-- `get_positions`. -/
def getPositions (py : Builtins) (get : Get) : Except Exc (List PositionOut) := do
  let state ← (readState py get).asDict
  match state.get? "open_positions" with
  | some (.obj members) => positionRows py (Json.dictOf members).entries
  | _ => return []

/-! ## A persisted state -/

/-- The database in which `shutdown` has written `s`; `others` answers for the other keys. -/
def persisted (s : TradingSystemState) (others : Get) : Get := fun key =>
  if key = orchestratorStateRedisKey then .ok (some s.toJson) else others key

variable {py : Builtins} {s : TradingSystemState} {others : Get}

theorem readState_persisted (hloads : py.loads = Json.loads) :
    (readState py (persisted s others)).asDict = .ok s.dict := by
  -- the empty text counts as no state
  have hne : s.toJson ≠ "" := by
    intro h
    have hempty : Json.loads "" = none := rfl
    have hwritten := s.loads_toJson
    rw [h, hempty] at hwritten
    cases hwritten
  simp [readState, persisted, hne, hloads, s.loads_toJson, Json.asDict, s.dictOf_members]

/-- Every field of the status of a persisted state: all are the state's, but the regime. -/
theorem getStatus_persisted (hloads : py.loads = Json.loads) (tradingMode : String) (nowMs : ℤ) :
    getStatus py tradingMode nowMs (persisted s others) = .ok
      { tradingMode := tradingMode
        isHalted := boolKey (persisted s others) killSwitchHaltedKey || s.killSwitchActive ||
          s.circuitBreakerActive
        isPaused := boolKey (persisted s others) apiPauseRedisKey
        isDegraded := boolKey (persisted s others) ingestionDegradedRedisKey
        killSwitchActive := s.killSwitchActive
        circuitBreakerActive := s.circuitBreakerActive
        regime := none
        pnlToday := s.pnlToday
        pnlTodayPct := s.pnlTodayPct
        openPositionsCount := s.openPositions.entries.length
        signalsToday := s.signalsToday
        tradesToday := s.tradesToday
        reconciliationMismatches := s.reconciliationMismatchesToday
        timestampMs := nowMs } := by
  have hks : s.dict.get? "kill_switch_active" = some (.bool s.killSwitchActive) := rfl
  have hcb : s.dict.get? "circuit_breaker_active" = some (.bool s.circuitBreakerActive) := rfl
  have hpnl : s.dict.get? "pnl_today" = some (.float s.pnlToday) := rfl
  have hpct : s.dict.get? "pnl_today_pct" = some (.float s.pnlTodayPct) := rfl
  have hpositions : s.dict.get? "open_positions" = some (ofRecords s.openPositions) := rfl
  have hsignals : s.dict.get? "signals_today" = some (.int s.signalsToday) := rfl
  have htrades : s.dict.get? "trades_today" = some (.int s.tradesToday) := rfl
  have hrecon : s.dict.get? "reconciliation_mismatches_today" =
      some (.int s.reconciliationMismatchesToday) := rfl
  -- the state has no such key
  have hregime : s.dict.get? "regime" = none := rfl
  simp only [getStatus, readState_persisted hloads, bind, Except.bind, pure, Except.pure,
    stateBool, stateFloat, stateInt, stateStrOpt, stateDictLen, hks, hcb, hpnl, hpct, hpositions,
    hsignals, htrades, hrecon, hregime, Option.getD_some, Json.truthy, Json.floatOrZero,
    Json.truncOrZero, ofRecords, Json.dictOf_entries]
  simp [Dict.mapEntries]

/-- The rows of a persisted state are those of its positions, by their own fields. -/
theorem getPositions_persisted (hloads : py.loads = Json.loads) :
    getPositions py (persisted s others) =
      positionRows py (s.openPositions.entries.map fun e => (e.1, ofRecord e.2)) := by
  have hpositions : s.dict.get? "open_positions" = some (ofRecords s.openPositions) := rfl
  have hentries : (Json.dictOf (s.openPositions.mapEntries fun _ r => ofRecord r).entries).entries =
      (s.openPositions.mapEntries fun _ r => ofRecord r).entries :=
    congrArg Dict.entries (Json.dictOf_entries _)
  simp only [getPositions, readState_persisted hloads, bind, Except.bind, hpositions, ofRecords]
  rw [hentries]
  rfl

/-! ## What the endpoints should report -/

/-- The status is the state's. -/
structure ReportsStatus (s : TradingSystemState) (status : SystemStatus) : Prop where
  regime : status.regime = some s.marketRegime
  pnlToday : status.pnlToday = s.pnlToday
  pnlTodayPct : status.pnlTodayPct = s.pnlTodayPct
  openPositionsCount : status.openPositionsCount = s.openPositions.entries.length
  signalsToday : status.signalsToday = s.signalsToday
  tradesToday : status.tradesToday = s.tradesToday
  reconciliationMismatches : status.reconciliationMismatches = s.reconciliationMismatchesToday
  killSwitchActive : status.killSwitchActive = s.killSwitchActive
  circuitBreakerActive : status.circuitBreakerActive = s.circuitBreakerActive
  isHalted : s.killSwitchActive = true ∨ s.circuitBreakerActive = true → status.isHalted = true

/-- The row is that of a position as `risk_node` reads it: the key of the entry, its quantity
and its average price. -/
structure ReportsPosition (py : Builtins) (entry : String × Record) (row : PositionOut) : Prop where
  symbol : row.symbol = entry.1
  quantity : ∃ q, ((entry.2.get? "quantity").getD (.int 0)).floatOrZero py = .ok q ∧
    q.toInt = .ok row.quantity
  price : ((entry.2.get? "avg_price").getD (.float .zero)).floatOrZero py = .ok row.entryPrice

/-- Both endpoints report the persisted state. -/
def Faithful (py : Builtins) (tradingMode : String) (nowMs : ℤ) (s : TradingSystemState)
    (others : Get) : Prop :=
  (∃ status, getStatus py tradingMode nowMs (persisted s others) = .ok status ∧
      ReportsStatus s status) ∧
    ∃ rows, getPositions py (persisted s others) = .ok rows ∧
      List.Forall₂ (ReportsPosition py) s.openPositions.entries rows

/-- A position as the orchestrator keeps it, of ten shares at 2500. -/
def tenShares : Record where
  entries :=
    [("quantity", .int 10),
     ("avg_price", .float (.finite false { digits := 25, exp := 2, normal := .inl (by decide) }))]
  nodup := by decide

/-- A state with one open position. -/
def oneOpen : TradingSystemState where
  sessionState := "RUNNING"
  marketDate := "2026-07-02"
  marketRegime := "TRENDING_UP"
  regimeConfidence := .zero
  watchlist := []
  openPositions := Dict.empty.set "RELIANCE" tenShares
  openOrders := Dict.empty
  signalsToday := 0
  tradesToday := 1
  pnlToday := .zero
  pnlTodayPct := .zero
  circuitBreakerActive := false
  killSwitchActive := false
  snapshotWindowActive := false
  pendingHitlApproval := none
  strategyIds := Dict.empty
  opsLastSecond := 0
  agentHeartbeats := Dict.empty
  lastReconciliationAt := none
  reconciliationMismatchesToday := 0
  lastError := none
  lastErrorAgent := none
  lastErrorAt := none

/-- What is reported of it: its price is not under `entry_price`, and its symbol not in it. -/
def tenSharesOut : PositionOut where
  symbol := ""
  exchange := ""
  direction := ""
  quantity := 10
  entryPrice := .zero

theorem positionRows_tenShares (py : Builtins) :
    positionRows py [("RELIANCE", ofRecord tenShares)] = .ok [tenSharesOut] := by
  have hrow : positionOut py (Json.dictOf tenShares.entries) = .ok tenSharesOut := by
    rw [Json.dictOf_entries]
    rfl
  simp only [positionRows, ofRecord, hrow, Except.map]

/-- The position of `oneOpen` is reported without its symbol. -/
theorem one_open_reported_unnamed :
    ¬ ∀ (py : Builtins) (tradingMode : String) (nowMs : ℤ) (s : TradingSystemState) (others : Get),
      Faithful { py with loads := Json.loads } tradingMode nowMs s others := by
  intro h
  rcases (h ⟨fun _ => none, fun _ => none, fun x _ => x, fun x _ => x, fun _ => .zero, fun _ => ""⟩
    "paper" 0 oneOpen fun _ => .ok none).2 with ⟨rows, hrows, hreports⟩
  have hone : oneOpen.openPositions.entries = [("RELIANCE", tenShares)] := rfl
  rw [getPositions_persisted rfl, hone, List.map_singleton, positionRows_tenShares] at hrows
  rw [hone] at hreports
  cases hrows
  rcases List.forall₂_cons.mp hreports with ⟨hrow, -⟩
  exact absurd hrow.symbol (by decide)

/-- No persisted state is reported faithfully: the regime is always missing. -/
theorem status_never_faithful (py : Builtins) (tradingMode : String) (nowMs : ℤ)
    (s : TradingSystemState) (others : Get) :
    ¬ Faithful { py with loads := Json.loads } tradingMode nowMs s others := by
  rintro ⟨⟨status, hstatus, hreports⟩, -⟩
  rw [getStatus_persisted rfl] at hstatus
  have hregime := hreports.regime
  rw [← Except.ok.inj hstatus] at hregime
  cases hregime

end Intraday.Api.Status
