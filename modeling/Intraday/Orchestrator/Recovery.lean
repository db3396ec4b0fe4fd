import Intraday.Lib.RedisStore
import Intraday.Orchestrator.Persist

/-!
# Intraday.Orchestrator.Recovery — `shutdown` and `restore`

A restart writes the state as JSON and reads it over the defaults of the day. A state that has the
keys of `TradingSystemState`, in the order of `make_initial_state`, is the same after any number of
restarts (`restarts_keep`), whatever the day and even if a later write fails, since the text of the
last one is still there. One that lacks keys, such as an older release may have saved, is completed
by the first restart and kept by the others.
-/

namespace Intraday.Orchestrator.Persist

open Intraday.Core Intraday.Lib Intraday.Lib.Python Intraday.Lib.RedisStore

/-! ## The defaults -/

/-- `make_initial_state()`, on the day `today`. -/
def makeInitialState (today : String) : TradingSystemState :=
  { sessionState := "CLOSED"
    marketDate := today
    marketRegime := "MEAN_REVERTING"
    regimeConfidence := .zero
    watchlist := []
    openPositions := Dict.empty
    openOrders := Dict.empty
    signalsToday := 0
    tradesToday := 0
    pnlToday := .zero
    pnlTodayPct := .zero
    circuitBreakerActive := false
    killSwitchActive := false
    snapshotWindowActive := false
    pendingHitlApproval := none
    strategyIds := Dict.empty
    opsLastSecond := 0
    agentHeartbeats := Dict.empty
    lastReconciliationAt := none
    reconciliationMismatchesToday := 0
    lastError := none
    lastErrorAgent := none
    lastErrorAt := none }

/-- The keys of `TradingSystemState`. -/
def stateKeys : List String := (makeInitialState "").members.map Prod.fst

/-- Every state has these keys. -/
theorem keys_dict (s : TradingSystemState) : s.dict.entries.map Prod.fst = stateKeys := rfl

/-- `state_from_json`, of the text of an object. -/
def stateFromJson (today raw : String) : Option (Dict String Json) :=
  match Json.loads raw with
  | some (.obj members) => some ((makeInitialState today).dict.update (Json.dictOf members))
  | _ => none

/-- The dictionary has the keys of `TradingSystemState` first, and then perhaps others. -/
def Whole (d : Dict String Json) : Prop := ∃ more, d.entries.map Prod.fst = stateKeys ++ more

theorem whole_dict (s : TradingSystemState) : Whole s.dict :=
  ⟨[], by rw [keys_dict, List.append_nil]⟩

/-- A dictionary is read back from its text. -/
theorem stateFromJson_dumps (today : String) (d : Dict String Json) :
    stateFromJson today (Json.obj d.entries).dumps =
      some ((makeInitialState today).dict.update d) := by
  rw [stateFromJson, Json.loads_dumps]
  simp only [Json.dictOf_entries]

/-- A whole dictionary is read back as it is, on any day. -/
theorem stateFromJson_whole (today : String) {d : Dict String Json} (h : Whole d) :
    stateFromJson today (Json.obj d.entries).dumps = some d := by
  rw [stateFromJson_dumps, Dict.update_eq_self]
  exact h

/-- What is read is whole. -/
theorem whole_of_stateFromJson {today raw : String} {d : Dict String Json}
    (h : stateFromJson today raw = some d) : Whole d := by
  rw [stateFromJson] at h
  split at h
  · rw [← Option.some.inj h]
    exact Dict.keys_update _ _
  · cases h

/-- A key of a whole dictionary is there. -/
theorem Whole.exists_get? {d : Dict String Json} (h : Whole d) {key : String}
    (hkey : key ∈ stateKeys) : ∃ v, d.get? key = some v := by
  rcases h with ⟨more, hmore⟩
  have hmem : key ∈ d.entries.map Prod.fst := by
    rw [hmore]
    exact List.mem_append_left _ hkey
  rcases List.mem_map.mp hmem with ⟨⟨k, v⟩, hv, rfl⟩
  exact ⟨v, Dict.get?_eq_some_iff.mpr hv⟩

/-! ## Restarts -/

/-- The orchestrator's `_state`, and the server that it persists it on. -/
structure Process where
  state : Dict String Json
  redis : Store

/-- `shutdown`; a write that raises is logged. -/
def shutdown (setRaises : Bool) (p : Process) : Process :=
  if setRaises then p
  else
    { p with
      redis := p.redis.put orchestratorStateRedisKey
        (some (Json.obj p.state.entries).dumps.toByteArray) }

/-- `restore`, on the day `today`; `none` is an exception. -/
def restore (today : String) (redis : Store) : Option Process :=
  match redis.get orchestratorStateRedisKey with
  | none => some { state := (makeInitialState today).dict, redis := redis }
  | some raw => do
      let payload ← String.fromUTF8? raw
      let state ← stateFromJson today payload
      pure { state := state, redis := redis }

/-- A `shutdown` and the `restore` after it. -/
structure Restart where
  setRaises : Bool
  today : String

/-- The new process. -/
def restart (p : Process) (r : Restart) : Option Process :=
  restore r.today (shutdown r.setRaises p).redis

/-- The state of the process is what the server has of it. -/
def Saved (p : Process) : Prop :=
  Whole p.state ∧
    p.redis.get orchestratorStateRedisKey = some (Json.obj p.state.entries).dumps.toByteArray

theorem saved_shutdown {p : Process} (h : Whole p.state) : Saved (shutdown false p) :=
  ⟨h, Store.get_put_self _ _ _⟩

theorem Saved.shutdown {p : Process} (h : Saved p) (setRaises : Bool) :
    Saved (shutdown setRaises p) ∧ (Persist.shutdown setRaises p).state = p.state := by
  cases setRaises with
  | true => exact ⟨h, rfl⟩
  | false => exact ⟨saved_shutdown h.1, rfl⟩

/-- A saved state is restored. -/
theorem Saved.restore {p : Process} (h : Saved p) (today : String) :
    restore today p.redis = some p := by
  rw [Persist.restore, h.2]
  simp only [fromUTF8?_toByteArray, Option.bind_eq_bind, Option.bind_some,
    stateFromJson_whole today h.1]
  rfl

/-- A restart keeps a saved state, and keeps it saved. -/
theorem Saved.restart {p : Process} (h : Saved p) (r : Restart) :
    ∃ q, restart p r = some q ∧ Saved q ∧ q.state = p.state := by
  rcases h.shutdown r.setRaises with ⟨hsaved, hstate⟩
  exact ⟨_, hsaved.restore r.today, hsaved, hstate⟩

theorem Saved.restarts {p : Process} (h : Saved p) (rs : List Restart) :
    ∃ q, rs.foldlM Persist.restart p = some q ∧ Saved q ∧ q.state = p.state := by
  induction rs generalizing p with
  | nil => exact ⟨p, rfl, h, rfl⟩
  | cons r rs ih =>
      rcases h.restart r with ⟨next, hnext, hsaved, hstate⟩
      rcases ih hsaved with ⟨q, hq, hq', heq⟩
      refine ⟨q, ?_, hq', heq.trans hstate⟩
      rw [List.foldlM_cons, hnext]
      exact hq

/-- From an object that was saved, whichever keys it has, the first `restore` takes its values and
the defaults of the day for the keys that it lacks, and so makes a state with every key. The next
`shutdown` saves this state, and every restart after it restores it as it is, on any day, also if
later writes fail. -/
theorem restarts_keep {redis : Store} {raw : String} {members : List (String × Json)}
    (hget : redis.get orchestratorStateRedisKey = some raw.toByteArray)
    (hraw : Json.loads raw = some (.obj members)) (today : String) :
    ∃ p, restore today redis = some p ∧
      (∀ key, p.state.get? key =
        ((Json.dictOf members).get? key).or ((makeInitialState today).dict.get? key)) ∧
      (∀ key ∈ stateKeys, ∃ v, p.state.get? key = some v) ∧
      ∀ (day : String) (rs : List Restart), ∃ q,
        ({ setRaises := false, today := day } :: rs).foldlM restart p = some q ∧
          q.state = p.state := by
  have hstate : stateFromJson today raw =
      some ((makeInitialState today).dict.update (Json.dictOf members)) := by
    rw [stateFromJson, hraw]
  have hwhole := whole_of_stateFromJson hstate
  refine ⟨{ state := (makeInitialState today).dict.update (Json.dictOf members), redis := redis },
    ?_, ?_, ?_, ?_⟩
  · rw [restore, hget]
    simp only [fromUTF8?_toByteArray, Option.bind_eq_bind, Option.bind_some, hstate]
    rfl
  · intro key
    exact Dict.get?_update _ _ _
  · intro key hkey
    exact hwhole.exists_get? hkey
  · intro day rs
    have hsaved : Saved (shutdown false
        { state := (makeInitialState today).dict.update (Json.dictOf members), redis := redis }) :=
      saved_shutdown hwhole
    rcases hsaved.restarts rs with ⟨q, hq, -, heq⟩
    refine ⟨q, ?_, heq⟩
    rw [List.foldlM_cons, restart, hsaved.restore day]
    exact hq

/-- A server with a save that has one key only. -/
def haltedSave : Store :=
  ({ nowMs := 0, strings := fun _ => none, streams := fun _ => [] } : Store).put
    orchestratorStateRedisKey
    (some (Json.obj [("kill_switch_active", .bool true)]).dumps.toByteArray)

/-- It is completed once, and then kept over a night and a failed write. -/
theorem halted_save_is_kept :
    ∃ p, restore "2024-07-18" haltedSave = some p ∧
      p.state.get? "kill_switch_active" = some (.bool true) ∧
      p.state.get? "market_date" = some (.str "2024-07-18") ∧
      ∃ q, [{ setRaises := false, today := "2024-07-19" },
          { setRaises := true, today := "2024-07-20" }].foldlM restart p = some q ∧
        q.state = p.state := by
  have hsave : haltedSave.get orchestratorStateRedisKey =
      some (Json.obj [("kill_switch_active", .bool true)]).dumps.toByteArray :=
    Store.get_put_self _ _ _
  rcases restarts_keep hsave (Json.loads_dumps _) "2024-07-18" with ⟨p, hp, hkeys, -, hrestarts⟩
  refine ⟨p, hp, ?_, ?_, hrestarts "2024-07-19" [{ setRaises := true, today := "2024-07-20" }]⟩
  · rw [hkeys]
    rfl
  · rw [hkeys]
    rfl

/-- A state that was written with its keys is restored as it was, on any day. -/
theorem restore_shutdown (s : TradingSystemState) (redis : Store) (today : String) :
    (restore today (shutdown false { state := s.dict, redis := redis }).redis).map Process.state =
      some s.dict := by
  have hsaved := saved_shutdown (p := { state := s.dict, redis := redis }) (whole_dict s)
  rw [hsaved.restore today]
  rfl

end Intraday.Orchestrator.Persist
