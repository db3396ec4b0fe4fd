import Intraday.Compliance.KillSwitch
import Intraday.Lib.RedisStore

/-!
# Intraday.Api.Controls — `api/auth.py` and the pause of `api/routers/controls.py`

The operator's `/pause` and `/resume`. Both need the API key and write one string key,
`system:status:paused`. A failing write is reported in the response, not raised, and may
have reached the server all the same.
-/

namespace Intraday.Api

open Intraday.Core Intraday.Lib.RedisStore
open Intraday.Compliance (SetOutcome)

/-- `ControlResponse`. -/
structure ControlResponse where
  success : Bool
  action : String
  reason : String
deriving DecidableEq, Repr

/-- `HTTPException`. -/
structure HttpException where
  statusCode : ℕ
  detail : String
deriving DecidableEq, Repr

/-- `require_api_key`, where `configured` is `settings.api_key`. -/
def requireApiKey (configured : String) (apiKey : Option String) : Except HttpException Unit :=
  if configured = "" then .error ⟨403, "API key not configured on server"⟩
  else
    match apiKey with
    | none => .error ⟨401, apiKeyHeader ++ " header required"⟩
    | some key => if key ≠ configured then .error ⟨403, "Invalid API key"⟩ else .ok ()

/-- A control request: its key, and what its Redis write does; `error` is the text of what
that raises. -/
structure ControlRequest where
  apiKey : Option String
  outcome : SetOutcome
  error : String

/-- The pause flag is written, for a request that has the key. -/
def writePaused (configured action reason : String) (value : Option ByteArray)
    (req : ControlRequest) (s : Store) : Store × Except HttpException ControlResponse :=
  match requireApiKey configured req.apiKey with
  | .error exc => (s, .error exc)
  | .ok () =>
      (if req.outcome.written then s.put apiPauseRedisKey value else s,
       .ok
        (if req.outcome = .done then { success := true, action := action, reason := reason }
         else { success := false, action := action, reason := req.error }))

/-- `POST /pause`. -/
def pause (configured : String) : ControlRequest → Store →
    Store × Except HttpException ControlResponse :=
  writePaused configured "pause" "New entries paused" (some "1".toByteArray)

/-- `POST /resume`. -/
def resume (configured : String) : ControlRequest → Store →
    Store × Except HttpException ControlResponse :=
  writePaused configured "resume" "New entries resumed" none

/-- A request that is told of success has set or cleared the flag. -/
theorem exists?_of_success {configured action reason : String} {value : Option ByteArray}
    {req : ControlRequest} {s : Store} {response : ControlResponse}
    (h : (writePaused configured action reason value req s).2 = .ok response)
    (hsuccess : response.success = true) :
    (writePaused configured action reason value req s).1.exists? apiPauseRedisKey =
      value.isSome := by
  rw [writePaused] at h ⊢
  cases hauth : requireApiKey configured req.apiKey with
  | error exc =>
      rw [hauth] at h
      cases h
  | ok _ =>
      rw [hauth] at h
      have hdone : req.outcome = .done := by
        by_contra hne
        rw [← Except.ok.inj h, if_neg hne] at hsuccess
        cases hsuccess
      rw [hdone]
      exact Store.exists?_put s apiPauseRedisKey value

end Intraday.Api
