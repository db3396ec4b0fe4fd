import Mathlib.Data.Rat.Defs

/-!
# Intraday.Auth.Models — `shared/auth/models.py`
-/

namespace Intraday.Auth

/-- `AuthMode`. -/
inductive AuthMode where
  | paper
  | live
deriving DecidableEq, Repr

/-- `mode.value`. -/
def AuthMode.value : AuthMode → String
  | .paper => "PAPER"
  | .live => "LIVE"

/-- `AuthMode(value)`; `none` is its `ValueError`. -/
def AuthMode.ofValue? (value : String) : Option AuthMode :=
  if value = "PAPER" then some .paper else if value = "LIVE" then some .live else none

/-- `TokenRecord`. -/
structure TokenRecord where
  broker : String
  accessToken : String
  issuedAtMs : ℤ
  expiresAtMs : ℤ
  userId : String
  mode : AuthMode
deriving DecidableEq

/-- `is_valid`. -/
def TokenRecord.isValid (r : TokenRecord) (nowMs : ℤ) : Bool := decide (nowMs < r.expiresAtMs)

/-- `IBKRClientSlot`. -/
structure IBKRClientSlot where
  clientId : ℤ
  host : String
  port : ℕ
  inUse : Bool := false
deriving DecidableEq

/-- `acquire`. -/
def IBKRClientSlot.acquire (s : IBKRClientSlot) : IBKRClientSlot := { s with inUse := true }

/-- `release`. -/
def IBKRClientSlot.release (s : IBKRClientSlot) : IBKRClientSlot := { s with inUse := false }

end Intraday.Auth
