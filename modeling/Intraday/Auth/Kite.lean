import Intraday.Auth.TokenStore
import Intraday.Lib.Machine

/-!
# Intraday.Auth.Kite — the tokens of `shared/auth/kite_auth.py`

Managers of both modes share one token store. `get_token` returns whatever valid token the
store has under the one Kite key and logs in only when there is none, so a LIVE manager is
handed the simulated token of a PAPER manager that logged in before it.

* `get_token_unexpired`: no manager returns a token that has expired;
* `token_isolation_iff` says exactly in which histories no LIVE manager returns a PAPER token.

The requests of the login are given by what they come to (`Flow`).
-/

namespace Intraday.Auth

open Intraday.Core Intraday.Lib Intraday.Lib.Python

/-! ## The manager -/

/-- `KiteAuthManager`, without the credentials that only the login requests use. -/
structure KiteAuthManager where
  userId : String
  mode : AuthMode
deriving DecidableEq

/-- What the requests of `_live_login` come to: an access token, an exception that it turns
into an `AuthError`, with its text, or any other exception. -/
inductive Flow where
  | token (accessToken : String)
  | failed (text : String)
  | raised (e : Exc)

/-- A call of a manager: when it is made, how long it takes until a login reads the clock, and
what its requests and Redis calls do. -/
structure KiteCall where
  nowMs : ℤ
  elapsedMs : ℕ := 0
  flow : Flow
  calls : StoreCalls := {}

namespace KiteAuthManager

variable (m : KiteAuthManager)

/-- A token of this manager. -/
def newToken (accessToken userId : String) (mode : AuthMode) (nowMs : ℤ) : TokenRecord :=
  { broker := "kite"
    accessToken := accessToken
    issuedAtMs := nowMs
    expiresAtMs := nowMs + kiteSessionTtlSeconds * 1000
    userId := userId
    mode := mode }

/-- The record is saved and returned. -/
def issue (store : TokenStore) (record : TokenRecord) (calls : StoreCalls) :
    TokenStore × Except Exc TokenRecord :=
  ((store.save record kiteSessionTtlSeconds calls).1,
   (store.save record kiteSessionTtlSeconds calls).2.map fun _ => record)

/-- `_paper_token`. -/
def paperToken (store : TokenStore) (call : KiteCall) : TokenStore × Except Exc TokenRecord :=
  let userId := if m.userId = "" then "PAPER_USER" else m.userId
  issue store (newToken "PAPER_TOKEN_SIMULATED" userId .paper (call.nowMs + call.elapsedMs))
    call.calls

/-- `_live_login`. -/
def liveLogin (store : TokenStore) (call : KiteCall) : TokenStore × Except Exc TokenRecord :=
  match call.flow with
  | .token accessToken =>
      issue store (newToken accessToken m.userId .live (call.nowMs + call.elapsedMs)) call.calls
  | .failed text => (store, .error (.other ("Kite login failed: " ++ text)))
  | .raised e => (store, .error e)

/-- `login`. -/
def login (store : TokenStore) (call : KiteCall) : TokenStore × Except Exc TokenRecord :=
  if m.mode = .paper then m.paperToken store call else m.liveLogin store call

/-- `get_token`. -/
def getToken (store : TokenStore) (call : KiteCall) : TokenStore × Except Exc TokenRecord :=
  match store.load "kite" call.nowMs call.calls with
  | (store, .error e) => (store, .error e)
  | (store, .ok (some record)) => (store, .ok record)
  | (store, .ok none) => m.login store call

/-- `invalidate`, by any manager. -/
def invalidate (store : TokenStore) (call : KiteCall) : TokenStore × Except Exc Unit :=
  store.delete "kite" call.calls

end KiteAuthManager

/-! ## Managers that share a store -/

/-- What happens to the store. `advance` moves the clock of the Redis server. -/
inductive KiteOp where
  | getToken (m : KiteAuthManager) (call : KiteCall)
  | login (m : KiteAuthManager) (call : KiteCall)
  | invalidate (call : KiteCall)
  | advance (ms : ℕ)

/-- The Redis server's clock moves on. -/
def TokenStore.advance (s : TokenStore) (ms : ℕ) : TokenStore :=
  { s with redis := s.redis.map (·.advance ms) }

/-- The store and its managers as a machine; a call that hands out a token replies with it. -/
def kite : Machine TokenStore KiteOp (Option (Except Exc TokenRecord)) where
  step s
    | .getToken m call => ((m.getToken s call).1, some (m.getToken s call).2)
    | .login m call => ((m.login s call).1, some (m.login s call).2)
    | .invalidate call => ((KiteAuthManager.invalidate s call).1, none)
    | .advance ms => (s.advance ms, none)

/-- A store in which no token was saved. -/
def TokenStore.opening (redis : Option ℕ) : TokenStore where
  redis := redis.map fun nowMs =>
    { nowMs := nowMs, strings := fun _ => none, streams := fun _ => [] }
  memory := .empty
  saved := fun _ => none

/-- The token that a LIVE manager's `get_token` returns was created in LIVE mode. -/
def Isolated (t : Trans TokenStore KiteOp (Option (Except Exc TokenRecord))) : Prop :=
  ∀ m call record, t.op = .getToken m call → m.mode = .live → t.reply = some (.ok record) →
    record.mode = .live

/-- The token that `get_token` returns has not expired when it is called. -/
def Unexpired (t : Trans TokenStore KiteOp (Option (Except Exc TokenRecord))) : Prop :=
  ∀ m call record, t.op = .getToken m call → t.reply = some (.ok record) →
    record.isValid call.nowMs = true

/-- When a LIVE manager asks for a token, the one that was saved last, unless it was deleted, is
gone from the server or has expired, was saved by a LIVE manager. -/
def LiveSaved (s : TokenStore) : KiteOp → Prop
  | .getToken m call => m.mode = .live → (s.redis.isSome && call.calls.getRaises) = false →
      s.present kiteTokenRedisKey = true →
      ∀ r, s.saved kiteTokenRedisKey = some r → r.isValid call.nowMs = true → r.mode = .live
  | _ => True

/-! ## One call -/

variable {s : TokenStore}

open KiteAuthManager

/-- A login hands out a token of its own mode that has yet to expire. -/
theorem login_returns {m : KiteAuthManager} {call : KiteCall} {record : TokenRecord}
    (h : (m.login s call).2 = .ok record) :
    record.mode = m.mode ∧ record.isValid call.nowMs = true := by
  -- both modes return the record they saved
  have hissue : ∀ new : TokenRecord, (issue s new call.calls).2 = .ok record → record = new := by
    intro new hnew
    rw [issue] at hnew
    cases hsave : (s.save new kiteSessionTtlSeconds call.calls).2 with
    | error e =>
        rw [hsave] at hnew
        cases hnew
    | ok u =>
        rw [hsave] at hnew
        exact (Except.ok.inj hnew).symm
  -- which is issued no earlier than the call, and lives for hours
  have hvalid : ∀ accessToken userId mode,
      (newToken accessToken userId mode (call.nowMs + call.elapsedMs)).isValid call.nowMs =
        true := by
    intro accessToken userId mode
    have hexpires : (newToken accessToken userId mode (call.nowMs + call.elapsedMs)).expiresAtMs =
        call.nowMs + call.elapsedMs + 30600 * 1000 := rfl
    refine decide_eq_true ?_
    rw [hexpires]
    omega
  rw [login] at h
  split at h
  · rename_i hmode
    rw [hissue _ h]
    exact ⟨hmode.symm, hvalid _ _ _⟩
  · rename_i hmode
    rw [liveLogin] at h
    cases hflow : call.flow with
    | token accessToken =>
        rw [hflow] at h
        rw [hissue _ h]
        refine ⟨?_, hvalid _ _ _⟩
        cases hm : m.mode with
        | paper => exact absurd hm hmode
        | live => rfl
    | failed text =>
        rw [hflow] at h
        cases h
    | raised e =>
        rw [hflow] at h
        cases h

theorem inv_login (h : s.Inv) (m : KiteAuthManager) (call : KiteCall) :
    (m.login s call).1.Inv := by
  rw [login]
  split
  · exact TokenStore.inv_save h _ _ _
  · rw [liveLogin]
    cases call.flow with
    | token accessToken => exact TokenStore.inv_save h _ _ _
    | failed text => exact h
    | raised e => exact h

/-- Everything `get_token` can do, in terms of what was saved. -/
theorem getToken_cases (h : s.Inv) (m : KiteAuthManager) (call : KiteCall) :
    (∃ e, (m.getToken s call).2 = .error e ∧
      ((s.redis.isSome && call.calls.getRaises) = true ∨
        ∃ r, s.saved kiteTokenRedisKey = some r ∧ r.isValid call.nowMs = false)) ∨
    (∃ r, (s.redis.isSome && call.calls.getRaises) = false ∧
      s.present kiteTokenRedisKey = true ∧ s.saved kiteTokenRedisKey = some r ∧
      r.isValid call.nowMs = true ∧ (m.getToken s call).2 = .ok r) ∨
    (∃ s', (m.getToken s call).2 = (m.login s' call).2 ∧
      (s.present kiteTokenRedisKey = true → ∀ r, s.saved kiteTokenRedisKey = some r →
        r.isValid call.nowMs = false)) := by
  have hkey : TokenStore.key "kite" = kiteTokenRedisKey := rfl
  rcases TokenStore.load_cases h "kite" call.nowMs call.calls with
    ⟨hraises, hload⟩ | ⟨hreads, ⟨hgone, hload⟩ | ⟨r, hthere, hsaved, hr⟩⟩
  · refine .inl ⟨.redisError, ?_, .inl hraises⟩
    rw [getToken, hload]
  · refine .inr (.inr ⟨s, ?_, ?_⟩)
    · rw [getToken, hload]
    · intro hthere r hsaved
      rw [← hkey, hgone hthere] at hsaved
      cases hsaved
  · rcases hr with ⟨hvalid, hload⟩ | ⟨hexpired, hload⟩
    · refine .inr (.inl ⟨r, hreads, hthere, hsaved, hvalid, ?_⟩)
      rw [getToken, hload]
    · -- an expired record is deleted before the login, and that call can raise
      cases hdelete : (s.delete "kite" call.calls).2 with
      | error e =>
          refine .inl ⟨e, ?_, .inr ⟨r, hsaved, hexpired⟩⟩
          rw [getToken, hload, hdelete]
          rfl
      | ok u =>
          refine .inr (.inr ⟨(s.delete "kite" call.calls).1, ?_, ?_⟩)
          · rw [getToken, hload, hdelete]
            rfl
          · intro _ r' hsaved'
            rw [← hkey, hsaved] at hsaved'
            cases hsaved'
            exact hexpired

theorem inv_getToken (h : s.Inv) (m : KiteAuthManager) (call : KiteCall) :
    (m.getToken s call).1.Inv := by
  have hload := TokenStore.inv_load h "kite" call.nowMs call.calls
  rw [getToken]
  split
  · rename_i store e heq
    rw [heq] at hload
    exact hload
  · rename_i store record heq
    rw [heq] at hload
    exact hload
  · rename_i store heq
    rw [heq] at hload
    exact inv_login hload m call

theorem inv_next (s : TokenStore) (op : KiteOp) (h : s.Inv) : (kite.next s op).Inv := by
  cases op with
  | getToken m call => exact inv_getToken h m call
  | login m call => exact inv_login h m call
  | invalidate call => exact TokenStore.inv_delete h "kite" call.calls
  | advance ms =>
      intro k
      have hk := h k
      have hnext : kite.next s (.advance ms) = s.advance ms := rfl
      rw [hnext]
      rw [TokenStore.content] at hk
      cases hredis : s.redis with
      | none => simpa [TokenStore.content, TokenStore.advance, hredis] using hk
      | some db =>
          simpa [TokenStore.content, TokenStore.advance, hredis, RedisStore.Store.advance] using hk

/-! ## Whole histories -/

/-- No manager of either mode is ever handed a token that has expired. -/
theorem getToken_unexpired (h : s.Inv) (op : KiteOp) : Unexpired (kite.fire s op) := by
  intro m call record hop hreply
  have hop : op = .getToken m call := hop
  subst hop
  have hreply : (m.getToken s call).2 = .ok record := Option.some.inj hreply
  rcases getToken_cases h m call with ⟨e, herr, _⟩ | ⟨r, _, _, _, hvalid, hr⟩ | ⟨s', hlogin, _⟩
  · rw [hreply] at herr
    cases herr
  · rw [hreply] at hr
    cases hr
    exact hvalid
  · rw [hreply] at hlogin
    exact (login_returns hlogin.symm).2

/-- A LIVE manager is handed a PAPER token exactly if that is the token that was saved last. -/
theorem isolated_iff (h : s.Inv) (op : KiteOp) : Isolated (kite.fire s op) ↔ LiveSaved s op := by
  cases op with
  | login m call => exact iff_of_true (fun _ _ _ hop => nomatch hop) trivial
  | invalidate call => exact iff_of_true (fun _ _ _ hop => nomatch hop) trivial
  | advance ms => exact iff_of_true (fun _ _ _ hop => nomatch hop) trivial
  | getToken m call =>
      constructor
      · intro hiso hlive hreads hthere r hsaved hvalid
        rcases getToken_cases h m call with
          ⟨e, _, hraises | ⟨r', hsaved', hexpired⟩⟩ | ⟨r', _, _, hsaved', _, hr⟩ | ⟨s', _, hgone⟩
        · rw [hreads] at hraises
          cases hraises
        · rw [hsaved] at hsaved'
          cases hsaved'
          rw [hvalid] at hexpired
          cases hexpired
        · rw [hsaved] at hsaved'
          cases hsaved'
          exact hiso m call r rfl hlive (congrArg some hr)
        · rw [hgone hthere r hsaved] at hvalid
          cases hvalid
      · intro hsaved m' call' record hop hlive hreply
        cases hop
        have hreply : (m.getToken s call).2 = .ok record := Option.some.inj hreply
        rcases getToken_cases h m call with
          ⟨e, herr, _⟩ | ⟨r, hreads, hthere, hsaved', hvalid, hr⟩ | ⟨s', hlogin, _⟩
        · rw [hreply] at herr
          cases herr
        · -- the record that was saved last
          rw [hreply] at hr
          cases hr
          exact hsaved hlive hreads hthere record hsaved' hvalid
        · -- a record of its own login
          rw [hreply] at hlogin
          rw [(login_returns hlogin.symm).1, hlive]

theorem inv_opening (redis : Option ℕ) : (TokenStore.opening redis).Inv := by
  intro k
  cases redis <;> rfl

/-- Whatever managers of both modes do with one store, in every call of the history no expired
token is returned and no LIVE manager is handed a PAPER token, exactly if whenever a LIVE manager
asks, the token that was saved last was saved by a LIVE manager, was deleted, is gone from the
server or has expired. -/
theorem token_isolation_iff (redis : Option ℕ) (ops : List KiteOp) :
    (∀ t ∈ kite.trans (.opening redis) ops, Isolated t ∧ Unexpired t) ↔
      ∀ t ∈ kite.trans (.opening redis) ops, LiveSaved t.pre t.op := by
  refine kite.trans_forall_fire_iff inv_next ?_ (inv_opening redis) ops
  intro s op h
  rw [isolated_iff h op]
  exact and_iff_left (getToken_unexpired h op)

/-- A PAPER manager logs in, and a LIVE manager with the same store asks for a token. -/
def mixedModes : List KiteOp :=
  [.login ⟨"ZX1234", .paper⟩ { nowMs := 0, flow := .failed "no credentials" },
   .getToken ⟨"ZX1234", .live⟩ { nowMs := 1000, flow := .token "live-token" }]

theorem live_manager_gets_paper_token :
    ¬ ∀ t ∈ kite.trans (.opening none) mixedModes, Isolated t ∧ Unexpired t := by
  intro h
  simp only [mixedModes, Machine.trans_cons, List.forall_mem_cons] at h
  have hinv := inv_next _
    (.login ⟨"ZX1234", .paper⟩ { nowMs := 0, flow := .failed "no credentials" }) (inv_opening none)
  have hsaved := (isolated_iff hinv _).mp h.2.1.1
  have hmode := hsaved rfl rfl rfl _ rfl rfl
  cases hmode

end Intraday.Auth
