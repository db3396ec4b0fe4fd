import Intraday.Auth.Models
import Intraday.Compliance.KillSwitch
import Intraday.Lib.Json
import Intraday.Lib.RedisStore

/-!
# Intraday.Auth.TokenStore — `shared/auth/token_store.py`

A broker's token is one JSON text under one key: in Redis with a TTL, or in memory when the
store was built without a client. A Redis call may raise, and a write that raises may have
been made all the same.

The spec lemmas are `load_of_inv`, `inv_save` and `inv_delete`: what a load returns is the
record that was saved last, as long as it was not deleted, is still there and is valid.
-/

namespace Intraday.Auth

open Intraday.Core Intraday.Lib Intraday.Lib.Python
open Intraday.Compliance (SetOutcome)

/-- What the Redis calls of one method do. -/
structure StoreCalls where
  getRaises : Bool := false
  set : SetOutcome := .done
  delete : SetOutcome := .done

/-- `TokenStore`. `saved` is for the proofs only, no method reads it: under each key the record
of the last save that was made, unless it was deleted since. -/
structure TokenStore where
  redis : Option RedisStore.Store
  memory : Dict String String
  saved : String → Option TokenRecord

namespace TokenStore

/-! ## Records as JSON -/

/-- The payload of `save`. -/
def payload (r : TokenRecord) : String :=
  Json.dumps (.obj
    [("broker", .str r.broker),
      ("access_token", .str r.accessToken),
      ("issued_at_ms", .int r.issuedAtMs),
      ("expires_at_ms", .int r.expiresAtMs),
      ("user_id", .str r.userId),
      ("mode", .str r.mode.value)])

/-- The record that `load` makes of a payload. A field of another type than `save` writes makes
no record here. -/
def decode (raw : String) : Except Exc TokenRecord :=
  match Json.loads raw with
  | some (.obj d) => do
      let broker ← Json.textItem d "broker"
      let accessToken ← Json.textItem d "access_token"
      let issuedAtMs ← Json.intItem d "issued_at_ms"
      let expiresAtMs ← Json.intItem d "expires_at_ms"
      let userId ← Json.textItem d "user_id"
      let value ← Json.textItem d "mode"
      match AuthMode.ofValue? value with
      | none => .error (.other ("'" ++ value ++ "' is not a valid AuthMode"))
      | some mode =>
          return {
            broker := broker, accessToken := accessToken, issuedAtMs := issuedAtMs,
            expiresAtMs := expiresAtMs, userId := userId, mode := mode }
  | some _ => .error (.typeError "the payload is no object")
  | none => .error (.other "JSONDecodeError")

/-- A record is decoded to itself. -/
theorem decode_payload (r : TokenRecord) : decode (payload r) = .ok r := by
  rw [decode, payload, Json.loads_dumps]
  rcases r with ⟨broker, accessToken, issuedAtMs, expiresAtMs, userId, mode⟩
  cases mode <;> rfl

/-! ## The methods -/

/-- `_key`. -/
def key (broker : String) : String :=
  if broker = "kite" then kiteTokenRedisKey else "auth:" ++ broker ++ ":access_token"

/-- What a Redis write answers. -/
def answer (outcome : SetOutcome) : Except Exc Unit :=
  if outcome = .done then .ok () else .error .redisError

/-- `save`. -/
def save (s : TokenStore) (r : TokenRecord) (ttlSeconds : ℕ) (calls : StoreCalls) :
    TokenStore × Except Exc Unit :=
  let saved := Function.update s.saved (key r.broker) (some r)
  match s.redis with
  | some db =>
      (if calls.set.written then
        { s with
          redis := some (db.setEx (key r.broker) (payload r).toByteArray ttlSeconds)
          saved := saved }
       else s, answer calls.set)
  | none => ({ s with memory := s.memory.set (key r.broker) (payload r), saved := saved }, .ok ())

/-- `delete`. -/
def delete (s : TokenStore) (broker : String) (calls : StoreCalls) :
    TokenStore × Except Exc Unit :=
  let saved := Function.update s.saved (key broker) none
  match s.redis with
  | some db =>
      (if calls.delete.written then
        { s with redis := some (db.put (key broker) none), saved := saved }
       else s, answer calls.delete)
  | none => ({ s with memory := s.memory.erase (key broker), saved := saved }, .ok ())

/-- The text that `load` reads. -/
def raw (s : TokenStore) (broker : String) (calls : StoreCalls) : Except Exc (Option String) :=
  match s.redis with
  | some db =>
      if calls.getRaises then .error .redisError
      else
        match db.get (key broker) with
        | none => .ok none
        | some bytes =>
            match String.fromUTF8? bytes with
            | some text => .ok (some text)
            | none => .error (.other "'utf-8' codec can't decode")
  | none => .ok (s.memory.get? (key broker))

/-- `load`, at `nowMs`. -/
def load (s : TokenStore) (broker : String) (nowMs : ℤ) (calls : StoreCalls) :
    TokenStore × Except Exc (Option TokenRecord) :=
  match s.raw broker calls with
  | .error e => (s, .error e)
  | .ok none => (s, .ok none)
  | .ok (some text) =>
      match decode text with
      | .error e => (s, .error e)
      | .ok record =>
          if record.isValid nowMs then (s, .ok (some record))
          else ((s.delete broker calls).1, (s.delete broker calls).2.map fun _ => none)

/-! ## What is stored -/

/-- What a key was last set to, expired or not. -/
def content (s : TokenStore) (k : String) : Option ByteArray :=
  match s.redis with
  | some db => (db.strings k).map (·.value)
  | none => (s.memory.get? k).map String.toByteArray

/-- The key has not run out of its TTL; memory ignores it. -/
def present (s : TokenStore) (k : String) : Bool :=
  match s.redis with
  | some db => db.exists? k
  | none => true

/-- Under every key is the payload of the record that was saved there last. -/
def Inv (s : TokenStore) : Prop :=
  ∀ k, s.content k = (s.saved k).map fun r => (payload r).toByteArray

variable {s : TokenStore}

/-- A write to one key, recorded in `saved`, keeps the invariant. -/
theorem inv_of_update {s' : TokenStore} (h : s.Inv) (k₀ : String) (value : Option TokenRecord)
    (hself : s'.content k₀ = value.map fun r => (payload r).toByteArray)
    (hother : ∀ k, k ≠ k₀ → s'.content k = s.content k)
    (hsaved : s'.saved = Function.update s.saved k₀ value) : s'.Inv := by
  intro k
  rw [hsaved]
  by_cases hk : k = k₀
  · rw [hk, Function.update_self, hself]
  · rw [Function.update_of_ne hk, hother k hk, h k]

theorem inv_save (h : s.Inv) (r : TokenRecord) (ttlSeconds : ℕ) (calls : StoreCalls) :
    (s.save r ttlSeconds calls).1.Inv := by
  cases hredis : s.redis with
  | some db =>
      by_cases hwritten : calls.set.written = true
      · refine inv_of_update h (key r.broker) (some r) ?_ ?_ ?_
        · simp [save, hredis, hwritten, content, RedisStore.Store.setEx]
        · intro k hk
          simp [save, hredis, hwritten, content, RedisStore.Store.setEx, Function.update_of_ne hk]
        · simp [save, hredis, hwritten]
      · -- the write did not reach the server
        simpa [save, hredis, hwritten] using h
  | none =>
      refine inv_of_update h (key r.broker) (some r) ?_ ?_ ?_
      · simp [save, hredis, content]
      · intro k hk
        simp [save, hredis, content, Dict.get?_set_of_ne _ _ hk]
      · simp [save, hredis]

theorem inv_delete (h : s.Inv) (broker : String) (calls : StoreCalls) :
    (s.delete broker calls).1.Inv := by
  cases hredis : s.redis with
  | some db =>
      by_cases hwritten : calls.delete.written = true
      · refine inv_of_update h (key broker) none ?_ ?_ ?_
        · simp [delete, hredis, hwritten, content, RedisStore.Store.put]
        · intro k hk
          simp [delete, hredis, hwritten, content, RedisStore.Store.put, Function.update_of_ne hk]
        · simp [delete, hredis, hwritten]
      · simpa [delete, hredis, hwritten] using h
  | none =>
      refine inv_of_update h (key broker) none ?_ ?_ ?_
      · simp [delete, hredis, content]
      · intro k hk
        simp [delete, hredis, content, Dict.get?_erase_of_ne _ hk]
      · simp [delete, hredis]

/-- What is read is the payload of what was saved. -/
theorem raw_of_inv (h : s.Inv) (broker : String) (calls : StoreCalls) :
    s.raw broker calls =
      if s.redis.isSome && calls.getRaises then .error .redisError
      else if s.present (key broker) then .ok ((s.saved (key broker)).map payload)
      else .ok none := by
  have hk := h (key broker)
  rw [content] at hk
  rw [raw, present]
  cases hredis : s.redis with
  | some db =>
      rw [hredis] at hk
      cases calls.getRaises with
      | true => simp
      | false =>
          cases hthere : db.exists? (key broker) with
          | false => simp [RedisStore.Store.get, hthere]
          | true =>
              simp only [RedisStore.Store.get, hthere, if_true, hk]
              cases s.saved (key broker) with
              | none => simp
              | some r => simp
  | none =>
      rw [hredis] at hk
      -- in memory the invariant alone says what is there
      cases hget : s.memory.get? (key broker) with
      | none =>
          rw [hget] at hk
          cases hsaved : s.saved (key broker) with
          | none => simp
          | some r =>
              rw [hsaved] at hk
              cases hk
      | some text =>
          rw [hget] at hk
          cases hsaved : s.saved (key broker) with
          | none =>
              rw [hsaved] at hk
              cases hk
          | some r =>
              rw [hsaved] at hk
              have htext : text = payload r := String.toByteArray_inj.mp (Option.some.inj hk)
              simp [htext]

/-- Everything a load can do: the read raises, nothing is there, a valid record is returned,
or one that is no longer valid is deleted. -/
theorem load_cases (h : s.Inv) (broker : String) (nowMs : ℤ) (calls : StoreCalls) :
    ((s.redis.isSome && calls.getRaises) = true ∧
      s.load broker nowMs calls = (s, .error .redisError)) ∨
    ((s.redis.isSome && calls.getRaises) = false ∧
      ((s.present (key broker) = true → s.saved (key broker) = none) ∧
        s.load broker nowMs calls = (s, .ok none) ∨
      ∃ r, s.present (key broker) = true ∧ s.saved (key broker) = some r ∧
        ((r.isValid nowMs = true ∧ s.load broker nowMs calls = (s, .ok (some r))) ∨
          (r.isValid nowMs = false ∧ s.load broker nowMs calls =
            ((s.delete broker calls).1, (s.delete broker calls).2.map fun _ => none))))) := by
  rw [load, raw_of_inv h]
  cases (s.redis.isSome && calls.getRaises) with
  | true => exact .inl ⟨rfl, rfl⟩
  | false =>
      refine .inr ⟨rfl, ?_⟩
      cases s.present (key broker) with
      | false => exact .inl ⟨Bool.noConfusion, rfl⟩
      | true =>
          cases s.saved (key broker) with
          | none => exact .inl ⟨fun _ => rfl, rfl⟩
          | some r =>
              refine .inr ⟨r, rfl, rfl, ?_⟩
              cases hvalid : r.isValid nowMs with
              | true =>
                  refine .inl ⟨rfl, ?_⟩
                  simp [decode_payload, hvalid]
              | false =>
                  refine .inr ⟨rfl, ?_⟩
                  simp [decode_payload, hvalid]

theorem inv_load (h : s.Inv) (broker : String) (nowMs : ℤ) (calls : StoreCalls) :
    (s.load broker nowMs calls).1.Inv := by
  rcases load_cases h broker nowMs calls with
    ⟨_, hload⟩ | ⟨_, ⟨_, hload⟩ | ⟨r, _, _, ⟨_, hload⟩ | ⟨_, hload⟩⟩⟩
  · rw [hload]
    exact h
  · rw [hload]
    exact h
  · rw [hload]
    exact h
  · rw [hload]
    exact inv_delete h broker calls

end TokenStore

end Intraday.Auth
