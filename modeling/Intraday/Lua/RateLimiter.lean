import Mathlib.Algebra.Order.Field.Rat
import Mathlib.Tactic.Linarith
import Mathlib.Tactic.Ring
import Intraday.Lib.Machine

/-!
# Intraday.Lua.RateLimiter — `rate_limiter.lua`

A token bucket for each client, filled as a function of the callers' clocks. The bucket is
written by granted calls only, so what a client is granted between two grants is paid by
what was in the bucket after the first and what has flowed in since; and the inflow
telescopes over the grants, also when a clock runs backwards.

Numbers are exact, as in `Lib.Redis`.
-/

namespace Intraday.Lua.RateLimiter

open Intraday.Lib

/-! ## The script -/

/-- The hash `ratelimit:<client_id>`. -/
structure Bucket where
  tokens : ℚ
  lastUpdated : ℚ
deriving DecidableEq, Repr

/-- The buckets, by client id. -/
abbrev Buckets := String → Option Bucket

/-- One execution of the script, with its arguments. -/
structure Call where
  clientId : String
  tokensPerRequest : ℚ
  bucketCapacity : ℚ
  fillRatePerMs : ℚ
  currentTimeMs : ℚ
  isPriority : ℚ
deriving DecidableEq, Repr

/-- The tokens in the bucket at the time of the call. -/
def Call.tokens (c : Call) (bucket : Option Bucket) : ℚ :=
  let tokens := (bucket.map (·.tokens)).getD c.bucketCapacity
  let lastUpdated := (bucket.map (·.lastUpdated)).getD c.currentTimeMs
  let elapsed := c.currentTimeMs - lastUpdated
  min c.bucketCapacity (tokens + elapsed * c.fillRatePerMs)

/-- `rate_limiter.lua`: the buckets after it, and whether the call is allowed. -/
def rateLimiter (s : Buckets) (c : Call) : Buckets × Bool :=
  if c.isPriority = 1 then (s, true)
  else
    let tokens := c.tokens (s c.clientId)
    if c.tokensPerRequest ≤ tokens then
      (Function.update s c.clientId
        (some { tokens := tokens - c.tokensPerRequest, lastUpdated := c.currentTimeMs }), true)
    else (s, false)

/-- The Redis server, running one call at a time. -/
def limiter : Machine Buckets Call Bool where
  step := rateLimiter

/-- No bucket yet. -/
def noBuckets : Buckets := fun _ => none

/-! ## One call -/

variable {s : Buckets} {c : Call} {client : String} {capacity fillRate : ℚ}

/-- The call takes tokens: it has no priority and the bucket covers it. -/
def Takes (s : Buckets) (c : Call) : Prop :=
  c.isPriority ≠ 1 ∧ c.tokensPerRequest ≤ c.tokens (s c.clientId)

/-- The bucket a call that takes tokens leaves. -/
def Call.left (c : Call) (bucket : Option Bucket) : Bucket :=
  { tokens := c.tokens bucket - c.tokensPerRequest, lastUpdated := c.currentTimeMs }

theorem step_of_takes (h : Takes s c) :
    limiter.step s c =
      (Function.update s c.clientId (some (c.left (s c.clientId))), true) := by
  show rateLimiter s c = _
  rw [rateLimiter, if_neg h.1, if_pos h.2]
  rfl

/-- Every other call leaves the buckets alone; it is allowed only for its priority. -/
theorem step_of_not_takes (h : ¬ Takes s c) :
    limiter.step s c = (s, decide (c.isPriority = 1)) := by
  show rateLimiter s c = _
  by_cases hp : c.isPriority = 1
  · rw [rateLimiter, if_pos hp, decide_eq_true hp]
  · have hlt : ¬ c.tokensPerRequest ≤ c.tokens (s c.clientId) := fun hle => h ⟨hp, hle⟩
    rw [rateLimiter, if_neg hp, if_neg hlt, decide_eq_false hp]

/-- A granted call without priority took tokens. -/
theorem takes_of_reply (hp : c.isPriority ≠ 1) (h : limiter.reply s c = true) : Takes s c := by
  by_contra hnot
  rw [Machine.reply, step_of_not_takes hnot, decide_eq_false hp] at h
  exact Bool.false_ne_true h

theorem reply_of_priority (hp : c.isPriority = 1) : limiter.reply s c = true := by
  rw [Machine.reply, step_of_not_takes fun h => h.1 hp, decide_eq_true hp]

/-- Rejected calls and calls with priority leave every bucket alone. -/
theorem next_of_idle (h : limiter.reply s c = false ∨ c.isPriority = 1) :
    limiter.next s c = s := by
  have hnot : ¬ Takes s c := by
    intro htakes
    rcases h with h | h
    · rw [Machine.reply, step_of_takes htakes] at h
      exact Bool.false_ne_true h.symm
    · exact htakes.1 h
  rw [Machine.next, step_of_not_takes hnot]

theorem tokens_le_capacity (c : Call) (bucket : Option Bucket) :
    c.tokens bucket ≤ c.bucketCapacity := min_le_left _ _

/-- What flows in between two grants is at most the fill rate times the time between
them, which may be negative. -/
theorem tokens_le_inflow (c : Call) (b : Bucket) :
    c.tokens (some b) ≤ b.tokens + c.fillRatePerMs * (c.currentTimeMs - b.lastUpdated) := by
  calc c.tokens (some b)
      ≤ b.tokens + (c.currentTimeMs - b.lastUpdated) * c.fillRatePerMs := min_le_right _ _
    _ = b.tokens + c.fillRatePerMs * (c.currentTimeMs - b.lastUpdated) := by ring

/-! ## Whole runs -/

/-- The calls of `client` use one capacity and one fill rate, and cost nothing negative. -/
def Uniform (client : String) (capacity fillRate : ℚ) (c : Call) : Prop :=
  c.clientId = client →
    c.bucketCapacity = capacity ∧ c.fillRatePerMs = fillRate ∧ 0 ≤ c.tokensPerRequest

instance : Decidable (Uniform client capacity fillRate c) :=
  inferInstanceAs (Decidable (_ → _))

/-- The stored count is within bounds. -/
def Within (client : String) (capacity : ℚ) (s : Buckets) : Prop :=
  ∀ b, s client = some b → 0 ≤ b.tokens ∧ b.tokens ≤ capacity

theorem step_within (h : Within client capacity s) (hc : Uniform client capacity fillRate c) :
    Within client capacity (limiter.next s c) := by
  by_cases htakes : Takes s c
  · rw [Machine.next, step_of_takes htakes]
    intro b hb
    change Function.update s c.clientId (some (c.left (s c.clientId))) client = some b at hb
    by_cases hid : c.clientId = client
    · subst hid
      rcases hc rfl with ⟨hcap, -, hcost⟩
      rw [Function.update_self] at hb
      obtain rfl := Option.some.inj hb
      have hle := tokens_le_capacity c (s c.clientId)
      have hcovered := htakes.2
      show 0 ≤ c.tokens _ - c.tokensPerRequest ∧ c.tokens _ - c.tokensPerRequest ≤ capacity
      constructor
      · linarith
      · linarith
    · -- another client's bucket
      rw [Function.update_of_ne (Ne.symm hid)] at hb
      exact h b hb
  · rw [Machine.next, step_of_not_takes htakes]
    exact h

/-- The transition is a grant to `client`, without priority. -/
def Granted (client : String) (t : Trans Buckets Call Bool) : Prop :=
  t.op.clientId = client ∧ t.op.isPriority ≠ 1 ∧ t.reply = true

instance (t : Trans Buckets Call Bool) : Decidable (Granted client t) :=
  inferInstanceAs (Decidable (_ ∧ _ ∧ _))

/-- The total cost granted to `client` in a stretch of a run. -/
def grantedCost (client : String) (ts : List (Trans Buckets Call Bool)) : ℚ :=
  (ts.map fun t => if Granted client t then t.op.tokensPerRequest else 0).sum

@[simp] theorem grantedCost_nil : grantedCost client [] = 0 := rfl

@[simp] theorem grantedCost_cons (t : Trans Buckets Call Bool)
    (ts : List (Trans Buckets Call Bool)) :
    grantedCost client (t :: ts) =
      (if Granted client t then t.op.tokensPerRequest else 0) + grantedCost client ts := by
  simp [grantedCost]

@[simp] theorem grantedCost_append (ts us : List (Trans Buckets Call Bool)) :
    grantedCost client (ts ++ us) = grantedCost client ts + grantedCost client us := by
  simp [grantedCost]

theorem granted_fire_iff : Granted client (limiter.fire s c) ↔ c.clientId = client ∧ Takes s c := by
  constructor
  · rintro ⟨hid, hp, hreply⟩
    exact ⟨hid, takes_of_reply hp hreply⟩
  · rintro ⟨hid, htakes⟩
    refine ⟨hid, htakes.1, ?_⟩
    show limiter.reply s c = true
    rw [Machine.reply, step_of_takes htakes]

/-- A call that is no grant to `client` leaves its bucket alone. -/
theorem next_of_not_granted (h : ¬ Granted client (limiter.fire s c)) :
    limiter.next s c client = s client := by
  rw [granted_fire_iff] at h
  by_cases htakes : Takes s c
  · have hid : client ≠ c.clientId := fun heq => h ⟨heq.symm, htakes⟩
    rw [Machine.next, step_of_takes htakes]
    exact Function.update_of_ne hid _ _
  · rw [Machine.next, step_of_not_takes htakes]

theorem next_of_granted (h : Granted client (limiter.fire s c)) :
    limiter.next s c client = some (c.left (s client)) := by
  rcases granted_fire_iff.mp h with ⟨rfl, htakes⟩
  rw [Machine.next, step_of_takes htakes]
  exact Function.update_self _ _ _

/-- The potential: over any stretch of a run, what is granted plus what is left is at most
what was there plus the inflow from the first to the last update. -/
theorem granted_add_tokens_le {b : Bucket} (hb : s client = some b) (calls : List Call)
    (hcalls : ∀ c ∈ calls, Uniform client capacity fillRate c) :
    ∃ b', limiter.run s calls client = some b' ∧
      grantedCost client (limiter.trans s calls) + b'.tokens ≤
        b.tokens + fillRate * (b'.lastUpdated - b.lastUpdated) := by
  induction calls generalizing s b with
  | nil => exact ⟨b, hb, by simp⟩
  | cons c calls ih =>
      rw [List.forall_mem_cons] at hcalls
      rw [Machine.trans_cons, grantedCost_cons]
      by_cases hg : Granted client (limiter.fire s c)
      · rcases ih (next_of_granted hg) hcalls.2 with ⟨b', hrun, hle⟩
        refine ⟨b', hrun, ?_⟩
        have hrate := (hcalls.1 (granted_fire_iff.mp hg).1).2.1
        have hin := tokens_le_inflow c b
        rw [hrate] at hin
        rw [if_pos hg]
        rw [hb] at hle
        -- the inflow up to this call and the inflow after it add up
        have hsplit : fillRate * (b'.lastUpdated - b.lastUpdated) =
            fillRate * (b'.lastUpdated - c.currentTimeMs) +
              fillRate * (c.currentTimeMs - b.lastUpdated) := by ring
        have hcost : (limiter.fire s c).op.tokensPerRequest = c.tokensPerRequest := rfl
        simp only [Call.left] at hle
        linarith
      · rw [if_neg hg, zero_add]
        exact ih ((next_of_not_granted hg).trans hb) hcalls.2

/-- Between two grants: the first leaves at most the capacity less its cost, and the
potential pays for the rest. -/
theorem granted_between_le {calls : List Call}
    (hcalls : ∀ c ∈ calls, Uniform client capacity fillRate c)
    (hwithin : ∀ t ∈ limiter.trans s calls, Within client capacity t.post)
    {before mid after : List (Trans Buckets Call Bool)} {ti tj : Trans Buckets Call Bool}
    (htrans : limiter.trans s calls = before ++ ti :: (mid ++ tj :: after))
    (hi : Granted client ti) (hj : Granted client tj) :
    grantedCost client (ti :: (mid ++ [tj])) ≤
      capacity + fillRate * (tj.op.currentTimeMs - ti.op.currentTimeMs) := by
  have hposts := hwithin tj (by rw [htrans]; simp)
  rcases limiter.trans_eq_append_cons htrans with ⟨calls₁, ci, rest, rfl, -, rfl, hrest⟩
  rcases limiter.trans_eq_append_cons hrest.symm with ⟨calls₂, cj, calls₃, rfl, rfl, rfl, -⟩
  -- what the first grant leaves
  have hleft := next_of_granted hi
  have hci := hcalls ci (by simp)
  have hcap := tokens_le_capacity ci (limiter.run s calls₁ client)
  rw [(hci hi.1).1] at hcap
  -- the calls up to the second grant
  have hmid : ∀ c ∈ calls₂ ++ [cj], Uniform client capacity fillRate c := by
    intro c hc
    apply hcalls
    simp only [List.mem_append, List.mem_cons, List.not_mem_nil, or_false] at hc ⊢
    tauto
  rcases granted_add_tokens_le hleft (calls₂ ++ [cj]) hmid with ⟨b', hrun, hle⟩
  rw [limiter.run_append] at hrun
  have hlast := next_of_granted hj
  obtain rfl : cj.left _ = b' := Option.some.inj (hlast.symm.trans hrun)
  have hnonneg := (hposts _ hlast).1
  rw [limiter.trans_append, grantedCost_append] at hle
  rw [grantedCost_cons, if_pos hi, grantedCost_append]
  change _ ≤ capacity + fillRate * (cj.currentTimeMs - ci.currentTimeMs)
  change _ + (cj.left _).tokens ≤ ci.tokens _ - ci.tokensPerRequest +
    fillRate * (cj.currentTimeMs - ci.currentTimeMs) at hle
  change ci.tokensPerRequest + (_ + grantedCost client (limiter.trans _ [cj])) ≤ _
  linarith

/-- The bucket of a client whose calls all use one capacity and one fill rate: it stays
within its bounds; what is granted from one grant to a later one is bounded by the capacity
and the inflow between their timestamps; calls that are rejected or have priority leave
every bucket as it is; and a call with priority is allowed. -/
theorem token_bucket_bound (calls : List Call)
    (hcalls : ∀ c ∈ calls, Uniform client capacity fillRate c) :
    (∀ t ∈ limiter.trans noBuckets calls, Within client capacity t.post) ∧
      (∀ before ti mid tj after,
        limiter.trans noBuckets calls = before ++ ti :: (mid ++ tj :: after) →
        Granted client ti → Granted client tj →
        grantedCost client (ti :: (mid ++ [tj])) ≤
          capacity + fillRate * (tj.op.currentTimeMs - ti.op.currentTimeMs)) ∧
      ∀ t ∈ limiter.trans noBuckets calls,
        (t.reply = false ∨ t.op.isPriority = 1 → t.post = t.pre) ∧
          (t.op.isPriority = 1 → t.reply = true) := by
  have hempty : Within client capacity noBuckets := fun b hb => nomatch hb
  have hstep : ∀ s c, Within client capacity s → Uniform client capacity fillRate c →
      Within client capacity (limiter.next s c) := fun _ _ => step_within
  have hsteps := limiter.trans_invariant_of_allowed hstep hempty (limiter.trans_forall_op hcalls)
  have hwithin : ∀ t ∈ limiter.trans noBuckets calls, Within client capacity t.post := by
    intro t ht
    rcases hsteps t ht with ⟨hpre, heq⟩
    rw [heq]
    exact step_within hpre (limiter.trans_forall_op hcalls t ht)
  refine ⟨hwithin, ?_, ?_⟩
  · intro before ti mid tj after htrans hi hj
    exact granted_between_le hcalls hwithin htrans hi hj
  · intro t ht
    rw [(hsteps t ht).2]
    constructor
    · intro h
      exact next_of_idle h
    · intro hp
      exact reply_of_priority hp

/-- Three calls, the second with a clock half a second behind: it is rejected, and the two
grants cost 11 where the capacity and the inflow allow 14. -/
theorem token_bucket_bound_clock_behind :
    let calls : List Call :=
      [⟨"zerodha", 6, 10, 1 / 100, 1000, 0⟩, ⟨"zerodha", 4, 10, 1 / 100, 500, 0⟩,
       ⟨"zerodha", 5, 10, 1 / 100, 1400, 0⟩]
    (∀ c ∈ calls, Uniform "zerodha" 10 (1 / 100) c) ∧
      (limiter.trans noBuckets calls).map (·.reply) = [true, false, true] ∧
      grantedCost "zerodha" (limiter.trans noBuckets calls) ≤
        10 + 1 / 100 * (1400 - 1000) := by
  intro calls
  have huniform : ∀ c ∈ calls, Uniform "zerodha" 10 (1 / 100) c := by
    decide +kernel
  refine ⟨huniform, by decide +kernel, ?_⟩
  exact (token_bucket_bound calls huniform).2.1 [] _ [_] _ [] rfl (by decide +kernel)
    (by decide +kernel)

end Intraday.Lua.RateLimiter
