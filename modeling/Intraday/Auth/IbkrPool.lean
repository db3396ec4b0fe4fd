import Intraday.Auth.Models
import Intraday.Core.Constants
import Intraday.Lib.Machine
import Intraday.Lib.Python

/-!
# Intraday.Auth.IbkrPool — the slots of `shared/auth/ibkr_auth.py`

A pool of client ids that are checked out and returned. `release` clears the flag of the slot
it is given, whoever holds it by then, so a handle that is returned twice can free the id of
its next holder.

`exclusive_iff` says exactly in which histories the ids stay exclusive.
-/

namespace Intraday.Auth

open Intraday.Core Intraday.Lib Intraday.Lib.Python

/-! ## The pool -/

/-- `IBKRConnectionPool`. A slot is named by its client id, which no other slot of the pool
has. -/
structure IBKRConnectionPool where
  host : String
  port : ℕ
  mode : AuthMode
  slots : List IBKRClientSlot
  distinct : (slots.map IBKRClientSlot.clientId).Nodup

namespace IBKRConnectionPool

/-- `IBKR_PAPER_PORT if mode == AuthMode.PAPER else IBKR_LIVE_PORT`. -/
def portOf (mode : AuthMode) : ℕ := if mode = .paper then ibkrPaperPort else ibkrLivePort

/-- The slots of a new pool. -/
def newSlots (host : String) (port : ℕ) (poolSize startClientId : ℤ) : List IBKRClientSlot :=
  (List.range poolSize.toNat).map fun (i : ℕ) =>
    { clientId := startClientId + (i : ℤ), host := host, port := port }

theorem newSlots_distinct (host : String) (port : ℕ) (poolSize startClientId : ℤ) :
    ((newSlots host port poolSize startClientId).map IBKRClientSlot.clientId).Nodup := by
  rw [newSlots, List.map_map]
  refine List.Nodup.map ?_ List.nodup_range
  intro i j hij
  have hij : startClientId + (i : ℤ) = startClientId + (j : ℤ) := hij
  omega

/-- `IBKRConnectionPool(host, mode, pool_size, start_client_id)`. -/
def new (host : String) (mode : AuthMode) (poolSize startClientId : ℤ) :
    Except Exc IBKRConnectionPool :=
  if poolSize > ibkrClientIdPoolMax then
    .error (.other ("pool_size=" ++ toString poolSize ++ " exceeds IBKR_CLIENT_ID_POOL_MAX=" ++
      toString ibkrClientIdPoolMax))
  else
    .ok
      { host := host
        port := portOf mode
        mode := mode
        slots := newSlots host (portOf mode) poolSize startClientId
        distinct := newSlots_distinct host (portOf mode) poolSize startClientId }

/-- The client ids of the pool. -/
def clientIds (p : IBKRConnectionPool) : List ℤ := p.slots.map IBKRClientSlot.clientId

/-- `f` applied to the slot of a client id. -/
def onSlot (id : ℤ) (f : IBKRClientSlot → IBKRClientSlot) (s : IBKRClientSlot) :
    IBKRClientSlot :=
  if s.clientId = id then { f s with clientId := s.clientId } else s

@[simp] theorem onSlot_clientId (id : ℤ) (f : IBKRClientSlot → IBKRClientSlot)
    (s : IBKRClientSlot) : (onSlot id f s).clientId = s.clientId := by
  unfold onSlot
  split <;> rfl

theorem map_onSlot_clientId (id : ℤ) (f : IBKRClientSlot → IBKRClientSlot)
    (slots : List IBKRClientSlot) :
    (slots.map (onSlot id f)).map IBKRClientSlot.clientId =
      slots.map IBKRClientSlot.clientId := by
  rw [List.map_map]
  exact List.map_congr_left fun s _ => onSlot_clientId id f s

/-- A method of one slot, called on the object that the pool keeps. -/
def modify (p : IBKRConnectionPool) (id : ℤ) (f : IBKRClientSlot → IBKRClientSlot) :
    IBKRConnectionPool :=
  { p with
    slots := p.slots.map (onSlot id f)
    distinct := by
      rw [map_onSlot_clientId]
      exact p.distinct }

/-- `acquire`: the first slot that is not in use, or the `AuthError`. -/
def acquire (p : IBKRConnectionPool) : IBKRConnectionPool × Except Exc IBKRClientSlot :=
  match p.slots.find? (fun s => !s.inUse) with
  | some slot => (p.modify slot.clientId IBKRClientSlot.acquire, .ok slot.acquire)
  | none =>
      (p, .error (.other ("IBKR connection pool exhausted (all " ++ toString p.slots.length ++
        " slots in use)")))

/-- `release`, of the slot with this client id. -/
def release (p : IBKRConnectionPool) (id : ℤ) : IBKRConnectionPool :=
  p.modify id IBKRClientSlot.release

/-- `available_count`. -/
def availableCount (p : IBKRConnectionPool) : ℕ := (p.slots.filter fun s => !s.inUse).length

theorem modify_clientIds (p : IBKRConnectionPool) (id : ℤ)
    (f : IBKRClientSlot → IBKRClientSlot) : (p.modify id f).clientIds = p.clientIds :=
  map_onSlot_clientId id f p.slots

end IBKRConnectionPool

/-! ## Holders -/

variable {H : Type}

/-- The pool and, for each client id, who has checked it out and not returned it. -/
structure Desk (H : Type) where
  pool : IBKRConnectionPool
  holders : ℤ → List H

/-- A call of a holder. The slot that is released is given by its client id. -/
inductive DeskOp (H : Type) where
  | acquire (holder : H)
  | release (holder : H) (id : ℤ)
deriving DecidableEq

/-- A new pool is held by nobody. -/
def Desk.opening (pool : IBKRConnectionPool) : Desk H := { pool := pool, holders := fun _ => [] }

/-- The pool and its holders as a machine. The lock makes each call one step. -/
def desk [DecidableEq H] : Machine (Desk H) (DeskOp H) (Except Exc (Option IBKRClientSlot)) where
  step s
    | .acquire h =>
        match s.pool.acquire with
        | (pool, .ok slot) =>
            ({ pool := pool
               holders := Function.update s.holders slot.clientId
                (h :: s.holders slot.clientId) }, .ok (some slot))
        | (pool, .error e) => ({ s with pool := pool }, .error e)
    | .release h id =>
        ({ pool := s.pool.release id
           holders := Function.update s.holders id ((s.holders id).erase h) }, .ok none)

/-- The ids are exclusive: nobody shares one, and a slot of the pool is either available or
held. -/
structure Exclusive (s : Desk H) : Prop where
  one_holder : ∀ id, (s.holders id).length ≤ 1
  held_mem : ∀ id, s.holders id ≠ [] → id ∈ s.pool.clientIds
  partition : ∀ slot ∈ s.pool.slots, slot.inUse = true ↔ s.holders slot.clientId ≠ []

/-- A release is of a slot that nobody else holds. -/
def ReleasesOwn (s : Desk H) : DeskOp H → Prop
  | .acquire _ => True
  | .release h id => ∀ h' ∈ s.holders id, h' = h

instance [DecidableEq H] (s : Desk H) : (op : DeskOp H) → Decidable (ReleasesOwn s op)
  | .acquire _ => isTrue trivial
  | .release h id => inferInstanceAs (Decidable (∀ h' ∈ s.holders id, h' = h))

/-! ## One call -/

open IBKRConnectionPool

/-- A slot after a call on one of them: the one it was made on, or unchanged. -/
theorem mem_modify {p : IBKRConnectionPool} {id : ℤ} {f : IBKRClientSlot → IBKRClientSlot}
    {slot : IBKRClientSlot} (h : slot ∈ (p.modify id f).slots) :
    (slot.clientId = id ∧ ∃ q, slot.inUse = (f q).inUse) ∨
      (slot.clientId ≠ id ∧ slot ∈ p.slots) := by
  rcases List.mem_map.mp h with ⟨q, hq, rfl⟩
  by_cases hid : q.clientId = id
  · refine .inl ⟨?_, q, ?_⟩
    · rw [onSlot_clientId, hid]
    · rw [onSlot, if_pos hid]
  · rw [onSlot, if_neg hid]
    exact .inr ⟨hid, hq⟩

/-- The pool has a slot for each of its ids. -/
theorem exists_slot {p : IBKRConnectionPool} {id : ℤ} (h : id ∈ p.clientIds) :
    ∃ slot ∈ p.slots, slot.clientId = id :=
  List.mem_map.mp h

/-- Everything a call can do. -/
theorem desk_cases [DecidableEq H] (s : Desk H) (op : DeskOp H) :
    (∃ h slot, op = .acquire h ∧ slot ∈ s.pool.slots ∧ slot.inUse = false ∧
      desk.next s op =
        { pool := s.pool.modify slot.clientId IBKRClientSlot.acquire
          holders := Function.update s.holders slot.clientId
            (h :: s.holders slot.clientId) }) ∨
    (∃ h, op = .acquire h ∧ (∀ slot ∈ s.pool.slots, slot.inUse = true) ∧ desk.next s op = s) ∨
    (∃ h id, op = .release h id ∧
      desk.next s op =
        { pool := s.pool.modify id IBKRClientSlot.release
          holders := Function.update s.holders id ((s.holders id).erase h) }) := by
  cases op with
  | acquire h =>
      cases hfind : s.pool.slots.find? (fun slot => !slot.inUse) with
      | some slot =>
          have hfree : slot.inUse = false := by simpa using List.find?_some hfind
          refine .inl ⟨h, slot, rfl, List.mem_of_find?_eq_some hfind, hfree, ?_⟩
          simp [Machine.next, desk, acquire, hfind, IBKRClientSlot.acquire]
      | none =>
          have hbusy : ∀ slot ∈ s.pool.slots, slot.inUse = true := by
            simpa using List.find?_eq_none.mp hfind
          refine .inr (.inl ⟨h, rfl, hbusy, ?_⟩)
          simp [Machine.next, desk, acquire, hfind]
  | release h id => exact .inr (.inr ⟨h, id, rfl, rfl⟩)

theorem exclusive_acquire {s : Desk H} {h : H} {slot : IBKRClientSlot} (hs : Exclusive s)
    (hslot : slot ∈ s.pool.slots) (hfree : slot.inUse = false) :
    Exclusive
      { pool := s.pool.modify slot.clientId IBKRClientSlot.acquire
        holders := Function.update s.holders slot.clientId (h :: s.holders slot.clientId) } := by
  -- a free slot has no holder
  have hnobody : s.holders slot.clientId = [] := by
    by_contra hheld
    rw [(hs.partition slot hslot).mpr hheld] at hfree
    cases hfree
  rw [hnobody]
  refine ⟨?_, ?_, ?_⟩
  · intro id
    by_cases hid : id = slot.clientId
    · subst hid
      simp
    · simpa [Function.update_of_ne hid] using hs.one_holder id
  · intro id hheld
    rw [modify_clientIds]
    by_cases hid : id = slot.clientId
    · rw [hid]
      exact List.mem_map_of_mem hslot
    · exact hs.held_mem id (by simpa [Function.update_of_ne hid] using hheld)
  · intro q hq
    rcases mem_modify hq with ⟨hid, r, hr⟩ | ⟨hid, hq⟩
    · have hused : q.inUse = true := hr
      simp [hid, hused]
    · simpa [Function.update_of_ne hid] using hs.partition q hq

/-- After a release the slot is available, so nobody may be left holding it. -/
theorem exclusive_release_iff [DecidableEq H] {s : Desk H} {h : H} {id : ℤ} (hs : Exclusive s) :
    Exclusive
      { pool := s.pool.modify id IBKRClientSlot.release
        holders := Function.update s.holders id ((s.holders id).erase h) } ↔
      ∀ h' ∈ s.holders id, h' = h := by
  constructor
  · intro hpost h' hmem
    by_contra hne
    have hleft : (s.holders id).erase h ≠ [] :=
      List.ne_nil_of_mem ((List.mem_erase_of_ne hne).mpr hmem)
    have hid : id ∈ (s.pool.modify id IBKRClientSlot.release).clientIds :=
      hpost.held_mem id (by simpa using hleft)
    rcases exists_slot hid with ⟨slot, hslot, rfl⟩
    have hused : slot.inUse = true := (hpost.partition slot hslot).mpr (by simpa using hleft)
    rcases mem_modify hslot with ⟨_, q, hq⟩ | ⟨hne, _⟩
    · rw [hused] at hq
      cases hq
    · exact hne rfl
  · intro hown
    -- at most one holder, and it is the releaser
    have hleft : (s.holders id).erase h = [] := by
      have hone := hs.one_holder id
      cases hlist : s.holders id with
      | nil => rfl
      | cons h' rest =>
          rw [hlist] at hone hown
          have hrest : rest = [] := List.length_eq_zero_iff.mp (by simpa using hone)
          rw [hrest, hown h' List.mem_cons_self]
          simp
    rw [hleft]
    refine ⟨?_, ?_, ?_⟩
    · intro id'
      by_cases hid : id' = id
      · subst hid
        simp
      · simpa [Function.update_of_ne hid] using hs.one_holder id'
    · intro id' hheld
      rw [modify_clientIds]
      by_cases hid : id' = id
      · subst hid
        simp at hheld
      · exact hs.held_mem id' (by simpa [Function.update_of_ne hid] using hheld)
    · intro q hq
      rcases mem_modify hq with ⟨hid, r, hr⟩ | ⟨hid, hq⟩
      · have hfree : q.inUse = false := hr
        simp [hid, hfree]
      · simpa [Function.update_of_ne hid] using hs.partition q hq

theorem exclusive_next_iff [DecidableEq H] (s : Desk H) (op : DeskOp H) (hs : Exclusive s) :
    Exclusive (desk.next s op) ↔ ReleasesOwn s op := by
  rcases desk_cases s op with ⟨h, slot, rfl, hslot, hfree, hnext⟩ | ⟨h, rfl, _, hnext⟩ |
      ⟨h, id, rfl, hnext⟩
  · rw [hnext]
    exact iff_of_true (exclusive_acquire hs hslot hfree) trivial
  · rw [hnext]
    exact iff_of_true hs trivial
  · rw [hnext]
    exact exclusive_release_iff hs

/-! ## Whole histories -/

/-- The slots of a new pool are available. -/
theorem exclusive_opening {host : String} {mode : AuthMode} {poolSize startClientId : ℤ}
    {pool : IBKRConnectionPool} (h : new host mode poolSize startClientId = .ok pool) :
    Exclusive (Desk.opening pool : Desk H) := by
  refine ⟨fun _ => Nat.zero_le _, fun _ hheld => absurd rfl hheld, ?_⟩
  intro slot hslot
  rw [new] at h
  split at h
  · cases h
  · cases h
    rcases List.mem_map.mp hslot with ⟨i, _, rfl⟩
    simp [Desk.opening]

/-- Whatever the order in which any number of holders acquire and release, the ids stay
exclusive exactly if nobody releases a slot that someone else holds. -/
theorem exclusive_iff [DecidableEq H] {host : String} {mode : AuthMode}
    {poolSize startClientId : ℤ} {pool : IBKRConnectionPool}
    (hpool : new host mode poolSize startClientId = .ok pool) (ops : List (DeskOp H)) :
    (∀ t ∈ desk.trans (.opening pool) ops, Exclusive t.post) ↔
      ∀ t ∈ desk.trans (.opening pool) ops, ReleasesOwn t.pre t.op := by
  refine @Machine.trans_forall_post_iff _ _ _ desk (fun _ => True) Exclusive ReleasesOwn
    (fun _ _ _ => trivial) ?_ (Desk.opening pool) trivial (exclusive_opening hpool) ops
  intro s op _ hs
  exact exclusive_next_iff s op hs

/-- The pool that `IBKRConnectionPool()` makes. -/
def defaultPool : IBKRConnectionPool where
  host := "127.0.0.1"
  port := 7497
  mode := .paper
  slots := newSlots "127.0.0.1" 7497 4 0
  distinct := newSlots_distinct "127.0.0.1" 7497 4 0

/-- A slot that is returned and handed to the next holder. -/
theorem exclusive_handover :
    new "127.0.0.1" .paper 4 0 = .ok defaultPool ∧
      ∀ t ∈ desk.trans (.opening defaultPool)
        [.acquire "orders", .release "orders" 0, .acquire "quotes", .release "quotes" 0],
        Exclusive t.post := by
  have hpool : new "127.0.0.1" .paper 4 0 = .ok defaultPool := rfl
  refine ⟨hpool, (exclusive_iff hpool _).mpr ?_⟩
  decide +kernel

/-- A holder returns its handle a second time, after the id went to the next holder: the id is
then given to a third one as well. -/
theorem reused_handle_shares_id :
    new "127.0.0.1" .paper 4 0 = .ok defaultPool ∧
      ¬ Exclusive (desk.run (.opening defaultPool)
        [.acquire "orders", .release "orders" 0, .acquire "quotes", .release "orders" 0,
         .acquire "history"]) := by
  refine ⟨rfl, ?_⟩
  intro h
  have htwo : ((desk.run (.opening defaultPool)
      [.acquire "orders", .release "orders" 0, .acquire "quotes", .release "orders" 0,
       .acquire "history"]).holders 0).length = 2 := by decide +kernel
  have hone := h.one_holder 0
  omega

end Intraday.Auth
