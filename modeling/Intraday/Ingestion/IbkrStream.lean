import Intraday.Auth.IbkrPool
import Intraday.Lib.Custody

/-!
# Intraday.Ingestion.IbkrStream — `shared/ingestion/ibkr_ws.py`

Stream adapters that share one pool of client ids. `connect` and `disconnect` take several steps,
and those of any number of threads and adapters interleave: between its steps a thread has a slot in
hand that no adapter has yet, or has no longer.

No two adapters ever have one slot, and a slot that is in use is with one adapter or thread, unless
it was lost: dialing may raise, and an adapter that is connected again forgets the slot that it had
(`streams_accounted`).
-/

namespace Intraday.Ingestion.IbkrStream

open Intraday.Auth Intraday.Auth.IBKRConnectionPool Intraday.Lib Intraday.Lib.Python

variable {A T : Type}

/-! ## Adapters and threads -/

/-- What a thread is doing: nothing, dialing for an adapter, or returning a slot. -/
inductive Phase (A : Type) where
  | idle
  | dialing (adapter : A) (slot : ℤ)
  | returning (slot : ℤ)
deriving DecidableEq

/-- The slot that a thread has in hand. -/
def Phase.slot : Phase A → Option ℤ
  | .idle => none
  | .dialing _ slot => some slot
  | .returning slot => some slot

/-- How `pool.connect` ends. -/
inductive Dial where
  | connected
  | refused
  | raises
deriving DecidableEq

/-- The pool, the adapters and the threads. A slot is given by its client id. Slots that were lost
are listed for the record; no call reads this list. -/
structure Streams (A T : Type) where
  pool : IBKRConnectionPool
  slot : A → Option ℤ
  connected : A → Bool
  phase : T → Phase A
  lost : List ℤ

/-- A step of a thread. -/
inductive Op (A T : Type) where
  /-- `connect` begins with `pool.acquire` -/
  | connect (t : T) (a : A)
  /-- `pool.connect` ends, and if it returned `True` the slot is stored -/
  | dial (t : T) (result : Dial)
  /-- `disconnect` takes the slot from the adapter -/
  | disconnect (t : T) (a : A)
  /-- `pool.release` -/
  | release (t : T)

variable [DecidableEq A] [DecidableEq T]

/-- One step; a thread that is doing something else does not make it. -/
def step (s : Streams A T) : Op A T → Streams A T
  | .connect t a =>
      match s.phase t with
      | .idle =>
          match s.pool.acquire with
          | (pool, .ok slot) =>
              { s with pool := pool, phase := Function.update s.phase t (.dialing a slot.clientId) }
          | (_, .error _) => s
      | _ => s
  | .dial t result =>
      match s.phase t with
      | .dialing a slot =>
          match result with
          | .connected =>
              { s with
                slot := Function.update s.slot a (some slot)
                connected := Function.update s.connected a true
                phase := Function.update s.phase t .idle
                lost := (s.slot a).toList ++ s.lost }
          | .refused => { s with phase := Function.update s.phase t (.returning slot) }
          | .raises => { s with phase := Function.update s.phase t .idle, lost := slot :: s.lost }
      | _ => s
  | .disconnect t a =>
      match s.phase t with
      | .idle =>
          { s with
            slot := Function.update s.slot a none
            connected := Function.update s.connected a false
            phase := Function.update s.phase t
              (match s.slot a with
              | some slot => .returning slot
              | none => .idle) }
      | _ => s
  | .release t =>
      match s.phase t with
      | .returning slot =>
          { s with pool := s.pool.release slot, phase := Function.update s.phase t .idle }
      | _ => s

/-- The adapters and threads as a machine. -/
def streams : Machine (Streams A T) (Op A T) Unit where
  step s op := (step s op, ())

/-- New adapters on a new pool. -/
def opening (pool : IBKRConnectionPool) : Streams A T :=
  { pool := pool, slot := fun _ => none, connected := fun _ => false, phase := fun _ => .idle
    lost := [] }

/-! ## Custody of the slots -/

/-- Who can have a slot. -/
inductive Owner (A T : Type) where
  | adapter (a : A)
  | thread (t : T)
deriving DecidableEq

/-- What each adapter and thread has. -/
def held (slot : A → Option ℤ) (phase : T → Phase A) : Owner A T → Option ℤ
  | .adapter a => slot a
  | .thread t => (phase t).slot

/-- This, and what was lost. -/
def custody (s : Streams A T) : Custody (Owner A T) ℤ :=
  { held := held s.slot s.phase, lost := s.lost }

/-- The slot is in use. -/
def InUse (pool : IBKRConnectionPool) (id : ℤ) : Prop :=
  ∃ slot ∈ pool.slots, slot.clientId = id ∧ slot.inUse = true

/-- The custody is exact, and the adapters that are connected are those with a slot. -/
structure InOrder (s : Streams A T) : Prop where
  exact : (custody s).Exact (InUse s.pool)
  connected : ∀ a, s.connected a = (s.slot a).isSome

theorem inUse_modify {pool : IBKRConnectionPool} {f : IBKRClientSlot → IBKRClientSlot}
    {used : Bool} (hf : ∀ slot, (f slot).inUse = used) (id x : ℤ) :
    InUse (pool.modify id f) x ↔
      (x ≠ id ∧ InUse pool x) ∨ (x = id ∧ used = true ∧ id ∈ pool.clientIds) := by
  constructor
  · rintro ⟨slot, hslot, rfl, hused⟩
    rcases List.mem_map.mp hslot with ⟨q, hq, rfl⟩
    rw [onSlot_clientId] at *
    by_cases hid : q.clientId = id
    · have hinUse : (onSlot id f q).inUse = used := by
        rw [onSlot, if_pos hid]
        exact hf q
      exact .inr ⟨hid, hinUse.symm.trans hused, hid ▸ List.mem_map_of_mem hq⟩
    · have hsame : onSlot id f q = q := by rw [onSlot, if_neg hid]
      rw [hsame] at hused
      exact .inl ⟨hid, q, hq, rfl, hused⟩
  · rintro (⟨hne, q, hq, rfl, hused⟩ | ⟨rfl, hused, hid⟩)
    · have hsame : onSlot id f q = q := by rw [onSlot, if_neg hne]
      exact ⟨q, List.mem_map.mpr ⟨q, hq, hsame⟩, rfl, hused⟩
    · rcases exists_slot hid with ⟨q, hq, hqid⟩
      refine ⟨onSlot x f q, List.mem_map_of_mem hq, ?_, ?_⟩
      · rw [onSlot_clientId, hqid]
      · rw [onSlot, if_pos hqid]
        exact (hf q).trans hused

/-- A slot that `acquire` returns was not in use, and is now. -/
theorem acquire_spec {pool pool' : IBKRConnectionPool} {slot : IBKRClientSlot}
    (h : pool.acquire = (pool', .ok slot)) :
    ¬ InUse pool slot.clientId ∧
      ∀ x, InUse pool' x ↔ InUse pool x ∨ x = slot.clientId := by
  rw [acquire] at h
  split at h
  · rename_i q hfind
    rw [Prod.mk.injEq, Except.ok.injEq] at h
    rcases h with ⟨rfl, rfl⟩
    have hfree : q.inUse = false := by simpa using List.find?_some hfind
    have hmem := List.mem_of_find?_eq_some hfind
    have hid : q.acquire.clientId = q.clientId := rfl
    have hnot : ¬ InUse pool q.clientId := by
      rintro ⟨q', hq', hsame, hused⟩
      rw [List.inj_on_of_nodup_map pool.distinct hq' hmem hsame, hfree] at hused
      cases hused
    rw [hid]
    refine ⟨hnot, ?_⟩
    intro x
    rw [@inUse_modify _ _ true (fun _ => rfl)]
    constructor
    · rintro (⟨-, hx⟩ | ⟨hx, -, -⟩)
      · exact .inl hx
      · exact .inr hx
    · rintro (hx | hx)
      · by_cases hsame : x = q.clientId
        · exact .inr ⟨hsame, rfl, List.mem_map_of_mem hmem⟩
        · exact .inl ⟨hsame, hx⟩
      · exact .inr ⟨hx, rfl, List.mem_map_of_mem hmem⟩
  · cases h

theorem inUse_release (pool : IBKRConnectionPool) (id x : ℤ) :
    InUse (pool.release id) x ↔ InUse pool x ∧ x ≠ id := by
  rw [release, @inUse_modify _ _ false (fun _ => rfl)]
  simp [and_comm]

/-! ## One step -/

theorem held_update_phase (slot : A → Option ℤ) (phase : T → Phase A) (t : T) (p : Phase A) :
    held slot (Function.update phase t p) =
      Function.update (held slot phase) (.thread t) p.slot := by
  funext o
  cases o with
  | adapter a =>
      have hne : (Owner.adapter a : Owner A T) ≠ .thread t := fun h => nomatch h
      exact (Function.update_of_ne hne _ _).symm
  | thread t' =>
      by_cases h : t' = t
      · subst h
        rw [Function.update_self, held, Function.update_self]
      · rw [Function.update_of_ne (fun heq => h (Owner.thread.inj heq)), held,
          Function.update_of_ne h]
        rfl

theorem held_update_slot (slot : A → Option ℤ) (phase : T → Phase A) (a : A) (v : Option ℤ) :
    held (Function.update slot a v) phase =
      Function.update (held slot phase) (.adapter a) v := by
  funext o
  cases o with
  | thread t =>
      have hne : (Owner.thread t : Owner A T) ≠ .adapter a := fun h => nomatch h
      exact (Function.update_of_ne hne _ _).symm
  | adapter a' =>
      by_cases h : a' = a
      · subst h
        rw [Function.update_self, held, Function.update_self]
      · rw [Function.update_of_ne (fun heq => h (Owner.adapter.inj heq)), held,
          Function.update_of_ne h]
        rfl

omit [DecidableEq A] [DecidableEq T] in
/-- A thread in the middle of a call has its slot in custody. -/
theorem held_thread {s : Streams A T} {t : T} {p : Phase A} (h : s.phase t = p) :
    (custody s).held (.thread t) = p.slot := by
  show (s.phase t).slot = p.slot
  rw [h]

theorem inOrder_connect {s : Streams A T} (h : InOrder s) (t : T) (a : A) :
    InOrder (step s (.connect t a)) := by
  rw [step]
  split
  · rename_i hidle
    split
    · rename_i pool slot hacquire
      rcases acquire_spec hacquire with ⟨hfree, huse⟩
      have htake := h.exact.take (o := .thread t) (held_thread hidle) hfree
      refine ⟨?_, h.connected⟩
      have hcustody : custody { s with
          pool := pool, phase := Function.update s.phase t (.dialing a slot.clientId) } =
            (custody s).take (.thread t) slot.clientId :=
        Custody.ext (held_update_phase _ _ _ _) rfl
      rw [hcustody]
      exact htake.congr huse
    · exact h
  · exact h

theorem inOrder_dial {s : Streams A T} (h : InOrder s) (t : T) (result : Dial) :
    InOrder (step s (.dial t result)) := by
  rw [step]
  split
  · rename_i a slot hdialing
    have hthread := held_thread hdialing
    cases result with
    | connected =>
        -- the slot goes from the thread to the adapter
        refine ⟨?_, ?_⟩
        · have hcustody : custody { s with
              slot := Function.update s.slot a (some slot)
              connected := Function.update s.connected a true
              phase := Function.update s.phase t .idle
              lost := (s.slot a).toList ++ s.lost } =
                (custody s).pass (.thread t) (.adapter a) := by
            refine Custody.ext ?_ rfl
            show held (Function.update s.slot a (some slot))
                (Function.update s.phase t .idle) =
              Function.update (Function.update (custody s).held (.thread t) none) (.adapter a)
                ((custody s).held (.thread t))
            rw [held_update_slot, held_update_phase, hthread]
            rfl
          rw [hcustody]
          exact h.exact.pass (fun heq => nomatch heq)
        · intro a'
          by_cases ha : a' = a
          · subst ha
            simp
          · simpa [Function.update_of_ne ha] using h.connected a'
    | refused =>
        refine ⟨?_, h.connected⟩
        have hcustody : custody { s with
            phase := Function.update s.phase t (.returning slot) } = custody s := by
          refine Custody.ext ?_ rfl
          show held s.slot (Function.update s.phase t (.returning slot)) = (custody s).held
          rw [held_update_phase]
          exact Function.update_eq_self_iff.mpr hthread.symm
        rw [hcustody]
        exact h.exact
    | raises =>
        refine ⟨?_, h.connected⟩
        have hcustody : custody { s with
            phase := Function.update s.phase t .idle, lost := slot :: s.lost } =
              (custody s).abandon (.thread t) := by
          refine Custody.ext (held_update_phase _ _ _ _) ?_
          show slot :: s.lost = ((custody s).held (.thread t)).toList ++ s.lost
          rw [hthread]
          rfl
        rw [hcustody]
        exact h.exact.abandon _
  · exact h

theorem inOrder_disconnect {s : Streams A T} (h : InOrder s) (t : T) (a : A) :
    InOrder (step s (.disconnect t a)) := by
  rw [step]
  split
  · rename_i hidle
    have hthread := held_thread hidle
    have hslot : (match s.slot a with
        | some slot => Phase.returning slot
        | none => (.idle : Phase A)).slot = s.slot a := by
      cases s.slot a <;> rfl
    refine ⟨?_, ?_⟩
    · -- the slot goes from the adapter to the thread, which had none
      have hcustody : custody { s with
          slot := Function.update s.slot a none
          connected := Function.update s.connected a false
          phase := Function.update s.phase t
            (match s.slot a with
            | some slot => .returning slot
            | none => .idle) } =
          (custody s).pass (.adapter a) (.thread t) := by
        refine Custody.ext ?_ ?_
        · show held (Function.update s.slot a none) (Function.update s.phase t _) =
            Function.update (Function.update (custody s).held (.adapter a) none) (.thread t)
              (s.slot a)
          rw [held_update_phase, held_update_slot, hslot]
          rfl
        · show s.lost = ((custody s).held (.thread t)).toList ++ s.lost
          rw [hthread]
          rfl
      rw [hcustody]
      exact h.exact.pass (fun heq => nomatch heq)
    · intro a'
      by_cases ha : a' = a
      · subst ha
        simp
      · simpa [Function.update_of_ne ha] using h.connected a'
  · exact h

theorem inOrder_release {s : Streams A T} (h : InOrder s) (t : T) :
    InOrder (step s (.release t)) := by
  rw [step]
  split
  · rename_i slot hreturning
    have hback := h.exact.giveBack (held_thread hreturning)
    refine ⟨?_, h.connected⟩
    have hcustody : custody { s with
        pool := s.pool.release slot, phase := Function.update s.phase t .idle } =
          (custody s).giveBack (.thread t) :=
      Custody.ext (held_update_phase _ _ _ _) rfl
    rw [hcustody]
    exact hback.congr fun x => inUse_release s.pool slot x
  · exact h

theorem inOrder_next {s : Streams A T} (h : InOrder s) (op : Op A T) :
    InOrder (streams.next s op) := by
  cases op with
  | connect t a => exact inOrder_connect h t a
  | dial t result => exact inOrder_dial h t result
  | disconnect t a => exact inOrder_disconnect h t a
  | release t => exact inOrder_release h t

/-! ## Whole runs -/

omit [DecidableEq A] [DecidableEq T] in
theorem inOrder_opening {host : String} {mode : AuthMode} {poolSize startClientId : ℤ}
    {pool : IBKRConnectionPool} (h : new host mode poolSize startClientId = .ok pool) :
    InOrder (opening pool : Streams A T) := by
  have hcustody : custody (opening pool : Streams A T) = Custody.empty := by
    refine Custody.ext (funext fun o => ?_) rfl
    cases o <;> rfl
  refine ⟨?_, fun _ => rfl⟩
  rw [hcustody]
  refine Custody.exact_empty.congr fun id => ?_
  refine iff_of_false ?_ not_false
  rintro ⟨slot, hslot, -, hused⟩
  rw [new] at h
  split at h
  · cases h
  · cases h
    rcases List.mem_map.mp hslot with ⟨i, -, rfl⟩
    cases hused

/-- A step loses a slot: dialing raises, or an adapter that has a slot gets another one. -/
def Leaks (s : Streams A T) : Op A T → Prop
  | .dial t result =>
      match s.phase t with
      | .dialing a _ => result = .raises ∨ result = .connected ∧ (s.slot a).isSome = true
      | _ => False
  | _ => False

instance (s : Streams A T) : (op : Op A T) → Decidable (Leaks s op)
  | .dial t result =>
      match h : s.phase t with
      | .dialing a _ =>
          decidable_of_iff (result = .raises ∨ result = .connected ∧ (s.slot a).isSome = true)
            (by simp [Leaks, h])
      | .idle => isFalse (by simp [Leaks, h])
      | .returning _ => isFalse (by simp [Leaks, h])
  | .connect _ _ => isFalse id
  | .disconnect _ _ => isFalse id
  | .release _ => isFalse id

/-- Each step that loses a slot loses one. -/
theorem length_lost_next (s : Streams A T) (op : Op A T) :
    (streams.next s op).lost.length = s.lost.length + if Leaks s op then 1 else 0 := by
  show (step s op).lost.length = _
  cases op with
  | connect t a =>
      rw [step, if_neg (show ¬ Leaks s (.connect t a) from id)]
      split
      · split <;> rfl
      · rfl
  | disconnect t a =>
      rw [step, if_neg (show ¬ Leaks s (.disconnect t a) from id)]
      split <;> rfl
  | release t =>
      rw [step, if_neg (show ¬ Leaks s (.release t) from id)]
      split <;> rfl
  | dial t result =>
      cases hphase : s.phase t with
      | idle => simp [step, Leaks, hphase]
      | returning slot => simp [step, Leaks, hphase]
      | dialing a slot =>
          cases result with
          | refused => simp [step, Leaks, hphase]
          | raises => simp [step, Leaks, hphase]
          | connected =>
              cases hslot : s.slot a with
              | none => simp [step, Leaks, hphase, hslot]
              | some old => simp [step, Leaks, hphase, hslot]

theorem inOrder_run {s : Streams A T} (h : InOrder s) (ops : List (Op A T)) :
    InOrder (streams.run s ops) ∧
      (streams.run s ops).lost.length =
        s.lost.length + (streams.trans s ops).countP fun t => decide (Leaks t.pre t.op) := by
  induction ops generalizing s with
  | nil => exact ⟨h, rfl⟩
  | cons op ops ih =>
      have hnext := inOrder_next h op
      have hlost := length_lost_next s op
      rcases ih hnext with ⟨horder, hlength⟩
      refine ⟨horder, ?_⟩
      rw [Machine.run, hlength, hlost, Machine.trans_cons, List.countP_cons]
      by_cases hleaks : Leaks s op
      · simp [hleaks, Machine.fire]
        omega
      · simp [hleaks, Machine.fire]

/-- Nobody is in the middle of a call, and no adapter has a slot. -/
def Quiet (s : Streams A T) : Prop := (∀ t, s.phase t = .idle) ∧ ∀ a, s.slot a = none

omit [DecidableEq A] [DecidableEq T] in
/-- When all is quiet, what is not available was lost. -/
theorem available_of_quiet {s : Streams A T} (h : InOrder s) (hquiet : Quiet s) :
    s.pool.availableCount + s.lost.length = s.pool.slots.length := by
  have hused : ∀ id, InUse s.pool id ↔ id ∈ s.lost := by
    intro id
    rw [h.exact.out_iff]
    refine or_iff_right ?_
    rintro ⟨o, ho⟩
    cases o with
    | adapter a =>
        have hslot : s.slot a = some id := ho
        rw [hquiet.2 a] at hslot
        cases hslot
    | thread t =>
        rw [held_thread (hquiet.1 t)] at ho
        cases ho
  -- the slots in use are the lost ones, each once
  have hperm : ((s.pool.slots.filter fun slot => slot.inUse).map IBKRClientSlot.clientId).Perm
      s.lost := by
    refine (List.perm_ext_iff_of_nodup ?_ h.exact.nodup).mpr ?_
    · exact s.pool.distinct.sublist (List.filter_sublist.map _)
    · intro id
      show _ ↔ id ∈ s.lost
      rw [← hused id, List.mem_map]
      constructor
      · rintro ⟨slot, hslot, hid⟩
        rw [List.mem_filter] at hslot
        exact ⟨slot, hslot.1, hid, hslot.2⟩
      · rintro ⟨slot, hslot, hid, hinUse⟩
        exact ⟨slot, List.mem_filter.mpr ⟨hslot, hinUse⟩, hid⟩
  have hsplit := List.length_eq_length_filter_add (l := s.pool.slots) fun slot => slot.inUse
  have hlost := hperm.length_eq
  rw [List.length_map] at hlost
  rw [availableCount]
  omega

/-- In every interleaving of any number of adapters and threads on one pool, no slot has two
owners, so no two adapters share a client id; a slot is in use exactly if it has an owner or was
lost; one slot was lost for each dial that raised or that replaced a slot. Once all adapters are
disconnected and no call is under way, the other slots are available again. -/
theorem streams_accounted {host : String} {mode : AuthMode} {poolSize startClientId : ℤ}
    {pool : IBKRConnectionPool} (hpool : new host mode poolSize startClientId = .ok pool)
    (ops : List (Op A T)) :
    let s := streams.run (opening pool) ops
    (∀ o o' id, held s.slot s.phase o = some id → held s.slot s.phase o' = some id → o = o') ∧
      (∀ slot ∈ s.pool.slots, slot.inUse = true ↔
        (∃ o, held s.slot s.phase o = some slot.clientId) ∨ slot.clientId ∈ s.lost) ∧
      s.lost.length =
        (streams.trans (opening pool) ops).countP (fun t => decide (Leaks t.pre t.op)) ∧
      (Quiet s → s.pool.availableCount + s.lost.length = s.pool.slots.length) := by
  intro s
  rcases inOrder_run (inOrder_opening (A := A) (T := T) hpool) ops with ⟨horder, hlost⟩
  refine ⟨horder.exact.unique, ?_, ?_, available_of_quiet horder⟩
  · intro slot hslot
    refine Iff.trans ?_ (horder.exact.out_iff slot.clientId)
    constructor
    · intro hused
      exact ⟨slot, hslot, rfl, hused⟩
    · rintro ⟨slot', hslot', hid, hused⟩
      rwa [List.inj_on_of_nodup_map s.pool.distinct hslot hslot' hid.symm]
  · rw [hlost]
    exact Nat.zero_add _

/-- A pool with two slots. -/
def twoSlots : IBKRConnectionPool :=
  { host := "127.0.0.1", port := 7497, mode := .paper, slots := newSlots "127.0.0.1" 7497 2 0
    distinct := newSlots_distinct "127.0.0.1" 7497 2 0 }

/-- An adapter is connected twice, and its first slot is lost. -/
theorem connected_twice_loses_slot :
    (streams.run (opening twoSlots : Streams Bool Bool)
      [.connect true true, .dial true .connected, .connect false true, .dial false .connected,
        .disconnect true true, .release true]).lost.length = 1 := by
  have hnew : new "127.0.0.1" .paper 2 0 = .ok twoSlots := rfl
  have haccounted := streams_accounted (A := Bool) (T := Bool) hnew
    [.connect true true, .dial true .connected, .connect false true, .dial false .connected,
      .disconnect true true, .release true]
  rw [haccounted.2.2.1]
  decide +kernel

end Intraday.Ingestion.IbkrStream
