import Intraday.Compliance.KillSwitch
import Intraday.Lib.Machine
import Intraday.Lib.PyFloat

/-!
# Intraday.Storage.SqliteBuffer — `shared/storage/sqlite_buffer.py`

Ticks that could not be written to TimescaleDB are appended to a local table, and
`sync_to_timescale` moves what is pending: it reads the pending rows, inserts them, and then
marks as many rows as it read, the oldest pending ones. Appends and other syncs come between
these steps. A mark counts rows instead of naming them, so after another sync has marked the
rows that both read, it marks rows that nobody has inserted.

* `nothing_lost_iff` says exactly in which runs no row is lost;
* `touched_subset_read` is the reason that one sync at a time loses nothing: as long as the
  rows it read are pending, they are the oldest ones.
-/

namespace Intraday.Storage

open Intraday.Lib Intraday.Lib.Python
open Intraday.Compliance (SetOutcome)

/-! ## The table -/

/-- `Tick`. The time is its `isoformat()` text, which is what the buffer stores. -/
structure Tick where
  time : String
  symbol : String
  exchange : String
  price : PyFloat
  volume : ℤ
  bid : Option PyFloat := none
  ask : Option PyFloat := none
deriving DecidableEq

/-- What a `REAL` column keeps of a float: NaN becomes NULL and `-0.0` becomes `0.0`. -/
def realColumn : PyFloat → Option PyFloat
  | .nan => none
  | .finite true d => some (if d.digits = 0 then .zero else .finite true d)
  | x => some x

/-- The row that a tick is stored as. The price must not be NULL, and an `INTEGER` column
takes 64 bits. -/
def Tick.bind (t : Tick) : Except Exc Tick :=
  if ¬ (-2 ^ 63 ≤ t.volume ∧ t.volume < 2 ^ 63) then
    .error (.other "Python int too large to convert to SQLite INTEGER")
  else
    match realColumn t.price with
    | none => .error (.other "NOT NULL constraint failed: buffered_ticks.price")
    | some price =>
        .ok { t with
              price := price
              bid := t.bid.bind realColumn
              ask := t.ask.bind realColumn }

/-- A row of `buffered_ticks`. -/
structure Row where
  id : ℕ
  tick : Tick
  synced : Bool
deriving DecidableEq

/-- What a row is, whether or not it is synced. -/
def Row.entry (r : Row) : ℕ × Tick := (r.id, r.tick)

/-- `SQLiteFailoverBuffer`: the table in the order of its ids, and the last id that
`AUTOINCREMENT` gave out. -/
structure SQLiteFailoverBuffer where
  rows : List Row
  lastId : ℕ
  increasing : (rows.map Row.id).Pairwise (· < ·)
  bounded : ∀ r ∈ rows, r.id ≤ lastId

namespace SQLiteFailoverBuffer

/-- New rows for `ticks`, numbered after `lastId`. -/
def newRows (lastId : ℕ) : List Tick → List Row
  | [] => []
  | t :: ts => { id := lastId + 1, tick := t, synced := false } :: newRows (lastId + 1) ts

theorem mem_newRows {lastId : ℕ} {ticks : List Tick} {r : Row} (h : r ∈ newRows lastId ticks) :
    lastId < r.id ∧ r.id ≤ lastId + ticks.length ∧ r.synced = false := by
  induction ticks generalizing lastId with
  | nil => simp [newRows] at h
  | cons t ts ih =>
      rcases List.mem_cons.mp h with rfl | h
      · simp
      · have hrest := ih h
        rw [List.length_cons]
        exact ⟨by omega, by omega, hrest.2.2⟩

theorem newRows_increasing (lastId : ℕ) (ticks : List Tick) :
    ((newRows lastId ticks).map Row.id).Pairwise (· < ·) := by
  induction ticks generalizing lastId with
  | nil => exact List.Pairwise.nil
  | cons t ts ih =>
      rw [newRows, List.map_cons, List.pairwise_cons]
      refine ⟨?_, ih (lastId + 1)⟩
      intro id hid
      rcases List.mem_map.mp hid with ⟨r, hr, rfl⟩
      exact (mem_newRows hr).1

/-- The table after `INSERT` of `ticks`. -/
def insertRows (b : SQLiteFailoverBuffer) (ticks : List Tick) : SQLiteFailoverBuffer where
  rows := b.rows ++ newRows b.lastId ticks
  lastId := b.lastId + ticks.length
  increasing := by
    rw [List.map_append, List.pairwise_append]
    refine ⟨b.increasing, newRows_increasing b.lastId ticks, ?_⟩
    intro old hold new hnew
    rcases List.mem_map.mp hold with ⟨q, hq, rfl⟩
    rcases List.mem_map.mp hnew with ⟨r, hr, rfl⟩
    have hq' := b.bounded q hq
    have hr' := (mem_newRows hr).1
    omega
  bounded := by
    intro r hr
    rcases List.mem_append.mp hr with hr | hr
    · have := b.bounded r hr
      omega
    · exact (mem_newRows hr).2.1

/-- `append`: all ticks in one transaction, or none. -/
def append (b : SQLiteFailoverBuffer) (ticks : List Tick) :
    SQLiteFailoverBuffer × Except Exc ℕ :=
  if ticks = [] then (b, .ok 0)
  else
    match ticks.mapM Tick.bind with
    | .error e => (b, .error e)
    | .ok stored => (b.insertRows stored, .ok ticks.length)

/-- The rows that `pending` returns the ticks of, oldest first. -/
def pending (b : SQLiteFailoverBuffer) : List Row := b.rows.filter (·.synced = false)

/-- `pending_count`. -/
def pendingCount (b : SQLiteFailoverBuffer) : ℕ := b.pending.length

/-- The rows that `mark_synced(count)` touches: the oldest `count` unsynced ones. -/
def oldest (b : SQLiteFailoverBuffer) (count : ℕ) : List Row := b.pending.take count

/-- A row after the `UPDATE` of the rows with these ids. -/
def markRow (ids : List ℕ) (r : Row) : Row :=
  if r.id ∈ ids then { r with synced := true } else r

@[simp] theorem markRow_id (ids : List ℕ) (r : Row) : (markRow ids r).id = r.id := by
  unfold markRow
  split <;> rfl

@[simp] theorem markRow_tick (ids : List ℕ) (r : Row) : (markRow ids r).tick = r.tick := by
  unfold markRow
  split <;> rfl

@[simp] theorem markRow_entry (ids : List ℕ) (r : Row) : (markRow ids r).entry = r.entry := by
  rw [Row.entry, markRow_id, markRow_tick, Row.entry]

/-- `mark_synced`. -/
def markSynced (b : SQLiteFailoverBuffer) (count : ℕ) : SQLiteFailoverBuffer where
  rows := b.rows.map (markRow ((b.oldest count).map Row.id))
  lastId := b.lastId
  increasing := by
    rw [List.map_map]
    have hids : Row.id ∘ markRow ((b.oldest count).map Row.id) = Row.id := by
      funext r
      exact markRow_id _ r
    rw [hids]
    exact b.increasing
  bounded := by
    intro r hr
    rcases List.mem_map.mp hr with ⟨q, hq, rfl⟩
    rw [markRow_id]
    exact b.bounded q hq

theorem mem_pending {b : SQLiteFailoverBuffer} {r : Row} :
    r ∈ b.pending ↔ r ∈ b.rows ∧ r.synced = false := by
  rw [pending, List.mem_filter, decide_eq_true_eq]

theorem mem_rows_of_mem_oldest {b : SQLiteFailoverBuffer} {count : ℕ} {r : Row}
    (h : r ∈ b.oldest count) : r ∈ b.rows :=
  (mem_pending.mp (List.mem_of_mem_take h)).1

/-- An id names one row. -/
theorem row_unique {b : SQLiteFailoverBuffer} {q r : Row} (hq : q ∈ b.rows) (hr : r ∈ b.rows)
    (hid : q.id = r.id) : q = r := by
  have hnodup : (b.rows.map Row.id).Nodup := b.increasing.imp fun h => Nat.ne_of_lt h
  exact List.inj_on_of_nodup_map hnodup hq hr hid

/-- What is synced after a mark was synced before or is one of the oldest. -/
theorem synced_markSynced {b : SQLiteFailoverBuffer} {count : ℕ} {r : Row}
    (hr : r ∈ (b.markSynced count).rows) (hsynced : r.synced = true) :
    ∃ q ∈ b.rows, q.entry = r.entry ∧ (q.synced = true ∨ q ∈ b.oldest count) := by
  rcases List.mem_map.mp hr with ⟨q, hq, rfl⟩
  refine ⟨q, hq, (markRow_entry _ q).symm, ?_⟩
  by_cases hid : q.id ∈ (b.oldest count).map Row.id
  · rcases List.mem_map.mp hid with ⟨p, hp, hpq⟩
    have hpq : p = q := row_unique (mem_rows_of_mem_oldest hp) hq hpq
    exact .inr (hpq ▸ hp)
  · rw [markRow, if_neg hid] at hsynced
    exact .inl hsynced

/-- One of the oldest is synced after the mark. -/
theorem mem_markSynced {b : SQLiteFailoverBuffer} {count : ℕ} {r : Row}
    (h : r ∈ b.oldest count) : { r with synced := true } ∈ (b.markSynced count).rows := by
  refine List.mem_map.mpr ⟨r, mem_rows_of_mem_oldest h, ?_⟩
  rw [markRow, if_pos (List.mem_map_of_mem h)]

end SQLiteFailoverBuffer

/-! ## Appends and syncs -/

/-- Where a call of `sync_to_timescale` stands. It carries the rows that it has read. -/
inductive Sync where
  | start
  | inserting (entries : List (ℕ × Tick))
  | marking (entries : List (ℕ × Tick))
  | returned (count : ℕ)
  | raised
deriving DecidableEq

/-- The rows that a call holds. -/
def Sync.held : Sync → List (ℕ × Tick)
  | .inserting entries | .marking entries => entries
  | .start | .returned _ | .raised => []

/-- The buffer, the rows that TimescaleDB has got from it, and every call of
`sync_to_timescale`. -/
structure Failover where
  buffer : SQLiteFailoverBuffer
  timescale : List (ℕ × Tick)
  syncs : ℕ → Sync

/-- One step of an appender or of a sync. The insert may raise, with its transaction lost or
committed all the same. -/
inductive FailoverOp where
  | append (ticks : List Tick)
  | pending (sync : ℕ)
  | insertMany (sync : ℕ) (outcome : SetOutcome)
  | markSynced (sync : ℕ)
deriving DecidableEq

namespace Failover

/-- A new buffer file. -/
def opening : Failover where
  buffer := { rows := [], lastId := 0, increasing := .nil, bounded := by simp }
  timescale := []
  syncs := fun _ => .start

/-- A sync moves on. -/
def move (s : Failover) (i : ℕ) (phase : Sync) : Failover :=
  { s with syncs := fun j => if j = i then phase else s.syncs j }

/-- `rows = self.pending()`, and the return if there are none. -/
def readPending (s : Failover) (i : ℕ) : Failover :=
  match s.syncs i with
  | .start =>
      if s.buffer.pending = [] then s.move i (.returned 0)
      else s.move i (.inserting (s.buffer.pending.map Row.entry))
  | _ => s

/-- `tick_repository.insert_many(rows)`: one transaction. -/
def insertMany (s : Failover) (i : ℕ) (outcome : SetOutcome) : Failover :=
  match s.syncs i with
  | .inserting entries =>
      let s := s.move i (if outcome = .done then .marking entries else .raised)
      if outcome.written then { s with timescale := s.timescale ++ entries } else s
  | _ => s

/-- `self.mark_synced(len(rows))` and the return. -/
def markRead (s : Failover) (i : ℕ) : Failover :=
  match s.syncs i with
  | .marking entries =>
      { s.move i (.returned entries.length) with
        buffer := s.buffer.markSynced entries.length }
  | _ => s

end Failover

/-- The buffer with its appenders and syncs as a machine. An append replies at once; a sync
has replied when it is `returned` or `raised`. -/
def failover : Machine Failover FailoverOp (Option (Except Exc ℕ)) where
  step s
    | .append ticks =>
        ({ s with buffer := (s.buffer.append ticks).1 }, some (s.buffer.append ticks).2)
    | .pending i => (s.readPending i, none)
    | .insertMany i outcome => (s.insertMany i outcome, none)
    | .markSynced i => (s.markRead i, none)

/-- Nothing is lost: a row marked synced is inserted, and a row is inserted or pending. -/
def NothingLost (s : Failover) : Prop :=
  (∀ r ∈ s.buffer.rows, r.synced = true → r.entry ∈ s.timescale) ∧
    ∀ r ∈ s.buffer.rows, r.entry ∈ s.timescale ∨ r ∈ s.buffer.pending

/-- A mark touches no row that is not inserted, other than those its own sync has read. -/
def MarksInserted (s : Failover) : FailoverOp → Prop
  | .markSynced i => ∀ entries, s.syncs i = .marking entries →
      ∀ r ∈ s.buffer.oldest entries.length, r.entry ∉ entries → r.entry ∈ s.timescale
  | _ => True

/-! ## What a sync holds -/

open SQLiteFailoverBuffer

/-- What holds of a sync: one that is about to mark has inserted the rows it read, and a
pending row that it did not read came after those it read. -/
structure Holds (s : Failover) (phase : Sync) : Prop where
  inserted : ∀ entries, phase = .marking entries → ∀ e ∈ entries, e ∈ s.timescale
  nodup : phase.held.Nodup
  bounded : ∀ e ∈ phase.held, e.1 ≤ s.buffer.lastId
  first : ∀ e ∈ phase.held, ∀ r ∈ s.buffer.pending, r.entry ∉ phase.held → e.1 < r.id

/-- The invariant of the syncs. -/
def Consistent (s : Failover) : Prop := ∀ i, Holds s (s.syncs i)

theorem holds_of_held_nil {s : Failover} {phase : Sync} (hnil : phase.held = [])
    (hphase : ∀ entries, phase ≠ .marking entries) : Holds s phase where
  inserted := fun entries h => absurd h (hphase entries)
  nodup := by
    rw [hnil]
    exact List.nodup_nil
  bounded := by
    rw [hnil]
    exact fun _ h => nomatch h
  first := by
    rw [hnil]
    exact fun _ h => nomatch h

theorem consistent_opening : Consistent Failover.opening :=
  fun _ => holds_of_held_nil rfl fun _ => Sync.noConfusion

/-- A sync is not disturbed by more rows in TimescaleDB, by marks, or by newer rows. -/
theorem Holds.mono {s s' : Failover} {phase : Sync} (h : Holds s phase)
    (hins : ∀ e ∈ s.timescale, e ∈ s'.timescale) (hlast : s.buffer.lastId ≤ s'.buffer.lastId)
    (hpend : ∀ r ∈ s'.buffer.pending, r ∈ s.buffer.pending ∨ s.buffer.lastId < r.id) :
    Holds s' phase where
  inserted := fun entries hphase e he => hins e (h.inserted entries hphase e he)
  nodup := h.nodup
  bounded := fun e he => (h.bounded e he).trans hlast
  first := by
    intro e he r hr hnot
    rcases hpend r hr with hold | hnew
    · exact h.first e he r hold hnot
    · exact (h.bounded e he).trans_lt hnew

/-- Only the sync that moves has to be looked at. -/
theorem Consistent.move {s : Failover} {i : ℕ} {phase : Sync} (h : Consistent s)
    (hphase : Holds s phase) : Consistent (s.move i phase) := by
  intro j
  by_cases hj : j = i
  · have hsync : (s.move i phase).syncs j = phase := if_pos hj
    rw [hsync]
    exact hphase.mono (fun _ he => he) le_rfl fun _ hr => .inl hr
  · have hsync : (s.move i phase).syncs j = s.syncs j := if_neg hj
    rw [hsync]
    exact (h j).mono (fun _ he => he) le_rfl fun _ hr => .inl hr

theorem pending_increasing (b : SQLiteFailoverBuffer) :
    (b.pending.map Row.id).Pairwise (· < ·) :=
  b.increasing.sublist (List.filter_sublist.map Row.id)

/-- What is read is held: nothing pending is left out. -/
theorem holds_pending (s : Failover) : Holds s (.inserting (s.buffer.pending.map Row.entry)) where
  inserted := fun _ h => nomatch h
  nodup := by
    have hids : (s.buffer.pending.map Row.id).Nodup :=
      (pending_increasing s.buffer).imp fun h => Nat.ne_of_lt h
    refine List.Nodup.of_map Prod.fst ?_
    rw [Sync.held, List.map_map]
    exact hids
  bounded := by
    intro e he
    rcases List.mem_map.mp he with ⟨r, hr, rfl⟩
    exact s.buffer.bounded r (mem_pending.mp hr).1
  first := fun _ _ _ hr hnot => absurd (List.mem_map_of_mem hr) hnot

theorem append_cases (b : SQLiteFailoverBuffer) (ticks : List Tick) :
    (b.append ticks).1 = b ∨ ∃ stored, (b.append ticks).1 = b.insertRows stored := by
  unfold append
  split
  · exact .inl rfl
  · split
    · exact .inl rfl
    · exact .inr ⟨_, rfl⟩

theorem mem_pending_insertRows {b : SQLiteFailoverBuffer} {stored : List Tick} {r : Row}
    (h : r ∈ (b.insertRows stored).pending) : r ∈ b.pending ∨ b.lastId < r.id := by
  rw [mem_pending] at h
  rcases List.mem_append.mp h.1 with hold | hnew
  · exact .inl (mem_pending.mpr ⟨hold, h.2⟩)
  · exact .inr (mem_newRows hnew).1

theorem mem_pending_markSynced {b : SQLiteFailoverBuffer} {count : ℕ} {r : Row}
    (h : r ∈ (b.markSynced count).pending) : r ∈ b.pending := by
  rw [mem_pending] at h
  rcases List.mem_map.mp h.1 with ⟨q, hq, rfl⟩
  have hid : q.id ∉ (b.oldest count).map Row.id := by
    intro hid
    rw [markRow, if_pos hid] at h
    exact absurd h.2 Bool.noConfusion
  rw [markRow, if_neg hid] at h ⊢
  exact mem_pending.mpr ⟨hq, h.2⟩

/-- The rows in TimescaleDB and the buffer may change under the syncs. -/
theorem Consistent.mono {s s' : Failover} (h : Consistent s) (hsyncs : s'.syncs = s.syncs)
    (hins : ∀ e ∈ s.timescale, e ∈ s'.timescale) (hlast : s.buffer.lastId ≤ s'.buffer.lastId)
    (hpend : ∀ r ∈ s'.buffer.pending, r ∈ s.buffer.pending ∨ s.buffer.lastId < r.id) :
    Consistent s' := by
  intro i
  rw [hsyncs]
  exact (h i).mono hins hlast hpend

theorem consistent_append {s : Failover} (h : Consistent s) (ticks : List Tick) :
    Consistent { s with buffer := (s.buffer.append ticks).1 } := by
  rcases append_cases s.buffer ticks with heq | ⟨stored, heq⟩
  · rw [heq]
    exact h
  · rw [heq]
    exact h.mono rfl (fun _ he => he) (Nat.le_add_right _ _) fun _ hr => mem_pending_insertRows hr

theorem consistent_insertMany {s : Failover} (h : Consistent s) (i : ℕ) (outcome : SetOutcome) :
    Consistent (s.insertMany i outcome) := by
  rw [Failover.insertMany]
  split
  · rename_i entries hi
    have hheld : Holds s (.inserting entries) := hi ▸ h i
    have hraised : ∀ s', Holds s' .raised :=
      fun _ => holds_of_held_nil rfl fun _ => Sync.noConfusion
    -- with the insert written first, the sync moves on in a consistent state
    have hwritten : Consistent { s with timescale := s.timescale ++ entries } :=
      h.mono rfl (fun _ he => List.mem_append_left _ he) le_rfl fun _ hr => .inl hr
    have hmarking : Holds { s with timescale := s.timescale ++ entries } (.marking entries) :=
      { inserted := by
          intro entries' heq e he
          cases heq
          exact List.mem_append_right _ he
        nodup := hheld.nodup
        bounded := hheld.bounded
        first := hheld.first }
    cases outcome with
    | done => exact hwritten.move hmarking
    | raised => exact h.move (hraised s)
    | raisedAfterWrite => exact hwritten.move (hraised _)
  · exact h

theorem consistent_markRead {s : Failover} (h : Consistent s) (i : ℕ) :
    Consistent (s.markRead i) := by
  rw [Failover.markRead]
  split
  · rename_i entries hi
    have hreturned : Holds s (.returned entries.length) :=
      holds_of_held_nil rfl fun _ => Sync.noConfusion
    have hmoved : Consistent (s.move i (.returned entries.length)) := h.move hreturned
    exact hmoved.mono rfl (fun _ he => he) le_rfl fun _ hr => .inl (mem_pending_markSynced hr)
  · exact h

theorem consistent_next (s : Failover) (op : FailoverOp) (h : Consistent s) :
    Consistent (failover.next s op) := by
  cases op with
  | append ticks => exact consistent_append h ticks
  | pending i =>
      have hnext : failover.next s (.pending i) = s.readPending i := rfl
      rw [hnext, Failover.readPending]
      split
      · split
        · exact h.move (holds_of_held_nil rfl fun _ => Sync.noConfusion)
        · exact h.move (holds_pending s)
      · exact h
  | insertMany i outcome => exact consistent_insertMany h i outcome
  | markSynced i => exact consistent_markRead h i

/-! ## What a step loses -/

/-- A row that is not pending is synced, so the marked rows decide. -/
theorem nothingLost_iff {s : Failover} :
    NothingLost s ↔ ∀ r ∈ s.buffer.rows, r.synced = true → r.entry ∈ s.timescale := by
  constructor
  · exact fun h => h.1
  · intro h
    refine ⟨h, ?_⟩
    intro r hr
    by_cases hsynced : r.synced = true
    · exact .inl (h r hr hsynced)
    · exact .inr (mem_pending.mpr ⟨hr, Bool.eq_false_iff.mpr hsynced⟩)

theorem nothingLost_append {s : Failover} (h : NothingLost s) (ticks : List Tick) :
    NothingLost { s with buffer := (s.buffer.append ticks).1 } := by
  rw [nothingLost_iff] at h ⊢
  rcases append_cases s.buffer ticks with heq | ⟨stored, heq⟩
  · rw [heq]
    exact h
  · rw [heq]
    intro r hr hsynced
    rcases List.mem_append.mp hr with hold | hnew
    · exact h r hold hsynced
    · -- a new row is not synced
      rw [(mem_newRows hnew).2.2] at hsynced
      cases hsynced

theorem nothingLost_markSynced_iff {s : Failover} (h : NothingLost s) {i : ℕ}
    {entries : List (ℕ × Tick)} (hi : s.syncs i = .marking entries)
    (hins : ∀ e ∈ entries, e ∈ s.timescale) :
    NothingLost (s.markRead i) ↔ MarksInserted s (.markSynced i) := by
  have hnext : s.markRead i = { s.move i (.returned entries.length) with
      buffer := s.buffer.markSynced entries.length } := by
    rw [Failover.markRead, hi]
  rw [nothingLost_iff, hnext]
  constructor
  · intro hgood entries' hi' r hr _
    rw [hi] at hi'
    cases hi'
    exact hgood { r with synced := true } (mem_markSynced hr) rfl
  · intro hmark r hr hsynced
    rcases synced_markSynced hr hsynced with ⟨q, hq, hentry, hq'⟩
    rw [← hentry]
    rcases hq' with hbefore | htouched
    · exact h.1 q hq hbefore
    · -- a row that this mark touches was read by its sync, or is in the database by the condition
      by_cases hread : q.entry ∈ entries
      · exact hins _ hread
      · exact hmark entries hi q htouched hread

theorem nothingLost_next_iff (s : Failover) (op : FailoverOp) (hinv : Consistent s)
    (h : NothingLost s) : NothingLost (failover.next s op) ↔ MarksInserted s op := by
  cases op with
  | append ticks => exact iff_of_true (nothingLost_append h ticks) trivial
  | pending i =>
      have hnext : failover.next s (.pending i) = s.readPending i := rfl
      refine iff_of_true ?_ trivial
      rw [hnext, Failover.readPending]
      split
      · split
        · exact h
        · exact h
      · exact h
  | insertMany i outcome =>
      have hnext : failover.next s (.insertMany i outcome) = s.insertMany i outcome := rfl
      refine iff_of_true ?_ trivial
      rw [nothingLost_iff] at h ⊢
      rw [hnext, Failover.insertMany]
      split
      · cases outcome with
        | done => exact fun r hr hsynced => List.mem_append_left _ (h r hr hsynced)
        | raised => exact h
        | raisedAfterWrite => exact fun r hr hsynced => List.mem_append_left _ (h r hr hsynced)
      · exact h
  | markSynced i =>
      have hnext : failover.next s (.markSynced i) = s.markRead i := rfl
      rw [hnext]
      by_cases hi : ∃ entries, s.syncs i = .marking entries
      · rcases hi with ⟨entries, hi⟩
        exact nothingLost_markSynced_iff h hi ((hinv i).inserted entries hi)
      · -- no sync has got that far, and nothing happens
        have hidle : s.markRead i = s := by
          rw [Failover.markRead]
          split
          · rename_i entries hmark
            exact absurd ⟨entries, hmark⟩ hi
          · rfl
        rw [hidle]
        exact iff_of_true h fun entries hmark => absurd ⟨entries, hmark⟩ hi

/-! ## Whole runs -/

/-- A tick of a symbol. -/
def tickOf (symbol : String) : Tick :=
  { time := "2026-07-02T09:15:00+00:00", symbol := symbol, exchange := "NSE", price := .zero
    volume := 1 }

/-- Two syncs read the same row; when the first is done a row is appended, which the mark of
the second touches. -/
def overlappingSyncs : List FailoverOp :=
  [.append [tickOf "INFY"], .pending 0, .pending 1, .insertMany 0 .done, .markSynced 0,
   .append [tickOf "TCS"], .insertMany 1 .done, .markSynced 1]

/-- As long as the rows that a sync has read are pending, they are the oldest ones, and its
mark touches nothing else. -/
theorem touched_subset_read {s : Failover} {phase : Sync} (h : Holds s phase)
    (hpending : ∀ e ∈ phase.held, ∃ r ∈ s.buffer.pending, r.entry = e) :
    ∀ r ∈ s.buffer.oldest phase.held.length, r.entry ∈ phase.held := by
  intro r hr
  by_contra hnot
  have hsplit := pending_increasing s.buffer
  rw [← List.take_append_drop phase.held.length s.buffer.pending, List.map_append,
    List.pairwise_append] at hsplit
  -- every row that was read comes before `r`, so it is touched as well
  have htouched : ∀ e ∈ phase.held, e ∈ (s.buffer.oldest phase.held.length).map Row.entry := by
    intro e he
    rcases hpending e he with ⟨q, hq, rfl⟩
    have hlt : q.id < r.id := h.first _ he r (List.mem_of_mem_take hr) hnot
    rw [← List.take_append_drop phase.held.length s.buffer.pending, List.mem_append] at hq
    rcases hq with hq | hq
    · exact List.mem_map_of_mem hq
    · have hgt := hsplit.2.2 r.id (List.mem_map_of_mem hr) q.id (List.mem_map_of_mem hq)
      omega
  -- that makes one row more than the mark touches
  have hsub : r.entry :: phase.held ⊆ (s.buffer.oldest phase.held.length).map Row.entry :=
    List.cons_subset.mpr ⟨List.mem_map_of_mem hr, htouched⟩
  have hlen := (List.subperm_of_subset (List.nodup_cons.mpr ⟨hnot, h.nodup⟩) hsub).length_le
  rw [List.length_cons, List.length_map, oldest, List.length_take] at hlen
  omega

/-- A sync marks while all the rows it has read are still pending. -/
def ReadStillPending (s : Failover) : FailoverOp → Prop
  | .markSynced i => ∀ e ∈ (s.syncs i).held, ∃ r ∈ s.buffer.pending, r.entry = e
  | _ => True

/-- Syncs that do not mark each other's rows lose nothing. -/
theorem nothing_lost_of_read_pending {ops : List FailoverOp}
    (h : ∀ t ∈ failover.trans .opening ops, ReadStillPending t.pre t.op) :
    ∀ t ∈ failover.trans .opening ops, NothingLost t.post := by
  have hopening : Consistent .opening ∧ NothingLost .opening :=
    ⟨consistent_opening, nothingLost_iff.mpr fun _ h => nomatch h⟩
  have hmarks : ∀ s op, Consistent s → ReadStillPending s op → MarksInserted s op := by
    intro s op hinv hread
    cases op with
    | append ticks => trivial
    | pending i => trivial
    | insertMany i outcome => trivial
    | markSynced i =>
        -- while its rows are pending, a mark touches only what its sync read
        intro entries hi r hr hnot
        have hphase : Holds s (.marking entries) := hi ▸ hinv i
        have hheld : ∀ e ∈ entries, ∃ r ∈ s.buffer.pending, r.entry = e := by
          have hread' : ∀ e ∈ (s.syncs i).held, ∃ r ∈ s.buffer.pending, r.entry = e := hread
          rw [hi] at hread'
          exact hread'
        exact absurd (touched_subset_read hphase hheld r hr) hnot
  have hkeeps : ∀ s op, Consistent s ∧ NothingLost s → ReadStillPending s op →
      Consistent (failover.next s op) ∧ NothingLost (failover.next s op) := by
    intro s op hs hread
    refine ⟨consistent_next s op hs.1, ?_⟩
    exact (nothingLost_next_iff s op hs.1 hs.2).mpr (hmarks s op hs.1 hread)
  intro t ht
  rcases failover.trans_invariant_of_allowed hkeeps hopening h t ht with ⟨hpre, hfire⟩
  rw [hfire]
  exact (hkeeps t.pre t.op hpre (h t ht)).2

/-! ## The rows are the appended ticks -/

/-- The ticks that an operation adds to the table. -/
def FailoverOp.stored : FailoverOp → List Tick
  | .append ticks => (ticks.mapM Tick.bind).toOption.getD []
  | _ => []

theorem newRows_ticks (lastId : ℕ) (ticks : List Tick) :
    (newRows lastId ticks).map Row.tick = ticks := by
  induction ticks generalizing lastId with
  | nil => rfl
  | cons t ts ih => rw [newRows, List.map_cons, ih]

theorem append_ticks (b : SQLiteFailoverBuffer) (ticks : List Tick) :
    (b.append ticks).1.rows.map Row.tick =
      b.rows.map Row.tick ++ (FailoverOp.append ticks).stored := by
  have hstored : (FailoverOp.append ticks).stored = (ticks.mapM Tick.bind).toOption.getD [] := rfl
  rw [hstored, append]
  split
  · rename_i hnil
    subst hnil
    exact (List.append_nil _).symm
  · cases ticks.mapM Tick.bind with
    | error e => exact (List.append_nil _).symm
    | ok stored =>
        have hrows : (b.insertRows stored).rows = b.rows ++ newRows b.lastId stored := rfl
        rw [hrows, List.map_append, newRows_ticks]
        rfl

theorem next_ticks (s : Failover) (op : FailoverOp) :
    (failover.next s op).buffer.rows.map Row.tick = s.buffer.rows.map Row.tick ++ op.stored := by
  cases op with
  | append ticks => exact append_ticks s.buffer ticks
  | pending i =>
      have hnext : failover.next s (.pending i) = s.readPending i := rfl
      have hrows : (s.readPending i).buffer = s.buffer := by
        unfold Failover.readPending
        split
        · split <;> rfl
        · rfl
      rw [hnext, hrows]
      exact (List.append_nil _).symm
  | insertMany i outcome =>
      have hnext : failover.next s (.insertMany i outcome) = s.insertMany i outcome := rfl
      have hrows : (s.insertMany i outcome).buffer = s.buffer := by
        unfold Failover.insertMany
        split
        · cases outcome <;> rfl
        · rfl
      rw [hnext, hrows]
      exact (List.append_nil _).symm
  | markSynced i =>
      have hnext : failover.next s (.markSynced i) = s.markRead i := rfl
      have hrows : (s.markRead i).buffer.rows.map Row.tick = s.buffer.rows.map Row.tick := by
        unfold Failover.markRead
        split
        · rename_i entries _
          have hmark : Row.tick ∘ markRow ((s.buffer.oldest entries.length).map Row.id) =
              Row.tick := by
            funext r
            exact markRow_tick _ r
          exact (List.map_map ..).trans (congrArg (List.map · s.buffer.rows) hmark)
        · rfl
      rw [hnext, hrows]
      exact (List.append_nil _).symm

/-- No step of a sync adds or removes a row. -/
theorem rows_are_appended (s : Failover) (ops : List FailoverOp) :
    (failover.run s ops).buffer.rows.map Row.tick =
      s.buffer.rows.map Row.tick ++ ops.flatMap FailoverOp.stored := by
  induction ops generalizing s with
  | nil => exact (List.append_nil _).symm
  | cons op ops ih =>
      have hrun : failover.run s (op :: ops) = failover.run (failover.next s op) ops := rfl
      rw [hrun, ih, next_ticks, List.flatMap_cons, List.append_assoc]

end Intraday.Storage
