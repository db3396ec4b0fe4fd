import Mathlib.Logic.Function.Basic
import Intraday.Lib.Dict

/-!
# Intraday.Lib.RedisStore — string keys that expire, and streams

The part of a Redis server that the publishers and their readers share. A string key may
carry a deadline, in milliseconds of the server's clock; it is gone once the clock is past
its deadline, not before. A stream is the list of its entries, the newest last; an entry is
a dictionary of fields under an id that the server makes from its clock.

String keys and streams are kept apart: no key is used as both.
-/

namespace Intraday.Lib.RedisStore

/-- A string key: its value, and when it expires. -/
structure Cell where
  value : ByteArray
  deadline : Option ℕ

/-- The id `<ms>-<seq>` of a stream entry. -/
structure EntryId where
  ms : ℕ
  seq : ℕ
deriving DecidableEq, Repr

/-- The id as a client sees it. -/
def EntryId.text (id : EntryId) : String := Nat.repr id.ms ++ "-" ++ Nat.repr id.seq

theorem toDigits_injective : Function.Injective (Nat.toDigits 10) := by
  intro m n hdigits
  simpa using congrArg (Nat.ofDigitChars 10 · 0) hdigits

/-- An id is known by its text. -/
theorem EntryId.text_injective : Function.Injective EntryId.text := by
  intro a b h
  have hlist : Nat.toDigits 10 a.ms ++ '-' :: Nat.toDigits 10 a.seq =
      Nat.toDigits 10 b.ms ++ '-' :: Nat.toDigits 10 b.seq := by
    have htext := congrArg String.toList h
    simpa [EntryId.text] using htext
  -- the first hyphen is the one between the numbers
  have hhyphen : ∀ n, '-' ∉ Nat.toDigits 10 n := by
    intro n hmem
    exact absurd (Nat.isDigit_of_mem_toDigits (by omega) (by omega) hmem) (by decide)
  have hfront : ∀ (n : ℕ) (rest : List Char),
      (Nat.toDigits 10 n ++ '-' :: rest).takeWhile (· ≠ '-') = Nat.toDigits 10 n := by
    intro n rest
    rw [List.takeWhile_append_of_pos]
    · simp
    · intro c hc
      exact decide_eq_true fun heq => hhyphen n (heq ▸ hc)
  have hms : Nat.toDigits 10 a.ms = Nat.toDigits 10 b.ms := by
    rw [← hfront a.ms (Nat.toDigits 10 a.seq), hlist, hfront]
  rw [hms] at hlist
  have hseq := (List.cons.inj (List.append_cancel_left hlist)).2
  exact congrArg₂ EntryId.mk (toDigits_injective hms) (toDigits_injective hseq)

/-- The order of ids. -/
def EntryId.Before (a b : EntryId) : Prop := a.ms < b.ms ∨ a.ms = b.ms ∧ a.seq < b.seq

instance (a b : EntryId) : Decidable (a.Before b) := inferInstanceAs (Decidable (_ ∨ _))

/-- The fields of a stream entry. -/
abbrev Fields := Dict String ByteArray

/-- An entry of a stream. -/
structure Entry where
  id : EntryId
  fields : Fields

/-- The server: its clock, its string keys and its streams. -/
structure Store where
  nowMs : ℕ
  strings : String → Option Cell
  streams : String → List Entry

namespace Store

variable {s : Store} {key stream : String}

/-- `EXISTS key`: it was set and has not expired. -/
def exists? (s : Store) (key : String) : Bool :=
  (s.strings key).any fun cell => cell.deadline.all fun d => decide (s.nowMs ≤ d)

/-- `GET key`. -/
def get (s : Store) (key : String) : Option ByteArray :=
  if s.exists? key then (s.strings key).map (·.value) else none

/-- `SET key value EX seconds`. -/
def setEx (s : Store) (key : String) (value : ByteArray) (seconds : ℕ) : Store :=
  { s with
    strings := Function.update s.strings key
      (some { value := value, deadline := some (s.nowMs + 1000 * seconds) }) }

/-- `SET key value`, or `DEL key` for `none`. -/
def put (s : Store) (key : String) (value : Option ByteArray) : Store :=
  { s with
    strings := Function.update s.strings key
      (value.map fun v => { value := v, deadline := none }) }

/-- The id that `XADD key *` makes after the entries so far. -/
def nextId (s : Store) (stream : String) : EntryId :=
  match (s.streams stream).getLast? with
  | none => { ms := s.nowMs, seq := 0 }
  | some last =>
      if last.id.ms < s.nowMs then { ms := s.nowMs, seq := 0 }
      else { ms := last.id.ms, seq := last.id.seq + 1 }

/-- `XADD key * fields`. -/
def xadd (s : Store) (stream : String) (fields : Fields) : Store :=
  { s with
    streams := Function.update s.streams stream
      (s.streams stream ++ [{ id := s.nextId stream, fields := fields }]) }

/-- `XADD key MAXLEN ~ maxlen * fields`: the server may drop the oldest entries, `evicted` of
them, as long as `maxlen` remain. -/
def xaddMaxlen (s : Store) (stream : String) (maxlen evicted : ℕ) (fields : Fields) : Store :=
  let entries := s.streams stream ++ [{ id := s.nextId stream, fields := fields }]
  { s with
    streams := Function.update s.streams stream
      (entries.drop (min evicted (entries.length - maxlen))) }

/-- `XREVRANGE key + - COUNT n`. -/
def xrevrange (s : Store) (stream : String) (count : ℕ) : List Entry :=
  (s.streams stream).reverse.take count

/-- The id of the newest entry, which is what `$` stands for when `XREAD` is called. -/
def lastId (s : Store) (stream : String) : Option EntryId :=
  (s.streams stream).getLast?.map (·.id)

/-- The entries that `XREAD COUNT n STREAMS key id` finds; `none` stands for `0-0`. -/
def xread (s : Store) (stream : String) (after : Option EntryId) (count : ℕ) : List Entry :=
  ((s.streams stream).filter fun e => after.all fun id => decide (id.Before e.id)).take count

/-- The clock moves on. -/
def advance (s : Store) (ms : ℕ) : Store := { s with nowMs := s.nowMs + ms }

/-- A key with a deadline is there up to it. -/
theorem exists?_of_deadline {value : ByteArray} {d : ℕ}
    (h : s.strings key = some { value := value, deadline := some d }) :
    s.exists? key = decide (s.nowMs ≤ d) := by
  simp [exists?, h]

theorem exists_cell_of_exists? (h : s.exists? key = true) :
    ∃ cell, s.strings key = some cell ∧ ∀ d, cell.deadline = some d → s.nowMs ≤ d := by
  rw [exists?, Option.any_eq_true] at h
  rcases h with ⟨cell, hcell, hlive⟩
  refine ⟨cell, hcell, ?_⟩
  intro d hd
  simpa [hd] using hlive

/-- A key that was just written is there, one that was just deleted is not. -/
theorem exists?_put (s : Store) (key : String) (value : Option ByteArray) :
    (s.put key value).exists? key = value.isSome := by
  cases value <;> simp [exists?, put]

/-- A read depends on the clock and on its own key. -/
theorem get_congr {s' : Store} (hnow : s.nowMs = s'.nowMs)
    (hcell : s.strings key = s'.strings key) : s.get key = s'.get key := by
  have hexists : s.exists? key = s'.exists? key := by
    rw [exists?, exists?, hnow, hcell]
  rw [get, get, hexists, hcell]

/-- A value is read until its deadline, so certainly at once. -/
@[simp] theorem get_setEx_self (s : Store) (key : String) (value : ByteArray) (seconds : ℕ) :
    (s.setEx key value seconds).get key = some value := by
  simp [get, exists?, setEx]

/-- The same until its deadline. -/
theorem get_advance_setEx_self (s : Store) (key : String) (value : ByteArray) {seconds ms : ℕ}
    (h : ms ≤ 1000 * seconds) : ((s.setEx key value seconds).advance ms).get key = some value := by
  simp [get, exists?, setEx, advance, h]

theorem get_setEx_of_ne (s : Store) {key key' : String} (value : ByteArray) (seconds : ℕ)
    (h : key' ≠ key) : (s.setEx key value seconds).get key' = s.get key' :=
  get_congr rfl (Function.update_of_ne h _ _)

@[simp] theorem get_put_self (s : Store) (key : String) (value : Option ByteArray) :
    (s.put key value).get key = value := by
  cases value <;> simp [get, exists?, put]

theorem get_put_of_ne (s : Store) {key key' : String} (value : Option ByteArray)
    (h : key' ≠ key) : (s.put key value).get key' = s.get key' :=
  get_congr rfl (Function.update_of_ne h _ _)

/-- Time only takes values away. -/
theorem get_of_advance {ms : ℕ} {value : ByteArray} (h : (s.advance ms).get key = some value) :
    s.get key = some value := by
  rw [get] at h ⊢
  split at h
  · rename_i hlater
    rcases exists_cell_of_exists? hlater with ⟨cell, hcell, hdeadline⟩
    have hcell : s.strings key = some cell := hcell
    have hnow : s.exists? key = true := by
      rw [exists?, hcell, Option.any_some, Option.all_eq_true]
      intro d hd
      have hle := hdeadline d hd
      have hadvance : (s.advance ms).nowMs = s.nowMs + ms := rfl
      exact decide_eq_true (by omega)
    rw [if_pos hnow]
    exact h
  · cases h

@[simp] theorem xadd_streams_self (fields : Fields) :
    (s.xadd stream fields).streams stream =
      s.streams stream ++ [{ id := s.nextId stream, fields := fields }] :=
  Function.update_self ..

/-- The ids of a stream grow, as the server makes them. -/
def Ordered (entries : List Entry) : Prop := entries.Pairwise fun e e' => e.id.Before e'.id

/-- In a list with growing ids, what comes after the last of some first elements is the
rest. -/
theorem filter_before_of_getLast? {α : Type} {key : α → EntryId} {front rest : List α}
    {id : EntryId} (hordered : (front ++ rest).Pairwise fun x y => (key x).Before (key y))
    (hlast : front.getLast?.map key = some id) :
    (front ++ rest).filter (fun x => decide (id.Before (key x))) = rest := by
  rw [Option.map_eq_some_iff] at hlast
  rcases hlast with ⟨last, hlast, rfl⟩
  rcases List.getLast?_eq_some_iff.mp hlast with ⟨init, rfl⟩
  rw [List.pairwise_append, List.pairwise_append] at hordered
  rcases hordered with ⟨⟨-, -, hinit⟩, -, hrest⟩
  have hnone : (init ++ [last]).filter (fun x => decide ((key last).Before (key x))) = [] := by
    rw [List.filter_eq_nil_iff]
    intro x hx
    rw [decide_eq_true_eq]
    rcases List.mem_append.mp hx with hx | hx
    · have hbefore := hinit x hx last (List.mem_singleton_self _)
      simp only [EntryId.Before] at hbefore ⊢
      omega
    · rw [List.mem_singleton.mp hx]
      simp [EntryId.Before]
  have hall : rest.filter (fun x => decide ((key last).Before (key x))) = rest := by
    rw [List.filter_eq_self]
    intro x hx
    rw [decide_eq_true_eq]
    exact hrest last (List.mem_append_right _ (List.mem_singleton_self _)) x hx
  rw [List.filter_append, hnone, hall, List.nil_append]

/-- The id of a new entry comes after all ids of the stream. -/
theorem before_nextId (hordered : Ordered (s.streams stream)) {e : Entry}
    (he : e ∈ s.streams stream) : e.id.Before (s.nextId stream) := by
  cases hlast : (s.streams stream).getLast? with
  | none => simp [List.getLast?_eq_none_iff.mp hlast] at he
  | some last =>
      rcases List.getLast?_eq_some_iff.mp hlast with ⟨init, hinit⟩
      rw [hinit, Ordered, List.pairwise_append] at hordered
      have hle : e = last ∨ e.id.Before last.id := by
        rw [hinit, List.mem_append, List.mem_singleton] at he
        rcases he with he | he
        · exact Or.inr (hordered.2.2 e he last (List.mem_singleton_self _))
        · exact Or.inl he
      -- the new id is later than the last one, by its time or by its number
      have hnext : last.id.Before (s.nextId stream) := by
        rw [nextId, hlast, EntryId.Before]
        by_cases hnow : last.id.ms < s.nowMs <;> simp [hnow]
      rcases hle with rfl | hbefore
      · exact hnext
      · simp only [EntryId.Before] at hbefore hnext ⊢
        omega

theorem ordered_xadd (hordered : Ordered (s.streams stream)) (fields : Fields) :
    Ordered ((s.xadd stream fields).streams stream) := by
  rw [xadd_streams_self, Ordered, List.pairwise_append]
  refine ⟨hordered, List.pairwise_singleton _ _, ?_⟩
  intro e he e' he'
  rw [List.mem_singleton.mp he']
  exact before_nextId hordered he

/-- A read that found nothing finds the next entry when it comes. -/
theorem xread_xadd_of_nil (hordered : Ordered (s.streams stream)) {after : Option EntryId}
    {count : ℕ} (hcount : 0 < count)
    (hafter : ∀ id, after = some id → ∃ e ∈ s.streams stream, e.id = id)
    (hnil : s.xread stream after count = []) (fields : Fields) :
    (s.xadd stream fields).xread stream after count =
      [{ id := s.nextId stream, fields := fields }] := by
  have hnew : (after.all fun id => decide (id.Before (s.nextId stream))) = true := by
    rw [Option.all_eq_true]
    intro id hid
    rcases hafter id hid with ⟨e, he, rfl⟩
    exact decide_eq_true (before_nextId hordered he)
  have hold : (s.streams stream).filter
      (fun e => after.all fun id => decide (id.Before e.id)) = [] := by
    rw [xread, List.take_eq_nil_iff] at hnil
    exact hnil.resolve_left (Nat.pos_iff_ne_zero.mp hcount)
  rw [xread, xadd_streams_self, List.filter_append, hold, List.nil_append, List.filter_cons,
    if_pos hnew, List.filter_nil, List.take_of_length_le (Nat.succ_le_of_lt hcount)]

/-- An appended entry is the newest. -/
theorem xrevrange_xadd (fields : Fields) :
    (s.xadd stream fields).xrevrange stream 1 = [{ id := s.nextId stream, fields := fields }] := by
  simp [xrevrange]

/-- Trimming to a positive length keeps the newest entry. -/
theorem xrevrange_xaddMaxlen {maxlen : ℕ} (hmaxlen : 0 < maxlen) (evicted : ℕ) (fields : Fields) :
    (s.xaddMaxlen stream maxlen evicted fields).xrevrange stream 1 =
      [{ id := s.nextId stream, fields := fields }] := by
  have hle : min evicted ((s.streams stream).length + 1 - maxlen) ≤ (s.streams stream).length := by
    omega
  simp only [xrevrange, xaddMaxlen, Function.update_self, List.length_append,
    List.length_singleton]
  rw [List.drop_append_of_le_length hle]
  simp

end Store

end Intraday.Lib.RedisStore
