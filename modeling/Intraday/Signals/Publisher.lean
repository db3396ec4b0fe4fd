import Mathlib.Data.List.Induction
import Intraday.Core.Constants
import Intraday.Lib.Machine
import Intraday.Lib.RedisStore

/-!
# Intraday.Signals.Publisher — `signal_dedup.lua` and `shared/signals/publisher.py`

Any number of publishers share one Redis. `publish` turns a generated result into a message
and runs the script, which tests the halted flag and the dedup key, sets the key for the
publisher's window and appends the message, all in one step. `SerializeToString` is a
parameter.

The dedup key is the memory of the last append: as long as it lives no signal with that key
is appended, and it comes from an append only.
-/

namespace Intraday.Signals

open Intraday.Core Intraday.Lib Intraday.Lib.RedisStore

/-! ## Messages -/

/-- `SignalResult`, as far as a publisher reads it. -/
structure SignalResult where
  generated : Bool
  symbol : String
  exchange : String
  direction : String
  confidence : ℚ
  entryPrice : ℚ
  stopLoss : ℚ
  target1 : ℚ
  target2 : ℚ
  atr : ℚ
  strategyId : String
  confirmingIndicators : List String
  confirmingTimeframes : List String
  candlestickPattern : String
  regime : String
deriving DecidableEq, Repr

/-- The message `SignalGenerated`. -/
structure SignalGenerated where
  signalId : String
  symbol : String
  exchange : String
  direction : String
  confidence : ℚ
  entryPrice : ℚ
  stopLoss : ℚ
  target1 : ℚ
  target2 : ℚ
  atr : ℚ
  confirmingIndicators : List String
  confirmingTimeframes : List String
  candlestickPattern : String
  strategyId : String
  generatedAtMs : ℤ
  expiresAtMs : ℤ
  regime : String
deriving DecidableEq, Repr

/-- `_build_proto`, with the id and the clock it draws. -/
def buildProto (result : SignalResult) (signalId : String) (nowMs : ℤ) : SignalGenerated :=
  { signalId := signalId
    symbol := result.symbol
    exchange := result.exchange
    direction := result.direction
    confidence := result.confidence
    entryPrice := result.entryPrice
    stopLoss := result.stopLoss
    target1 := result.target1
    target2 := result.target2
    atr := result.atr
    confirmingIndicators := result.confirmingIndicators
    confirmingTimeframes := result.confirmingTimeframes
    candlestickPattern := result.candlestickPattern
    strategyId := String.ofList (result.strategyId.toList.take 8)
    generatedAtMs := nowMs
    expiresAtMs := nowMs + signalExpiryMinutes * 60 * 1000
    regime := result.regime }

/-- The key under which a signal is remembered. -/
def dedupKey (symbol direction : String) : String :=
  "signal:dedup:" ++ symbol ++ ":" ++ direction

/-! ## The script -/

/-- What `signal_dedup.lua` returns. -/
inductive DedupReply where
  | published (entryId : EntryId)
  | halted
  | duplicate
deriving DecidableEq, Repr

/-- `halted == 'true'`. -/
def halted (s : Store) : Bool := s.get killSwitchHaltedKey == some "true".toByteArray

/-- The fields of a published entry. -/
def dataFields (payload : ByteArray) : Fields := Dict.empty.set "data" payload

/-- `signal_dedup.lua`. -/
def signalDedup (s : Store) (dedupKey streamKey : String) (ttlSecs : ℕ) (payload : ByteArray) :
    Store × DedupReply :=
  if halted s then (s, .halted)
  else if s.exists? dedupKey then (s, .duplicate)
  else
    let s := s.setEx dedupKey "1".toByteArray ttlSecs
    (s.xadd streamKey (dataFields payload), .published (s.nextId streamKey))

/-! ## The publisher -/

/-- `SignalPublisher` on the signals stream. `SET … EX` takes positive windows only. -/
structure SignalPublisher where
  dedupWindow : ℕ
  dedupWindow_pos : 0 < dedupWindow

/-- What `publish` returns: the id of the entry, or `None` for one of three reasons. -/
inductive PublishReply where
  | published (entryId : EntryId)
  | halted
  | duplicate
  | notGenerated
deriving DecidableEq, Repr

/-- One call of `publish`, with what it draws. -/
structure Attempt where
  publisher : SignalPublisher
  result : SignalResult
  signalId : String
  nowMs : ℤ

/-- The dedup key of an attempt. -/
def Attempt.key (a : Attempt) : String := dedupKey a.result.symbol a.result.direction

variable (serialize : SignalGenerated → ByteArray)

/-- The serialised message of an attempt. -/
def Attempt.payload (a : Attempt) : ByteArray :=
  serialize (buildProto a.result a.signalId a.nowMs)

/-- `publish`. -/
def publish (s : Store) (a : Attempt) : Store × PublishReply :=
  if !a.result.generated then (s, .notGenerated)
  else
    match signalDedup s a.key signalRedisStream a.publisher.dedupWindow (a.payload serialize) with
    | (s', .published entryId) => (s', .published entryId)
    | (s', .halted) => (s', .halted)
    | (s', .duplicate) => (s', .duplicate)

/-- What may happen to the server: a publish, a change of the halted flag, the passing of
time. -/
inductive Op where
  | publish (a : Attempt)
  | setHalted (value : Option ByteArray)
  | advance (ms : ℕ)

/-- The server that the publishers share. -/
def signals : Machine Store Op (Option PublishReply) where
  step s
    | .publish a => ((publish serialize s a).1, some (publish serialize s a).2)
    | .setHalted value => (s.put killSwitchHaltedKey value, none)
    | .advance ms => (s.advance ms, none)

/-- A server without dedup keys: a clock, a halted flag and a stream of earlier entries. -/
def opening (nowMs : ℕ) (haltedFlag : Option ByteArray) (entries : List Entry) : Store :=
  { nowMs := nowMs
    strings := Function.update (fun _ => none) killSwitchHaltedKey
      (haltedFlag.map fun v => { value := v, deadline := none })
    streams := Function.update (fun _ => []) signalRedisStream entries }

/-! ## One step -/

variable {serialize} {s : Store} {a a' : Attempt} {op : Op}

/-- The attempt passes both tests of the script. -/
def Accepts (s : Store) (a : Attempt) : Prop :=
  a.result.generated = true ∧ halted s = false ∧ s.exists? a.key = false

theorem publish_of_accepts (h : Accepts s a) :
    (publish serialize s a).1 =
      (s.setEx a.key "1".toByteArray a.publisher.dedupWindow).xadd signalRedisStream
        (dataFields (a.payload serialize)) := by
  rcases h with ⟨hgen, hhalted, hexists⟩
  simp [publish, signalDedup, hgen, hhalted, hexists]

theorem publish_of_not_accepts (h : ¬ Accepts s a) : (publish serialize s a).1 = s := by
  cases hgen : a.result.generated with
  | false => simp [publish, hgen]
  | true =>
  cases hhalted : halted s with
  | true => simp [publish, signalDedup, hgen, hhalted]
  | false =>
  cases hexists : s.exists? a.key with
  | true => simp [publish, signalDedup, hgen, hhalted, hexists]
  | false => exact absurd ⟨hgen, hhalted, hexists⟩ h

/-- Everything a step can do. -/
theorem next_cases (serialize : SignalGenerated → ByteArray) (s : Store) (op : Op) :
    (∃ a, op = .publish a ∧ Accepts s a ∧ (signals serialize).next s op =
      (s.setEx a.key "1".toByteArray a.publisher.dedupWindow).xadd signalRedisStream
        (dataFields (a.payload serialize))) ∨
    (∃ a, op = .publish a ∧ ¬ Accepts s a ∧ (signals serialize).next s op = s) ∨
    (∃ value, (signals serialize).next s op = s.put killSwitchHaltedKey value) ∨
    ∃ ms, (signals serialize).next s op = s.advance ms := by
  cases op with
  | publish a =>
      by_cases h : Accepts s a
      · exact .inl ⟨a, rfl, h, publish_of_accepts h⟩
      · exact .inr (.inl ⟨a, rfl, h, publish_of_not_accepts h⟩)
  | setHalted value => exact .inr (.inr (.inl ⟨value, rfl⟩))
  | advance ms => exact .inr (.inr (.inr ⟨ms, rfl⟩))

/-- The transition is the attempt `a`, and appends one entry to the signals stream. -/
def Appended (t : Trans Store Op (Option PublishReply)) (a : Attempt) : Prop :=
  t.op = .publish a ∧
    ∃ entry, t.post.streams signalRedisStream = t.pre.streams signalRedisStream ++ [entry]

/-- The end of the window that an append opens. -/
def windowEnd (t : Trans Store Op (Option PublishReply)) (a : Attempt) : ℕ :=
  t.pre.nowMs + 1000 * a.publisher.dedupWindow

theorem appended_fire_iff :
    Appended ((signals serialize).fire s op) a ↔ op = .publish a ∧ Accepts s a := by
  constructor
  · rintro ⟨hop, entry, hentry⟩
    change op = .publish a at hop
    subst hop
    refine ⟨rfl, ?_⟩
    by_contra h
    -- a stream is not its own extension
    change (publish serialize s a).1.streams _ = s.streams _ ++ [entry] at hentry
    rw [publish_of_not_accepts h] at hentry
    simp at hentry
  · rintro ⟨rfl, h⟩
    refine ⟨rfl, { id := s.nextId signalRedisStream
                   fields := dataFields (a.payload serialize) }, ?_⟩
    change (publish serialize s a).1.streams _ = _
    rw [publish_of_accepts h, Store.xadd_streams_self]
    rfl

/-- A step that appends nothing leaves the stream as it is. -/
theorem next_streams (h : ¬ ∃ a, op = .publish a ∧ Accepts s a) :
    ((signals serialize).next s op).streams = s.streams := by
  rcases next_cases serialize s op with ⟨a, hop, hacc, -⟩ | ⟨a, -, -, heq⟩ | ⟨v, heq⟩ | ⟨ms, heq⟩
  · exact absurd ⟨a, hop, hacc⟩ h
  · rw [heq]
  · rw [heq]
    rfl
  · rw [heq]
    rfl

/-! ## What a dedup key remembers -/

variable {key : String} {d : ℕ}

theorem getElem?_toList_append {p rest : String} {c : Char} {i : ℕ} (hp : p.toList[i]? = some c) :
    (p ++ rest).toList[i]? = some c := by
  rw [String.toList_append, List.getElem?_append_left (List.getElem?_eq_some_iff.mp hp).1, hp]

/-- Already the second characters differ. -/
theorem dedupKey_ne_halted (symbol direction : String) :
    dedupKey symbol direction ≠ killSwitchHaltedKey := by
  intro h
  have hchar : (dedupKey symbol direction).toList[1]? = some 'i' :=
    getElem?_toList_append (getElem?_toList_append (getElem?_toList_append (by decide)))
  rw [h] at hchar
  revert hchar
  decide

/-- The key is set, at least up to `d`. -/
def Guarded (key : String) (d : ℕ) (s : Store) : Prop :=
  ∃ value d', s.strings key = some { value := value, deadline := some d' } ∧ d ≤ d'

/-- The key is only set again after its deadline, and then to a later one. -/
theorem next_guarded (hkey : key ≠ killSwitchHaltedKey) (h : Guarded key d s) (op : Op) :
    Guarded key d ((signals serialize).next s op) := by
  rcases h with ⟨value, d', hcell, hle⟩
  rcases next_cases serialize s op with ⟨a, -, hacc, heq⟩ | ⟨a, -, -, heq⟩ | ⟨v, heq⟩ | ⟨ms, heq⟩
  · rw [heq]
    by_cases hsame : key = a.key
    · have hpast : d' < s.nowMs := by
        have hexists := hacc.2.2
        rw [← hsame, Store.exists?_of_deadline hcell] at hexists
        simpa using hexists
      refine ⟨"1".toByteArray, s.nowMs + 1000 * a.publisher.dedupWindow, ?_, by omega⟩
      rw [hsame]
      exact Function.update_self ..
    · exact ⟨value, d', (Function.update_of_ne hsame _ _).trans hcell, hle⟩
  · rw [heq]
    exact ⟨value, d', hcell, hle⟩
  · rw [heq]
    exact ⟨value, d', (Function.update_of_ne hkey _ _).trans hcell, hle⟩
  · rw [heq]
    exact ⟨value, d', hcell, hle⟩

theorem guarded_of_accepts (h : Accepts s a) :
    Guarded a.key (s.nowMs + 1000 * a.publisher.dedupWindow)
      ((signals serialize).next s (.publish a)) := by
  refine ⟨"1".toByteArray, s.nowMs + 1000 * a.publisher.dedupWindow, ?_, le_rfl⟩
  change (publish serialize s a).1.strings a.key = _
  rw [publish_of_accepts h]
  exact Function.update_self ..

/-- Nothing with the key is accepted before the deadline is over. -/
theorem lt_now_of_accepts (h : Guarded a.key d s) (hacc : Accepts s a) : d < s.nowMs := by
  rcases h with ⟨value, d', hcell, hle⟩
  have hexists := hacc.2.2
  rw [Store.exists?_of_deadline hcell, decide_eq_false_iff_not] at hexists
  omega

/-- A dedup key that is there was set by an append of the run. -/
theorem exists_append_of_cell {nowMs : ℕ} {haltedFlag : Option ByteArray} {entries : List Entry}
    (hkey : key ≠ killSwitchHaltedKey) (ops : List Op) {cell : Cell}
    (h : ((signals serialize).run (opening nowMs haltedFlag entries) ops).strings key = some cell) :
    ∃ t ∈ (signals serialize).trans (opening nowMs haltedFlag entries) ops, ∃ a,
      Appended t a ∧ a.key = key ∧ cell.deadline = some (windowEnd t a) := by
  induction ops using List.reverseRecOn generalizing cell with
  | nil =>
      change Function.update (fun _ => none) killSwitchHaltedKey _ key = some cell at h
      rw [Function.update_of_ne hkey] at h
      exact nomatch h
  | append_singleton ops op ih =>
      rw [Machine.run_append] at h
      rw [Machine.trans_append]
      set s := (signals serialize).run (opening nowMs haltedFlag entries) ops with hs
      change ((signals serialize).next s op).strings key = some cell at h
      -- either this step set the key, or it was there before
      by_cases hnew : ∃ a, op = .publish a ∧ Accepts s a ∧ a.key = key
      · rcases hnew with ⟨a, rfl, hacc, hsame⟩
        refine ⟨(signals serialize).fire s (.publish a), List.mem_append_right _ (by simp), a,
          appended_fire_iff.mpr ⟨rfl, hacc⟩, hsame, ?_⟩
        change (publish serialize s a).1.strings key = some cell at h
        rw [publish_of_accepts hacc, ← hsame] at h
        have hself := (Function.update_self ..).symm.trans h
        rw [← Option.some.inj hself]
        rfl
      · have hold : s.strings key = some cell := by
          rcases next_cases serialize s op with
            ⟨a, hop, hacc, heq⟩ | ⟨a, -, -, heq⟩ | ⟨v, heq⟩ | ⟨ms, heq⟩
          · have hne : key ≠ a.key := fun hsame => hnew ⟨a, hop, hacc, hsame.symm⟩
            rw [heq] at h
            exact (Function.update_of_ne hne _ _).symm.trans h
          · rwa [heq] at h
          · rw [heq] at h
            exact (Function.update_of_ne hkey _ _).symm.trans h
          · rwa [heq] at h
        rcases ih hold with ⟨t, ht, a, happ, hsame, hdeadline⟩
        exact ⟨t, List.mem_append_left _ ht, a, happ, hsame, hdeadline⟩

/-- An attempt that no earlier append of the run forestalls is accepted. -/
theorem accepts_of_fresh {nowMs : ℕ} {haltedFlag : Option ByteArray} {entries : List Entry}
    {ops : List Op} (hs : s = (signals serialize).run (opening nowMs haltedFlag entries) ops)
    (hgen : a.result.generated = true) (hhalted : halted s = false)
    (hfresh : ¬ ∃ b ∈ (signals serialize).trans (opening nowMs haltedFlag entries) ops, ∃ a',
      Appended b a' ∧ a'.key = a.key ∧ s.nowMs ≤ windowEnd b a') : Accepts s a := by
  refine ⟨hgen, hhalted, ?_⟩
  by_contra hlive
  rw [Bool.not_eq_false] at hlive
  rcases Store.exists_cell_of_exists? hlive with ⟨cell, hcell, hdeadline⟩
  rw [hs] at hcell
  rcases exists_append_of_cell (dedupKey_ne_halted _ _) ops hcell with
    ⟨b, hb, a', happ, hsame, hend⟩
  exact hfresh ⟨b, hb, a', happ, hsame, hdeadline _ hend⟩

/-- The key stays guarded from an append to any later state. -/
theorem run_guarded (h : Accepts s a) (ops : List Op) :
    Guarded a.key (s.nowMs + 1000 * a.publisher.dedupWindow)
      ((signals serialize).run ((signals serialize).next s (.publish a)) ops) := by
  have hstep : ∀ s' op, Guarded a.key (s.nowMs + 1000 * a.publisher.dedupWindow) s' →
      Guarded a.key (s.nowMs + 1000 * a.publisher.dedupWindow)
        ((signals serialize).next s' op) := fun s' op hs' =>
    next_guarded (dedupKey_ne_halted _ _) hs' op
  exact (signals serialize).run_invariant hstep (guarded_of_accepts h) ops

/-- Nothing is accepted in the window that an earlier append with the same key opened. -/
theorem not_accepts_of_open {s₀ : Store} {ops : List Op}
    {p m q : List (Trans Store Op (Option PublishReply))}
    {b t : Trans Store Op (Option PublishReply)}
    (hrun : (signals serialize).trans s₀ ops = p ++ b :: (m ++ t :: q)) (happ : Appended b a')
    (hkey : a'.key = a.key) (hopen : t.pre.nowMs ≤ windowEnd b a') : ¬ Accepts t.pre a := by
  rcases (signals serialize).trans_eq_append_cons hrun with ⟨ops₁, op, rest, rfl, -, rfl, hrest⟩
  rcases (signals serialize).trans_eq_append_cons hrest.symm with
    ⟨ops₂, op', ops₃, rfl, rfl, rfl, -⟩
  rcases appended_fire_iff.mp happ with ⟨rfl, hacc⟩
  intro hacc'
  have hguard := @run_guarded serialize _ _ hacc ops₂
  rw [hkey] at hguard
  exact absurd (lt_now_of_accepts hguard hacc') (not_lt.mpr hopen)

/-- De-duplication over a run: nothing is appended while halted; two appends with one key are
more than the first one's window apart; an attempt that is neither halted nor a duplicate
appends its message once; and an attempt that appends nothing changes nothing. -/
theorem signals_deduplicated (serialize : SignalGenerated → ByteArray) (nowMs : ℕ)
    (haltedFlag : Option ByteArray) (entries : List Entry) (ops : List Op) :
    let run := (signals serialize).trans (opening nowMs haltedFlag entries) ops
    (∀ t ∈ run, halted t.pre = true →
      t.post.streams signalRedisStream = t.pre.streams signalRedisStream) ∧
    (∀ before t mid t' after a a', run = before ++ t :: (mid ++ t' :: after) →
      Appended t a → Appended t' a' → a.key = a'.key → windowEnd t a < t'.pre.nowMs) ∧
    (∀ before t after a, run = before ++ t :: after → t.op = .publish a →
      a.result.generated = true → halted t.pre = false →
      (¬ ∃ b ∈ before, ∃ a', Appended b a' ∧ a'.key = a.key ∧ t.pre.nowMs ≤ windowEnd b a') →
      t.post.streams signalRedisStream = t.pre.streams signalRedisStream ++
        [{ id := t.pre.nextId signalRedisStream, fields := dataFields (a.payload serialize) }]) ∧
    ∀ t ∈ run, ∀ a, t.op = .publish a → ¬ Appended t a → t.post = t.pre := by
  intro run
  have hfire : ∀ t ∈ run, t = (signals serialize).fire t.pre t.op :=
    fun _ ht => (signals serialize).trans_fire ht
  refine ⟨?_, ?_, ?_, ?_⟩
  · intro t ht hhalted
    rw [hfire t ht]
    refine congrFun (next_streams ?_) _
    rintro ⟨a, -, hacc⟩
    exact Bool.false_ne_true (hacc.2.1.symm.trans hhalted)
  · intro before t mid t' after a a' hrun happ happ' hkey
    have hacc' : Accepts t'.pre a' := by
      have ht' : t' ∈ run := by
        rw [hrun]
        simp
      rw [hfire t' ht'] at happ'
      exact (appended_fire_iff.mp happ').2
    by_contra hopen
    exact not_accepts_of_open hrun happ hkey (not_lt.mp hopen) hacc'
  · intro before t after a hrun hop hgen hhalted hfresh
    rcases (signals serialize).trans_eq_append_cons hrun with ⟨ops₁, op, ops₂, -, rfl, rfl, -⟩
    obtain rfl : op = .publish a := hop
    have hacc := accepts_of_fresh rfl hgen hhalted hfresh
    change (publish serialize _ a).1.streams _ = _
    rw [publish_of_accepts hacc, Store.xadd_streams_self]
    rfl
  · intro t ht a hop happ
    rw [hfire t ht, hop] at happ
    rw [hfire t ht, hop]
    have hnot : ¬ Accepts t.pre a := fun hacc => happ (appended_fire_iff.mpr ⟨rfl, hacc⟩)
    exact publish_of_not_accepts hnot

-- at the end of its window a signal is still a duplicate, a millisecond later it is not
example :
    let a : Attempt :=
      { publisher := { dedupWindow := 60, dedupWindow_pos := by decide }
        result :=
          { generated := true, symbol := "INFY", exchange := "NSE", direction := "LONG"
            confidence := 4 / 5, entryPrice := 1500, stopLoss := 1480, target1 := 1530
            target2 := 1560, atr := 10, strategyId := "STRAT001", confirmingIndicators := []
            confirmingTimeframes := [], candlestickPattern := "", regime := "BULL_TREND" }
        signalId := "signal-1"
        nowMs := 0 }
    ((signals fun _ => ByteArray.empty).trans (opening 0 none [])
      [.publish a, .advance 60000, .publish a, .advance 1, .publish a]).map (·.reply) =
      [some (.published ⟨0, 0⟩), none, some .duplicate, none, some (.published ⟨60001, 0⟩)] := by
  decide +kernel

end Intraday.Signals
