import Intraday.Ingestion.Models
import Intraday.Lib.Increments
import Intraday.Lib.Machine
import Intraday.Lib.PyValue

/-!
# Intraday.Ingestion.KiteWs — `KiteWebSocketAdapter` of `shared/ingestion/kite_ws.py`

Kite sends the volume of the day so far, and the adapter emits what was traded since
the payload before. A payload without a volume is taken for one with volume zero, and
a volume that falls becomes what the next one is compared with. The volumes emitted
for an instrument add up to no more than the climb of the volumes sent for it exactly
if these gaps and falls do no harm.
-/

namespace Intraday.Ingestion

open Intraday.Lib Intraday.Lib.Python

/-- A payload of Kite: a dictionary of any values. -/
abbrev Payload := Dict String Json

/-- `raw.get(name)`. -/
def field (raw : Payload) (name : String) : Json := (raw.get? name).getD .null

namespace KiteWebSocketAdapter

/-- `_to_int`. A text that is no number, or NaN, is a `ValueError`, which is caught; the
exceptions of `int` on a float are not. -/
def toInt (py : Builtins) (v : Json) (default : ℤ) : Except Exc ℤ :=
  match v with
  | .int i => .ok i
  | .bool b => .ok (if b then 1 else 0)
  | .float x => x.toInt
  | .str s => match py.float s with
    | none => .ok default
    | some .nan => .ok default
    | some x => x.toInt
  | _ => .ok default

/-- `_to_float`. -/
def toFloat (py : Builtins) (v : Json) (default : PyFloat) : Except Exc PyFloat :=
  match v with
  | .int i => floatOfInt py i
  | .bool b => floatOfInt py (if b then 1 else 0)
  | .float x => .ok x
  | .str s => .ok ((py.float s).getD default)
  | _ => .ok default

end KiteWebSocketAdapter

/-- What `_handle_ticks` reads from a payload before anything else. -/
structure KiteReading where
  token : ℤ
  ltp : PyFloat
  cumVol : ℤ
  tsMs : ℤ

/-- The adapter, as far as the conversion of ticks uses it: `_symbol_map` and `_prev_vol`. -/
structure KiteWebSocketAdapter where
  symbolMap : Dict ℤ (String × String)
  prevVol : Dict ℤ ℤ

namespace KiteWebSocketAdapter

/-- The first lines of the loop of `_handle_ticks`. -/
def readPayload (py : Builtins) (raw : Payload) : Except Exc KiteReading := do
  let token ← toInt py (field raw "instrument_token") 0
  let ltp ← toFloat py (field raw "last_price") .zero
  let cumVol ← toInt py (field raw "volume_traded") 0
  let tsMs ← toInt py (field raw "timestamp") 0
  return { token, ltp, cumVol, tsMs }

/-- The rest of the loop: the tick given to `on_tick`, unless the price is not positive. What
`on_tick` raises is logged only. -/
def convert (a : KiteWebSocketAdapter) (r : KiteReading) :
    KiteWebSocketAdapter × Option RawTick :=
  if r.ltp.le .zero then (a, none)
  else
    let prev := (a.prevVol.get? r.token).getD r.cumVol
    let deltaVol := max 0 (r.cumVol - prev)
    let (symbol, exchange) := (a.symbolMap.get? r.token).getD (toString r.token, "NSE")
    ({ a with prevVol := a.prevVol.set r.token r.cumVol },
      some { symbol, exchange, ltp := r.ltp, volume := deltaVol, timestampMs := r.tsMs })

/-- `_handle_ticks`: the ticks emitted, and the exception that ended the batch early, if
any. -/
def handleTicks (py : Builtins) (a : KiteWebSocketAdapter) :
    List Payload → KiteWebSocketAdapter × List RawTick × Option Exc
  | [] => (a, [], none)
  | raw :: ticks => match readPayload py raw with
    | .error e => (a, [], some e)
    | .ok r =>
        let rest := handleTicks py (a.convert r).1 ticks
        (rest.1, (a.convert r).2.toList ++ rest.2.1, rest.2.2)

/-! ## The adapter as a machine -/

/-- The conversion of one payload after the other. -/
def kiteMachine (py : Builtins) : Machine KiteWebSocketAdapter Payload (Option RawTick) where
  step a raw := match readPayload py raw with
    | .error _ => (a, none)
    | .ok r => a.convert r

/-- The payloads of a batch before the first that raises. -/
def reached (py : Builtins) (ticks : List Payload) : List Payload :=
  ticks.takeWhile fun raw => (readPayload py raw).isOk

/-- A batch is the run of its payloads up to the first that raises. -/
theorem handleTicks_eq (py : Builtins) (a : KiteWebSocketAdapter) (ticks : List Payload) :
    (handleTicks py a ticks).1 = (kiteMachine py).run a (reached py ticks) ∧
      (handleTicks py a ticks).2.1 =
        ((kiteMachine py).trans a (reached py ticks)).filterMap (·.reply) := by
  induction ticks generalizing a with
  | nil => exact ⟨rfl, rfl⟩
  | cons raw ticks ih =>
      cases hread : readPayload py raw with
      | error e => simp [handleTicks, reached, hread, Except.isOk, Except.toBool, Machine.run]
      | ok r =>
          have hstep : (kiteMachine py).step a raw = a.convert r := by
            simp [kiteMachine, hread]
          rcases ih (a.convert r).1 with ⟨hrun, hticks⟩
          have hreached : reached py (raw :: ticks) = raw :: reached py ticks := by
            simp [reached, hread, Except.isOk, Except.toBool]
          rw [handleTicks, hread, hreached]
          constructor
          · simp only [Machine.run, Machine.next, hstep]
            exact hrun
          · simp only [hticks, Machine.trans_cons, List.filterMap_cons, Machine.fire,
              Machine.reply, Machine.next, hstep]
            cases (a.convert r).2 with
            | none => rfl
            | some t => rfl

/-- `on_ticks` with one batch after the other: the ticks emitted. -/
def session (py : Builtins) (a : KiteWebSocketAdapter) : List (List Payload) → List RawTick
  | [] => []
  | ticks :: batches =>
      (handleTicks py a ticks).2.1 ++ session py (handleTicks py a ticks).1 batches

/-- The ticks emitted are the replies of the run over all the payloads reached. -/
theorem session_eq (py : Builtins) (a : KiteWebSocketAdapter) (batches : List (List Payload)) :
    session py a batches =
      ((kiteMachine py).trans a (batches.flatMap (reached py))).filterMap (·.reply) := by
  induction batches generalizing a with
  | nil => rfl
  | cons ticks batches ih =>
      rcases handleTicks_eq py a ticks with ⟨hrun, hticks⟩
      rw [session, ih, hrun, hticks, List.flatMap_cons, Machine.trans_append,
        List.filterMap_append]

/-! ## The volumes of an instrument -/

/-- The integer that `_to_int` finds in a value, if the default does not stand in. -/
def intIn (py : Builtins) : Json → Option ℤ
  | .int i => some i
  | .bool b => some (if b then 1 else 0)
  | .float x => x.toInt.toOption
  | .str s => (py.float s).bind fun x => x.toInt.toOption
  | _ => none

theorem toInt_eq_ok {py : Builtins} {v : Json} {default i : ℤ}
    (h : toInt py v default = .ok i) : i = (intIn py v).getD default := by
  cases v with
  | null | arr _ | obj _ => exact (Except.ok.inj h).symm
  | bool b | int j => exact (Except.ok.inj h).symm
  | float x =>
      rw [toInt] at h
      rw [intIn, h]
      rfl
  | str s =>
      simp only [toInt] at h
      rw [intIn]
      cases hparse : py.float s with
      | none =>
          rw [hparse] at h
          exact (Except.ok.inj h).symm
      | some x =>
          rw [hparse] at h
          cases x with
          | nan => exact (Except.ok.inj h).symm
          | inf negative | finite negative d =>
              simp only at h
              rw [Option.bind_some, h]
              rfl

/-- The cumulative volume of a payload, if it has one. -/
def cumVolume (py : Builtins) (raw : Payload) : Option ℤ := intIn py (field raw "volume_traded")

/-- Whether a payload becomes a tick of the instrument. -/
def converts (py : Builtins) (token : ℤ) (raw : Payload) : Bool :=
  match readPayload py raw with
  | .error _ => false
  | .ok r => decide (r.token = token) && !r.ltp.le .zero

theorem converts_iff {py : Builtins} {token : ℤ} {raw : Payload} :
    converts py token raw ↔
      ∃ r, readPayload py raw = .ok r ∧ r.token = token ∧ r.ltp.le .zero = false := by
  rw [converts]
  cases readPayload py raw with
  | error e => simp
  | ok r => simp

/-- The volume read from a payload is its own, or zero. -/
theorem readPayload_cumVol {py : Builtins} {raw : Payload} {r : KiteReading}
    (h : readPayload py raw = .ok r) : r.cumVol = (cumVolume py raw).getD 0 := by
  simp only [readPayload, bind, Except.bind, pure, Except.pure] at h
  split at h
  · cases h
  · split at h
    · cases h
    · split at h
      · cases h
      · rename_i hvolume
        split at h
        · cases h
        · cases h
          exact toInt_eq_ok hvolume

/-- The volumes of the payloads that become ticks of the instrument, in order. -/
def volumesSeen (py : Builtins) (token : ℤ) (payloads : List Payload) : List (Option ℤ) :=
  (payloads.filter (converts py token)).map (cumVolume py)

/-- The volumes of the ticks that these payloads become. -/
def volumesEmitted (py : Builtins) (token : ℤ) (a : KiteWebSocketAdapter)
    (payloads : List Payload) : List ℤ :=
  (((kiteMachine py).trans a payloads).filter fun t => converts py token t.op).filterMap
    fun t => t.reply.map (·.volume)

/-- What a payload of the instrument is converted to. -/
theorem convert_of_converts {py : Builtins} {token : ℤ} {raw : Payload}
    (a : KiteWebSocketAdapter) (h : converts py token raw) :
    ((kiteMachine py).next a raw).prevVol =
        a.prevVol.set token ((cumVolume py raw).getD 0) ∧
      ((kiteMachine py).reply a raw).map (·.volume) =
        some (max 0 ((cumVolume py raw).getD 0 -
          (a.prevVol.get? token).getD ((cumVolume py raw).getD 0))) := by
  rcases converts_iff.mp h with ⟨r, hread, htoken, hprice⟩
  rw [← readPayload_cumVol hread, ← htoken]
  have hstep : (kiteMachine py).step a raw = a.convert r := by simp [kiteMachine, hread]
  simp only [Machine.next, Machine.reply, hstep, convert, hprice]
  exact ⟨rfl, rfl⟩

/-- A payload that is none of the instrument leaves its last volume alone. -/
theorem prevVol_of_not_converts {py : Builtins} {token : ℤ} {raw : Payload}
    (a : KiteWebSocketAdapter) (h : ¬ converts py token raw) :
    ((kiteMachine py).next a raw).prevVol.get? token = a.prevVol.get? token := by
  rw [Machine.next]
  cases hread : readPayload py raw with
  | error e => simp [kiteMachine, hread]
  | ok r =>
      have hstep : (kiteMachine py).step a raw = a.convert r := by simp [kiteMachine, hread]
      rw [hstep, convert]
      cases hprice : r.ltp.le .zero with
      | true => rfl
      | false =>
          have hne : token ≠ r.token := by
            intro heq
            exact h (converts_iff.mpr ⟨r, hread, heq.symm, hprice⟩)
          exact Dict.get?_set_of_ne _ _ hne

/-- The volumes emitted are the increments of the volumes seen, a missing one taken for zero,
after the last volume that the adapter remembers. -/
theorem volumesEmitted_eq (py : Builtins) (token : ℤ) (payloads : List Payload)
    (a : KiteWebSocketAdapter) :
    volumesEmitted py token a payloads =
      match a.prevVol.get? token with
      | none => increments (filled (volumesSeen py token payloads))
      | some p => risesFrom p (filled (volumesSeen py token payloads)) := by
  induction payloads generalizing a with
  | nil => cases a.prevVol.get? token <;> rfl
  | cons raw payloads ih =>
      by_cases h : converts py token raw
      · rcases convert_of_converts a h with ⟨hprev, hvolume⟩
        have hseen : volumesSeen py token (raw :: payloads) =
            cumVolume py raw :: volumesSeen py token payloads := by simp [volumesSeen, h]
        have hemitted : volumesEmitted py token a (raw :: payloads) =
            max 0 ((cumVolume py raw).getD 0 -
              (a.prevVol.get? token).getD ((cumVolume py raw).getD 0)) ::
              volumesEmitted py token ((kiteMachine py).next a raw) payloads := by
          rw [volumesEmitted, Machine.trans_cons, List.filter_cons_of_pos (by exact h),
            List.filterMap_cons_some (by exact hvolume)]
          rfl
        rw [hemitted, ih, hprev, Dict.get?_set_self, hseen]
        cases a.prevVol.get? token with
        | none => simp [filled, increments]
        | some p => simp [filled, risesFrom]
      · have hseen : volumesSeen py token (raw :: payloads) =
            volumesSeen py token payloads := by simp [volumesSeen, h]
        have hemitted : volumesEmitted py token a (raw :: payloads) =
            volumesEmitted py token ((kiteMachine py).next a raw) payloads := by
          rw [volumesEmitted, Machine.trans_cons, List.filter_cons_of_neg (by exact h)]
          rfl
        rw [hemitted, ih, prevVol_of_not_converts a h, hseen]

/-- The ticks emitted over all batches are the replies to the payloads reached. Those for an
instrument have volumes that add up to no more than the climb from its first volume to its
largest exactly if gaps and falls do no harm: read with zeros for the missing ones, no volume is
below both an earlier and a later one, the first one is not positive if one is missing before
it, and some volume is not negative if one is missing after it. -/
theorem kite_deltas_bounded_iff (py : Builtins) (symbolMap : Dict ℤ (String × String))
    (batches : List (List Payload)) (token : ℤ) :
    session py { symbolMap, prevVol := .empty } batches =
        ((kiteMachine py).trans { symbolMap, prevVol := .empty }
          (batches.flatMap (reached py))).filterMap (·.reply) ∧
      ((volumesEmitted py token { symbolMap, prevVol := .empty }
            (batches.flatMap (reached py))).sum ≤
          climb (volumesSeen py token (batches.flatMap (reached py))).reduceOption ↔
        GapsHarmless (volumesSeen py token (batches.flatMap (reached py)))) := by
  refine ⟨session_eq py _ batches, ?_⟩
  rw [volumesEmitted_eq]
  exact sum_increments_filled_le_iff _

/-- A payload for INFY at 1623.0, with the given volume if any. -/
def infyPayload (volume : Option ℤ) : Payload :=
  Json.dictOf ([("instrument_token", .int 408065),
    ("last_price", .float (.finite false { digits := 1623, exp := 0, normal := .inl (by decide) })),
    ("timestamp", .int 60000)] ++ (volume.map fun v => ("volume_traded", Json.int v)).toList)

/-- Built-ins for payloads without texts and integer prices. -/
def plainNumbers : Builtins where
  float _ := none
  loads _ := none
  divide _ _ := .nan
  multiply _ _ := .nan
  toFloat _ := .nan
  repr _ := ""

/-- A payload without a volume between those with 100 and 150: the third emits 150. -/
theorem missing_volume_inflates :
    ¬ ∀ (py : Builtins) (symbolMap : Dict ℤ (String × String)) (batches : List (List Payload))
      (token : ℤ),
      (volumesEmitted py token { symbolMap, prevVol := .empty }
        (batches.flatMap (reached py))).sum ≤
          climb (volumesSeen py token (batches.flatMap (reached py))).reduceOption := by
  intro h
  exact absurd (h plainNumbers .empty
    [[infyPayload (some 100), infyPayload none, infyPayload (some 150)]] 408065)
    (by decide +kernel)

end KiteWebSocketAdapter

end Intraday.Ingestion
