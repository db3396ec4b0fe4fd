import Intraday.Core.Constants
import Intraday.Lib.Decimal
import Intraday.Lib.Machine
import Intraday.Lib.RedisStore

/-!
# Intraday.Api.Live — `ws_live` of `api/routers/ws.py`

The loop that forwards the signals stream to a WebSocket client. Each turn is one `XREAD`
of at most ten entries that waits for half a second. The cursor is `$`, the end of the
stream when the call arrives, until a first entry has been sent; then it is the id of the
last entry sent.

With an id for a cursor nothing is missed, whatever a poll does. With `$` an entry is seen
only by a poll that is waiting when it is appended, and is gone if that poll then fails. The
replies are decoded as UTF-8, and a poll whose reply does not decode fails.
-/

namespace Intraday.Api

open Intraday.Core Intraday.Lib Intraday.Lib.RedisStore
open Intraday.Lib.Decimal (truncate)

/-! ## The loop -/

/-- The fields of an entry, as the client library decodes them. -/
abbrev TextFields := Dict String String

/-- `decode_responses=True`: one value that is no UTF-8 makes the whole reply fail. -/
def decodeFields (fields : Fields) : Option TextFields :=
  if fields.entries.all fun field => (String.fromUTF8? field.2).isSome then
    some (fields.mapEntries fun _ raw => (String.fromUTF8? raw).getD "")
  else none

/-- An entry as the loop has it: `msg_id, fields`. -/
abbrev Signal := EntryId × TextFields

def decodeEntry (e : Entry) : Option Signal := (decodeFields e.fields).map fun data => (e.id, data)

/-- What the server sends. -/
inductive Message where
  | ping (ts : ℤ)
  | signal (id : EntryId) (data : TextFields) (ts : ℤ)

/-- Where the loop is: between two polls, waiting in `XREAD`, with a reply that `_poll` has
not returned, or in the inner `for` with signals yet to send. -/
inductive Phase where
  | idle
  | blocked (after : Option EntryId)
  | replied (entries : List Entry)
  | sending (signals : List Signal)

/-- A connection, with the Redis server and the clock it sees. `none` for the cursor is `$`. -/
structure Live where
  store : Store
  clock : ℚ
  lastId : Option EntryId
  lastPingTs : ℚ
  phase : Phase
  sent : List Message

/-- What can happen: an entry is appended, time passes, or the loop goes on. A poll can be
refused before it reaches the server, and fail until it has returned. -/
inductive LiveOp where
  | xadd (fields : Fields)
  | tick (clock : ℚ) (serverMs : ℕ)
  | poll (refused : Bool)
  | timeout
  | fail
  | receive
  | send

namespace Live

/-- The stream. -/
def entries (s : Live) : List Entry := s.store.streams signalRedisStream

/-- `int(now * 1000)`. -/
def nowMs (s : Live) : ℤ := truncate (s.clock * 1000)

/-- `websocket.accept()`, and the first ping. -/
def accept (store : Store) (clock : ℚ) : Live :=
  { store := store
    clock := clock
    lastId := none
    lastPingTs := clock
    phase := .idle
    sent := [.ping (truncate (clock * 1000))] }

/-- The ping at the head of the loop. -/
def ping (s : Live) : Live :=
  if apiWsHeartbeatIntervalSeconds ≤ s.clock - s.lastPingTs then
    { s with sent := s.sent ++ [.ping s.nowMs], lastPingTs := s.clock }
  else s

/-- `XREAD COUNT 10 BLOCK 500` reaches the server. -/
def xread (s : Live) : Live :=
  match s.lastId with
  | none => { s with phase := .blocked (s.store.lastId signalRedisStream) }
  | some id =>
      match s.store.xread signalRedisStream (some id) 10 with
      | [] => { s with phase := .blocked (some id) }
      | e :: es => { s with phase := .replied (e :: es) }

/-- An entry is appended; a read that waits for it is answered at once. -/
def xadd (s : Live) (fields : Fields) : Live :=
  let store := s.store.xadd signalRedisStream fields
  { s with
    store := store
    phase :=
      match s.phase with
      | .blocked after => .replied (store.xread signalRedisStream after 10)
      | phase => phase }

/-- `_poll` returns the reply, if it decodes, and `[]` otherwise. -/
def receive (s : Live) : Live :=
  match s.phase with
  | .replied entries =>
      match entries.mapM decodeEntry with
      | none => { s with phase := .idle }
      | some signals => { s with phase := .sending signals }
  | _ => s

/-- One turn of the inner `for`. -/
def send (s : Live) : Live :=
  match s.phase with
  | .sending [] => { s with phase := .idle }
  | .sending (signal :: signals) =>
      { s with
        sent := s.sent ++ [.signal signal.1 signal.2 s.nowMs]
        lastId := some signal.1
        phase := if signals.isEmpty then .idle else .sending signals }
  | _ => s

/-- An exception in `_poll`: it returns `[]`. -/
def fail (s : Live) : Live :=
  match s.phase with
  | .blocked _ => { s with phase := .idle }
  | .replied _ => { s with phase := .idle }
  | _ => s

end Live

/-- The connection in use. What the loop cannot do where it is changes nothing. -/
def live : Machine Live LiveOp Unit where
  step s
    | .xadd fields => (s.xadd fields, ())
    | .tick clock serverMs => ({ s with clock := clock, store.nowMs := serverMs }, ())
    | .poll refused =>
        (match s.phase with
          | .idle => if refused then s.ping else s.ping.xread
          | _ => s, ())
    | .timeout =>
        (match s.phase with
          | .blocked _ => { s with phase := .idle }
          | _ => s, ())
    | .fail => (s.fail, ())
    | .receive => (s.receive, ())
    | .send => (s.send, ())

/-! ## What has been sent and what lies ahead -/

/-- An entry and what its fields decode to. -/
abbrev Item := EntryId × Option TextFields

def entryItem (e : Entry) : Item := (e.id, decodeFields e.fields)

/-- A signal, as the entry it came from. -/
def signalItem (signal : Signal) : Item := (signal.1, some signal.2)

/-- The signals among the messages. -/
def sentItem? : Message → Option Item
  | .ping _ => none
  | .signal id data _ => some (id, some data)

/-- What the loop has read and not sent. -/
def Phase.inHand : Phase → List Item
  | .replied entries => entries.map entryItem
  | .sending signals => signals.map signalItem
  | _ => []

namespace Live

/-- The signals sent. -/
def delivered (s : Live) : List Item := s.sent.filterMap sentItem?

/-- The stream, decoded. -/
def items (s : Live) : List Item := s.entries.map entryItem

/-- The entries appended since a connection was accepted on `store`. -/
def sinceAccept (store : Store) (s : Live) : List Item :=
  s.items.drop (store.streams signalRedisStream).length

/-- The cursor once everything in hand is sent. -/
def reach (s : Live) : Option EntryId :=
  (s.phase.inHand.getLast?.map Prod.fst).or s.lastId

/-- What the loop comes to if it goes on undisturbed: what it has in hand, and then what the
stream has after it. Nothing, as long as there is no cursor. -/
def ahead (s : Live) : List Item :=
  s.phase.inHand ++
    s.reach.elim [] fun id => s.items.filter fun item => decide (id.Before item.1)

/-- What is sent in the end: the signals sent and what lies ahead. -/
def course (s : Live) : List Item := s.delivered ++ s.ahead

/-- A read that waits waits for the next entry: it finds nothing, and it waits after the
cursor, if there is one. -/
structure Waits (s : Live) (after : Option EntryId) : Prop where
  nothing : s.store.xread signalRedisStream after 10 = []
  known : ∀ id, after = some id → ∃ e ∈ s.entries, e.id = id
  cursor : ∀ id, s.lastId = some id → after = some id

end Live

/-- One undisturbed turn: whatever was begun is finished, and if nothing was, one poll is
made and its signals are sent. -/
def turn : List LiveOp :=
  [.poll false, .timeout, .receive] ++ List.replicate 10 .send

/-- The connection goes on for some turns, undisturbed and with no new entries. -/
def goOn (s : Live) : ℕ → Live
  | 0 => s
  | n + 1 => goOn (live.run s turn) n

/-- Everything appended since the connection was accepted on `store` is sent, exactly once
and in the order of the stream, when the loop goes on for long enough. -/
def Complete (store : Store) (s : Live) : Prop :=
  ∃ n, ∀ m, n ≤ m → (goOn s m).delivered = s.sinceAccept store

end Intraday.Api
