import Intraday.Compliance.KillSwitch
import Intraday.Ingestion.Agent

/-!
# Intraday.Ingestion.Watchdog — the watchdog of `shared/ingestion/agent.py`

An iteration of the watchdog looks at the time of the last accepted tick, which the ticks of the
fallback set too, and at whether the socket is connected. It does not know when the socket last
delivered a tick: a feed that never ticked is not noticed, a socket that is connected and silent
ends the degraded mode, and fallback ticks keep the mode live after that.

`exit_only_iff` says exactly which iterations of a run leave the agent degraded while the feed is
stale.

An iteration is atomic, and it is given the ticks that the fallback fetches for the symbols, one
after the other.
-/

namespace Intraday.Ingestion

open Intraday.Core Intraday.Lib
open Intraday.Compliance (SetOutcome)

/-! ## The watchdog -/

/-- What happens around an iteration: the time, the ticks of the fallback, and what the `set` and
`delete` of the degraded flag do. -/
structure Iteration where
  now : ℚ
  fallback : List Delivery := []
  setCall : SetOutcome := .done
  deleteCall : SetOutcome := .done

namespace DataIngestionAgent

variable {a : DataIngestionAgent}

/-- `_set_degraded`. -/
def setDegraded (a : DataIngestionAgent) (outcome : SetOutcome) : DataIngestionAgent :=
  { a with statusRedis := a.statusRedis.map fun flag => flag || outcome.written }

/-- `_clear_degraded`. -/
def clearDegraded (a : DataIngestionAgent) (outcome : SetOutcome) : DataIngestionAgent :=
  { a with statusRedis := a.statusRedis.map fun flag => flag && !outcome.written }

/-- `_enter_degraded`. -/
def enterDegraded (a : DataIngestionAgent) (outcome : SetOutcome) : DataIngestionAgent :=
  if a.mode = .degraded then a
  else { a with mode := .degraded }.setDegraded outcome

/-- `_exit_degraded`. -/
def exitDegraded (a : DataIngestionAgent) (outcome : SetOutcome) : DataIngestionAgent :=
  { a with mode := .live }.clearDegraded outcome

/-- `_run_fallback`: a tick that is rejected is skipped. -/
def runFallback (a : DataIngestionAgent) (ticks : List Delivery) : DataIngestionAgent :=
  (a.injectAll ticks).1

/-- One iteration of `_watchdog_loop`. -/
def watchdog (a : DataIngestionAgent) (wsConnected : Bool) (w : Iteration) :
    DataIngestionAgent :=
  let elapsed := w.now - a.lastTickTs
  if a.mode = .live ∧ wsFallbackTimeoutSeconds < elapsed ∧ 0 < a.lastTickTs then
    (a.enterDegraded w.setCall).runFallback w.fallback
  else if a.mode = .degraded ∧ wsConnected = true then a.exitDegraded w.deleteCall
  else a

/-- Ticks touch neither the mode nor the flag. -/
theorem injectTick_mode (a : DataIngestionAgent) (d : Delivery) :
    (a.injectTick d).1.mode = a.mode ∧ (a.injectTick d).1.statusRedis = a.statusRedis := by
  rw [injectTick]
  split
  · exact ⟨rfl, rfl⟩
  · exact ⟨rfl, rfl⟩

theorem runFallback_mode (a : DataIngestionAgent) (ticks : List Delivery) :
    (a.runFallback ticks).mode = a.mode ∧ (a.runFallback ticks).statusRedis = a.statusRedis := by
  induction ticks generalizing a with
  | nil => exact ⟨rfl, rfl⟩
  | cons d rest ih =>
      rcases ih (a.injectTick d).1 with ⟨hmode, hflag⟩
      rcases injectTick_mode a d with ⟨hmode', hflag'⟩
      exact ⟨hmode.trans hmode', hflag.trans hflag'⟩

end DataIngestionAgent

/-! ## Runs -/

/-- The agent, its socket, and when the socket last delivered a tick, or the agent was started. -/
structure Feed where
  agent : DataIngestionAgent
  wsConnected : Bool
  wsLast : ℚ

/-- Something that happens to the feed: a tick of the socket, a connection that is made or lost,
or an iteration of the watchdog. -/
inductive FeedOp where
  | wsTick (d : Delivery)
  | connection (up : Bool)
  | watchdog (w : Iteration)

/-- The feed, one event at a time. -/
def feedMachine : Machine Feed FeedOp Unit where
  step s
    | .wsTick d => ({ s with agent := (s.agent.injectTick d).1, wsLast := d.now }, ())
    | .connection up => ({ s with wsConnected := up }, ())
    | .watchdog w => ({ s with agent := s.agent.watchdog s.wsConnected w }, ())

/-- The feed of a new agent in live mode, at the time of its start. -/
def Feed.start (buffer : TickBuffer) (statusRedis : Option Bool) (wsConnected : Bool)
    (startedAt : ℚ) : Feed :=
  { agent := .new buffer statusRedis .live
    wsConnected := wsConnected
    wsLast := startedAt }

/-- The last tick of the socket is older than the timeout. -/
def Feed.Stale (s : Feed) (now : ℚ) : Prop := wsFallbackTimeoutSeconds < now - s.wsLast

/-- Degraded, and the flag is set. -/
def DataIngestionAgent.ExitOnly (a : DataIngestionAgent) : Prop :=
  a.mode = .degraded ∧ a.statusRedis = some true

/-- The iteration finds the agent live and takes it out of that mode, or finds it degraded and
leaves it so.

* Live: a tick was accepted before, the last accepted one, of the socket or of the fallback, is
  older than the timeout, and the flag reaches Redis or is set already.
* Degraded: the socket is not connected, and the flag is set. -/
def Feed.Guarded (s : Feed) (w : Iteration) : Prop :=
  (s.agent.mode = .live ∧ 0 < s.agent.lastTickTs ∧
    wsFallbackTimeoutSeconds < w.now - s.agent.lastTickTs ∧
    ∃ flag, s.agent.statusRedis = some flag ∧ (flag = true ∨ w.setCall.written = true)) ∨
  (s.agent.mode = .degraded ∧ s.wsConnected = false ∧ s.agent.statusRedis = some true)

/-- One iteration: it ends in exit-only mode exactly if it was guarded. -/
theorem exitOnly_watchdog_iff (s : Feed) (w : Iteration) :
    (s.agent.watchdog s.wsConnected w).ExitOnly ↔ s.Guarded w := by
  rw [DataIngestionAgent.watchdog, Feed.Guarded, DataIngestionAgent.ExitOnly]
  cases hmode : s.agent.mode with
  | live =>
      by_cases hstale : wsFallbackTimeoutSeconds < w.now - s.agent.lastTickTs ∧
          0 < s.agent.lastTickTs
      · -- the mode is degraded after `_enter_degraded`, and the fallback keeps it
        rw [if_pos ⟨rfl, hstale⟩]
        rcases (s.agent.enterDegraded w.setCall).runFallback_mode w.fallback with ⟨hmode', hflag'⟩
        rw [hmode', hflag', DataIngestionAgent.enterDegraded, if_neg (by rw [hmode]; decide)]
        cases hflag : s.agent.statusRedis with
        | none => simp [DataIngestionAgent.setDegraded]
        | some flag => simp [DataIngestionAgent.setDegraded, hstale]
      · have hlive : ¬ (IngestionStatus.live = .live ∧
            wsFallbackTimeoutSeconds < w.now - s.agent.lastTickTs ∧ 0 < s.agent.lastTickTs) :=
          fun h => hstale h.2
        rw [if_neg hlive, if_neg (by simp), hmode]
        constructor
        · rintro ⟨h, -⟩
          cases h
        · rintro (⟨-, hpos, hold, -⟩ | ⟨h, -⟩)
          · exact absurd ⟨hold, hpos⟩ hstale
          · cases h
  | degraded =>
      rw [if_neg (by simp)]
      cases hconnected : s.wsConnected with
      | true =>
          rw [if_pos ⟨rfl, rfl⟩]
          simp [DataIngestionAgent.exitDegraded, DataIngestionAgent.clearDegraded]
      | false => simp [hmode]
  | paper =>
      rw [if_neg (by simp), if_neg (by simp), hmode]
      simp

/-- After every iteration of a run at which the feed is stale, the agent is in exit-only mode,
exactly if all these iterations are guarded. -/
theorem exit_only_iff (buffer : TickBuffer) (statusRedis : Option Bool) (wsConnected : Bool)
    (startedAt : ℚ) (ops : List FeedOp) :
    (∀ t ∈ feedMachine.trans (.start buffer statusRedis wsConnected startedAt) ops,
      ∀ w, t.op = .watchdog w → t.pre.Stale w.now → t.post.agent.ExitOnly) ↔
    ∀ t ∈ feedMachine.trans (.start buffer statusRedis wsConnected startedAt) ops,
      ∀ w, t.op = .watchdog w → t.pre.Stale w.now → t.pre.Guarded w := by
  have hstep : ∀ t ∈ feedMachine.trans (.start buffer statusRedis wsConnected startedAt) ops,
      ∀ w, t.op = .watchdog w → (t.post.agent.ExitOnly ↔ t.pre.Guarded w) := by
    intro t ht w hop
    have hfire := feedMachine.trans_fire ht
    rw [hop] at hfire
    rw [hfire]
    exact exitOnly_watchdog_iff t.pre w
  constructor
  · intro h t ht w hop hstale
    exact (hstep t ht w hop).mp (h t ht w hop hstale)
  · intro h t ht w hop hstale
    exact (hstep t ht w hop).mpr (h t ht w hop hstale)

/-- A feed that never ticks. -/
def silentFeed : List FeedOp := [.watchdog { now := 1010 }]

/-- A tick, and then a socket that stays connected and silent. -/
def connectedFeed : List FeedOp :=
  [.wsTick { toArrival := { infyTick 59000 with nowMs := 1000000 }, now := 1000 },
    .watchdog { now := 1003 },
    .watchdog { now := 1004 }]

/-- The first feed is never noticed; the second is noticed and then taken for live again. -/
theorem stale_feed_stays_live :
    ¬ (∀ t ∈ feedMachine.trans (.start (.new false) (some false) true 1000) silentFeed,
      ∀ w, t.op = .watchdog w → t.pre.Stale w.now → t.post.agent.ExitOnly) ∧
    ¬ ∀ t ∈ feedMachine.trans (.start (.new false) (some false) true 1000) connectedFeed,
      ∀ w, t.op = .watchdog w → t.pre.Stale w.now → t.post.agent.ExitOnly := by
  constructor
  · intro h
    have hlast := h (feedMachine.fire (.start (.new false) (some false) true 1000)
      (.watchdog { now := 1010 })) (by simp [silentFeed]) _ rfl
      (by rw [Feed.Stale]; decide +kernel)
    exact absurd hlast.1 (by decide +kernel)
  · intro h
    have hlast := h (feedMachine.fire
      (feedMachine.run (.start (.new false) (some false) true 1000) (connectedFeed.take 2))
      (.watchdog { now := 1004 })) (by simp [connectedFeed, Machine.run]) _ rfl
      (by rw [Feed.Stale]; decide +kernel)
    exact absurd hlast.1 (by decide +kernel)

end Intraday.Ingestion
