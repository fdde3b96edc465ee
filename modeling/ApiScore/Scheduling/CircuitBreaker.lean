import ApiScore.Lib.Replay

/-!
# The circuit breaker of the sync schedulers

`runSyncTick` of `odds-sync.scheduler.ts` and of `fixtures-sync.scheduler.ts`.  A tick tests its
flags, waits for the answer of the quota check, and only then raises `isSyncRunning`: what it has
tested may have changed meanwhile.  Between two `await`s nothing else runs.

* `PhaseState`, `tryResume`, `onSyncFailure` — the breaker of one cadence.
* `runSyncTick` — a tick, as a program over the pieces between its `await`s.
* `scheduler` — any number of ticks, interleaved at their `await`s, under any clock.
-/

set_option autoImplicit false

namespace ApiScore

open Concurrent

/-! ## The breaker -/

inductive JobState
  | active | paused
  deriving DecidableEq, Repr

structure PhaseState where
  isSyncRunning : Bool
  jobState : JobState
  consecutiveFailures : Nat
  pausedUntil : Option Int
  deriving DecidableEq

def initialState : PhaseState where
  isSyncRunning := false
  jobState := .active
  consecutiveFailures := 0
  pausedUntil := none

/-- What the environment is checked to hold when the process starts. -/
structure SchedulerConfig where
  /-- `SCHEDULER_MAX_CONSECUTIVE_FAILURES`. -/
  maxFailures : Nat
  /-- `SCHEDULER_PAUSE_DURATION_MS`. -/
  pauseDurationMs : Int
  one_le : 1 ≤ maxFailures
  minute_le : 60000 ≤ pauseDurationMs

def onSyncSuccess (s : PhaseState) : PhaseState :=
  if 0 < s.consecutiveFailures then { s with consecutiveFailures := 0 } else s

def onSyncFailure (config : SchedulerConfig) (now : Int) (s : PhaseState) : PhaseState :=
  let s := { s with consecutiveFailures := s.consecutiveFailures + 1 }
  if config.maxFailures ≤ s.consecutiveFailures then
    { s with jobState := .paused, pausedUntil := some (now + config.pauseDurationMs) }
  else s

/-- The state after `tryResume`, and whether it has resumed. -/
def tryResume (now : Int) (s : PhaseState) : Bool × PhaseState :=
  match s.jobState, s.pausedUntil with
  | .paused, some pausedUntil =>
    if now < pausedUntil then (false, s)
    else (true, { s with jobState := .active, consecutiveFailures := 0, pausedUntil := none })
  | _, _ => (false, s)

/-! ## A tick -/

/-- A scheduled call of `runSyncTick`. -/
abbrev TickId := Nat

section Ticks

variable {κ : Type}

/-- The pieces of a tick of the cadence `phase`. -/
inductive TickAction (κ : Type)
  /-- To the quota check: does the tick go on? -/
  | test (phase : κ)
  /-- From the answer of the quota check to the start of the sync. -/
  | hasRateBudget (phase : κ)
  /-- From the end of the sync. -/
  | sync (phase : κ)

abbrev TickAction.Result : TickAction κ → Type
  | .test _ | .hasRateBudget _ => Bool
  | .sync _ => Unit

/-- `runSyncTick`. -/
def runSyncTick (phase : κ) : Prog (TickAction κ) TickAction.Result Unit := do
  if ← Prog.perform (TickAction.test phase) then
    if ← Prog.perform (TickAction.hasRateBudget phase) then
      Prog.perform (TickAction.sync phase)

/-! ## Ticks that are interleaved -/

inductive TickEvent (κ : Type)
  /-- The tick has found that it may go on. -/
  | tested (i : TickId) (phase : κ)
  | started (i : TickId) (phase : κ)
  | ended (i : TickId) (phase : κ)
  /-- The breaker has tripped. -/
  | paused (phase : κ) (pausedUntil : Int)
  /-- The clock shows another time. -/
  | clock (now : Int)
  deriving DecidableEq

/-- The breakers of a scheduler, with what has happened, latest first. -/
structure Breakers (κ : Type) where
  states : κ → PhaseState
  now : Int
  trace : List (TickEvent κ)

def Breakers.init (κ : Type) (now : Int) : Breakers κ := ⟨fun _ => initialState, now, []⟩

/-- What the surroundings answer. -/
structure SyncAnswer where
  /-- There is budget; a check that throws ends the tick as one that answers no. -/
  quotaOk : Bool
  /-- The sync succeeds. -/
  syncOk : Bool

variable [DecidableEq κ]

def Breakers.put (w : Breakers κ) (phase : κ) (s : PhaseState) : Breakers κ :=
  { w with states := Function.update w.states phase s }

def Breakers.note (w : Breakers κ) (e : TickEvent κ) : Breakers κ :=
  { w with trace := e :: w.trace }

/-- `isSyncRunning` is lowered on the state that the outcome has left. -/
def Breakers.lower (w : Breakers κ) (i : TickId) (phase : κ) (s : PhaseState) : Breakers κ :=
  (w.put phase { s with isSyncRunning := false }).note (.ended i phase)

/-- The end of a sync: the outcome is recorded, then `isSyncRunning` is lowered. -/
def Breakers.finish (config : SchedulerConfig) (w : Breakers κ) (i : TickId) (phase : κ) :
    Bool → Breakers κ
  | true => w.lower i phase (onSyncSuccess (w.states phase))
  | false =>
    let s := onSyncFailure config w.now (w.states phase)
    if config.maxFailures ≤ s.consecutiveFailures then
      (w.lower i phase s).note (.paused phase (w.now + config.pauseDurationMs))
    else w.lower i phase s

/-- What a piece of a tick does. -/
def Breakers.exec (config : SchedulerConfig) (i : TickId) :
    (a : TickAction κ) → SyncAnswer → Breakers κ → a.Result × Breakers κ
  | .test phase, _, w =>
    let s := w.states phase
    if s.isSyncRunning then (false, w)
    else
      let r := tryResume w.now s
      if r.1 then (false, w.put phase r.2)
      else if s.jobState = .paused then (false, w)
      else (true, w.note (.tested i phase))
  | .hasRateBudget phase, input, w =>
    if input.quotaOk then
      (true, (w.put phase { w.states phase with isSyncRunning := true }).note (.started i phase))
    else (false, w)
  | .sync phase, input, w => ((), w.finish config i phase input.syncOk)

/-- Any number of ticks, as far as `allow` lets their pieces happen; the clock shows what it
likes. -/
def scheduler (config : SchedulerConfig)
    (allow : TickId → TickAction κ → SyncAnswer → Breakers κ → Bool) :
    Machine (TickAction κ) TickAction.Result TickId (Breakers κ) SyncAnswer κ where
  exec i a input w := if allow i a input w then some (w.exec config i a input) else none
  program := runSyncTick
  env w w' := ∃ now, w' = { w with now, trace := .clock now :: w.trace }
  drop _ w := w

end Ticks

/-- The cadences of `OddsSyncScheduler`, each with a breaker of its own. -/
inductive OddsPhase
  | prematch | live
  deriving DecidableEq, Repr

/-- The ticks of `OddsSyncScheduler`. -/
def oddsSyncScheduler (config : SchedulerConfig)
    (allow : TickId → TickAction OddsPhase → SyncAnswer → Breakers OddsPhase → Bool) :
    Machine (TickAction OddsPhase) TickAction.Result TickId (Breakers OddsPhase) SyncAnswer
      OddsPhase :=
  scheduler config allow

/-- The ticks of `FixturesSyncScheduler`, which has one cadence. -/
def fixturesSyncScheduler (config : SchedulerConfig)
    (allow : TickId → TickAction Unit → SyncAnswer → Breakers Unit → Bool) :
    Machine (TickAction Unit) TickAction.Result TickId (Breakers Unit) SyncAnswer Unit :=
  scheduler config allow

end ApiScore
