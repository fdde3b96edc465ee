import ApiScore.Execution.Runs
import ApiScore.Lib.Statement

/-!
# Walk-forward runs

`start`, `execute` and `failOrphanedRuns` of `walk-forward.service.ts`.  An execution holds a named
lock on a connection of its own, which the server frees when that connection dies; a run that is not
finished and whose lock is free is declared orphaned.  The execution itself does not look at its lock
again: it writes the folds and the final status by the id of the run.

* `WalkForwardRun`, `WalkForwardFold` — the rows.
* `execute`, `start`, `failOrphanedRuns` — the calls, statement by statement.
* `walkForwardService` — the runs of any number of calls, on connections that may be lost.
-/

set_option autoImplicit false

namespace ApiScore

open Concurrent

/-! ## Rows -/

inductive WalkForwardRunStatus
  | pending | running | completed | failed
  deriving DecidableEq, Repr

/-- The run is over. -/
def WalkForwardRunStatus.isFinal : WalkForwardRunStatus → Bool
  | .completed | .failed => true
  | .pending | .running => false

structure FoldWindow where
  foldIndex : Nat
  trainFrom : Int
  trainTo : Int
  validationFrom : Int
  validationTo : Int
  testFrom : Int
  testTo : Int
  complete : Bool
  deriving DecidableEq

structure WalkForwardRun where
  id : String
  /-- The windows of the frozen configuration. -/
  folds : List FoldWindow
  status : WalkForwardRunStatus
  datasetHash : Option String
  resultHash : Option String
  error : Option String
  createdAt : Int
  startedAt : Option Int
  completedAt : Option Int
  deriving DecidableEq

inductive WalkForwardFoldStatus
  | completed | ineligible
  deriving DecidableEq, Repr

structure WalkForwardFold where
  runId : String
  window : FoldWindow
  status : WalkForwardFoldStatus
  ineligibilityReason : Option String
  deriving DecidableEq

/-- What the execution makes of a replay. -/
structure ReplayOutcome where
  datasetHash : String
  resultHash : String
  /-- Why a fold is not eligible, by its index. -/
  reason : Nat → Option String

/-- The row of a fold. -/
def foldRow (runId : String) (outcome : ReplayOutcome) (window : FoldWindow) : WalkForwardFold where
  runId := runId
  window := window
  status := if (outcome.reason window.foldIndex).isSome then .ineligible else .completed
  ineligibilityReason := outcome.reason window.foldIndex

/-! ## The statements -/

inductive WalkForwardAction
  | create (folds : List FoldWindow)
  | getLock (runId : String)
  | releaseLock (runId : String)
  /-- PENDING → RUNNING; has a row been changed? -/
  | claim (runId : String)
  | findRun (runId : String)
  /-- `replayDetailed` is called. -/
  | startReplay (runId : String)
  /-- It returns. -/
  | endReplay (runId : String)
  | insertFolds (runId : String) (rows : List WalkForwardFold)
  | complete (runId : String) (outcome : ReplayOutcome)
  | fail (runId : String)
  /-- The update of `failOrphanedRuns`. -/
  | failOrphaned

abbrev WalkForwardAction.Answer : WalkForwardAction → Type
  | .create _ => String
  | .getLock _ | .claim _ => Bool
  | .findRun _ => Option WalkForwardRun
  | .endReplay _ => ReplayOutcome
  | .failOrphaned => Nat
  | .releaseLock _ | .startReplay _ | .insertFolds _ _ | .complete _ _ | .fail _ => Unit

abbrev WalkForwardCall (α : Type) : Type :=
  StatementCall WalkForwardAction WalkForwardAction.Answer α

def WalkForwardCall.send (a : WalkForwardAction) : WalkForwardCall a.Answer := stmt a

open WalkForwardCall (send)

/-! ## The calls -/

/-- The `try` of `executeLeased`. -/
def replayAndStore (run : WalkForwardRun) : WalkForwardCall Unit := do
  send (.startReplay run.id)
  let outcome ← send (.endReplay run.id)
  let rows := run.folds.map (foldRow run.id outcome)
  if !rows.isEmpty then send (.insertFolds run.id rows)
  send (.complete run.id outcome)

def executeLeased (runId : String) : WalkForwardCall Unit := do
  let claimed ← send (.claim runId)
  if !claimed then return ()
  match ← send (.findRun runId) with
  | none => throw .refused
  | some run =>
    tryCatch (replayAndStore run) fun error => do
      send (.fail runId)
      throw error

/-- `lease.release()`. -/
def releaseLease (runId : String) : WalkForwardCall Unit :=
  tryCatch (send (.releaseLock runId)) fun _ => return ()

def execute (runId : String) : WalkForwardCall Unit := do
  let acquired ← send (.getLock runId)
  if !acquired then return ()
  ensuring (executeLeased runId) (releaseLease runId)

/-- `start`, with the execution it leaves in the background. -/
def startWalkForward (folds : List FoldWindow) : WalkForwardCall Unit := do
  if folds.isEmpty then throw .refused
  let runId ← send (.create folds)
  execute runId

def failOrphanedRuns : WalkForwardCall Unit := do
  let _ ← send .failOrphaned

/-! ## Runs of the calls -/

inductive WalkForwardEvent
  /-- Call `i` has made the run RUNNING. -/
  | claimed (i : CallId) (runId : String)
  | replaying (i : CallId) (runId : String)
  /-- The folds of the run have been inserted. -/
  | folded (runId : String)
  | completed (runId : String)
  /-- The execution has made the run FAILED. -/
  | gaveUp (runId : String)
  /-- The run has been declared orphaned. -/
  | orphaned (runId : String)
  deriving DecidableEq

structure WalkForwards where
  runs : List WalkForwardRun
  folds : List WalkForwardFold
  /-- Which call holds the lock of which run. -/
  locks : List (CallId × String)
  trace : List WalkForwardEvent

def WalkForwards.init : WalkForwards := ⟨[], [], [], []⟩

/-- What the surroundings decide about one statement. -/
structure WalkForwardInput where
  now : Int
  uuid : String
  outcome : ReplayOutcome
  /-- What the execution has failed with. -/
  error : String

/-- `WALK_FORWARD_ORPHAN_GRACE_MS`. -/
def walkForwardOrphanGraceMs : Int := 60000

/-- `WALK_FORWARD_ORPHAN_ERROR`. -/
def walkForwardOrphanError : String :=
  "Interrompu : le processus qui exécutait ce run s’est arrêté. Relancer le walk-forward."

namespace WalkForwards

def run? (w : WalkForwards) (runId : String) : Option WalkForwardRun :=
  w.runs.find? (·.id == runId)

def note (w : WalkForwards) (events : List WalkForwardEvent) : WalkForwards :=
  { w with trace := events ++ w.trace }

/-- Rewrite the runs that satisfy `p`. -/
def update (w : WalkForwards) (p : WalkForwardRun → Bool) (f : WalkForwardRun → WalkForwardRun) :
    WalkForwards :=
  { w with runs := w.runs.map fun r => if p r then f r else r }

/-- `IS_USED_LOCK`. -/
def isLocked (w : WalkForwards) (runId : String) : Bool := w.locks.any (·.2 == runId)

/-- The condition of `failOrphanedRuns`. -/
def isOrphaned (w : WalkForwards) (now : Int) (r : WalkForwardRun) : Bool :=
  !r.status.isFinal && decide (r.createdAt < now - walkForwardOrphanGraceMs) && !w.isLocked r.id

def newRun (id : String) (folds : List FoldWindow) (now : Int) : WalkForwardRun where
  id := id
  folds := folds
  status := .pending
  datasetHash := none
  resultHash := none
  error := none
  createdAt := now
  startedAt := none
  completedAt := none

/-- A fold of this run with this index is there. -/
def hasFold (w : WalkForwards) (f : WalkForwardFold) : Bool :=
  w.folds.any fun x => x.runId == f.runId && x.window.foldIndex == f.window.foldIndex

/-- What a statement answers and does. -/
def serve (i : CallId) : (a : WalkForwardAction) → WalkForwardInput → WalkForwards →
    Option (a.Answer × WalkForwards)
  | .create folds, input, w =>
    if (w.run? input.uuid).isSome then none
    else some (input.uuid, { w with runs := newRun input.uuid folds input.now :: w.runs })
  | .getLock runId, _, w =>
    if w.isLocked runId then some (false, w)
    else some (true, { w with locks := (i, runId) :: w.locks })
  | .releaseLock runId, _, w => some ((), { w with locks := w.locks.filter (· ≠ (i, runId)) })
  | .claim runId, input, w =>
    if (w.run? runId).any (·.status == .pending) then
      some (true, (w.update (·.id == runId) fun r =>
        { r with status := .running, startedAt := some input.now }).note [.claimed i runId])
    else some (false, w)
  | .findRun runId, _, w => some (w.run? runId, w)
  | .startReplay runId, _, w => some ((), w.note [.replaying i runId])
  | .endReplay _, input, w => some (input.outcome, w)
  | .insertFolds runId rows, _, w =>
    if rows.any w.hasFold || (w.run? runId).isNone then none
    else some ((), { w with folds := rows ++ w.folds }.note [.folded runId])
  | .complete runId outcome, input, w =>
    some ((), (w.update (·.id == runId) fun r =>
      { r with status := .completed, datasetHash := some outcome.datasetHash,
               resultHash := some outcome.resultHash, completedAt := some input.now }).note
        [.completed runId])
  | .fail runId, input, w =>
    some ((), (w.update (·.id == runId) fun r =>
      { r with status := .failed, error := some (String.ofList (input.error.toList.take 500)),
               completedAt := some input.now }).note [.gaveUp runId])
  | .failOrphaned, input, w =>
    some ((w.runs.filter (w.isOrphaned input.now)).length,
      (w.update (w.isOrphaned input.now) fun r =>
        { r with status := .failed, error := some walkForwardOrphanError,
                 completedAt := some input.now }).note
          ((w.runs.filter (w.isOrphaned input.now)).map fun r => .orphaned r.id))

end WalkForwards

inductive WalkForwardJob
  | start (folds : List FoldWindow)
  | execute (runId : String)
  | failOrphanedRuns
  deriving DecidableEq

/-- Any number of calls.  A lock is lost with its connection, at any time, or when the process
dies. -/
def walkForwardService : Service WalkForwardAction WalkForwardAction.Answer CallId WalkForwards
    WalkForwardInput WalkForwardJob where
  serve := WalkForwards.serve
  program
    | .start folds => (startWalkForward folds).start
    | .execute runId => (execute runId).start
    | .failOrphanedRuns => failOrphanedRuns.start
  env w w' := ∃ lost : CallId × String → Bool, w' = { w with locks := w.locks.filter fun l => !lost l }
  drop i w := { w with locks := w.locks.filter (·.1 ≠ i) }

end ApiScore
