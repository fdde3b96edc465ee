import ApiScore.Simulation.NewDecisions
import ApiScore.Simulation.Tick

/-!
# A whole tick

`SimulationService.tick`, under the lock of the row of its run: the orders whose latency is over are
executed, those whose match has a result are settled, and the new signals are decided.  Two ticks of a
run come one after the other, and so do a tick and a stop; the signals alone are read before the lock
is taken.

* `runTick` — what a tick leaves of the decisions.
* `SimulationWorld.Step` — ticks and stops of one run, beside the other runs.
-/

set_option autoImplicit false

namespace ApiScore

open Relational

/-! ## The run -/

inductive SimulationRunStatus
  | running | stopped
  deriving DecidableEq, Repr

/-- A row of `simulation_runs`, as a tick reads it. -/
structure SimulationRunRow where
  id : String
  currency : String
  /-- In cents. -/
  initialBankroll : Int
  status : SimulationRunStatus
  strategySnapshot : BacktestStrategy
  riskSnapshot : SimulationRiskSnapshot
  /-- `chk_simulation_runs_bankroll`. -/
  bankroll_pos : 0 < initialBankroll
  /-- The amounts that a run is started with match `POSITIVE_AMOUNT`. -/
  exposure_pos : ∀ cap ∈ riskSnapshot.maxOpenExposure, 0 < cap

namespace SimulationRunRow

variable (run : SimulationRunRow)

def context : SimulationContext :=
  ⟨run.id, run.currency, run.strategySnapshot, run.riskSnapshot⟩

/-- `stop`, of the row. -/
def stopped : SimulationRunRow := { run with status := .stopped }

/-- The query of the quotes of a tick. -/
def quoteQuery (signals : List LiveSignal) (openRows : List BetDecision) (now : Int) :
    QuoteCandidatesQuery where
  providerFixtureIds :=
    (signals.map (·.providerFixtureId) ++ openRows.map (·.providerFixtureId)).eraseDups
  receivedFrom := (openRows.filterMap (·.executionDueAt)).foldl min now -
    run.riskSnapshot.maxQuoteAgeMs
  receivedTo := now

/-- The decisions of the run. -/
def decisionsOf (decisions : Table decisionSchema) : List BetDecision :=
  decisions.select fun d => d.simulationRunId == run.id

/-- The decisions of the run that wait for their odd or for their match. -/
def openOf (decisions : Table decisionSchema) : List BetDecision :=
  decisions.select fun d => d.simulationRunId == run.id && d.status == .orderReserved

end SimulationRunRow

/-! ## The tick -/

/-- What a tick works with: the signals read before the lock, the time, the odds, the matches, and the
identifiers that the database generates.  `admits` are the rows whose foreign keys are there. -/
structure RunTickInput where
  signals : List LiveSignal
  now : Int
  odds : Table oddsSchema
  fixture : String → Option Fixture
  ids : Nat → String
  admits : BetDecision → Bool

section Tick

variable (R : Runtime) (run : SimulationRunRow) (input : RunTickInput)
  (decisions : Table decisionSchema)

/-- The signals a tick decides: none where the run is stopped. -/
def RunTickInput.candidates : List LiveSignal :=
  if run.status = .running then input.signals else []

/-- The quotes of a tick, at an instant. -/
def RunTickInput.selectQuote : QuoteSelector := fun target instant =>
  selectLatest R.collation
    (loadCandidates input.odds
      (run.quoteQuery (input.candidates run) (run.openOf decisions) input.now))
    ⟨target, instant, run.riskSnapshot.maxQuoteAgeMs⟩

/-- What the tick has read of the signals it decides. -/
def RunTickInput.history : List BetDecision :=
  (run.decisionsOf decisions).filter fun d =>
    ((input.candidates run).map (signalKeyOf R.sha256 run.id)).contains d.signalKey

/-- A new row as `INSERT IGNORE` stores it: a stake that the column cannot hold is cut to the bound. -/
def BetDecision.stored (row : BetDecision) (id : String) : BetDecision :=
  { row with id, stake := row.stake.map fun stake => min stake maxDecimal14 }

/-- The new rows, with the identifiers they get. -/
def RunTickInput.withIds (rows : List BetDecision) : List BetDecision :=
  rows.zipIdx.map fun (row, n) => row.stored (input.ids n)

/-- The executions and the settlements of a tick. -/
def settleTick : Except ServiceError (Table decisionSchema) :=
  match tickChanges ⟨input.now, input.selectQuote R run decisions, input.fixture⟩
      (run.openOf decisions) with
  | .error e => .error e
  | .ok changed =>
    match decisions.upsert? (·.id) changed with
    | some written => .ok written
    | none => .error (.other "ER_CHECK_CONSTRAINT_VIOLATED")

/-- The new decisions of a tick, after the others are `written`. -/
def decideTick (written : Table decisionSchema) : Except ServiceError (Table decisionSchema) :=
  if (input.candidates run).isEmpty then .ok written
  else
    match bankrollOf run.initialBankroll (run.decisionsOf written) with
    | .error e => .error e
    | .ok bankroll =>
      match planNewDecisions R run.context (input.history R run decisions)
          (input.selectQuote R run decisions) input.now (input.candidates run) bankroll with
      | .error e => .error e
      | .ok rows => .ok (written.insertIgnore input.admits (input.withIds rows)).1

/-- `tick`, under the lock of the run; what throws is rolled back. -/
def runTick : Except ServiceError (Table decisionSchema) :=
  match settleTick R run input decisions with
  | .error e => .error e
  | .ok written => decideTick R run input decisions written

end Tick

/-! ## Ticks and stops -/

/-- A run, the decisions of all runs, and the signals of the ticks that wait for the lock. -/
structure SimulationWorld where
  run : SimulationRunRow
  decisions : Table decisionSchema
  waiting : List (List LiveSignal)

/-- One step of the system. -/
inductive SimulationWorld.Step (R : Runtime) : SimulationWorld → SimulationWorld → Prop
  /-- A tick reads the run, and the signals if it is running. -/
  | read (w : SimulationWorld) (signals : List LiveSignal) :
      Step R w { w with
        waiting := (if w.run.status = .running then signals else []) :: w.waiting }
  /-- A tick that waited gets the lock, and commits. -/
  | commit {w : SimulationWorld} {input : RunTickInput} {decisions : Table decisionSchema}
      (hwaits : input.signals ∈ w.waiting)
      (htick : runTick R w.run input w.decisions = .ok decisions) :
      Step R w { w with decisions, waiting := w.waiting.erase input.signals }
  /-- A tick fails, before or after it gets the lock. -/
  | fail (w : SimulationWorld) (signals : List LiveSignal) :
      Step R w { w with waiting := w.waiting.erase signals }
  /-- `stop` gets the lock, and commits. -/
  | stop (w : SimulationWorld) : Step R w { w with run := w.run.stopped }
  /-- Another run writes its decisions. -/
  | others {w : SimulationWorld} {decisions : Table decisionSchema}
      (hours : w.run.decisionsOf decisions = w.run.decisionsOf w.decisions) :
      Step R w { w with decisions }

end ApiScore
