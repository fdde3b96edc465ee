import ApiScore.Lib.Beside
import ApiScore.Execution.Runs
import ApiScore.Simulation.Plan

/-!
# The tick of the simulation

`SimulationService.tick` locks the row of its run, reads the decisions of the run that are
`ORDER_RESERVED`, executes and settles them, and writes the rows it changed, whole, with the new
decisions.  Nothing of the pipeline waits for the row of the run, so any call may come between what
a tick reads and what it writes.

* `tickChanges` — the rows a tick is going to write.
* `TickStep` — the two moments of a tick.
* `Setting.withTicks` — the pipeline, with the simulation beside it.
-/

set_option autoImplicit false

namespace ApiScore

open Relational Concurrent

/-! ## What a tick writes -/

/-- What a tick reads outside its run: the time, the quotes and the matches. -/
structure TickInput where
  now : Int
  selectQuote : QuoteSelector
  fixture : String → Option Fixture

/-- The decisions of a run that a tick takes for its virtual orders. -/
def Database.openDecisions (db : Database) (runId : String) : List BetDecision :=
  db.decisions.select fun d => d.simulationRunId == runId && d.status == .orderReserved

/-- What a tick makes of one row: it is executed, then settled if it can be. -/
def tickRow (input : TickInput) (row : BetDecision) : Except ServiceError (Option BetDecision) :=
  let executed := planExecution row input.selectQuote input.now
  match planSettlement (executed.getD row) (input.fixture row.fixtureId) input.now with
  | .ok settled => .ok (settled.or executed)
  | .error e => .error e

/-- The rows a tick has changed; it throws where the profit of one of them is out of bounds. -/
def tickChanges (input : TickInput) : List BetDecision → Except ServiceError (List BetDecision)
  | [] => .ok []
  | row :: rows =>
    match tickRow input row, tickChanges input rows with
    | .ok changed?, .ok changed => .ok (changed?.toList ++ changed)
    | .error e, _ => .error e
    | .ok _, .error e => .error e

/-- `upsert` the rows that changed, then insert the new ones that do not clash with an old one. -/
def Database.writeTick (db : Database) (changed newRows : List BetDecision) : Option Database :=
  (db.decisions.upsert? (·.id) changed).map fun t =>
    { db with decisions := (t.insertIgnore (fun _ => true) newRows).1 }

/-! ## Ticks among the calls -/

/-- The ticks in progress, and what they have done. -/
structure Simulation where
  /-- The rows that the tick holding the row of a run is going to write. -/
  ticks : String → Option (List BetDecision)
  /-- The decisions that had an order when a tick wrote their row. -/
  overwritten : List String

def Simulation.idle : Simulation := ⟨fun _ => none, []⟩

/-- The decision has an order. -/
def Database.hasOrder (db : Database) (decisionId : String) : Bool :=
  db.orders.rows.any fun o => o.decisionId == decisionId

/-- One moment of a tick.  What it decides of new signals is left open, and `cond` restricts the state
it reads. -/
inductive TickStep (cond : Database → String → TickInput → Prop) :
    World × Simulation → World × Simulation → Prop
  | read {w : World} {sim : Simulation} {runId : String} {input : TickInput}
      {changed : List BetDecision} (hidle : sim.ticks runId = none)
      (hcond : cond w.db runId input)
      (hchanges : tickChanges input (w.db.openDecisions runId) = .ok changed) :
      TickStep cond (w, sim)
        (w, { sim with ticks := Function.update sim.ticks runId (some changed) })
  | write {w : World} {sim : Simulation} {runId : String} {changed newRows : List BetDecision}
      {db : Database} (hticks : sim.ticks runId = some changed)
      (hwrite : w.db.writeTick changed newRows = some db) :
      TickStep cond (w, sim) ({ w with db },
        { ticks := Function.update sim.ticks runId none
          overwritten := (changed.map (·.id)).filter w.db.hasOrder ++ sim.overwritten })
  /-- The transaction of the tick is rolled back. -/
  | abandon {w : World} {sim : Simulation} (runId : String) :
      TickStep cond (w, sim) (w, { sim with ticks := Function.update sim.ticks runId none })

/-- The rest of the program adds decisions, and leaves the others alone. -/
def AddsDecisions (db db' : Database) : Prop :=
  ∃ ds : List BetDecision, db'.decisions.rows = db.decisions.rows ++ ds

/-- What goes on beside the calls of the pipeline. -/
inductive Setting.Beside (S : Setting) (cond : Database → String → TickInput → Prop) :
    World × Simulation → World × Simulation → Prop
  | drift {w w' : World} {sim : Simulation} (h : S.Drift w w') (hadds : AddsDecisions w.db w'.db) :
      S.Beside cond (w, sim) (w', sim)
  | tick {x x' : World × Simulation} (h : TickStep cond x x') : S.Beside cond x x'

/-- The pipeline, with the simulation beside it. -/
def Setting.withTicks (S : Setting) (cond : Database → String → TickInput → Prop) :
    System Action Action.Result CallId (World × Simulation) :=
  S.system.beside (S.Beside cond)

/-! ## What a tick can write -/

theorem planExecution_same {row row' : BetDecision} {selectQuote : QuoteSelector} {now : Int}
    (h : planExecution row selectQuote now = some row') :
    row'.id = row.id ∧ row'.simulationRunId = row.simulationRunId := by
  obtain ⟨dueAt, -, rfl⟩ := Option.map_eq_some_iff.1 h
  split
  · exact ⟨rfl, rfl⟩
  · dsimp only
    split_ifs <;> exact ⟨rfl, rfl⟩

theorem planSettlement_same {row row' : BetDecision} {fixture : Option Fixture} {now : Int}
    (h : planSettlement row fixture now = .ok (some row')) :
    row'.id = row.id ∧ row'.simulationRunId = row.simulationRunId := by
  obtain ⟨_, _, _, -, -, -, -, rfl⟩ := planSettlement_settled h
  exact ⟨rfl, rfl⟩

/-- A row that a tick changes keeps its identity. -/
theorem tickRow_same {input : TickInput} {row row' : BetDecision}
    (h : tickRow input row = .ok (some row')) :
    row'.id = row.id ∧ row'.simulationRunId = row.simulationRunId := by
  have hcurrent : ∀ executed, planExecution row input.selectQuote input.now = executed →
      (executed.getD row).id = row.id ∧
        (executed.getD row).simulationRunId = row.simulationRunId := by
    intro executed hexec
    cases executed with
    | none => exact ⟨rfl, rfl⟩
    | some x => exact planExecution_same hexec
  simp only [tickRow] at h
  cases hplan : planSettlement ((planExecution row input.selectQuote input.now).getD row)
      (input.fixture row.fixtureId) input.now with
  | error e =>
    rw [hplan] at h
    cases h
  | ok settled =>
    rw [hplan] at h
    have h := Except.ok.inj h
    cases settled with
    | none => exact planExecution_same h
    | some x =>
      obtain rfl := Option.some.inj h
      obtain ⟨hid, hrun⟩ := planSettlement_same hplan
      obtain ⟨hid', hrun'⟩ := hcurrent _ rfl
      exact ⟨hid.trans hid', hrun.trans hrun'⟩

/-- Every row a tick writes comes from a row it has read. -/
theorem mem_tickChanges {input : TickInput} {rows changed : List BetDecision}
    (h : tickChanges input rows = .ok changed) {x : BetDecision} (hx : x ∈ changed) :
    ∃ row ∈ rows, tickRow input row = .ok (some x) := by
  induction rows generalizing changed with
  | nil =>
    cases h
    cases hx
  | cons row rows ih =>
    rw [tickChanges] at h
    cases hrow : tickRow input row with
    | error e => simp [hrow] at h
    | ok changed? =>
      cases hrest : tickChanges input rows with
      | error e => simp [hrow, hrest] at h
      | ok rest =>
        simp only [hrow, hrest, Except.ok.injEq] at h
        rw [← h, List.mem_append, Option.mem_toList] at hx
        rcases hx with rfl | hx
        · exact ⟨row, List.mem_cons_self, hrow⟩
        · obtain ⟨y, hy, hyx⟩ := ih hrest hx
          exact ⟨y, List.mem_cons_of_mem row hy, hyx⟩

/-- A row that is neither due nor settled is left alone. -/
theorem tickRow_none {input : TickInput} {row : BetDecision} (hdue : row.due input.now = none)
    (hopen : row.executableOdd = none ∨ row.result? (input.fixture row.fixtureId) input.now = none) :
    tickRow input row = .ok none := by
  have hexec : planExecution row input.selectQuote input.now = none := by
    rw [planExecution, hdue, Option.map_none]
  have hplan : planSettlement row (input.fixture row.fixtureId) input.now = .ok none := by
    rw [planSettlement]
    split_ifs
    · rfl
    · rcases hopen with hodd | hresult
      · rw [hodd]
      · rw [hresult]
        cases row.executableOdd <;> cases row.stake <;> rfl
  simp only [tickRow, hexec, Option.getD_none, hplan, Option.or_none]

end ApiScore
