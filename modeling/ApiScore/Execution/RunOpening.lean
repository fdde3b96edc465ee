import ApiScore.Execution.Runs
import ApiScore.Lib.Replay

/-!
# Opening reconciliation runs

`open` and `openBatch` of `reconciliation.service.ts`, and what their callers do with the answer: the
run of a key is executed by the caller that is told it has created it.  `open` is told by its own
insertion; `openBatch` compares what it reads after its insertion with what it had read before.

* `openRun`, `openBatch` — the two ways to create a run.
* `Opening` — the state of the calls, with who inserted, reported and executed which run.
* `openings` — the runs of any number of such calls.
-/

set_option autoImplicit false

namespace ApiScore

open Relational Concurrent

/-! ## Keys -/

/-- A number with at least `width` digits. -/
def padStart (width n : Nat) : String :=
  let digits := toString n
  String.ofList (List.replicate (width - digits.length) '0') ++ digits

/-- The year, the month and the day of a day counted from 1970. -/
def civilDate (days : Int) : Int × Nat × Nat :=
  -- days are counted from 1 March of year 0, so that a leap day ends its year
  let z := days + 719468
  let era := z / 146097
  let doe := (z % 146097).toNat
  let yoe := (doe - doe / 1460 + doe / 36524 - doe / 146096) / 365
  let doy := doe - (365 * yoe + yoe / 4 - yoe / 100)
  let mp := (5 * doy + 2) / 153
  let month := if mp < 10 then mp + 3 else mp - 9
  (yoe + era * 400 + (if month ≤ 2 then 1 else 0), month, doy - (153 * mp + 2) / 5 + 1)

/-- `Date.prototype.toISOString`, of a valid date in milliseconds. -/
def toISOString (ms : Int) : String :=
  let (year, month, day) := civilDate (ms / 86400000)
  let time := (ms % 86400000).toNat
  (if year < 0 then "-" ++ padStart 6 year.natAbs
    else if year ≤ 9999 then padStart 4 year.natAbs
    else "+" ++ padStart 6 year.natAbs) ++
    "-" ++ padStart 2 month ++ "-" ++ padStart 2 day ++
    "T" ++ padStart 2 (time / 3600000) ++ ":" ++ padStart 2 (time / 60000 % 60) ++
    ":" ++ padStart 2 (time / 1000 % 60) ++ "." ++ padStart 3 (time % 1000) ++ "Z"

example : toISOString 951782400000 = "2000-02-29T00:00:00.000Z" := by decide +kernel

structure StartReconciliationInput where
  accountId : String
  rangeFrom : Int
  rangeTo : Int
  idempotencyKey : Option String
  deriving DecidableEq

/-- The key of a run: the one given, or the account and the range. -/
def StartReconciliationInput.key (input : StartReconciliationInput) : String :=
  input.idempotencyKey.getD
    (input.accountId ++ ":" ++ toISOString input.rangeFrom ++ ":" ++ toISOString input.rangeTo)

/-- A text as `INSERT IGNORE` stores it in an ASCII column of 128 characters. -/
def storedKey (key : String) : String :=
  String.ofList ((key.toList.take 128).map fun c => if c.toNat < 128 then c else '?')

/-- The row that is to be inserted for an input. -/
def StartReconciliationInput.row (input : StartReconciliationInput) (id : String) :
    ReconciliationRun where
  id := id
  idempotencyKey := storedKey input.key
  accountId := input.accountId
  rangeFrom := input.rangeFrom
  rangeTo := input.rangeTo
  status := .running
  criticalCount := 0

/-! ## The calls -/

/-- What a call does at once. -/
inductive OpeningAction
  /-- The accounts with these ids. -/
  | accounts (ids : List String)
  /-- The runs with these keys, before the insertion of a batch. -/
  | existing (keys : List String)
  /-- `INSERT IGNORE`. -/
  | insert (inputs : List StartReconciliationInput)
  /-- The runs with these keys, after the insertion. -/
  | runs (keys : List String)
  /-- The caller is told which runs it has created. -/
  | report (createdRunIds : List String)
  /-- It starts the execution of one. -/
  | execute (runId : String)

abbrev OpeningAction.Result : OpeningAction → Type
  | .accounts _ => Except ServiceError (List String)
  | .existing _ => Except ServiceError (List ReconciliationRun)
  | .insert _ => Except ServiceError Nat
  | .runs _ => Except ServiceError (List ReconciliationRun)
  | .report _ => Unit
  | .execute _ => Unit

abbrev OpeningCall (α : Type) : Type :=
  Async OpeningAction OpeningAction.Result ServiceError α

namespace OpeningCall

def act (a : OpeningAction) : OpeningCall a.Result := ExceptT.lift (Prog.perform a)

/-- The answer of a statement, or what it throws. -/
def served {α : Type} : Except ServiceError α → OpeningCall α
  | .ok x => return x
  | .error e => throw e

end OpeningCall

open OpeningCall (act served)

def accountMissing (accountId : String) : ServiceError :=
  .http ("Compte " ++ accountId ++ " introuvable")

/-- `open`. -/
def openRun (input : StartReconciliationInput) : OpeningCall (ReconciliationRun × Bool) := do
  let found ← served (← act (.accounts [input.accountId]))
  if ¬ found.contains input.accountId then throw (accountMissing input.accountId)
  let affectedRows ← served (← act (.insert [input]))
  let runs ← served (← act (.runs [input.key]))
  match runs with
  | [] => throw (.other "EntityNotFoundError")
  | run :: _ => return (run, affectedRows == 1)

def openBatch (inputs : List StartReconciliationInput) :
    OpeningCall (List ReconciliationRun × List String) := do
  if inputs = [] then return ([], [])
  let accountIds := (inputs.map (·.accountId)).eraseDups
  let found ← served (← act (.accounts accountIds))
  match accountIds.find? fun accountId => !found.contains accountId with
  | some missing => throw (accountMissing missing)
  | none =>
    let keys := inputs.map (·.key)
    let existing ← served (← act (.existing keys))
    let existingKeys := existing.map (·.idempotencyKey)
    let _ ← served (← act (.insert inputs))
    let runs ← served (← act (.runs keys))
    return (runs,
      (runs.filter fun run => !existingKeys.contains run.idempotencyKey).map (·.id))

/-- Tell the caller of `open`. -/
def openAndReport (input : StartReconciliationInput) : OpeningCall (ReconciliationRun × Bool) := do
  let (run, created) ← openRun input
  act (.report (if created then [run.id] else []))
  return (run, created)

/-- `start`: the run that has been created is executed. -/
def startRun (input : StartReconciliationInput) : OpeningCall Unit := do
  let (run, created) ← openAndReport input
  if created then act (.execute run.id)

/-- `executeBatch`. -/
def executeBatch : List String → OpeningCall Unit
  | [] => return ()
  | runId :: runIds => do
    act (.execute runId)
    executeBatch runIds

/-- The runs of one tick of the scheduler: those that have been created are executed. -/
def runBatch (inputs : List StartReconciliationInput) : OpeningCall Unit := do
  let (_, createdRunIds) ← openBatch inputs
  act (.report createdRunIds)
  executeBatch createdRunIds.eraseDups

/-! ## Runs of the calls -/

/-- The state of the calls. -/
structure Opening where
  db : Database
  /-- The keys of each batch that has made its first read and not its last. -/
  watching : List (CallId × List String)
  /-- Which call has inserted which run. -/
  inserted : List (CallId × String)
  /-- Which call has been told that it created which run. -/
  reported : List (CallId × String)
  executed : List (CallId × String)

def Opening.init (db : Database) : Opening := ⟨db, [], [], [], []⟩

/-- What the surroundings decide about one action. -/
structure OpeningInput where
  /-- The ids drawn for the rows of an insertion. -/
  uuid : Nat → String
  /-- The statement fails, before or after it has been served. -/
  fault : Option Fault

def Database.runsByKeys (db : Database) (keys : List String) : List ReconciliationRun :=
  db.reconciliationRuns.select fun r => keys.contains r.idempotencyKey

/-- The rows of an insertion. -/
def insertionRows (inputs : List StartReconciliationInput) (uuid : Nat → String) :
    List ReconciliationRun :=
  inputs.zipIdx.map fun (input, k) => input.row (uuid k)

/-- An insertion that skips the rows it cannot insert: a key that is taken, an empty range, an
account that does not exist. -/
def Database.insertRuns (db : Database) (rows : List ReconciliationRun) :
    Table reconciliationRunSchema × List ReconciliationRun :=
  db.reconciliationRuns.insertIgnore (fun r => (db.account? r.accountId).isSome) rows

/-- The call has inserted these runs. -/
def Opening.insertedBy (s : Opening) (i : CallId) (r : Table reconciliationRunSchema ×
    List ReconciliationRun) : Opening :=
  { s with
    db := { s.db with reconciliationRuns := r.1 }
    inserted := r.2.map (fun run => (i, run.id)) ++ s.inserted }

/-- The call reads no more. -/
def Opening.leave (s : Opening) (i : CallId) : Opening :=
  { s with watching := s.watching.filter fun w => w.1 ≠ i }

/-- What an action does; a call whose statement fails throws, and reads no more. -/
def Opening.exec (i : CallId) : (a : OpeningAction) → OpeningInput → Opening → a.Result × Opening
  | .accounts ids, input, s =>
    match input.fault with
    | some f => (.error f.error.error, s)
    | none => (.ok ((s.db.accounts.select fun a => ids.contains a.id).map (·.id)), s)
  | .existing keys, input, s =>
    match input.fault with
    | some f => (.error f.error.error, s)
    | none => (.ok (s.db.runsByKeys keys), { s with watching := (i, keys) :: s.watching })
  | .insert inputs, input, s =>
    let r := s.db.insertRuns (insertionRows inputs input.uuid)
    match input.fault with
    | some (.rolledBack e) => (.error e.error, s.leave i)
    | some (.unacknowledged e) => (.error e.error, (s.insertedBy i r).leave i)
    | none => (.ok r.2.length, s.insertedBy i r)
  | .runs keys, input, s =>
    match input.fault with
    | some f => (.error f.error.error, s.leave i)
    | none => (.ok (s.db.runsByKeys keys), s.leave i)
  | .report ids, _, s => ((), { s with reported := ids.map (fun id => (i, id)) ++ s.reported })
  | .execute id, _, s => ((), { s with executed := (i, id) :: s.executed })

/-- The calls that open runs. -/
inductive OpeningEntry
  | openRun (input : StartReconciliationInput)
  | start (input : StartReconciliationInput)
  | openBatch (inputs : List StartReconciliationInput)
  deriving DecidableEq

def OpeningCall.start {α : Type} (c : OpeningCall α) :
    Prog OpeningAction OpeningAction.Result Unit :=
  c.run >>= fun _ => .ret ()

def OpeningEntry.program : OpeningEntry → Prog OpeningAction OpeningAction.Result Unit
  | .openRun input => (openAndReport input).start
  | .start input => (startRun input).start
  | .openBatch inputs => (runBatch inputs).start

/-- What a run keeps for ever. -/
def ReconciliationRun.label (r : ReconciliationRun) : String × String := (r.id, r.idempotencyKey)

/-- What the rest of the program does to the database: it writes what it likes, but no run appears,
disappears, or changes its id or its key. -/
def Elsewhere (s s' : Opening) : Prop :=
  ∃ db, db.reconciliationRuns.rows.map (·.label) = s.db.reconciliationRuns.rows.map (·.label) ∧
    s' = { s with db }

/-- Any number of calls that open runs, as far as `allow` lets their actions happen. -/
def openings (allow : CallId → OpeningAction → Opening → Bool) :
    Machine OpeningAction OpeningAction.Result CallId Opening OpeningInput OpeningEntry where
  exec i a input s := if allow i a s then some (s.exec i a input) else none
  program := OpeningEntry.program
  env := Elsewhere
  drop i s := s.leave i

end ApiScore
