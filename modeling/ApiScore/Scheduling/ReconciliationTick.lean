import ApiScore.Execution.RunOpening
import ApiScore.Lib.Embedding

/-!
# The ticks of the reconciliation scheduler

`runTick` of `reconciliation.scheduler.ts`, in any number of instances of the backend.  A tick takes a
named lock of the database on a connection of its own, opens one run for each account that has orders
to look at, and executes those that it has created.  The lock belongs to the connection: it survives a
release that fails, and the connection goes back to the pool with it.

* `ReconciliationScheduler.runTick` — a tick, as a program.
* `Fleet` — the instances, the connections, the lock, and the runs that are opened.
* `fleet` — the runs of any number of ticks.
-/

set_option autoImplicit false

namespace ApiScore

open Relational Concurrent

/-! ## The program -/

/-- `MIN_INTERVAL_MS`, `DEFAULT_INTERVAL_MS`, `LOOKBACK_MS`, `LATE_FACTOR`. -/
def minIntervalMs : Int := 60000

def defaultIntervalMs : Int := 300000

def lookbackMs : Int := 24 * 60 * 60 * 1000

def lateFactor : Int := 3

/-- `intervalMs`, of what the environment has, as a number. -/
def intervalMs (raw : JsNumber) : Int :=
  match raw.finite? with
  | some q => if q.isInt then max q.num minIntervalMs else defaultIntervalMs
  | none => defaultIntervalMs

inductive TickOutcome
  | skippedLocal | skippedLocked | done | failed
  deriving DecidableEq, Repr

/-- What a tick does at once. -/
inductive ReconcilerAction
  /-- Test and raise `running`. -/
  | enter (backend : String)
  /-- A connection of the pool, for the tick alone. -/
  | connect
  /-- `GET_LOCK(…, 0)`: has it been acquired? -/
  | getLock
  /-- The accounts with orders that are open, or created since this instant. -/
  | accounts (since : Int)
  /-- A piece of `openBatch` and `executeBatch`. -/
  | opening (a : OpeningAction)
  | readControl
  /-- When each of the accounts was last reconciled. -/
  | lastCompleted (accountIds : List String)
  | autoStop (trigger : AutoStopTrigger)
  | releaseLock
  | releaseRunner
  /-- Lower `running`. -/
  | leave (backend : String)

abbrev ReconcilerAction.Result : ReconcilerAction → Type
  | .enter _ => Bool
  | .connect => Except ServiceError Unit
  | .getLock => Except ServiceError Bool
  | .accounts _ => Except ServiceError (List String)
  | .opening a => a.Result
  | .readControl => ControlSnapshot
  | .lastCompleted _ => Except ServiceError (List (String × Int))
  | .autoStop _ | .releaseLock | .releaseRunner | .leave _ => Unit

abbrev TickCall (α : Type) : Type := Async ReconcilerAction ReconcilerAction.Result ServiceError α

namespace TickCall

def act (a : ReconcilerAction) : TickCall a.Result := ExceptT.lift (Prog.perform a)

/-- The answer of a statement, or what it throws. -/
def served {α : Type} : Except ServiceError α → TickCall α
  | .ok x => return x
  | .error e => throw e

/-- A call of `ReconciliationService`. -/
def opens {α : Type} (c : OpeningCall α) : TickCall α :=
  ExceptT.mk (c.run.embed ReconcilerAction.opening fun _ b => b)

end TickCall

open TickCall (act served opens)

/-- The input of the run of an account in the slot of an instant. -/
def tickInput (now interval : Int) (accountId : String) : StartReconciliationInput where
  accountId := accountId
  rangeFrom := now - lookbackMs
  rangeTo := now
  idempotencyKey := some ("auto:" ++ accountId ++ ":" ++ toString (now / interval))

/-- An account that has not been reconciled for three intervals. -/
def isLate (lastCompleted : List (String × Int)) (now interval : Int) (accountId : String) : Bool :=
  match lastCompleted.lookup accountId with
  | none => true
  | some last => decide (lateFactor * interval < now - last)

/-- `checkLateness`. -/
def checkLateness (accountIds : List String) (now interval : Int) : TickCall Unit := do
  if accountIds = [] then return ()
  let snapshot ← act .readControl
  if snapshot.mode = .disabled then return ()
  let lastCompleted ← served (← act (.lastCompleted accountIds))
  if accountIds.any (isLate lastCompleted now interval) then act (.autoStop .reconciliationLate)

/-- What a tick does under the lock. -/
def reconcileAll (now interval : Int) : TickCall Unit := do
  let accountIds ← served (← act (.accounts (now - lookbackMs)))
  opens (runBatch (accountIds.map (tickInput now interval)))
  checkLateness accountIds now interval

abbrev TickProg (α : Type) : Type := Prog ReconcilerAction ReconcilerAction.Result α

def ReconcilerAction.perform (a : ReconcilerAction) : TickProg a.Result := Prog.perform a

/-- The handler of a tick that throws. -/
def failTick : TickProg TickOutcome := do
  ReconcilerAction.perform (.autoStop .controlUnreadable)
  return .failed

/-- What a tick does on its connection, but for giving it back. -/
def lockedTick (now interval : Int) : TickProg TickOutcome := do
  let connected : Except ServiceError Unit ← ReconcilerAction.perform .connect
  match connected with
  | .error _ => failTick
  | .ok () =>
    let acquired : Except ServiceError Bool ← ReconcilerAction.perform .getLock
    match acquired with
    | .error _ => failTick
    | .ok false => return .skippedLocked
    | .ok true =>
      let outcome ← match ← (reconcileAll now interval).run with
        | .ok () => pure .done
        | .error _ => failTick
      ReconcilerAction.perform .releaseLock
      return outcome

/-- `runTick`, of an instance of the backend, at an instant. -/
def ReconciliationScheduler.runTick (backend : String) (now interval : Int) :
    TickProg TickOutcome := do
  let entered : Bool ← ReconcilerAction.perform (.enter backend)
  if entered then
    let outcome ← lockedTick now interval
    ReconcilerAction.perform .releaseRunner
    ReconcilerAction.perform (.leave backend)
    return outcome
  else return .skippedLocal

/-! ## The fleet -/

structure Fleet where
  opening : Opening
  /-- `running`, of each instance. -/
  running : String → Bool
  /-- The connection of each tick that has one. -/
  runners : List (CallId × Nat)
  /-- The connection that has the named lock, and how many times. -/
  lock : Option (Nat × Nat)
  /-- The ticks that have been told that they acquired it, and have not released it. -/
  holders : List CallId
  stops : List (CallId × AutoStopTrigger)

def Fleet.init (db : Database) : Fleet := ⟨.init db, fun _ => false, [], none, [], []⟩

/-- What the surroundings decide about one action. -/
structure FleetInput where
  /-- For the pieces of `openBatch`: the ids drawn, and whether the statement fails; for the other
  statements, whether they fail. -/
  opening : OpeningInput
  connection : Nat
  interlockOpen : Bool
  lastCompleted : List (String × Int)

/-- The lock, acquired once more by a connection, where nobody else has it. -/
def acquired (lock : Option (Nat × Nat)) (connection : Nat) : Option (Nat × Nat) :=
  match lock with
  | none => some (connection, 1)
  | some (c, n) => if c = connection then some (c, n + 1) else none

/-- The lock, released once. -/
def released : Option (Nat × Nat) → Option (Nat × Nat)
  | some (c, n + 2) => some (c, n + 1)
  | _ => none

/-- The accounts a tick looks at. -/
def Database.accountsToReconcile (db : Database) (since : Int) : List String :=
  ((db.orders.select fun o => openStatuses.contains o.status || decide (since * 1000 ≤ o.createdAt)).map
    (·.accountId)).eraseDups

/-- A tick's connection goes back to the pool. -/
def Fleet.giveBack (s : Fleet) (i : CallId) : Fleet :=
  { s with runners := s.runners.filter fun r => r.1 ≠ i }

/-- A tick is past its use of the lock, and its batch reads no more. -/
def Fleet.letGo (s : Fleet) (i : CallId) (lock : Option (Nat × Nat)) : Fleet :=
  { s with opening := s.opening.leave i, holders := s.holders.filter (· ≠ i), lock }

/-- What an action does; `none` where the connection is another tick's. -/
def Fleet.exec (i : CallId) : (a : ReconcilerAction) → FleetInput → Fleet → Option (a.Result × Fleet)
  | .enter backend, _, s =>
    some (!s.running backend, { s with running := Function.update s.running backend true })
  | .connect, input, s =>
    match input.opening.fault with
    | some f => some (.error f.error.error, s)
    | none =>
      if input.connection ∈ s.runners.map (·.2) then none
      else some (.ok (), { s with runners := (i, input.connection) :: s.runners })
  | .getLock, input, s =>
    match input.opening.fault, (s.runners.lookup i).bind (acquired s.lock) with
    | some (.rolledBack e), _ => some (.error e.error, s)
    | some (.unacknowledged e), none => some (.error e.error, s)
    | some (.unacknowledged e), some lock => some (.error e.error, { s with lock := some lock })
    | none, none => some (.ok false, s)
    | none, some lock => some (.ok true, { s with lock := some lock, holders := i :: s.holders })
  | .accounts since, input, s =>
    match input.opening.fault with
    | some f => some (.error f.error.error, s)
    | none => some (.ok (s.opening.db.accountsToReconcile since), s)
  | .opening a, input, s =>
    let r := s.opening.exec i a input.opening
    some (r.1, { s with opening := r.2 })
  | .readControl, input, s => some (toSnapshot s.opening.db.control input.interlockOpen, s)
  | .lastCompleted _, input, s =>
    match input.opening.fault with
    | some f => some (.error f.error.error, s)
    | none => some (.ok input.lastCompleted, s)
  | .autoStop trigger, _, s => some ((), { s with stops := (i, trigger) :: s.stops })
  | .releaseLock, input, s =>
    match input.opening.fault with
    | some (.rolledBack _) => some ((), s.letGo i s.lock)
    | _ => some ((), s.letGo i (released s.lock))
  | .releaseRunner, _, s => some ((), s.giveBack i)
  | .leave backend, _, s =>
    some ((), { s with running := Function.update s.running backend false })

/-- The lock after the death of a tick, and of its connection. -/
def Fleet.lockAfter (s : Fleet) (i : CallId) : Option (Nat × Nat) :=
  s.lock.filter fun l => s.runners.lookup i ≠ some l.1

/-- The process of a tick dies: the server closes its connection. -/
def Fleet.drop (i : CallId) (s : Fleet) : Fleet := (s.letGo i (s.lockAfter i)).giveBack i

/-- What the rest of the program does: it writes what it likes, and opens runs by hand, but none under
a key that a tick between its two reads looks for; and the connections that no tick works with may be
lost, with the lock. -/
def Fleet.Elsewhere (s s' : Fleet) : Prop :=
  ∃ db lock,
    (∀ r ∈ s.opening.db.reconciliationRuns, ∃ r' ∈ db.reconciliationRuns, r'.label = r.label) ∧
    (∀ r' ∈ db.reconciliationRuns, (∃ r ∈ s.opening.db.reconciliationRuns, r.label = r'.label) ∨
      ∀ w ∈ s.opening.watching, r'.idempotencyKey ∉ w.2) ∧
    (lock = s.lock ∨ s.holders = [] ∧ lock = none) ∧
    s' = { s with opening := { s.opening with db }, lock }

/-- A tick of an instance, at an instant, with what `RECONCILIATION_INTERVAL_MS` says there. -/
structure TickEntry where
  backend : String
  now : Int
  rawInterval : JsNumber

/-- Any number of ticks, in any number of instances. -/
def fleet : Machine ReconcilerAction ReconcilerAction.Result CallId Fleet FleetInput TickEntry where
  exec := Fleet.exec
  program e :=
    ReconciliationScheduler.runTick e.backend e.now (intervalMs e.rawInterval) >>= fun _ => .ret ()
  env := Fleet.Elsewhere
  drop := Fleet.drop

end ApiScore
