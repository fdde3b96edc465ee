import ApiScore.Lib.Table
import ApiScore.Lib.Transaction
import ApiScore.Execution.OperatorPort

/-!
# The tables of the execution pipeline

The rows the pipeline reads and writes, and for each table the unique keys, column bounds and
`CHECK` constraints of its migration.  A `decimal(14,2)` column is its number of cents, a
`decimal(8,3)` column its number of thousandths.  A `datetime(3)` is in milliseconds; the
`datetime(6)` columns set by the database are in microseconds.

The texts the program copies for audit only (actors, metadata, receipts' contents, audit events)
are left out.
-/

set_option autoImplicit false

namespace ApiScore

open Relational

/-! ## Columns -/

/-- The largest amount of a `decimal(14,2)` column. -/
def maxDecimal14 : Int := 10 ^ 14 - 1

/-- A number of cents a `decimal(14,2)` column holds. -/
def fitsDecimal14 (cents : Int) : Bool := decide (|cents| ≤ maxDecimal14)

/-- A number of thousandths a `decimal(8,3)` column holds. -/
def fitsDecimal8 (millis : Int) : Bool := decide (|millis| ≤ 10 ^ 8 - 1)

/-- The thousandths MySQL stores for a number written to a `decimal(8,3)` column: halves go away
from zero.  A float that is not finite is refused. -/
def oddMillis? (x : JsNumber) : Option Int :=
  (x.finite?).map fun q => if 0 ≤ q then jsRound (q * 1000) else -jsRound (-q * 1000)

/-- The number read back from a `decimal(8,3)` column. -/
def oddValue (millis : Int) : ℚ := millis / 1000

/-! ## Rows -/

structure BankrollAccount where
  id : String
  mode : StoredMode
  operatorKey : String
  currency : String
  availableBalance : Int
  reservedBalance : Int
  version : Nat
  deriving DecidableEq

structure BankrollLedgerEntry where
  accountId : String
  orderId : Option String
  entryKey : String
  entryType : LedgerEntryType
  /-- Signed effect on the available balance. -/
  amount : Int
  /-- Signed effect on the reserved balance. -/
  reservedDelta : Int
  availableAfter : Int
  reservedAfter : Int
  currency : String
  /-- The version of the account this entry produced. -/
  accountVersion : Nat
  createdAt : Int
  deriving DecidableEq

structure RiskPolicy where
  id : String
  version : Nat
  currency : String
  maxStakePerBet : Int
  maxDailyStake : Int
  maxDailyLoss : Int
  maxOpenExposure : Int
  maxQuoteAgeMs : Int
  deriving DecidableEq

structure ExecutionControl where
  id : String
  mode : StoredMode
  version : Nat
  activeRiskPolicyId : Option String
  stopReason : Option String
  stopSource : Option StopSource
  deriving DecidableEq

structure ExecutionGateEvidence where
  id : String
  controlId : String
  gateKey : GateKey
  reportHash : String
  verdict : GateVerdict
  approvedByUserId : String
  deriving DecidableEq

structure SimulationRun where
  id : String
  strategyVersion : String
  deriving DecidableEq

structure BetDecision where
  id : String
  simulationRunId : String
  signalKey : String
  idempotencyKey : String
  fixtureId : String
  providerFixtureId : String
  teamId : Option Int
  isHomeTeam : Bool
  marketType : String
  marketKey : String
  selectionKey : String
  selection : String
  ruleName : String
  elapsedAtDecision : Option Int
  minAcceptableOdd : Int
  status : DecisionStatus
  rejectionCode : Option RejectionCode
  decidedAt : Int
  currency : String
  stake : Option Int
  decisionOddsSnapshotId : Option String
  decisionOdd : Option Int
  decisionProviderKey : Option String
  decisionBookmakerKey : Option String
  decisionObservedAt : Option Int
  decisionReceivedAt : Option Int
  executionDueAt : Option Int
  executableOddsSnapshotId : Option String
  executableOdd : Option Int
  executableObservedAt : Option Int
  executableReceivedAt : Option Int
  /-- In ten-thousandths of a percent. -/
  slippagePct : Option Int
  executedAt : Option Int
  outcome : Option DecisionOutcome
  profit : Option Int
  settledAt : Option Int
  deriving DecidableEq

structure BetOrder where
  id : String
  decisionId : String
  accountId : String
  mode : StoredMode
  operatorKey : String
  idempotencyKey : String
  externalOrderId : Option String
  status : OrderStatus
  rejectionCode : Option RejectionCode
  statusReason : Option String
  fixtureId : String
  providerFixtureId : String
  marketKey : String
  selectionKey : String
  currency : String
  requestedStake : Int
  requestedOdd : Int
  minimumOdd : Int
  quoteCapturedAt : Int
  acceptedOdd : Option Int
  acceptedStake : Option Int
  acceptedAt : Option Int
  payout : Option Int
  submittedAt : Option Int
  unknownSince : Option Int
  settledAt : Option Int
  version : Nat
  createdAt : Int
  updatedAt : Int
  deriving DecidableEq

structure BetReceipt where
  orderId : String
  receiptHash : String
  deriving DecidableEq

inductive ReconciliationRunStatus
  | running | completed | failed
  deriving DecidableEq, Repr

structure ReconciliationRun where
  id : String
  idempotencyKey : String
  accountId : String
  rangeFrom : Int
  rangeTo : Int
  status : ReconciliationRunStatus
  criticalCount : Nat
  deriving DecidableEq

/-- An item of a run, without the evidence it shows to a reader. -/
structure ReconciliationItem where
  runId : String
  orderId : Option String
  itemType : ReconciliationItemType
  result : ReconciliationResult
  severity : ReconciliationSeverity
  detail : String
  deriving DecidableEq

/-- A `datetime(6)` read as a JavaScript date, in milliseconds. -/
def toDate (micros : Int) : Int := micros / 1000

/-! ## Schemas -/

def accountSchema : Schema BankrollAccount where
  clash a b := a.id == b.id ||
    (a.mode == b.mode && a.operatorKey == b.operatorKey && a.currency == b.currency)
  symm a b := by simp only [BEq.comm (a := a.id), BEq.comm (a := a.mode),
    BEq.comm (a := a.operatorKey), BEq.comm (a := a.currency)]
  check a := decide (0 ≤ a.availableBalance) && decide (0 ≤ a.reservedBalance) &&
    fitsDecimal14 a.availableBalance && fitsDecimal14 a.reservedBalance

def entrySchema : Schema BankrollLedgerEntry where
  clash a b := a.entryKey == b.entryKey ||
    (a.accountId == b.accountId && a.accountVersion == b.accountVersion)
  symm a b := by simp only [BEq.comm (a := a.entryKey), BEq.comm (a := a.accountId),
    BEq.comm (a := a.accountVersion)]
  check e := decide (0 ≤ e.availableAfter) && decide (0 ≤ e.reservedAfter) &&
    fitsDecimal14 e.amount && fitsDecimal14 e.reservedDelta &&
    fitsDecimal14 e.availableAfter && fitsDecimal14 e.reservedAfter &&
    decide (e.entryKey.length ≤ 128) && e.entryKey.toList.all fun c => c.toNat < 128

def policySchema : Schema RiskPolicy where
  clash a b := a.id == b.id || a.version == b.version
  symm a b := by simp only [BEq.comm (a := a.id), BEq.comm (a := a.version)]
  check p := decide (0 < p.maxStakePerBet) && decide (0 < p.maxDailyStake) &&
    decide (0 < p.maxDailyLoss) && decide (0 < p.maxOpenExposure) && decide (0 < p.maxQuoteAgeMs) &&
    decide (p.maxStakePerBet ≤ p.maxDailyStake) && decide (p.maxStakePerBet ≤ p.maxOpenExposure)

def evidenceSchema : Schema ExecutionGateEvidence where
  clash a b := a.id == b.id || (a.gateKey == b.gateKey && a.reportHash == b.reportHash)
  symm a b := by simp only [BEq.comm (a := a.id), BEq.comm (a := a.gateKey),
    BEq.comm (a := a.reportHash)]
  check _ := true

def runSchema : Schema SimulationRun where
  clash a b := a.id == b.id
  symm _ _ := BEq.comm
  check _ := true

def decisionSchema : Schema BetDecision where
  clash a b := a.id == b.id || a.idempotencyKey == b.idempotencyKey
  symm a b := by simp only [BEq.comm (a := a.id), BEq.comm (a := a.idempotencyKey)]
  check d :=
    -- `chk_bet_decisions_stake`
    (d.stake.all fun s => decide (0 ≤ s)) &&
    -- `chk_bet_decisions_rejection`
    (d.status == .rejected) == d.rejectionCode.isSome &&
    -- `chk_bet_decisions_reserved_has_quote`
    (!(d.status == .orderReserved || d.status == .completed) ||
      (d.decisionOdd.isSome && d.stake.any fun s => decide (0 < s))) &&
    -- `chk_bet_decisions_completed`
    (!(d.status == .completed) ||
      (d.outcome.isSome && d.profit.isSome && d.settledAt.isSome && d.executableOdd.isSome)) &&
    -- column sizes
    d.stake.all fitsDecimal14 && d.profit.all fitsDecimal14 &&
    d.executableOdd.all fitsDecimal8 && d.slippagePct.all fun s => decide (|s| ≤ 10 ^ 9 - 1)

def orderSchema : Schema BetOrder where
  clash a b := a.id == b.id || a.decisionId == b.decisionId ||
    a.idempotencyKey == b.idempotencyKey ||
    (a.operatorKey == b.operatorKey && a.externalOrderId.isSome &&
      a.externalOrderId == b.externalOrderId)
  symm a b := by
    rw [BEq.comm (a := a.id), BEq.comm (a := a.decisionId), BEq.comm (a := a.idempotencyKey),
      BEq.comm (a := a.operatorKey)]
    by_cases h : a.externalOrderId = b.externalOrderId
    · rw [h]
    · rw [beq_false_of_ne h, beq_false_of_ne (Ne.symm h), Bool.and_false, Bool.and_false]
  check o :=
    -- `chk_bet_orders_amounts`
    decide (0 < o.requestedStake) && decide (1000 < o.minimumOdd) &&
    decide (o.minimumOdd ≤ o.requestedOdd) &&
    (o.acceptedStake.all fun s => decide (0 < s) && decide (s ≤ o.requestedStake)) &&
    (o.payout.all fun p => decide (0 ≤ p)) &&
    -- `chk_bet_orders_accepted`
    (!(o.status == .accepted || o.status == .settled) ||
      (o.externalOrderId.isSome && o.acceptedOdd.isSome && o.acceptedStake.isSome &&
        o.acceptedAt.isSome)) &&
    -- `chk_bet_orders_unknown`
    (!(o.status == .unknown) || o.unknownSince.isSome) &&
    -- column sizes
    (o.externalOrderId.all fun s => decide (s.length ≤ 128)) &&
    fitsDecimal14 o.requestedStake && fitsDecimal8 o.requestedOdd && fitsDecimal8 o.minimumOdd &&
    o.acceptedOdd.all fitsDecimal8 && o.payout.all fitsDecimal14

def receiptSchema : Schema BetReceipt where
  clash a b := a.orderId == b.orderId || a.receiptHash == b.receiptHash
  symm a b := by simp only [BEq.comm (a := a.orderId), BEq.comm (a := a.receiptHash)]
  check _ := true

def reconciliationRunSchema : Schema ReconciliationRun where
  clash a b := a.id == b.id || a.idempotencyKey == b.idempotencyKey
  symm a b := by simp only [BEq.comm (a := a.id), BEq.comm (a := a.idempotencyKey)]
  check r := decide (r.rangeFrom < r.rangeTo) && decide (r.idempotencyKey.length ≤ 128) &&
    r.idempotencyKey.toList.all fun c => c.toNat < 128

/-! ## The database -/

structure Database where
  /-- The row of `execution_controls` with scope `GLOBAL`. -/
  control : Option ExecutionControl
  policies : Table policySchema
  evidence : Table evidenceSchema
  accounts : Table accountSchema
  entries : Table entrySchema
  runs : Table runSchema
  decisions : Table decisionSchema
  orders : Table orderSchema
  receipts : Table receiptSchema
  reconciliationRuns : Table reconciliationRunSchema
  reconciliationItems : List ReconciliationItem

namespace Database

/-- The database after the migrations: only the control row, stopped. -/
def migrated (controlId : String) : Database where
  control := some
    { id := controlId, mode := .known .disabled, version := 1, activeRiskPolicyId := none,
      stopReason := some "Initialisation : exécution désactivée par défaut",
      stopSource := some .bootstrap }
  policies := .empty
  evidence := .empty
  accounts := .empty
  entries := .empty
  runs := .empty
  decisions := .empty
  orders := .empty
  receipts := .empty
  reconciliationRuns := .empty
  reconciliationItems := []

def account? (db : Database) (id : String) : Option BankrollAccount :=
  db.accounts.find? fun a => a.id == id

def entry? (db : Database) (key : String) : Option BankrollLedgerEntry :=
  db.entries.find? fun e => e.entryKey == key

def policy? (db : Database) (id : String) : Option RiskPolicy :=
  db.policies.find? fun p => p.id == id

def decision? (db : Database) (id : String) : Option BetDecision :=
  db.decisions.find? fun d => d.id == id

def order? (db : Database) (id : String) : Option BetOrder :=
  db.orders.find? fun o => o.id == id

/-- The entries of an account, oldest first. -/
def entriesOf (db : Database) (accountId : String) : List BankrollLedgerEntry :=
  db.entries.select fun e => e.accountId == accountId

end Database

/-! ## Errors -/

/-- A cause of an automatic stop, with the details its reason shows. -/
structure AutoStopRequest where
  trigger : AutoStopTrigger
  details : List (String × String)
  deriving DecidableEq

/-- The exceptions the services tell apart. -/
inductive ServiceError
  /-- `ExecutionBlockedError`. -/
  | executionBlocked (message : String) (unreadable : Bool)
  /-- `LedgerRuleError`. -/
  | ledgerRule (message : String)
  /-- A `HttpException`: conflict, not found, bad request. -/
  | http (message : String)
  /-- Any other error: the database, a broken constraint, a programming error. -/
  | other (message : String)
  deriving DecidableEq

/-- An exception that leaves a transaction, with the stop its body had already asked for. -/
structure TxError where
  error : ServiceError
  pendingStop : Option AutoStopRequest := none
  deriving DecidableEq

/-- The body of a transaction over the database. -/
abbrev DbTx (α : Type) := Tx Database TxError α

namespace DbTx

variable {α : Type}

def fail (e : ServiceError) : DbTx α := throw { error := e }

@[simp] theorem fail_eq_ok {e : ServiceError} {db : Database} {r : α × Database} :
    (fail e : DbTx α) db = .ok r ↔ False := by
  rw [fail, Tx.throw_eq_ok]

@[simp] theorem fail_bind_eq_ok {β : Type} {e : ServiceError} {f : α → DbTx β} {db : Database}
    {r : β × Database} : ((fail e : DbTx α) >>= f) db = .ok r ↔ False := by
  simp [Tx.bind_eq_ok]

/-- The value of an `Option`, or an exception. -/
def get! (e : ServiceError) (o : Option α) : DbTx α := Tx.orThrow { error := e } o

@[simp] theorem get!_eq_ok {e : ServiceError} {o : Option α} {db : Database} {r : α × Database} :
    (get! e o : DbTx α) db = .ok r ↔ ∃ a, o = some a ∧ r = (a, db) := by
  rw [get!, Tx.orThrow_eq_ok]

/-- A plain read. -/
def read (f : Database → α) : DbTx α := fun db => .ok (f db, db)

@[simp] theorem read_eq_ok {f : Database → α} {db : Database} {r : α × Database} :
    (read f) db = .ok r ↔ r = (f db, db) := by
  rw [read, Except.ok.injEq, eq_comm]

/-- A write that the database may refuse. -/
def write (f : Database → Option Database) : DbTx Unit := fun db =>
  match f db with
  | some db' => .ok ((), db')
  | none => .error { error := .other "Contrainte violée" }

@[simp] theorem write_eq_ok {f : Database → Option Database} {db : Database}
    {r : Unit × Database} : (write f) db = .ok r ↔ f db = some r.2 := by
  obtain ⟨⟨⟩, db'⟩ := r
  rw [write]
  split <;> simp_all

end DbTx
end ApiScore
