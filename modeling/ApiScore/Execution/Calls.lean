import ApiScore.Execution.Compare
import ApiScore.Lib.Program

/-!
# The calls of the pipeline

`executeDecision`, `submit`, `settleFromOperator`, `resolveUnknown`, the sweeps and the reconciliation
run, as programs over actions.  An action is what the database or the operator does at once: a
statement outside any transaction, a whole transaction, the permit of a submission, a request to the
operator or its answer.  Everything between two actions of a call can be interleaved with the
actions of the other calls.

* `Action` — the actions, with their answers.
* `submit` — the only call that places an order.
* `executeRun` — a reconciliation run.
-/

set_option autoImplicit false

namespace ApiScore

open Relational Concurrent

/-! ## Actions -/

/-- The statements a call runs outside any transaction. -/
inductive Query
  /-- `findOneByOrFail({ id })` on the orders. -/
  | order (id : String)
  /-- The orders that have been `SUBMITTING` for too long. -/
  | staleSubmissions (now : Int)
  /-- `findOneByOrFail({ id })` on the reconciliation runs. -/
  | reconciliationRun (id : String)
  /-- `findOneByOrFail({ id })` on the accounts. -/
  | account (id : String)
  /-- The orders of an account that are `RESERVED`. -/
  | reservedOrders (accountId : String)
  /-- Read 1 of a reconciliation run. -/
  | ordersInScope (accountId : String) (source target : Int)
  /-- Read 2: the orders, again. -/
  | ordersByIds (ids : List String)
  /-- Read 3: the orders that have a receipt. -/
  | receiptsOf (ids : List String)
  /-- Read 4: the keys of the entries of the orders. -/
  | entryKeysOf (accountId : String) (ids : List String)
  /-- The sums of the entries of an account. -/
  | ledgerSum (accountId : String)
  /-- The entry of an account with the highest version. -/
  | lastEntry (accountId : String)

abbrev Query.Result : Query → Type
  | .order _ => BetOrder
  | .staleSubmissions _ => List BetOrder
  | .reconciliationRun _ => ReconciliationRun
  | .account _ => BankrollAccount
  | .reservedOrders _ => List BetOrder
  | .ordersInScope _ _ _ => List BetOrder
  | .ordersByIds _ => List BetOrder
  | .receiptsOf _ => List String
  | .entryKeysOf _ _ => List String
  | .ledgerSum _ => Balances
  | .lastEntry _ => Option BankrollLedgerEntry

/-- What a statement reads; `none` where `findOneByOrFail` finds nothing. -/
def Query.read (db : Database) : (q : Query) → Option q.Result
  | .order id => db.order? id
  | .staleSubmissions now => some (db.staleSubmissions now)
  | .reconciliationRun id => db.reconciliationRuns.find? fun r => r.id == id
  | .account id => db.account? id
  | .reservedOrders accountId =>
    some (db.orders.select fun o => o.accountId == accountId && o.status == .reserved)
  | .ordersInScope accountId source target => some (db.ordersInScope accountId source target)
  | .ordersByIds ids => some (db.orders.select fun o => ids.contains o.id)
  | .receiptsOf ids => some ((db.receipts.select fun r => ids.contains r.orderId).map (·.orderId))
  | .entryKeysOf accountId ids =>
    some ((db.entries.select fun e => e.accountId == accountId && e.orderId.any ids.contains).map
      (·.entryKey))
  | .ledgerSum accountId => some (db.ledgerSum accountId)
  | .lastEntry accountId => some (db.lastEntry? accountId)

/-- The transactions a call runs. -/
inductive Transaction
  | openAccount (input : OpenAccountInput)
  | reserve (decisionId accountId : String)
  /-- The refusal of a decision whose reservation threw. -/
  | rejectEligible (decisionId : String) (code : RejectionCode)
  | recheck (orderId : String) (quote : Option OperatorQuote)
  | cancel (orderId : String) (source : List OrderStatus) (cancel : Cancellation)
  | unknown (orderId reason : String)
  | acceptance (orderId : String) (accepted : OperatorOrder)
  | settleStake (input : SettleStakeInput)
  | settleOrder (orderId : String) (outcome : DecisionOutcome) (profitCents payout : Int)
      (settledAt : Option Int)
  | recoverStale (ids : List String)
  | cancelAbandoned (orderIds : List String)
  | stop (reason : String) (source : StopSource)
  | changeMode (input : ChangeModeInput)
  | createRiskPolicy (input : CreateRiskPolicyInput)
  | completeRun (runId : String) (drafts : List ItemDraft)
  | failRun (runId : String)

abbrev Transaction.Result : Transaction → Type
  | .openAccount _ => BankrollAccount
  | .reserve _ _ => Option BetOrder × Option AutoStopRequest
  | .rejectEligible _ _ => Unit
  | .recheck _ _ => Recheck
  | .cancel _ _ _ => Unit
  | .unknown _ _ => Unit
  | .acceptance _ _ => Option AutoStopRequest
  | .settleStake _ => BankrollLedgerEntry × Bool
  | .settleOrder _ _ _ _ _ => Unit
  | .recoverStale _ => Nat
  | .cancelAbandoned _ => List String
  | .stop _ _ => ExecutionControl
  | .changeMode _ => ExecutionControl × TransitionDirection
  | .createRiskPolicy _ => RiskPolicy
  | .completeRun _ _ => Unit
  | .failRun _ => Unit

/-- The body of a transaction. -/
def Transaction.body (P : Platform) (env : TxEnv) : (t : Transaction) → DbTx t.Result
  | .openAccount input => ApiScore.openAccount input env.uuid env.dbNow
  | .reserve decisionId accountId => reserveTx P decisionId accountId env
  | .rejectEligible decisionId code => rejectDecision decisionId code (some .eligible)
  | .recheck orderId quote => recheckTx P orderId quote env
  | .cancel orderId source c => cancelTx orderId source c env
  | .unknown orderId reason => unknownTx orderId reason env
  | .acceptance orderId accepted => acceptanceTx P orderId accepted env
  | .settleStake input => settleStakeTx input env
  | .settleOrder orderId outcome profitCents payout settledAt =>
    settleOrderTx orderId outcome profitCents payout settledAt env
  | .recoverStale ids => recoverStaleTx ids env
  | .cancelAbandoned orderIds => cancelAbandonedTx orderIds env
  | .stop reason source => stopTx reason source env
  | .changeMode input => changeModeTx input env
  | .createRiskPolicy input => createRiskPolicyTx input env
  | .completeRun runId drafts => completeRunTx runId drafts
  | .failRun runId => failRunTx runId

/-- Does the transaction lock the control row exclusively? -/
def Transaction.locksControl : Transaction → Bool
  | .stop _ _ | .changeMode _ | .createRiskPolicy _ => true
  | _ => false

/-- What a call does at once. -/
inductive Action
  | query (q : Query)
  | commit (t : Transaction)
  /-- Open the transaction that holds the control row shared during a submission. -/
  | permit (mode : StoredMode)
  /-- The call to the operator begins. -/
  | placeOrder (request : PlaceOrderRequest)
  /-- It is answered, or it has taken too long. -/
  | answer (key : String)
  /-- Commit the transaction of the permit. -/
  | release
  | executableQuote (operatorKey providerFixtureId marketKey selectionKey : String)
  | lookup (operatorKey : String) (keys : List String)
  | balance (operatorKey currency : String)
  /-- `new Date()`. -/
  | date
  /-- Which of two reads that were started together is served first. -/
  | order

abbrev Action.Result : Action → Type
  | .query q => Except ServiceError q.Result
  | .commit t => Except TxError t.Result
  | .permit _ => Except ServiceError Unit
  | .placeOrder _ => Unit
  | .answer _ => Except String PlaceOrderResult
  | .release => Except ServiceError Unit
  | .executableQuote _ _ _ _ => Option OperatorQuote
  | .lookup _ _ => Except String OperatorLookupByKey
  | .balance _ _ => Except String OperatorBalance
  | .date => Int
  | .order => Bool

/-- An asynchronous function of the pipeline. -/
abbrev Call (α : Type) : Type := Async Action Action.Result ServiceError α

/-- Perform an action, whatever its answer. -/
def perform (a : Action) : Call a.Result := ExceptT.lift (Prog.perform a)

/-- The message of an exception. -/
def ServiceError.message : ServiceError → String
  | .executionBlocked message _ | .ledgerRule message | .http message | .other message => message

/-- A statement outside any transaction. -/
def query (q : Query) : Call q.Result := do
  match ← perform (.query q) with
  | .ok r => return r
  | .error e => throw e

/-- A transaction. -/
def commit (t : Transaction) : Call t.Result := do
  match ← perform (.commit t) with
  | .ok r => return r
  | .error e => throw e.error

/-- `Promise.all` of two reads. -/
def both {α β : Type} (a : Call α) (b : Call β) : Call (α × β) := do
  if ← perform .order then
    let x ← a
    let y ← b
    return (x, y)
  else
    let y ← b
    let x ← a
    return (x, y)

/-- `Promise.all` of three reads. -/
def all₃ {α β γ : Type} (a : Call α) (b : Call β) (c : Call γ) : Call (α × β × γ) := do
  if ← perform .order then
    let x ← a
    let (y, z) ← both b c
    return (x, y, z)
  else if ← perform .order then
    let y ← b
    let (x, z) ← both a c
    return (x, y, z)
  else
    let z ← c
    let (x, y) ← both a b
    return (x, y, z)

/-! ## Stopping -/

/-- `autoStop`: never throws. -/
def autoStop (request : AutoStopRequest) : Call Unit := do
  let _ ← perform (.commit (.stop request.reason .automatic))

/-- `applyStop`. -/
def applyStop : Option AutoStopRequest → Call Unit
  | none => return ()
  | some request => autoStop request

/-- `stop`. -/
def stop (reason : String) (source : StopSource) : Call Unit := do
  let _ ← commit (.stop reason source)

/-- `changeMode`: towards `DISABLED` it is a stop. -/
def changeMode (input : ChangeModeInput) (reason : String) : Call Unit :=
  if input.targetMode = .disabled then stop reason .manual
  else do
    let _ ← commit (.changeMode input)

/-! ## Reserving -/

/-- `reserve`: whatever the transaction throws refuses the decision. -/
def reserve (decisionId accountId : String) : Call (Option BetOrder) := do
  match ← perform (.commit (.reserve decisionId accountId)) with
  | .ok (order, pendingStop) =>
    applyStop pendingStop
    return order
  | .error e =>
    let classified := classifyReservationError e
    match classified.1 with
    | .rejected code _ _ => commit (.rejectEligible decisionId code)
    | .reserved _ _ => pure ()
    applyStop classified.2
    return none

/-! ## Placement results -/

/-- `cancel`. -/
def cancel (orderId : String) (source : List OrderStatus) (c : Cancellation) : Call BetOrder := do
  commit (.cancel orderId source c)
  query (.order orderId)

def cancelReserved (order : BetOrder) (c : Cancellation) : Call BetOrder :=
  cancel order.id [.reserved] c

def cancelSubmitting (order : BetOrder) (c : Cancellation) : Call BetOrder :=
  cancel order.id [.submitting, .reserved] c

def cancelUnknown (order : BetOrder) (c : Cancellation) : Call Unit := do
  let _ ← cancel order.id [.unknown] c

/-- `applyAcceptance`. -/
def applyAcceptance (orderId : String) (accepted : OperatorOrder) : Call BetOrder := do
  let stop ← commit (.acceptance orderId accepted)
  applyStop stop
  query (.order orderId)

/-- The end of `applyPlacementResult` for an ambiguous answer. -/
def markUnknown (P : Platform) (orderId reason : String) : Call BetOrder := do
  commit (.unknown orderId (P.redactErrorMessage reason))
  query (.order orderId)

/-- `REJECTION_BY_OPERATOR_REASON`. -/
def rejectionByOperatorReason (reasonCode : String) : RejectionCode :=
  if reasonCode = "ODD_MOVED" then .oddMoved
  else if reasonCode = "NO_QUOTE" then .noExecutableOdd
  else if reasonCode = "MARKET_SUSPENDED" then .suspendedMarket
  else .operatorUnavailable

/-- `applyPlacementResult`: an acceptance that is not well formed is ambiguous. -/
def applyPlacementResult (P : Platform) (orderId : String) : PlaceOrderResult → Call BetOrder
  | .accepted acceptance =>
    if isWellFormedAcceptance acceptance then applyAcceptance orderId acceptance.toOperatorOrder
    else markUnknown P orderId "Réponse d’acceptation malformée"
  | .rejected reasonCode => do
    let order ← query (.order orderId)
    cancelSubmitting order
      ⟨rejectionByOperatorReason reasonCode, slice255 ("Refus opérateur " ++ reasonCode)⟩
  | .unknown reason => markUnknown P orderId reason

/-! ## Submitting -/

/-- What `submit` sends to the operator. -/
def BetOrder.request (order : BetOrder) : PlaceOrderRequest where
  decisionId := order.decisionId
  idempotencyKey := order.idempotencyKey
  operatorKey := order.operatorKey
  fixtureId := order.fixtureId
  providerFixtureId := order.providerFixtureId
  marketKey := order.marketKey
  selectionKey := order.selectionKey
  requestedOdd := oddValue order.requestedOdd
  minimumOdd := oddValue order.minimumOdd
  stake := decimalText order.requestedStake
  currency := order.currency
  quoteCapturedAt := order.quoteCapturedAt

/-- The submission under its permit: the answer, or why there is none. -/
def placeWithPermit (P : Platform) (order : BetOrder) : Call PlaceOrderResult := do
  perform (.placeOrder order.request)
  let answer ← perform (.answer order.idempotencyKey)
  let released ← perform .release
  match answer, released with
  | .ok result, .ok _ => return result
  | .error message, _ => return .unknown (P.redactErrorMessage message)
  | .ok _, .error e => return .unknown (P.redactErrorMessage e.message)

/-- The third part of `submit`: an order this call holds as `SUBMITTING`. -/
def place (P : Platform) (order : BetOrder) : Call BetOrder :=
  match order.mode with
  | .unknown _ =>
    cancelSubmitting order ⟨.controlDisabled, "Mode d’exécution invalide avant soumission"⟩
  | .known _ => do
    match ← perform (.permit order.mode) with
    | .ok _ =>
      let result ← placeWithPermit P order
      applyPlacementResult P order.id result
    | .error (.executionBlocked _ unreadable) =>
      applyStop (if unreadable then some ⟨.controlUnreadable, [("orderId", order.id)]⟩ else none)
      cancelSubmitting order ⟨.controlDisabled, "Arrêt juste avant soumission"⟩
    | .error e => applyPlacementResult P order.id (.unknown (P.redactErrorMessage e.message))

/-- What `submit` makes of a re-check that threw. -/
def recheckError (P : Platform) (reserved : BetOrder) (e : ServiceError) : Recheck :=
  match e with
  | .executionBlocked message unreadable =>
    { order := reserved, cancel := some ⟨.controlDisabled, P.redactErrorMessage message⟩
      stop := if unreadable then some ⟨.controlUnreadable, []⟩ else none }
  | e =>
    { order := reserved, cancel := some ⟨.riskCheckFailed, P.redactErrorMessage e.message⟩ }

/-- The second part of `submit`: act on the re-check. -/
def afterRecheck (P : Platform) (r : Recheck) : Call BetOrder :=
  match r.cancel with
  | some c => do
    applyStop r.stop
    cancelReserved r.order c
  | none => if r.order.status ≠ .submitting then return r.order else place P r.order

/-- `submit`. -/
def submit (P : Platform) (orderId : String) : Call BetOrder := do
  let reserved ← query (.order orderId)
  if reserved.status ≠ .reserved then return reserved
  else
    match P.portFor reserved.mode with
    | .error _ => cancelReserved reserved ⟨.controlDisabled, "Mode sans adaptateur"⟩
    | .ok port =>
      -- read before the transaction: no network call under a lock
      let quote ← perform (.executableQuote port.operatorKey reserved.providerFixtureId
        reserved.marketKey reserved.selectionKey)
      match ← perform (.commit (.recheck orderId quote)) with
      | .ok r => afterRecheck P r
      | .error e => afterRecheck P (recheckError P reserved e.error)

/-- `executeDecision`. -/
def executeDecision (P : Platform) (decisionId accountId : String) : Call (Option BetOrder) := do
  match ← reserve decisionId accountId with
  | none => return none
  | some order =>
    if order.status ≠ .reserved then return some order
    else return some (← submit P order.id)

/-! ## Settling -/

/-- The payout of an order the operator reports as decided, when it is a well-formed amount. -/
def OperatorOrder.settlement? (operatorOrder : OperatorOrder) : Option String :=
  if operatorOrder.status.isSettled then operatorOrder.payout.filter isAmountText else none

/-- `settleFromOperator`. -/
def settleFromOperator (orderId : String) (operatorOrder : OperatorOrder) : Call BetOrder := do
  let order ← query (.order orderId)
  if order.status ≠ .accepted then return order
  else
    match operatorOrder.settlement?, order.acceptedStake with
    | none, _ => return order
    | some _, none => throw (.other "Montant décimal invalide")
    | some text, some stake =>
      match toCents text with
      | none => throw (.other "Montant décimal invalide")
      | some payout =>
        let settled ← commit (.settleStake (order.settleInput stake payout))
        applyStop (if settled.2 then some ⟨.dailyLimitReached, [("limit", "DAILY_LOSS")]⟩ else none)
        let outcome := settlementOutcome stake payout
        commit (.settleOrder orderId outcome.1 outcome.2 payout operatorOrder.settledAt)
        query (.order orderId)

/-! ## Ambiguous orders -/

/-- How long an order has been ambiguous. -/
def BetOrder.unknownAge (order : BetOrder) (now : Int) : Int :=
  now - order.unknownSince.getD (toDate order.updatedAt)

/-- `resolveUnknown`: only what the operator says of the same key decides. -/
def resolveUnknown (order : BetOrder) (operatorOrder : Option OperatorOrder) (now : Int) :
    Call UnknownResolution :=
  if order.status ≠ .unknown then return .pending
  else
    match operatorOrder with
    | some op =>
      if op.status = .rejected then do
        cancelUnknown order ⟨.operatorUnavailable, "Refus confirmé par lecture opérateur"⟩
        return .rejected
      else do
        let accepted ← applyAcceptance order.id op
        if accepted.status = .reconciliationRequired then return .reconciliationRequired
        else if op.status.isSettled then
          let _ ← settleFromOperator order.id op
          return .settled
        else return .accepted
    | none =>
      if unknownMaxAgeMs ≤ order.unknownAge now then do
        autoStop ⟨.unknownOrderTooOld, [("orderId", order.id)]⟩
        return .tooOld
      else if unknownGraceMs ≤ order.unknownAge now then do
        cancelUnknown order
          ⟨.operatorUnavailable, "Absent chez l’opérateur après le délai de grâce"⟩
        return .declaredNotPlaced
      else return .pending

/-- `recoverStaleSubmissions`. -/
def recoverStaleSubmissions (now : Int) : Call Nat := do
  let stale ← query (.staleSubmissions now)
  if stale = [] then return 0
  else commit (.recoverStale (stale.map (·.id)))

/-- `cancelAbandonedBatch`. -/
def cancelAbandonedBatch (orderIds : List String) : Call (List String) :=
  if orderIds = [] then return [] else commit (.cancelAbandoned orderIds)

/-! ## Reconciliation -/

/-- `cancelAbandonedReservations`, with its items. -/
def cancelAbandonedReservations (accountId : String) (now : Int) : Call (List ItemDraft) := do
  let stale ← query (.reservedOrders accountId)
  let abandoned := stale.filter fun o => submittingStaleMs ≤ now - toDate o.updatedAt
  let cancelled ← cancelAbandonedBatch (abandoned.map (·.id))
  return cancelled.map fun id =>
    item (some id) .order .resolved .warning "Réservation jamais soumise relâchée"

/-- `lookupOperatorOrders`: one request for all the keys. -/
def lookupOperatorOrders (P : Platform) (port : OperatorPort) (keys : List String) :
    Call OperatorLookupByKey :=
  if keys = [] then return []
  else do
    let answer ← perform (.lookup port.operatorKey keys.dedup)
    return readLookups P keys answer

/-- The item of an `UNKNOWN` order that was resolved, or was not. -/
def resolutionItem (order : BetOrder) (resolution : UnknownResolution) : ItemDraft :=
  let stuck := resolution = .tooOld ∨ resolution = .reconciliationRequired
  item (some order.id) .order
    (if resolution = .pending then .pending else if stuck then .mismatch else .resolved)
    (if stuck then .critical else if resolution = .pending then .warning else .info)
    ("UNKNOWN → " ++ resolution.text)

/-- Resolve or settle one of the listed orders, if the operator has told something of it. -/
def resolveListed (lookups : OperatorLookupByKey) (now : Int) (order : BetOrder) :
    Call (List ItemDraft) :=
  if order.status ≠ .unknown ∧ order.status ≠ .accepted then return []
  else
    match lookupOf lookups order.idempotencyKey with
    | none | some (.lookupFailed _) => return []
    | some lookup =>
      if order.status = .unknown then do
        let resolution ← resolveUnknown order lookup.order? now
        return [resolutionItem order resolution]
      else
        match lookup.order? with
        | none => return []
        | some op =>
          if op.status.isSettled then do
            let _ ← settleFromOperator order.id op
            return [item (some order.id) .settlement .resolved .info
              ("Règlement opérateur " ++ op.status.text)]
          else return []

/-- The listed orders, one after the other. -/
def resolveAll (lookups : OperatorLookupByKey) (now : Int) :
    List BetOrder → Call (List ItemDraft)
  | [] => return []
  | order :: orders => do
    let drafts ← resolveListed lookups now order
    let rest ← resolveAll lookups now orders
    return drafts ++ rest

/-- Reads 2 to 4 of a run. -/
def readAgain (accountId : String) (ids : List String) :
    Call (List BetOrder × List String × List String) :=
  if ids = [] then return ([], [], [])
  else all₃ (query (.ordersByIds ids)) (query (.receiptsOf ids)) (query (.entryKeysOf accountId ids))

/-- The comparison of the account's balance: not while an order that was read may not have reached
the operator yet. -/
def checkBalance (P : Platform) (port : OperatorPort) (accountId : String)
    (fresh : List BetOrder) : Call (BankrollAccount × List ItemDraft) := do
  let freshAccount ← query (.account accountId)
  let ambiguous := (fresh.filter fun o => ambiguousStatuses.contains o.status).length
  if port.kind = .paper then return (freshAccount, [])
  else if 0 < ambiguous then
    return (freshAccount, [item none .balance .pending .warning
      ("Solde non comparable : " ++ toString ambiguous ++
        " ordre(s) en attente de résolution")])
  else
    let answer ← perform (.balance port.operatorKey freshAccount.currency)
    return (freshAccount, [compareBalance P freshAccount answer])

/-- `dataSourceInvariant`, with its item. -/
def checkLedger (accountId : String) : Call (List ItemDraft) := do
  let account ← query (.account accountId)
  let sums ← query (.ledgerSum accountId)
  let last ← query (.lastEntry accountId)
  if (invariantReport account sums last).ok then return []
  else return [item none .ledger .mismatch .critical "Invariant du ledger rompu"]

/-- Everything a run does inside its `try`. -/
def examine (P : Platform) (run : ReconciliationRun) (now : Int) : Call Unit := do
  let account ← query (.account run.accountId)
  match P.portFor account.mode with
  | .error e => throw e
  | .ok port =>
    let _ ← recoverStaleSubmissions now
    let abandoned ← cancelAbandonedReservations account.id now
    let listed ← query (.ordersInScope account.id run.rangeFrom run.rangeTo)
    let lookups ← lookupOperatorOrders P port (lookupKeys listed)
    let resolved ← resolveAll lookups now listed
    let (fresh, receiptIds, ledgerKeys) ← readAgain account.id (listed.map (·.id))
    let compared := fresh.flatMap
      (compareFresh lookups receiptIds ledgerKeys (decide (port.kind ≠ .paper)))
    let (freshAccount, balance) ← checkBalance P port account.id fresh
    let ledger ← checkLedger freshAccount.id
    let drafts := abandoned ++ listed.flatMap (lookupItem lookups) ++ resolved ++ compared ++
      balance ++ ledger
    commit (.completeRun run.id drafts)
    applyStop ((stopTriggerFor drafts).map fun trigger =>
      ⟨trigger, [("reconciliationRunId", run.id)]⟩)

/-- `execute`: whatever is thrown fails the run and stops the execution. -/
def executeRun (P : Platform) (runId : String) (now : Int) : Call ReconciliationRun := do
  let run ← query (.reconciliationRun runId)
  if run.status ≠ .running then return run
  else
    tryCatch (examine P run now) fun _ => do
      commit (.failRun runId)
      autoStop ⟨.reconciliationLate, [("reconciliationRunId", runId), ("cause", "échec")]⟩
    query (.reconciliationRun runId)

end ApiScore
