import ApiScore.Execution.Risk

/-!
# The transactions of the order pipeline

Every transaction of `order-execution.service.ts`, statement by statement: the reservation, the
re-check before the only submission, the three outcomes of a placement, the settlement, and the
cancellations.  The calls that run them are in `Pipeline`.

A transition of an order is versioned: it writes only over the version that was read.
-/

set_option autoImplicit false

namespace ApiScore

open Relational

/-- What the pipeline is built with: the operator ports, and the functions it takes from elsewhere. -/
structure Platform where
  ports : OperatorPortsByMode
  /-- `createHash('sha256')`, in hexadecimal. -/
  sha256Hex : String → String
  /-- `redactErrorMessage`. -/
  redactErrorMessage : String → String
  /-- How a number is written in a text. -/
  numberText : JsNumber → String

/-! ## Keys -/

structure OrderKeyInput where
  mode : StoredMode
  operatorKey : String
  fixtureId : String
  marketKey : String
  selectionKey : String
  strategyVersion : String
  decidedAt : Int
  deriving DecidableEq

/-- The idempotency key of an order: the same signal in the same slot has the same key. -/
def orderIdempotencyKey (P : Platform) (input : OrderKeyInput) : String :=
  P.sha256Hex (String.intercalate "|"
    [input.mode.text, input.operatorKey, input.fixtureId, input.marketKey, input.selectionKey,
      input.strategyVersion, toString (input.decidedAt / decisionBucketMs)])

/-- What a ledger entry is for, as its key shows. -/
inductive KeyKind
  | opening | reserve | release | releasePartial | settle
  deriving DecidableEq, Repr

/-- The key of an entry of this kind, for an account or an order's idempotency key. -/
def KeyKind.key : KeyKind → String → String
  | .opening, id => "open:" ++ id
  | .reserve, key => "reserve:" ++ key
  | .release, key => "release:" ++ key
  | .releasePartial, key => "release-partial:" ++ key
  | .settle, key => "settle:" ++ key

/-- **A key tells its kind and what it is for.** -/
theorem KeyKind.key_inj {κ κ' : KeyKind} {a b : String} :
    κ.key a = κ'.key b ↔ κ = κ' ∧ a = b := by
  cases κ <;> cases κ' <;> simp [KeyKind.key, String.ext_iff]

/-- `portFor`: no adapter is ever used for `LIVE_CANARY`. -/
def Platform.portFor (P : Platform) (mode : StoredMode) : Except ServiceError OperatorPort :=
  let port := match mode with
    | .known .liveCanary => none
    | .known m => P.ports m
    | .unknown _ => none
  match port with
  | some port => .ok port
  | none =>
    .error (.executionBlocked ("Aucun adaptateur opérateur pour le mode " ++ mode.text) false)

/-! ## Statements on orders and decisions -/

/-- `UPDATE bet_orders … WHERE …`, with the number of rows it changed. -/
def updateOrders (p : BetOrder → Bool) (f : BetOrder → BetOrder) : DbTx Nat := do
  let n ← DbTx.read fun db => (db.orders.select p).length
  DbTx.write fun db => (db.orders.update? p f).map fun t => { db with orders := t }
  return n

def updateDecisions (p : BetDecision → Bool) (f : BetDecision → BetDecision) : DbTx Unit :=
  DbTx.write fun db => (db.decisions.update? p f).map fun t => { db with decisions := t }

/-- The order, with its row locked to the end of the transaction. -/
def lockOrder (orderId : String) : DbTx BetOrder := do
  DbTx.get! (.other "Ordre introuvable") (← DbTx.read fun db => db.order? orderId)

/-- A new version of an order's row. -/
def BetOrder.touched (o : BetOrder) (env : TxEnv) : BetOrder :=
  { o with version := o.version + 1, updatedAt := env.dbNow }

/-- What the transitions write on an order. -/
def BetOrder.submit (o : BetOrder) (odd now : Int) : BetOrder :=
  { o with status := .submitting, requestedOdd := odd, submittedAt := some now }

def BetOrder.refuse (o : BetOrder) (code : RejectionCode) (reason : String) : BetOrder :=
  { o with status := .rejected, rejectionCode := some code, statusReason := some (slice255 reason) }

def BetOrder.doubt (o : BetOrder) (since : Option Int) (reason : String) : BetOrder :=
  { o with status := .unknown, unknownSince := since, statusReason := some reason }

def BetOrder.dispute (o : BetOrder) (reason : String) (now : Int) : BetOrder :=
  { o with
    status := .reconciliationRequired, statusReason := some (slice255 reason),
    unknownSince := some (o.unknownSince.getD now) }

def BetOrder.accept (o : BetOrder) (accepted : OperatorOrder) (odd stake : Int) : BetOrder :=
  { o with
    status := .accepted, externalOrderId := accepted.externalOrderId, acceptedOdd := some odd,
    acceptedStake := some stake, acceptedAt := accepted.acceptedAt, statusReason := none }

def BetOrder.settle (o : BetOrder) (outcome : DecisionOutcome) (payout settledAt : Int) :
    BetOrder :=
  { o with
    status := if outcome = .void then .voided else .settled, payout := some payout,
    settledAt := some settledAt }

/-- `transition`: rewrite the order, if its row still has the version that was read. -/
def transition (order : BetOrder) (patch : BetOrder → BetOrder) (env : TxEnv) : DbTx Unit := do
  let affected ← updateOrders (fun o => o.id == order.id && o.version == order.version)
    fun o => (patch o).touched env
  if affected ≠ 1 then DbTx.fail (.other ("Ordre " ++ order.id ++ " modifié concurremment"))
  else return ()

/-- `rejectDecision`, possibly only from one status. -/
def rejectDecision (decisionId : String) (code : RejectionCode) (onlyFrom : Option DecisionStatus) :
    DbTx Unit :=
  updateDecisions (fun d => d.id == decisionId && onlyFrom.all (· == d.status))
    fun d => { d with status := .rejected, rejectionCode := some code }

/-- `INSERT INTO bet_orders`: its decision and its account must exist. -/
def insertOrder (o : BetOrder) : DbTx Unit :=
  DbTx.write fun db =>
    if (db.decision? o.decisionId).isSome && (db.account? o.accountId).isSome then
      (db.orders.insert? o).map fun t => { db with orders := t }
    else none

def insertReceipt (r : BetReceipt) : DbTx Unit :=
  DbTx.write fun db =>
    if (db.order? r.orderId).isSome then
      (db.receipts.insert? r).map fun t => { db with receipts := t }
    else none

/-! ## Reservation -/

/-- The order a reservation inserts. -/
def reservedOrder (decision : BetDecision) (accountId : String) (mode : StoredMode)
    (operatorKey idempotencyKey : String) (stake odd observedAt : Int) (env : TxEnv) :
    BetOrder where
  id := env.uuid
  decisionId := decision.id
  accountId := accountId
  mode := mode
  operatorKey := operatorKey
  idempotencyKey := idempotencyKey
  externalOrderId := none
  status := .reserved
  rejectionCode := none
  statusReason := none
  fixtureId := decision.fixtureId
  providerFixtureId := decision.providerFixtureId
  marketKey := decision.marketKey
  selectionKey := decision.selectionKey
  currency := decision.currency
  requestedStake := stake
  requestedOdd := odd
  minimumOdd := decision.minAcceptableOdd
  quoteCapturedAt := observedAt
  acceptedOdd := none
  acceptedStake := none
  acceptedAt := none
  payout := none
  submittedAt := none
  unknownSince := none
  settledAt := none
  version := 1
  createdAt := env.dbNow
  updatedAt := env.dbNow

def BetOrder.reserveRequest (order : BetOrder) : ReserveStakeRequest where
  accountId := order.accountId
  entryKey := KeyKind.key .reserve order.idempotencyKey
  stake := order.requestedStake
  quoteCapturedAt := order.quoteCapturedAt
  orderId := some order.id

/-- Record the outcome of the stake's reservation on the new order and on its decision. -/
def applyReservation (order : BetOrder) (reservation : ReservationResult) (env : TxEnv) :
    DbTx Unit :=
  match reservation with
  | .rejected code _ reason => do
    transition order (·.refuse code reason) env
    rejectDecision order.decisionId code none
  | .reserved _ _ =>
    updateDecisions (fun d => d.id == order.decisionId) fun d => { d with status := .orderReserved }

/-- Insert the order of an eligible decision and reserve its stake. -/
def insertAndReserve (order : BetOrder) (env : TxEnv) :
    DbTx (Option BetOrder × Option AutoStopRequest) := do
  insertOrder order
  let (reservation, stop) ← reserveWithin order.reserveRequest env
  withPending stop do
    applyReservation order reservation env
    let created ← lockOrder order.id
    return (some created, stop)

/-- The odd, the stake and the instant of the quote a decision was taken on, when it has all three. -/
def BetDecision.terms (d : BetDecision) : Option (Int × Int × Int) := do
  return (← d.decisionOdd, ← d.stake, ← d.decisionObservedAt)

/-- The transaction of `reserve`: the order, or nothing if the decision is not executable, and the
stop it asks for. -/
def reserveTx (P : Platform) (decisionId accountId : String) (env : TxEnv) :
    DbTx (Option BetOrder × Option AutoStopRequest) := do
  match ← DbTx.read fun db => db.orders.find? fun o => o.decisionId == decisionId with
  | some existing => return (some existing, none)
  | none =>
    let control ← lockForExecution env
    let port ← liftRule (P.portFor control.mode)
    let decision ← DbTx.get! (.http ("Décision " ++ decisionId ++ " introuvable"))
      (← DbTx.read fun db => db.decision? decisionId)
    if decision.status ≠ .eligible then return (none, none)
    else
      match decision.terms with
      | some (odd, stake, observedAt) =>
        let run ← DbTx.get! (.other "Simulation introuvable")
          (← DbTx.read fun db => db.runs.find? fun r => r.id == decision.simulationRunId)
        let key := orderIdempotencyKey P {
          mode := control.mode
          operatorKey := port.operatorKey
          fixtureId := decision.fixtureId
          marketKey := decision.marketKey
          selectionKey := decision.selectionKey
          strategyVersion := run.strategyVersion
          decidedAt := decision.decidedAt }
        let taken ← DbTx.read fun db => db.orders.find? fun o => o.idempotencyKey == key
        if taken.isSome then
          -- the same signal in the same slot: one order only
          rejectDecision decision.id .riskCheckFailed none
          return (none, none)
        else
          insertAndReserve
            (reservedOrder decision accountId control.mode port.operatorKey key stake odd observedAt
              env) env
      | none =>
        rejectDecision decision.id .noExecutableOdd none
        return (none, none)

/-! ## Re-check before submission -/

structure Cancellation where
  code : RejectionCode
  reason : String
  deriving DecidableEq

/-- What the re-check found: the order as it left it, and what the caller must do next. -/
structure Recheck where
  order : BetOrder
  cancel : Option Cancellation := none
  stop : Option AutoStopRequest := none
  deriving DecidableEq

/-- Why an order that is still `RESERVED` may not be submitted, if it may not. -/
def recheckVerdict (P : Platform) (current : BetOrder) (control : ExecutionControl)
    (policy : Option RiskPolicy) (quote : Option OperatorQuote) (now : Int) :
    Option (Cancellation × Option AutoStopRequest) :=
  if control.mode ≠ current.mode then
    some (⟨.controlDisabled, "Mode passé à " ++ control.mode.text⟩, none)
  else
    match quote with
    | none => some (⟨.noExecutableOdd, "Aucune cote exécutable avant soumission"⟩, none)
    | some quote =>
      if ¬ quote.available then
        some (⟨.noExecutableOdd, "Aucune cote exécutable avant soumission"⟩, none)
      else if policy.all fun p => now - quote.capturedAt < 0 ∨
          p.maxQuoteAgeMs < now - quote.capturedAt then
        some (⟨.staleOdd, "Cote périmée avant soumission"⟩,
          some ⟨.staleOrSuspendedOdd, [("orderId", current.id)]⟩)
      else if quote.oddValue.ltRat (oddValue current.minimumOdd) then
        some (⟨.oddMoved, "Cote " ++ P.numberText quote.oddValue ++ " sous le minimum " ++
          P.numberText (.num (oddValue current.minimumOdd))⟩, none)
      else none

/-- The re-check of `submit`: only here does an order go from `RESERVED` to `SUBMITTING`. -/
def recheckTx (P : Platform) (orderId : String) (quote : Option OperatorQuote) (env : TxEnv) :
    DbTx Recheck := do
  let control ← lockForExecution env
  let current ← lockOrder orderId
  if current.status ≠ .reserved then return { order := current }
  else
    let policy ← DbTx.read fun db => control.activeRiskPolicyId.bind db.policy?
    match recheckVerdict P current control policy quote env.now with
    | some (cancel, stop) => return { order := current, cancel := some cancel, stop }
    | none =>
      let odd ← DbTx.get! (.other "Cote hors bornes")
        (quote.bind fun q => oddMillis? q.oddValue)
      transition current (·.submit odd env.now) env
      let order ← lockOrder orderId
      return { order }

/-! ## Placement results -/

/-- The entry that gives the whole stake of an order back. -/
def BetOrder.releaseInput (order : BetOrder) : AppendInput where
  type := .release
  entryKey := KeyKind.key .release order.idempotencyKey
  movement := { stakeCents := some (.int order.requestedStake) }
  orderId := some order.id

/-- The stake goes back only if it was reserved. -/
def releaseIfReserved (order : BetOrder) (env : TxEnv) : DbTx Unit := do
  match ← findEntry (KeyKind.key .reserve order.idempotencyKey) with
  | none => return ()
  | some _ =>
    let account ← lockAccount order.accountId
    let _ ← append account order.releaseInput env.dbNow

/-- `cancel`: release the stake of an order known not to be placed, and refuse its decision. -/
def cancelTx (orderId : String) (source : List OrderStatus) (cancel : Cancellation) (env : TxEnv) :
    DbTx Unit := do
  let order ← lockOrder orderId
  if order.status ∉ source then return ()
  else
    releaseIfReserved order env
    transition order (·.refuse cancel.code cancel.reason) env
    rejectDecision order.decisionId cancel.code none

/-- The answer of the operator is ambiguous: only a lookup by the same key will tell. -/
def unknownTx (orderId reason : String) (env : TxEnv) : DbTx Unit := do
  let order ← lockOrder orderId
  if order.status ≠ .submitting then return ()
  else
    transition order (·.doubt (some env.now) reason) env

/-- `acceptanceViolation`. -/
def acceptanceViolation (P : Platform) (order : BetOrder) (accepted : OperatorOrder) :
    Option String :=
  let stake? := accepted.acceptedStake.bind fun s => if isAmountText s then toCents s else none
  if ¬ accepted.receiptHash.any isHashText then some "Reçu absent ou illisible"
  else if accepted.externalOrderId.all (· == "") then some "Identifiant externe absent"
  else if ¬ accepted.acceptedOdd.any (·.geRat (oddValue order.minimumOdd)) then
    some ("Cote acceptée " ++ (accepted.acceptedOdd.elim "null" P.numberText) ++
      " sous le minimum " ++ P.numberText (.num (oddValue order.minimumOdd)))
  else if ¬ stake?.any fun s => 0 < s ∧ s ≤ order.requestedStake then
    some ("Mise acceptée " ++ accepted.acceptedStake.getD "null" ++ " incohérente")
  else none

/-- What an acceptance that breaks the contract does: the order waits for a human, and everything
stops. -/
def violateAcceptance (order : BetOrder) (accepted : OperatorOrder) (reason : String)
    (receiptTaken : Bool) (env : TxEnv) : DbTx (Option AutoStopRequest) := do
  transition order (·.dispute reason env.now) env
  let trigger : AutoStopTrigger :=
    if receiptTaken ∨ accepted.receiptHash.all (· == "") then .receiptInvalid
    else .operatorContractViolation
  return some ⟨trigger, [("orderId", order.id)]⟩

/-- The entry that gives back the part of the stake the operator did not take. -/
def BetOrder.releasePartialInput (order : BetOrder) (acceptedStake : Int) : AppendInput where
  type := .release
  entryKey := KeyKind.key .releasePartial order.idempotencyKey
  movement := { stakeCents := some (.int (order.requestedStake - acceptedStake)) }
  orderId := some order.id

def releaseUnused (order : BetOrder) (acceptedStake : Int) (env : TxEnv) : DbTx Unit :=
  if 0 < order.requestedStake - acceptedStake then do
    let account ← lockAccount order.accountId
    let _ ← append account (order.releasePartialInput acceptedStake) env.dbNow
  else return ()

/-- The executed odd of a decision, and how far it is from the one decided on. -/
def BetDecision.executed (d : BetDecision) (acceptedOdd : ℚ) (millis now : Int) : BetDecision :=
  { d with
    executableOdd := some millis
    executedAt := some now
    slippagePct := d.decisionOdd.map fun odd =>
      jsRound ((acceptedOdd - oddValue odd) / oddValue odd * 1000000) }

/-- Record an acceptance that honours the contract. -/
def recordAcceptance (order : BetOrder) (accepted : OperatorOrder) (env : TxEnv) : DbTx Unit := do
  let hash ← DbTx.get! (.other "Reçu absent") accepted.receiptHash
  let odd ← DbTx.get! (.other "Cote hors bornes") (accepted.acceptedOdd.bind (·.finite?))
  let millis ← DbTx.get! (.other "Cote hors bornes") (oddMillis? (.num odd))
  let stake ← DbTx.get! (.other "Mise illisible") (accepted.acceptedStake.bind toCents)
  insertReceipt { orderId := order.id, receiptHash := hash }
  transition order (·.accept accepted millis stake) env
  releaseUnused order stake env
  let _ ← DbTx.get! (.other "Décision introuvable")
    (← DbTx.read fun db => db.decision? order.decisionId)
  updateDecisions (fun d => d.id == order.decisionId) (·.executed odd millis env.now)

/-- The transaction of `applyAcceptance`, with the stop it asks for. -/
def acceptanceTx (P : Platform) (orderId : String) (accepted : OperatorOrder) (env : TxEnv) :
    DbTx (Option AutoStopRequest) := do
  let order ← lockOrder orderId
  if order.status ∉ [.submitting, .unknown, .reserved] then return none
  else
    let violation := acceptanceViolation P order accepted
    let receiptTaken ← DbTx.read fun db => accepted.receiptHash.any fun hash =>
      (db.receipts.find? fun r => r.receiptHash == hash).isSome
    let externalTaken ← DbTx.read fun db => accepted.externalOrderId.any fun external =>
      (db.orders.find? fun o =>
        o.operatorKey == order.operatorKey && o.externalOrderId == some external).isSome
    if violation.isSome ∨ receiptTaken ∨ externalTaken then
      violateAcceptance order accepted (violation.getD (if receiptTaken
        then "Reçu déjà utilisé par un autre ordre" else "Identifiant externe déjà utilisé"))
        receiptTaken env
    else do
      recordAcceptance order accepted env
      return none

/-! ## Settlement -/

/-- `settlementOutcome`: the profit is what came back less the stake. -/
def settlementOutcome (stakeCents payoutCents : Int) : DecisionOutcome × Int :=
  if payoutCents = stakeCents then (.void, 0)
  else (if 0 < payoutCents - stakeCents then .won else .lost, payoutCents - stakeCents)

/-- What `settleFromOperator` asks `settleStake` for. -/
def BetOrder.settleInput (order : BetOrder) (stake payout : Int) : SettleStakeInput where
  accountId := order.accountId
  entryKey := KeyKind.key .settle order.idempotencyKey
  stake := stake
  payout := payout
  orderId := some order.id

/-- The second transaction of `settleFromOperator`. -/
def settleOrderTx (orderId : String) (outcome : DecisionOutcome) (profitCents payout : Int)
    (settledAt : Option Int) (env : TxEnv) : DbTx Unit := do
  let current ← lockOrder orderId
  if current.status ≠ .accepted then return ()
  else
    let instant := settledAt.getD env.now
    transition current (·.settle outcome payout instant) env
    let profit ← storeCents profitCents
    updateDecisions (fun d => d.id == current.decisionId) fun d => { d with
      status := .completed, outcome := some outcome, profit := some profit
      settledAt := some instant }

/-! ## Sweeps -/

/-- The orders `recoverStaleSubmissions` lists. -/
def Database.staleSubmissions (db : Database) (now : Int) : List BetOrder :=
  db.orders.select fun o => o.status == .submitting &&
    o.submittedAt.any fun t => t < now - submittingStaleMs

/-- The update of `recoverStaleSubmissions`: a submission that was interrupted is ambiguous since it
began. -/
def recoverStaleTx (ids : List String) (env : TxEnv) : DbTx Nat :=
  updateOrders (fun o => ids.contains o.id && o.status == .submitting) fun o =>
    (o.doubt o.submittedAt "Soumission interrompue : résultat inconnu").touched env

/-- The orders of a batch that are still `RESERVED`, locked in the order of their ids. -/
def lockReserved (ids : List String) : DbTx (List BetOrder) :=
  DbTx.read fun db => (db.orders.select fun o => ids.contains o.id && o.status == .reserved).mergeSort
    fun a b => a.id ≤ b.id

/-- Release and refuse the orders of one account that were reserved and never submitted. -/
def cancelReservedOrders (orders : List BetOrder) (accountId : String) (env : TxEnv) :
    DbTx (List String) := do
  let account ← lockAccount accountId
  let reserves ← DbTx.read fun db => db.entries.select fun e =>
    (orders.map fun o => KeyKind.key .reserve o.idempotencyKey).contains e.entryKey
  let releasable := orders.filter fun o =>
    reserves.any fun e => e.entryKey == KeyKind.key .reserve o.idempotencyKey
  let _ ← appendBatch account (releasable.map (·.releaseInput)) env.dbNow
  if releasable = [] then return []
  else
    let _ ← updateOrders (fun o => (releasable.map (·.id)).contains o.id && o.status == .reserved)
      fun o =>
        (o.refuse .operatorUnavailable "Réservation abandonnée avant soumission").touched env
    updateDecisions (fun d => (releasable.map (·.decisionId)).contains d.id) fun d =>
      { d with status := .rejected, rejectionCode := some .operatorUnavailable }
    return releasable.map (·.id)

/-- The transaction of `cancelAbandonedBatch`, with the ids it cancelled. -/
def cancelAbandonedTx (orderIds : List String) (env : TxEnv) : DbTx (List String) := do
  let orders ← lockReserved orderIds.dedup
  match orders with
  | [] => return []
  | first :: rest =>
    if rest.any fun o => o.accountId != first.accountId then
      DbTx.fail (.other "Un lot d’annulation doit cibler un seul compte")
    else cancelReservedOrders orders first.accountId env

end ApiScore
