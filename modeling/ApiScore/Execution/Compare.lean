import Mathlib.Data.List.Infix
import ApiScore.Execution.Orders

/-!
# Comparing with the operator

The part of `reconciliation.service.ts` that only computes: which orders are looked up, how the
answers are read, what the comparison of one order or of the balance says, and which stop the items
ask for.

* `compareOrder` — the items of one order.
* `compareBalance` — the item of the account.
-/

set_option autoImplicit false

namespace ApiScore

open Relational

/-! ## Items -/

/-- `ItemDraft`, without the evidence it shows to a reader. -/
structure ItemDraft where
  orderId : Option String
  itemType : ReconciliationItemType
  result : ReconciliationResult
  severity : ReconciliationSeverity
  detail : String
  deriving DecidableEq

/-- `item`: the detail is cut to the size of its column. -/
def item (orderId : Option String) (itemType : ReconciliationItemType)
    (result : ReconciliationResult) (severity : ReconciliationSeverity) (detail : String) :
    ItemDraft :=
  ⟨orderId, itemType, result, severity, slice255 detail⟩

/-- The row of an item. -/
def ItemDraft.ofRun (d : ItemDraft) (runId : String) : ReconciliationItem :=
  ⟨runId, d.orderId, d.itemType, d.result, d.severity, d.detail⟩

def OrderStatus.text : OrderStatus → String
  | .reserved => "RESERVED"
  | .submitting => "SUBMITTING"
  | .accepted => "ACCEPTED"
  | .rejected => "REJECTED"
  | .unknown => "UNKNOWN"
  | .settled => "SETTLED"
  | .voided => "VOIDED"
  | .reconciliationRequired => "RECONCILIATION_REQUIRED"

def OperatorOrderStatus.text : OperatorOrderStatus → String
  | .accepted => "ACCEPTED"
  | .rejected => "REJECTED"
  | .settled => "SETTLED"
  | .voided => "VOIDED"

/-- `UnknownResolution`. -/
inductive UnknownResolution
  | accepted | settled | rejected | declaredNotPlaced | pending | tooOld | reconciliationRequired
  deriving DecidableEq, Repr

def UnknownResolution.text : UnknownResolution → String
  | .accepted => "ACCEPTED"
  | .settled => "SETTLED"
  | .rejected => "REJECTED"
  | .declaredNotPlaced => "DECLARED_NOT_PLACED"
  | .pending => "PENDING"
  | .tooOld => "TOO_OLD"
  | .reconciliationRequired => "RECONCILIATION_REQUIRED"

/-! ## Scope -/

/-- `OPEN_STATUSES`: the orders a run looks at whatever their age. -/
def openStatuses : List OrderStatus :=
  [.reserved, .submitting, .unknown, .accepted, .reconciliationRequired]

/-- `LOOKUP_STATUSES`: the orders a run asks the operator about. -/
def lookupStatuses : List OrderStatus :=
  [.unknown, .accepted, .settled, .voided, .rejected, .reconciliationRequired]

/-- Read 1 of a run: the orders of the range, and all the orders of the account that are open. -/
def Database.ordersInScope (db : Database) (accountId : String) (source target : Int) :
    List BetOrder :=
  (db.orders.select fun o => o.accountId == accountId &&
    ((decide (source * 1000 ≤ o.createdAt) && decide (o.createdAt < target * 1000)) ||
      openStatuses.contains o.status)).mergeSort
    fun a b => a.createdAt < b.createdAt ∨ (a.createdAt = b.createdAt ∧ a.id ≤ b.id)

/-! ## Looking up -/

/-- `OperatorLookupByKey`. -/
abbrev OperatorLookupByKey := List (String × OperatorOrderLookup)

/-- What the operator's answer says of a key: the last result for it. -/
def returnedFor (results : OperatorLookupByKey) (key : String) : Option OperatorOrderLookup :=
  (results.reverse.find? fun r => r.1 == key).map (·.2)

/-- `lookupOperatorOrders`, from the answer of the operator or the exception it ended in: a key
without a result counts as a lookup that failed. -/
def readLookups (P : Platform) (keys : List String)
    (answer : Except String OperatorLookupByKey) : OperatorLookupByKey :=
  keys.dedup.map fun key =>
    match answer with
    | .ok results =>
      (key, (returnedFor results key).getD (.lookupFailed "Réponse opérateur incomplète"))
    | .error message => (key, .lookupFailed (P.redactErrorMessage message))

/-- `operatorLookups.get`. -/
def lookupOf (lookups : OperatorLookupByKey) (key : String) : Option OperatorOrderLookup :=
  lookups.lookup key

/-- The keys a run looks up. -/
def lookupKeys (orders : List BetOrder) : List String :=
  (orders.filter fun o => lookupStatuses.contains o.status).map (·.idempotencyKey)

/-- The item of an order whose lookup did not succeed. -/
def lookupItem (lookups : OperatorLookupByKey) (o : BetOrder) : List ItemDraft :=
  if lookupStatuses.contains o.status then
    match lookupOf lookups o.idempotencyKey with
    | none => [item (some o.id) .order .pending .critical "LOOKUP_FAILED : Résultat absent"]
    | some (.lookupFailed reason) =>
      [item (some o.id) .order .pending .critical ("LOOKUP_FAILED : " ++ reason)]
    | some _ => []
  else []

/-- The order the operator has found, if it has. -/
def OperatorOrderLookup.order? : OperatorOrderLookup → Option OperatorOrder
  | .found order => some order
  | .notFound | .lookupFailed _ => none

/-! ## One order -/

/-- The acceptance of an order, as the operator reports it and as it is stored. -/
def sameAcceptance (order : BetOrder) (operatorOrder : OperatorOrder) : Bool :=
  operatorOrder.externalOrderId == order.externalOrderId &&
  operatorOrder.acceptedStake == order.acceptedStake.map decimalText &&
  operatorOrder.acceptedOdd == order.acceptedOdd.map (fun millis => .num (oddValue millis))

/-- `compareOrder`, for an order the operator has taken. -/
def compareTaken (order : BetOrder) (operatorOrder : Option OperatorOrder) (hasReceipt : Bool)
    (ledgerKeys : List String) (operatorTracked : Bool) : List ItemDraft :=
  [match operatorOrder with
    | none =>
      item (some order.id) .order .missingAtOperator
        (if operatorTracked then .critical else .warning)
        (if operatorTracked then "Ordre accepté introuvable chez l’opérateur"
          else "Opérateur papier sans historique persistant")
    | some op =>
      if ¬ sameAcceptance order op ∨ op.status = .rejected then
        item (some order.id) .order .mismatch .critical "Ordre différent chez l’opérateur"
      else item (some order.id) .order .isMatch .info "Ordre concordant"] ++
  (if hasReceipt then []
    else [item (some order.id) .receipt .missingLocally .critical "Acceptation sans reçu"]) ++
  (if ledgerKeys.contains (KeyKind.key .reserve order.idempotencyKey) then []
    else [item (some order.id) .ledger .missingLocally .critical
      "Acceptation sans réservation au ledger"]) ++
  (if order.status = .accepted ∨ ledgerKeys.contains (KeyKind.key .settle order.idempotencyKey)
    then []
    else [item (some order.id) .ledger .missingLocally .critical
      "Ordre réglé sans écriture de règlement"]) ++
  (if order.status = .accepted ∨ operatorOrder.all fun op =>
      op.payout == order.payout.map decimalText then []
    else [item (some order.id) .settlement .mismatch .critical "Gain réglé différent"])

/-- `compareOrder`, for an order that was refused. -/
def compareRejected (order : BetOrder) (operatorOrder : Option OperatorOrder)
    (ledgerKeys : List String) : List ItemDraft :=
  (if operatorOrder.all fun op => op.status == .rejected then []
    else [item (some order.id) .order .mismatch .critical
      "Ordre refusé localement mais présent chez l’opérateur"]) ++
  (if ledgerKeys.contains (KeyKind.key .reserve order.idempotencyKey) &&
      !ledgerKeys.contains (KeyKind.key .release order.idempotencyKey) then
    [item (some order.id) .ledger .missingLocally .critical
      "Ordre refusé dont la mise n’a pas été relâchée"]
    else [])

/-- `compareOrder`: a local order that is accepted or terminal against the operator and the
ledger. -/
def compareOrder (order : BetOrder) (operatorOrder : Option OperatorOrder) (hasReceipt : Bool)
    (ledgerKeys : List String) (operatorTracked : Bool) : List ItemDraft :=
  match order.status with
  | .accepted | .settled | .voided =>
    compareTaken order operatorOrder hasReceipt ledgerKeys operatorTracked
  | .rejected => compareRejected order operatorOrder ledgerKeys
  | .reconciliationRequired =>
    [item (some order.id) .order .mismatch .critical
      (order.statusReason.getD "Intervention manuelle requise")]
  | .reserved | .submitting | .unknown => []

/-- The statuses a run compares with a lookup, once it has read the orders again. -/
def comparedStatuses : List OrderStatus :=
  [.accepted, .settled, .voided, .rejected, .reconciliationRequired]

/-- The items of an order that was read again. -/
def compareFresh (lookups : OperatorLookupByKey) (receiptIds ledgerKeys : List String)
    (operatorTracked : Bool) (order : BetOrder) : List ItemDraft :=
  if order.status = .unknown then []
  else
    let lookup := if comparedStatuses.contains order.status then
      lookupOf lookups order.idempotencyKey else none
    match lookup with
    | some (.lookupFailed _) => []
    | _ => compareOrder order (lookup.bind (·.order?)) (receiptIds.contains order.id) ledgerKeys
        operatorTracked

/-! ## The balance -/

/-- The orders whose stake the operator may or may not have taken yet. -/
def ambiguousStatuses : List OrderStatus := [.reserved, .submitting, .unknown]

/-- `same`: an amount that cannot be read is an exception. -/
def sameBalance (account : BankrollAccount) (balance : OperatorBalance) : Except String Bool :=
  if balance.currency ≠ account.currency then .ok false
  else
    match toCents balance.available with
    | none => .error "Montant décimal invalide"
    | some available =>
      if available ≠ account.availableBalance then .ok false
      else
        match toCents balance.exposure with
        | none => .error "Montant décimal invalide"
        | some exposure => .ok (exposure == account.reservedBalance)

/-- The item of the balance, from the operator's answer or the exception it ended in. -/
def compareBalance (P : Platform) (account : BankrollAccount)
    (answer : Except String OperatorBalance) : ItemDraft :=
  match answer.bind (sameBalance account) with
  | .ok true => item none .balance .isMatch .info "Solde concordant"
  | .ok false => item none .balance .mismatch .critical "Solde opérateur divergent"
  | .error message =>
    item none .balance .pending .critical
      ("Solde opérateur illisible : " ++ P.redactErrorMessage message)

/-! ## The end of a run -/

/-- How many items are critical. -/
def criticalCount (drafts : List ItemDraft) : Nat :=
  (drafts.filter fun d => d.severity == .critical).length

/-- `String.prototype.includes`. -/
def includes (text part : String) : Bool := decide (part.toList <:+: text.toList)

/-- `stopTriggerFor`: the most precise cause of a stop among the critical items. -/
def stopTriggerFor (items : List ItemDraft) : Option AutoStopTrigger :=
  let critical := items.filter fun d => d.severity == .critical
  if critical = [] then none
  else if critical.any fun d => includes d.detail "LOOKUP_FAILED" then some .operatorErrorRate
  else if critical.any fun d => d.itemType == .balance then some .operatorBalanceMismatch
  else if critical.any fun d => d.itemType == .receipt then some .receiptMissing
  else if critical.any fun d => d.itemType == .ledger then some .ledgerInvariantBroken
  else if critical.any fun d => includes d.detail "UNKNOWN" then some .unknownOrderTooOld
  else some .operatorContractViolation

/-- Close a run that is still `RUNNING`. -/
def closeRun (runId : String) (status : ReconciliationRunStatus) (count : Nat) : DbTx Unit :=
  DbTx.write fun db =>
    (db.reconciliationRuns.update? (fun r => r.id == runId && r.status == .running)
      fun r => { r with status, criticalCount := count }).map
        fun t => { db with reconciliationRuns := t }

/-- The transaction that ends a run: its items, then its row. -/
def completeRunTx (runId : String) (drafts : List ItemDraft) : DbTx Unit := do
  DbTx.write fun db =>
    if drafts = [] ∨ (db.reconciliationRuns.find? fun r => r.id == runId).isSome then
      some { db with
        reconciliationItems := db.reconciliationItems ++ drafts.map (·.ofRun runId) }
    else none
  closeRun runId .completed (criticalCount drafts)

/-- The update that ends a run whose execution threw: its count stays what it was. -/
def failRunTx (runId : String) : DbTx Unit :=
  DbTx.write fun db =>
    (db.reconciliationRuns.update? (fun r => r.id == runId && r.status == .running)
      fun r => { r with status := .failed }).map fun t => { db with reconciliationRuns := t }

/-- The ends of a run write its items and its row, and nothing else. -/
theorem completeRunTx_spec {runId : String} {drafts : List ItemDraft} {db db' : Database}
    {u : Unit} (h : completeRunTx runId drafts db = .ok (u, db')) :
    db' = { db with
      reconciliationItems := db.reconciliationItems ++ drafts.map (·.ofRun runId)
      reconciliationRuns := db'.reconciliationRuns } := by
  rw [completeRunTx, Tx.bind_eq_ok] at h
  obtain ⟨_, s, hitems, hclose⟩ := h
  have hs := DbTx.write_eq_ok.1 hitems
  rw [closeRun, DbTx.write_eq_ok] at hclose
  obtain ⟨t, -, rfl⟩ := Option.map_eq_some_iff.1 hclose
  split_ifs at hs
  cases hs
  rfl

theorem failRunTx_spec {runId : String} {db db' : Database} {u : Unit}
    (h : failRunTx runId db = .ok (u, db')) :
    db' = { db with reconciliationRuns := db'.reconciliationRuns } := by
  rw [failRunTx, DbTx.write_eq_ok] at h
  obtain ⟨t, -, rfl⟩ := Option.map_eq_some_iff.1 h
  rfl

end ApiScore
