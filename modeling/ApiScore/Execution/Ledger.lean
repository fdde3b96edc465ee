import Mathlib.Data.List.MinMax
import ApiScore.Execution.Entities

/-!
# The ledger

The append-only journal of an account (`ledger.service.ts`).  An account changes only together with
a new entry, in one transaction, under the lock of its row and a version check.

`movementEffect` and `planEntry` are the pure part; `append`, `appendBatch` and `openAccount` run in
the transaction of their caller.  `append` hands back the account as it left it, where the program
updates the object it was given.
-/

set_option autoImplicit false

namespace ApiScore

open Relational

structure Balances where
  availableCents : Int
  reservedCents : Int
  deriving DecidableEq

structure MovementEffect where
  amountCents : Int
  reservedDeltaCents : Int
  deriving DecidableEq

structure PlannedEntry where
  amountCents : Int
  reservedDeltaCents : Int
  availableAfterCents : Int
  reservedAfterCents : Int
  deriving DecidableEq

structure EntryMovement where
  /-- The stake concerned, of a `RESERVE`, `RELEASE` or `SETTLE`. -/
  stakeCents : Option JsNumber := none
  /-- What a `SETTLE` gives back to the available balance. -/
  payoutCents : Option JsNumber := none
  /-- The signed amount of an `ADJUSTMENT`. -/
  adjustmentCents : Option JsNumber := none
  deriving DecidableEq

/-- `isPositiveInteger`, with the integer. -/
def positiveInteger? (value : Option JsNumber) : Option Int :=
  (value.bind JsNumber.safeInteger?).filter fun n => 0 < n

/-- The effect of an entry on the two balances. -/
def movementEffect (type : LedgerEntryType) (movement : EntryMovement) :
    Except ServiceError MovementEffect :=
  match type with
  | .adjustment =>
    match movement.adjustmentCents.bind JsNumber.safeInteger? with
    | some n => if n = 0 then .error (.ledgerRule "Ajustement entier non nul requis") else .ok ⟨n, 0⟩
    | none => .error (.ledgerRule "Ajustement entier non nul requis")
  | .reserve =>
    match positiveInteger? movement.stakeCents with
    | some stake => .ok ⟨-stake, stake⟩
    | none => .error (.ledgerRule "Mise strictement positive requise")
  | .release =>
    match positiveInteger? movement.stakeCents with
    | some stake => .ok ⟨stake, -stake⟩
    | none => .error (.ledgerRule "Mise strictement positive requise")
  | .settle =>
    match positiveInteger? movement.stakeCents with
    | some stake =>
      match movement.payoutCents.bind JsNumber.safeInteger? with
      | some payout =>
        if payout < 0 then .error (.ledgerRule "Gain brut entier et positif ou nul requis")
        else .ok ⟨payout, -stake⟩
      | none => .error (.ledgerRule "Gain brut entier et positif ou nul requis")
    | none => .error (.ledgerRule "Mise strictement positive requise")

/-- The entry a movement makes from the current balances: refused where a balance would turn
negative. -/
def planEntry (type : LedgerEntryType) (balances : Balances) (movement : EntryMovement) :
    Except ServiceError PlannedEntry :=
  match movementEffect type movement with
  | .error e => .error e
  | .ok ⟨amount, reservedDelta⟩ =>
    if type = .reserve ∧ balances.availableCents < -amount then
      .error (.ledgerRule "Solde disponible insuffisant")
    else if (type = .release ∨ type = .settle) ∧ balances.reservedCents < -reservedDelta then
      .error (.ledgerRule (if type = .release then "Réservé insuffisant pour relâcher cette mise"
        else "Réservé insuffisant pour régler cette mise"))
    else if balances.availableCents + amount < 0 ∨ balances.reservedCents + reservedDelta < 0 then
      .error (.ledgerRule "Écriture refusée : solde négatif")
    else
      .ok ⟨amount, reservedDelta, balances.availableCents + amount,
        balances.reservedCents + reservedDelta⟩

structure AppendInput where
  type : LedgerEntryType
  entryKey : String
  movement : EntryMovement
  orderId : Option String := none
  deriving DecidableEq

structure AppendResult where
  entry : BankrollLedgerEntry
  /-- The key was already there with the same effect: nothing was written. -/
  replayed : Bool
  deriving DecidableEq

/-! ## Statements -/

/-- Continue with the value of a pure computation, or throw its exception. -/
def liftRule {α : Type} : Except ServiceError α → DbTx α
  | .ok a => pure a
  | .error e => DbTx.fail e

theorem liftRule_eq_ok {α : Type} {x : Except ServiceError α} {db db' : Database} {a : α} :
    liftRule x db = .ok (a, db') ↔ x = .ok a ∧ db' = db := by
  cases x with
  | error e => simp [liftRule]
  | ok b =>
    rw [liftRule, Tx.pure_eq_ok, Prod.mk.injEq, Except.ok.injEq, eq_comm (a := a)]

/-- Do the rows a new entry refers to exist? -/
def Database.entryReferences (db : Database) (e : BankrollLedgerEntry) : Bool :=
  (db.account? e.accountId).isSome && e.orderId.all fun id => (db.order? id).isSome

def insertEntry (e : BankrollLedgerEntry) : DbTx Unit :=
  DbTx.write fun db =>
    if db.entryReferences e then
      (db.entries.insert? e).map fun t => { db with entries := t }
    else none

/-- `UPDATE bankroll_accounts … WHERE …`, with the number of rows it changed. -/
def updateAccounts (p : BankrollAccount → Bool) (f : BankrollAccount → BankrollAccount) :
    DbTx Nat := do
  let n ← DbTx.read fun db => (db.accounts.select p).length
  DbTx.write fun db => (db.accounts.update? p f).map fun t => { db with accounts := t }
  return n

/-- The account, with its row locked to the end of the transaction. -/
def lockAccount (accountId : String) : DbTx BankrollAccount := do
  let account ← DbTx.read fun db => db.account? accountId
  DbTx.get! (.http ("Compte " ++ accountId ++ " introuvable")) account

def findEntry (entryKey : String) : DbTx (Option BankrollLedgerEntry) :=
  DbTx.read fun db => db.entry? entryKey

/-- `fromCents` on the way to a column: refuses what is not a safe integer. -/
def storeCents (cents : Int) : DbTx Int :=
  if isSafeInteger cents then pure cents else DbTx.fail (.other "Centimes non entiers")

/-! ## Writing -/

def BankrollAccount.balances (account : BankrollAccount) : Balances :=
  ⟨account.availableBalance, account.reservedBalance⟩

/-- The recorded entry is the one this request would write. -/
def AppendInput.sameAs (input : AppendInput) (accountId : String) (effect : MovementEffect)
    (entry : BankrollLedgerEntry) : Bool :=
  entry.accountId == accountId && entry.entryType == input.type &&
    entry.amount == effect.amountCents && entry.reservedDelta == effect.reservedDeltaCents

def keyConflict (entryKey : String) : ServiceError :=
  .http ("Clé d'écriture " ++ entryKey ++ " déjà utilisée pour un autre mouvement")

/-- The row of a planned entry, producing version `version` of the account. -/
def entryRow (account : BankrollAccount) (input : AppendInput) (planned : PlannedEntry)
    (version : Nat) (dbNow : Int) : DbTx BankrollLedgerEntry := do
  let amount ← storeCents planned.amountCents
  let reservedDelta ← storeCents planned.reservedDeltaCents
  let availableAfter ← storeCents planned.availableAfterCents
  let reservedAfter ← storeCents planned.reservedAfterCents
  return {
    accountId := account.id
    orderId := input.orderId
    entryKey := input.entryKey
    entryType := input.type
    amount
    reservedDelta
    availableAfter
    reservedAfter
    currency := account.currency
    accountVersion := version
    createdAt := dbNow }

/-- The account with new balances and a new version. -/
def BankrollAccount.withBalances (account : BankrollAccount) (balances : Balances)
    (version : Nat) : BankrollAccount :=
  { account with
    availableBalance := balances.availableCents
    reservedBalance := balances.reservedCents
    version := version }

/-- Write the balances and version of an account, if its row still has the version that was read. -/
def saveAccount (account : BankrollAccount) (balances : Balances) (version : Nat)
    (conflict : String) : DbTx BankrollAccount := do
  let affected ← updateAccounts (fun a => a.id == account.id && a.version == account.version)
    fun a => a.withBalances balances version
  if affected ≠ 1 then DbTx.fail (.http conflict)
  return account.withBalances balances version

/-- Add an entry to an account the caller has locked.  Same key and same effect: the recorded entry;
same key and another effect: a conflict. -/
def append (account : BankrollAccount) (input : AppendInput) (dbNow : Int) :
    DbTx (AppendResult × BankrollAccount) := do
  match ← findEntry input.entryKey with
  | some existing =>
    let expected ← liftRule (movementEffect input.type input.movement)
    if input.sameAs account.id expected existing then
      return ({ entry := existing, replayed := true }, account)
    else DbTx.fail (keyConflict input.entryKey)
  | none =>
    let planned ← liftRule (planEntry input.type account.balances input.movement)
    let row ← entryRow account input planned (account.version + 1) dbNow
    insertEntry row
    let saved ← saveAccount account ⟨planned.availableAfterCents, planned.reservedAfterCents⟩
      (account.version + 1) "Compte modifié concurremment : écriture annulée"
    let entry ← DbTx.get! (.other "Écriture introuvable") (← findEntry input.entryKey)
    return ({ entry, replayed := false }, saved)

/-- The entries of a batch, with the balances and the version after them.  A recorded key is checked
and skipped. -/
def planBatch (account : BankrollAccount) (existing : List BankrollLedgerEntry) (dbNow : Int) :
    List AppendInput → Balances → Nat → DbTx (List BankrollLedgerEntry × Balances × Nat)
  | [], balances, version => return ([], balances, version)
  | input :: inputs, balances, version => do
    match existing.find? fun e => e.entryKey == input.entryKey with
    | some replay =>
      let expected ← liftRule (movementEffect input.type input.movement)
      if input.sameAs account.id expected replay then
        planBatch account existing dbNow inputs balances version
      else DbTx.fail (keyConflict input.entryKey)
    | none =>
      let planned ← liftRule (planEntry input.type balances input.movement)
      let row ← entryRow account input planned (version + 1) dbNow
      let (rows, balances, version) ← planBatch account existing dbNow inputs
        ⟨planned.availableAfterCents, planned.reservedAfterCents⟩ (version + 1)
      return (row :: rows, balances, version)

def insertEntries : List BankrollLedgerEntry → DbTx Unit
  | [] => return ()
  | row :: rows => do
    insertEntry row
    insertEntries rows

/-- Write the rows of a batch, if there are any. -/
def saveBatch (account : BankrollAccount) (rows : List BankrollLedgerEntry) (balances : Balances)
    (version : Nat) : DbTx BankrollAccount :=
  if rows = [] then pure account
  else do
    insertEntries rows
    saveAccount account balances version "Compte modifié concurremment : lot d’écritures annulé"

/-- Add several movements to an account the caller has locked, with grouped reads and writes. -/
def appendBatch (account : BankrollAccount) (inputs : List AppendInput) (dbNow : Int) :
    DbTx (List AppendResult × BankrollAccount) := do
  if inputs = [] then return ([], account)
  let keys := inputs.map (·.entryKey)
  if ¬ keys.Nodup then DbTx.fail (.http "Clé d’écriture dupliquée dans le lot")
  let existing ← DbTx.read fun db => db.entries.select fun e => keys.contains e.entryKey
  let (rows, balances, version) ←
    planBatch account existing dbNow inputs account.balances account.version
  let saved ← saveBatch account rows balances version
  let all ← DbTx.read fun db => db.entries.select fun e => keys.contains e.entryKey
  let results ← inputs.mapM fun input => do
    let entry ← DbTx.get! (.other "Écriture introuvable")
      (all.find? fun e => e.entryKey == input.entryKey)
    return { entry, replayed := existing.any fun e => e.entryKey == input.entryKey }
  return (results, saved)

structure OpenAccountInput where
  mode : ExecutionMode
  operatorKey : String
  currency : String
  initialBalance : String
  deriving DecidableEq

/-- Open an account; its initial balance is its first entry. -/
def openAccount (input : OpenAccountInput) (id : String) (dbNow : Int) : DbTx BankrollAccount := do
  let initialCents ← DbTx.get! (.other "Montant décimal invalide") (toCents input.initialBalance)
  if initialCents ≤ 0 then DbTx.fail (.ledgerRule "Solde initial strictement positif requis")
  let isThis (a : BankrollAccount) : Bool := a.mode == .known input.mode &&
    a.operatorKey == input.operatorKey && a.currency == input.currency
  let existing ← DbTx.read fun db => db.accounts.find? isThis
  if existing.isSome then
    DbTx.fail (.http "Un compte existe déjà pour ce mode, cet opérateur et cette devise")
  DbTx.write fun db => (db.accounts.insert? {
    id, mode := .known input.mode, operatorKey := input.operatorKey, currency := input.currency,
    availableBalance := 0, reservedBalance := 0, version := 1 }).map
      fun t => { db with accounts := t }
  let created ← DbTx.get! (.http "Compte introuvable")
    (← DbTx.read fun db => db.accounts.find? isThis)
  let _ ← append created {
    type := .adjustment
    entryKey := "open:" ++ created.id
    movement := { adjustmentCents := some (.int initialCents) } } dbNow
  DbTx.get! (.other "Compte introuvable") (← DbTx.read fun db => db.account? created.id)

/-! ## Reading -/

structure DailyAggregates where
  stakedCents : Int
  settledPnlCents : Int
  deriving DecidableEq

/-- The stakes reserved and the result settled since an instant. -/
def Database.dailyAggregates (db : Database) (accountId : String) (dayStart : Int) :
    DailyAggregates :=
  let today := (db.entriesOf accountId).filter fun e => dayStart * 1000 ≤ e.createdAt
  { stakedCents := ((today.filter fun e => e.entryType == .reserve).map (·.reservedDelta)).sum
    settledPnlCents :=
      ((today.filter fun e => e.entryType == .settle).map fun e => e.amount + e.reservedDelta).sum }

structure InvariantReport where
  ok : Bool
  account : Balances
  ledgerSum : Balances
  lastEntry : Option Balances
  deriving DecidableEq

/-- The second read of `verifyInvariant`: the sums of the entries. -/
def Database.ledgerSum (db : Database) (accountId : String) : Balances :=
  ⟨((db.entriesOf accountId).map (·.amount)).sum,
    ((db.entriesOf accountId).map (·.reservedDelta)).sum⟩

/-- The third read of `verifyInvariant`: the entry with the highest account version. -/
def Database.lastEntry? (db : Database) (accountId : String) : Option BankrollLedgerEntry :=
  (db.entriesOf accountId).argmax (·.accountVersion)

def BankrollLedgerEntry.balancesAfter (e : BankrollLedgerEntry) : Balances :=
  ⟨e.availableAfter, e.reservedAfter⟩

/-- What `verifyInvariant` concludes from its three reads. -/
def invariantReport (account : BankrollAccount) (ledgerSum : Balances)
    (last : Option BankrollLedgerEntry) : InvariantReport where
  ok := account.balances == ledgerSum && last.all fun e =>
    account.balances == e.balancesAfter && e.accountVersion == account.version
  account := account.balances
  ledgerSum := ledgerSum
  lastEntry := last.map (·.balancesAfter)

/-- `verifyInvariant`, with the state of the database at each of its three reads: they are separate
statements outside any transaction.  `none` is its `NotFoundException`. -/
def verifyInvariantAt (db₁ db₂ db₃ : Database) (accountId : String) : Option InvariantReport :=
  (db₁.account? accountId).map fun account =>
    invariantReport account (db₂.ledgerSum accountId) (db₃.lastEntry? accountId)

/-- `verifyInvariant` run alone. -/
def verifyInvariant (db : Database) (accountId : String) : Option InvariantReport :=
  verifyInvariantAt db db db accountId

end ApiScore
