import ApiScore.Rules.LiveSignals
import ApiScore.Backtest.CanonicalJson
import ApiScore.Simulation.Plan

/-!
# What a tick of the simulation decides of new signals

`planNewDecisions` goes through the signals that the strategy plays, in the order of their keys.  Each
that has no decision underway is rejected, or gets an order with a stake that the bankroll still
allows.

* `bankrollFromJournal`, `bankrollOf` — the bankroll of a run, from its decisions and by the query.
* `planNewSignal` — one signal.
* `planNewDecisions` — all of them.
-/

set_option autoImplicit false

namespace ApiScore

open Ranked

/-! ## The run -/

/-- `SimulationRiskSnapshot`; the amounts are in cents. -/
structure SimulationRiskSnapshot where
  maxQuoteAgeMs : Int
  executionLatencyMs : Int
  bookmakerKey : Option String
  maxStakePerBet : Option Int
  maxOpenExposure : Option Int
  deriving DecidableEq

structure SimulationContext where
  runId : String
  currency : String
  strategy : BacktestStrategy
  risk : SimulationRiskSnapshot

/-! ## The bankroll -/

structure BankrollState where
  initialCents : Int
  realizedProfitCents : Int
  openExposureCents : Int
  availableCents : Int
  deriving DecidableEq

def BankrollState.of (initialCents realizedProfitCents openExposureCents : Int) : BankrollState :=
  ⟨initialCents, realizedProfitCents, openExposureCents,
    initialCents + realizedProfitCents - openExposureCents⟩

/-- `bankrollFromJournal`. -/
def bankrollFromJournal (initialBankroll : Int) (rows : List BetDecision) : BankrollState :=
  let sums := rows.foldl (fun (sums : Int × Int) row =>
    (sums.1 + (if row.status = .completed then row.profit.getD 0 else 0),
      sums.2 + (if row.status = .orderReserved then row.stake.getD 0 else 0))) (0, 0)
  .of initialBankroll sums.1 sums.2

/-- `SUM` of a column: the sum of what is not `NULL`, or `NULL` where nothing is. -/
def sqlSum (values : List (Option Int)) : Option Int :=
  if values.all (·.isNone) then none else some (values.map (·.getD 0)).sum

/-- `bankrollOf`: the same by a query; it throws where a sum is not a safe integer. -/
def bankrollOf (initialBankroll : Int) (rows : List BetDecision) :
    Except ServiceError BankrollState :=
  let realized := (sqlSum (rows.map fun row =>
    if row.status = .completed then row.profit else some 0)).getD 0
  let exposure := (sqlSum (rows.map fun row =>
    if row.status = .orderReserved then row.stake else some 0)).getD 0
  if isSafeInteger realized && isSafeInteger exposure then .ok (.of initialBankroll realized exposure)
  else .error (.other "Montant hors bornes")

/-- `requestedStakeCents`. -/
def requestedStakeCents (strategy : BacktestStrategy) (availableCents : Int) : Int :=
  match strategy.staking.type with
  | .percentBankroll => ⌊(availableCents * jsRound (strategy.staking.amount * 100) : ℚ) / 10000⌋
  | .flat => jsRound (strategy.staking.amount * 100)

/-! ## Keys -/

section Keys

variable (sha256 : String → String) (runId : String)

/-- `signalKeyOf`. -/
def signalKeyOf (signal : LiveSignal) : String :=
  sha256 ("|".intercalate [runId, signal.fixtureId, toString signal.teamId, signal.marketType])

/-- `decisionKeyOf`. -/
def decisionKeyOf (signalKey kind : String) : String :=
  sha256 ("|".intercalate [runId, signalKey, kind])

/-- The text of a code, as it stands in the column. -/
def RejectionCode.text : RejectionCode → String
  | .noExecutableOdd => "NO_EXECUTABLE_ODD"
  | .staleOdd => "STALE_ODD"
  | .suspendedMarket => "SUSPENDED_MARKET"
  | .oddMoved => "ODD_MOVED"
  | .limitExceeded => "LIMIT_EXCEEDED"
  | .controlDisabled => "CONTROL_DISABLED"
  | .riskCheckFailed => "RISK_CHECK_FAILED"
  | .operatorUnavailable => "OPERATOR_UNAVAILABLE"
  | .belowMinOdd => "BELOW_MIN_ODD"

/-- The key of the order of an attempt. -/
def orderKey (signalKey : String) (attempt : Nat) : String :=
  decisionKeyOf sha256 runId signalKey ("ORDER:" ++ toString attempt)

/-- The key of a rejection. -/
def rejectionKey (signalKey : String) (code : RejectionCode) : String :=
  decisionKeyOf sha256 runId signalKey ("REJECTED:" ++ code.text)

end Keys

/-! ## One signal -/

section Plan

variable (R : Runtime) (context : SimulationContext) (existing : List BetDecision)
  (selectQuote : QuoteSelector) (now : Int)

/-- The signals that the strategy plays. -/
def SimulationContext.plays (signal : LiveSignal) : Bool :=
  context.strategy.markets.contains signal.marketType &&
    decide (context.strategy.minEdgePct ≤ signal.edgePct) &&
    (decide (context.strategy.minConfidence ≤ 0) ||
      signal.confidenceScore.any fun score => decide (context.strategy.minConfidence ≤ score))

/-- The target of a signal, at the bookmaker of the run if it names one. -/
def SimulationContext.target (signal : LiveSignal) : ExecutableQuoteTarget :=
  match context.risk.bookmakerKey.filter (· ≠ "") with
  | some bookmakerKey => { signal.quoteTarget with bookmakerKey := some bookmakerKey }
  | none => signal.quoteTarget

/-- The row of a signal, before it is decided; the database generates its identifier. -/
def SimulationContext.base (signal : LiveSignal) (key : String) (now : Int) : BetDecision where
  id := ""
  simulationRunId := context.runId
  signalKey := key
  idempotencyKey := ""
  fixtureId := signal.fixtureId
  providerFixtureId := signal.providerFixtureId
  teamId := some signal.teamId
  isHomeTeam := signal.isHomeTeam
  marketType := signal.marketType
  marketKey := signal.quoteTarget.marketKey
  selectionKey := signal.quoteTarget.selectionKey
  selection := signal.selection
  ruleName := signal.ruleName
  elapsedAtDecision := some signal.elapsed
  -- rounded as the column is
  minAcceptableOdd := jsRound (signal.minAcceptableOdd * 1000)
  status := .rejected
  rejectionCode := none
  decidedAt := now
  currency := context.currency
  stake := none
  decisionOddsSnapshotId := none
  decisionOdd := none
  decisionProviderKey := none
  decisionBookmakerKey := none
  decisionObservedAt := none
  decisionReceivedAt := none
  executionDueAt := none
  executableOddsSnapshotId := none
  executableOdd := none
  executableObservedAt := none
  executableReceivedAt := none
  slippagePct := none
  executedAt := none
  outcome := none
  profit := none
  settledAt := none

/-- `quoteFields`. -/
def BetDecision.quotedAt (row : BetDecision) (quote : ExecutableQuote) : BetDecision :=
  { row with
    decisionOddsSnapshotId := some quote.snapshotId
    decisionOdd := some quote.oddValue
    decisionProviderKey := some quote.providerKey
    decisionBookmakerKey := some quote.bookmakerKey
    decisionObservedAt := some quote.observedAt
    decisionReceivedAt := some quote.receivedAt }

/-- What a plan has decided so far. -/
structure PlanState where
  bankroll : BankrollState
  knownKeys : List String
  /-- The keys of the signals it has gone through. -/
  decided : List String
  rows : List BetDecision

/-- `reject`: once for each code. -/
def PlanState.reject (plan : PlanState) (row : BetDecision) (code : RejectionCode) : PlanState :=
  let idempotencyKey := rejectionKey R.sha256 context.runId row.signalKey code
  if idempotencyKey ∈ plan.knownKeys then plan
  else
    { plan with
      knownKeys := idempotencyKey :: plan.knownKeys
      rows := plan.rows ++
        [{ row with idempotencyKey, status := .rejected, rejectionCode := some code }] }

/-- The stake of a signal: what the strategy asks for, as far as the bankroll and the caps allow. -/
def SimulationContext.stakeCents (bankroll : BankrollState) : Int :=
  let stake := min (requestedStakeCents context.strategy bankroll.availableCents)
    bankroll.availableCents
  let stake := context.risk.maxStakePerBet.elim stake (min stake)
  context.risk.maxOpenExposure.elim stake fun cap => min stake (cap - bankroll.openExposureCents)

/-- The rows of a signal among the existing ones. -/
def historyOf (existing : List BetDecision) (key : String) : List BetDecision :=
  existing.filter fun row => row.signalKey == key

/-- A decision that a signal is not decided again beside. -/
def BetDecision.isLive (row : BetDecision) : Bool :=
  row.status == .orderReserved || row.status == .completed

/-- The stakes put on a signal so far. -/
def attemptsOf (existing : List BetDecision) (key : String) : Nat :=
  (historyOf existing key).countP fun row => row.stake.isSome

/-- One signal whose key is new; it throws where the stake is not a safe integer. -/
def planNewSignal (plan : PlanState) (signal : LiveSignal) (key : String) :
    Except ServiceError PlanState :=
  if (historyOf existing key).any (·.isLive) then .ok plan
  else
    let base := context.base signal key now
    match selectQuote (context.target signal) now with
    | none => .ok (plan.reject R context base .noExecutableOdd)
    | some quote =>
      let quoted := base.quotedAt quote
      let stake := context.stakeCents plan.bankroll
      if oddValue quote.oddValue < signal.minAcceptableOdd then
        .ok (plan.reject R context quoted .belowMinOdd)
      else if stake ≤ 0 then .ok (plan.reject R context quoted .limitExceeded)
      else if isSafeInteger stake then
        .ok { plan with
          bankroll := { plan.bankroll with
            availableCents := plan.bankroll.availableCents - stake
            openExposureCents := plan.bankroll.openExposureCents + stake }
          rows := plan.rows ++ [{ quoted with
            idempotencyKey := orderKey R.sha256 context.runId key (attemptsOf existing key)
            status := .orderReserved
            stake := some stake
            executionDueAt := some (now + context.risk.executionLatencyMs) }] }
      else .error (.other "Centimes non entiers")

/-- One signal; of those with one key only the first is decided. -/
def planSignal (plan : PlanState) (signal : LiveSignal) (key : String) :
    Except ServiceError PlanState :=
  if key ∈ plan.decided then .ok plan
  else planNewSignal R context existing selectQuote now { plan with decided := key :: plan.decided }
    signal key

/-- The signals that the strategy plays with their keys, in the order of the keys. -/
def eligibleSignals (signals : List LiveSignal) : List (LiveSignal × String) :=
  sort (comparing R.collation.compare (·.2))
    ((signals.filter context.plays).map fun s => (s, signalKeyOf R.sha256 context.runId s))

/-- The signals one after the other. -/
def planSignals : PlanState → List (LiveSignal × String) → Except ServiceError PlanState
  | plan, [] => .ok plan
  | plan, (signal, key) :: rest =>
    match planSignal R context existing selectQuote now plan signal key with
    | .ok plan => planSignals plan rest
    | .error e => .error e

/-- `planNewDecisions`. -/
def planNewDecisions (signals : List LiveSignal) (bankroll : BankrollState) :
    Except ServiceError (List BetDecision) :=
  (planSignals R context existing selectQuote now ⟨bankroll, existing.map (·.idempotencyKey), [], []⟩
    (eligibleSignals R context signals)).map (·.rows)

end Plan

end ApiScore
