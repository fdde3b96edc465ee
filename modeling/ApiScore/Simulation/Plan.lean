import ApiScore.Execution.Entities
import ApiScore.Matches.Fixture
import ApiScore.Odds.Quotes

/-!
# What a tick of the simulation decides of one row

`planExecution` looks up the odd a virtual order would have been taken at, and `planSettlement`
settles it on the result of its match.  Both return the row as they leave it.

* `planSettlement_settled` — the outcome of a row settled is that of its match, and its profit
  follows from it.
-/

set_option autoImplicit false

namespace ApiScore

/-! ## Execution -/

def BetDecision.quoteTarget (row : BetDecision) : ExecutableQuoteTarget where
  providerFixtureId := row.providerFixtureId
  marketKey := row.marketKey
  selectionKey := row.selectionKey
  providerKey := row.decisionProviderKey
  bookmakerKey := row.decisionBookmakerKey

/-- How far an odd is from the one decided on, in ten-thousandths of a percent. -/
def BetDecision.slippage (row : BetDecision) (oddMillis : Int) : Option Int :=
  row.decisionOdd.map fun odd =>
    jsRound ((oddValue oddMillis - oddValue odd) / oddValue odd * 100 * 10000)

/-- The row executed at a quote. -/
def BetDecision.executedAtQuote (row : BetDecision) (quote : ExecutableQuote) (now : Int) :
    BetDecision :=
  { row with
    executableOddsSnapshotId := some quote.snapshotId
    executableOdd := some quote.oddValue
    executableObservedAt := some quote.observedAt
    executableReceivedAt := some quote.receivedAt
    slippagePct := row.slippage quote.oddValue
    executedAt := some now }

/-- The row waits for its odd of execution, and its latency is over. -/
def BetDecision.due (row : BetDecision) (now : Int) : Option Int :=
  if row.status = .orderReserved ∧ row.executableOdd = none then
    row.executionDueAt.filter fun dueAt => dueAt ≤ now
  else none

/-- `planExecution`. -/
def planExecution (row : BetDecision) (selectQuote : QuoteSelector) (now : Int) :
    Option BetDecision :=
  (row.due now).map fun dueAt =>
    match selectQuote row.quoteTarget dueAt with
    | none =>
      { row with
        status := .rejected, rejectionCode := some .noExecutableOdd, executedAt := some now }
    | some quote =>
      let executed := row.executedAtQuote quote now
      if quote.oddValue < row.minAcceptableOdd then
        { executed with status := .rejected, rejectionCode := some .oddMoved }
      else executed

/-! ## Settlement -/

/-- After this long a bet whose match has no result is closed without one. -/
def noResultAfterMs : Int := 24 * 60 * 60 * 1000

/-- What a row is settled on: the result of its match, or none once it has waited too long. -/
def BetDecision.result? (row : BetDecision) (fixture : Option Fixture) (now : Int) :
    Option DecisionOutcome :=
  (fixture.bind fun f => resolveSettlement ⟨row.marketType, row.isHomeTeam⟩ (finalStateOf f)).or
    (if noResultAfterMs ≤ now - row.decidedAt then some .noResult else none)

/-- The profit of a stake by its outcome. -/
def DecisionOutcome.profitCents (outcome : DecisionOutcome) (stakeCents : Int) (odd : ℚ) : Int :=
  match outcome with
  | .won => winningProfitCents stakeCents odd
  | .lost => -stakeCents
  | .void | .noResult => 0

/-- `planSettlement`; it throws when the profit is not a safe integer. -/
def planSettlement (row : BetDecision) (fixture : Option Fixture) (now : Int) :
    Except ServiceError (Option BetDecision) :=
  if row.status ≠ .orderReserved then .ok none
  else
    match row.executableOdd, row.stake, row.result? fixture now with
    | some odd, some stake, some outcome =>
      let profit := outcome.profitCents stake (oddValue odd)
      if isSafeInteger profit then
        .ok (some { row with
          status := .completed, outcome := some outcome, profit := some profit
          settledAt := some now })
      else .error (.other "Centimes non entiers")
    | _, _, _ => .ok none

/-- **A row is settled on the result of its match, with the profit that follows.** -/
theorem planSettlement_settled {row settled : BetDecision} {fixture : Option Fixture} {now : Int}
    (h : planSettlement row fixture now = .ok (some settled)) :
    ∃ odd stake outcome, row.status = .orderReserved ∧ row.executableOdd = some odd ∧
      row.stake = some stake ∧ row.result? fixture now = some outcome ∧
      settled = { row with
        status := .completed, outcome := some outcome
        profit := some (outcome.profitCents stake (oddValue odd)), settledAt := some now } := by
  rw [planSettlement] at h
  by_cases hs : row.status = .orderReserved
  · rw [if_neg (not_not.2 hs)] at h
    cases hodd : row.executableOdd with
    | none => simp [hodd] at h
    | some odd =>
      cases hstake : row.stake with
      | none => simp [hodd, hstake] at h
      | some stake =>
        cases hresult : row.result? fixture now with
        | none => simp [hodd, hstake, hresult] at h
        | some outcome =>
          simp only [hodd, hstake, hresult] at h
          split_ifs at h
          rw [Except.ok.injEq, Option.some.injEq] at h
          exact ⟨odd, stake, outcome, hs, rfl, rfl, rfl, h.symm⟩
  · rw [if_pos hs] at h
    cases h

end ApiScore
