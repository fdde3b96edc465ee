import ApiScore.Execution.Orders
import ApiScore.Simulation.Plan

/-!
# The paper operator

The adapter of the mode `SIMULATION` (`paper-operator.adapter.ts`): it books an order at the quote it
finds, and settles it on the result of the match, as the simulation does.

* `PaperBooking.of` — the booking of an order.
* `PaperBooking.refreshSettlementFromFixture` — what it reports once the match has a result.
-/

set_option autoImplicit false

namespace ApiScore

/-- `MARKET_TYPE_BY_KEY`. -/
def marketTypeByKey (marketKey : String) : Option String :=
  if marketKey = "TEAM_GOAL_1H" then some "Buts 1ère mi-temps"
  else if marketKey = "TEAM_GOAL_2H" then some "Buts 2ème mi-temps"
  else if marketKey = "TEAM_GOALS_FT" then some "Buts match"
  else none

structure PaperBooking where
  order : OperatorOrder
  fixtureId : String
  marketKey : String
  isHomeTeam : Bool
  deriving DecidableEq

/-- The side of a selection: `selectionKey.startsWith('HOME')`. -/
def isHomeSelection (selectionKey : String) : Bool := "HOME".toList.isPrefixOf selectionKey.toList

/-- What `placeOrder` books at the odd of a quote. -/
def PaperBooking.of (P : Platform) (request : PlaceOrderRequest) (oddMillis now : Int) :
    PaperBooking :=
  let externalOrderId := "PAPER-" ++ String.ofList (request.idempotencyKey.toList.take 24)
  { order :=
      { externalOrderId := some externalOrderId
        idempotencyKey := request.idempotencyKey
        status := .accepted
        acceptedOdd := some (.num (oddValue oddMillis))
        acceptedStake := some request.stake
        acceptedAt := some now
        receiptHash := some (P.sha256Hex ("|".intercalate [externalOrderId, request.idempotencyKey,
          P.numberText (.num (oddValue oddMillis)), request.stake]))
        payout := none
        settledAt := none }
    fixtureId := request.fixtureId
    marketKey := request.marketKey
    isHomeTeam := isHomeSelection request.selectionKey }

/-- `toResult`: what `placeOrder` answers. -/
def PaperBooking.toResult (booking : PaperBooking) : PlaceOrderResult :=
  .accepted {
    externalOrderId := booking.order.externalOrderId
    acceptedOdd := booking.order.acceptedOdd
    acceptedStake := booking.order.acceptedStake
    acceptedAt := booking.order.acceptedAt
    receiptHash := booking.order.receiptHash }

/-- What an order gives back, by the outcome of its bet. -/
def DecisionOutcome.payoutCents (outcome : DecisionOutcome) (stakeCents : Int) (odd : ℚ) : Int :=
  match outcome with
  | .won => stakeCents + winningProfitCents stakeCents odd
  | .void => stakeCents
  | .lost | .noResult => 0

/-- An accepted order, settled. -/
def OperatorOrder.settle (order : OperatorOrder) (outcome : DecisionOutcome) (now : Int) :
    Except ServiceError OperatorOrder :=
  match order.acceptedStake.bind toCents, order.acceptedOdd.bind (·.finite?) with
  | some stake, some odd =>
    match fromCents (outcome.payoutCents stake odd) with
    | some payout =>
      .ok { order with
        status := if outcome = .void then .voided else .settled
        payout := some payout
        settledAt := some now }
    | none => .error (.other "Centimes non entiers")
  | none, _ => .error (.other "Montant décimal invalide")
  | some _, none => .error (.other "Centimes non entiers")

/-- `refreshSettlementFromFixture`. -/
def PaperBooking.refreshSettlementFromFixture (booking : PaperBooking) (fixture : Option Fixture)
    (now : Int) : Except ServiceError OperatorOrder :=
  if booking.order.status ≠ .accepted then .ok booking.order
  else
    match fixture, marketTypeByKey booking.marketKey with
    | some fixture, some marketType =>
      match resolveSettlement ⟨marketType, booking.isHomeTeam⟩ (finalStateOf fixture) with
      | some outcome => booking.order.settle outcome now
      | none => .ok booking.order
    | _, _ => .ok booking.order

/-- **The adapter recognises the bets of the rules.** -/
theorem marketTypeByKey_quoteTarget {providerFixtureId marketType : String} {isHomeTeam : Bool}
    {target : ExecutableQuoteTarget}
    (h : quoteTargetForRuleMarket providerFixtureId marketType isHomeTeam = some target) :
    marketTypeByKey target.marketKey = some marketType ∧
      isHomeSelection target.selectionKey = isHomeTeam := by
  rw [quoteTargetForRuleMarket] at h
  by_cases h₁ : marketType = "Buts 1ère mi-temps"
  · rw [if_pos h₁, Option.some.injEq] at h
    subst h h₁
    show marketTypeByKey "TEAM_GOAL_1H" = _ ∧ isHomeSelection (_ ++ "_YES") = isHomeTeam
    cases isHomeTeam <;> decide
  rw [if_neg h₁] at h
  by_cases h₂ : marketType = "Buts 2ème mi-temps"
  · rw [if_pos h₂, Option.some.injEq] at h
    subst h h₂
    show marketTypeByKey "TEAM_GOAL_2H" = _ ∧ isHomeSelection (_ ++ "_YES") = isHomeTeam
    cases isHomeTeam <;> decide
  rw [if_neg h₂] at h
  by_cases h₃ : marketType = "Buts match"
  · rw [if_pos h₃, Option.some.injEq] at h
    subst h h₃
    show marketTypeByKey "TEAM_GOALS_FT" = _ ∧ isHomeSelection (_ ++ "_OVER_0.5") = isHomeTeam
    cases isHomeTeam <;> decide
  · rw [if_neg h₃] at h
    cases h

end ApiScore
