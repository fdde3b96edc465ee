import ApiScore.Execution.Types

/-!
# The operator port

What the pipeline asks of a bookmaker and what it gets back (`operator.port.ts`).  The pipeline
sees an operator only through these answers; nothing is assumed of them here.  The raw receipt is
left out: it is stored, redacted, and never read again.
-/

set_option autoImplicit false

namespace ApiScore

inductive OperatorKind
  | paper | sandbox | live
  deriving DecidableEq, Repr

/-- The fixed part of a port: what kind of adapter it is, and the key of its operator. -/
structure OperatorPort where
  kind : OperatorKind
  operatorKey : String
  deriving DecidableEq

/-- `OperatorPortsByMode`: at most one adapter for each mode. -/
abbrev OperatorPortsByMode := ExecutionMode → Option OperatorPort

structure OperatorQuote where
  snapshotId : Option String
  oddValue : JsNumber
  capturedAt : Int
  available : Bool
  deriving DecidableEq

structure PlaceOrderRequest where
  decisionId : String
  idempotencyKey : String
  operatorKey : String
  fixtureId : String
  providerFixtureId : String
  marketKey : String
  selectionKey : String
  requestedOdd : ℚ
  minimumOdd : ℚ
  stake : String
  currency : String
  quoteCapturedAt : Int
  deriving DecidableEq

/-- The fields of an acceptance as they arrive: `none` is a value that is not of the type the
contract names (not a string, not a number, not a valid date). -/
structure PlacementAcceptance where
  externalOrderId : Option String
  acceptedOdd : Option JsNumber
  acceptedStake : Option String
  acceptedAt : Option Int
  receiptHash : Option String
  deriving DecidableEq

inductive PlaceOrderResult
  | accepted (acceptance : PlacementAcceptance)
  | rejected (reasonCode : String)
  | unknown (reason : String)
  deriving DecidableEq

inductive OperatorOrderStatus
  | accepted | rejected | settled | voided
  deriving DecidableEq, Repr

structure OperatorOrder where
  externalOrderId : Option String
  idempotencyKey : String
  status : OperatorOrderStatus
  acceptedOdd : Option JsNumber
  acceptedStake : Option String
  acceptedAt : Option Int
  receiptHash : Option String
  /-- What went back to the balance at settlement: stake times odd, the stake if void, 0 if lost. -/
  payout : Option String
  settledAt : Option Int
  deriving DecidableEq

/-- The operator reports the bet as decided. -/
def OperatorOrderStatus.isSettled : OperatorOrderStatus → Bool
  | .settled | .voided => true
  | .accepted | .rejected => false

inductive OperatorOrderLookup
  | found (order : OperatorOrder)
  | notFound
  | lookupFailed (reason : String)
  deriving DecidableEq

structure OperatorBalance where
  currency : String
  /-- Available, open bets excluded. -/
  available : String
  /-- Committed on open bets. -/
  exposure : String
  deriving DecidableEq

/-- The length JavaScript counts, in UTF-16 units. -/
def utf16Length (s : String) : Nat :=
  s.toList.foldl (fun n c => n + if c.toNat < 0x10000 then 1 else 2) 0

/-- `isWellFormedAcceptance`: a field that is missing or makes no sense makes the answer ambiguous. -/
def isWellFormedAcceptance (r : PlacementAcceptance) : Bool :=
  (r.externalOrderId.any fun s => 0 < utf16Length s && utf16Length s ≤ 128) &&
  (r.acceptedOdd.any fun x => (x.finite?).any fun q => decide (1 < q)) &&
  r.acceptedStake.any isAmountText &&
  r.acceptedAt.isSome &&
  r.receiptHash.any isHashText

/-- The operator order `applyPlacementResult` makes of a well-formed acceptance. -/
def PlacementAcceptance.toOperatorOrder (r : PlacementAcceptance) : OperatorOrder where
  externalOrderId := r.externalOrderId
  idempotencyKey := ""
  status := .accepted
  acceptedOdd := r.acceptedOdd
  acceptedStake := r.acceptedStake
  acceptedAt := r.acceptedAt
  receiptHash := r.receiptHash
  payout := none
  settledAt := none

end ApiScore
