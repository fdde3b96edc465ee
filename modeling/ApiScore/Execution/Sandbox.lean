import ApiScore.Execution.PaperOperator
import ApiScore.Execution.RunOpening
import ApiScore.Lib.Register

/-!
# The sandbox operator

The adapter of the mode `SANDBOX` (`deterministic-sandbox.adapter.ts`): a book of orders in memory,
the balances that go with it, and a queue of scenarios that decide what the next placements do.  A
method of the adapter runs to its end before another one starts.  Sums of cents are exact here.

* `Sandbox` — the state of the adapter, and its methods.
* `Sandbox.Call`, `Sandbox.exec`, `Sandbox.after` — any calls, one after the other.
-/

set_option autoImplicit false

namespace ApiScore

/-- `SANDBOX_SCENARIOS`. -/
inductive SandboxScenario
  | accept | reject | oddMoved | timeoutBeforeAccept | timeoutAfterAccept | delayed | malformed
  | duplicateReceipt
  deriving DecidableEq, Repr

/-- What `settle` can be told. -/
inductive SandboxOutcome
  | won | lost | void
  deriving DecidableEq, Repr

def SandboxOutcome.decision : SandboxOutcome → DecisionOutcome
  | .won => .won
  | .lost => .lost
  | .void => .void

structure SandboxBalance where
  availableCents : Int
  exposureCents : Int
  deriving DecidableEq

structure Sandbox where
  /-- In the order in which the orders were booked, each under its own key. -/
  book : List OperatorOrder
  hiddenReads : String → Nat
  placeCalls : String → Nat
  balances : String → SandboxBalance
  /-- The currency of an order, by its external id. -/
  currencies : String → Option String
  queue : List SandboxScenario
  quoteOdd : Option JsNumber
  sequence : Nat
  lastReceiptHash : Option String

/-- The message of `SandboxTimeoutError`. -/
def sandboxTimeout : String := "Délai dépassé (sandbox)"

/-- The message `toCents` throws with. -/
def toCentsMessage (value : String) : String :=
  let unsigned := match jsTrim value.toList with
    | '-' :: rest => rest
    | cs => cs
  let reason := if (parseUnsigned unsigned).isNone then "Montant décimal invalide : "
    else "Montant hors bornes : "
  reason ++ value

/-- The external id of the order of this number. -/
def sandboxId (sequence : Nat) : String := "SBX-" ++ padStart 6 sequence

namespace Sandbox

/-- A new adapter. -/
def init : Sandbox where
  book := []
  hiddenReads := fun _ => 0
  placeCalls := fun _ => 0
  balances := fun _ => ⟨0, 0⟩
  currencies := fun _ => none
  queue := []
  quoteOdd := some (.num (19 / 10))
  sequence := 0
  lastReceiptHash := none

variable (s : Sandbox)

/-! ## Its pilot -/

def enqueue (scenarios : List SandboxScenario) : Sandbox :=
  { s with queue := s.queue ++ scenarios }

def setQuoteOdd (odd : Option JsNumber) : Sandbox := { s with quoteOdd := odd }

def fund (currency amount : String) : Except String Unit × Sandbox :=
  match toCents amount with
  | none => (.error (toCentsMessage amount), s)
  | some cents => (.ok (), { s with balances := Function.update s.balances currency ⟨cents, 0⟩ })

def shiftBalance (currency : String) (deltaCents : Int) : Sandbox :=
  let balance := s.balances currency
  { s with
    balances := Function.update s.balances currency
      { balance with availableCents := balance.availableCents + deltaCents } }

/-- `book.get`. -/
def orderOf (key : String) : Option OperatorOrder := s.book.find? fun o => o.idempotencyKey == key

def placementsFor (key : String) : Nat := if (s.orderOf key).isSome then 1 else 0

def placeCallsFor (key : String) : Nat := s.placeCalls key

def getOrderByExternalId (id : String) : Option OperatorOrder :=
  s.book.find? fun o => o.externalOrderId == some id

def currencyOf (order : OperatorOrder) : String :=
  (order.externalOrderId.bind s.currencies).getD "EUR"

/-- The end of a stake: it leaves the exposure, and what it pays becomes available. -/
def payOut (currency : String) (stakeCents payoutCents : Int) : Sandbox :=
  let balance := s.balances currency
  { s with
    balances := Function.update s.balances currency
      ⟨balance.availableCents + payoutCents, balance.exposureCents - stakeCents⟩ }

/-- An order that is settled: its status changes before `fromCents` may throw. -/
def close (outcome : SandboxOutcome) (payoutCents now : Int) (order : OperatorOrder) :
    OperatorOrder :=
  let order := { order with status := if outcome = .void then .voided else .settled }
  match fromCents payoutCents with
  | some payout => { order with payout := some payout, settledAt := some now }
  | none => order

def settle (externalOrderId : String) (outcome : SandboxOutcome) (now : Int) :
    Except String Unit × Sandbox :=
  match (s.getOrderByExternalId externalOrderId).filter fun o => o.status == .accepted with
  | none => (.error ("Ordre sandbox " ++ externalOrderId ++ " non réglable"), s)
  | some order =>
    match order.acceptedStake.bind toCents, order.acceptedOdd.bind (·.finite?) with
    | some stakeCents, some odd =>
      let payoutCents := outcome.decision.payoutCents stakeCents odd
      let s := s.payOut (s.currencyOf order) stakeCents payoutCents
      (if isSafeInteger payoutCents then .ok ()
        else .error ("Centimes non entiers : " ++ toString payoutCents),
        { s with
          book := Register.rewrite (·.idempotencyKey) order.idempotencyKey
            (close outcome payoutCents now) s.book })
    -- never: an order of the book has both
    | _, _ => (.error (toCentsMessage (order.acceptedStake.getD "")), s)

/-- The sequence goes on: an operator never uses an id again. -/
def reset : Sandbox := { init with sequence := s.sequence, currencies := s.currencies }

/-! ## The operator port -/

/-- The quote, at the instant it is asked for. -/
def getExecutableQuote (at_ : Int) : Option OperatorQuote :=
  s.quoteOdd.map fun odd => ⟨none, odd, at_, true⟩

/-- What `placeOrder` answers for a booked order. -/
def accepted (order : OperatorOrder) : PlaceOrderResult :=
  .accepted {
    externalOrderId := order.externalOrderId
    acceptedOdd := order.acceptedOdd
    acceptedStake := order.acceptedStake
    acceptedAt := order.acceptedAt
    receiptHash := order.receiptHash }

/-- What it answers in the scenario `MALFORMED`: no odd and no receipt. -/
def malformed (order : OperatorOrder) : PlaceOrderResult :=
  .accepted {
    externalOrderId := order.externalOrderId
    acceptedOdd := some .nan
    acceptedStake := order.acceptedStake
    acceptedAt := order.acceptedAt
    receiptHash := some "" }

/-- The order of this number, made of a request. -/
def orderFor (P : Platform) (input : PlaceOrderRequest) (now : Int) (sequence : Nat) :
    OperatorOrder where
  externalOrderId := some (sandboxId sequence)
  idempotencyKey := input.idempotencyKey
  status := .accepted
  acceptedOdd := some (.num input.requestedOdd)
  acceptedStake := some input.stake
  acceptedAt := some now
  receiptHash := some (P.sha256Hex ("|".intercalate [sandboxId sequence, input.idempotencyKey,
    P.numberText (.num input.requestedOdd), input.stake]))
  payout := none
  settledAt := none

/-- A stake that is taken. -/
def stakeOut (currency : String) (stakeCents : Int) : Sandbox :=
  let balance := s.balances currency
  { s with
    balances := Function.update s.balances currency
      ⟨balance.availableCents - stakeCents, balance.exposureCents + stakeCents⟩ }

def newOrder (P : Platform) (input : PlaceOrderRequest) (now : Int) :
    Except String OperatorOrder × Sandbox :=
  let s := { s with sequence := s.sequence + 1 }
  match toCents input.stake with
  | none => (.error (toCentsMessage input.stake), s)
  | some stakeCents =>
    let order := orderFor P input now s.sequence
    let s := s.stakeOut input.currency stakeCents
    (.ok order, { s with
      lastReceiptHash := order.receiptHash
      currencies := Function.update s.currencies (sandboxId s.sequence) (some input.currency) })

/-- A new order, and what a scenario makes of it. -/
def bookNew (P : Platform) (input : PlaceOrderRequest) (now : Int)
    (f : OperatorOrder → OperatorOrder) (answer : OperatorOrder → Except String PlaceOrderResult) :
    Except String PlaceOrderResult × Sandbox :=
  match s.newOrder P input now with
  | (.error message, s) => (.error message, s)
  | (.ok order, s) => (answer (f order), { s with book := s.book ++ [f order] })

/-- One more call of `placeOrder` under a key. -/
def called (key : String) : Sandbox :=
  { s with placeCalls := Function.update s.placeCalls key (s.placeCallsFor key + 1) }

/-- The order of a key will not be found by the next read. -/
def hide (key : String) (reads : Nat) : Sandbox :=
  { s with hiddenReads := Function.update s.hiddenReads key reads }

def placeOrder (P : Platform) (input : PlaceOrderRequest) (now : Int) :
    Except String PlaceOrderResult × Sandbox :=
  let s := s.called input.idempotencyKey
  match s.orderOf input.idempotencyKey with
  | some already => (.ok (accepted already), s)
  | none =>
    let scenario := s.queue.headD .accept
    let s := { s with queue := s.queue.tail }
    match scenario with
    | .reject => (.ok (.rejected "MARKET_CLOSED"), s)
    | .oddMoved => (.ok (.rejected "ODD_MOVED"), s)
    | .timeoutBeforeAccept => (.error sandboxTimeout, s)
    | .timeoutAfterAccept => s.bookNew P input now id fun _ => .error sandboxTimeout
    | .delayed =>
      match s.bookNew P input now id fun _ => .ok (.unknown "Accusé de réception retardé") with
      | (.ok r, s) => (.ok r, s.hide input.idempotencyKey 1)
      | (.error message, s) => (.error message, s)
    | .malformed => s.bookNew P input now id fun order => .ok (malformed order)
    | .duplicateReceipt =>
      let previous := s.lastReceiptHash
      s.bookNew P input now
        (fun order => { order with receiptHash := previous <|> order.receiptHash })
        fun order => .ok (accepted order)
    | .accept => s.bookNew P input now id fun order => .ok (accepted order)

def getOrderByIdempotencyKey (key : String) : Option OperatorOrder × Sandbox :=
  let hidden := s.hiddenReads key
  if 0 < hidden then (none, s.hide key (hidden - 1)) else (s.orderOf key, s)

/-- The look-ups of `getOrdersByIdempotencyKeys`, from one key to the next. -/
def lookUpEach : List String → Sandbox → OperatorLookupByKey × Sandbox
  | [], s => ([], s)
  | key :: keys, s =>
    let (order, s) := s.getOrderByIdempotencyKey key
    let (results, s) := lookUpEach keys s
    ((key, match order with | some order => .found order | none => .notFound) :: results, s)

def getOrdersByIdempotencyKeys (keys : List String) : OperatorLookupByKey × Sandbox :=
  lookUpEach keys.eraseDups s

def getBalance (currency : String) : Except String OperatorBalance :=
  let balance := s.balances currency
  match fromCents balance.availableCents, fromCents balance.exposureCents with
  | some available, some exposure => .ok ⟨currency, available, exposure⟩
  | none, _ => .error ("Centimes non entiers : " ++ toString balance.availableCents)
  | some _, none => .error ("Centimes non entiers : " ++ toString balance.exposureCents)

/-! ## Runs -/

/-- The calls that change the adapter. -/
inductive Call
  | enqueue (scenarios : List SandboxScenario)
  | setQuoteOdd (odd : Option JsNumber)
  | fund (currency amount : String)
  | shiftBalance (currency : String) (deltaCents : Int)
  | settle (externalOrderId : String) (outcome : SandboxOutcome)
  | reset
  | placeOrder (input : PlaceOrderRequest)
  | getOrderByIdempotencyKey (key : String)
  | getOrdersByIdempotencyKeys (keys : List String)

/-- The adapter after a call, made at the instant `now`. -/
def exec (P : Platform) (s : Sandbox) : Call × Int → Sandbox
  | (.enqueue scenarios, _) => s.enqueue scenarios
  | (.setQuoteOdd odd, _) => s.setQuoteOdd odd
  | (.fund currency amount, _) => (s.fund currency amount).2
  | (.shiftBalance currency deltaCents, _) => s.shiftBalance currency deltaCents
  | (.settle externalOrderId outcome, now) => (s.settle externalOrderId outcome now).2
  | (.reset, _) => s.reset
  | (.placeOrder input, now) => (s.placeOrder P input now).2
  | (.getOrderByIdempotencyKey key, _) => (s.getOrderByIdempotencyKey key).2
  | (.getOrdersByIdempotencyKeys keys, _) => (s.getOrdersByIdempotencyKeys keys).2

/-- The adapter after any calls, one after the other. -/
def after (P : Platform) (s : Sandbox) (calls : List (Call × Int)) : Sandbox :=
  calls.foldl (exec P) s

end Sandbox

end ApiScore
