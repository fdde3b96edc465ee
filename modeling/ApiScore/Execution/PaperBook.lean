import ApiScore.Execution.PaperOperator
import ApiScore.Lib.Alone
import ApiScore.Odds.Quotes

/-!
# The book of the paper operator

The calls of `paper-operator.adapter.ts` in one process.  The book is in memory, and what a call does
to it between two answers of the database nobody interrupts; but while it waits others go on, and a
booking that has been replaced in the book is still in the hands of a call that found it.

* `placeOrder`, `getOrdersByIdempotencyKeys`, `getOrderByExternalId` — the calls, as programs.
* `PaperWorld` — the bookings, the book, and the database.
* `paperSystem` — any number of calls, while the odds and the matches change.
-/

set_option autoImplicit false

namespace ApiScore

open Relational Concurrent

/-! ## One booking -/

/-- An order that is settled: its status changes before `fromCents` may throw. -/
def OperatorOrder.close (order : OperatorOrder) (outcome : DecisionOutcome) (payoutCents now : Int) :
    OperatorOrder :=
  let order := { order with status := if outcome = .void then .voided else .settled }
  match fromCents payoutCents with
  | some payout => { order with payout := some payout, settledAt := some now }
  | none => order

/-- `refreshSettlementFromFixture`, and what it leaves of the booking. -/
def PaperBooking.refresh (booking : PaperBooking) (fixture : Option Fixture) (now : Int) :
    Except ServiceError OperatorOrder × PaperBooking :=
  let order := booking.order
  if order.status ≠ .accepted then (.ok order, booking)
  else
    match fixture, marketTypeByKey booking.marketKey with
    | some fixture, some marketType =>
      match resolveSettlement ⟨marketType, booking.isHomeTeam⟩ (finalStateOf fixture) with
      | some outcome =>
        match order.acceptedStake.bind toCents, order.acceptedOdd.bind (·.finite?) with
        | some stake, some odd =>
          let payoutCents := outcome.payoutCents stake odd
          let closed := order.close outcome payoutCents now
          (if isSafeInteger payoutCents then .ok closed else .error (.other "Centimes non entiers"),
            { booking with order := closed })
        | none, _ => (.error (.other "Montant décimal invalide"), booking)
        -- never: an order is booked at the odd of a quote
        | some _, none => (.error (.other "Centimes non entiers"), booking)
      | none => (.ok order, booking)
    | _, _ => (.ok order, booking)

/-- What it answers is what the settlement of one booking answers. -/
theorem PaperBooking.refresh_fst (booking : PaperBooking) (fixture : Option Fixture) (now : Int) :
    (booking.refresh fixture now).1 = booking.refreshSettlementFromFixture fixture now := by
  unfold refresh refreshSettlementFromFixture
  dsimp only
  split_ifs with hstatus
  · rfl
  cases fixture with
  | none => rfl
  | some fixture =>
    cases marketTypeByKey booking.marketKey with
    | none => rfl
    | some marketType =>
      dsimp only
      cases resolveSettlement ⟨marketType, booking.isHomeTeam⟩ (finalStateOf fixture) with
      | none => rfl
      | some outcome =>
        simp only [OperatorOrder.settle, OperatorOrder.close, fromCents]
        cases booking.order.acceptedStake.bind toCents with
        | none => rfl
        | some stake =>
          cases booking.order.acceptedOdd.bind (·.finite?) with
          | none => rfl
          | some odd =>
            dsimp only
            split_ifs <;> rfl

/-! ## The calls -/

inductive PaperAction
  /-- What is booked under a key, and the time. -/
  | seek (key : String)
  | loadCandidates (query : QuoteCandidatesQuery)
  /-- Book an order at the odd of a quote, in thousandths. -/
  | book (request : PlaceOrderRequest) (oddMillis now : Int)
  /-- The answers for these keys, or the matches that they wait for. -/
  | begin (keys : List String)
  | fixturesOf (ids : List String)
  | report (keys : List String) (fixtures : List Fixture)
  /-- The first booking with an external id, and its match. -/
  | locate (externalOrderId : String)
  | refresh (ref : Nat) (fixture : Option Fixture)

abbrev KeyedLookup : Type := String × OperatorOrderLookup

abbrev PaperAction.Result : PaperAction → Type
  | .seek _ => Option PlaceOrderResult × Int
  | .loadCandidates _ => Except String (List ExecutableQuote)
  | .book _ _ _ => PlaceOrderResult
  | .begin _ => Except ServiceError (List KeyedLookup) ⊕ List String
  | .fixturesOf _ => Except String (List Fixture)
  | .report _ _ => Except ServiceError (List KeyedLookup)
  | .locate _ => Option (Nat × String)
  | .refresh _ _ => Except ServiceError OperatorOrder

abbrev PaperCall (α : Type) : Type := Async PaperAction PaperAction.Result ServiceError α

namespace PaperCall

def perform (a : PaperAction) : PaperCall a.Result := ExceptT.lift (Prog.perform a)

def fixturesOf (ids : List String) : PaperCall (List Fixture) := do
  match ← perform (.fixturesOf ids) with
  | .ok fixtures => return fixtures
  | .error e => throw (.other e)

/-- The latest quote on a target. -/
def latestQuote (C : Collation) (lookup : ExecutableQuoteLookup) :
    PaperCall (Option ExecutableQuote) := do
  match ← perform (.loadCandidates ⟨[lookup.target.providerFixtureId],
    lookup.instant - lookup.maxQuoteAgeMs, lookup.instant⟩) with
  | .ok candidates => return selectLatest C candidates lookup
  | .error e => throw (.other e)

def getExecutableQuote (C : Collation) (lookup : ExecutableQuoteLookup) :
    PaperCall (Option OperatorQuote) := do
  let quote ← latestQuote C lookup
  return quote.map fun quote =>
    ⟨some quote.snapshotId, .num (oddValue quote.oddValue), quote.observedAt, quote.available⟩

def placeOrder (C : Collation) (input : PlaceOrderRequest) : PaperCall PlaceOrderResult := do
  match ← perform (.seek input.idempotencyKey) with
  | (some result, _) => return result
  | (none, now) => do
    let quote ← latestQuote C
      ⟨⟨input.providerFixtureId, input.marketKey, input.selectionKey, none, none⟩, now,
        max 1 (now - input.quoteCapturedAt) + 60000⟩
    match quote with
    | none => return .rejected "NO_QUOTE"
    | some quote =>
      if oddValue quote.oddValue < input.minimumOdd then return .rejected "ODD_MOVED"
      else perform (.book input quote.oddValue now)

def getOrdersByIdempotencyKeys (keys : List String) : PaperCall (List KeyedLookup) := do
  match ← perform (.begin keys) with
  | .inl answer => liftExcept answer
  | .inr fixtureIds => do
    let fixtures ← fixturesOf fixtureIds
    liftExcept (← perform (.report keys fixtures))
where
  liftExcept (answer : Except ServiceError (List KeyedLookup)) : PaperCall (List KeyedLookup) :=
    match answer with
    | .ok lookups => return lookups
    | .error e => throw e

def getOrderByIdempotencyKey (key : String) : PaperCall (Option OperatorOrder) := do
  match (← getOrdersByIdempotencyKeys [key]).head? with
  | some (_, .found order) => return some order
  | _ => return none

def getOrderByExternalId (id : String) : PaperCall (Option OperatorOrder) := do
  match ← perform (.locate id) with
  | none => return none
  | some (ref, fixtureId) => do
    let fixtures ← fixturesOf [fixtureId]
    match ← perform (.refresh ref fixtures.head?) with
    | .ok order => return some order
    | .error e => throw e

end PaperCall

/-! ## What they work on -/

inductive PaperEvent
  /-- A placement has found nothing under the key. -/
  | sought (call : Nat) (key : String)
  | booked (call : Nat) (key : String) (ref : Nat)
  /-- A placement was answered with the booking. -/
  | answered (key : String) (ref : Nat) (result : PlaceOrderResult)
  | reported (key : String) (ref : Nat) (order : OperatorOrder)
  | fetched (fixture : Fixture)
  deriving DecidableEq

structure PaperWorld where
  /-- Every booking that was made, by the number it is referred to with. -/
  bookings : List PaperBooking
  /-- `book`, in the order of its keys. -/
  book : List (String × Nat)
  odds : Table oddsSchema
  fixtures : List Fixture
  clock : Int
  /-- Latest first. -/
  trace : List PaperEvent

/-- `Map.set`: a key that is there keeps its place. -/
def setEntry (key : String) (ref : Nat) : List (String × Nat) → List (String × Nat)
  | [] => [(key, ref)]
  | (k, r) :: rest => if k = key then (k, ref) :: rest else (k, r) :: setEntry key ref rest

namespace PaperWorld

variable (w : PaperWorld)

/-- `book.get`, as a number. -/
def refOf (key : String) : Option Nat := (w.book.find? (·.1 == key)).map (·.2)

def bookingOf (key : String) : Option PaperBooking := (w.refOf key).bind (w.bookings[·]?)

def seek (i : Nat) (key : String) : (Option PlaceOrderResult × Int) × PaperWorld :=
  match w.refOf key with
  | some ref =>
    match w.bookings[ref]? with
    | some booking => ((some booking.toResult, w.clock),
        { w with trace := .answered key ref booking.toResult :: w.trace })
    -- never: what is in the book was made
    | none => ((none, w.clock), w)
  | none => ((none, w.clock), { w with trace := .sought i key :: w.trace })

def enter (P : Platform) (i : Nat) (request : PlaceOrderRequest) (oddMillis now : Int) :
    PlaceOrderResult × PaperWorld :=
  let booking := PaperBooking.of P request oddMillis now
  let ref := w.bookings.length
  let key := request.idempotencyKey
  (booking.toResult,
    { w with
      bookings := w.bookings ++ [booking]
      book := setEntry key ref w.book
      trace := .answered key ref booking.toResult :: .booked i key ref :: w.trace })

/-- One booking, refreshed, and reported under its key. -/
def refreshAt (ref : Nat) (fixture : Option Fixture) : Except ServiceError OperatorOrder × PaperWorld :=
  match w.bookings[ref]? with
  | some booking =>
    let (answer, refreshed) := booking.refresh fixture w.clock
    let events := match answer with
      | .ok order => [PaperEvent.reported booking.order.idempotencyKey ref order]
      | .error _ => []
    (answer, { w with bookings := w.bookings.set ref refreshed, trace := events ++ w.trace })
  -- never: what a call refers to was made
  | none => (.error (.other ""), w)

/-- The bookings under the keys, one after the other; one that throws ends it. -/
def reportEach (fixtures : List Fixture) :
    List String → PaperWorld → Except ServiceError (List KeyedLookup) × PaperWorld
  | [], w => (.ok [], w)
  | key :: keys, w =>
    match w.refOf key with
    | none =>
      let (rest, w₁) := reportEach fixtures keys w
      (rest.map ((key, .notFound) :: ·), w₁)
    | some ref =>
      let fixtureId := (w.bookings[ref]?).map (·.fixtureId)
      match w.refreshAt ref (fixtures.find? fun f => some f.id == fixtureId) with
      | (.ok order, w₁) =>
        let (rest, w₂) := reportEach fixtures keys w₁
        (rest.map ((key, .found order) :: ·), w₂)
      | (.error e, w₁) => (.error e, w₁)

def report (keys : List String) (fixtures : List Fixture) :
    Except ServiceError (List KeyedLookup) × PaperWorld := reportEach fixtures keys.eraseDups w

/-- The matches that the bookings under the keys wait for. -/
def awaited (keys : List String) : List String :=
  (keys.eraseDups.filterMap fun key =>
    ((w.bookingOf key).filter (·.order.status == .accepted)).map (·.fixtureId)).eraseDups

/-- Where no match is waited for, nothing interrupts the answer. -/
def begin (keys : List String) :
    (Except ServiceError (List KeyedLookup) ⊕ List String) × PaperWorld :=
  match w.awaited keys with
  | [] =>
    let (answer, w₁) := w.report keys []
    (.inl answer, w₁)
  | ids => (.inr ids, w)

def locate (externalOrderId : String) : Option (Nat × String) :=
  w.book.findSome? fun entry =>
    ((w.bookings[entry.2]?).filter (·.order.externalOrderId == some externalOrderId)).map
      fun booking => (entry.2, booking.fixtureId)

end PaperWorld

/-- What one action does. -/
inductive PaperStep (P : Platform) (i : Nat) :
    (a : PaperAction) → PaperWorld → a.Result → PaperWorld → Prop
  | seek {key : String} {w : PaperWorld} :
    PaperStep P i (.seek key) w (w.seek i key).1 (w.seek i key).2
  | loaded {query : QuoteCandidatesQuery} {w : PaperWorld} :
    PaperStep P i (.loadCandidates query) w (.ok (loadCandidates w.odds query)) w
  | notLoaded {query : QuoteCandidatesQuery} {w : PaperWorld} (e : String) :
    PaperStep P i (.loadCandidates query) w (.error e) w
  | book {request : PlaceOrderRequest} {oddMillis now : Int} {w : PaperWorld} :
    PaperStep P i (.book request oddMillis now) w (w.enter P i request oddMillis now).1
      (w.enter P i request oddMillis now).2
  | begin {keys : List String} {w : PaperWorld} :
    PaperStep P i (.begin keys) w (w.begin keys).1 (w.begin keys).2
  | fetched {ids : List String} {w : PaperWorld} {r : List Fixture}
      (hperm : r.Perm (w.fixtures.filter fun f => ids.contains f.id)) :
    PaperStep P i (.fixturesOf ids) w (.ok r) { w with trace := r.map .fetched ++ w.trace }
  | notFetched {ids : List String} {w : PaperWorld} (e : String) :
    PaperStep P i (.fixturesOf ids) w (.error e) w
  | report {keys : List String} {fixtures : List Fixture} {w : PaperWorld} :
    PaperStep P i (.report keys fixtures) w (w.report keys fixtures).1 (w.report keys fixtures).2
  | locate {externalOrderId : String} {w : PaperWorld} :
    PaperStep P i (.locate externalOrderId) w (w.locate externalOrderId) w
  | refresh {ref : Nat} {fixture : Option Fixture} {w : PaperWorld} :
    PaperStep P i (.refresh ref fixture) w (w.refreshAt ref fixture).1 (w.refreshAt ref fixture).2

/-- The calls of the port. -/
inductive PaperEntry (C : Collation) : Prog PaperAction PaperAction.Result Unit → Prop
  | quote (lookup : ExecutableQuoteLookup) :
    PaperEntry C ((PaperCall.getExecutableQuote C lookup).run >>= fun _ => .ret ())
  | place (input : PlaceOrderRequest) :
    PaperEntry C ((PaperCall.placeOrder C input).run >>= fun _ => .ret ())
  | byKeys (keys : List String) :
    PaperEntry C ((PaperCall.getOrdersByIdempotencyKeys keys).run >>= fun _ => .ret ())
  | byKey (key : String) :
    PaperEntry C ((PaperCall.getOrderByIdempotencyKey key).run >>= fun _ => .ret ())
  | byExternalId (id : String) :
    PaperEntry C ((PaperCall.getOrderByExternalId id).run >>= fun _ => .ret ())

/-- Any number of calls, while time passes and the database changes. -/
def paperSystem (C : Collation) (P : Platform) : System PaperAction PaperAction.Result Nat PaperWorld where
  step := PaperStep P
  entry := PaperEntry C
  env w w' := ∃ odds fixtures clock, w.clock ≤ clock ∧ w' = { w with odds, fixtures, clock }
  drop _ w := w

end ApiScore
