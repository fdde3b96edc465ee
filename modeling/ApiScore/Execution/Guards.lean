import ApiScore.Execution.Runs

/-!
# What a call knows when it acts

A call acts on what it has read before, and other calls move in between.  This file says, for each
action of the pipeline that has to be justified, which knowledge justifies it: an order is placed
only by the call it was handed to, a stake is released only for one of five reasons, and the items
of a reconciliation run come from what that run has read, in the order it has read it.

* `Rely` — what a call can rely on while the others move.
* `Did` — a call has performed an action, and something has held since.
* `Excuse` — why a stake may be released.
* `Examined` — what a reconciliation run has seen when it writes its items.
* `Guard` — the knowledge behind each action.
-/

set_option autoImplicit false

namespace ApiScore

open Relational Concurrent

/-! ## What stays while the others move -/

/-- Nothing is taken back, and what belongs to call `i` is as it was. -/
structure Rely (i : CallId) (w w' : World) : Prop where
  onward : Onward w w'
  unmoved : Unmoved i w w'

theorem Rely.refl (i : CallId) (w : World) : Rely i w w := ⟨.refl w, .refl i w⟩

theorem Rely.trans {i : CallId} {w w' w'' : World} (h : Rely i w w') (h' : Rely i w' w'') :
    Rely i w w'' :=
  ⟨h.onward.trans h'.onward, h.unmoved.trans h'.unmoved⟩

/-- The world, with one more event in its history. -/
def World.note (w : World) (e : Event) : World := { w with trace := e :: w.trace }

@[simp] theorem note_db (w : World) (e : Event) : (w.note e).db = w.db := rfl

@[simp] theorem note_clock (w : World) (e : Event) : (w.note e).clock = w.clock := rfl

@[simp] theorem note_handed (w : World) (e : Event) : (w.note e).handed = w.handed := rfl

@[simp] theorem note_permits (w : World) (e : Event) : (w.note e).permits = w.permits := rfl

@[simp] theorem note_book (w : World) (e : Event) : (w.note e).book = w.book := rfl

@[simp] theorem note_funds (w : World) (e : Event) : (w.note e).funds = w.funds := rfl

@[simp] theorem note_trace (w : World) (e : Event) : (w.note e).trace = e :: w.trace := rfl

theorem Rely.note (i : CallId) (w : World) (e : Event) : Rely i w (w.note e) :=
  ⟨⟨le_refl _, .refl _, List.suffix_cons _ _⟩, ⟨rfl, fun _ => Iff.rfl⟩⟩

/-- What holds in every state of a run, and what a call tolerates from the others. -/
structure Frame where
  inv : World → Prop
  rely : CallId → World → World → Prop

/-- Call `i` performed `a` where `K` held, was answered `b`, and `R` relates that moment to `w`. -/
def Did (S : Setting) (F : Frame) (R : World → World → Prop) (i : CallId)
    (a : Action) (b : a.Result) (K : World → Prop) (w : World) : Prop :=
  ∃ w₁ w₂, K w₁ ∧ F.inv w₁ ∧ S.Step i a w₁ b w₂ ∧ F.inv w₂ ∧ R w₂ w

section

variable {S : Setting} {F : Frame} {R : World → World → Prop} {i : CallId}
  {a : Action} {b : a.Result} {K K' : World → Prop} {w w' : World}

theorem Did.imp {R' : World → World → Prop} (h : Did S F R i a b K w) (hK : ∀ x, K x → K' x)
    (hR : ∀ x, R x w → R' x w') : Did S F R' i a b K' w' := by
  obtain ⟨w₁, w₂, hk, h₁, hs, h₂, hr⟩ := h
  exact ⟨w₁, w₂, hK w₁ hk, h₁, hs, h₂, hR w₂ hr⟩

theorem Did.onward (h : Did S F Onward i a b K w) (hw : Onward w w') :
    Did S F Onward i a b K w' :=
  h.imp (fun _ hk => hk) fun _ hr => hr.trans hw

end

/-! ## Why a stake may be released -/

/-- How call `i` knows that the operator does not hold the order whose stake it releases, while the
order is in one of the statuses of `source`. -/
inductive Excuse (i : CallId) (orderId : String) (source : List OrderStatus) (w : World) : Prop
  /-- The order has never been submitted. -/
  | neverSubmitted (hsource : source = [.reserved])
  /-- The call was to submit it, and has not. -/
  | notStarted {o : BetOrder} (hsource : source = [.submitting, .reserved])
      (hhanded : w.handed i = some o) (hid : o.id = orderId)
  /-- The operator has refused it. -/
  | refused {o : BetOrder} {code : String} (hsource : source = [.submitting, .reserved])
      (ho : o ∈ w.db.orders) (hid : o.id = orderId)
      (hanswer : .answered i o.idempotencyKey (.rejected code) ∈ w.trace)
  /-- A lookup says that the operator has refused it. -/
  | refusedLookup {o : BetOrder} {op : OperatorOrder} {results : OperatorLookupByKey}
      {clock : Int} (hsource : source = [.unknown]) (ho : o ∈ w.db.orders) (hid : o.id = orderId)
      (hlookup : .lookedUp i (.ok results) clock ∈ w.trace)
      (hfound : returnedFor results o.idempotencyKey = some (.found op))
      (hop : op.status = .rejected)
  /-- A lookup does not know it, after the delay of grace. -/
  | absent {o : BetOrder} {results : OperatorLookupByKey} {now clock : Int}
      (hsource : source = [.unknown]) (ho : o ∈ w.db.orders) (hid : o.id = orderId)
      (hlookup : .lookedUp i (.ok results) clock ∈ w.trace)
      (hnone : returnedFor results o.idempotencyKey = some .notFound)
      (hnow : now ≤ clock) (hage : o.status = .unknown → unknownGraceMs ≤ o.unknownAge now)

theorem Excuse.releasable {i : CallId} {orderId : String} {source : List OrderStatus} {w : World}
    (h : Excuse i orderId source w) : ∀ s ∈ source, s ∈ releasableStatuses := by
  intro s hs
  cases h <;> subst source <;> cases s <;> simp_all [releasableStatuses]

/-! ## What a run has seen -/

/-- The order is decided: it is neither waiting for the operator nor ambiguous. -/
def Decided (orderId : String) (w : World) : Prop :=
  ∃ row ∈ w.db.orders, row.id = orderId ∧ row.status ∉ releasableStatuses

/-- Nothing will ever change the order's row again. -/
def Ended (orderId : String) (w : World) : Prop :=
  ∃ row ∈ w.db.orders, row.id = orderId ∧
    row.status ∈ [OrderStatus.rejected, .settled, .voided, .reconciliationRequired]

/-- The order waits for a human. -/
def Disputed (orderId : String) (w : World) : Prop :=
  ∃ row ∈ w.db.orders, row.id = orderId ∧ row.status = .reconciliationRequired

/-- What is known of an `UNKNOWN` order once it was resolved from what the operator said. -/
inductive Resolution (orderId : String) (op : Option OperatorOrder) (w : World) :
    UnknownResolution → Prop
  | pending (hop : op = none) : Resolution orderId op w .pending
  | tooOld (hop : op = none) : Resolution orderId op w .tooOld
  | declaredNotPlaced (hop : op = none) : Resolution orderId op w .declaredNotPlaced
  | rejected {x : OperatorOrder} (hop : op = some x) (hs : x.status = .rejected) :
      Resolution orderId op w .rejected
  | accepted {x : OperatorOrder} (hop : op = some x) (hs : x.status.isSettled = false)
      (hdecided : Decided orderId w) : Resolution orderId op w .accepted
  | settled {x : OperatorOrder} (hop : op = some x) (hdecided : Decided orderId w)
      (hended : x.settlement?.isSome = true → Ended orderId w) : Resolution orderId op w .settled
  | reconciliationRequired (hdisputed : Disputed orderId w) :
      Resolution orderId op w .reconciliationRequired

/-- What a run has made of one listed order, from the answer of the lookup. -/
inductive Resolved (lookups : OperatorLookupByKey) (o : BetOrder) (w : World) :
    List ItemDraft → Prop
  | other (hs : o.status ≠ .unknown) (hs' : o.status ≠ .accepted) : Resolved lookups o w []
  | untold (hnone : lookupOf lookups o.idempotencyKey = none) : Resolved lookups o w []
  | failed {reason : String}
      (hfailed : lookupOf lookups o.idempotencyKey = some (.lookupFailed reason)) :
      Resolved lookups o w []
  | unknown {lookup : OperatorOrderLookup} {r : UnknownResolution} (hs : o.status = .unknown)
      (hlookup : lookupOf lookups o.idempotencyKey = some lookup)
      (hfailed : ∀ reason, lookup ≠ .lookupFailed reason)
      (hr : Resolution o.id lookup.order? w r) : Resolved lookups o w [resolutionItem o r]
  | settled {op : OperatorOrder} (hs : o.status = .accepted)
      (hlookup : lookupOf lookups o.idempotencyKey = some (.found op))
      (hended : op.settlement?.isSome = true → Ended o.id w) :
      Resolved lookups o w [item (some o.id) .settlement .resolved .info
        ("Règlement opérateur " ++ op.status.text)]
  | open {lookup : OperatorOrderLookup} (hs : o.status = .accepted)
      (hlookup : lookupOf lookups o.idempotencyKey = some lookup)
      (hopen : ∀ op, lookup.order? = some op → op.status.isSettled = false) :
      Resolved lookups o w []

/-- Everything a reconciliation run reads and computes, from its listing to its items. -/
structure Examination where
  run : ReconciliationRun
  account : BankrollAccount
  port : OperatorPort
  now : Int
  abandoned : List ItemDraft
  listed : List BetOrder
  lookups : OperatorLookupByKey
  resolved : List (List ItemDraft)
  fresh : List BetOrder
  receiptIds : List String
  ledgerKeys : List String
  freshAccount : BankrollAccount
  balance : List ItemDraft
  ledger : List ItemDraft

namespace Examination

variable (x : Examination) (S : Setting) (F : Frame) (i : CallId)

/-- The items of the orders that were read again. -/
def compared : List ItemDraft :=
  x.fresh.flatMap (compareFresh x.lookups x.receiptIds x.ledgerKeys (decide (x.port.kind ≠ .paper)))

/-- All the items of the run. -/
def drafts : List ItemDraft :=
  x.abandoned ++ x.listed.flatMap (lookupItem x.lookups) ++ x.resolved.flatten ++ x.compared ++
    x.balance ++ x.ledger

/-- The ids of the listed orders. -/
def ids : List String := x.listed.map (·.id)

/-- The run has listed its orders. -/
def Scoped (w : World) : Prop :=
  x.now ≤ w.clock ∧
    Did S F Onward i (.query (.ordersInScope x.account.id x.run.rangeFrom x.run.rangeTo))
      (.ok x.listed) (fun _ => True) w

/-- The run has asked the operator about them, if it had to. -/
def Looked (w : World) : Prop :=
  x.Scoped S F i w ∧ ∃ answer,
    x.lookups = readLookups S.platform (lookupKeys x.listed) answer ∧
      (lookupKeys x.listed = [] ∨
        Did S F Onward i (.lookup x.port.operatorKey (lookupKeys x.listed).dedup) answer
          (x.Scoped S F i) w)

/-- The run has resolved or settled what it could. -/
def Settled (w : World) : Prop :=
  x.Looked S F i w ∧ List.Forall₂ (fun o ds => Resolved x.lookups o w ds) x.listed x.resolved

/-- The run has read the orders, their receipts and their entries again, in any order. -/
def Reread (w : World) : Prop :=
  x.ids = [] ∧ x.fresh = [] ∧ x.Settled S F i w ∨
    Did S F (F.rely i) i (.query (.ordersByIds x.ids)) (.ok x.fresh) (x.Settled S F i) w ∧
      Did S F (F.rely i) i (.query (.receiptsOf x.ids)) (.ok x.receiptIds) (x.Settled S F i) w ∧
      Did S F (F.rely i) i (.query (.entryKeysOf x.account.id x.ids)) (.ok x.ledgerKeys)
        (x.Settled S F i) w

/-- The run has read the account again. -/
def AccountRead (w : World) : Prop :=
  Did S F (F.rely i) i (.query (.account x.account.id)) (.ok x.freshAccount) (x.Reread S F i) w

/-- How many of the orders read again may not have reached the operator yet. -/
def ambiguous : Nat := (x.fresh.filter fun o => ambiguousStatuses.contains o.status).length

/-- The run has compared the balance, or has found that it cannot. -/
inductive BalanceCompared (w : World) : Prop
  | paper (hkind : x.port.kind = .paper) (hitems : x.balance = [])
      (hread : x.AccountRead S F i w)
  | ambiguous (hkind : x.port.kind ≠ .paper) (hpos : 0 < x.ambiguous)
      (hitems : x.balance = [item none .balance .pending .warning
        ("Solde non comparable : " ++ toString x.ambiguous ++
          " ordre(s) en attente de résolution")])
      (hread : x.AccountRead S F i w)
  | compared {answer : Except String OperatorBalance} (hkind : x.port.kind ≠ .paper)
      (hzero : x.ambiguous = 0)
      (hitems : x.balance = [compareBalance S.platform x.freshAccount answer])
      (hread : Did S F (F.rely i) i (.balance x.port.operatorKey x.freshAccount.currency) answer
        (x.AccountRead S F i) w)

end Examination

/-- **What a run has seen when it writes its items.** -/
structure Examined (S : Setting) (F : Frame) (i : CallId) (x : Examination)
    (w : World) : Prop where
  account : Did S F Onward i (.query (.account x.run.accountId)) (.ok x.account) (fun _ => True) w
  port : S.platform.portFor x.account.mode = .ok x.port
  abandoned : ∀ d ∈ x.abandoned, d.itemType = .order ∧ d.severity = .warning ∧ d.result = .resolved
  settled : x.Settled S F i w
  reread : x.Reread S F i w
  balance : x.BalanceCompared S F i w
  ledger : ∀ d ∈ x.ledger, d.itemType = .ledger ∧ d.orderId = none ∧ d.severity = .critical

/-! ## The knowledge behind each action -/

/-- The call was handed the order, which is still in the table. -/
def Holding (i : CallId) (order : BetOrder) (w : World) : Prop :=
  w.handed i = some order ∧ ∃ row ∈ w.db.orders, Became order row

/-- The request is that of an order the call was handed, and the call has a permit for its mode. -/
def Submits (i : CallId) (request : PlaceOrderRequest) (w : World) : Prop :=
  ∃ o, Holding i o w ∧ request = o.request ∧ ⟨i, o.mode⟩ ∈ w.permits

/-- The settlement of an order comes from the stake it was accepted for, which has left the
account. -/
def Settles (orderId : String) (outcome : DecisionOutcome) (profit payout : Int) (w : World) :
    Prop :=
  ∃ o ∈ w.db.orders, o.id = orderId ∧ w.db.Has .settle o.idempotencyKey ∧
    ∃ stake, o.acceptedStake = some stake ∧ settlementOutcome stake payout = (outcome, profit)

/-- **What call `i` knows when it performs an action.** -/
def Guard (S : Setting) (F : Frame) (i : CallId) : Action → World → Prop
  | .placeOrder request, w => Submits i request w
  | .commit (.cancel orderId source _), w => Excuse i orderId source w
  | .commit (.settleOrder orderId outcome profit payout _), w =>
    Settles orderId outcome profit payout w ∧ ∃ o ∈ w.db.orders, o.id = orderId ∧
      ∃ results clock op text, .lookedUp i (.ok results) clock ∈ w.trace ∧
        returnedFor results o.idempotencyKey = some (.found op) ∧ op.settlement? = some text ∧
        toCents text = some payout
  | .commit (.completeRun runId drafts), w =>
    ∃ x : Examination, x.run.id = runId ∧ x.drafts = drafts ∧ Examined S F i x w
  | .commit t, w => t.Guarded w.db
  | _, _ => True

/-- A justified action moves the tables only as they may move. -/
theorem Guard.guarded {S : Setting} {F : Frame} {i : CallId} {a : Action}
    {w : World} (h : Guard S F i a w) : a.Guarded w.db := by
  cases a with
  | commit t =>
    cases t with
    | cancel orderId source c => exact h.releasable
    | settleOrder orderId outcome profitCents payout settledAt =>
      obtain ⟨⟨o, ho, hid, hhas, -⟩, -⟩ := h
      intro x hx hxid
      rw [order_eq_of_id hx ho (hxid.trans hid.symm)]
      exact hhas
    | completeRun => trivial
    | _ => exact h
  | _ => trivial

/-- A contract under which the pipeline's calls can be verified. -/
structure Terms (S : Setting) extends Contract Action CallId World where
  /-- What a call relies on includes what every call can rely on. -/
  general : ∀ {i w w'}, rely i w w' → Rely i w w'
  /-- Reading is no interference. -/
  note : ∀ i w e, rely i w (w.note e)
  onward : ∀ {i w w'}, guar i w w' → Onward w w'
  guards : ∀ {i a w}, inv w → Guard S ⟨inv, rely⟩ i a w → pre i a w

abbrev Terms.frame {S : Setting} (T : Terms S) : Frame := ⟨T.inv, T.rely⟩

end ApiScore
