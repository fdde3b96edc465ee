import ApiScore.Execution.Calls
import ApiScore.Execution.Evolution

/-!
# Runs of the pipeline

Any number of calls, in any number of processes, over one database and one operator.  The database
runs a transaction at once, or not at all; it may also lose the acknowledgement of one it has
committed.  The control row is locked: shared by a submission from its permit to its release, and
exclusively by the transactions that write it.

The operator answers what it likes.  What it holds under each key is in `book`, and only the
surroundings change it; a claim that needs truthful answers asks for them in its `Setting`.

* `World` — the state of a run.
* `exec` — what one action does.
* `Setting`, `Setting.system` — the runs a claim is about.
* `Transaction.moves`, `exec_onward` — what one action can change.
-/

set_option autoImplicit false

namespace ApiScore

open Relational Concurrent
open Relation (ReflTransGen)

/-! ## The state of a run -/

abbrev CallId := Nat

/-- A submission that holds the control row shared. -/
structure Permit where
  call : CallId
  mode : StoredMode
  deriving DecidableEq

/-- What the operator knows of a key. -/
inductive Standing
  | unseen
  /-- It has refused the order for good. -/
  | refused
  | held (order : OperatorOrder)
  deriving DecidableEq

/-- What the calls have done, as far as something later depends on it. -/
inductive Event
  | read (call : CallId) (q : Query) (r : q.Result)
  /-- The re-check of an order has committed. -/
  | rechecked (call : CallId) (orderId : String)
  /-- The call was handed an order as `SUBMITTING`; did its own transaction move it there? -/
  | handed (call : CallId) (order : BetOrder) (moved : Bool)
  /-- A submission has begun, with the control row as it was. -/
  | started (call : CallId) (request : PlaceOrderRequest) (control : Option ExecutionControl)
  | answered (call : CallId) (key : String) (result : PlaceOrderResult)
  | lookedUp (call : CallId) (answer : Except String OperatorLookupByKey) (clock : Int)
  | balanceRead (call : CallId) (answer : Except String OperatorBalance)
  | dated (call : CallId) (now : Int)
  /-- A stop has committed. -/
  | stopped
  /-- A change of mode upwards has committed. -/
  | raised
  /-- A reconciliation run has committed its items. -/
  | completed (call : CallId) (runId : String) (drafts : List ItemDraft)

structure World where
  db : Database
  /-- The clock of the processes, in milliseconds. -/
  clock : Int
  permits : List Permit
  /-- The order a call was handed as `SUBMITTING` and has neither submitted nor given up. -/
  handed : CallId → Option BetOrder
  book : String → Standing
  funds : String → String → OperatorBalance
  /-- Latest first. -/
  trace : List Event

def World.init (db : Database) (clock : Int) (funds : String → String → OperatorBalance) :
    World where
  db := db
  clock := clock
  permits := []
  handed := fun _ => none
  book := fun _ => .unseen
  funds := funds
  trace := []

/-! ## What one action does -/

/-- A transaction that throws for a reason of the database: it is rolled back, or committed without
the caller knowing. -/
inductive Fault
  | rolledBack (e : TxError)
  | unacknowledged (e : TxError)
  deriving DecidableEq

def Fault.error : Fault → TxError
  | .rolledBack e | .unacknowledged e => e

/-- What the surroundings decide about one action. -/
structure Input where
  env : TxEnv
  fault : Option Fault
  quote : Option OperatorQuote
  answer : Except String PlaceOrderResult
  lookups : Except String OperatorLookupByKey
  balance : Except String OperatorBalance
  first : Bool

/-- Has the re-check handed the order to its caller, to be submitted? -/
def Recheck.hands (r : Recheck) : Bool := r.cancel.isNone && r.order.status == .submitting

/-- The state after the transaction of a call has committed. -/
def World.committed (w : World) (i : CallId) (db : Database) : (t : Transaction) → t.Result → World
  | .recheck orderId _, r =>
    let moved := (w.db.order? orderId).any fun o => o.status == .reserved
    { w with
      db
      handed := if r.hands then Function.update w.handed i (some r.order) else w.handed
      trace := (if r.hands then [Event.handed i r.order moved] else []) ++
        Event.rechecked i orderId :: w.trace }
  | .cancel _ _ _, _ => { w with db, handed := Function.update w.handed i none }
  | .stop _ _, _ => { w with db, trace := .stopped :: w.trace }
  | .changeMode _, r =>
    { w with db, trace := if r.2 = .up then .raised :: w.trace else w.trace }
  | .completeRun runId drafts, _ => { w with db, trace := .completed i runId drafts :: w.trace }
  | _, _ => { w with db }

/-- What one action does; `none` where it has to wait for a lock. -/
def exec (P : Platform) (i : CallId) : (a : Action) → Input → World → Option (a.Result × World)
  | .query q, input, w =>
    match input.fault, q.read w.db with
    | some f, _ => some (.error f.error.error, w)
    | none, none => some (.error (.other "Ligne introuvable"), w)
    | none, some r => some (.ok r, { w with trace := .read i q r :: w.trace })
  | .commit t, input, w =>
    if t.locksControl ∧ w.permits ≠ [] then none
    else
      match input.fault, t.body P input.env w.db with
      | some (.rolledBack e), _ => some (.error e, w)
      | _, .error e => some (.error e, w)
      | some (.unacknowledged e), .ok (r, db) => some (.error e, w.committed i db t r)
      | none, .ok (r, db) => some (.ok r, w.committed i db t r)
  | .permit mode, input, w =>
    match input.fault, submissionPermit mode input.env w.db with
    | some f, _ => some (.error f.error.error, w)
    | none, .error e => some (.error e.error, w)
    | none, .ok _ => some (.ok (), { w with permits := ⟨i, mode⟩ :: w.permits })
  | .placeOrder request, _, w =>
    some ((), { w with
      handed := Function.update w.handed i none
      trace := .started i request w.db.control :: w.trace })
  | .answer key, input, w =>
    match input.answer with
    | .ok result => some (.ok result, { w with trace := .answered i key result :: w.trace })
    | .error message => some (.error message, w)
  | .release, input, w =>
    let w' := { w with permits := w.permits.filter fun p => p.call ≠ i }
    match input.fault with
    | some f => some (.error f.error.error, w')
    | none => some (.ok (), w')
  | .executableQuote _ _ _ _, input, w => some (input.quote, w)
  | .lookup _ _, input, w =>
    some (input.lookups, { w with trace := .lookedUp i input.lookups w.clock :: w.trace })
  | .balance _ _, input, w =>
    some (input.balance, { w with trace := .balanceRead i input.balance :: w.trace })
  | .date, _, w => some (w.clock, { w with trace := .dated i w.clock :: w.trace })
  | .order, input, w => some (input.first, w)

/-! ## Systems -/

/-- A call, as the program the scheduler runs. -/
def Call.start {α : Type} (c : Call α) : Prog Action Action.Result Unit :=
  c.run >>= fun _ => .ret ()

/-- The calls that can be made from outside. -/
inductive Entry
  | openAccount (input : OpenAccountInput)
  | executeDecision (decisionId accountId : String)
  | reserve (decisionId accountId : String)
  | submit (orderId : String)
  | recoverStaleSubmissions (now : Int)
  | cancelAbandonedBatch (orderIds : List String)
  | stop (reason : String) (source : StopSource)
  | changeMode (input : ChangeModeInput) (reason : String)
  | createRiskPolicy (input : CreateRiskPolicyInput)
  /-- `execute`, with the instant it is called. -/
  | executeRun (runId : String)
  -- the parts of the calls above, called on their own with any argument
  | settleFromOperator (orderId : String) (operatorOrder : OperatorOrder)
  | applyPlacementResult (orderId : String) (result : PlaceOrderResult)
  | applyAcceptance (orderId : String) (accepted : OperatorOrder)
  | resolveUnknown (order : BetOrder) (operatorOrder : Option OperatorOrder) (now : Int)
  | cancelReserved (order : BetOrder) (c : Cancellation)
  | cancelSubmitting (order : BetOrder) (c : Cancellation)
  | cancelUnknown (order : BetOrder) (c : Cancellation)

def Entry.program (P : Platform) : Entry → Prog Action Action.Result Unit
  | .openAccount input => Call.start (commit (.openAccount input))
  | .executeDecision decisionId accountId =>
    Call.start (ApiScore.executeDecision P decisionId accountId)
  | .reserve decisionId accountId => Call.start (ApiScore.reserve decisionId accountId)
  | .submit orderId => Call.start (ApiScore.submit P orderId)
  | .settleFromOperator orderId op => Call.start (ApiScore.settleFromOperator orderId op)
  | .recoverStaleSubmissions now => Call.start (ApiScore.recoverStaleSubmissions now)
  | .cancelAbandonedBatch orderIds => Call.start (ApiScore.cancelAbandonedBatch orderIds)
  | .stop reason source => Call.start (ApiScore.stop reason source)
  | .changeMode input reason => Call.start (ApiScore.changeMode input reason)
  | .createRiskPolicy input => Call.start (commit (.createRiskPolicy input))
  | .executeRun runId => Call.start do
      let now ← perform .date
      ApiScore.executeRun P runId now
  | .applyPlacementResult orderId result =>
    Call.start (ApiScore.applyPlacementResult P orderId result)
  | .applyAcceptance orderId accepted => Call.start (ApiScore.applyAcceptance orderId accepted)
  | .resolveUnknown order op now => Call.start (ApiScore.resolveUnknown order op now)
  | .cancelReserved order c => Call.start (ApiScore.cancelReserved order c)
  | .cancelSubmitting order c => Call.start (ApiScore.cancelSubmitting order c)
  | .cancelUnknown order c => Call.start (ApiScore.cancelUnknown order c)

/-- The calls that are not a part of another one. -/
def Entry.whole : Entry → Bool
  | .settleFromOperator _ _ | .applyPlacementResult _ _ | .applyAcceptance _ _
  | .resolveUnknown _ _ _ | .cancelReserved _ _ | .cancelSubmitting _ _ | .cancelUnknown _ _ =>
    false
  | _ => true

/-- What the rest of the program does to the database: it takes decisions, registers evidence and
opens reconciliation runs. -/
def Outside (db db' : Database) : Prop :=
  db' = { db with
    runs := db'.runs, decisions := db'.decisions, evidence := db'.evidence,
    reconciliationRuns := db'.reconciliationRuns }

/-- The runs a claim is about: the calls that are made, what is known of the answers they get and of
the moment of each action, and how the operator's side may change. -/
structure Setting where
  platform : Platform
  /-- `REAL_MONEY_INTERLOCK` in the process of each call. -/
  interlock : CallId → Bool
  entry : Entry → Prop
  allow : CallId → Action → Input → World → Prop
  drift : World → (String → Standing) → (String → String → OperatorBalance) → Prop

/-- One action of call `i`. -/
def Setting.Step (S : Setting) (i : CallId) (a : Action) (w : World) (b : a.Result) (w' : World) :
    Prop :=
  ∃ input : Input, input.env.now = w.clock ∧ input.env.interlockOpen = S.interlock i ∧
    S.allow i a input w ∧ exec S.platform i a input w = some (b, w')

/-- What the surroundings do: time passes, the operator acts, and so does the rest of the program. -/
def Setting.Drift (S : Setting) (w w' : World) : Prop :=
  ∃ clock book funds db, w.clock ≤ clock ∧ S.drift w book funds ∧ Outside w.db db ∧
    w' = { w with clock, book, funds, db }

/-- A call that dies leaves its permit. -/
def World.drop (i : CallId) (w : World) : World :=
  { w with
    permits := w.permits.filter fun p => p.call ≠ i
    handed := Function.update w.handed i none }

def Setting.system (S : Setting) : System Action Action.Result CallId World where
  step := S.Step
  entry p := ∃ e, S.entry e ∧ p = e.program S.platform
  env := S.Drift
  drop := World.drop

/-! ## What one action can change -/

/-- What a transaction must be given so that it is a move. -/
def Transaction.Guarded (db : Database) : Transaction → Prop
  | .cancel _ source _ => ∀ s ∈ source, s ∈ releasableStatuses
  | .settleStake input => ∃ o ∈ db.orders, ∃ stake payout, o.status ∈ takenStatuses ∧
      o.acceptedStake = some stake ∧ input = o.settleInput stake payout
  | .settleOrder orderId _ _ _ _ => ∀ o ∈ db.orders, o.id = orderId → db.Has .settle o.idempotencyKey
  | _ => True

theorem openAccount_moves {input : OpenAccountInput} {id : String} {dbNow : Int}
    {db db' : Database} {a : BankrollAccount} (h : openAccount input id dbNow db = .ok (a, db')) :
    ReflTransGen Move db db' := by
  obtain ⟨new, t, created, res, account', ht, hb, hv, hmem, happ⟩ := openAccount_spec h
  obtain ⟨hposted, honly⟩ := happ.posted
  have haccount : Move db { db with accounts := t } := .account ht hb hv rfl rfl rfl
  have hcredit : Move { db with accounts := t } db' :=
    .credit hmem hposted rfl rfl honly.orders honly.receipts
  exact .head haccount (.single hcredit)

/-- **Every transaction is a sequence of moves.** -/
theorem Transaction.moves {P : Platform} {env : TxEnv} {db db' : Database} {t : Transaction}
    {r : t.Result} (hg : t.Guarded db) (h : t.body P env db = .ok (r, db')) :
    ReflTransGen Move db db' := by
  cases t with
  | openAccount input => exact openAccount_moves h
  | reserve decisionId accountId => exact .single (reserveTx_spec h).1
  | rejectEligible decisionId code => exact .single (.of_decisions (rejectDecision_spec h))
  | recheck orderId quote =>
    cases recheckTx_spec h with
    | cancel _ hdb => exact hdb ▸ .refl
    | found _ hdb => exact hdb ▸ .refl
    | @moved o odd _ ho _ hs _ hrw honly =>
      refine .single (.quiet hrw (List.forall_mem_singleton.2 (.submit hs odd env))
        (List.forall_mem_singleton.2 (.inl ?_)) ⟨?_, ?_⟩ ?_)
      · exact List.mem_cons_self
      · rw [honly]
      · rw [honly]
      · rw [honly]
  | cancel orderId source c =>
    rcases cancelTx_spec hg h with ⟨rfl, -⟩ | ⟨_, -, -, -, -, hm⟩
    · exact .refl
    · exact .single hm
  | unknown orderId reason =>
    rcases unknownTx_spec h with rfl | ⟨_, -, -, -, -, hm⟩
    · exact .refl
    · exact .single hm
  | acceptance orderId accepted =>
    rcases acceptanceTx_spec h with ⟨rfl, -⟩ | ⟨_, -, -, -, hm, -⟩
    · exact .refl
    · exact .single hm
  | settleStake input =>
    obtain ⟨o, ho, stake, payout, hs, hstake, rfl⟩ := hg
    exact .single (settleStakeTx_move ho hs hstake h).1
  | settleOrder orderId outcome profitCents payout settledAt =>
    exact .single (settleOrderTx_move hg h)
  | recoverStale ids =>
    obtain ⟨_, -, -, hm⟩ := recoverStaleTx_spec h
    exact .single hm
  | cancelAbandoned orderIds =>
    obtain ⟨_, -, -, -, hm⟩ := cancelAbandonedTx_spec h
    exact .single hm
  | stop reason source =>
    obtain ⟨hdb, -⟩ := stopTx_spec h
    exact .single (.aside ⟨by rw [hdb], by rw [hdb]⟩ (by rw [hdb]) (by rw [hdb]))
  | changeMode input =>
    obtain ⟨hdb, -⟩ := changeModeTx_spec h
    exact .single (.aside ⟨by rw [hdb], by rw [hdb]⟩ (by rw [hdb]) (by rw [hdb]))
  | createRiskPolicy input =>
    obtain ⟨hdb, -⟩ := createRiskPolicyTx_spec h
    exact .single (.aside ⟨by rw [hdb], by rw [hdb]⟩ (by rw [hdb]) (by rw [hdb]))
  | completeRun runId drafts =>
    have hdb := completeRunTx_spec h
    exact .single (.aside ⟨by rw [hdb], by rw [hdb]⟩ (by rw [hdb]) (by rw [hdb]))
  | failRun runId =>
    have hdb := failRunTx_spec h
    exact .single (.aside ⟨by rw [hdb], by rw [hdb]⟩ (by rw [hdb]) (by rw [hdb]))

/-- What an action has done, by its kind. -/
inductive Done (P : Platform) (i : CallId) (input : Input) (w : World) :
    (a : Action) → a.Result → World → Prop
  | read {q : Query} {r : q.Result} (hr : q.read w.db = some r) :
      Done P i input w (.query q) (.ok r) { w with trace := .read i q r :: w.trace }
  | notRead {q : Query} (e : ServiceError) : Done P i input w (.query q) (.error e) w
  | committed {t : Transaction} {r : t.Result} {db : Database}
      (hlock : t.locksControl = true → w.permits = [])
      (hbody : t.body P input.env w.db = .ok (r, db)) :
      Done P i input w (.commit t) (.ok r) (w.committed i db t r)
  | unacknowledged {t : Transaction} {r : t.Result} {db : Database}
      (hlock : t.locksControl = true → w.permits = [])
      (hbody : t.body P input.env w.db = .ok (r, db)) (e : TxError) :
      Done P i input w (.commit t) (.error e) (w.committed i db t r)
  | aborted {t : Transaction} (e : TxError) : Done P i input w (.commit t) (.error e) w
  | permitted {mode : StoredMode} {c : ExecutionControl} {db : Database}
      (hpermit : submissionPermit mode input.env w.db = .ok (c, db)) :
      Done P i input w (.permit mode) (.ok ()) { w with permits := ⟨i, mode⟩ :: w.permits }
  | refused {mode : StoredMode} (e : ServiceError) : Done P i input w (.permit mode) (.error e) w
  | placed (request : PlaceOrderRequest) :
      Done P i input w (.placeOrder request) () { w with
        handed := Function.update w.handed i none
        trace := .started i request w.db.control :: w.trace }
  | answered {key : String} {result : PlaceOrderResult} (hanswer : input.answer = .ok result) :
      Done P i input w (.answer key) (.ok result)
        { w with trace := .answered i key result :: w.trace }
  | unanswered {key : String} (message : String) :
      Done P i input w (.answer key) (.error message) w
  | released (b : Except ServiceError Unit) :
      Done P i input w .release b { w with permits := w.permits.filter fun p => p.call ≠ i }
  | quoted {x y z u : String} : Done P i input w (.executableQuote x y z u) input.quote w
  | lookedUp {x : String} {keys : List String} :
      Done P i input w (.lookup x keys) input.lookups
        { w with trace := .lookedUp i input.lookups w.clock :: w.trace }
  | balanced {x y : String} :
      Done P i input w (.balance x y) input.balance
        { w with trace := .balanceRead i input.balance :: w.trace }
  | dated : Done P i input w .date w.clock { w with trace := .dated i w.clock :: w.trace }
  | ordered : Done P i input w .order input.first w

/-- **One inversion of `exec`**, from which everything about one action is derived. -/
theorem exec_done {P : Platform} {i : CallId} {a : Action} {input : Input} {w w' : World}
    {b : a.Result} (h : exec P i a input w = some (b, w')) : Done P i input w a b w' := by
  cases a with
  | query q =>
    simp only [exec] at h
    cases hf : input.fault with
    | some f =>
      simp only [hf, Option.some.injEq, Prod.mk.injEq] at h
      obtain ⟨rfl, rfl⟩ := h
      exact .notRead _
    | none =>
      cases hr : q.read w.db with
      | none =>
        simp only [hf, hr, Option.some.injEq, Prod.mk.injEq] at h
        obtain ⟨rfl, rfl⟩ := h
        exact .notRead _
      | some r =>
        simp only [hf, hr, Option.some.injEq, Prod.mk.injEq] at h
        obtain ⟨rfl, rfl⟩ := h
        exact .read hr
  | commit t =>
    simp only [exec] at h
    split_ifs at h with hlocked
    have hlock : t.locksControl = true → w.permits = [] := fun ht =>
      not_not.1 fun hne => hlocked ⟨ht, hne⟩
    cases hb : t.body P input.env w.db with
    | error e =>
      cases hf : input.fault with
      | none =>
        simp only [hf, hb, Option.some.injEq, Prod.mk.injEq] at h
        obtain ⟨rfl, rfl⟩ := h
        exact .aborted _
      | some f =>
        cases f with
        | rolledBack e =>
          simp only [hf, hb, Option.some.injEq, Prod.mk.injEq] at h
          obtain ⟨rfl, rfl⟩ := h
          exact .aborted _
        | unacknowledged e =>
          simp only [hf, hb, Option.some.injEq, Prod.mk.injEq] at h
          obtain ⟨rfl, rfl⟩ := h
          exact .aborted _
    | ok x =>
      obtain ⟨r, db⟩ := x
      cases hf : input.fault with
      | none =>
        simp only [hf, hb, Option.some.injEq, Prod.mk.injEq] at h
        obtain ⟨rfl, rfl⟩ := h
        exact .committed hlock hb
      | some f =>
        cases f with
        | rolledBack e =>
          simp only [hf, hb, Option.some.injEq, Prod.mk.injEq] at h
          obtain ⟨rfl, rfl⟩ := h
          exact .aborted _
        | unacknowledged e =>
          simp only [hf, hb, Option.some.injEq, Prod.mk.injEq] at h
          obtain ⟨rfl, rfl⟩ := h
          exact .unacknowledged hlock hb _
  | permit mode =>
    simp only [exec] at h
    cases hf : input.fault with
    | some f =>
      simp only [hf, Option.some.injEq, Prod.mk.injEq] at h
      obtain ⟨rfl, rfl⟩ := h
      exact .refused _
    | none =>
      cases hp : submissionPermit mode input.env w.db with
      | error e =>
        simp only [hf, hp, Option.some.injEq, Prod.mk.injEq] at h
        obtain ⟨rfl, rfl⟩ := h
        exact .refused _
      | ok x =>
        simp only [hf, hp, Option.some.injEq, Prod.mk.injEq] at h
        obtain ⟨rfl, rfl⟩ := h
        exact .permitted hp
  | placeOrder request =>
    obtain ⟨rfl, rfl⟩ := Prod.mk.inj (Option.some.inj h)
    exact .placed request
  | answer key =>
    simp only [exec] at h
    cases ha : input.answer with
    | error message =>
      simp only [ha, Option.some.injEq, Prod.mk.injEq] at h
      obtain ⟨rfl, rfl⟩ := h
      exact .unanswered _
    | ok result =>
      simp only [ha, Option.some.injEq, Prod.mk.injEq] at h
      obtain ⟨rfl, rfl⟩ := h
      exact .answered ha
  | release =>
    simp only [exec] at h
    cases hf : input.fault with
    | some f =>
      simp only [hf, Option.some.injEq, Prod.mk.injEq] at h
      obtain ⟨rfl, rfl⟩ := h
      exact .released _
    | none =>
      simp only [hf, Option.some.injEq, Prod.mk.injEq] at h
      obtain ⟨rfl, rfl⟩ := h
      exact .released _
  | executableQuote x y z u =>
    obtain ⟨rfl, rfl⟩ := Prod.mk.inj (Option.some.inj h)
    exact .quoted
  | lookup x keys =>
    obtain ⟨rfl, rfl⟩ := Prod.mk.inj (Option.some.inj h)
    exact .lookedUp
  | balance x y =>
    obtain ⟨rfl, rfl⟩ := Prod.mk.inj (Option.some.inj h)
    exact .balanced
  | date =>
    obtain ⟨rfl, rfl⟩ := Prod.mk.inj (Option.some.inj h)
    exact .dated
  | order =>
    obtain ⟨rfl, rfl⟩ := Prod.mk.inj (Option.some.inj h)
    exact .ordered

/-! ## Nothing is taken back -/

/-- What every step preserves: time passes, rows evolve, and the history grows. -/
structure Onward (w w' : World) : Prop where
  clock : w.clock ≤ w'.clock
  db : Evolves w.db w'.db
  trace : w.trace <:+ w'.trace

theorem Onward.refl (w : World) : Onward w w := ⟨le_refl _, .refl _, List.suffix_refl _⟩

theorem Onward.trans {w w' w'' : World} (h : Onward w w') (h' : Onward w' w'') : Onward w w'' :=
  ⟨h.clock.trans h'.clock, h.db.trans h'.db, h.trace.trans h'.trace⟩

theorem Onward.mem {w w' : World} (h : Onward w w') {e : Event} (he : e ∈ w.trace) :
    e ∈ w'.trace := h.trace.subset he

/-- What belongs to call `i` is as it was. -/
structure Unmoved (i : CallId) (w w' : World) : Prop where
  handed : w'.handed i = w.handed i
  permits : ∀ mode, ⟨i, mode⟩ ∈ w'.permits ↔ ⟨i, mode⟩ ∈ w.permits

theorem Unmoved.refl (i : CallId) (w : World) : Unmoved i w w := ⟨rfl, fun _ => Iff.rfl⟩

theorem Unmoved.trans {i : CallId} {w w' w'' : World} (h : Unmoved i w w') (h' : Unmoved i w' w'') :
    Unmoved i w w'' :=
  ⟨h'.handed.trans h.handed, fun mode => (h'.permits mode).trans (h.permits mode)⟩

section Committed

variable (w : World) (i : CallId) (db : Database) (t : Transaction) (r : t.Result)

@[simp] theorem committed_db : (w.committed i db t r).db = db := by cases t <;> rfl

@[simp] theorem committed_clock : (w.committed i db t r).clock = w.clock := by cases t <;> rfl

@[simp] theorem committed_permits : (w.committed i db t r).permits = w.permits := by
  cases t <;> rfl

@[simp] theorem committed_book : (w.committed i db t r).book = w.book := by cases t <;> rfl

@[simp] theorem committed_funds : (w.committed i db t r).funds = w.funds := by cases t <;> rfl

theorem committed_trace : w.trace <:+ (w.committed i db t r).trace := by
  cases t with
  | recheck orderId quote =>
    exact (List.suffix_cons _ _).trans (List.suffix_append _ _)
  | stop => exact List.suffix_cons _ _
  | completeRun => exact List.suffix_cons _ _
  | changeMode =>
    simp only [World.committed]
    split_ifs
    · exact List.suffix_cons _ _
    · exact List.suffix_rfl
  | _ => exact List.suffix_rfl

theorem committed_handed {j : CallId} (hij : j ≠ i) :
    (w.committed i db t r).handed j = w.handed j := by
  cases t with
  | recheck orderId quote =>
    simp only [World.committed]
    split_ifs
    · exact Function.update_of_ne hij _ _
    · rfl
  | cancel => exact Function.update_of_ne hij _ _
  | _ => rfl

/-- Only a re-check and a cancellation change what the call was handed. -/
theorem committed_handed_self (hr : ∀ orderId quote, t ≠ .recheck orderId quote)
    (hc : ∀ orderId source c, t ≠ .cancel orderId source c) :
    (w.committed i db t r).handed = w.handed := by
  cases t with
  | recheck orderId quote => exact (hr orderId quote rfl).elim
  | cancel orderId source c => exact (hc orderId source c rfl).elim
  | _ => rfl

end Committed

/-- When an action may be performed, so that the tables only evolve. -/
def Action.Guarded (db : Database) : Action → Prop
  | .commit t => t.Guarded db
  | _ => True

/-- **An action moves the world onward, and leaves the other calls their own.** -/
theorem Done.onward {P : Platform} {i : CallId} {input : Input} {w w' : World} {a : Action}
    {b : a.Result} (hg : a.Guarded w.db) (h : Done P i input w a b w') :
    Onward w w' ∧ ∀ j, i ≠ j → Unmoved j w w' := by
  have hcommit : ∀ {t : Transaction} {r : t.Result} {db : Database}, t.Guarded w.db →
      t.body P input.env w.db = .ok (r, db) →
      Onward w (w.committed i db t r) ∧ ∀ j, i ≠ j → Unmoved j w (w.committed i db t r) := by
    intro t r db hg hbody
    have hevolves : Evolves w.db db := .of_moves (Transaction.moves hg hbody)
    refine ⟨⟨by simp, by simpa using hevolves, committed_trace w i db t r⟩, fun j hij => ⟨?_, ?_⟩⟩
    · exact committed_handed w i db t r (Ne.symm hij)
    · simp
  have hsame : ∀ {e : Event} {permits : List Permit} {handed : CallId → Option BetOrder},
      (∀ j, i ≠ j → handed j = w.handed j) →
      (∀ j, i ≠ j → ∀ mode, (⟨j, mode⟩ : Permit) ∈ permits ↔ ⟨j, mode⟩ ∈ w.permits) →
      Onward w { w with permits, handed, trace := e :: w.trace } ∧
        ∀ j, i ≠ j → Unmoved j w { w with permits, handed, trace := e :: w.trace } :=
    fun hh hp => ⟨⟨le_refl _, .refl _, List.suffix_cons _ _⟩, fun j hij => ⟨hh j hij, hp j hij⟩⟩
  cases h with
  | read => exact hsame (fun _ _ => rfl) fun _ _ _ => Iff.rfl
  | notRead => exact ⟨.refl w, fun j _ => .refl j w⟩
  | committed _ hbody => exact hcommit hg hbody
  | unacknowledged _ hbody => exact hcommit hg hbody
  | aborted => exact ⟨.refl w, fun j _ => .refl j w⟩
  | permitted =>
    refine ⟨⟨le_refl _, .refl _, List.suffix_rfl⟩, fun j hij => ⟨rfl, fun mode => ?_⟩⟩
    simp [Ne.symm hij]
  | refused => exact ⟨.refl w, fun j _ => .refl j w⟩
  | placed =>
    exact hsame (fun j hij => Function.update_of_ne (Ne.symm hij) _ _) fun _ _ _ => Iff.rfl
  | answered => exact hsame (fun _ _ => rfl) fun _ _ _ => Iff.rfl
  | unanswered => exact ⟨.refl w, fun j _ => .refl j w⟩
  | released =>
    refine ⟨⟨le_refl _, .refl _, List.suffix_rfl⟩, fun j hij => ⟨rfl, fun mode => ?_⟩⟩
    simp [List.mem_filter, Ne.symm hij]
  | quoted => exact ⟨.refl w, fun j _ => .refl j w⟩
  | lookedUp => exact hsame (fun _ _ => rfl) fun _ _ _ => Iff.rfl
  | balanced => exact hsame (fun _ _ => rfl) fun _ _ _ => Iff.rfl
  | dated => exact hsame (fun _ _ => rfl) fun _ _ _ => Iff.rfl
  | ordered => exact ⟨.refl w, fun j _ => .refl j w⟩

theorem Outside.evolves {db db' : Database} (h : Outside db db') : Evolves db db' := by
  rw [Outside] at h
  refine ⟨fun o ho => ⟨o, ?_, .refl o⟩, fun e he => ?_, fun r hr => ?_⟩
  · rw [h]
    exact ho
  · rw [h]
    exact he
  · rw [h]
    exact hr

theorem Setting.Drift.onward {S : Setting} {w w' : World} (h : S.Drift w w') :
    Onward w w' ∧ ∀ j, Unmoved j w w' := by
  obtain ⟨clock, book, funds, db, hclock, -, hout, rfl⟩ := h
  exact ⟨⟨hclock, hout.evolves, List.suffix_rfl⟩, fun j => ⟨rfl, fun _ => Iff.rfl⟩⟩

theorem drop_onward (i : CallId) (w : World) :
    Onward w (w.drop i) ∧ ∀ j, i ≠ j → Unmoved j w (w.drop i) := by
  refine ⟨⟨le_refl _, .refl _, List.suffix_rfl⟩, fun j hij => ⟨?_, fun mode => ?_⟩⟩
  · exact Function.update_of_ne (Ne.symm hij) _ _
  · simp [World.drop, List.mem_filter, Ne.symm hij]

end ApiScore
