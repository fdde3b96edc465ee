import ApiScore.Execution.Orders
import Mathlib.Logic.Relation

/-!
# A reservation, phase by phase

Under `READ COMMITTED` the transaction of `reserve` is not one action: between the lookup of the key
and the insertion of the order, another transaction may commit an order under the same key.  The
statements up to the lookup only read, or refuse the decision and commit; the insertion and what
follows run under the unique key of the order.  A refusal after an exception, and a stop, are
transactions of their own.

* `lookTx`, `reserveTx_eq` — the two halves of the transaction.
* `Phase.next` — one step of a call of `reserve`.
* `Pair.Step` — one step of two calls: a stop waits for the transaction that holds the control row.
-/

set_option autoImplicit false

namespace ApiScore

open Relational

/-! ## The two halves of the transaction -/

/-- What a reservation knows once it has looked its key up in vain. -/
structure Pending where
  decision : BetDecision
  mode : StoredMode
  operatorKey : String
  idempotencyKey : String
  stake : Int
  odd : Int
  observedAt : Int
  deriving DecidableEq

/-- The order it is going to insert. -/
def Pending.order (p : Pending) (accountId : String) (env : TxEnv) : BetOrder :=
  reservedOrder p.decision accountId p.mode p.operatorKey p.idempotencyKey p.stake p.odd p.observedAt
    env

/-- The transaction of `reserve` up to the lookup of the key: there is an order to insert, or the
transaction ends here with what it returns. -/
def lookTx (P : Platform) (decisionId : String) (env : TxEnv) :
    DbTx (Pending ⊕ Option BetOrder) := do
  match ← DbTx.read fun db => db.orders.find? fun o => o.decisionId == decisionId with
  | some existing => return .inr (some existing)
  | none =>
    let control ← lockForExecution env
    let port ← liftRule (P.portFor control.mode)
    let decision ← DbTx.get! (.http ("Décision " ++ decisionId ++ " introuvable"))
      (← DbTx.read fun db => db.decision? decisionId)
    if decision.status ≠ .eligible then return .inr none
    else
      match decision.terms with
      | some (odd, stake, observedAt) =>
        let run ← DbTx.get! (.other "Simulation introuvable")
          (← DbTx.read fun db => db.runs.find? fun r => r.id == decision.simulationRunId)
        let key := orderIdempotencyKey P {
          mode := control.mode
          operatorKey := port.operatorKey
          fixtureId := decision.fixtureId
          marketKey := decision.marketKey
          selectionKey := decision.selectionKey
          strategyVersion := run.strategyVersion
          decidedAt := decision.decidedAt }
        let taken ← DbTx.read fun db => db.orders.find? fun o => o.idempotencyKey == key
        if taken.isSome then
          rejectDecision decision.id .riskCheckFailed none
          return .inr none
        else
          return .inl ⟨decision, control.mode, port.operatorKey, key, stake, odd, observedAt⟩
      | none =>
        rejectDecision decision.id .noExecutableOdd none
        return .inr none

/-- **The two halves, one right after the other, are the transaction of `reserve`.** -/
theorem reserveTx_eq (P : Platform) (decisionId accountId : String) (env : TxEnv) :
    reserveTx P decisionId accountId env = (do
      match ← lookTx P decisionId env with
      | .inl p => insertAndReserve (p.order accountId env) env
      | .inr order => return (order, none)) := by
  simp only [reserveTx, lookTx, bind_assoc]
  congr 1
  funext existing
  cases existing with
  | some order => simp only [pure_bind]
  | none =>
    simp only [bind_assoc]
    congr 1
    funext control
    congr 1
    funext port
    congr 1
    funext found
    congr 1
    funext decision
    split_ifs with hstatus
    · simp only [pure_bind]
    · cases decision.terms with
      | none => simp only [bind_assoc, pure_bind]
      | some terms =>
        simp only [bind_assoc]
        congr 1
        funext _
        congr 1
        funext run
        congr 1
        funext taken
        split_ifs with htaken
        · simp only [bind_assoc, pure_bind]
        · simp only [pure_bind]
          rfl

/-! ## Phases -/

/-- What a call of `reserve` is given. -/
structure ReserveCall where
  decisionId : String
  accountId : String

/-- Where a call of `reserve` is. -/
inductive Phase
  | idle
  /-- Its transaction has looked the key up in vain; it holds the control row shared. -/
  | looked (pending : Pending)
  /-- Its transaction has thrown: the decision is to be refused, and the stop applied. -/
  | refusing (code : RejectionCode) (stop : Option AutoStopRequest)
  /-- What is left is the stop. -/
  | stopping (stop : Option AutoStopRequest)
  | done
  deriving DecidableEq

/-- Where a call goes when its transaction throws. -/
def Phase.thrown (e : TxError) : Phase :=
  match classifyReservationError e with
  | (.rejected code _ _, stop) => .refusing code stop
  | (.reserved _ _, stop) => .stopping stop

/-- What the surroundings decide about one step; a transaction may be aborted by the database. -/
structure Attempt where
  env : TxEnv
  aborted : Option TxError

/-- One step of a call. -/
def Phase.next (P : Platform) (c : ReserveCall) (x : Attempt) :
    Phase → Database → Option (Phase × Database)
  | .idle, db =>
    match x.aborted, lookTx P c.decisionId x.env db with
    | some e, _ | none, .error e => some (.thrown e, db)
    | none, .ok (.inl p, db') => some (.looked p, db')
    | none, .ok (.inr _, db') => some (.stopping none, db')
  | .looked p, db =>
    match x.aborted, insertAndReserve (p.order c.accountId x.env) x.env db with
    | some e, _ | none, .error e => some (.thrown e, db)
    | none, .ok ((_, stop), db') => some (.stopping stop, db')
  | .refusing code stop, db =>
    match x.aborted, rejectDecision c.decisionId code (some .eligible) db with
    | some _, _ | none, .error _ => some (.done, db)
    | none, .ok (_, db') => some (.stopping stop, db')
  | .stopping none, db => some (.done, db)
  | .stopping (some request), db =>
    match x.aborted, stopTx request.reason .automatic x.env db with
    | some _, _ | none, .error _ => some (.done, db)
    | none, .ok (_, db') => some (.done, db')
  | .done, _ => none

/-- Does the call still have to stop the execution? -/
def Phase.stops : Phase → Bool
  | .refusing _ (some _) | .stopping (some _) => true
  | _ => false

/-- Is the transaction of the call still to come, or under way? -/
def Phase.pending : Phase → Bool
  | .idle | .looked _ => true
  | _ => false

/-- Does the call hold the control row shared? -/
def Phase.holds : Phase → Bool
  | .looked _ => true
  | _ => false

/-- Is a stop the next thing it does? -/
def Phase.waits : Phase → Bool
  | .stopping (some _) => true
  | _ => false

/-- The database serves every statement of the step. -/
def Attempt.served (x : Attempt) : Bool := x.aborted.isNone && !x.env.controlUnreadable

structure Attempt.Served (x : Attempt) : Prop where
  unaborted : x.aborted = none
  readable : x.env.controlUnreadable = false

theorem Attempt.served_iff {x : Attempt} : x.served = true ↔ x.Served := by
  rw [served, Bool.and_eq_true, Option.isNone_iff_eq_none, Bool.not_eq_true']
  exact ⟨fun h => ⟨h.1, h.2⟩, fun h => ⟨h.1, h.2⟩⟩

/-- From this phase on a call goes to its end on its own, through states that `ok` holds of. -/
inductive Completes (P : Platform) (c : ReserveCall) (ok : Phase → Database → Prop) :
    Phase → Database → Database → Prop
  | done (db : Database) : Completes P c ok .done db db
  | step {x : Attempt} {φ φ' : Phase} {db db' db'' : Database} (hx : x.Served) (hok : ok φ db)
      (hnext : φ.next P c x db = some (φ', db')) (hrest : Completes P c ok φ' db' db'') :
      Completes P c ok φ db db''

/-- **A call of `reserve` on its own**, from the first statement to the last. -/
def Reserves (P : Platform) (c : ReserveCall) : Database → Database → Prop :=
  Completes P c (fun _ _ => True) .idle

/-! ## Two calls -/

/-- The state of two calls. -/
structure Pair where
  db : Database
  phase : Bool → Phase

def Pair.start (db : Database) : Pair := ⟨db, fun _ => .idle⟩

/-- One step of call `i`; `none` where it is over, or a stop waits for the transaction of the other
call, which holds the control row. -/
def Pair.next (P : Platform) (calls : Bool → ReserveCall) (i : Bool) (x : Attempt) (s : Pair) :
    Option Pair :=
  if (s.phase i).waits && (s.phase !i).holds then none
  else ((s.phase i).next P (calls i) x s.db).map fun r => ⟨r.2, Function.update s.phase i r.1⟩

/-- The runs of two calls, as far as `allow` lets their steps happen. -/
def Pair.Run (P : Platform) (calls : Bool → ReserveCall) (allow : Bool → Attempt → Pair → Bool) :
    Pair → Pair → Prop :=
  Relation.ReflTransGen fun s s' => ∃ i x, allow i x s = true ∧ s.next P calls i x = some s'

/-- Take the given steps. -/
def Pair.replay (P : Platform) (calls : Bool → ReserveCall)
    (allow : Bool → Attempt → Pair → Bool) : List (Bool × Attempt) → Pair → Option Pair
  | [], s => some s
  | (i, x) :: steps, s =>
    if allow i x s then (s.next P calls i x).bind (Pair.replay P calls allow steps) else none

/-- **A replay is a run.** -/
theorem Pair.replay_run {P : Platform} {calls : Bool → ReserveCall}
    {allow : Bool → Attempt → Pair → Bool} {steps : List (Bool × Attempt)} {s s' : Pair}
    (h : Pair.replay P calls allow steps s = some s') : Pair.Run P calls allow s s' := by
  induction steps generalizing s with
  | nil =>
    rw [← Option.some.inj h]
    exact .refl
  | cons step steps ih =>
    rw [replay] at h
    split_ifs at h with hallow
    obtain ⟨t, ht, hrest⟩ := Option.bind_eq_some_iff.1 h
    exact .head ⟨step.1, step.2, hallow, ht⟩ (ih hrest)

end ApiScore
