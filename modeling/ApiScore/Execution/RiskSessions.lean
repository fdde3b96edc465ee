import Mathlib.Logic.Relation
import ApiScore.Execution.Exposure
import ApiScore.Execution.LedgerEffects
import ApiScore.Execution.Runs

/-!
# Reservations that run at the same time

A reservation reads the day's sums in one statement and writes its entry in a later one, and any
other transaction may commit in between: its isolation is `READ COMMITTED`.  What protects it is the
row of the account, which it locks before it reads the sums and holds to its end.  Here a
reservation is taken apart at these points, and everything else that moves a stake may come between
them, as far as the lock lets it.

* `admitRequest`, `decideReservation` — the statements before the lock, and those after the sums.
* `RiskStep` — one step: of a reservation, or of another transaction.
* `Guarded`, `AccountStep`, `RiskStep.account` — what a session that holds the row has read is still
  so, and what a step can do to one account.
-/

set_option autoImplicit false

namespace ApiScore

open Relational

/-! ## A reservation, taken apart -/

/-- What a reservation knows before it locks its account. -/
inductive Admission
  /-- Its entry is recorded already. -/
  | replay
  | refused (result : ReservationResult) (stop : Option AutoStopRequest)
  /-- It is to be checked against this policy. -/
  | check (control : ExecutionControl) (policy : RiskPolicy)

/-- The statements of `reserveWithin` before the lock of the account. -/
def admitRequest (request : ReserveStakeRequest) (env : TxEnv) : DbTx Admission := do
  let control ← lockForExecution env
  match ← findEntry request.entryKey with
  | some _ => return .replay
  | none =>
    if ¬ clockWithinTolerance env then
      withPending (some ⟨.clockOutOfTolerance, []⟩)
        (DbTx.fail (.executionBlocked "Horloge hors tolérance" false))
    else
      match ← DbTx.read fun db => control.activeRiskPolicyId.bind db.policy? with
      | none =>
        return .refused (.rejected .riskCheckFailed none "Aucune politique de risque active")
          (some ⟨.controlUnreadable, [("cause", "politique active absente")]⟩)
      | some policy => return .check control policy

theorem reserveWithin_eq (request : ReserveStakeRequest) (env : TxEnv) :
    reserveWithin request env = (do
      match ← admitRequest request env with
      | .replay => do
        let result ← replayReservation request env
        return (result, none)
      | .refused result stop => return (result, stop)
      | .check control policy => reserveUnderPolicy request control policy env) := by
  simp only [reserveWithin, admitRequest, bind_assoc]
  congr 1
  funext control
  congr 1
  funext existing
  cases existing with
  | some entry => simp only [pure_bind]
  | none =>
    dsimp only
    split_ifs with hclock
    · simp only [bind_assoc]
      congr 1
      funext policy
      cases policy with
      | none => simp only [pure_bind]
      | some p => simp only [pure_bind]
    · funext db
      rfl

/-- The account is not one the reservation may use. -/
def unfit (account : BankrollAccount) (control : ExecutionControl) (policy : RiskPolicy) : Bool :=
  account.mode ≠ control.mode ∨ account.currency ≠ policy.currency

/-- What `evaluateRisk` is given once the sums of the day are read. -/
def ReserveStakeRequest.checked (request : ReserveStakeRequest) (policy : RiskPolicy)
    (account : BankrollAccount) (now : Int) (daily : DailyAggregates) : RiskInput where
  policy := policy
  stakeCents := request.stake
  availableCents := account.availableBalance
  reservedCents := account.reservedBalance
  dailyStakedCents := daily.stakedCents
  dailySettledPnlCents := daily.settledPnlCents
  quoteAgeMs := now - request.quoteCapturedAt

/-- The statements of `reserveWithin` after the sums of the day. -/
def decideReservation (request : ReserveStakeRequest) (policy : RiskPolicy)
    (account : BankrollAccount) (now : Int) (daily : DailyAggregates) (dbNow : Int) :
    DbTx (ReservationResult × Option AutoStopRequest) :=
  match evaluateRisk (request.checked policy account now daily) with
  | .rejected code limit autoStop =>
    return (.rejected code (some limit) ("Limite " ++ limit.text),
      autoStop.map fun trigger => ⟨trigger, [("limit", limit.text)]⟩)
  | .ok => do
    let (appended, _) ← append account request.entry dbNow
    return (.reserved appended.entry appended.replayed, none)

theorem reserveUnderPolicy_eq (request : ReserveStakeRequest) (control : ExecutionControl)
    (policy : RiskPolicy) (env : TxEnv) :
    reserveUnderPolicy request control policy env = (do
      let account ← lockAccount request.accountId
      if unfit account control policy then
        return (.rejected .riskCheckFailed none ("Compte " ++ account.mode.text ++ "/" ++
          account.currency ++ " incompatible avec " ++ control.mode.text ++ "/" ++
          policy.currency), none)
      else
        let daily ← DbTx.read fun db => db.dailyAggregates account.id (utcDayStart env.now)
        decideReservation request policy account env.now daily env.dbNow) := by
  simp only [reserveUnderPolicy, decideReservation, unfit, decide_eq_true_eq]
  rfl

/-! ## The callers -/

/-- Who reserves a stake: `reserveStake`, or `reserve` for the order it inserts. -/
inductive Reserver
  | stake (request : ReserveStakeRequest)
  | order (o : BetOrder)

def Reserver.request : Reserver → ReserveStakeRequest
  | .stake request => request
  | .order o => o.reserveRequest

/-- The transaction of the caller around a reservation that goes on as `m`.  Nobody else sees the
order before the end, so it does not matter when it is inserted. -/
def Reserver.around (r : Reserver) (m : DbTx (ReservationResult × Option AutoStopRequest))
    (env : TxEnv) : DbTx Unit :=
  match r with
  | .stake _ => do
    let _ ← m
    return ()
  | .order o => do
    insertOrder o
    let (result, _) ← m
    applyReservation o result env
    let _ ← lockOrder o.id
    return ()

structure ReleaseStakeInput where
  accountId : String
  entryKey : String
  stake : Int
  orderId : Option String
  deriving DecidableEq

def ReleaseStakeInput.entry (input : ReleaseStakeInput) : AppendInput where
  type := .release
  entryKey := input.entryKey
  movement := { stakeCents := some (.int input.stake) }
  orderId := input.orderId

/-- The transaction of `releaseStake`: allowed while stopped. -/
def releaseStakeTx (input : ReleaseStakeInput) (env : TxEnv) : DbTx BankrollLedgerEntry := do
  let account ← lockAccount input.accountId
  let (released, _) ← append account input.entry env.dbNow
  return released.entry

/-! ## Steps -/

/-- Where the transaction of a reservation is. -/
inductive Stage
  | admitted (control : ExecutionControl) (policy : RiskPolicy)
  /-- It holds the row of the account, as it has read it. -/
  | locked (policy : RiskPolicy) (account : BankrollAccount)
  /-- It has read the time, and the sums of the day. -/
  | summed (policy : RiskPolicy) (account : BankrollAccount) (now : Int) (daily : DailyAggregates)

def Stage.holds : Stage → Bool
  | .admitted _ _ => false
  | .locked _ _ | .summed _ _ _ _ => true

/-- The database, and the transactions of reservations that are open. -/
structure RiskWorld where
  db : Database
  /-- In microseconds.  The database reads it as it is, and the application in milliseconds. -/
  clock : Int
  sessions : CallId → Option (Reserver × Stage)

def RiskWorld.start (db : Database) (clock : Int) : RiskWorld := ⟨db, clock, fun _ => none⟩

/-- The policy a reservation is checked against. -/
def Database.activePolicy? (db : Database) : Option RiskPolicy :=
  db.control.bind fun control => control.activeRiskPolicyId.bind db.policy?

/-- Session `i` holds the row of the account. -/
def RiskWorld.Holds (x : RiskWorld) (i : CallId) (accountId : String) : Prop :=
  ∃ r stage, x.sessions i = some (r, stage) ∧ stage.holds = true ∧ r.request.accountId = accountId

/-- The rows that sessions hold are as they were. -/
def RiskWorld.RowsKept (x : RiskWorld) (db : Database) : Prop :=
  ∀ i accountId, x.Holds i accountId → db.account? accountId = x.db.account? accountId

def RiskWorld.put (x : RiskWorld) (i : CallId) (s : Option (Reserver × Stage)) :
    CallId → Option (Reserver × Stage) :=
  Function.update x.sessions i s

theorem RiskWorld.put_self (x : RiskWorld) (i : CallId) (s : Option (Reserver × Stage)) :
    x.put i s i = s := by
  rw [put, Function.update_self]

/-- One step.  Every clock that is read shows `clock`. -/
inductive RiskStep (P : Platform) : RiskWorld → RiskWorld → Prop
  | tick {x : RiskWorld} (clock : Int) (hclock : x.clock ≤ clock) :
      RiskStep P x { x with clock }
  /-- The rest of the program. -/
  | outside {x : RiskWorld} {db : Database} (hout : Outside x.db db) : RiskStep P x { x with db }
  /-- Any other transaction of the pipeline: a row that a session holds is not for it to write. -/
  | transact {x : RiskWorld} {t : Transaction} {r : t.Result} {db : Database} {env : TxEnv}
      (htype : ∀ decisionId accountId, t ≠ .reserve decisionId accountId)
      (hnow : env.dbNow = x.clock) (hbody : t.body P env x.db = .ok (r, db))
      (hrows : x.RowsKept db) : RiskStep P x { x with db }
  | release {x : RiskWorld} {input : ReleaseStakeInput} {e : BankrollLedgerEntry} {db : Database}
      {env : TxEnv} (hnow : env.dbNow = x.clock)
      (hbody : releaseStakeTx input env x.db = .ok (e, db)) (hrows : x.RowsKept db) :
      RiskStep P x { x with db }
  | admits {x : RiskWorld} {i : CallId} {r : Reserver} {control : ExecutionControl}
      {policy : RiskPolicy} {db : Database} {env : TxEnv} (hidle : x.sessions i = none)
      (hadmits : admitRequest r.request env x.db = .ok (.check control policy, db)) :
      RiskStep P x { x with sessions := x.put i (some (r, .admitted control policy)) }
  /-- A session waits for the row of its account. -/
  | lock {x : RiskWorld} {i : CallId} {r : Reserver} {control : ExecutionControl}
      {policy : RiskPolicy} {account : BankrollAccount} {db : Database}
      (hsession : x.sessions i = some (r, .admitted control policy))
      (hfree : ∀ j, ¬ x.Holds j r.request.accountId)
      (hlock : lockAccount r.request.accountId x.db = .ok (account, db))
      (hfit : unfit account control policy = false) :
      RiskStep P x { x with sessions := x.put i (some (r, .locked policy account)) }
  | sum {x : RiskWorld} {i : CallId} {r : Reserver} {policy : RiskPolicy}
      {account : BankrollAccount} (hsession : x.sessions i = some (r, .locked policy account)) :
      RiskStep P x { x with sessions := x.put i (some (r, .summed policy account (x.clock / 1000)
        (x.db.dailyAggregates account.id (utcDayStart (x.clock / 1000))))) }
  | commit {x : RiskWorld} {i : CallId} {r : Reserver} {policy : RiskPolicy}
      {account : BankrollAccount} {now : Int} {daily : DailyAggregates} {u : Unit} {db : Database}
      {env : TxEnv} (hsession : x.sessions i = some (r, .summed policy account now daily))
      (hnow : env.dbNow = x.clock)
      (hbody : r.around (decideReservation r.request policy account now daily env.dbNow) env x.db
        = .ok (u, db)) :
      RiskStep P x { x with db, sessions := x.put i none }
  /-- A reservation is refused, at any point, or finds its entry recorded. -/
  | refuse {x : RiskWorld} {i : CallId} {r : Reserver} {result : ReservationResult}
      {stop : Option AutoStopRequest} {u : Unit} {db : Database} {env : TxEnv}
      (hsession : ∀ r' stage, x.sessions i = some (r', stage) → r' = r)
      (hbody : r.around (return (result, stop)) env x.db = .ok (u, db)) :
      RiskStep P x { x with db, sessions := x.put i none }
  /-- It is rolled back, or its process dies. -/
  | abort {x : RiskWorld} (i : CallId) : RiskStep P x { x with sessions := x.put i none }

/-- A step under a fixed policy. -/
def RiskStep.Fixed (P : Platform) (x x' : RiskWorld) : Prop :=
  RiskStep P x x' ∧ x'.db.activePolicy? = x.db.activePolicy?

/-- The states that reservations, releases, cancellations and settlements can lead to under a fixed
policy, in whatever order their statements come. -/
def RiskRun (P : Platform) : RiskWorld → RiskWorld → Prop :=
  Relation.ReflTransGen (RiskStep.Fixed P)

/-! ## Days -/

/-- The UTC day of an instant of the database. -/
def utcDay (t : Int) : Int := t / 86400000000

/-- The stakes reserved on a day. -/
def stakedOn (es : List BankrollLedgerEntry) (day : Int) : Int :=
  ((es.filter fun e => e.entryType == .reserve && utcDay e.createdAt == day).map
    (·.reservedDelta)).sum

/-- The loss realised on a day: the stakes settled, less what came back for them. -/
def lostOn (es : List BankrollLedgerEntry) (day : Int) : Int :=
  ((es.filter fun e => e.entryType == .settle && utcDay e.createdAt == day).map
    fun e => -e.reservedDelta - e.amount).sum

section Days

variable {es es' : List BankrollLedgerEntry} {day t : Int} {e : BankrollLedgerEntry}

theorem stakedOn_append : stakedOn (es ++ es') day = stakedOn es day + stakedOn es' day := by
  rw [stakedOn, List.filter_append, List.map_append, List.sum_append]
  rfl

theorem lostOn_append : lostOn (es ++ es') day = lostOn es day + lostOn es' day := by
  rw [lostOn, List.filter_append, List.map_append, List.sum_append]
  rfl

/-- Nothing has happened yet on a later day. -/
theorem filter_later (h : ∀ e ∈ es, e.createdAt ≤ t) (hday : utcDay t < day)
    (p : BankrollLedgerEntry → Bool) :
    (es.filter fun e => p e && utcDay e.createdAt == day) = [] := by
  refine List.filter_eq_nil_iff.2 fun e he => ?_
  have hle := h e he
  simp only [utcDay, Bool.and_eq_true, beq_iff_eq] at hday ⊢
  omega

theorem stakedOn_later (h : ∀ e ∈ es, e.createdAt ≤ t) (hday : utcDay t < day) :
    stakedOn es day = 0 := by
  rw [stakedOn, filter_later h hday, List.map_nil, List.sum_nil]

theorem lostOn_later (h : ∀ e ∈ es, e.createdAt ≤ t) (hday : utcDay t < day) :
    lostOn es day = 0 := by
  rw [lostOn, filter_later h hday, List.map_nil, List.sum_nil]

/-- Among entries of the past, those since the start of the day are those of the day. -/
theorem since_utcDayStart (hpast : e.createdAt ≤ t) :
    utcDayStart (t / 1000) * 1000 ≤ e.createdAt ↔ utcDay e.createdAt = utcDay t := by
  simp only [utcDayStart, utcDay]
  omega

/-- **What `dailyAggregates` sums is the day so far.** -/
theorem dailyAggregates_eq {db : Database} {accountId : String}
    (h : ∀ e ∈ db.entriesOf accountId, e.createdAt ≤ t) :
    db.dailyAggregates accountId (utcDayStart (t / 1000)) =
      ⟨stakedOn (db.entriesOf accountId) (utcDay t),
        -lostOn (db.entriesOf accountId) (utcDay t)⟩ := by
  have hfilter : ∀ p : BankrollLedgerEntry → Bool,
      (((db.entriesOf accountId).filter fun e =>
        utcDayStart (t / 1000) * 1000 ≤ e.createdAt).filter p) =
      (db.entriesOf accountId).filter fun e => p e && utcDay e.createdAt == utcDay t := by
    intro p
    rw [List.filter_filter]
    refine List.filter_congr fun e he => ?_
    rw [Bool.eq_iff_iff]
    simp only [Bool.and_eq_true, decide_eq_true_eq, beq_iff_eq, since_utcDayStart (h e he)]
  rw [Database.dailyAggregates, DailyAggregates.mk.injEq]
  refine ⟨?_, ?_⟩
  · rw [hfilter, stakedOn]
  · rw [hfilter, lostOn]
    induction (db.entriesOf accountId).filter _ with
    | nil => rfl
    | cons e es ih =>
      simp only [List.map_cons, List.sum_cons]
      omega

end Days

/-! ## What a session has read -/

/-- What a session on the account has read, which nothing changes as long as it holds the row. -/
def Stage.Reads (db : Database) (clock : Int) (policy : RiskPolicy) (accountId : String) :
    Stage → Prop
  | .admitted _ p => p = policy
  | .locked p account => p = policy ∧ account ∈ db.accounts ∧ account.id = accountId
  | .summed p account now daily => p = policy ∧ account ∈ db.accounts ∧ account.id = accountId ∧
    ∃ t ≤ clock, (∀ e ∈ db.entriesOf accountId, e.createdAt ≤ t) ∧ now = t / 1000 ∧
      daily = db.dailyAggregates accountId (utcDayStart now)

/-- The policy is the one that is active, the entries are of the past, one session at most holds a
row, and what a session has read is still so. -/
structure Guarded (policy : RiskPolicy) (x : RiskWorld) : Prop where
  active : x.db.activePolicy? = some policy
  past : ∀ e ∈ x.db.entries, e.createdAt ≤ x.clock
  exclusive : ∀ i j accountId, x.Holds i accountId → x.Holds j accountId → i = j
  reads : ∀ i r stage, x.sessions i = some (r, stage) →
    stage.Reads x.db x.clock policy r.request.accountId

/-- What a step can do to one account. -/
inductive AccountStep (policy : RiskPolicy) (accountId : String) (x x' : RiskWorld) : Prop
  /-- Nothing. -/
  | quiet (hclock : x.clock ≤ x'.clock)
      (hentries : x'.db.entriesOf accountId = x.db.entriesOf accountId)
      (hreserved : x'.db.reservedOf accountId = x.db.reservedOf accountId)
  /-- Entries were added that commit nothing. -/
  | frees (hclock : x'.clock = x.clock) (hfrees : Frees accountId x.clock x.db x'.db)
  /-- A stake was reserved, on sums that were still those of the account. -/
  | reserves {request : ReserveStakeRequest} {account : BankrollAccount} {e : BankrollLedgerEntry}
      {t : Int} (hclock : x'.clock = x.clock)
      (hextends : Extends accountId x.clock x.db x'.db [e]) (htype : e.entryType = .reserve)
      (hstake : e.reservedDelta = request.stake)
      (ht : ∀ e ∈ x.db.entriesOf accountId, e.createdAt ≤ t) (hle : t ≤ x.clock)
      (hreserved : account.reservedBalance = x.db.reservedOf accountId)
      (hrisk : evaluateRisk (request.checked policy account (t / 1000)
        ⟨stakedOn (x.db.entriesOf accountId) (utcDay t),
          -lostOn (x.db.entriesOf accountId) (utcDay t)⟩) = .ok)

section Specs

variable {P : Platform} {env : TxEnv} {db db' : Database}

theorem admit_spec {request : ReserveStakeRequest} {control : ExecutionControl}
    {policy : RiskPolicy} (h : admitRequest request env db = .ok (.check control policy, db')) :
    db.activePolicy? = some policy := by
  rw [admitRequest, Tx.bind_eq_ok] at h
  obtain ⟨c, s, hlock, h⟩ := h
  obtain ⟨rfl, hcontrol, -⟩ := lockForExecution_spec hlock
  rw [Tx.bind_eq_ok] at h
  obtain ⟨existing, s₁, hfind, h⟩ := h
  obtain ⟨-, rfl⟩ := Prod.mk.inj (findEntry_eq_ok.1 hfind)
  cases existing with
  | some entry =>
    obtain ⟨hbad, -⟩ := Prod.mk.inj (Tx.pure_eq_ok.1 h)
    cases hbad
  | none =>
    simp only [Tx.ite_eq_ok] at h
    rcases h with ⟨-, h⟩ | ⟨-, h⟩
    · rw [withPending_eq_ok] at h
      exact (DbTx.fail_eq_ok.1 h).elim
    · rw [Tx.bind_eq_ok] at h
      obtain ⟨found, s₂, hread, h⟩ := h
      obtain ⟨rfl, rfl⟩ := Prod.mk.inj (DbTx.read_eq_ok.1 hread)
      cases hp : c.activeRiskPolicyId.bind s₂.policy? with
      | none =>
        simp only [hp] at h
        obtain ⟨hbad, -⟩ := Prod.mk.inj (Tx.pure_eq_ok.1 h)
        cases hbad
      | some p =>
        simp only [hp] at h
        obtain ⟨heq, -⟩ := Prod.mk.inj (Tx.pure_eq_ok.1 h)
        obtain ⟨rfl, rfl⟩ := Admission.check.inj heq
        rw [Database.activePolicy?, hcontrol]
        exact hp

/-- **Around a reservation nothing but the order and its decision is written.** -/
theorem Reserver.around_spec {r : Reserver}
    {m : DbTx (ReservationResult × Option AutoStopRequest)} {u : Unit}
    (h : r.around m env db = .ok (u, db')) :
    ∃ db₁ db₂ y, LedgerSame db db₁ ∧ m db₁ = .ok (y, db₂) ∧ LedgerSame db₂ db' := by
  cases r with
  | stake request =>
    simp only [around, Tx.bind_eq_ok, Tx.pure_eq_ok] at h
    obtain ⟨y, s, hm, heq⟩ := h
    obtain ⟨-, rfl⟩ := Prod.mk.inj heq
    exact ⟨db, db', y, ⟨rfl, rfl⟩, hm, ⟨rfl, rfl⟩⟩
  | order o =>
    simp only [around, Tx.bind_eq_ok] at h
    obtain ⟨_, s, hins, y, s₁, hm, h⟩ := h
    refine ⟨s, s₁, y, KeepsLedger.insertOrder _ _ _ hins, hm, ?_⟩
    obtain ⟨_, s₂, happly, _, s₃, hlock, h⟩ := h
    obtain ⟨-, rfl⟩ := Prod.mk.inj (Tx.pure_eq_ok.1 h)
    exact (KeepsLedger.applyReservation _ _ _ happly).trans (KeepsLedger.lockOrder _ _ _ hlock)

/-- A decision either writes nothing, or appends the entry of a stake that passes every cap. -/
theorem decideReservation_spec {request : ReserveStakeRequest} {policy : RiskPolicy}
    {account : BankrollAccount} {now dbNow : Int} {daily : DailyAggregates}
    {y : ReservationResult × Option AutoStopRequest} (ha : account ∈ db.accounts)
    (h : decideReservation request policy account now daily dbNow db = .ok (y, db')) :
    LedgerSame db db' ∨ evaluateRisk (request.checked policy account now daily) = .ok ∧
      ∃ e account', Records db account [e] account' db' ∧ request.entry.Wrote dbNow e := by
  rw [decideReservation] at h
  cases hrisk : evaluateRisk (request.checked policy account now daily) with
  | rejected code limit autoStop =>
    simp only [hrisk] at h
    rw [(Prod.mk.inj (Tx.pure_eq_ok.1 h)).2]
    exact .inl ⟨rfl, rfl⟩
  | ok =>
    simp only [hrisk, Tx.bind_eq_ok] at h
    obtain ⟨⟨res, account'⟩, s, happ, h⟩ := h
    rw [(Prod.mk.inj (Tx.pure_eq_ok.1 h)).2]
    rcases append_spec ha happ with ⟨_, -, -, -, -, -, rfl⟩ | ⟨-, hwrote, -, hrec, -⟩
    · exact .inl ⟨rfl, rfl⟩
    · exact .inr ⟨rfl, _, _, hrec, hwrote⟩

/-- What is written for a reservation is its stake. -/
theorem reserve_wrote {request : ReserveStakeRequest} {dbNow : Int} {e : BankrollLedgerEntry}
    (h : request.entry.Wrote dbNow e) :
    e.entryType = .reserve ∧ e.reservedDelta = request.stake := by
  exact ⟨h.entryType, reserves_reserve rfl rfl _ _ h.effect⟩

end Specs

/-! ## Every step -/

section Steps

variable {P : Platform} {policy : RiskPolicy} {x x' : RiskWorld} {db : Database}

theorem Stage.Reads.congr {stage : Stage} {clock clock' : Int} {accountId : String}
    {db' : Database} (h : stage.Reads db clock policy accountId) (hclock : clock ≤ clock')
    (hrow : db'.account? accountId = db.account? accountId)
    (hentries : db'.entriesOf accountId = db.entriesOf accountId) :
    stage.Reads db' clock' policy accountId := by
  have hmem : ∀ account ∈ db.accounts, account.id = accountId → account ∈ db'.accounts := by
    rintro account ha rfl
    rw [account?_of_mem ha] at hrow
    exact (account?_eq_some hrow).1
  cases stage with
  | admitted => exact h
  | locked => exact ⟨h.1, hmem _ h.2.1 h.2.2, h.2.2⟩
  | summed =>
    obtain ⟨hp, ha, hid, t, ht, hpast, hnow, hdaily⟩ := h
    refine ⟨hp, hmem _ ha hid, hid, t, ht.trans hclock, ?_, hnow, ?_⟩
    · rw [hentries]
      exact hpast
    · rw [hdaily, Database.dailyAggregates, Database.dailyAggregates, hentries]

/-- A session that does not hold the row has read nothing that can change. -/
theorem Stage.Reads.of_admitted {stage : Stage} {clock clock' : Int} {accountId : String}
    {db' : Database} (h : stage.Reads db clock policy accountId) (hstage : stage.holds = false) :
    stage.Reads db' clock' policy accountId := by
  cases stage with
  | admitted => exact h
  | locked | summed => cases hstage

/-- **Adding to accounts whose rows no session holds.** -/
theorem Guarded.extend (h : Guarded policy x) (hactive : db.activePolicy? = x.db.activePolicy?)
    (hextends : ∀ accountId, ∃ rows, Extends accountId x.clock x.db db rows)
    (hrows : x.RowsKept db) : Guarded policy { x with db } where
  active := hactive.trans h.active
  past e he := by
    obtain ⟨rows, hext⟩ := hextends e.accountId
    have hmem : e ∈ db.entriesOf e.accountId := mem_entriesOf.2 ⟨he, rfl⟩
    rw [hext.entries, List.mem_append] at hmem
    rcases hmem with hold | hnew
    · exact h.past e (mem_entriesOf.1 hold).1
    · exact (hext.createdAt e hnew).le
  exclusive := h.exclusive
  reads i r stage hsession := by
    have hreads := h.reads i r stage hsession
    cases hstage : stage.holds with
    | false => exact hreads.of_admitted hstage
    | true =>
      have hrow := hrows i r.request.accountId ⟨r, stage, hsession, hstage, rfl⟩
      obtain ⟨rows, hext⟩ := hextends r.request.accountId
      have hentries := hext.entries
      rw [hext.rows_eq_nil hrow, List.append_nil] at hentries
      exact hreads.congr (le_refl _) hrow hentries

theorem holds_put {i j : CallId} {s : Option (Reserver × Stage)} {accountId : String}
    (h : RiskWorld.Holds { x with sessions := x.put i s } j accountId) :
    j = i ∧ (∃ r stage, s = some (r, stage) ∧ stage.holds = true ∧
      r.request.accountId = accountId) ∨ j ≠ i ∧ x.Holds j accountId := by
  obtain ⟨r, stage, hsession, hstage, hid⟩ := h
  have hsession : Function.update x.sessions i s j = some (r, stage) := hsession
  by_cases hij : j = i
  · subst hij
    rw [Function.update_self] at hsession
    exact .inl ⟨rfl, r, stage, hsession, hstage, hid⟩
  · rw [Function.update_of_ne hij] at hsession
    exact .inr ⟨hij, r, stage, hsession, hstage, hid⟩

/-- **A session goes on**, to a stage that has read what is so. -/
theorem Guarded.put (h : Guarded policy x) {i : CallId} {s : Option (Reserver × Stage)}
    (hreads : ∀ r stage, s = some (r, stage) → stage.Reads x.db x.clock policy r.request.accountId)
    (hholds : ∀ r stage, s = some (r, stage) → stage.holds = true →
      ∀ j, x.Holds j r.request.accountId → j = i) :
    Guarded policy { x with sessions := x.put i s } where
  active := h.active
  past := h.past
  exclusive j k accountId hj hk := by
    rcases holds_put hj with ⟨rfl, r, stage, hs, hstage, rfl⟩ | ⟨-, hj'⟩ <;>
      rcases holds_put hk with ⟨rfl, r', stage', hs', hstage', hid⟩ | ⟨-, hk'⟩
    · rfl
    · exact (hholds r stage hs hstage k hk').symm
    · exact hholds r' stage' hs' hstage' j (hid ▸ hj')
    · exact h.exclusive j k accountId hj' hk'
  reads j r stage hsession := by
    have hsession : Function.update x.sessions i s j = some (r, stage) := hsession
    by_cases hij : j = i
    · subst hij
      rw [Function.update_self] at hsession
      exact hreads r stage hsession
    · rw [Function.update_of_ne hij] at hsession
      exact h.reads j r stage hsession

/-- A session ends. -/
theorem Guarded.close (h : Guarded policy x) (i : CallId) :
    Guarded policy { x with sessions := x.put i none } :=
  h.put (fun _ _ hs => nomatch hs) fun _ _ hs => nomatch hs

/-- A transaction that adds nothing to the ledger. -/
theorem Guarded.same (h : Guarded policy x) (hactive : db.activePolicy? = x.db.activePolicy?)
    (hsame : LedgerSame x.db db) : Guarded policy { x with db } :=
  h.extend hactive (fun _ => ⟨[], .of_same hsame⟩) fun _ accountId _ => hsame.account? accountId

theorem AccountStep.of_same {accountId : String} (hsame : LedgerSame x.db x'.db)
    (hclock : x.clock ≤ x'.clock) : AccountStep policy accountId x x' := by
  refine .quiet hclock (hsame.entriesOf accountId) ?_
  rw [Database.reservedOf, Database.reservedOf, hsame.account?]

/-- **What a commit writes**: nothing, or the entry of a stake that still passes every cap. -/
theorem Guarded.commit (h : Guarded policy x) {i : CallId} {r : Reserver}
    {p : RiskPolicy} {account : BankrollAccount} {now : Int} {daily : DailyAggregates} {u : Unit}
    {env : TxEnv} (hsession : x.sessions i = some (r, .summed p account now daily))
    (hnow : env.dbNow = x.clock)
    (hbody : r.around (decideReservation r.request p account now daily env.dbNow) env x.db
      = .ok (u, db)) (hactive : db.activePolicy? = x.db.activePolicy?) :
    Guarded policy { x with db, sessions := x.put i none } ∧ ∀ accountId,
      AccountStep policy accountId x { x with db, sessions := x.put i none } := by
  obtain ⟨rfl, ha, hid, t, ht, hpast, rfl, rfl⟩ := h.reads i r _ hsession
  obtain ⟨db₁, db₂, y, hsame₁, hm, hsame₂⟩ := Reserver.around_spec hbody
  have ha₁ : account ∈ db₁.accounts := hsame₁.accounts ▸ ha
  rcases decideReservation_spec ha₁ hm with hsame | ⟨hrisk, e, account', hrec, hwrote⟩
  · have hall : LedgerSame x.db db := (hsame₁.trans hsame).trans hsame₂
    exact ⟨(h.same hactive hall).close i, fun accountId => .of_same hall (le_refl _)⟩
  · have hcreated : e.createdAt = x.clock := hwrote.createdAt.trans hnow
    have hextends : ∀ accountId, Extends accountId x.clock x.db db
        (if accountId = account.id then [e] else []) := by
      intro accountId
      have hall := ((Extends.of_same hsame₁).trans (hrec.extends ha₁
        (List.forall_mem_singleton.2 hcreated) accountId)).trans (Extends.of_same hsame₂)
      rwa [List.nil_append, List.append_nil] at hall
    have hothers : ∀ accountId, accountId ≠ account.id →
        db.account? accountId = x.db.account? accountId := by
      intro accountId hne
      rw [hsame₂.account?, hrec.account?_other hne, hsame₁.account?]
    refine ⟨(h.close i).extend hactive (fun accountId => ⟨_, hextends accountId⟩) ?_, ?_⟩
    · -- the session that held the row has ended, and nobody else held it
      intro j accountId hj
      rcases holds_put hj with ⟨-, _, _, hbad, -, -⟩ | ⟨hji, hj⟩
      · cases hbad
      · refine hothers accountId fun heq => hji (h.exclusive j i accountId hj ?_)
        exact ⟨r, _, hsession, rfl, hid.symm.trans heq.symm⟩
    · intro accountId
      have hext := hextends accountId
      by_cases heq : accountId = account.id
      · rw [if_pos heq] at hext
        obtain ⟨htype, hstake⟩ := reserve_wrote hwrote
        subst heq
        rw [← hid] at hpast hrisk
        refine .reserves rfl hext htype hstake hpast ht (reservedOf_of_mem ha).symm ?_
        rw [dailyAggregates_eq hpast] at hrisk
        exact hrisk
      · rw [if_neg heq] at hext
        refine .quiet (le_refl _) ?_ ?_
        · rw [hext.entries, List.append_nil]
        · rw [hext.reserved, List.map_nil, List.sum_nil, add_zero]

/-- **Every step keeps what the sessions have read, and does one of three things to an account.** -/
theorem Guarded.step (h : Guarded policy x) (hs : RiskStep.Fixed P x x') :
    Guarded policy x' ∧ ∀ accountId, AccountStep policy accountId x x' := by
  obtain ⟨hstep, hactive⟩ := hs
  have hfreed : ∀ {db : Database}, db.activePolicy? = x.db.activePolicy? →
      (∀ accountId, Frees accountId x.clock x.db db) → x.RowsKept db →
      Guarded policy { x with db } ∧ ∀ accountId, AccountStep policy accountId x { x with db } :=
    fun hactive hfrees hrows => ⟨h.extend hactive (fun accountId => by
      obtain ⟨rows, hext, -⟩ := hfrees accountId
      exact ⟨rows, hext⟩) hrows, fun accountId => .frees rfl (hfrees accountId)⟩
  have hquiet : ∀ {s : CallId → Option (Reserver × Stage)} (accountId : String),
      AccountStep policy accountId x { x with sessions := s } :=
    fun accountId => .of_same ⟨rfl, rfl⟩ (le_refl _)
  cases hstep with
  | tick clock hclock =>
    refine ⟨⟨h.active, fun e he => (h.past e he).trans hclock, h.exclusive, fun i r stage hs => ?_⟩,
      fun accountId => .of_same ⟨rfl, rfl⟩ hclock⟩
    exact (h.reads i r stage hs).congr hclock rfl rfl
  | @outside db hout =>
    have hsame : LedgerSame x.db db := by
      rw [hout]
      exact ⟨rfl, rfl⟩
    exact ⟨h.same hactive hsame, fun accountId => .of_same hsame (le_refl _)⟩
  | transact htype hnow hbody hrows =>
    exact hfreed hactive (fun accountId => hnow ▸ Transaction.frees htype accountId _ _ _ hbody)
      hrows
  | @release input e db env hnow hbody hrows =>
    have hfrees : FreesLedger env.dbNow (releaseStakeTx input env) :=
      FreesLedger.lockAppend (by simp [ReleaseStakeInput.entry]) fun _ => KeepsLedger.pure.frees
    exact hfreed hactive (fun accountId => hnow ▸ hfrees accountId _ _ _ hbody) hrows
  | @admits i r control p db env hidle hadmits =>
    have hp : some p = some policy := (admit_spec hadmits).symm.trans h.active
    refine ⟨h.put (fun r' stage heq => ?_) fun r' stage heq hstage => ?_, hquiet⟩
    · obtain ⟨rfl, rfl⟩ := Prod.mk.inj (Option.some.inj heq)
      exact Option.some.inj hp
    · obtain ⟨rfl, rfl⟩ := Prod.mk.inj (Option.some.inj heq)
      cases hstage
  | @lock i r control p account db hsession hfree hlock hfit =>
    obtain ⟨-, ha, hid⟩ := lockAccount_spec hlock
    refine ⟨h.put (fun r' stage heq => ?_) fun r' stage heq hstage j hj => ?_, hquiet⟩
    · obtain ⟨rfl, rfl⟩ := Prod.mk.inj (Option.some.inj heq)
      exact ⟨h.reads i r _ hsession, ha, hid⟩
    · obtain ⟨rfl, rfl⟩ := Prod.mk.inj (Option.some.inj heq)
      exact (hfree j hj).elim
  | @sum i r p account hsession =>
    obtain ⟨hp, ha, hid⟩ := h.reads i r _ hsession
    refine ⟨h.put (fun r' stage heq => ?_) fun r' stage heq hstage j hj => ?_, hquiet⟩
    · obtain ⟨rfl, rfl⟩ := Prod.mk.inj (Option.some.inj heq)
      exact ⟨hp, ha, hid, x.clock, le_refl _, fun e he => h.past e (mem_entriesOf.1 he).1, rfl,
        by rw [hid]⟩
    · obtain ⟨rfl, rfl⟩ := Prod.mk.inj (Option.some.inj heq)
      exact h.exclusive j i _ hj ⟨r, _, hsession, rfl, rfl⟩
  | commit hsession hnow hbody => exact h.commit hsession hnow hbody hactive
  | @refuse i r result stop u db env hsession hbody =>
    obtain ⟨db₁, db₂, y, hsame₁, hm, hsame₂⟩ := Reserver.around_spec hbody
    rw [(Prod.mk.inj (Tx.pure_eq_ok.1 hm)).2] at hsame₂
    have hall := hsame₁.trans hsame₂
    exact ⟨(h.same hactive hall).close i, fun accountId => .of_same hall (le_refl _)⟩
  | abort i => exact ⟨h.close i, hquiet⟩

end Steps

end ApiScore
