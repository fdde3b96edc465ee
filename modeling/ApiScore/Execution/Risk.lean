import ApiScore.Execution.LedgerWrites
import ApiScore.Execution.Control

/-!
# The risk engine

The caps a reservation must pass, and the transactions that move a stake
(`risk-engine.service.ts`).  A cap that is met exactly is allowed; one cent more is refused.  Stale
quotes, a daily loss that has been reached and an exhausted daily budget also stop the execution.

`reserveWithin` runs in the transaction of its caller.  The stop it asks for is handed back with its
result, or travels with the exception that ends the transaction.
-/

set_option autoImplicit false

namespace ApiScore

open Relational

/-! ## Caps -/

structure RiskInput where
  policy : RiskPolicy
  stakeCents : Int
  availableCents : Int
  reservedCents : Int
  dailyStakedCents : Int
  dailySettledPnlCents : Int
  /-- Negative for a quote dated in the future. -/
  quoteAgeMs : Int
  deriving DecidableEq

inductive RiskVerdict
  | ok
  | rejected (code : RejectionCode) (limit : RiskLimit) (autoStop : Option AutoStopTrigger)
  deriving DecidableEq

/-- `evaluateRisk`. -/
def evaluateRisk (input : RiskInput) : RiskVerdict :=
  if input.quoteAgeMs < 0 ∨ input.policy.maxQuoteAgeMs < input.quoteAgeMs then
    .rejected .staleOdd .quoteAge (some .staleOrSuspendedOdd)
  else if input.stakeCents ≤ 0 ∨ input.policy.maxStakePerBet < input.stakeCents then
    .rejected .limitExceeded .maxStakePerBet none
  else if input.policy.maxDailyLoss ≤ max 0 (-input.dailySettledPnlCents) then
    .rejected .limitExceeded .dailyLoss (some .dailyLimitReached)
  else if input.policy.maxDailyStake < input.dailyStakedCents + input.stakeCents then
    .rejected .limitExceeded .dailyStake
      (if input.policy.maxDailyStake ≤ input.dailyStakedCents then some .dailyLimitReached else none)
  else if input.policy.maxOpenExposure < input.reservedCents + input.stakeCents then
    .rejected .limitExceeded .openExposure none
  else if input.availableCents < input.stakeCents then
    .rejected .limitExceeded .availableBalance none
  else .ok

/-- `utcDayStart`. -/
def utcDayStart (now : Int) : Int := now / 86400000 * 86400000

/-! ## Reserving -/

structure ReserveStakeRequest where
  accountId : String
  entryKey : String
  stake : Int
  quoteCapturedAt : Int
  orderId : Option String
  deriving DecidableEq

inductive ReservationResult
  | reserved (entry : BankrollLedgerEntry) (replayed : Bool)
  | rejected (code : RejectionCode) (limit : Option RiskLimit) (reason : String)
  deriving DecidableEq

/-- Run a statement after a stop has been asked for: its exceptions carry the request. -/
def withPending {α : Type} (stop : Option AutoStopRequest) (m : DbTx α) : DbTx α := fun db =>
  match m db with
  | .ok r => .ok r
  | .error e => .error { e with pendingStop := e.pendingStop <|> stop }

@[simp] theorem withPending_eq_ok {α : Type} {stop : Option AutoStopRequest} {m : DbTx α}
    {db : Database} {r : α × Database} : withPending stop m db = .ok r ↔ m db = .ok r := by
  rw [withPending]
  cases m db with
  | ok x => rfl
  | error e => simp

def ReserveStakeRequest.entry (request : ReserveStakeRequest) : AppendInput where
  type := .reserve
  entryKey := request.entryKey
  movement := { stakeCents := some (.int request.stake) }
  orderId := request.orderId

/-- The reservation is recorded already: the same entry again, without looking at the caps. -/
def replayReservation (request : ReserveStakeRequest) (env : TxEnv) : DbTx ReservationResult := do
  let account ← lockAccount request.accountId
  let (replay, _) ← append account { request.entry with orderId := none } env.dbNow
  return .reserved replay.entry true

/-- The part of `reserveWithin` under the account's lock. -/
def reserveUnderPolicy (request : ReserveStakeRequest) (control : ExecutionControl)
    (policy : RiskPolicy) (env : TxEnv) : DbTx (ReservationResult × Option AutoStopRequest) := do
  let account ← lockAccount request.accountId
  if account.mode ≠ control.mode ∨ account.currency ≠ policy.currency then
    return (.rejected .riskCheckFailed none ("Compte " ++ account.mode.text ++ "/" ++
      account.currency ++ " incompatible avec " ++ control.mode.text ++ "/" ++ policy.currency),
      none)
  else
    let daily ← DbTx.read fun db => db.dailyAggregates account.id (utcDayStart env.now)
    match evaluateRisk {
        policy
        stakeCents := request.stake
        availableCents := account.availableBalance
        reservedCents := account.reservedBalance
        dailyStakedCents := daily.stakedCents
        dailySettledPnlCents := daily.settledPnlCents
        quoteAgeMs := env.now - request.quoteCapturedAt } with
    | .rejected code limit autoStop =>
      return (.rejected code (some limit) ("Limite " ++ limit.text),
        autoStop.map fun trigger => ⟨trigger, [("limit", limit.text)]⟩)
    | .ok =>
      let (appended, _) ← append account request.entry env.dbNow
      return (.reserved appended.entry appended.replayed, none)

/-- `reserveWithin`, with the stop it asks for. -/
def reserveWithin (request : ReserveStakeRequest) (env : TxEnv) :
    DbTx (ReservationResult × Option AutoStopRequest) := do
  let control ← lockForExecution env
  match ← findEntry request.entryKey with
  | some _ =>
    let result ← replayReservation request env
    return (result, none)
  | none =>
    if ¬ clockWithinTolerance env then
      withPending (some ⟨.clockOutOfTolerance, []⟩)
        (DbTx.fail (.executionBlocked "Horloge hors tolérance" false))
    else
      match ← DbTx.read fun db => control.activeRiskPolicyId.bind db.policy? with
      | none =>
        return (.rejected .riskCheckFailed none "Aucune politique de risque active",
          some ⟨.controlUnreadable, [("cause", "politique active absente")]⟩)
      | some policy => reserveUnderPolicy request control policy env

/-- `classifyReservationError`: every error refuses, and a serious one also stops. -/
def classifyReservationError (e : TxError) : ReservationResult × Option AutoStopRequest :=
  match e.error with
  | .executionBlocked message unreadable =>
    (.rejected .controlDisabled none message,
      if unreadable then some ⟨.controlUnreadable, []⟩ else e.pendingStop)
  | .ledgerRule message =>
    (.rejected .riskCheckFailed (some .availableBalance) message, e.pendingStop)
  | .http message =>
    (.rejected .riskCheckFailed none message, e.pendingStop)
  | .other message =>
    (.rejected .riskCheckFailed none message,
      some (e.pendingStop.getD ⟨.controlUnreadable, [("cause", "erreur base")]⟩))

/-! ## Settling -/

structure SettleStakeInput where
  accountId : String
  entryKey : String
  stake : Int
  payout : Int
  orderId : Option String
  deriving DecidableEq

def SettleStakeInput.entry (input : SettleStakeInput) : AppendInput where
  type := .settle
  entryKey := input.entryKey
  movement := { stakeCents := some (.int input.stake), payoutCents := some (.int input.payout) }
  orderId := input.orderId

/-- The transaction of `settleStake`: allowed while stopped.  With the entry, has the daily loss been
reached? -/
def settleStakeTx (input : SettleStakeInput) (env : TxEnv) :
    DbTx (BankrollLedgerEntry × Bool) := do
  let account ← lockAccount input.accountId
  let (appended, _) ← append account input.entry env.dbNow
  let control ← DbTx.read fun db =>
    toSnapshot (if env.controlUnreadable then none else db.control) env.interlockOpen
  let policy ← DbTx.read fun db => control.activeRiskPolicyId.bind db.policy?
  let daily ← DbTx.read fun db => db.dailyAggregates account.id (utcDayStart env.now)
  return (appended.entry, policy.any fun p => p.maxDailyLoss ≤ max 0 (-daily.settledPnlCents))

/-! ## What they record -/

theorem replayReservation_spec {request : ReserveStakeRequest} {env : TxEnv} {db db' : Database}
    {result : ReservationResult} {entry : BankrollLedgerEntry}
    (hk : db.entry? request.entryKey = some entry)
    (h : replayReservation request env db = .ok (result, db')) :
    result = .reserved entry true ∧ db' = db := by
  rw [replayReservation, Tx.bind_eq_ok] at h
  obtain ⟨account, s, hlock, h⟩ := h
  obtain ⟨rfl, ha, -⟩ := lockAccount_spec hlock
  rw [Tx.bind_eq_ok] at h
  obtain ⟨⟨res, account'⟩, s₁, happ, h⟩ := h
  obtain ⟨rfl, rfl⟩ := Prod.mk.inj (Tx.pure_eq_ok.1 h)
  rcases append_spec ha happ with ⟨_, hkey, -, -, -, -, rfl⟩ | ⟨hkey, -, -, -, -⟩
  · rw [show AppendInput.entryKey { request.entry with orderId := none } = request.entryKey from rfl,
      hk, Option.some.injEq] at hkey
    exact ⟨by rw [hkey], rfl⟩
  · rw [show AppendInput.entryKey { request.entry with orderId := none } = request.entryKey from rfl,
      hk] at hkey
    cases hkey

/-- What `evaluateRisk` is given for a reservation on this account. -/
def ReserveStakeRequest.riskInput (request : ReserveStakeRequest) (env : TxEnv) (db : Database)
    (account : BankrollAccount) (policy : RiskPolicy) : RiskInput where
  policy := policy
  stakeCents := request.stake
  availableCents := account.availableBalance
  reservedCents := account.reservedBalance
  dailyStakedCents := (db.dailyAggregates account.id (utcDayStart env.now)).stakedCents
  dailySettledPnlCents := (db.dailyAggregates account.id (utcDayStart env.now)).settledPnlCents
  quoteAgeMs := env.now - request.quoteCapturedAt

/-- What a reservation has checked when it appends its entry. -/
structure Cleared (request : ReserveStakeRequest) (env : TxEnv) (db : Database)
    (account : BankrollAccount) (control : ExecutionControl) (policy : RiskPolicy) : Prop where
  isControl : db.control = some control
  isPolicy : control.activeRiskPolicyId.bind db.policy? = some policy
  sameMode : account.mode = control.mode
  sameCurrency : account.currency = policy.currency
  risk : evaluateRisk (request.riskInput env db account policy) = .ok

/-- What a reservation does when it returns: it is refused and has written nothing, its entry was
recorded before, or it has appended its entry to the account. -/
inductive ReserveOutcome (request : ReserveStakeRequest) (env : TxEnv) (db : Database) :
    ReservationResult → Database → Prop
  | refused (code : RejectionCode) (limit : Option RiskLimit) (reason : String) :
      ReserveOutcome request env db (.rejected code limit reason) db
  | replayed {entry : BankrollLedgerEntry} (hkey : db.entry? request.entryKey = some entry) :
      ReserveOutcome request env db (.reserved entry true) db
  | appended {account account' : BankrollAccount} {control : ExecutionControl}
      {policy : RiskPolicy} {res : AppendResult} {db' : Database}
      (ha : account ∈ db.accounts) (hid : account.id = request.accountId)
      (hkey : db.entry? request.entryKey = none)
      (hcleared : Cleared request env db account control policy)
      (happ : append account request.entry env.dbNow db = .ok ((res, account'), db')) :
      ReserveOutcome request env db (.reserved res.entry res.replayed) db'

theorem reserveUnderPolicy_spec {request : ReserveStakeRequest} {control : ExecutionControl}
    {policy : RiskPolicy} {env : TxEnv} {db db' : Database} {result : ReservationResult}
    {stop : Option AutoStopRequest} (hk : db.entry? request.entryKey = none)
    (hcontrol : db.control = some control)
    (hpolicy : control.activeRiskPolicyId.bind db.policy? = some policy)
    (h : reserveUnderPolicy request control policy env db = .ok ((result, stop), db')) :
    ReserveOutcome request env db result db' := by
  rw [reserveUnderPolicy, Tx.bind_eq_ok] at h
  obtain ⟨account, s, hlock, h⟩ := h
  obtain ⟨rfl, ha, hid⟩ := lockAccount_spec hlock
  rw [Tx.ite_eq_ok] at h
  rcases h with ⟨-, h⟩ | ⟨hmatch, h⟩
  · obtain ⟨heq, rfl⟩ := Prod.mk.inj (Tx.pure_eq_ok.1 h)
    obtain ⟨rfl, rfl⟩ := Prod.mk.inj heq
    exact .refused _ _ _
  · rw [Tx.bind_eq_ok] at h
    obtain ⟨daily, s₁, hread, h⟩ := h
    obtain ⟨rfl, rfl⟩ := Prod.mk.inj (DbTx.read_eq_ok.1 hread)
    obtain ⟨hmode, hcurrency⟩ := not_or.1 hmatch
    generalize hrisk : evaluateRisk _ = verdict at h
    cases verdict with
    | rejected code limit autoStop =>
      obtain ⟨heq, rfl⟩ := Prod.mk.inj (Tx.pure_eq_ok.1 h)
      obtain ⟨rfl, rfl⟩ := Prod.mk.inj heq
      exact .refused _ _ _
    | ok =>
      simp only [Tx.bind_eq_ok] at h
      obtain ⟨⟨res, account'⟩, s₂, happ, h⟩ := h
      obtain ⟨heq, rfl⟩ := Prod.mk.inj (Tx.pure_eq_ok.1 h)
      obtain ⟨rfl, rfl⟩ := Prod.mk.inj heq
      exact .appended ha hid hk
        ⟨hcontrol, hpolicy, not_not.1 hmode, not_not.1 hcurrency, hrisk⟩ happ

theorem reserveWithin_spec {request : ReserveStakeRequest} {env : TxEnv} {db db' : Database}
    {result : ReservationResult} {stop : Option AutoStopRequest}
    (h : reserveWithin request env db = .ok ((result, stop), db')) :
    ReserveOutcome request env db result db' := by
  rw [reserveWithin, Tx.bind_eq_ok] at h
  obtain ⟨control, s, hlock, h⟩ := h
  obtain ⟨rfl, hcontrol, -⟩ := lockForExecution_spec hlock
  rw [Tx.bind_eq_ok] at h
  obtain ⟨o, s₁, hfind, h⟩ := h
  obtain ⟨rfl, rfl⟩ := Prod.mk.inj (findEntry_eq_ok.1 hfind)
  cases hk : s₁.entry? request.entryKey with
  | some entry =>
    simp only [hk, Tx.bind_eq_ok] at h
    obtain ⟨r, s₂, hreplay, h⟩ := h
    obtain ⟨rfl, rfl⟩ := replayReservation_spec hk hreplay
    obtain ⟨heq, rfl⟩ := Prod.mk.inj (Tx.pure_eq_ok.1 h)
    obtain ⟨rfl, rfl⟩ := Prod.mk.inj heq
    exact .replayed hk
  | none =>
    simp only [hk, Tx.ite_eq_ok] at h
    rcases h with ⟨-, h⟩ | ⟨-, h⟩
    · rw [withPending_eq_ok] at h
      exact (DbTx.fail_eq_ok.1 h).elim
    · rw [Tx.bind_eq_ok] at h
      obtain ⟨policy, s₂, hread, h⟩ := h
      obtain ⟨rfl, rfl⟩ := Prod.mk.inj (DbTx.read_eq_ok.1 hread)
      cases hp : control.activeRiskPolicyId.bind s₂.policy? with
      | none =>
        simp only [hp] at h
        obtain ⟨heq, rfl⟩ := Prod.mk.inj (Tx.pure_eq_ok.1 h)
        obtain ⟨rfl, rfl⟩ := Prod.mk.inj heq
        exact .refused _ _ _
      | some policy =>
        simp only [hp] at h
        exact reserveUnderPolicy_spec hk hcontrol hp h

/-- What settling a stake does when it returns: its entry is appended, or was recorded before. -/
theorem settleStakeTx_spec {input : SettleStakeInput} {env : TxEnv} {db db' : Database}
    {r : BankrollLedgerEntry × Bool} (h : settleStakeTx input env db = .ok (r, db')) :
    ∃ account account' res, account ∈ db.accounts ∧ account.id = input.accountId ∧
      AppendOutcome db account input.entry env.dbNow res account' db' := by
  rw [settleStakeTx, Tx.bind_eq_ok] at h
  obtain ⟨account, s, hlock, h⟩ := h
  obtain ⟨rfl, ha, hid⟩ := lockAccount_spec hlock
  rw [Tx.bind_eq_ok] at h
  obtain ⟨⟨res, account'⟩, s₁, happ, h⟩ := h
  simp only [Tx.bind_eq_ok, DbTx.read_eq_ok] at h
  obtain ⟨_, _, h₁, _, _, h₂, _, _, h₃, h⟩ := h
  obtain ⟨rfl, rfl⟩ := Prod.mk.inj h₁
  obtain ⟨rfl, rfl⟩ := Prod.mk.inj h₂
  obtain ⟨rfl, rfl⟩ := Prod.mk.inj h₃
  obtain ⟨-, rfl⟩ := Prod.mk.inj (Tx.pure_eq_ok.1 h)
  exact ⟨account, account', res, ha, hid, append_spec ha happ⟩

end ApiScore
