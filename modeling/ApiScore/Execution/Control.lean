import Mathlib.Data.List.Dedup
import ApiScore.Execution.Ledger

/-!
# The execution control

The one row that says whether money may be committed, and in which mode
(`execution-control.service.ts`, `gate-policy.service.ts`).  A transaction that commits money locks
the row shared; `stop`, `changeMode` and `createRiskPolicy` lock it exclusively.

* `executionControl?` — reading the row: whatever is not certain counts as stopped.
* `stopTx`, `changeModeTx`, `createRiskPolicyTx` — the three transactions that write it.
-/

set_option autoImplicit false

namespace ApiScore

open Relational

/-- What a transaction draws from outside the database. -/
structure TxEnv where
  /-- `Date.now()`. -/
  now : Int
  /-- `CURRENT_TIMESTAMP(6)`, in microseconds. -/
  dbNow : Int
  /-- `randomUUID()` or `UUID()`. -/
  uuid : String
  /-- `REAL_MONEY_INTERLOCK` is `true`. -/
  interlockOpen : Bool
  /-- The drift `clockDriftMs` measures between the two clocks. -/
  clockDrift : ℚ
  /-- The statement that reads the control row fails. -/
  controlUnreadable : Bool
  deriving DecidableEq

/-! ## Reading the control -/

structure ControlSnapshot where
  readable : Bool
  mode : ExecutionMode
  version : Option Nat
  activeRiskPolicyId : Option String
  stopReason : Option String
  stopSource : Option StopSource
  realMoneyInterlockOpen : Bool
  deriving DecidableEq

/-- `toSnapshot`: whatever is not certain counts as `DISABLED`. -/
def toSnapshot (control : Option ExecutionControl) (interlockOpen : Bool) : ControlSnapshot :=
  match control with
  | none => ⟨false, .disabled, none, none, some "Ligne de contrôle absente", none, interlockOpen⟩
  | some c =>
    match c.mode with
    | .unknown text =>
      ⟨false, .disabled, some c.version, none, some ("Mode inconnu en base : " ++ text), none,
        interlockOpen⟩
    | .known mode =>
      ⟨true, mode, some c.version, c.activeRiskPolicyId, c.stopReason, c.stopSource, interlockOpen⟩

/-- May money be committed in this mode? -/
def executionAllowed (mode : ExecutionMode) (interlockOpen : Bool) : Bool :=
  match mode with
  | .disabled => false
  | .liveCanary => interlockOpen
  | _ => true

/-- The control row, when it allows execution. -/
def executionControl? (control : Option ExecutionControl) (interlockOpen : Bool) :
    Except ServiceError ExecutionControl :=
  let snapshot := toSnapshot control interlockOpen
  match control with
  | none => .error (.executionBlocked (snapshot.stopReason.getD "Contrôle illisible") true)
  | some c =>
    if ¬ snapshot.readable then
      .error (.executionBlocked (snapshot.stopReason.getD "Contrôle illisible") true)
    else if executionAllowed snapshot.mode snapshot.realMoneyInterlockOpen then .ok c
    else
      .error (.executionBlocked (if snapshot.mode = .disabled then "Exécution arrêtée"
        else "REAL_MONEY_INTERLOCK fermé") false)

/-- The control row, under a shared lock to the end of the transaction. -/
def lockForExecution (env : TxEnv) : DbTx ExecutionControl :=
  if env.controlUnreadable then DbTx.fail (.executionBlocked "Contrôle illisible" true)
  else do
    let control ← DbTx.read (·.control)
    liftRule (executionControl? control env.interlockOpen)

/-- The permit of one submission: the control row, in the mode the order was reserved in. -/
def submissionPermit (expectedMode : StoredMode) (env : TxEnv) : DbTx ExecutionControl := do
  let control ← lockForExecution env
  if control.mode ≠ expectedMode then
    DbTx.fail (.executionBlocked ("Mode passé à " ++ control.mode.text ++ " avant soumission")
      false)
  else return control

/-- `assertClockWithinTolerance`. -/
def clockWithinTolerance (env : TxEnv) : Bool := decide (env.clockDrift ≤ clockToleranceMs)

theorem executionControl?_eq_ok {control : Option ExecutionControl} {interlockOpen : Bool}
    {c : ExecutionControl} (h : executionControl? control interlockOpen = .ok c) :
    control = some c ∧ ∃ mode, c.mode = .known mode ∧ executionAllowed mode interlockOpen = true := by
  unfold executionControl? toSnapshot at h
  cases control with
  | none => cases h
  | some x =>
    cases hm : x.mode with
    | unknown text =>
      simp [hm] at h
    | known mode =>
      simp only [hm, not_true, if_false] at h
      split at h
      · rename_i ha
        cases h
        exact ⟨rfl, mode, hm, ha⟩
      · cases h

theorem lockForExecution_spec {env : TxEnv} {db db' : Database} {c : ExecutionControl}
    (h : lockForExecution env db = .ok (c, db')) :
    db' = db ∧ db.control = some c ∧
      ∃ mode, c.mode = .known mode ∧ executionAllowed mode env.interlockOpen = true := by
  rw [lockForExecution, Tx.ite_eq_ok] at h
  rcases h with ⟨-, h⟩ | ⟨-, h⟩
  · exact (DbTx.fail_eq_ok.1 h).elim
  · rw [Tx.bind_eq_ok] at h
    obtain ⟨control, s, hread, h⟩ := h
    obtain ⟨rfl, rfl⟩ := Prod.mk.inj (DbTx.read_eq_ok.1 hread)
    obtain ⟨hc, rfl⟩ := liftRule_eq_ok.1 h
    exact ⟨rfl, executionControl?_eq_ok hc⟩

/-- **A permit is granted only in the order's own mode, and only while execution is allowed.** -/
theorem submissionPermit_spec {expectedMode : StoredMode} {env : TxEnv} {db db' : Database}
    {c : ExecutionControl} (h : submissionPermit expectedMode env db = .ok (c, db')) :
    db' = db ∧ db.control = some c ∧ c.mode = expectedMode ∧
      ∃ mode, c.mode = .known mode ∧ executionAllowed mode env.interlockOpen = true := by
  rw [submissionPermit, Tx.bind_eq_ok] at h
  obtain ⟨x, s, hlock, h⟩ := h
  obtain ⟨rfl, hc, hm⟩ := lockForExecution_spec hlock
  rw [Tx.ite_eq_ok] at h
  rcases h with ⟨-, h⟩ | ⟨hmode, h⟩
  · exact (DbTx.fail_eq_ok.1 h).elim
  · obtain ⟨rfl, rfl⟩ := Prod.mk.inj (Tx.pure_eq_ok.1 h)
    exact ⟨rfl, hc, not_not.1 hmode, hm⟩

/-! ## Stopping -/

/-- Runs of control characters become one space. -/
def collapseControls : List Char → List Char
  | [] => []
  | c :: cs =>
    if c.toNat ≤ 0x1f ∨ c.toNat = 0x7f then
      match cs with
      | d :: _ =>
        if d.toNat ≤ 0x1f ∨ d.toNat = 0x7f then collapseControls cs else ' ' :: collapseControls cs
      | [] => [' ']
    else c :: collapseControls cs

/-- `sanitizeReason`: one line, at most 500 characters. -/
def sanitizeReason (reason : String) : String :=
  String.ofList ((jsTrim (collapseControls reason.toList)).take 500)

/-- `stop`: immediate and idempotent, never refused for a stale version; a missing row is created
stopped. -/
def stopTx (reason : String) (source : StopSource) (env : TxEnv) : DbTx ExecutionControl := do
  let cleanReason := if sanitizeReason reason = "" then "Arrêt" else sanitizeReason reason
  match ← DbTx.read (·.control) with
  | none =>
    let created : ExecutionControl :=
      { id := env.uuid, mode := .known .disabled, version := 1, activeRiskPolicyId := none,
        stopReason := some cleanReason, stopSource := some source }
    modify fun db => { db with control := some created }
    return created
  | some current =>
    if current.mode = .known .disabled then return current
    else
      let stopped := { current with
        mode := .known .disabled, version := current.version + 1,
        stopReason := some cleanReason, stopSource := some source }
      modify fun db => { db with control := some stopped }
      return stopped

/-- The reason `autoStop` gives to `stop`. -/
def AutoStopRequest.reason (request : AutoStopRequest) : String :=
  let detail := String.intercalate ", " (request.details.map fun d => d.1 ++ "=" ++ d.2)
  "AUTO:" ++ request.trigger.text ++ (if detail = "" then "" else " (" ++ detail ++ ")")

/-- What a stop does to the row it finds. -/
inductive Stopped (db : Database) (c : ExecutionControl) : Prop
  | created (hnone : db.control = none) (hversion : c.version = 1)
      (hpolicy : c.activeRiskPolicyId = none)
  | already (hsome : db.control = some c)
  | stopped {current : ExecutionControl} (hsome : db.control = some current)
      (hmode : current.mode ≠ .known .disabled) (hid : c.id = current.id)
      (hversion : c.version = current.version + 1)
      (hpolicy : c.activeRiskPolicyId = current.activeRiskPolicyId)

/-- **A stop leaves the control disabled.** -/
theorem stopTx_cases {reason : String} {source : StopSource} {env : TxEnv} {db db' : Database}
    {c : ExecutionControl} (h : stopTx reason source env db = .ok (c, db')) :
    db' = { db with control := some c } ∧ c.mode = .known .disabled ∧ Stopped db c := by
  rw [stopTx, Tx.bind_eq_ok] at h
  obtain ⟨control, s, hread, h⟩ := h
  obtain ⟨rfl, rfl⟩ := Prod.mk.inj (DbTx.read_eq_ok.1 hread)
  cases hc : s.control with
  | none =>
    simp only [hc, Tx.bind_eq_ok, Tx.modify_eq_ok, Tx.pure_eq_ok] at h
    obtain ⟨_, s', hmod, heq⟩ := h
    obtain ⟨-, rfl⟩ := Prod.mk.inj hmod
    obtain ⟨rfl, rfl⟩ := Prod.mk.inj heq
    exact ⟨rfl, rfl, .created hc rfl rfl⟩
  | some current =>
    simp only [hc, Tx.ite_eq_ok, Tx.bind_eq_ok, Tx.modify_eq_ok, Tx.pure_eq_ok] at h
    rcases h with ⟨hm, heq⟩ | ⟨hm, _, s', hmod, heq⟩
    · obtain ⟨rfl, rfl⟩ := Prod.mk.inj heq
      exact ⟨by rw [← hc], hm, .already hc⟩
    · obtain ⟨-, rfl⟩ := Prod.mk.inj hmod
      obtain ⟨rfl, rfl⟩ := Prod.mk.inj heq
      exact ⟨rfl, rfl, .stopped hc hm rfl rfl rfl⟩

/-- A stop never fails. -/
theorem stopTx_commits (reason : String) (source : StopSource) (env : TxEnv) (db : Database) :
    ∃ r, stopTx reason source env db = .ok r := by
  cases hc : db.control with
  | none =>
    exact ⟨_, Tx.bind_eq_ok.2 ⟨none, db, by rw [DbTx.read_eq_ok, hc],
      Tx.bind_eq_ok.2 ⟨(), _, Tx.modify_eq_ok.2 rfl, Tx.pure_eq_ok.2 rfl⟩⟩⟩
  | some current =>
    by_cases hm : current.mode = .known .disabled
    · exact ⟨_, Tx.bind_eq_ok.2 ⟨some current, db, by rw [DbTx.read_eq_ok, hc],
        Tx.ite_eq_ok.2 (.inl ⟨hm, Tx.pure_eq_ok.2 rfl⟩)⟩⟩
    · exact ⟨_, Tx.bind_eq_ok.2 ⟨some current, db, by rw [DbTx.read_eq_ok, hc],
        Tx.ite_eq_ok.2 (.inr ⟨hm, Tx.bind_eq_ok.2 ⟨(), _, Tx.modify_eq_ok.2 rfl,
          Tx.pure_eq_ok.2 rfl⟩⟩)⟩⟩

theorem stopTx_spec {reason : String} {source : StopSource} {env : TxEnv} {db db' : Database}
    {c : ExecutionControl} (h : stopTx reason source env db = .ok (c, db')) :
    db' = { db with control := some c } ∧ c.mode = .known .disabled :=
  ⟨(stopTx_cases h).1, (stopTx_cases h).2.1⟩

/-! ## Gates and mode changes -/

inductive TransitionDirection
  | up | down | none
  deriving DecidableEq, Repr

structure TransitionShape where
  direction : TransitionDirection
  allowed : Bool
  deriving DecidableEq

/-- One rung at a time upwards; one rung, or straight to `DISABLED`, downwards. -/
def transitionShape (source target : ExecutionMode) : TransitionShape :=
  let delta := target.rank - source.rank
  if delta = 0 then ⟨.none, false⟩
  else if 0 < delta then ⟨.up, delta == 1⟩
  else ⟨.down, delta == -1 || target == .disabled⟩

def requiredGates (source target : ExecutionMode) : List GateKey :=
  if (transitionShape source target).direction = .up then gatesRequiredToEnter target else []

/-- Is this evidence usable for one of the required gates of the control? -/
def admissibleEvidence (required : List GateKey) (controlId : String)
    (evidence : ExecutionGateEvidence) : Bool :=
  evidence.controlId == controlId && evidence.verdict == .go && evidence.approvedByUserId != "" &&
    required.contains evidence.gateKey

/-- `checkEvidence(…).ok`: every given piece of evidence is usable, and together they cover every
required gate. -/
def checkEvidence (required : List GateKey) (providedIds : List String)
    (found : List ExecutionGateEvidence) (controlId : String) : Bool :=
  let given := providedIds.dedup.map fun id => found.find? fun e => e.id == id
  given.all (fun e => e.any (admissibleEvidence required controlId)) &&
    required.all fun gate => given.any fun e =>
      e.any fun e => admissibleEvidence required controlId e && e.gateKey == gate

/-- `assertTransitionAllowed`. -/
def assertTransitionAllowed (controlId : String) (source target : ExecutionMode)
    (evidenceIds : List String) : DbTx Unit :=
  if requiredGates source target = [] then return ()
  else do
    let found ← DbTx.read fun db => db.evidence.select fun e => evidenceIds.contains e.id
    if checkEvidence (requiredGates source target) evidenceIds found controlId then return ()
    else
      DbTx.fail (.http ("Transition " ++ source.text ++ " → " ++ target.text ++
        " refusée : preuves de gate insuffisantes"))

structure ChangeModeInput where
  targetMode : ExecutionMode
  expectedVersion : Nat
  gateEvidenceIds : List String
  deriving DecidableEq

/-- The checks of a transition that climbs. -/
def assertClimb (current : ExecutionControl) (source : ExecutionMode) (input : ChangeModeInput)
    (env : TxEnv) : DbTx Unit :=
  if (transitionShape source input.targetMode).direction ≠ .up then return ()
  else if current.activeRiskPolicyId.isNone then
    DbTx.fail (.http "Aucune politique de risque active : impossible de quitter DISABLED")
  else if input.targetMode = .liveCanary ∧ ¬ env.interlockOpen then
    DbTx.fail (.http "REAL_MONEY_INTERLOCK fermé : passage en LIVE_CANARY interdit")
  else assertTransitionAllowed current.id source input.targetMode input.gateEvidenceIds

/-- Write the new mode: whatever had stopped the execution is forgotten. -/
def setMode (current : ExecutionControl) (target : ExecutionMode) : DbTx ExecutionControl := do
  let updated := { current with
    mode := .known target, version := current.version + 1, stopReason := none, stopSource := none }
  modify fun db => { db with control := some updated }
  return updated

/-- The transaction of `changeMode` towards another mode than `DISABLED`, with the direction it
went. -/
def changeModeTx (input : ChangeModeInput) (env : TxEnv) :
    DbTx (ExecutionControl × TransitionDirection) := do
  let current ← DbTx.get! (.http "Contrôle d’exécution absent : seul un arrêt est possible")
    (← DbTx.read (·.control))
  if current.version ≠ input.expectedVersion then
    DbTx.fail (.http ("Version attendue " ++ toString input.expectedVersion ++
      ", version actuelle " ++ toString current.version))
  else
    let source := current.mode.executionMode?.getD .disabled
    let shape := transitionShape source input.targetMode
    if ¬ shape.allowed then
      DbTx.fail (.http (if shape.direction = .none then "Le contrôle est déjà en " ++ source.text
        else "Transition " ++ source.text ++ " → " ++ input.targetMode.text ++ " non adjacente"))
    else
      assertClimb current source input env
      let updated ← setMode current input.targetMode
      return (updated, shape.direction)

theorem transitionShape_of_disabled {target : ExecutionMode}
    (h : (transitionShape .disabled target).allowed = true) :
    (transitionShape .disabled target).direction = .up := by
  cases target <;> simp_all [transitionShape, ExecutionMode.rank]

/-- Evidence that is checked covers every required gate. -/
theorem checkEvidence_covers {required : List GateKey} {ids : List String}
    {found : List ExecutionGateEvidence} {controlId : String}
    (h : checkEvidence required ids found controlId = true) :
    ∀ gate ∈ required, ∃ e ∈ found, e.id ∈ ids ∧ e.gateKey = gate ∧ e.controlId = controlId ∧
      e.verdict = .go ∧ e.approvedByUserId ≠ "" := by
  intro gate hgate
  simp only [checkEvidence, Bool.and_eq_true] at h
  obtain ⟨o, ho, hcovers⟩ := List.any_eq_true.1 (List.all_eq_true.1 h.2 gate hgate)
  obtain ⟨id, hid, rfl⟩ := List.mem_map.1 ho
  cases hfound : found.find? fun e => e.id == id with
  | none =>
    rw [hfound] at hcovers
    cases hcovers
  | some e =>
    rw [hfound, Option.any_some] at hcovers
    simp only [admissibleEvidence, Bool.and_eq_true, beq_iff_eq, bne_iff_ne] at hcovers
    obtain ⟨⟨⟨⟨hcontrol, hverdict⟩, happroved⟩, -⟩, hkey⟩ := hcovers
    have heid : e.id = id := by simpa using List.find?_some hfound
    exact ⟨e, List.mem_of_find?_eq_some hfound, heid ▸ List.mem_dedup.1 hid, hkey, hcontrol,
      hverdict, happroved⟩

/-- What a climb has checked. -/
structure Climb (current : ExecutionControl) (source : ExecutionMode) (input : ChangeModeInput)
    (env : TxEnv) (db : Database) : Prop where
  policy : current.activeRiskPolicyId.isSome = true
  interlock : input.targetMode = .liveCanary → env.interlockOpen = true
  evidence : ∀ gate ∈ requiredGates source input.targetMode, ∃ e ∈ db.evidence,
    e.id ∈ input.gateEvidenceIds ∧ e.gateKey = gate ∧ e.controlId = current.id ∧
      e.verdict = .go ∧ e.approvedByUserId ≠ ""

theorem assertClimb_eq_ok {current : ExecutionControl} {source : ExecutionMode}
    {input : ChangeModeInput} {env : TxEnv} {db db' : Database} {u : Unit}
    (h : assertClimb current source input env db = .ok (u, db')) :
    db' = db ∧ ((transitionShape source input.targetMode).direction = .up →
      Climb current source input env db) := by
  rw [assertClimb, Tx.ite_eq_ok] at h
  rcases h with ⟨hdir, h⟩ | ⟨-, h⟩
  · exact ⟨(Prod.mk.inj (Tx.pure_eq_ok.1 h)).2, fun hup => (hdir hup).elim⟩
  rw [Tx.ite_eq_ok] at h
  rcases h with ⟨-, h⟩ | ⟨hpolicy, h⟩
  · exact (DbTx.fail_eq_ok.1 h).elim
  rw [Tx.ite_eq_ok] at h
  rcases h with ⟨-, h⟩ | ⟨hlive, h⟩
  · exact (DbTx.fail_eq_ok.1 h).elim
  have hsome : current.activeRiskPolicyId.isSome = true := by
    cases hp : current.activeRiskPolicyId with
    | none =>
      rw [hp] at hpolicy
      exact (hpolicy rfl).elim
    | some id => rfl
  have hopen : input.targetMode = .liveCanary → env.interlockOpen = true := fun hm =>
    Bool.eq_true_of_not_eq_false fun hf => hlive ⟨hm, by rw [hf]; exact Bool.false_ne_true⟩
  rw [assertTransitionAllowed, Tx.ite_eq_ok] at h
  rcases h with ⟨hnone, h⟩ | ⟨-, h⟩
  · refine ⟨(Prod.mk.inj (Tx.pure_eq_ok.1 h)).2, fun _ => ⟨hsome, hopen, fun gate hg => ?_⟩⟩
    rw [hnone] at hg
    cases hg
  rw [Tx.bind_eq_ok] at h
  obtain ⟨found, s, hread, h⟩ := h
  obtain ⟨rfl, rfl⟩ := Prod.mk.inj (DbTx.read_eq_ok.1 hread)
  rw [Tx.ite_eq_ok] at h
  rcases h with ⟨hcheck, h⟩ | ⟨-, h⟩
  · refine ⟨(Prod.mk.inj (Tx.pure_eq_ok.1 h)).2, fun _ => ⟨hsome, hopen, fun gate hg => ?_⟩⟩
    obtain ⟨e, he, hcovers⟩ := checkEvidence_covers hcheck gate hg
    exact ⟨e, (Table.mem_select.1 he).1, hcovers⟩
  · exact (DbTx.fail_eq_ok.1 h).elim

/-- What a change of mode has found, and what it has written. -/
structure ModeChange (input : ChangeModeInput) (env : TxEnv) (db : Database)
    (current : ExecutionControl) (r : ExecutionControl × TransitionDirection) (db' : Database) :
    Prop where
  control : db.control = some current
  version : current.version = input.expectedVersion
  allowed : (transitionShape (current.mode.executionMode?.getD .disabled)
    input.targetMode).allowed = true
  direction : r.2 = (transitionShape (current.mode.executionMode?.getD .disabled)
    input.targetMode).direction
  climb : r.2 = .up → Climb current (current.mode.executionMode?.getD .disabled) input env db
  updated : r.1 = { current with
    mode := .known input.targetMode, version := current.version + 1, stopReason := none,
    stopSource := none }
  only : db' = { db with control := some r.1 }

/-- **A change of mode writes the control row only, after its checks.** -/
theorem changeModeTx_cases {input : ChangeModeInput} {env : TxEnv} {db db' : Database}
    {r : ExecutionControl × TransitionDirection} (h : changeModeTx input env db = .ok (r, db')) :
    ∃ current, ModeChange input env db current r db' := by
  rw [changeModeTx, Tx.bind_eq_ok] at h
  obtain ⟨control, s, hread, h⟩ := h
  obtain ⟨rfl, rfl⟩ := Prod.mk.inj (DbTx.read_eq_ok.1 hread)
  rw [Tx.bind_eq_ok] at h
  obtain ⟨current, s₁, hget, h⟩ := h
  obtain ⟨c, hc, heq⟩ := DbTx.get!_eq_ok.1 hget
  obtain ⟨rfl, rfl⟩ := Prod.mk.inj heq
  rw [Tx.ite_eq_ok] at h
  rcases h with ⟨-, h⟩ | ⟨hversion, h⟩
  · exact (DbTx.fail_eq_ok.1 h).elim
  rw [Tx.ite_eq_ok] at h
  rcases h with ⟨-, h⟩ | ⟨hallowed, h⟩
  · exact (DbTx.fail_eq_ok.1 h).elim
  simp only [Tx.bind_eq_ok] at h
  obtain ⟨_, s₂, hclimb, updated, s₃, hset, h⟩ := h
  obtain ⟨rfl, hchecked⟩ := assertClimb_eq_ok hclimb
  simp only [setMode, Tx.bind_eq_ok, Tx.modify_eq_ok] at hset
  obtain ⟨_, s₄, hmod, hset⟩ := hset
  obtain ⟨-, rfl⟩ := Prod.mk.inj hmod
  obtain ⟨rfl, rfl⟩ := Prod.mk.inj (Tx.pure_eq_ok.1 hset)
  obtain ⟨rfl, rfl⟩ := Prod.mk.inj (Tx.pure_eq_ok.1 h)
  exact ⟨current, hc, not_not.1 hversion, not_not.1 hallowed, rfl, hchecked, rfl, rfl⟩

/-- Only a climb leaves `DISABLED`. -/
theorem changeModeTx_spec {input : ChangeModeInput} {env : TxEnv} {db db' : Database}
    {r : ExecutionControl × TransitionDirection} (h : changeModeTx input env db = .ok (r, db')) :
    db' = { db with control := some r.1 } ∧
      ∃ c, db.control = some c ∧ (c.mode = .known .disabled → r.2 = .up) := by
  obtain ⟨current, hchange⟩ := changeModeTx_cases h
  refine ⟨hchange.only, current, hchange.control, fun hm => ?_⟩
  have hallowed := hchange.allowed
  rw [hchange.direction]
  rw [hm] at hallowed ⊢
  exact transitionShape_of_disabled hallowed

/-! ## Risk policies -/

structure CreateRiskPolicyInput where
  currency : String
  maxStakePerBet : String
  maxDailyStake : String
  maxDailyLoss : String
  maxOpenExposure : String
  maxQuoteAgeMs : Int
  /-- Activate the new version at once: only while stopped. -/
  activate : Bool
  expectedVersion : Option Nat
  deriving DecidableEq

/-- The checks of a policy that is to be activated. -/
def assertActivable (control : Option ExecutionControl) (input : CreateRiskPolicyInput) :
    Except ServiceError Unit :=
  match control with
  | none => .error (.http "Contrôle d’exécution absent")
  | some c =>
    if c.mode ≠ .known .disabled then
      .error (.http "Une politique ne s’active que contrôle arrêté (DISABLED)")
    else if input.expectedVersion.any (· ≠ c.version) then
      .error (.http ("Version attendue " ++ toString (input.expectedVersion.getD 0) ++
        ", version actuelle " ++ toString c.version))
    else .ok ()

def policyRow (input : CreateRiskPolicyInput) (id : String) (version : Nat) : Option RiskPolicy := do
  return {
    id, version, currency := input.currency
    maxStakePerBet := ← toCents input.maxStakePerBet
    maxDailyStake := ← toCents input.maxDailyStake
    maxDailyLoss := ← toCents input.maxDailyLoss
    maxOpenExposure := ← toCents input.maxOpenExposure
    maxQuoteAgeMs := input.maxQuoteAgeMs }

/-- `createRiskPolicy`: a new immutable version, activated only while the control is stopped. -/
def createRiskPolicyTx (input : CreateRiskPolicyInput) (env : TxEnv) : DbTx RiskPolicy := do
  let control ← DbTx.read (·.control)
  liftRule (if input.activate then assertActivable control input else .ok ())
  let next ← DbTx.read fun db => (db.policies.rows.map (·.version)).foldl max 0 + 1
  let policy ← DbTx.get! (.other "Montant décimal invalide") (policyRow input env.uuid next)
  DbTx.write fun db => (db.policies.insert? policy).map fun t => { db with policies := t }
  modify fun db =>
    if input.activate then
      { db with control := control.map fun c =>
          { c with activeRiskPolicyId := some policy.id, version := c.version + 1 } }
    else db
  return policy

/-- What is checked of a policy that is activated. -/
theorem assertActivable_eq_ok {control : Option ExecutionControl} {input : CreateRiskPolicyInput}
    {u : Unit} (h : assertActivable control input = .ok u) :
    ∃ c, control = some c ∧ c.mode = .known .disabled ∧
      ∀ v, input.expectedVersion = some v → c.version = v := by
  cases control with
  | none => cases h
  | some c =>
    rw [assertActivable] at h
    by_cases hm : c.mode = .known .disabled
    · rw [if_neg (not_not.2 hm)] at h
      refine ⟨c, rfl, hm, fun v hv => ?_⟩
      rw [hv, Option.any_some] at h
      by_contra hne
      rw [if_pos (by simpa using Ne.symm hne)] at h
      cases h
    · rw [if_pos hm] at h
      cases h

/-- What a new policy does: it is added, and if asked for it becomes the active one of a control
that is stopped. -/
structure PolicyCreated (input : CreateRiskPolicyInput) (db : Database) (policy : RiskPolicy)
    (db' : Database) : Prop where
  inserted : db.policies.insert? policy = some db'.policies
  activable : input.activate = true → ∃ c, db.control = some c ∧ c.mode = .known .disabled ∧
    ∀ v, input.expectedVersion = some v → c.version = v
  control : db'.control = if input.activate then db.control.map fun c =>
    { c with activeRiskPolicyId := some policy.id, version := c.version + 1 } else db.control
  only : db' = { db with control := db'.control, policies := db'.policies }

theorem createRiskPolicyTx_cases {input : CreateRiskPolicyInput} {env : TxEnv} {db db' : Database}
    {policy : RiskPolicy} (h : createRiskPolicyTx input env db = .ok (policy, db')) :
    PolicyCreated input db policy db' := by
  simp only [createRiskPolicyTx, Tx.bind_eq_ok] at h
  obtain ⟨control, s, hread, _, s₁, hlift, next, s₂, hnext, row, s₃, hget, _, s₄, hw, _, s₅, hmod,
    h⟩ := h
  obtain ⟨rfl, rfl⟩ := Prod.mk.inj (DbTx.read_eq_ok.1 hread)
  obtain ⟨hactivable, rfl⟩ := liftRule_eq_ok.1 hlift
  obtain ⟨rfl, rfl⟩ := Prod.mk.inj (DbTx.read_eq_ok.1 hnext)
  obtain ⟨_, -, heq⟩ := DbTx.get!_eq_ok.1 hget
  obtain ⟨-, rfl⟩ := Prod.mk.inj heq
  obtain ⟨t, ht, rfl⟩ := Option.map_eq_some_iff.1 (DbTx.write_eq_ok.1 hw)
  obtain ⟨-, rfl⟩ := Prod.mk.inj (Tx.modify_eq_ok.1 hmod)
  obtain ⟨rfl, rfl⟩ := Prod.mk.inj (Tx.pure_eq_ok.1 h)
  by_cases hactivate : input.activate = true
  · rw [if_pos hactivate] at hactivable ⊢
    exact ⟨ht, fun _ => assertActivable_eq_ok hactivable, by rw [if_pos hactivate], rfl⟩
  · rw [if_neg hactivate]
    exact ⟨ht, fun hf => (hactivate hf).elim, by rw [if_neg hactivate], rfl⟩

/-- **A new policy changes neither the mode nor anything that is not about policies.** -/
theorem createRiskPolicyTx_spec {input : CreateRiskPolicyInput} {env : TxEnv} {db db' : Database}
    {policy : RiskPolicy} (h : createRiskPolicyTx input env db = .ok (policy, db')) :
    db' = { db with control := db'.control, policies := db'.policies } ∧
      db'.control.map (·.mode) = db.control.map (·.mode) := by
  have hcreated := createRiskPolicyTx_cases h
  refine ⟨hcreated.only, ?_⟩
  rw [hcreated.control]
  by_cases hactivate : input.activate = true
  · rw [if_pos hactivate, Option.map_map]
    rfl
  · rw [if_neg hactivate]

end ApiScore
