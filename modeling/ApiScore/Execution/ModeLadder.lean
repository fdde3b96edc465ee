import ApiScore.Execution.Control

/-!
# The mode ladder

`DISABLED`, `SIMULATION`, `SANDBOX`, `LIVE_CANARY`: the control climbs one rung at a time, and only
with the gates of the rung proved.  Each call is one transaction under the exclusive lock of the
control row, so a run is a sequence of calls.

* `ControlCall`, `ControlRun` — the calls and their runs from the migrated database.
* `ControlCall.run_cases` — what one call does to the control row.
* `mode_ladder` — what holds of every run.
-/

set_option autoImplicit false

namespace ApiScore

open Relational

/-! ## Calls and runs -/

structure RecordEvidenceInput where
  controlId : String
  gateKey : GateKey
  periodFrom : Int
  periodTo : Int
  reportHash : String
  verdict : GateVerdict
  deriving DecidableEq

/-- `record`: an immutable piece of evidence, approved by whoever records it. -/
def recordEvidenceTx (input : RecordEvidenceInput) (approvedByUserId : String) (env : TxEnv) :
    DbTx ExecutionGateEvidence :=
  if input.periodFrom ≥ input.periodTo then
    DbTx.fail (.http "periodFrom doit précéder periodTo")
  else do
    let evidence : ExecutionGateEvidence :=
      { id := env.uuid, controlId := input.controlId, gateKey := input.gateKey,
        reportHash := input.reportHash, verdict := input.verdict, approvedByUserId }
    DbTx.write fun db =>
      -- the evidence refers to a row of `execution_controls`
      if db.control.any fun c => c.id == input.controlId then
        (db.evidence.insert? evidence).map fun t => { db with evidence := t }
      else none
    return evidence

/-- The calls that write the control, its policies or its evidence. -/
inductive ControlCall
  | changeMode (input : ChangeModeInput) (reason : String)
  | stop (reason : String) (source : StopSource) (expectedVersion : Option Nat)
  | autoStop (request : AutoStopRequest)
  | createRiskPolicy (input : CreateRiskPolicyInput)
  | recordEvidence (input : RecordEvidenceInput) (approvedByUserId : String)

namespace ControlCall

/-- The transaction of a call: towards `DISABLED`, a change of mode is a stop. -/
def body (env : TxEnv) : ControlCall → DbTx Unit
  | .changeMode input reason =>
    if input.targetMode = .disabled then do let _ ← stopTx reason .manual env
    else do let _ ← changeModeTx input env
  | .stop reason source _ => do let _ ← stopTx reason source env
  | .autoStop request => do let _ ← stopTx request.reason .automatic env
  | .createRiskPolicy input => do let _ ← createRiskPolicyTx input env
  | .recordEvidence input approvedByUserId => do
    let _ ← recordEvidenceTx input approvedByUserId env

/-- The database after a call: as it was, when the call throws. -/
def run (call : ControlCall) (env : TxEnv) (db : Database) : Database :=
  (Tx.commit (call.body env) db).2

/-- The version a call was made for. -/
def expectedVersion : ControlCall → Option Nat
  | .changeMode input _ => some input.expectedVersion
  | .stop _ _ version => version
  | .createRiskPolicy input => input.expectedVersion
  | .autoStop _ | .recordEvidence _ _ => none

/-- Is the call a stop? -/
def stops : ControlCall → Bool
  | .changeMode input _ => input.targetMode = .disabled
  | .stop _ _ _ | .autoStop _ => true
  | .createRiskPolicy _ | .recordEvidence _ _ => false

end ControlCall

/-- A call of a run, with the database before and after it. -/
structure ControlStep where
  before : Database
  call : ControlCall
  env : TxEnv
  after : Database

/-- The mode of the control row. -/
def Database.mode? (db : Database) : Option StoredMode := db.control.map (·.mode)

/-- The runs from the migrated database, latest call first. -/
inductive ControlRun (controlId : String) : List ControlStep → Database → Prop
  | init : ControlRun controlId [] (.migrated controlId)
  | call {steps : List ControlStep} {db : Database} (h : ControlRun controlId steps db)
      (call : ControlCall) (env : TxEnv) :
      ControlRun controlId (⟨db, call, env, call.run env db⟩ :: steps) (call.run env db)

/-! ## One call -/

/-- What a call does to the control row, to the evidence it needs and to the policies. -/
inductive ControlCall.Outcome (call : ControlCall) (env : TxEnv) (db db' : Database) : Prop
  | same (hcontrol : db'.control = db.control)
      (hstops : call.stops = true → db.mode? = some (.known .disabled))
  | stopped {c c' : ExecutionControl} (hstops : call.stops = true) (hc : db.control = some c)
      (hc' : db'.control = some c') (hid : c'.id = c.id) (hversion : c'.version = c.version + 1)
      (hmode : c'.mode = .known .disabled) (hpolicy : c'.activeRiskPolicyId = c.activeRiskPolicyId)
  | created {c' : ExecutionControl} (hstops : call.stops = true) (hnone : db.control = none)
      (hc' : db'.control = some c')
  | moved {input : ChangeModeInput} {reason : String} {c : ExecutionControl}
      {r : ExecutionControl × TransitionDirection} (hcall : call = .changeMode input reason)
      (htarget : input.targetMode ≠ .disabled) (hchange : ModeChange input env db c r db')
  | activated {input : CreateRiskPolicyInput} {c : ExecutionControl} {policy : RiskPolicy}
      (hcall : call = .createRiskPolicy input) (hc : db.control = some c)
      (hmode : c.mode = .known .disabled)
      (hversion : ∀ v, input.expectedVersion = some v → c.version = v)
      (hc' : db'.control = some
        { c with activeRiskPolicyId := some policy.id, version := c.version + 1 })
      (hpolicy : policy ∈ db'.policies)

theorem stop_outcome {call : ControlCall} {reason : String} {source : StopSource} {env : TxEnv}
    {db : Database} (hstops : call.stops = true)
    (hbody : call.body env = (do let _ ← stopTx reason source env)) :
    call.Outcome env db (call.run env db) ∧
      ∃ control, call.run env db = { db with control } := by
  obtain ⟨⟨c', db'⟩, hstop⟩ := stopTx_commits reason source env db
  have hrun : call.run env db = db' := by
    rw [ControlCall.run, hbody, Tx.commit_of_ok (Tx.bind_eq_ok.2 ⟨c', db', hstop, rfl⟩)]
  obtain ⟨rfl, hmode, hstopped⟩ := stopTx_cases hstop
  rw [hrun]
  refine ⟨?_, _, rfl⟩
  cases hstopped with
  | created hnone => exact .created hstops hnone rfl
  | already hsome =>
    exact .same hsome.symm fun _ => by rw [Database.mode?, hsome, Option.map_some, hmode]
  | stopped hsome _ hid hversion hpolicy => exact .stopped hstops hsome rfl hid hversion hmode hpolicy

/-- **What one call does.** -/
theorem ControlCall.run_cases (call : ControlCall) (env : TxEnv) (db : Database) :
    call.Outcome env db (call.run env db) ∧ ∀ p ∈ db.policies, p ∈ (call.run env db).policies := by
  -- a call that throws leaves everything as it was
  have hfailed : ∀ {e : TxError}, call.body env db = .error e → call.stops = false →
      call.Outcome env db (call.run env db) ∧
        ∀ p ∈ db.policies, p ∈ (call.run env db).policies := by
    intro e he hstops
    have hrun : call.run env db = db := by
      rw [ControlCall.run, Tx.commit_of_error he]
    rw [hrun]
    refine ⟨.same rfl fun h => ?_, fun p hp => hp⟩
    rw [hstops] at h
    cases h
  have hstop : ∀ {reason : String} {source : StopSource}, call.stops = true →
      (call.body env = (do let _ ← stopTx reason source env)) →
      call.Outcome env db (call.run env db) ∧
        ∀ p ∈ db.policies, p ∈ (call.run env db).policies := by
    intro reason source hstops hbody
    obtain ⟨houtcome, control, hrun⟩ := @stop_outcome _ _ _ _ db hstops hbody
    refine ⟨houtcome, fun p hp => ?_⟩
    rw [hrun]
    exact hp
  cases call with
  | stop reason source version => exact hstop rfl rfl
  | autoStop request => exact hstop rfl rfl
  | changeMode input reason =>
    by_cases htarget : input.targetMode = .disabled
    · exact hstop (by simp [ControlCall.stops, htarget]) (by rw [ControlCall.body, if_pos htarget])
    · have hbody : ControlCall.body env (.changeMode input reason)
          = (do let _ ← changeModeTx input env) := by rw [ControlCall.body, if_neg htarget]
      cases hb : ControlCall.body env (.changeMode input reason) db with
      | error e => exact hfailed hb (by simp [ControlCall.stops, htarget])
      | ok r =>
        obtain ⟨u, db'⟩ := r
        have hrun : ControlCall.run (.changeMode input reason) env db = db' := by
          rw [ControlCall.run, Tx.commit_of_ok hb]
        rw [hbody, Tx.bind_eq_ok] at hb
        obtain ⟨r, s, hchange, hpure⟩ := hb
        obtain ⟨-, rfl⟩ := Prod.mk.inj (Tx.pure_eq_ok.1 hpure)
        obtain ⟨c, hc⟩ := changeModeTx_cases hchange
        rw [hrun]
        refine ⟨.moved rfl htarget hc, fun p hp => ?_⟩
        rw [hc.only]
        exact hp
  | createRiskPolicy input =>
    cases hb : ControlCall.body env (.createRiskPolicy input) db with
    | error e => exact hfailed hb rfl
    | ok r =>
      obtain ⟨u, db'⟩ := r
      have hrun : ControlCall.run (.createRiskPolicy input) env db = db' := by
        rw [ControlCall.run, Tx.commit_of_ok hb]
      rw [ControlCall.body, Tx.bind_eq_ok] at hb
      obtain ⟨policy, s, hcreate, hpure⟩ := hb
      obtain ⟨-, rfl⟩ := Prod.mk.inj (Tx.pure_eq_ok.1 hpure)
      have hcreated := createRiskPolicyTx_cases hcreate
      rw [hrun]
      refine ⟨?_, fun p hp => (Table.mem_insert? hcreated.inserted).2 (.inl hp)⟩
      by_cases hactivate : input.activate = true
      · obtain ⟨c, hc, hmode, hversion⟩ := hcreated.activable hactivate
        refine .activated rfl hc hmode hversion ?_ ((Table.mem_insert? hcreated.inserted).2 (.inr rfl))
        rw [hcreated.control, if_pos hactivate, hc, Option.map_some]
      · exact .same (by rw [hcreated.control, if_neg hactivate]) fun h => by cases h
  | recordEvidence input approvedByUserId =>
    cases hb : ControlCall.body env (.recordEvidence input approvedByUserId) db with
    | error e => exact hfailed hb rfl
    | ok r =>
      obtain ⟨u, db'⟩ := r
      have hrun : ControlCall.run (.recordEvidence input approvedByUserId) env db = db' := by
        rw [ControlCall.run, Tx.commit_of_ok hb]
      rw [ControlCall.body, Tx.bind_eq_ok] at hb
      obtain ⟨evidence, s, hrecord, hpure⟩ := hb
      obtain ⟨-, rfl⟩ := Prod.mk.inj (Tx.pure_eq_ok.1 hpure)
      have honly : db' = { db with evidence := db'.evidence } := by
        rw [recordEvidenceTx, Tx.ite_eq_ok] at hrecord
        rcases hrecord with ⟨-, h⟩ | ⟨-, h⟩
        · exact (DbTx.fail_eq_ok.1 h).elim
        · obtain ⟨_, s, hw, hpure⟩ := Tx.bind_eq_ok.1 h
          obtain ⟨-, rfl⟩ := Prod.mk.inj (Tx.pure_eq_ok.1 hpure)
          have hwrite := DbTx.write_eq_ok.1 hw
          split_ifs at hwrite
          obtain ⟨t, -, rfl⟩ := Option.map_eq_some_iff.1 hwrite
          rfl
      rw [hrun]
      refine ⟨.same (by rw [honly]) fun h => (by cases h), fun p hp => ?_⟩
      rw [honly]
      exact hp

/-! ## The ladder -/

/-- The step climbed to `rung` from the rung below: the call gave approved `GO` evidence of this
control for each of its gates. -/
structure ClimbedTo (rung : ExecutionMode) (step : ControlStep) : Prop where
  below : ∃ source : ExecutionMode, step.before.mode? = some (.known source) ∧
    source.rank + 1 = rung.rank
  above : step.after.mode? = some (.known rung)
  gates : ∃ c input reason, step.before.control = some c ∧ step.call = .changeMode input reason ∧
    ∀ gate ∈ gatesRequiredToEnter rung, ∃ e ∈ step.before.evidence,
      e.id ∈ input.gateEvidenceIds ∧ e.gateKey = gate ∧ e.controlId = c.id ∧ e.verdict = .go ∧
        e.approvedByUserId ≠ ""
  interlock : rung = .liveCanary → step.env.interlockOpen = true

/-- The rung was climbed, and the mode has not been `DISABLED` since. -/
def ClimbedSince (rung : ExecutionMode) (steps : List ControlStep) : Prop :=
  ∃ newer step older, steps = newer ++ step :: older ∧ ClimbedTo rung step ∧
    ∀ s ∈ newer, s.after.mode? ≠ some (.known .disabled)

theorem ClimbedSince.cons {rung : ExecutionMode} {steps : List ControlStep} {step : ControlStep}
    (h : ClimbedSince rung steps) (hs : step.after.mode? ≠ some (.known .disabled)) :
    ClimbedSince rung (step :: steps) := by
  obtain ⟨newer, climb, older, rfl, hclimb, hnewer⟩ := h
  refine ⟨step :: newer, climb, older, rfl, hclimb, fun s hmem => ?_⟩
  rcases List.mem_cons.1 hmem with rfl | hmem
  · exact hs
  · exact hnewer s hmem

/-- The control and its climbs, in a state of a run. -/
structure Ladder (steps : List ControlStep) (db : Database) (c : ExecutionControl)
    (mode : ExecutionMode) : Prop where
  control : db.control = some c
  known : c.mode = .known mode
  policy : mode ≠ .disabled → c.activeRiskPolicyId.isSome = true
  active : ∀ id, c.activeRiskPolicyId = some id → ∃ p ∈ db.policies, p.id = id
  climbed : ∀ rung : ExecutionMode, 0 < rung.rank → rung.rank ≤ mode.rank → ClimbedSince rung steps

/-- What a single call may do to the control row. -/
structure ControlStep.Lawful (step : ControlStep) : Prop where
  /-- Every change of the row is one version. -/
  version : ∃ c c', step.before.control = some c ∧ step.after.control = some c' ∧
    (c' = c ∨ c'.version = c.version + 1)
  /-- Whatever raises the mode climbs one rung. -/
  rise : ∀ source target : ExecutionMode, step.before.mode? = some (.known source) →
    step.after.mode? = some (.known target) → source.rank < target.rank → ClimbedTo target step
  /-- A call for another version leaves the row alone, unless it is a stop. -/
  stale : ∀ v c, step.call.expectedVersion = some v → step.before.control = some c →
    c.version ≠ v → step.call.stops = false → step.after.control = step.before.control
  stop : step.call.stops = true → step.after.mode? = some (.known .disabled)

theorem mode?_of_control {db : Database} {c : ExecutionControl} {mode : ExecutionMode}
    (hc : db.control = some c) (hm : c.mode = .known mode) : db.mode? = some (.known mode) := by
  rw [Database.mode?, hc, Option.map_some, hm]

theorem rank_injective {a b : ExecutionMode} (h : a.rank = b.rank) : a = b := by
  cases a <;> cases b <;> first | rfl | cases h

theorem rank_pos {mode : ExecutionMode} : 0 < mode.rank ↔ mode ≠ .disabled := by
  cases mode <;> decide

/-- The two ways a change of mode that is no stop can go. -/
theorem transitionShape_cases {source target : ExecutionMode} (htarget : target ≠ .disabled)
    (h : (transitionShape source target).allowed = true) :
    (transitionShape source target).direction = .up ∧ source.rank + 1 = target.rank ∨
      (transitionShape source target).direction = .down ∧ target.rank + 1 = source.rank := by
  cases source <;> cases target <;> simp_all [transitionShape, ExecutionMode.rank]

section

variable {steps : List ControlStep} {db : Database} {c : ExecutionControl} {mode : ExecutionMode}

/-- A stopped control has nothing to have climbed. -/
theorem Ladder.of_disabled {db' : Database} {c' : ExecutionControl} (hc : db'.control = some c')
    (hmode : c'.mode = .known .disabled)
    (hactive : ∀ id, c'.activeRiskPolicyId = some id → ∃ p ∈ db'.policies, p.id = id)
    (steps : List ControlStep) : Ladder steps db' c' .disabled where
  control := hc
  known := hmode
  policy h := (h rfl).elim
  active := hactive
  climbed _ hpos hle := (not_lt.2 hle hpos).elim

/-- **One call keeps the ladder, and is lawful.** -/
theorem Ladder.call (h : Ladder steps db c mode) (call : ControlCall) (env : TxEnv) :
    (∃ c' mode', Ladder (⟨db, call, env, call.run env db⟩ :: steps) (call.run env db) c' mode') ∧
      ControlStep.Lawful ⟨db, call, env, call.run env db⟩ := by
  obtain ⟨houtcome, hpolicies⟩ := call.run_cases env db
  have hbefore := mode?_of_control h.control h.known
  have hkept : ∀ id, c.activeRiskPolicyId = some id → ∃ p ∈ (call.run env db).policies, p.id = id := by
    intro id hid
    obtain ⟨p, hp, hpid⟩ := h.active id hid
    exact ⟨p, hpolicies p hp, hpid⟩
  generalize call.run env db = db' at houtcome hpolicies hkept ⊢
  cases houtcome with
  | same hcontrol hstops =>
    have hc' : db'.control = some c := hcontrol.trans h.control
    have hafter := mode?_of_control hc' h.known
    refine ⟨⟨c, mode, hc', h.known, h.policy, hkept, fun rung hpos hle => ?_⟩, ?_⟩
    · refine (h.climbed rung hpos hle).cons fun hdisabled => ?_
      -- a rung above `DISABLED` has been reached
      have hm : mode = .disabled := by
        simpa using Option.some.inj (hafter.symm.trans hdisabled)
      rw [hm] at hle
      exact not_lt.2 hle hpos
    · refine ⟨⟨c, c, h.control, hc', .inl rfl⟩, fun source target hs ht hlt => ?_,
        fun _ _ _ _ _ _ => hcontrol, fun hstop => ?_⟩
      · have hst : source = target := by
          have heq := hs.symm.trans (hbefore.trans (hafter.symm.trans ht))
          simpa using Option.some.inj heq
        rw [hst] at hlt
        exact (lt_irrefl _ hlt).elim
      · rw [← hstops hstop, Database.mode?, Database.mode?, hcontrol]
  | @stopped x c' hstops hx hc' hid hversion hmode hpolicy =>
    rw [h.control, Option.some.injEq] at hx
    subst hx
    have hafter := mode?_of_control hc' hmode
    refine ⟨⟨c', .disabled, .of_disabled hc' hmode (fun id hid => hkept id ?_) _⟩, ?_⟩
    · rw [← hpolicy, hid]
    · refine ⟨⟨c, c', h.control, hc', .inr hversion⟩, fun source target _ ht hlt => ?_,
        fun _ _ _ _ _ hno => ?_, fun _ => hafter⟩
      · have htarget : target = .disabled := by
          simpa using Option.some.inj (ht.symm.trans hafter)
        rw [htarget] at hlt
        cases source <;> simp [ExecutionMode.rank] at hlt
      · rw [hstops] at hno
        cases hno
  | created hstops hnone =>
    rw [h.control] at hnone
    cases hnone
  | @activated input x policy hcall hx hmode hversion hc' hpolicy =>
    rw [h.control, Option.some.injEq] at hx
    subst hx
    subst hcall
    have hafter := mode?_of_control hc' hmode
    refine ⟨⟨_, .disabled, .of_disabled hc' hmode (fun id hid => ⟨policy, hpolicy, ?_⟩) _⟩, ?_⟩
    · exact Option.some.inj hid
    · refine ⟨⟨c, _, h.control, hc', .inr rfl⟩, fun source target _ ht hlt => ?_,
        fun v y hv hy hne _ => ?_, fun hstop => by cases hstop⟩
      · have htarget : target = .disabled := by
          simpa using Option.some.inj (ht.symm.trans hafter)
        rw [htarget] at hlt
        cases source <;> simp [ExecutionMode.rank] at hlt
      · rw [h.control, Option.some.injEq] at hy
        subst hy
        exact (hne (hversion v hv)).elim
  | @moved input reason x r hcall htarget hchange =>
    have hx := hchange.control
    rw [h.control, Option.some.injEq] at hx
    subst hx
    subst hcall
    have hc' : db'.control = some r.1 := by rw [hchange.only]
    have hmode : r.1.mode = .known input.targetMode := by rw [hchange.updated]
    have hafter := mode?_of_control hc' hmode
    have hsource : c.mode.executionMode?.getD .disabled = mode := by
      rw [h.known]
      rfl
    have hallowed := hchange.allowed
    have hdirection := hchange.direction
    have hclimb := hchange.climb
    rw [hsource] at hallowed hdirection hclimb
    have hopen : db'.mode? ≠ some (.known .disabled) := by
      intro heq
      exact htarget (by simpa using Option.some.inj (hafter.symm.trans heq))
    -- upwards, this call has climbed to its target
    have hup : r.2 = .up → ClimbedTo input.targetMode ⟨db, .changeMode input reason, env, db'⟩ := by
      intro hr
      rcases transitionShape_cases htarget hallowed with ⟨hdir, hrank⟩ | ⟨hdir, -⟩
      · refine ⟨⟨mode, hbefore, hrank⟩, hafter, ⟨c, input, reason, h.control, rfl, ?_⟩,
          (hclimb hr).interlock⟩
        have hgates := (hclimb hr).evidence
        rwa [requiredGates, if_pos hdir] at hgates
      · rw [hdirection, hdir] at hr
        cases hr
    refine ⟨⟨r.1, input.targetMode, hc', hmode, fun _ => ?_, fun id hid => ?_,
      fun rung hpos hle => ?_⟩, ?_⟩
    · rw [hchange.updated]
      rcases transitionShape_cases htarget hallowed with ⟨hdir, -⟩ | ⟨-, hrank⟩
      · exact (hclimb (hdirection.trans hdir)).policy
      · refine h.policy fun hm => ?_
        have hpos := rank_pos.2 htarget
        rw [hm, show ExecutionMode.rank .disabled = 0 from rfl] at hrank
        omega
    · rw [hchange.updated] at hid
      exact hkept id hid
    · rcases transitionShape_cases htarget hallowed with ⟨hdir, hrank⟩ | ⟨-, hrank⟩
      · by_cases hle' : rung.rank ≤ mode.rank
        · exact (h.climbed rung hpos hle').cons hopen
        · have hrung : rung = input.targetMode := rank_injective (by omega)
          exact ⟨[], _, steps, rfl, hrung ▸ hup (hdirection.trans hdir),
            fun s hs => (List.not_mem_nil hs).elim⟩
      · exact (h.climbed rung hpos (by omega)).cons hopen
    · refine ⟨⟨c, r.1, h.control, hc', .inr (by rw [hchange.updated])⟩,
        fun source target hs ht hlt => ?_, fun v y hv hy hne _ => ?_, fun hstop => ?_⟩
      · have hs' : source = mode := by simpa using Option.some.inj (hs.symm.trans hbefore)
        have ht' : target = input.targetMode := by simpa using Option.some.inj (ht.symm.trans hafter)
        subst hs'
        subst ht'
        refine hup ?_
        rcases transitionShape_cases htarget hallowed with ⟨hdir, -⟩ | ⟨-, hrank⟩
        · exact hdirection.trans hdir
        · omega
      · rw [h.control, Option.some.injEq] at hy
        subst hy
        exact (hne (hchange.version.trans (Option.some.inj hv))).elim
      · exact (htarget (by simpa [ControlCall.stops] using hstop)).elim

/-- **The ladder, over every run.**  Whenever the mode is not `DISABLED` an active risk policy is set,
and every rung up to it was climbed since the last time the mode was `DISABLED`, each from the one
below, with the evidence of its gates and, for `LIVE_CANARY`, the interlock open.  Each call changes
the row by one version at most, and not at all when it was made for another version, except that a
stop always stops. -/
theorem mode_ladder {controlId : String} (h : ControlRun controlId steps db) :
    (∃ c mode, db.control = some c ∧ c.mode = .known mode ∧
      (mode ≠ .disabled → (∃ p ∈ db.policies, c.activeRiskPolicyId = some p.id) ∧
        ∀ rung : ExecutionMode, 0 < rung.rank → rung.rank ≤ mode.rank → ClimbedSince rung steps)) ∧
    ∀ step ∈ steps, step.Lawful := by
  have hrun : (∃ c mode, Ladder steps db c mode) ∧ ∀ step ∈ steps, step.Lawful := by
    induction h with
    | init =>
      exact ⟨⟨_, .disabled, .of_disabled rfl rfl (fun id hid => by cases hid) []⟩,
        fun step hstep => (List.not_mem_nil hstep).elim⟩
    | call _ call env ih =>
      obtain ⟨⟨c, mode, hladder⟩, hsteps⟩ := ih
      obtain ⟨hnext, hlawful⟩ := hladder.call call env
      exact ⟨hnext, List.forall_mem_cons.2 ⟨hlawful, hsteps⟩⟩
  obtain ⟨⟨c, mode, hladder⟩, hsteps⟩ := hrun
  refine ⟨⟨c, mode, hladder.control, hladder.known, fun hm => ⟨?_, hladder.climbed⟩⟩, hsteps⟩
  obtain ⟨id, hid⟩ := Option.isSome_iff_exists.1 (hladder.policy hm)
  obtain ⟨p, hp, rfl⟩ := hladder.active id hid
  exact ⟨p, hp, hid⟩

end

/-- The run that makes these calls, first call first. -/
def runCalls (controlId : String) (calls : List (ControlCall × TxEnv)) :
    List ControlStep × Database :=
  calls.foldl (fun s call => (⟨s.2, call.1, call.2, call.1.run call.2 s.2⟩ :: s.1,
    call.1.run call.2 s.2)) ([], .migrated controlId)

theorem runCalls_run (controlId : String) (calls : List (ControlCall × TxEnv)) :
    ControlRun controlId (runCalls controlId calls).1 (runCalls controlId calls).2 := by
  rw [runCalls]
  generalize hs : (([], .migrated controlId) : List ControlStep × Database) = s
  have hrun : ControlRun controlId s.1 s.2 := hs ▸ .init
  clear hs
  induction calls generalizing s with
  | nil => exact hrun
  | cons call calls ih => exact ih _ (.call hrun call.1 call.2)

/-- A policy, the evidence of `G1` and `G2`, and a climb to `SIMULATION`. -/
def toSimulation : List (ControlCall × TxEnv) :=
  [(.createRiskPolicy ⟨"EUR", "20.00", "50.00", "50.00", "50.00", 60000, true, some 1⟩,
      ⟨0, 0, "policy", false, 0, false⟩),
    (.recordEvidence ⟨"control", .g1, 0, 1, "report-1", .go⟩ "admin", ⟨0, 0, "e1", false, 0, false⟩),
    (.recordEvidence ⟨"control", .g2, 0, 1, "report-2", .go⟩ "admin", ⟨0, 0, "e2", false, 0, false⟩),
    (.changeMode ⟨.simulation, 2, ["e1", "e2"]⟩ "", ⟨0, 0, "", false, 0, false⟩)]

theorem mode_ladder_simulation :
    (runCalls "control" toSimulation).2.mode? = some (.known .simulation) ∧
    (∃ c mode, (runCalls "control" toSimulation).2.control = some c ∧ c.mode = .known mode ∧
      (mode ≠ .disabled → (∃ p ∈ (runCalls "control" toSimulation).2.policies,
          c.activeRiskPolicyId = some p.id) ∧
        ∀ rung : ExecutionMode, 0 < rung.rank → rung.rank ≤ mode.rank →
          ClimbedSince rung (runCalls "control" toSimulation).1)) ∧
    ∀ step ∈ (runCalls "control" toSimulation).1, step.Lawful :=
  ⟨by decide +kernel, mode_ladder (runCalls_run "control" toSimulation)⟩

end ApiScore
