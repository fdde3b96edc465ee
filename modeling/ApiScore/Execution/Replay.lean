import ApiScore.Lib.Alone
import ApiScore.Execution.Runs

/-!
# Replaying a run

A run that shows something is given as the list of the scheduler's choices, with what the
surroundings answer to each action.  `Scene.replay` runs it, and where it succeeds it has reached the
configuration it returns.

* `Scene` — a setting whose conditions can be evaluated.
* `Scene.replay_reachable` — a replay stays within the runs of the setting.
-/

set_option autoImplicit false

namespace ApiScore

open Relational Concurrent

abbrev Run := Config Action Action.Result CallId World

/-- A setting whose conditions can be evaluated; what the operator holds for its account never
changes. -/
structure Scene where
  platform : Platform
  entry : Entry → Bool := fun _ => true
  allow : CallId → Action → Input → World → Bool := fun _ _ _ _ => true
  /-- May the standing of a key become this one? -/
  drift : World → String → Standing → Bool := fun _ _ _ => true

def Scene.setting (s : Scene) : Setting where
  platform := s.platform
  interlock _ := false
  entry e := s.entry e = true
  allow i a input w := s.allow i a input w = true
  drift w book funds := funds = w.funds ∧ (book = w.book ∨
    ∃ key standing, s.drift w key standing = true ∧ book = Function.update w.book key standing)

/-- One choice of the scheduler. -/
inductive Choice
  | start (i : CallId) (e : Entry)
  | act (i : CallId) (input : Input)
  | crash (i : CallId)
  /-- The rest of the program takes decisions, registers evidence and opens reconciliation runs. -/
  | outside (runs : Table runSchema) (decisions : Table decisionSchema)
      (evidence : Table evidenceSchema) (reconciliationRuns : Table reconciliationRunSchema)
  /-- Time passes. -/
  | wait (clock : Int)
  /-- The operator learns of an order, or changes what it knows of it. -/
  | operator (key : String) (standing : Standing)

def Scene.play (s : Scene) (c : Run) : Choice → Option Run
  | .start i e =>
    match c.procs i with
    | some _ => none
    | none =>
      if s.entry e then some ⟨c.state, Function.update c.procs i (some (e.program s.platform))⟩
      else none
  | .act i input =>
    match c.procs i with
    | none | some (.ret _) => none
    | some (.act a k) =>
      if input.env.now = c.state.clock ∧ input.env.interlockOpen = false ∧
          s.allow i a input c.state = true then
        (exec s.platform i a input c.state).map fun r =>
          ⟨r.2, Function.update c.procs i (some (k r.1))⟩
      else none
  | .crash i =>
    match c.procs i with
    | none => none
    | some _ => some ⟨c.state.drop i, Function.update c.procs i (some (.ret ()))⟩
  | .outside runs decisions evidence reconciliationRuns =>
    some ⟨{ c.state with db := { c.state.db with runs, decisions, evidence, reconciliationRuns } },
      c.procs⟩
  | .wait clock => if c.state.clock ≤ clock then some ⟨{ c.state with clock }, c.procs⟩ else none
  | .operator key standing =>
    if s.drift c.state key standing then
      some ⟨{ c.state with book := Function.update c.state.book key standing }, c.procs⟩
    else none

/-- Is it a move of a call, whatever the surroundings may do? -/
def Choice.ofCall : Choice → Bool
  | .start _ _ | .act _ _ | .crash _ => true
  | .outside _ _ _ _ | .wait _ | .operator _ _ => false

theorem Scene.play_among {s : Scene} {c c' : Run} {ch : Choice} (E : World → World → Prop)
    (h : s.play c ch = some c') (hch : ch.ofCall = true) :
    Sched (s.setting.system.among E) c c' := by
  cases ch with
  | start i e =>
    simp only [play] at h
    cases hp : c.procs i with
    | some p => simp [hp] at h
    | none =>
      simp only [hp] at h
      split_ifs at h with he
      rw [← Option.some.inj h]
      exact .start hp ⟨e, he, rfl⟩
  | act i input =>
    simp only [play] at h
    cases hp : c.procs i with
    | none => simp [hp] at h
    | some p =>
      cases p with
      | ret => simp [hp] at h
      | act a k =>
        simp only [hp] at h
        split_ifs at h with hok
        obtain ⟨⟨b, w'⟩, hexec, rfl⟩ := Option.map_eq_some_iff.1 h
        exact .run hp ⟨input, hok.1, hok.2.1, hok.2.2, hexec⟩
  | crash i =>
    simp only [play] at h
    cases hp : c.procs i with
    | none => simp [hp] at h
    | some p =>
      simp only [hp] at h
      rw [← Option.some.inj h]
      exact .crash hp
  | outside | wait | operator => cases hch

theorem Scene.play_sched {s : Scene} {c c' : Run} {ch : Choice} (h : s.play c ch = some c') :
    Sched s.setting.system c c' := by
  cases ch with
  | start | act | crash => exact play_among s.setting.Drift h rfl
  | outside runs decisions evidence reconciliationRuns =>
    simp only [play] at h
    rw [← Option.some.inj h]
    exact .env ⟨c.state.clock, c.state.book, c.state.funds,
      { c.state.db with runs, decisions, evidence, reconciliationRuns }, le_refl _,
      ⟨rfl, .inl rfl⟩, rfl, rfl⟩
  | wait clock =>
    simp only [play] at h
    split_ifs at h with hle
    rw [← Option.some.inj h]
    exact .env ⟨clock, c.state.book, c.state.funds, c.state.db, hle, ⟨rfl, .inl rfl⟩, rfl, rfl⟩
  | operator key standing =>
    simp only [play] at h
    split_ifs at h with hok
    rw [← Option.some.inj h]
    exact .env ⟨c.state.clock, _, c.state.funds, c.state.db, le_refl _,
      ⟨rfl, .inr ⟨key, standing, hok, rfl⟩⟩, rfl, rfl⟩

/-- Run the choices one after the other; none where one of them is not possible. -/
def Scene.replay (s : Scene) : List Choice → Run → Option Run
  | [], c => some c
  | ch :: chs, c => (s.play c ch).bind (s.replay chs)

/-- **A replay reaches what it returns.** -/
theorem Scene.replay_reachable {s : Scene} {chs : List Choice} {c₀ c c' : Run}
    (hc : Reachable s.setting.system c₀ c) (h : s.replay chs c = some c') :
    Reachable s.setting.system c₀ c' := by
  induction chs generalizing c with
  | nil => rwa [← Option.some.inj h]
  | cons ch chs ih =>
    obtain ⟨x, hx, hrest⟩ := Option.bind_eq_some_iff.1 h
    exact ih (.step hc (play_sched hx)) hrest

/-- **A replay of calls alone reaches what it returns, whatever the surroundings may do.** -/
theorem Scene.replay_among {s : Scene} {chs : List Choice} {c₀ c c' : Run}
    (E : World → World → Prop) (hc : Reachable (s.setting.system.among E) c₀ c)
    (hchs : ∀ ch ∈ chs, ch.ofCall = true) (h : s.replay chs c = some c') :
    Reachable (s.setting.system.among E) c₀ c' := by
  induction chs generalizing c with
  | nil => rwa [← Option.some.inj h]
  | cons ch chs ih =>
    obtain ⟨x, hx, hrest⟩ := Option.bind_eq_some_iff.1 h
    obtain ⟨hch, hchs⟩ := List.forall_mem_cons.1 hchs
    exact ih (.step hc (play_among E hx hch)) hchs hrest

/-- Run one program to its end with nobody else moving, on the given answers. -/
def Scene.alone {α : Type} (s : Scene) (i : CallId) :
    Prog Action Action.Result α → List Input → World → Option (α × World)
  | .ret x, [], w => some (x, w)
  | .act a k, input :: inputs, w =>
    if input.env.now = w.clock ∧ input.env.interlockOpen = false ∧ s.allow i a input w = true then
      (exec s.platform i a input w).bind fun r => s.alone i (k r.1) inputs r.2
    else none
  | _, _, _ => none

theorem Scene.alone_spec {α : Type} {s : Scene} {i : CallId} {p : Prog Action Action.Result α}
    {inputs : List Input} {w w' : World} {x : α} (h : s.alone i p inputs w = some (x, w')) :
    Alone s.setting.system i p w x w' := by
  induction p generalizing inputs w with
  | ret y =>
    cases inputs with
    | nil => exact Prod.mk.inj (Option.some.inj h)
    | cons => cases h
  | act a k ih =>
    cases inputs with
    | nil => cases h
    | cons input inputs =>
      rw [alone] at h
      split_ifs at h with hok
      obtain ⟨⟨b, w₁⟩, hexec, hrest⟩ := Option.bind_eq_some_iff.1 h
      exact ⟨b, w₁, ⟨input, hok.1, hok.2.1, hok.2.2, hexec⟩, ih b hrest⟩

/-- The draws of a transaction at an instant, with everything as it should be. -/
def TxEnv.at (now : Int) (uuid : String) : TxEnv where
  now := now
  dbNow := now * 1000
  uuid := uuid
  interlockOpen := false
  clockDrift := 0
  controlUnreadable := false

/-- The answers to an action, with everything as it should be: what is not given is not asked
for. -/
def Input.at (now : Int) (uuid : String) : Input where
  env := .at now uuid
  fault := none
  quote := none
  answer := .error "délai dépassé"
  lookups := .ok []
  balance := .error "délai dépassé"
  first := true

/-! ## A sample -/

namespace Sample

/-- A table of the given rows. -/
def table {α : Type} (S : Schema α) (rows : List α) : Table S := (Table.ofRows? S rows).getD .empty

def port : OperatorPort where
  kind := .sandbox
  operatorKey := "book"

/-- The digest of `SANDBOX|book|fixture-1|1X2|HOME|v1|0`. -/
def key : String := "ce3eab1565cf7595da20f27bc3d02eb27ee7f05e60ce997c826677231190e909"

/-- The digest of `receipt`. -/
def receiptHash : String := "6f32860910ca0fb2a20c7fda143666b09dbf8db5238195c90a586fb542ff0cad"

/-- One operator, in `SANDBOX`; the functions as they are on the texts of the samples. -/
def platform : Platform where
  ports mode := if mode = .sandbox then some port else none
  sha256Hex _ := key
  redactErrorMessage text := text
  numberText _ := "2"

def run : SimulationRun where
  id := "run"
  strategyVersion := "v1"

/-- A decision to stake 10.00 at 2.000. -/
def decision : BetDecision where
  id := "decision"
  simulationRunId := "run"
  signalKey := "signal"
  idempotencyKey := "order"
  fixtureId := "fixture-1"
  providerFixtureId := "1"
  teamId := some 10
  isHomeTeam := true
  marketType := "Buts match"
  marketKey := "1X2"
  selectionKey := "HOME"
  selection := "Home marque dans le match (+0.5)"
  ruleName := "shots-pressure"
  elapsedAtDecision := some 20
  minAcceptableOdd := 1900
  status := .eligible
  rejectionCode := none
  decidedAt := 0
  currency := "EUR"
  stake := some 1000
  decisionOddsSnapshotId := none
  decisionOdd := some 2000
  decisionProviderKey := none
  decisionBookmakerKey := none
  decisionObservedAt := some 0
  decisionReceivedAt := some 0
  executionDueAt := none
  executableOddsSnapshotId := none
  executableOdd := none
  executableObservedAt := none
  executableReceivedAt := none
  slippagePct := none
  executedAt := none
  outcome := none
  profit := none
  settledAt := none

def evidence (id : String) (gateKey : GateKey) : ExecutionGateEvidence where
  id := id
  controlId := "control"
  gateKey := gateKey
  reportHash := id
  verdict := .go
  approvedByUserId := "admin"

def policyInput : CreateRiskPolicyInput where
  currency := "EUR"
  maxStakePerBet := "20.00"
  maxDailyStake := "50.00"
  maxDailyLoss := "50.00"
  maxOpenExposure := "50.00"
  maxQuoteAgeMs := 60000
  activate := true
  expectedVersion := none

def quote : OperatorQuote where
  snapshotId := none
  oddValue := .num 2
  capturedAt := 0
  available := true

/-- The acceptance of 6.00 of the 10.00 asked for. -/
def acceptance : PlacementAcceptance where
  externalOrderId := some "ticket"
  acceptedOdd := some (.num 2)
  acceptedStake := some "6.00"
  acceptedAt := some 0
  receiptHash := some receiptHash

def scene : Scene where
  platform := platform

def funds (_ _ : String) : OperatorBalance := ⟨"EUR", "100.00", "0.00"⟩

/-- The configuration before anything has happened, at second 1. -/
def initial : Run := .init (.init (.migrated "control") 1000 funds)

/-- An account is opened with 100.00, and the execution is enabled in `SANDBOX`. -/
def enabled : List Choice :=
  [.start 0 (.openAccount ⟨.sandbox, "book", "EUR", "100.00"⟩), .act 0 (.at 1000 "account"),
    .start 1 (.createRiskPolicy policyInput), .act 1 (.at 1000 "policy"),
    .outside (table _ [run]) (table _ [decision])
      (table _ [evidence "e1" .g1, evidence "e2" .g2, evidence "e3" .g3]) .empty,
    .start 2 (.changeMode ⟨.simulation, 2, ["e1", "e2"]⟩ ""), .act 2 (.at 1000 ""),
    .start 3 (.changeMode ⟨.sandbox, 3, ["e3"]⟩ ""), .act 3 (.at 1000 "")]

/-- The tables after the migrations, with a decision and the evidence of the first gates. -/
def seed : Database :=
  { Database.migrated "control" with
    runs := table _ [run]
    decisions := table _ [decision]
    evidence := table _ [evidence "e1" .g1, evidence "e2" .g2, evidence "e3" .g3] }

/-- The configuration that starts from these tables. -/
def seeded : Run := .init (.init seed 1000 funds)

/-- An account is opened with 100.00, and the execution is enabled in `SANDBOX`, by calls alone. -/
def armed : List Choice :=
  [.start 0 (.openAccount ⟨.sandbox, "book", "EUR", "100.00"⟩), .act 0 (.at 1000 "account"),
    .start 1 (.createRiskPolicy policyInput), .act 1 (.at 1000 "policy"),
    .start 2 (.changeMode ⟨.simulation, 2, ["e1", "e2"]⟩ ""), .act 2 (.at 1000 ""),
    .start 3 (.changeMode ⟨.sandbox, 3, ["e3"]⟩ ""), .act 3 (.at 1000 "")]

/-- A decision to stake 10.00 is executed, and 6.00 are accepted. -/
def accepted : List Choice :=
  [.start 4 (.executeDecision "decision" "account"), .act 4 (.at 1000 "order"),
    .act 4 (.at 1000 ""), .act 4 { Input.at 1000 "" with quote := some quote },
    .act 4 (.at 1000 ""), .act 4 (.at 1000 ""), .act 4 (.at 1000 ""),
    .act 4 { Input.at 1000 "" with answer := .ok (.accepted acceptance) },
    .act 4 (.at 1000 ""), .act 4 (.at 1000 ""), .act 4 (.at 1000 "")]

end Sample

end ApiScore
