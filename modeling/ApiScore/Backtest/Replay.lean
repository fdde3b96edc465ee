import ApiScore.Backtest.CanonicalJson
import ApiScore.Execution.Entities
import ApiScore.Lib.Grouping
import ApiScore.Rules.LiveSignals

/-!
# The replay

`BacktestEngineService.replayDetailed`: the snapshots of a window are replayed fixture by fixture.  At
each instant at which snapshots of a fixture were taken, the rules are called on what is known by
then, and a bet is placed on what they suggest where an executable quote is found at that instant
and again after the latency.

* `TickState`, `ticks` — what is known of a fixture, and when the rules are called.
* `attempt?`, `evaluateTick`, `replayFixture` — what comes of each suggestion.
* `replayRows` — the replay of the rows that its queries return.
* `replayDetailed` — with the queries.
-/

set_option autoImplicit false

namespace ApiScore

open Ranked Grouping Relational

/-! ## The tables -/

/-- The rows of `fixture_stats_snapshots` name themselves and their fixture by generated
identifiers. -/
def snapshotsSchema : Schema FixtureStatsSnapshot where
  clash a b := a.id == b.id
  symm _ _ := BEq.comm
  check s := isGeneratedId s.id && isGeneratedId s.fixtureId

def fixturesSchema : Schema Fixture where
  clash a b := a.id == b.id
  symm _ _ := BEq.comm
  check f := isGeneratedId f.id

/-- A row of `fixture_events` whose type is `Goal`, as the replay selects it. -/
structure GoalEvent where
  fixtureId : String
  teamId : Option Int
  minute : Option Int
  deriving DecidableEq

/-! ## What is known of a fixture -/

/-- What the replay of a fixture remembers from one snapshot to the next. -/
structure TickState where
  tickAt : Option Int
  tickElapsed : Option Int
  shotsByTeam : Int → Option JsNumber
  onTargetByTeam : Int → Option JsNumber
  pressureByTeam : Int → Option JsNumber
  htShotsByTeam : Int → Option JsNumber
  htOnTargetByTeam : Int → Option JsNumber
  htPressureByTeam : Int → Option JsNumber

def TickState.start : TickState :=
  ⟨none, none, fun _ => none, fun _ => none, fun _ => none, fun _ => none, fun _ => none,
    fun _ => none⟩

/-- The value of a team, where there is one. -/
def putTeam (values : Int → Option JsNumber) (teamId : Int) (value : Option JsNumber) :
    Int → Option JsNumber :=
  match value with
  | none => values
  | some x => Function.update values teamId (some x)

/-- `(snap.elapsed ?? 99) <= 45`. -/
def FixtureStatsSnapshot.inFirstHalf (snap : FixtureStatsSnapshot) : Bool :=
  decide (snap.elapsed.getD 99 ≤ 45)

section Replay

variable (number : JsValue → JsNumber)

/-- One snapshot. -/
def TickState.feed (st : TickState) (snap : FixtureStatsSnapshot) : TickState :=
  let st := { st with tickAt := some snap.snapshotAt, tickElapsed := snap.elapsed.or st.tickElapsed }
  match snap.team? with
  | none => st
  | some teamId =>
    let shots := extractTotalShots number snap.stats
    let onTarget := some (getStatValue number snap.stats ["On Target", "Shots on Goal"])
    let pressure := some (computePressureIndex number snap.stats)
    let ht (values : Int → Option JsNumber) (value : Option JsNumber) :=
      if snap.inFirstHalf then putTeam values teamId value else values
    { st with
      shotsByTeam := putTeam st.shotsByTeam teamId shots
      onTargetByTeam := putTeam st.onTargetByTeam teamId onTarget
      pressureByTeam := putTeam st.pressureByTeam teamId pressure
      htShotsByTeam := ht st.htShotsByTeam shots
      htOnTargetByTeam := ht st.htOnTargetByTeam onTarget
      htPressureByTeam := ht st.htPressureByTeam pressure }

/-- The states in which the rules are called: where the next snapshot is of another instant, and
after the last one. -/
def ticksFrom (st : TickState) : List FixtureStatsSnapshot → List TickState
  | [] => [st]
  | snap :: snaps =>
    if st.tickAt.all (· == snap.snapshotAt) then ticksFrom (st.feed number snap) snaps
    else st :: ticksFrom (st.feed number snap) snaps

def ticks (snaps : List FixtureStatsSnapshot) : List TickState := ticksFrom number .start snaps

/-- `scoreAt`, of one team: its goals up to the minute. -/
def goalsAt (goals : List GoalEvent) (elapsed : Int) (counts : Option Int → Bool) : Int :=
  (goals.countP fun g => g.minute.any (· ≤ elapsed) && counts g.teamId : Nat)

/-- What the rules are given of a fixture with the teams `homeId` and `awayId`. -/
def TickState.input (st : TickState) (fixture : Fixture) (goals : List GoalEvent)
    (homeId awayId elapsed : Int) : RuleEvaluationInput :=
  let signals (teamId : Int) (teamName : Option String) : TeamInputSignals :=
    { teamId, teamName := teamName.getD "Équipe"
      totalShots := st.shotsByTeam teamId
      shotsOnTarget := st.onTargetByTeam teamId
      pressureIndex := st.pressureByTeam teamId }
  let ht (values : Int → Option JsNumber) : SideNumbers :=
    ⟨(values homeId).getD (.num 0), (values awayId).getD (.num 0)⟩
  { elapsed
    statusShort := "LIVE"
    home := signals homeId fixture.homeTeamName
    away := signals awayId fixture.awayTeamName
    htShots := some (ht st.htShotsByTeam)
    htOnTarget := some (ht st.htOnTargetByTeam)
    htPressure := some (ht st.htPressureByTeam)
    scoreHome := some (goalsAt goals elapsed (· == some homeId))
    scoreAway := some (goalsAt goals elapsed fun id => id != some homeId && id == some awayId) }

/-! ## What comes of a suggestion -/

/-- How far a signal got. -/
inductive SignalStage
  | noQuoteAtDecision | belowMinOddAtDecision | noQuoteAtExecution | belowMinOddAtExecution | placed
  deriving DecidableEq, Repr

/-- `STAGE_RANK`. -/
def SignalStage.rank : SignalStage → Nat
  | .noQuoteAtDecision => 0
  | .belowMinOddAtDecision => 1
  | .noQuoteAtExecution => 2
  | .belowMinOddAtExecution => 3
  | .placed => 4

structure DecidedBet where
  fixtureId : String
  providerFixtureId : String
  marketType : String
  selection : String
  ruleName : String
  teamId : Int
  isHomeTeam : Bool
  decisionAt : Int
  elapsedAtDecision : Int
  /-- In thousandths, as the column of the odds is. -/
  oddAtDecision : Int
  /-- In thousandths. -/
  quotedOdd : Int
  oddSource : String
  edgePct : ℚ
  confidenceScore : ℚ
  outcome : DecisionOutcome
  deriving DecidableEq

/-- One call of `recordSignal`, with the bet that was placed, if one was. -/
structure SignalAttempt where
  key : String
  fixtureId : String
  marketType : String
  tickAt : Int
  stage : SignalStage
  bet : Option DecidedBet
  deriving DecidableEq

/-- The quotes at the decision and at the execution, as far as there are any. -/
def tryQuotes (quoteAt : QuoteSelector) (target : ExecutableQuoteTarget) (tickAt latencyMs : Int)
    (minAcceptableOdd : ℚ) : SignalStage × Option (ExecutableQuote × ExecutableQuote) :=
  match quoteAt target tickAt with
  | none => (.noQuoteAtDecision, none)
  | some decisionQuote =>
    if oddValue decisionQuote.oddValue < minAcceptableOdd then (.belowMinOddAtDecision, none)
    else
      match quoteAt { target with
          providerKey := some decisionQuote.providerKey
          bookmakerKey := some decisionQuote.bookmakerKey } (tickAt + latencyMs) with
      | none => (.noQuoteAtExecution, none)
      | some executionQuote =>
        if oddValue executionQuote.oddValue < minAcceptableOdd then (.belowMinOddAtExecution, none)
        else (.placed, some (decisionQuote, executionQuote))

variable (strategy : BacktestStrategy)

/-- The strategy plays the market, and the suggestion is good enough for it. -/
def BacktestStrategy.plays (m : RuleMatch) : Bool :=
  strategy.markets.contains m.marketType && decide (strategy.minEdgePct ≤ m.edgePct) &&
    decide (strategy.minConfidence ≤ m.confidenceScore)

/-- The target of a suggestion, at the bookmaker of the strategy if it names one. -/
def BacktestStrategy.target? (fixture : Fixture) (m : RuleMatch) : Option ExecutableQuoteTarget :=
  (quoteTargetForRuleMarket fixture.providerFixtureId m.marketType m.isHomeTeam).map fun target =>
    match strategy.odds.bookmakerKey.filter (· ≠ "") with
    | some bookmakerKey => { target with bookmakerKey := some bookmakerKey }
    | none => target

/-- The keys that a bet has been placed on. -/
def placedKeys (log : List SignalAttempt) : List String :=
  (log.filter fun a => a.stage == .placed).map (·.key)

/-- What comes of a suggestion of the rules; `placed` are the keys already bet on. -/
def attempt? (quoteAt : QuoteSelector) (fixture : Fixture) (tickAt elapsed : Int)
    (placed : List String) (m : RuleMatch) : Option SignalAttempt :=
  let key := fixture.id ++ "|" ++ toString m.teamId ++ "|" ++ m.marketType
  if strategy.plays m = true ∧ key ∉ placed then
    (strategy.target? fixture m).map fun target =>
      let (stage, quotes) :=
        tryQuotes quoteAt target tickAt strategy.odds.executionLatencyMs m.minAcceptableOdd
      { key, fixtureId := fixture.id, marketType := m.marketType, tickAt, stage
        bet := quotes.map fun (decisionQuote, executionQuote) =>
          { fixtureId := fixture.id
            providerFixtureId := fixture.providerFixtureId
            marketType := m.marketType
            selection := m.selection
            ruleName := m.ruleName
            teamId := m.teamId
            isHomeTeam := m.isHomeTeam
            decisionAt := tickAt
            elapsedAtDecision := elapsed
            oddAtDecision := executionQuote.oddValue
            quotedOdd := decisionQuote.oddValue
            oddSource := "ODDS_SNAPSHOT"
            edgePct := m.edgePct
            confidenceScore := m.confidenceScore
            outcome := (resolveSettlement ⟨m.marketType, m.isHomeTeam⟩
              (finalStateOf fixture)).getD .noResult } }
  else none

variable (numberText : JsNumber → String)

/-- What the rules suggest at a tick, where the minute is known. -/
def TickState.suggestions (st : TickState) (fixture : Fixture) (goals : List GoalEvent)
    (homeId awayId : Int) : List (Int × Int × RuleMatch) :=
  match st.tickAt, st.tickElapsed with
  | some tickAt, some elapsed =>
    (evaluateRules numberText (st.input fixture goals homeId awayId elapsed)
      strategy.entryRules).map fun m => (tickAt, elapsed, m)
  | _, _ => []

/-- `evaluateTick`: the suggestions of a tick, one after the other. -/
def evaluateTick (quoteAt : QuoteSelector) (fixture : Fixture) (goals : List GoalEvent)
    (homeId awayId : Int) (log : List SignalAttempt) (st : TickState) : List SignalAttempt :=
  (st.suggestions strategy numberText fixture goals homeId awayId).foldl
    (fun log (tickAt, elapsed, m) => log ++
      (attempt? strategy quoteAt fixture tickAt elapsed (placedKeys log) m).toList) log

/-- The replay of a fixture; without its teams there is none. -/
def replayFixture (quoteAt : QuoteSelector) (fixture : Fixture) (goals : List GoalEvent)
    (snaps : List FixtureStatsSnapshot) : List SignalAttempt :=
  match fixture.homeTeamId, fixture.awayTeamId with
  | some homeId, some awayId => (ticks number snaps).foldl
      (evaluateTick strategy numberText quoteAt fixture goals homeId awayId) []
  | _, _ => []

end Replay

/-! ## Signals -/

structure SignalRecord where
  fixtureId : String
  marketType : String
  firstSignalAt : Int
  stage : SignalStage
  deriving DecidableEq

/-- `recordSignal`: the first attempt on a key opens its record, and a later one may advance it. -/
def recordSignal (records : List (String × SignalRecord)) (a : SignalAttempt) :
    List (String × SignalRecord) :=
  match records.lookup a.key with
  | none => records ++ [(a.key, ⟨a.fixtureId, a.marketType, a.tickAt, a.stage⟩)]
  | some existing =>
    if existing.stage.rank < a.stage.rank then
      records.map fun (key, record) =>
        (key, if key = a.key then { record with stage := a.stage } else record)
    else records

/-- By the first instant, then by fixture and market. -/
def signalOrder (C : Collation) : SignalRecord → SignalRecord → Ordering :=
  compareLex (comparing compare (·.firstSignalAt))
    (compareLex (comparing C.compare (·.fixtureId)) (comparing C.compare (·.marketType)))

/-! ## The whole replay -/

structure ReplayWindow where
  windowStart : Int
  windowEnd : Int
  deriving DecidableEq

/-- What the four queries return. -/
structure ReplayRows where
  snapshots : List FixtureStatsSnapshot
  fixtures : List Fixture
  goals : List GoalEvent
  quotes : List ExecutableQuote

structure ReplayResult where
  bets : List DecidedBet
  signals : List SignalRecord
  datasetHash : String
  deriving DecidableEq

/-- By instant, then by identifier. -/
def snapshotOrder (C : Collation) : FixtureStatsSnapshot → FixtureStatsSnapshot → Ordering :=
  compareLex (comparing compare (·.snapshotAt)) (comparing C.compare (·.id))

instance (C : Collation) : Std.TransCmp (snapshotOrder C) := by
  rw [snapshotOrder]
  infer_instance

section Rows

variable (R : Runtime) (strategy : BacktestStrategy)

/-- `strategy.odds.maxQuoteAgeMs ?? DEFAULT_MAX_QUOTE_AGE_MS`. -/
def BacktestStrategy.maxQuoteAgeMs : Int := strategy.odds.maxQuoteAgeMs.getD defaultMaxQuoteAgeMs

/-- The quotes of the replay, at an instant. -/
def quoteSelector (quotes : List ExecutableQuote) : QuoteSelector := fun target instant =>
  selectLatest R.collation quotes ⟨target, instant, strategy.maxQuoteAgeMs⟩

/-- Every attempt of the replay, fixture after fixture. -/
def replayAttempts (rows : ReplayRows) : List SignalAttempt :=
  (groupBy (·.fixtureId) (sort (snapshotOrder R.collation) rows.snapshots)).flatMap fun group =>
    match rows.fixtures.find? (·.id == group.1) with
    | none => []
    | some fixture => replayFixture R.number strategy R.numberText
        (quoteSelector R strategy rows.quotes) fixture
        (rows.goals.filter (·.fixtureId == group.1)) group.2

/-- A number of a column, or `null`. -/
def jsonInt (n : Option Int) : JsValue := .ofNumber (n.map fun n : Int => .num n)

def jsonNumber (x : Option JsNumber) : JsValue := .ofNumber x

/-- A goal, as it is hashed. -/
def GoalEvent.json (g : GoalEvent) : JsValue :=
  .arr [.str g.fixtureId, jsonInt g.teamId, jsonInt g.minute]

def FixtureStatsSnapshot.json (snap : FixtureStatsSnapshot) : JsValue :=
  .arr [.str snap.id, .str snap.fixtureId, jsonInt snap.teamId, jsonInt snap.elapsed,
    .str (R.isoText snap.snapshotAt), snap.stats]

def FinalMatchState.json (state : FinalMatchState) : JsValue :=
  .obj [("statusShort", .str state.statusShort), ("scoreHome", jsonNumber state.scoreHome),
    ("scoreAway", jsonNumber state.scoreAway), ("htScoreHome", jsonNumber state.htScoreHome),
    ("htScoreAway", jsonNumber state.htScoreAway)]

def Fixture.json (fixture : Fixture) : JsValue :=
  .arr [.str fixture.id, .str fixture.providerFixtureId, jsonInt fixture.homeTeamId,
    jsonInt fixture.awayTeamId, (finalStateOf fixture).json]

def quoteJson (quote : ExecutableQuote) : JsValue :=
  .arr [.str quote.snapshotId, .str quote.providerKey, .str quote.bookmakerKey,
    .str quote.marketKey, .str quote.selectionKey, .num (.num (oddValue quote.oddValue)),
    .str (R.isoText quote.observedAt), .str (R.isoText quote.receivedAt)]

/-- `canonicalJson(a).localeCompare(canonicalJson(b))`. -/
def goalOrder : GoalEvent → GoalEvent → Ordering :=
  comparing R.collation.compare fun g => canonicalJson R.numberText g.json

/-- The data set, as it is hashed. -/
def datasetJson (rows : ReplayRows) : JsValue :=
  .obj [("snapshots", .arr ((sort (snapshotOrder R.collation) rows.snapshots).map (·.json R))),
    ("fixtures", .arr ((sort (comparing R.collation.compare (·.id)) rows.fixtures).map (·.json))),
    ("goals", .arr ((sort (goalOrder R) rows.goals).map (·.json))),
    ("quotes", .arr ((sort (comparing R.collation.compare (·.snapshotId)) rows.quotes).map
      (quoteJson R)))]

/-- The replay of the rows that the queries return. -/
def replayRows (rows : ReplayRows) : ReplayResult :=
  if rows.snapshots.isEmpty then ⟨[], [], sha256Canonical R (.arr [])⟩
  else
    let attempts := replayAttempts R strategy rows
    { bets := attempts.filterMap (·.bet)
      signals := sort (signalOrder R.collation) ((attempts.foldl recordSignal []).map (·.2))
      datasetHash := sha256Canonical R (datasetJson R rows) }

/-! ## The queries -/

/-- The tables that the replay reads. -/
structure ReplayData where
  snapshots : Table snapshotsSchema
  fixtures : Table fixturesSchema
  /-- The rows of `fixture_events` whose type is `Goal`. -/
  goals : List GoalEvent
  odds : Table oddsSchema

namespace ReplayData

variable (data : ReplayData) (window : ReplayWindow)

/-- `snapshotAt BETWEEN :start AND :end`. -/
def snapshotsWithin : List FixtureStatsSnapshot :=
  sort (comparing compare (·.snapshotAt)) (data.snapshots.rows.filter fun s =>
    decide (window.windowStart ≤ s.snapshotAt) && decide (s.snapshotAt ≤ window.windowEnd))

/-- The fixtures that the snapshots name. -/
def fixtureIds : List String := ((data.snapshotsWithin window).map (·.fixtureId)).eraseDups

def fixturesWithin : List Fixture :=
  data.fixtures.rows.filter fun f => (data.fixtureIds window).contains f.id

/-- The query of the quotes. -/
def quoteQuery : QuoteCandidatesQuery where
  providerFixtureIds := (data.fixturesWithin window).map (·.providerFixtureId)
  receivedFrom := window.windowStart - strategy.maxQuoteAgeMs
  receivedTo := window.windowEnd + strategy.odds.executionLatencyMs

/-- What the queries return. -/
def read : ReplayRows where
  snapshots := data.snapshotsWithin window
  fixtures := data.fixturesWithin window
  goals := data.goals.filter fun g => (data.fixtureIds window).contains g.fixtureId
  quotes := loadCandidates data.odds (data.quoteQuery strategy window)

end ReplayData

/-- `replayDetailed`. -/
def replayDetailed (data : ReplayData) (window : ReplayWindow) : ReplayResult :=
  replayRows R strategy (data.read strategy window)

end Rows

section Queries

variable {data : ReplayData} {window : ReplayWindow}

theorem ReplayData.mem_snapshotsWithin {s : FixtureStatsSnapshot} :
    s ∈ data.snapshotsWithin window ↔
      s ∈ data.snapshots ∧ window.windowStart ≤ s.snapshotAt ∧ s.snapshotAt ≤ window.windowEnd := by
  rw [snapshotsWithin, mem_sort, List.mem_filter, Bool.and_eq_true, decide_eq_true_iff,
    decide_eq_true_iff]
  rfl

theorem ReplayData.mem_fixtureIds {id : String} :
    id ∈ data.fixtureIds window ↔ ∃ s ∈ data.snapshotsWithin window, s.fixtureId = id := by
  rw [fixtureIds, List.mem_eraseDups, List.mem_map]

theorem ReplayData.mem_fixturesWithin {f : Fixture} :
    f ∈ data.fixturesWithin window ↔ f ∈ data.fixtures ∧ f.id ∈ data.fixtureIds window := by
  rw [fixturesWithin, List.mem_filter, List.contains_iff_mem]
  rfl

end Queries

end ApiScore
