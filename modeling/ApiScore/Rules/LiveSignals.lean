import ApiScore.Lib.Grouping
import ApiScore.Matches.Fixture
import ApiScore.Odds.Quotes
import ApiScore.Rules.Evaluator

/-!
# Live signals

`smart-suggestions.service.ts`: two passes over the fixtures being played, one for each half, load
the latest statistics of their teams and call the rules.  Only the second pass knows the statistics
at half-time.

* `evaluateLiveSignals` — the signals of the two passes.
* `liveInput` — what the rules are given of a fixture.
-/

set_option autoImplicit false

namespace ApiScore

open Ranked Grouping

/-! ## Snapshots of the statistics -/

/-- A row of `fixture_stats_snapshots`. -/
structure FixtureStatsSnapshot where
  id : String
  fixtureId : String
  teamId : Option Int
  elapsed : Option Int
  stats : JsValue
  snapshotAt : Int

/-- The team of a snapshot, where it is one: `if (!snap.teamId) continue`. -/
def FixtureStatsSnapshot.team? (snap : FixtureStatsSnapshot) : Option Int :=
  snap.teamId.filter (· ≠ 0)

/-- `s.elapsed <= 45`. -/
def FixtureStatsSnapshot.isHt (snap : FixtureStatsSnapshot) : Bool :=
  snap.elapsed.any fun elapsed => decide (elapsed ≤ 45)

/-- `ORDER BY snapshot_at DESC`. -/
def latestSnapshotsFirst (snaps : List FixtureStatsSnapshot) : List FixtureStatsSnapshot :=
  sort (comparing laterFirst (·.snapshotAt)) snaps

/-- The first snapshot of a team of a fixture: what a map keeps that is filled once for each key. -/
def firstOf (snaps : List FixtureStatsSnapshot) (fixtureId : String) (teamId : Int) :
    Option FixtureStatsSnapshot :=
  snaps.find? fun s => s.fixtureId == fixtureId && s.team? == some teamId

/-! ## What the live path reads -/

structure BaseRateHit where
  observedRate : ℚ
  sampleSize : Int
  deriving DecidableEq

structure LiveData where
  fixtures : List Fixture
  distinct : (fixtures.map (·.id)).Nodup
  snapshots : List FixtureStatsSnapshot
  /-- The rates of `buildLookup`, by league, season, market and threshold. -/
  baseRate : SignalType → Int → Int → String → ℚ → Option BaseRateHit
  /-- `Date.now()`. -/
  now : Int

/-- A signal of the rules, before any odd. -/
structure LiveSignal where
  id : String
  fixtureId : String
  fixtureLabel : String
  providerFixtureId : String
  quoteTarget : ExecutableQuoteTarget
  marketType : String
  selection : String
  minAcceptableOdd : ℚ
  edgePct : ℚ
  confidenceScore : Option Int
  baseRateSampleSize : Option Int
  reasons : List String
  ruleName : String
  elapsed : Int
  shotsCount : JsNumber
  teamId : Int
  teamName : String
  isHomeTeam : Bool
  deriving DecidableEq

/-- The statistics at half-time, by fixture and team. -/
abbrev HtBaseline := String → Int → Option SnapshotSignals

section Live

variable (number : JsValue → JsNumber) (numberText : JsNumber → String)

/-- `buildHtBaseline`: of each team, the last snapshot of the first half. -/
def buildHtBaseline (snaps : List FixtureStatsSnapshot) : HtBaseline := fun fixtureId teamId =>
  (firstOf (latestSnapshotsFirst (snaps.filter (·.isHt))) fixtureId teamId).map fun s =>
    snapshotSignals number s.stats

/-- The signals of a team, from its latest snapshot. -/
def liveTeamSignals (snaps : List FixtureStatsSnapshot) (fixtureId : String) (teamId : Int)
    (teamName : Option String) : TeamInputSignals :=
  let signals := (firstOf (latestSnapshotsFirst snaps) fixtureId teamId).map fun s =>
    snapshotSignals number s.stats
  { teamId, teamName := teamName.getD "Équipe"
    totalShots := signals.bind (·.totalShots)
    shotsOnTarget := signals.map (·.shotsOnTarget)
    pressureIndex := signals.map (·.pressureIndex) }

/-- What a pass gives to the rules of a fixture with the teams `homeId` and `awayId`. -/
def liveInput (snaps : List FixtureStatsSnapshot) (htBaseline : Option HtBaseline)
    (fixture : Fixture) (homeId awayId : Int) : RuleEvaluationInput :=
  let baseline (of : SnapshotSignals → JsNumber) : Option SideNumbers := htBaseline.map fun ht =>
    { home := ((ht fixture.id homeId).map of).getD (.num 0)
      away := ((ht fixture.id awayId).map of).getD (.num 0) }
  { elapsed := fixture.elapsed.getD 0
    statusShort := fixture.statusShort.getD ""
    home := liveTeamSignals number snaps fixture.id homeId fixture.homeTeamName
    away := liveTeamSignals number snaps fixture.id awayId fixture.awayTeamName
    htShots := baseline fun s => s.totalShots.getD (.num 0)
    htOnTarget := baseline (·.shotsOnTarget)
    htPressure := baseline (·.pressureIndex)
    scoreHome := fixture.scoreHome
    scoreAway := fixture.scoreAway }

/-- `resolveBaseRate`. -/
def resolveBaseRate (data : LiveData) (fixture : Fixture) (m : RuleMatch) : Option BaseRateHit :=
  match fixture.leagueId, fixture.season with
  | some leagueId, some season =>
    data.baseRate m.signal leagueId season m.marketType m.signalThreshold
  | _, _ => none

/-- The signal of a match of the rules, where its market has a target. -/
def toLiveSignal (data : LiveData) (fixture : Fixture) (halfSuffix : String) (index : Nat)
    (m : RuleMatch) : Option LiveSignal :=
  (quoteTargetForRuleMarket fixture.providerFixtureId m.marketType m.isHomeTeam).map fun target =>
    let rate := resolveBaseRate data fixture m
    { id := "smart-" ++ halfSuffix ++ "-" ++ fixture.id ++ "-" ++ toString m.teamId ++ "-" ++
        (if index = 0 then "a" else "b")
      fixtureId := fixture.id
      fixtureLabel := fixture.homeTeamName.getD "?" ++ " vs " ++ fixture.awayTeamName.getD "?"
      providerFixtureId := fixture.providerFixtureId
      quoteTarget := target
      marketType := m.marketType
      selection := m.selection
      minAcceptableOdd := m.minAcceptableOdd
      edgePct := m.edgePct
      confidenceScore := rate.map fun r => jsRound (r.observedRate * 100)
      baseRateSampleSize := rate.map (·.sampleSize)
      reasons := m.reasons
      ruleName := m.ruleName
      elapsed := m.elapsed
      shotsCount := m.shotsCount
      teamId := m.teamId
      teamName := m.teamName
      isHomeTeam := m.isHomeTeam }

/-- The signals of the matches of a fixture, team after team. -/
def signalsOfMatches (data : LiveData) (fixture : Fixture) (halfSuffix : String)
    (matches_ : List RuleMatch) : List LiveSignal :=
  (groupBy (·.teamId) matches_).flatMap fun group =>
    group.2.zipIdx.filterMap fun (m, index) => toLiveSignal data fixture halfSuffix index m

/-- What a pass gives to the rules of a fixture; one without its teams, or without a snapshot of a
team, is left out. -/
def liveInput? (snaps : List FixtureStatsSnapshot) (htBaseline : Option HtBaseline)
    (fixture : Fixture) : Option RuleEvaluationInput :=
  match fixture.homeTeamId, fixture.awayTeamId with
  | some homeId, some awayId =>
    if snaps.any fun s => s.fixtureId == fixture.id && s.team?.isSome then
      some (liveInput number snaps htBaseline fixture homeId awayId)
    else none
  | _, _ => none

/-- What the rules suggest of a fixture. -/
def fixtureMatches (snaps : List FixtureStatsSnapshot) (config : SmartRulesConfig)
    (htBaseline : Option HtBaseline) (fixture : Fixture) : List RuleMatch :=
  ((liveInput? number snaps htBaseline fixture).map fun input =>
    evaluateRules numberText input config).getD []

/-- `evaluateFixturesWithRules`. -/
def evaluateFixturesWithRules (data : LiveData) (fixtures : List Fixture)
    (config : SmartRulesConfig) (halfSuffix : String) (htBaseline : Option HtBaseline) :
    List LiveSignal :=
  fixtures.flatMap fun fixture =>
    signalsOfMatches data fixture halfSuffix
      (fixtureMatches number numberText data.snapshots config htBaseline fixture)

/-- `f.lastSyncedAt >= now - 120 s`. -/
def Fixture.isFresh (fixture : Fixture) (now : Int) : Bool :=
  decide (now - 120000 ≤ fixture.lastSyncedAt)

/-- The query of the first pass. -/
def inFirstPass (config : SmartRulesConfig) (now : Int) (fixture : Fixture) : Bool :=
  fixture.statusShort.any (firstHalfStatuses.contains ·) && fixture.elapsed.any (fun elapsed =>
    decide (1 ≤ elapsed) && withinWindow config.firstHalfRules elapsed) && fixture.isFresh now

/-- The query of the second pass. -/
def inSecondPass (config : SmartRulesConfig) (now : Int) (fixture : Fixture) : Bool :=
  fixture.statusShort.any (secondHalfStatuses.contains ·) && fixture.elapsed.any (fun elapsed =>
    decide (45 ≤ elapsed) && decide (elapsed < config.secondHalfRule.maxElapsed)) &&
    fixture.isFresh now

/-- `getFirstHalfSuggestions`. -/
def getFirstHalfSuggestions (data : LiveData) (config : SmartRulesConfig) : List LiveSignal :=
  evaluateFixturesWithRules number numberText data
    (data.fixtures.filter (inFirstPass config data.now)) config "fh" none

/-- `getSecondHalfSuggestions`. -/
def getSecondHalfSuggestions (data : LiveData) (config : SmartRulesConfig) : List LiveSignal :=
  evaluateFixturesWithRules number numberText data
    (data.fixtures.filter (inSecondPass config data.now)) config "sh"
    (some (buildHtBaseline number data.snapshots))

/-- `evaluateLiveSignals`. -/
def evaluateLiveSignals (data : LiveData) (config : SmartRulesConfig) : List LiveSignal :=
  getFirstHalfSuggestions number numberText data config ++
    getSecondHalfSuggestions number numberText data config

end Live

end ApiScore
