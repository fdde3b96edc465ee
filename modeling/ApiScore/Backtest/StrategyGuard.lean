import ApiScore.Backtest.Staking
import ApiScore.Lib.Fallible

/-!
# Strategies as they are submitted

A walk-forward run is given its strategy as free JSON.  `isWalkForwardStrategy` (`strategy.guard.ts`)
looks it over, `freezeStrategy` (`walk-forward.service.ts`) keeps a copy with the parameters of the
quotes, and the replay then reads that copy field by field.

* `isWalkForwardStrategy`, `freezeStrategy` — before the run.
* `JsValue.readAs` — a read that must find a value of the type it is declared with.
* `Strict` — the rules, the replay and the stakes, over a strategy each of whose reads is checked.
* `Strict.evaluateRules_json` — the rules of a complete configuration are those of `evaluateRules`.
-/

set_option autoImplicit false

namespace ApiScore

open Fallible Grouping Ranked

/-! ## What a field holds -/

namespace JsValue

def finite? : JsValue → Option ℚ
  | .num (.num q) => some q
  | _ => none

def whole? : JsValue → Option Int
  | .num (.num q) => if q.den = 1 then some q.num else none
  | _ => none

def items? : JsValue → Option (List JsValue)
  | .arr items => some items
  | _ => none

def texts? (value : JsValue) : Option (List String) := value.items?.bind fun items => items.mapM text?

def record? : JsValue → Option JsValue
  | .obj fields => some (.obj fields)
  | _ => none

/-- `?? 'TOTAL_SHOTS'`. -/
def signal? : JsValue → Option SignalType
  | .undefined | .null | .str "TOTAL_SHOTS" => some .totalShots
  | .str "ON_TARGET" => some .onTarget
  | .str "PRESSURE_INDEX" => some .pressureIndex
  | _ => none

def stakingType? : JsValue → Option StakingType
  | .str "FLAT" => some .flat
  | .str "PERCENT_BANKROLL" => some .percentBankroll
  | _ => none

/-- A field that may be absent. -/
def optional? {α : Type} (expected : JsValue → Option α) : JsValue → Option (Option α)
  | .undefined | .null => some none
  | value => (expected value).map some

/-- The object with the field. -/
def set (value : JsValue) (key : String) (field : JsValue) : JsValue :=
  match value with
  | .obj fields => .obj ((key, field) :: fields.filter fun f => f.1 != key)
  | _ => value

end JsValue

/-! ## The guard -/

/-- `isFiniteNumber(value) && p(value)`. -/
def isFiniteNumber (p : ℚ → Bool) (value : JsValue) : Bool := value.finite?.any p

/-- `isRecord`. -/
def isRecord (value : JsValue) : Bool := value.record?.isSome

/-- The stake is one of the two, and within its bounds. -/
def isStaking (staking : JsValue) : Bool :=
  isRecord staking && (staking.get "type").stakingType?.any fun type =>
    isFiniteNumber (fun amount => decide (0 ≤ amount) &&
      (type != .percentBankroll || decide (amount ≤ 100))) (staking.get "amount")

/-- `isWalkForwardStrategy`. -/
def isWalkForwardStrategy (value : JsValue) : Bool :=
  isRecord value &&
  (value.get "name").text?.any (fun name => !(jsTrim name.toList).isEmpty) &&
  (value.get "markets").texts?.any (fun markets => !markets.isEmpty) &&
  isFiniteNumber (fun _ => true) (value.get "minEdgePct") &&
  isFiniteNumber (fun _ => true) (value.get "minConfidence") &&
  isFiniteNumber (fun bankroll => decide (0 ≤ bankroll)) (value.get "bankroll") &&
  isStaking (value.get "staking") &&
  isRecord (value.get "odds") && ((value.get "odds").get "source").items?.isSome &&
  isRecord (value.get "entryRules") &&
  ((value.get "entryRules").get "firstHalfRules").items?.any (fun rules => !rules.isEmpty) &&
  isRecord ((value.get "entryRules").get "secondHalfRule") &&
  isRecord ((value.get "entryRules").get "odds")

/-! ## The frozen copy -/

mutual

/-- `JSON.parse(JSON.stringify(value))`; a field that is `undefined` goes, and reads as before. -/
def jsonCopy : JsValue → JsValue
  | .num (.num q) => .num (.num q)
  | .num _ => .null
  | .arr items => .arr (copyItems items)
  | .obj fields => .obj (copyFields fields)
  | value => value

/-- The elements of an array. -/
def copyItems : List JsValue → List JsValue
  | [] => []
  | .undefined :: items => .null :: copyItems items
  | item :: items => jsonCopy item :: copyItems items

def copyFields : List (String × JsValue) → List (String × JsValue)
  | [] => []
  | (key, value) :: fields => (key, jsonCopy value) :: copyFields fields

end

/-- What `freezeStrategy` takes of the parameters of a run, besides the strategy. -/
structure QuoteParams where
  strategyVersion : String
  executionLatencyMs : Int
  maxQuoteAgeMs : Int
  bookmakerKey : Option String

/-- `freezeStrategy`. -/
def freezeStrategy (strategy : JsValue) (params : QuoteParams) : JsValue :=
  let copy := (jsonCopy strategy).set "version" (.str params.strategyVersion)
  let odds := ((copy.get "odds").set "executionLatencyMs" (jsonInt params.executionLatencyMs)).set
    "maxQuoteAgeMs" (jsonInt params.maxQuoteAgeMs)
  copy.set "odds" (odds.set "bookmakerKey"
    ((params.bookmakerKey.filter (· ≠ "")).elim .undefined .str))

/-! ## Checked reads -/

/-- What is wrong with a read. -/
inductive Misread
  /-- A field of `undefined` or of `null`, which throws. -/
  | ofNothing (key : String)
  /-- A field that is missing, or not of its type. -/
  | mistyped (key : String)
  deriving DecidableEq, Repr

/-- `value[key]`. -/
def JsValue.read (value : JsValue) (key : String) : Except Misread JsValue :=
  match value with
  | .undefined | .null => .error (.ofNothing key)
  | _ => .ok (value.get key)

/-- `value[key]`, of the type that is declared for it. -/
def JsValue.readAs {α : Type} (expected : JsValue → Option α) (value : JsValue) (key : String) :
    Except Misread α :=
  value.read key >>= fun field => (expected field).elim (.error (.mistyped key)) .ok

/-- The name under which a modifier stands. -/
def ScoreState.key : ScoreState → String
  | .leading => "leading"
  | .trailing => "trailing"
  | .drawing => "drawing"

/-- No rule; nothing but the rules themselves reads those of a strategy. -/
def noRules : SmartRulesConfig := ⟨none, none, [], ⟨0, 0⟩, ⟨⟨0, 0, 0, 0⟩, ⟨0, 0, 0, 0⟩, ⟨0, 0, 0, 0⟩⟩⟩

namespace Strict

/-! ## The rules -/

section Rules

variable (numberText : JsNumber → String) (input : RuleEvaluationInput) (config : JsValue)

/-- `thresholdOffsetFor`. -/
def thresholdOffset (isHomeTeam : Bool) : Except Misread ℚ := do
  let mods ← config.read "scoreStateModifiers"
  if mods.truthy then mods.readAs JsValue.finite? (input.scoreState isHomeTeam).key else pure 0

/-- `findMatchedRule`. -/
def findMatchedRule (elapsed : Int) (shots : JsNumber) (thresholdOffset : ℚ) :
    List JsValue → Except Misread (Option HalfRule)
  | [] => pure none
  | r :: rules => do
    let maxElapsed ← r.readAs JsValue.finite? "maxElapsed"
    if elapsed < maxElapsed then
      let minShots ← r.readAs JsValue.finite? "minShots"
      if shots.geRat (minShots + thresholdOffset) then pure (some ⟨maxElapsed, minShots⟩)
      else findMatchedRule elapsed shots thresholdOffset rules
    else findMatchedRule elapsed shots thresholdOffset rules

/-- The suggestion of one market, for the side that a rule fired for. -/
def ruleMatch (signal : SignalType) (isHomeTeam : Bool) (shots : JsNumber) (offset : ℚ)
    (rule : HalfRule) (marketType selection afterShots : String) (otherReasons : List String)
    (odds : JsValue) : Except Misread RuleMatch := do
  let team := input.team isHomeTeam
  let threshold := rule.minShots + offset
  let minAcceptableOdd ← odds.readAs JsValue.finite? "min"
  let edgePct ← odds.readAs JsValue.finite? "edgePct"
  let confidenceScore ← odds.readAs JsValue.finite? "confidence"
  pure
    { teamId := team.teamId, isHomeTeam, teamName := team.teamName
      ruleName := "shots-pressure", elapsed := input.elapsed, shotsCount := shots, marketType
      selection := team.teamName ++ selection
      minAcceptableOdd, edgePct, confidenceScore, signalThreshold := threshold, signal
      reasons := (numberText shots ++
        thresholdText numberText afterShots input.elapsed threshold rule.maxElapsed) ::
        otherReasons }

/-- What is suggested for a side with these shots, if it has any. -/
def sideMatches (rules : List JsValue) (isHomeTeam : Bool) (shots : Option JsNumber)
    (suggest : JsNumber → ℚ → HalfRule → Except Misread (List RuleMatch)) :
    Except Misread (List RuleMatch) :=
  match shots with
  | none => pure []
  | some shots => do
    let offset ← thresholdOffset input config isHomeTeam
    let rule? ← findMatchedRule input.elapsed shots offset rules
    rule?.elim (pure []) (suggest shots offset)

/-- What the first half suggests for one side. -/
def firstHalfMatches (rules : List JsValue) (oddsHT oddsFT : JsValue) (signal : SignalType)
    (isHomeTeam : Bool) : Except Misread (List RuleMatch) :=
  sideMatches input config rules isHomeTeam ((input.team isHomeTeam).value signal)
    fun shots offset rule => do
      let beforeHalfTime ← ruleMatch numberText input signal isHomeTeam shots offset rule
        "Buts 1ère mi-temps" " marque avant la mi-temps (+0.5)" " tirs à "
        ["Forte pression offensive", "Probabilité accrue de marquer avant la mi-temps"] oddsHT
      let inMatch ← ruleMatch numberText input signal isHomeTeam shots offset rule
        "Buts match" " marque dans le match (+0.5)" " tirs à "
        ["Domination offensive confirmée", "Haute probabilité de scorer sur 90 minutes"] oddsFT
      pure [beforeHalfTime, inMatch]

/-- `evaluateFirstHalf`; the windows of all the rules are read at every call. -/
def evaluateFirstHalf : Except Misread (List RuleMatch) := do
  let rules ← config.readAs JsValue.items? "firstHalfRules"
  let windows ← rules.mapM fun r => r.readAs JsValue.finite? "maxElapsed"
  if input.statusShort ∈ firstHalfStatuses ∧ 1 ≤ input.elapsed ∧
      windows.any fun maxElapsed : ℚ => decide (input.elapsed < maxElapsed) then
    let odds ← config.readAs JsValue.record? "odds"
    let oddsHT ← odds.readAs JsValue.record? "firstHalfHT"
    let oddsFT ← odds.readAs JsValue.record? "firstHalfFT"
    let signal ← config.readAs JsValue.signal? "signal"
    let home ← firstHalfMatches numberText input config rules oddsHT oddsFT signal true
    let away ← firstHalfMatches numberText input config rules oddsHT oddsFT signal false
    pure (home ++ away)
  else pure []

/-- What the second half suggests for one side. -/
def secondHalfMatches (rule odds : JsValue) (signal : SignalType) (isHomeTeam : Bool) :
    Except Misread (List RuleMatch) :=
  sideMatches input config [rule] isHomeTeam (((input.team isHomeTeam).value signal).map fun value =>
      (value.sub (input.htBaseline signal isHomeTeam)).max0)
    fun shots offset rule => do
      let m ← ruleMatch numberText input signal isHomeTeam shots offset rule
        "Buts 2ème mi-temps" " marque en 2ème mi-temps (+0.5)" " tirs en 2MT à "
        ["Pression offensive confirmée en 2ème mi-temps",
          "Fort potentiel de marquer avant la fin du match"] odds
      pure [m]

/-- `evaluateSecondHalf`; the window is read from half-time on. -/
def evaluateSecondHalf : Except Misread (List RuleMatch) := do
  let rule ← config.readAs JsValue.record? "secondHalfRule"
  if input.statusShort ∈ secondHalfStatuses ∧ 45 ≤ input.elapsed then
    let maxElapsed ← rule.readAs JsValue.finite? "maxElapsed"
    if input.elapsed < maxElapsed then
      let odds ← config.readAs JsValue.record? "odds"
      let secondHalf ← odds.readAs JsValue.record? "secondHalf"
      let signal ← config.readAs JsValue.signal? "signal"
      let home ← secondHalfMatches numberText input config rule secondHalf signal true
      let away ← secondHalfMatches numberText input config rule secondHalf signal false
      pure (home ++ away)
    else pure []
  else pure []

/-- `evaluateRules`. -/
def evaluateRules : Except Misread (List RuleMatch) := do
  let firstHalf ← evaluateFirstHalf numberText input config
  let secondHalf ← evaluateSecondHalf numberText input config
  pure (firstHalf ++ secondHalf)

end Rules

/-! ## The replay -/

/-- The stake of a strategy. -/
def readStaking (strategy : JsValue) : Except Misread Staking := do
  let staking ← strategy.readAs JsValue.record? "staking"
  let type ← staking.readAs JsValue.stakingType? "type"
  let amount ← staking.readAs JsValue.finite? "amount"
  pure ⟨type, amount⟩

/-- A strategy besides its rules, which are read anew wherever they are called. -/
def readSettings (strategy : JsValue) : Except Misread BacktestStrategy := do
  let markets ← strategy.readAs JsValue.texts? "markets"
  let minEdgePct ← strategy.readAs JsValue.finite? "minEdgePct"
  let minConfidence ← strategy.readAs JsValue.finite? "minConfidence"
  let staking ← readStaking strategy
  let odds ← strategy.readAs JsValue.record? "odds"
  let executionLatencyMs ← odds.readAs JsValue.whole? "executionLatencyMs"
  let maxQuoteAgeMs ← odds.readAs (JsValue.optional? JsValue.whole?) "maxQuoteAgeMs"
  let bookmakerKey ← odds.readAs (JsValue.optional? JsValue.text?) "bookmakerKey"
  pure
    { entryRules := noRules, markets, minEdgePct, minConfidence, staking
      odds := ⟨executionLatencyMs, maxQuoteAgeMs, bookmakerKey⟩ }

section Replay

variable (R : Runtime) (settings : BacktestStrategy) (rules : JsValue)

/-- What the rules suggest at a tick, where the minute is known. -/
def suggestions (st : TickState) (fixture : Fixture) (goals : List GoalEvent)
    (homeId awayId : Int) : Except Misread (List (Int × Int × RuleMatch)) :=
  match st.tickAt, st.tickElapsed with
  | some tickAt, some elapsed => do
    let matches_ ←
      evaluateRules R.numberText (st.input fixture goals homeId awayId elapsed) rules
    pure (matches_.map fun m => (tickAt, elapsed, m))
  | _, _ => pure []

/-- `evaluateTick`. -/
def evaluateTick (quoteAt : QuoteSelector) (fixture : Fixture) (goals : List GoalEvent)
    (homeId awayId : Int) (log : List SignalAttempt) (st : TickState) :
    Except Misread (List SignalAttempt) := do
  let suggested ← suggestions R rules st fixture goals homeId awayId
  pure (suggested.foldl (fun log (tickAt, elapsed, m) => log ++
    (attempt? settings quoteAt fixture tickAt elapsed (placedKeys log) m).toList) log)

/-- The replay of a fixture. -/
def replayFixture (quoteAt : QuoteSelector) (fixture : Fixture) (goals : List GoalEvent)
    (snaps : List FixtureStatsSnapshot) : Except Misread (List SignalAttempt) :=
  match fixture.homeTeamId, fixture.awayTeamId with
  | some homeId, some awayId => (ticks R.number snaps).foldlM
      (evaluateTick R settings rules quoteAt fixture goals homeId awayId) []
  | _, _ => pure []

/-- The attempts of one fixture, from its snapshots. -/
def replayGroup (rows : ReplayRows) (group : String × List FixtureStatsSnapshot) :
    Except Misread (List SignalAttempt) :=
  match rows.fixtures.find? (·.id == group.1) with
  | none => pure []
  | some fixture => replayFixture R settings rules (quoteSelector R settings rows.quotes) fixture
      (rows.goals.filter (·.fixtureId == group.1)) group.2

/-- Every attempt of the replay, fixture after fixture. -/
def replayAttempts (rows : ReplayRows) : Except Misread (List SignalAttempt) := do
  let attempts ← (groupBy (·.fixtureId) (sort (snapshotOrder R.collation) rows.snapshots)).mapM
    (replayGroup R settings rules rows)
  pure attempts.flatten

/-- `replayDetailed`; without a snapshot nothing of the strategy is read. -/
def replayDetailed (strategy : JsValue) (data : ReplayData) (window : ReplayWindow) :
    Except Misread ReplayResult :=
  if (data.snapshotsWithin window).isEmpty then pure ⟨[], [], sha256Canonical R (.arr [])⟩
  else do
    let rules ← strategy.readAs JsValue.record? "entryRules"
    let settings ← readSettings strategy
    let rows := data.read settings window
    let attempts ← replayAttempts R settings rules rows
    pure
      { bets := attempts.filterMap (·.bet)
        signals := sort (signalOrder R.collation) ((attempts.foldl recordSignal []).map (·.2))
        datasetHash := sha256Canonical R (datasetJson R rows) }

end Replay

/-! ## The stakes -/

/-- What the calculator reads of a strategy, within the bounds that it relies on. -/
def readPlan (strategy : JsValue) : Except Misread StakingPlan := do
  let bankroll ← strategy.readAs JsValue.finite? "bankroll"
  let staking ← readStaking strategy
  if h : 0 ≤ bankroll ∧ 0 ≤ staking.amount ∧
      (staking.type = .percentBankroll → staking.amount ≤ 100) then
    pure ⟨bankroll, staking, h.1, h.2.1, h.2.2⟩
  else throw (.mistyped "staking")

/-- `applyStakingAndComputeKpis`. -/
def applyStakingAndComputeKpis (sqrt : ℚ → ℚ) (bets : List StakeableBet) (strategy : JsValue) :
    Except Misread (List StakedBet × BacktestKpis) := do
  let plan ← readPlan strategy
  pure (ApiScore.applyStakingAndComputeKpis sqrt bets plan)

end Strict

/-! ## Complete configurations -/

def jsonRational (q : ℚ) : JsValue := .num (.num q)

def SignalType.json : SignalType → JsValue
  | .totalShots => .str "TOTAL_SHOTS"
  | .onTarget => .str "ON_TARGET"
  | .pressureIndex => .str "PRESSURE_INDEX"

def ScoreStateModifiers.json (mods : ScoreStateModifiers) : JsValue :=
  .obj [("leading", jsonRational mods.leading), ("trailing", jsonRational mods.trailing),
    ("drawing", jsonRational mods.drawing)]

def HalfRule.json (rule : HalfRule) : JsValue :=
  .obj [("maxElapsed", jsonRational rule.maxElapsed), ("minShots", jsonRational rule.minShots)]

def OddsConfig.json (odds : OddsConfig) : JsValue :=
  .obj [("current", jsonRational odds.current), ("min", jsonRational odds.min),
    ("edgePct", jsonRational odds.edgePct), ("confidence", jsonRational odds.confidence)]

def RuleOdds.json (odds : RuleOdds) : JsValue :=
  .obj [("firstHalfHT", odds.firstHalfHT.json), ("firstHalfFT", odds.firstHalfFT.json),
    ("secondHalf", odds.secondHalf.json)]

/-- A configuration, as it is submitted. -/
def SmartRulesConfig.json (config : SmartRulesConfig) : JsValue :=
  .obj [("signal", config.signal.elim .undefined (·.json)),
    ("scoreStateModifiers", config.scoreStateModifiers.elim .undefined (·.json)),
    ("firstHalfRules", .arr (config.firstHalfRules.map (·.json))),
    ("secondHalfRule", config.secondHalfRule.json), ("odds", config.odds.json)]

namespace Strict

section Complete

variable {numberText : JsNumber → String} {input : RuleEvaluationInput} {config : SmartRulesConfig}
  {isHomeTeam : Bool}

theorem readAs_obj {α : Type} {expected : JsValue → Option α} {key : String} {a : α}
    {fields : List (String × JsValue)} (h : expected ((JsValue.obj fields).get key) = some a) :
    (JsValue.obj fields).readAs expected key = .ok a := by
  show (expected ((JsValue.obj fields).get key)).elim (Except.error (Misread.mistyped key)) .ok = _
  rw [h, Option.elim_some]

theorem thresholdOffset_json :
    thresholdOffset input config.json isHomeTeam = .ok (input.thresholdOffset config isHomeTeam) := by
  have hread : config.json.read "scoreStateModifiers" =
      .ok (config.scoreStateModifiers.elim .undefined (·.json)) := rfl
  rw [thresholdOffset, RuleEvaluationInput.thresholdOffset, hread, ok_bind]
  cases config.scoreStateModifiers with
  | none => rfl
  | some mods =>
    generalize input.scoreState isHomeTeam = state
    cases state with
    | leading => exact readAs_obj rfl
    | trailing => exact readAs_obj rfl
    | drawing => exact readAs_obj rfl

theorem findMatchedRule_json {elapsed : Int} {shots : JsNumber} {offset : ℚ}
    {rules : List HalfRule} :
    findMatchedRule elapsed shots offset (rules.map (·.json)) =
      .ok (ApiScore.findMatchedRule rules elapsed shots offset) := by
  induction rules with
  | nil => rfl
  | cons rule rules ih =>
    have hmax : rule.json.readAs JsValue.finite? "maxElapsed" = .ok rule.maxElapsed := readAs_obj rfl
    have hmin : rule.json.readAs JsValue.finite? "minShots" = .ok rule.minShots := readAs_obj rfl
    have htail : rules.find? (fun r : HalfRule => decide ((elapsed : ℚ) < r.maxElapsed) &&
      shots.geRat (r.minShots + offset)) = ApiScore.findMatchedRule rules elapsed shots offset := rfl
    rw [List.map_cons, findMatchedRule, hmax, hmin, ok_bind, ok_bind, ih,
      ApiScore.findMatchedRule.eq_def (rule :: rules), List.find?_cons, htail]
    by_cases hwindow : (elapsed : ℚ) < rule.maxElapsed
    · rw [if_pos hwindow, decide_eq_true hwindow, Bool.true_and]
      cases shots.geRat (rule.minShots + offset) <;> rfl
    · rw [if_neg hwindow, decide_eq_false hwindow, Bool.false_and]

theorem ruleMatch_json {signal : SignalType} (hsignal : signal = config.signalType)
    {shots : JsNumber} {rule : HalfRule} {marketType selection afterShots : String}
    {otherReasons : List String} {odds : OddsConfig} :
    ruleMatch numberText input signal isHomeTeam shots (input.thresholdOffset config isHomeTeam)
        rule marketType selection afterShots otherReasons odds.json =
      .ok (ApiScore.ruleMatch numberText input config isHomeTeam shots rule marketType selection
        odds afterShots otherReasons) := by
  have hmin : odds.json.readAs JsValue.finite? "min" = .ok odds.min := readAs_obj rfl
  have hedge : odds.json.readAs JsValue.finite? "edgePct" = .ok odds.edgePct := readAs_obj rfl
  have hconf : odds.json.readAs JsValue.finite? "confidence" = .ok odds.confidence :=
    readAs_obj rfl
  subst hsignal
  rw [ruleMatch, hmin, hedge, hconf]
  rfl

theorem firstHalfMatches_json :
    firstHalfMatches numberText input config.json (config.firstHalfRules.map (·.json))
        config.odds.firstHalfHT.json config.odds.firstHalfFT.json config.signalType isHomeTeam =
      .ok (ApiScore.firstHalfMatches numberText input config isHomeTeam) := by
  rw [firstHalfMatches, ApiScore.firstHalfMatches]
  cases (input.team isHomeTeam).value config.signalType with
  | none => rfl
  | some shots =>
    rw [sideMatches, thresholdOffset_json, ok_bind, findMatchedRule_json, ok_bind]
    dsimp only
    cases ApiScore.findMatchedRule config.firstHalfRules input.elapsed shots
      (input.thresholdOffset config isHomeTeam) with
    | none => rfl
    | some rule => rw [Option.elim_some, ruleMatch_json rfl, ruleMatch_json rfl]; rfl

theorem secondHalfMatches_json :
    secondHalfMatches numberText input config.json config.secondHalfRule.json
        config.odds.secondHalf.json config.signalType isHomeTeam =
      .ok (ApiScore.secondHalfMatches numberText input config isHomeTeam) := by
  rw [secondHalfMatches, ApiScore.secondHalfMatches]
  cases (input.team isHomeTeam).value config.signalType with
  | none => rfl
  | some value =>
    have hrules : [config.secondHalfRule.json] = [config.secondHalfRule].map (·.json) := rfl
    rw [Option.map_some, sideMatches, thresholdOffset_json, ok_bind, hrules, findMatchedRule_json,
      ok_bind]
    dsimp only
    cases ApiScore.findMatchedRule [config.secondHalfRule] input.elapsed
      (value.sub (input.htBaseline config.signalType isHomeTeam)).max0
      (input.thresholdOffset config isHomeTeam) with
    | none => rfl
    | some rule => rw [Option.elim_some, ruleMatch_json rfl]; rfl

theorem readSignal_json :
    config.json.readAs JsValue.signal? "signal" = .ok config.signalType := by
  refine readAs_obj ?_
  show JsValue.signal? (config.signal.elim .undefined (·.json)) = _
  rw [SmartRulesConfig.signalType]
  cases config.signal with
  | none => rfl
  | some signal => cases signal <;> rfl

theorem readOdds_json : config.json.readAs JsValue.record? "odds" = .ok config.odds.json :=
  readAs_obj rfl

theorem evaluateFirstHalf_json :
    evaluateFirstHalf numberText input config.json =
      .ok (ApiScore.evaluateFirstHalf numberText input config) := by
  have hrules : config.json.readAs JsValue.items? "firstHalfRules" =
    .ok (config.firstHalfRules.map (·.json)) := readAs_obj rfl
  have hwindows : (config.firstHalfRules.map (·.json)).mapM
      (fun r => r.readAs JsValue.finite? "maxElapsed") =
      .ok (config.firstHalfRules.map (·.maxElapsed)) := by
    rw [List.mapM_map]
    exact mapM_of_ok fun r _ => readAs_obj rfl
  have hany : (config.firstHalfRules.map (·.maxElapsed)).any
      (fun maxElapsed : ℚ => decide (input.elapsed < maxElapsed)) =
      withinWindow config.firstHalfRules input.elapsed := by
    rw [List.any_map]
    rfl
  have hHT : config.odds.json.readAs JsValue.record? "firstHalfHT" =
    .ok config.odds.firstHalfHT.json := readAs_obj rfl
  have hFT : config.odds.json.readAs JsValue.record? "firstHalfFT" =
    .ok config.odds.firstHalfFT.json := readAs_obj rfl
  rw [evaluateFirstHalf, ApiScore.evaluateFirstHalf, hrules, ok_bind, hwindows, ok_bind, hany,
    readOdds_json, ok_bind, hHT, ok_bind, hFT, ok_bind, readSignal_json, ok_bind,
    firstHalfMatches_json, firstHalfMatches_json]
  split_ifs <;> rfl

theorem evaluateSecondHalf_json :
    evaluateSecondHalf numberText input config.json =
      .ok (ApiScore.evaluateSecondHalf numberText input config) := by
  have hrule : config.json.readAs JsValue.record? "secondHalfRule" =
    .ok config.secondHalfRule.json := readAs_obj rfl
  have hmax : config.secondHalfRule.json.readAs JsValue.finite? "maxElapsed" =
    .ok config.secondHalfRule.maxElapsed := readAs_obj rfl
  have hodds : config.odds.json.readAs JsValue.record? "secondHalf" =
    .ok config.odds.secondHalf.json := readAs_obj rfl
  rw [evaluateSecondHalf, ApiScore.evaluateSecondHalf, hrule, ok_bind, hmax, ok_bind,
    readOdds_json, ok_bind, hodds, ok_bind, readSignal_json, ok_bind, secondHalfMatches_json,
    secondHalfMatches_json]
  by_cases hstatus : input.statusShort ∈ secondHalfStatuses ∧ 45 ≤ input.elapsed
  · by_cases hwindow : (input.elapsed : ℚ) < config.secondHalfRule.maxElapsed
    · rw [if_pos hstatus, if_pos hwindow, if_pos ⟨hstatus.1, hstatus.2, hwindow⟩]
      rfl
    · rw [if_pos hstatus, if_neg hwindow, if_neg fun h => hwindow h.2.2]
      rfl
  · rw [if_neg hstatus, if_neg fun h => hstatus ⟨h.1, h.2.1⟩]
    rfl

/-- **A complete configuration is read through, and the rules suggest what they do.** -/
theorem evaluateRules_json (numberText : JsNumber → String) (input : RuleEvaluationInput)
    (config : SmartRulesConfig) :
    evaluateRules numberText input config.json =
      .ok (ApiScore.evaluateRules numberText input config) := by
  rw [evaluateRules, evaluateFirstHalf_json, ok_bind, evaluateSecondHalf_json]
  rfl

variable {R : Runtime} {settings : BacktestStrategy}

theorem evaluateTick_json {quoteAt : QuoteSelector} {fixture : Fixture} {goals : List GoalEvent}
    {homeId awayId : Int} {log : List SignalAttempt} {st : TickState} :
    evaluateTick R settings config.json quoteAt fixture goals homeId awayId log st =
      .ok (ApiScore.evaluateTick { settings with entryRules := config } R.numberText quoteAt fixture
        goals homeId awayId log st) := by
  rw [evaluateTick, ApiScore.evaluateTick, suggestions, TickState.suggestions]
  cases st.tickAt with
  | none => rfl
  | some tickAt =>
    cases st.tickElapsed with
    | none => rfl
    | some elapsed =>
      dsimp only
      rw [evaluateRules_json]
      rfl

theorem replayGroup_json {rows : ReplayRows} {group : String × List FixtureStatsSnapshot} :
    replayGroup R settings config.json rows group =
      .ok (match rows.fixtures.find? (·.id == group.1) with
        | none => []
        | some fixture => ApiScore.replayFixture R.number { settings with entryRules := config }
            R.numberText (quoteSelector R settings rows.quotes) fixture
            (rows.goals.filter (·.fixtureId == group.1)) group.2) := by
  rw [replayGroup]
  cases rows.fixtures.find? (·.id == group.1) with
  | none => rfl
  | some fixture =>
    dsimp only
    rw [replayFixture, ApiScore.replayFixture]
    cases fixture.homeTeamId with
    | none => rfl
    | some homeId =>
      cases fixture.awayTeamId with
      | none => rfl
      | some awayId => exact foldlM_of_ok (fun log st _ => evaluateTick_json) []

theorem replayAttempts_json {rows : ReplayRows} :
    replayAttempts R settings config.json rows =
      .ok (ApiScore.replayAttempts R { settings with entryRules := config } rows) := by
  rw [replayAttempts, mapM_of_ok fun _ _ => replayGroup_json, ok_bind, List.flatten_eq_flatMap,
    List.flatMap_map]
  rfl

/-- **So the replay of a complete strategy is the replay.** -/
theorem replayDetailed_json {strategy : JsValue} {data : ReplayData} {window : ReplayWindow}
    (hrules : strategy.readAs JsValue.record? "entryRules" = .ok config.json)
    (hsettings : readSettings strategy = .ok settings) :
    replayDetailed R strategy data window =
      .ok (ApiScore.replayDetailed R { settings with entryRules := config } data window) := by
  rw [replayDetailed, ApiScore.replayDetailed, replayRows]
  have hsnapshots : (data.read { settings with entryRules := config } window).snapshots =
    data.snapshotsWithin window := rfl
  rw [hsnapshots]
  split_ifs with hempty
  · rfl
  · rw [hrules, ok_bind, hsettings, ok_bind]
    dsimp only
    rw [replayAttempts_json]
    rfl

end Complete

end Strict

end ApiScore
