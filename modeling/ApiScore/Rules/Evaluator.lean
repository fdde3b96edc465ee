import ApiScore.Rules.Strategy
import ApiScore.Rules.Stats

/-!
# The rules

`rules-evaluator.ts`: from the minute, the score and the signals of the two teams, the bets that the
rules suggest.  The live path and the replay call the same function.

* `evaluateFirstHalf`, `evaluateSecondHalf` — the two windows; the second one counts from
  half-time.
* `evaluateRules` — both.
* `keys_firstHalfMatches`, `keys_secondHalfMatches` — which bets are suggested of a team.
-/

set_option autoImplicit false

namespace ApiScore

/-! ## What the rules read -/

def secondHalfStatuses : List String := ["2H", "LIVE"]

structure TeamInputSignals where
  teamId : Int
  teamName : String
  totalShots : Option JsNumber
  shotsOnTarget : Option JsNumber
  pressureIndex : Option JsNumber
  deriving DecidableEq

/-- One number for each side. -/
structure SideNumbers where
  home : JsNumber
  away : JsNumber
  deriving DecidableEq

structure RuleEvaluationInput where
  elapsed : Int
  statusShort : String
  home : TeamInputSignals
  away : TeamInputSignals
  htShots : Option SideNumbers
  htOnTarget : Option SideNumbers
  htPressure : Option SideNumbers
  scoreHome : Option Int
  scoreAway : Option Int
  deriving DecidableEq

structure RuleMatch where
  teamId : Int
  isHomeTeam : Bool
  teamName : String
  marketType : String
  selection : String
  ruleName : String
  minAcceptableOdd : ℚ
  edgePct : ℚ
  confidenceScore : ℚ
  signalThreshold : ℚ
  signal : SignalType
  reasons : List String
  elapsed : Int
  shotsCount : JsNumber
  deriving DecidableEq

/-- `signalValue`. -/
def TeamInputSignals.value (team : TeamInputSignals) : SignalType → Option JsNumber
  | .onTarget => team.shotsOnTarget
  | .pressureIndex => team.pressureIndex
  | .totalShots => team.totalShots

/-- `findMatchedRule`. -/
def findMatchedRule (rules : List HalfRule) (elapsed : Int) (shots : JsNumber)
    (thresholdOffset : ℚ) : Option HalfRule :=
  rules.find? fun r => decide (elapsed < r.maxElapsed) && shots.geRat (r.minShots + thresholdOffset)

inductive ScoreState
  | leading | trailing | drawing
  deriving DecidableEq, Repr

namespace RuleEvaluationInput

variable (input : RuleEvaluationInput) (config : SmartRulesConfig)

/-- The signals of one side. -/
def team (isHomeTeam : Bool) : TeamInputSignals := if isHomeTeam then input.home else input.away

/-- `scoreStateOf`. -/
def scoreState (isHomeTeam : Bool) : ScoreState :=
  match if isHomeTeam then (input.scoreHome, input.scoreAway)
    else (input.scoreAway, input.scoreHome) with
  | (some gf, some ga) => if ga < gf then .leading else if gf < ga then .trailing else .drawing
  | _ => .drawing

/-- `thresholdOffsetFor`. -/
def thresholdOffset (isHomeTeam : Bool) : ℚ :=
  match config.scoreStateModifiers, input.scoreState isHomeTeam with
  | none, _ => 0
  | some mods, .leading => mods.leading
  | some mods, .trailing => mods.trailing
  | some mods, .drawing => mods.drawing

/-- `htBaselineFor`, for one side. -/
def htBaseline (signal : SignalType) (isHomeTeam : Bool) : JsNumber :=
  let source := match signal with
    | .onTarget => input.htOnTarget
    | .pressureIndex => input.htPressure
    | .totalShots => input.htShots
  (source.map fun s => if isHomeTeam then s.home else s.away).getD (.num 0)

end RuleEvaluationInput

/-- The signal of a configuration. -/
def SmartRulesConfig.signalType (config : SmartRulesConfig) : SignalType :=
  config.signal.getD .totalShots

/-- `elapsed < Math.max(...rules.map((r) => r.maxElapsed))`. -/
def withinWindow (rules : List HalfRule) (elapsed : Int) : Bool :=
  rules.any fun r => decide (elapsed < r.maxElapsed)

/-! ## The suggestions -/

section Evaluate

variable (numberText : JsNumber → String) (input : RuleEvaluationInput) (config : SmartRulesConfig)

/-- `${shots} tirs … (seuil : ≥… avant …')`, after the number of shots. -/
def thresholdText (afterShots : String) (elapsed : Int) (threshold maxElapsed : ℚ) : String :=
  afterShots ++ toString elapsed ++ "' (seuil : ≥" ++ numberText (.num threshold) ++ " avant " ++
    numberText (.num maxElapsed) ++ "')"

/-- The suggestion of one market, for the side that a rule fired for. -/
def ruleMatch (isHomeTeam : Bool) (shots : JsNumber) (rule : HalfRule) (marketType selection : String)
    (odds : OddsConfig) (afterShots : String) (otherReasons : List String) : RuleMatch :=
  let team := input.team isHomeTeam
  let threshold := rule.minShots + input.thresholdOffset config isHomeTeam
  { teamId := team.teamId, isHomeTeam, teamName := team.teamName
    ruleName := "shots-pressure", elapsed := input.elapsed, shotsCount := shots, marketType
    selection := team.teamName ++ selection
    minAcceptableOdd := odds.min, edgePct := odds.edgePct, confidenceScore := odds.confidence
    signalThreshold := threshold, signal := config.signalType
    reasons := (numberText shots ++
      thresholdText numberText afterShots input.elapsed threshold rule.maxElapsed) ::
      otherReasons }

/-- What the first half suggests for one side. -/
def firstHalfMatches (isHomeTeam : Bool) : List RuleMatch :=
  match (input.team isHomeTeam).value config.signalType with
  | none => []
  | some shots =>
    match findMatchedRule config.firstHalfRules input.elapsed shots
      (input.thresholdOffset config isHomeTeam) with
    | none => []
    | some rule =>
      [ruleMatch numberText input config isHomeTeam shots rule "Buts 1ère mi-temps"
          " marque avant la mi-temps (+0.5)" config.odds.firstHalfHT " tirs à "
          ["Forte pression offensive", "Probabilité accrue de marquer avant la mi-temps"],
        ruleMatch numberText input config isHomeTeam shots rule "Buts match"
          " marque dans le match (+0.5)" config.odds.firstHalfFT " tirs à "
          ["Domination offensive confirmée", "Haute probabilité de scorer sur 90 minutes"]]

/-- `evaluateFirstHalf`. -/
def evaluateFirstHalf : List RuleMatch :=
  if input.statusShort ∈ firstHalfStatuses ∧ 1 ≤ input.elapsed ∧
      withinWindow config.firstHalfRules input.elapsed then
    firstHalfMatches numberText input config true ++ firstHalfMatches numberText input config false
  else []

/-- What the second half suggests for one side. -/
def secondHalfMatches (isHomeTeam : Bool) : List RuleMatch :=
  match (input.team isHomeTeam).value config.signalType with
  | none => []
  | some value =>
    let shots := (value.sub (input.htBaseline config.signalType isHomeTeam)).max0
    match findMatchedRule [config.secondHalfRule] input.elapsed shots
      (input.thresholdOffset config isHomeTeam) with
    | none => []
    | some rule =>
      [ruleMatch numberText input config isHomeTeam shots rule "Buts 2ème mi-temps"
        " marque en 2ème mi-temps (+0.5)" config.odds.secondHalf " tirs en 2MT à "
        ["Pression offensive confirmée en 2ème mi-temps",
          "Fort potentiel de marquer avant la fin du match"]]

/-- `evaluateSecondHalf`. -/
def evaluateSecondHalf : List RuleMatch :=
  if input.statusShort ∈ secondHalfStatuses ∧ 45 ≤ input.elapsed ∧
      input.elapsed < config.secondHalfRule.maxElapsed then
    secondHalfMatches numberText input config true ++
      secondHalfMatches numberText input config false
  else []

/-- `evaluateRules`. -/
def evaluateRules : List RuleMatch :=
  evaluateFirstHalf numberText input config ++ evaluateSecondHalf numberText input config

end Evaluate

/-! ## When a rule fires -/

namespace RuleEvaluationInput

variable (input : RuleEvaluationInput) (config : SmartRulesConfig) (isHomeTeam : Bool)

/-- The side reaches the threshold of a first-half rule whose window is open. -/
def firesFirstHalf : Bool :=
  ((input.team isHomeTeam).value config.signalType).any fun shots =>
    (findMatchedRule config.firstHalfRules input.elapsed shots
      (input.thresholdOffset config isHomeTeam)).isSome

/-- The side reaches the threshold of the second-half rule, counted from half-time. -/
def firesSecondHalf : Bool :=
  ((input.team isHomeTeam).value config.signalType).any fun value =>
    (findMatchedRule [config.secondHalfRule] input.elapsed
      (value.sub (input.htBaseline config.signalType isHomeTeam)).max0
      (input.thresholdOffset config isHomeTeam)).isSome

end RuleEvaluationInput

/-- What a suggestion is about. -/
def RuleMatch.bet (m : RuleMatch) : Int × String := (m.teamId, m.marketType)

section Fires

variable {numberText : JsNumber → String} {input : RuleEvaluationInput} {config : SmartRulesConfig}
  {isHomeTeam : Bool}

/-- **The first half suggests two bets on a side that a rule fires for.** -/
theorem keys_firstHalfMatches :
    (firstHalfMatches numberText input config isHomeTeam).map (·.bet) =
      if input.firesFirstHalf config isHomeTeam then
        [((input.team isHomeTeam).teamId, "Buts 1ère mi-temps"),
          ((input.team isHomeTeam).teamId, "Buts match")]
      else [] := by
  rw [firstHalfMatches, RuleEvaluationInput.firesFirstHalf]
  cases (input.team isHomeTeam).value config.signalType with
  | none => rfl
  | some shots =>
    rw [Option.any_some]
    dsimp only
    cases findMatchedRule config.firstHalfRules input.elapsed shots
      (input.thresholdOffset config isHomeTeam) <;> rfl

/-- **The second half suggests one.** -/
theorem keys_secondHalfMatches :
    (secondHalfMatches numberText input config isHomeTeam).map (·.bet) =
      if input.firesSecondHalf config isHomeTeam then
        [((input.team isHomeTeam).teamId, "Buts 2ème mi-temps")]
      else [] := by
  rw [secondHalfMatches, RuleEvaluationInput.firesSecondHalf]
  cases (input.team isHomeTeam).value config.signalType with
  | none => rfl
  | some value =>
    rw [Option.any_some]
    dsimp only
    cases findMatchedRule [config.secondHalfRule] input.elapsed
      (value.sub (input.htBaseline config.signalType isHomeTeam)).max0
      (input.thresholdOffset config isHomeTeam) <;> rfl

/-- **It is counted from half-time.** -/
theorem shots_secondHalfMatches {m : RuleMatch}
    (h : m ∈ secondHalfMatches numberText input config isHomeTeam) :
    ∃ value, (input.team isHomeTeam).value config.signalType = some value ∧
      m.shotsCount = (value.sub (input.htBaseline config.signalType isHomeTeam)).max0 ∧
      m.teamId = (input.team isHomeTeam).teamId := by
  rw [secondHalfMatches] at h
  cases hvalue : (input.team isHomeTeam).value config.signalType with
  | none =>
    rw [hvalue] at h
    cases h
  | some value =>
    rw [hvalue] at h
    dsimp only at h
    split at h
    · cases h
    · rw [List.mem_singleton.1 h]
      exact ⟨value, rfl, rfl, rfl⟩

end Fires

end ApiScore
