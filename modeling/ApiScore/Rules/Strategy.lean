import ApiScore.Execution.Types

/-!
# Rules and strategies

The configuration of the rules (`smart-rules-config.service.ts`), what the settings accept of it
(`update-smart-rules.dto.ts`), and the strategy that a replay or a simulation freezes around it
(`backtest.types.ts`).

* `SmartRulesConfig` — the windows, the thresholds and the odds of the three markets.
* `SmartRulesConfig.Admitted` — the bounds that `UpdateSmartRulesDto` sets on them.
* `BacktestStrategy` — the rules with their markets, stakes and latency.
-/

set_option autoImplicit false

namespace ApiScore

/-! ## Rules -/

/-- `SIGNAL_TYPES`. -/
inductive SignalType
  | totalShots | onTarget | pressureIndex
  deriving DecidableEq, Repr

/-- What is added to a threshold by the state of the score. -/
structure ScoreStateModifiers where
  leading : ℚ
  trailing : ℚ
  drawing : ℚ
  deriving DecidableEq

/-- Before minute `maxElapsed`, at least `minShots`. -/
structure HalfRule where
  maxElapsed : ℚ
  minShots : ℚ
  deriving DecidableEq

structure OddsConfig where
  current : ℚ
  min : ℚ
  edgePct : ℚ
  confidence : ℚ
  deriving DecidableEq

structure RuleOdds where
  firstHalfHT : OddsConfig
  firstHalfFT : OddsConfig
  secondHalf : OddsConfig
  deriving DecidableEq

structure SmartRulesConfig where
  signal : Option SignalType
  scoreStateModifiers : Option ScoreStateModifiers
  firstHalfRules : List HalfRule
  secondHalfRule : HalfRule
  odds : RuleOdds
  deriving DecidableEq

/-! ## What the settings accept -/

/-- `@IsInt() @Min(lo) @Max(hi)`. -/
def isIntWithin (lo hi : Int) (q : ℚ) : Bool := q.den == 1 && decide (lo ≤ q) && decide (q ≤ hi)

/-- `HalfRuleDto`. -/
def HalfRule.admitted (rule : HalfRule) : Bool :=
  isIntWithin 1 120 rule.maxElapsed && isIntWithin 1 50 rule.minShots

/-- `ScoreStateModifiersDto`. -/
def ScoreStateModifiers.admitted (mods : ScoreStateModifiers) : Bool :=
  isIntWithin (-20) 20 mods.leading && isIntWithin (-20) 20 mods.trailing &&
    isIntWithin (-20) 20 mods.drawing

/-- `OddsConfigDto`. -/
def OddsConfig.admitted (odds : OddsConfig) : Bool :=
  decide (101 / 100 ≤ odds.current) && decide (odds.current ≤ 50) &&
    decide (101 / 100 ≤ odds.min) && decide (odds.min ≤ 50) &&
    decide (0 ≤ odds.edgePct) && decide (odds.edgePct ≤ 100) && isIntWithin 0 100 odds.confidence

/-- `UpdateSmartRulesDto`. -/
def SmartRulesConfig.Admitted (config : SmartRulesConfig) : Prop :=
  (config.scoreStateModifiers.all (·.admitted) && decide (1 ≤ config.firstHalfRules.length) &&
    decide (config.firstHalfRules.length ≤ 20) && config.firstHalfRules.all (·.admitted) &&
    config.secondHalfRule.admitted && config.odds.firstHalfHT.admitted &&
    config.odds.firstHalfFT.admitted && config.odds.secondHalf.admitted) = true

instance (config : SmartRulesConfig) : Decidable config.Admitted :=
  inferInstanceAs (Decidable (_ = true))

/-! ## Strategies -/

inductive StakingType
  | flat | percentBankroll
  deriving DecidableEq, Repr

structure Staking where
  type : StakingType
  amount : ℚ
  deriving DecidableEq

structure StrategyOdds where
  executionLatencyMs : Int
  maxQuoteAgeMs : Option Int
  bookmakerKey : Option String
  deriving DecidableEq

structure BacktestStrategy where
  entryRules : SmartRulesConfig
  markets : List String
  minEdgePct : ℚ
  minConfidence : ℚ
  staking : Staking
  odds : StrategyOdds
  deriving DecidableEq

namespace Sample

def evenOdds : OddsConfig := ⟨2, 15 / 10, 10, 60⟩

/-- A first-half rule that stays open until the hour. -/
def longFirstHalf : SmartRulesConfig where
  signal := none
  scoreStateModifiers := none
  firstHalfRules := [⟨60, 5⟩]
  secondHalfRule := ⟨80, 5⟩
  odds := ⟨evenOdds, evenOdds, evenOdds⟩

/-- It plays the two markets of the match, and takes the odd half a minute later. -/
def strategy : BacktestStrategy where
  entryRules := longFirstHalf
  markets := ["Buts match", "Buts 2ème mi-temps"]
  minEdgePct := 0
  minConfidence := 0
  staking := ⟨.flat, 10⟩
  odds := ⟨30000, none, none⟩

end Sample

end ApiScore
