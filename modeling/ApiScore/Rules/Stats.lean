import ApiScore.Matches.Json
import ApiScore.Simulation.Resolver

/-!
# Statistics of a team

What the rules read in the statistics of a team (`stats.utils.ts`): the total of its shots, where
the provider gives one, its shots on target, and an index of its pressure.  The last two are 0 where
the provider gives nothing.
-/

set_option autoImplicit false

namespace ApiScore

/-! ## Arithmetic on numbers -/

namespace JsNumber

/-- `-`, of one number. -/
def neg : JsNumber → JsNumber
  | .num q => .num (-q)
  | .inf => .negInf
  | .negInf => .inf
  | .nan => .nan

/-- `+`. -/
def add (x y : JsNumber) : JsNumber := x.sub y.neg

/-- The product with a positive constant. -/
def scale (k : ℚ) : JsNumber → JsNumber
  | .num q => .num (k * q)
  | other => other

/-- `Math.max(0, x)`. -/
def max0 : JsNumber → JsNumber
  | .num q => .num (max 0 q)
  | .negInf => .num 0
  | other => other

end JsNumber

/-! ## Reading a payload -/

/-- `a.toLowerCase() === b.toLowerCase()`, for the names of statistics. -/
def sameName (a b : String) : Bool :=
  a.toList.map Char.toLower == b.toList.map Char.toLower

/-- The name of a statistic, where it is a text that is not empty. -/
def statType (entry : JsValue) : Option String := (entry.get "type").text?.filter (· ≠ "")

section Payload

variable (number : JsValue → JsNumber)

/-- `getStatValue`: the first statistic with one of the names, or a field of that name, or 0. -/
def getStatValue (payload : JsValue) (names : List String) : JsNumber :=
  match (payload.get "statistics").items.find? fun stat =>
    (statType stat).any fun name => names.any (sameName name) with
  | some stat => (toNumber number (stat.get "value")).getD (.num 0)
  | none => (names.findSome? fun name => toNumber number (payload.get name)).getD (.num 0)

/-- `Number(value)`, where it is a number. -/
def numeric? (value : JsValue) : Option JsNumber :=
  if number value = .nan then none else some (number value)

/-- The value of the first statistic with the name, where it is a number. -/
def statNumber? (payload : JsValue) (name : String) : Option JsNumber :=
  ((payload.get "statistics").items.find? fun stat => (statType stat).any (sameName name)).bind
    fun stat => numeric? number (stat.get "value")

/-- `extractTotalShots`: a total, or the shots on target and off target, or a field of the
payload. -/
def extractTotalShots (payload : JsValue) : Option JsNumber :=
  let total := (payload.get "statistics").items.findSome? fun stat =>
    if (statType stat).any fun name => sameName name "total shots" || sameName name "shots total"
    then numeric? number (stat.get "value") else none
  let onTarget := statNumber? number payload "on target"
  let offTarget := statNumber? number payload "off target"
  let flat := (payload.get "total_shots").orElse (payload.get "shots")
  total.or <| (onTarget.map fun on => (offTarget.map on.add).getD on).or <|
    match flat with
    | .undefined => none
    | _ => numeric? number flat

/-- `computePressureIndex`. -/
def computePressureIndex (payload : JsValue) : JsNumber :=
  let attacks := getStatValue number payload ["Attacks"]
  let dangerousAttacks := getStatValue number payload ["Dangerous Attacks"]
  let onTarget := getStatValue number payload ["On Target", "Shots on Goal"]
  let offTarget := getStatValue number payload ["Off Target", "Shots off Goal"]
  let corners := getStatValue number payload ["Corner Kicks", "Corners"]
  ((((dangerousAttacks.scale (14 / 10)).add (onTarget.scale 2)).add
    (corners.scale (12 / 10))).add (attacks.scale (15 / 100))).sub (offTarget.scale (4 / 10))

/-- The three signals of a snapshot. -/
structure SnapshotSignals where
  totalShots : Option JsNumber
  shotsOnTarget : JsNumber
  pressureIndex : JsNumber
  deriving DecidableEq

/-- `snapshotSignals`. -/
def snapshotSignals (stats : JsValue) : SnapshotSignals where
  totalShots := extractTotalShots number stats
  shotsOnTarget := getStatValue number stats ["On Target", "Shots on Goal"]
  pressureIndex := computePressureIndex number stats

end Payload

end ApiScore
