import ApiScore.Execution.Types

/-!
# The result of a bet

`outcome-resolver.ts`: from the state of a match, whether a bet on a team is won, lost, or still
open.  The simulation and the paper operator settle with the same function.

* `resolveOutcome` — the rule of the three markets.
* `resolveSettlement` — the same, with a match that was called off giving the stake back.
-/

set_option autoImplicit false

namespace ApiScore

/-! ## Statuses of a match -/

def firstHalfStatuses : List String := ["1H", "LIVE"]

/-- The first half is over. -/
def postHtStatuses : List String :=
  ["HT", "2H", "ET", "BT", "P", "FT", "AET", "PEN", "AWD", "WO"]

/-- The match is over. -/
def finishedStatuses : List String := ["FT", "AET", "PEN", "AWD", "WO"]

/-- The match was called off, put off or broken off. -/
def voidStatuses : List String := ["CANC", "PST", "INT", "SUSP", "ABD", "TBD", "WO"]

/-! ## The rule -/

structure ResolvableBet where
  marketType : String
  isHomeTeam : Bool
  deriving DecidableEq

/-- The state of a match; the scores are the numbers the provider gave, if any. -/
structure FinalMatchState where
  statusShort : String
  scoreHome : Option JsNumber
  scoreAway : Option JsNumber
  htScoreHome : Option JsNumber
  htScoreAway : Option JsNumber
  deriving DecidableEq

/-- `> 0`. -/
def JsNumber.isPositive : JsNumber → Bool
  | .num q => decide (0 < q)
  | .inf => true
  | .negInf | .nan => false

/-- `-`. -/
def JsNumber.sub : JsNumber → JsNumber → JsNumber
  | .num a, .num b => .num (a - b)
  | .num _, .inf => .negInf
  | .num _, .negInf => .inf
  | .inf, .num _ | .inf, .negInf => .inf
  | .negInf, .num _ | .negInf, .inf => .negInf
  | .inf, .inf | .negInf, .negInf => .nan
  | .nan, _ | _, .nan => .nan

namespace FinalMatchState

variable (state : FinalMatchState)

/-- The score of the team a bet is on. -/
def score (isHomeTeam : Bool) : Option JsNumber :=
  if isHomeTeam then state.scoreHome else state.scoreAway

/-- Its score at half-time. -/
def htScore (isHomeTeam : Bool) : Option JsNumber :=
  if isHomeTeam then state.htScoreHome else state.htScoreAway

/-- « Buts 1ère mi-temps ». -/
def firstHalfGoal (isHomeTeam : Bool) : Option DecisionOutcome :=
  if state.statusShort ∈ firstHalfStatuses then
    if (state.score isHomeTeam).any (·.isPositive) then some .won else none
  else if state.statusShort ∈ postHtStatuses then
    (state.htScore isHomeTeam).map fun goals => if goals.isPositive then .won else .lost
  else none

/-- « Buts match ». -/
def matchGoal (isHomeTeam : Bool) : Option DecisionOutcome :=
  if (state.score isHomeTeam).any (·.isPositive) then some .won
  else if state.statusShort ∈ finishedStatuses then some .lost
  else none

/-- Has the team scored since half-time?  Without the score at half-time, a finished match with a
goal counts. -/
def scoredInSecondHalf (isHomeTeam : Bool) : Bool :=
  match state.score isHomeTeam, state.htScore isHomeTeam with
  | some current, some ht => (current.sub ht).isPositive
  | some current, none => finishedStatuses.contains state.statusShort && current.isPositive
  | none, _ => false

/-- « Buts 2ème mi-temps ». -/
def secondHalfGoal (isHomeTeam : Bool) : Option DecisionOutcome :=
  if state.scoredInSecondHalf isHomeTeam then some .won
  else if state.statusShort ∈ finishedStatuses then some .lost
  else none

end FinalMatchState

/-- `resolveOutcome`: a bet is won as soon as the goal is scored, and lost when its period ends. -/
def resolveOutcome (bet : ResolvableBet) (state : FinalMatchState) : Option DecisionOutcome :=
  if state.statusShort ∈ voidStatuses then some .lost
  else if bet.marketType = "Buts 1ère mi-temps" then state.firstHalfGoal bet.isHomeTeam
  else if bet.marketType = "Buts match" then state.matchGoal bet.isHomeTeam
  else if bet.marketType = "Buts 2ème mi-temps" then state.secondHalfGoal bet.isHomeTeam
  else none

/-- `resolveSettlement`: a match called off is read as one still being played, and gives the stake
back where nothing was settled by then. -/
def resolveSettlement (bet : ResolvableBet) (state : FinalMatchState) : Option DecisionOutcome :=
  if state.statusShort ∈ voidStatuses then
    some ((resolveOutcome bet { state with statusShort := "2H" }).getD .void)
  else resolveOutcome bet state

/-! ## What it can say -/

theorem resolveOutcome_decided {bet : ResolvableBet} {state : FinalMatchState}
    {outcome : DecisionOutcome} (h : resolveOutcome bet state = some outcome) :
    outcome = .won ∨ outcome = .lost := by
  unfold resolveOutcome FinalMatchState.firstHalfGoal FinalMatchState.matchGoal
    FinalMatchState.secondHalfGoal at h
  split_ifs at h <;> simp_all
  obtain ⟨goals, -, rfl⟩ := h
  split_ifs <;> simp

/-- **A settlement is a win, a loss or a refund.** -/
theorem resolveSettlement_decided {bet : ResolvableBet} {state : FinalMatchState}
    {outcome : DecisionOutcome} (h : resolveSettlement bet state = some outcome) :
    outcome = .won ∨ outcome = .lost ∨ outcome = .void := by
  rw [resolveSettlement] at h
  split_ifs at h
  · rw [Option.some.injEq] at h
    cases hr : resolveOutcome bet { state with statusShort := "2H" } with
    | none =>
      rw [hr, Option.getD_none] at h
      exact .inr (.inr h.symm)
    | some o =>
      rw [hr, Option.getD_some] at h
      subst h
      exact (resolveOutcome_decided hr).imp_right .inl
  · exact (resolveOutcome_decided h).imp_right .inl

end ApiScore
