import ApiScore.Simulation.Resolver

/-!
# Outcomes that are already there when a match is broken off

`resolveSettlement` refunds a bet on a match that was broken off, unless its outcome was there already:
it reads the match again as one in its second half.

* `resolveSettlement_interrupted` — what is read then.
* `acquired_survives_iff` — which outcomes survive that.
* `acquired_goal_refunded` — a goal of a first half that was broken off.
-/

set_option autoImplicit false

namespace ApiScore

/-- `LIVE_STATUSES`: the match is being played. -/
def liveStatuses : List String := ["1H", "2H", "HT", "ET", "P", "LIVE", "BT"]

/-- The match, broken off with this status. -/
def FinalMatchState.interrupted (state : FinalMatchState) (status : String) : FinalMatchState :=
  { state with statusShort := status }

section

variable {bet : ResolvableBet} {state : FinalMatchState} {status : String}

/-- A match that was broken off is read as one in its second half. -/
theorem resolveSettlement_interrupted (h : status ∈ voidStatuses) :
    resolveSettlement bet (state.interrupted status) =
      some ((resolveOutcome bet (state.interrupted "2H")).getD .void) := by
  rw [resolveSettlement]
  exact if_pos h

/-- Unless the half-time score says so, a goal of the first half is not seen in the second one. -/
theorem firstHalfGoal_interrupted {isHomeTeam : Bool} {outcome : DecisionOutcome}
    (hfirst : state.statusShort ∈ firstHalfStatuses)
    (h : state.firstHalfGoal isHomeTeam = some outcome) :
    ((state.interrupted "2H").firstHalfGoal isHomeTeam).getD .void = outcome ↔
      (state.htScore isHomeTeam).any (·.isPositive) = true := by
  rw [FinalMatchState.firstHalfGoal, if_pos hfirst] at h
  split_ifs at h with hgoal
  obtain rfl := Option.some.inj h
  have hread : (state.interrupted "2H").firstHalfGoal isHomeTeam =
      (state.htScore isHomeTeam).map fun goals => if goals.isPositive then .won else .lost := by
    have hnot : "2H" ∉ firstHalfStatuses := by decide
    have hpost : "2H" ∈ postHtStatuses := by decide
    exact (if_neg hnot).trans (if_pos hpost)
  rw [hread]
  cases state.htScore isHomeTeam with
  | none => simp
  | some goals => cases hpos : goals.isPositive <;> simp [hpos]

/-- A match being played is over in none of its statuses. -/
theorem not_finished_of_live (h : state.statusShort ∈ liveStatuses) :
    state.statusShort ∉ finishedStatuses ∧ state.statusShort ∉ voidStatuses ∧
      (state.statusShort ∉ firstHalfStatuses → state.statusShort ∈ postHtStatuses) := by
  revert h
  generalize state.statusShort = status
  intro h
  simp only [liveStatuses, List.mem_cons, List.not_mem_nil, or_false] at h
  rcases h with rfl | rfl | rfl | rfl | rfl | rfl | rfl <;> decide

/-- The other outcomes are read alike in the second half. -/
theorem resolveOutcome_interrupted (hlive : state.statusShort ∈ liveStatuses)
    (hother : bet.marketType = "Buts 1ère mi-temps" → state.statusShort ∉ firstHalfStatuses) :
    resolveOutcome bet (state.interrupted "2H") = resolveOutcome bet state := by
  obtain ⟨hfinished, hvoid, hpost⟩ := not_finished_of_live hlive
  have hvoid' : (state.interrupted "2H").statusShort ∉ voidStatuses :=
    show "2H" ∉ voidStatuses by decide
  have hfinished' : (state.interrupted "2H").statusShort ∉ finishedStatuses :=
    show "2H" ∉ finishedStatuses by decide
  rw [resolveOutcome, resolveOutcome, if_neg hvoid, if_neg hvoid']
  by_cases hmarket : bet.marketType = "Buts 1ère mi-temps"
  · have hnot : "2H" ∉ firstHalfStatuses := by decide
    have hpost' : "2H" ∈ postHtStatuses := by decide
    rw [if_pos hmarket, if_pos hmarket, FinalMatchState.firstHalfGoal,
      FinalMatchState.firstHalfGoal, if_neg (hother hmarket), if_pos (hpost (hother hmarket))]
    exact (if_neg hnot).trans (if_pos hpost')
  · rw [if_neg hmarket, if_neg hmarket]
    have hmatch : (state.interrupted "2H").matchGoal bet.isHomeTeam =
        state.matchGoal bet.isHomeTeam := by
      rw [FinalMatchState.matchGoal, FinalMatchState.matchGoal, if_neg hfinished, if_neg hfinished']
      rfl
    have hscored : (state.interrupted "2H").scoredInSecondHalf bet.isHomeTeam =
        state.scoredInSecondHalf bet.isHomeTeam := by
      have hlisted : finishedStatuses.contains state.statusShort = false := by
        rwa [← Bool.not_eq_true, List.contains_iff_mem]
      have hlisted' : finishedStatuses.contains (state.interrupted "2H").statusShort = false := rfl
      simp only [FinalMatchState.scoredInSecondHalf, hlisted, hlisted']
      rfl
    rw [hmatch, FinalMatchState.secondHalfGoal, FinalMatchState.secondHalfGoal, hscored,
      if_neg hfinished, if_neg hfinished']

/-- **Which outcomes survive an interruption**: all of them, but a goal of the first half scored so
far that the half-time score does not have. -/
theorem acquired_survives_iff {outcome : DecisionOutcome} (hlive : state.statusShort ∈ liveStatuses)
    (h : resolveOutcome bet state = some outcome) :
    (∀ status ∈ voidStatuses, resolveSettlement bet (state.interrupted status) = some outcome) ↔
      ¬ (bet.marketType = "Buts 1ère mi-temps" ∧ state.statusShort ∈ firstHalfStatuses ∧
        (state.htScore bet.isHomeTeam).any (·.isPositive) = false) := by
  have hall : (∀ status ∈ voidStatuses,
      resolveSettlement bet (state.interrupted status) = some outcome) ↔
        (resolveOutcome bet (state.interrupted "2H")).getD .void = outcome := by
    constructor
    · intro hsettle
      have hint := hsettle "INT" (by decide)
      rw [resolveSettlement_interrupted (by decide)] at hint
      exact Option.some.inj hint
    · intro heq status hstatus
      rw [resolveSettlement_interrupted hstatus, heq]
  rw [hall]
  by_cases hgoal : bet.marketType = "Buts 1ère mi-temps" ∧ state.statusShort ∈ firstHalfStatuses
  · obtain ⟨hfirst, hstatus⟩ := hgoal
    obtain ⟨-, hvoid, -⟩ := not_finished_of_live hlive
    have hread : ∀ s : FinalMatchState, s.statusShort ∉ voidStatuses →
        resolveOutcome bet s = s.firstHalfGoal bet.isHomeTeam :=
      fun s hs => (if_neg hs).trans (if_pos hfirst)
    rw [hread state hvoid] at h
    rw [hread _ (show "2H" ∉ voidStatuses by decide), firstHalfGoal_interrupted hstatus h]
    simp [hfirst, hstatus]
  · rw [resolveOutcome_interrupted hlive fun hfirst hstatus => hgoal ⟨hfirst, hstatus⟩, h]
    refine iff_of_true rfl fun ⟨hfirst, hstatus, _⟩ => hgoal ⟨hfirst, hstatus⟩

end

namespace Sample

/-- One goal of the home side in the first half, whose score is not known yet. -/
def firstHalfLead : FinalMatchState where
  statusShort := "1H"
  scoreHome := some (.num 1)
  scoreAway := some (.num 0)
  htScoreHome := none
  htScoreAway := none

/-- Half-time, one goal to none. -/
def halfTimeLead : FinalMatchState :=
  { firstHalfLead with
    statusShort := "HT", htScoreHome := some (.num 1), htScoreAway := some (.num 0) }

end Sample

/-- At half-time the goal is kept. -/
theorem acquired_survives_halfTime :
    (∀ status ∈ voidStatuses, resolveSettlement ⟨"Buts 1ère mi-temps", true⟩
      (Sample.halfTimeLead.interrupted status) = some .won) ↔
      ¬ ("Buts 1ère mi-temps" = "Buts 1ère mi-temps" ∧ "HT" ∈ firstHalfStatuses ∧
        (Sample.halfTimeLead.htScore true).any (·.isPositive) = false) := by
  have hwon : resolveOutcome ⟨"Buts 1ère mi-temps", true⟩ Sample.halfTimeLead = some .won := by
    decide +kernel
  exact acquired_survives_iff (by decide) hwon

/-- **A goal of the first half, won already, is refunded when the match is abandoned.** -/
theorem acquired_goal_refunded :
    Sample.firstHalfLead.statusShort ∈ liveStatuses ∧ "ABD" ∈ voidStatuses ∧
      resolveOutcome ⟨"Buts 1ère mi-temps", true⟩ Sample.firstHalfLead = some .won ∧
      resolveSettlement ⟨"Buts 1ère mi-temps", true⟩ (Sample.firstHalfLead.interrupted "ABD") =
        some .void := by
  decide +kernel

end ApiScore
