import ApiScore.Simulation.Resolver

/-!
# Results along a match

A bet may be settled while its match is still being played, so what the resolver says of a state has
to be what it says of every later one.  The provider reports a running minute, which the normaliser
makes `LIVE` in either half; the resolver takes `LIVE` for the first one.

* `normalizeApifootballStatus` — the statuses (`status.utils.ts`).
* `MatchHistory` — the states of one match, in order, with what happened in it.
* `MatchHistory.stable_iff` — the matches along which the results of a bet are stable.
-/

set_option autoImplicit false

namespace ApiScore

/-! ## Statuses -/

/-- `/^\d+(\+\d*)?$/`: the minute of a match being played. -/
def isMinuteText (raw : String) : Bool :=
  raw.toList.head?.any Char.isDigit &&
    match raw.toList.dropWhile Char.isDigit with
    | [] => true
    | '+' :: added => added.all Char.isDigit
    | _ => false

/-- `normalizeApifootballStatus`. -/
def normalizeApifootballStatus (raw : String) : String :=
  if raw = "" then "NS"
  else if isMinuteText raw then "LIVE"
  else if raw = "Finished" then "FT"
  else if raw = "Half Time" then "HT"
  else if raw = "Cancelled" then "CANC"
  else if raw = "Postponed" then "PST"
  else if raw = "Interrupted" then "INT"
  else if raw = "Abandoned" then "ABD"
  else if raw = "Awarded" then "AWD"
  else if raw = "Suspended" then "SUSP"
  else if raw = "Not Coverage" then "NS"
  else if raw = "Pen." then "PEN"
  else raw

example : normalizeApifootballStatus "45+" = "LIVE" := by decide

/-! ## The course of a match -/

inductive MatchPhase
  | firstHalf | halfTime | secondHalf | extraTime | finished
  deriving DecidableEq, Repr

def MatchPhase.rank : MatchPhase → Nat
  | .firstHalf => 0
  | .halfTime => 1
  | .secondHalf => 2
  | .extraTime => 3
  | .finished => 4

/-- How a match in this phase is reported. -/
def MatchPhase.Reports (phase : MatchPhase) (raw : String) : Prop :=
  match phase with
  | .firstHalf => isMinuteText raw = true ∨ raw = "1H"
  | .halfTime => raw = "Half Time" ∨ raw = "HT"
  | .secondHalf => isMinuteText raw = true ∨ raw = "2H"
  | .extraTime => isMinuteText raw = true ∨ raw ∈ ["ET", "BT", "P"]
  | .finished => raw ∈ ["Finished", "FT", "AET", "Pen.", "PEN", "Awarded", "AWD"]

/-- A match at an instant: what is reported of it, for the home team (`true`) and the other. -/
structure MatchPoint where
  phase : MatchPhase
  rawStatus : String
  score : Bool → Option Nat
  htScore : Bool → Option Nat

namespace MatchPoint

variable (p q : MatchPoint) (side : Bool)

def status : String := normalizeApifootballStatus p.rawStatus

/-- What the resolver is given. -/
def state : FinalMatchState where
  statusShort := p.status
  scoreHome := (p.score true).map fun n : Nat => .int n
  scoreAway := (p.score false).map fun n : Nat => .int n
  htScoreHome := (p.htScore true).map fun n : Nat => .int n
  htScoreAway := (p.htScore false).map fun n : Nat => .int n

/-- The resolver takes the match for one in its first half. -/
def ReadsFirstHalf : Prop := p.status ∈ firstHalfStatuses

instance : Decidable p.ReadsFirstHalf := inferInstanceAs (Decidable (_ ∈ _))

/-- A goal of the team is on the board. -/
def Scored : Prop := 0 < (p.score side).getD 0

instance : Decidable (p.Scored side) := inferInstanceAs (Decidable (_ < _))

/-- The team is ahead of its score at half-time; without one, of no goal. -/
def Ahead : Prop := (p.htScore side).getD 0 < (p.score side).getD 0

instance : Decidable (p.Ahead side) := inferInstanceAs (Decidable (_ < _))

/-- The match goes on from `p` to `q`: no goal is taken back, and the score at half-time stays. -/
structure Precedes : Prop where
  phase : p.phase.rank ≤ q.phase.rank
  score : ∀ side n, p.score side = some n → ∃ m, q.score side = some m ∧ n ≤ m
  htScore : ∀ side n, p.htScore side = some n → q.htScore side = some n

end MatchPoint

/-- The states in which a match was seen, being played or over. -/
structure MatchHistory where
  points : List MatchPoint
  /-- The score at half-time. -/
  firstHalfGoals : Bool → Nat
  reports : ∀ p ∈ points, p.phase.Reports p.rawStatus
  ordered : points.Pairwise MatchPoint.Precedes
  before : ∀ p ∈ points, p.phase = .firstHalf → ∀ side,
    p.htScore side = none ∧ ∀ n, p.score side = some n → n ≤ firstHalfGoals side
  atHalfTime : ∀ p ∈ points, p.phase = .halfTime → ∀ side n,
    p.score side = some n → n = firstHalfGoals side
  after : ∀ p ∈ points, p.phase ≠ .firstHalf → ∀ side n,
    p.score side = some n → firstHalfGoals side ≤ n
  halfTime : ∀ p ∈ points, ∀ side n, p.htScore side = some n → n = firstHalfGoals side

/-! ## What the resolver says -/

theorem status_of_minute {raw : String} (h : isMinuteText raw = true) :
    normalizeApifootballStatus raw = "LIVE" := by
  have hne : raw ≠ "" := by
    rintro rfl
    exact absurd h (by decide)
  rw [normalizeApifootballStatus, if_neg hne, if_pos h]

/-- What the status of a match says of its phase. -/
theorem MatchPhase.Reports.status {phase : MatchPhase} {raw : String} (h : phase.Reports raw) :
    normalizeApifootballStatus raw ∉ voidStatuses ∧
      (normalizeApifootballStatus raw ∉ firstHalfStatuses →
        normalizeApifootballStatus raw ∈ postHtStatuses ∧ phase ≠ .firstHalf) ∧
      (normalizeApifootballStatus raw ∈ finishedStatuses ↔ phase = .finished) := by
  cases phase with
  | firstHalf =>
    rcases h with h | rfl
    · rw [status_of_minute h]
      decide
    · decide
  | halfTime => rcases h with rfl | rfl <;> decide
  | secondHalf =>
    rcases h with h | rfl
    · rw [status_of_minute h]
      decide
    · decide
  | extraTime =>
    rcases h with h | h
    · rw [status_of_minute h]
      decide
    · revert raw
      decide
  | finished =>
    revert raw
    show ∀ raw ∈ _, _
    decide

@[simp] theorem isPositive_int (n : Nat) : (JsNumber.int n).isPositive = decide (0 < n) := by
  simp [JsNumber.int, JsNumber.isPositive]

@[simp] theorem isPositive_sub_int (n m : Nat) :
    ((JsNumber.int n).sub (JsNumber.int m)).isPositive = decide (m < n) := by
  simp [JsNumber.int, JsNumber.sub, JsNumber.isPositive]

section Point

variable {p : MatchPoint} {side : Bool}

@[simp] theorem MatchPoint.score_state :
    p.state.score side = (p.score side).map fun n : Nat => .int n := by
  cases side <;> rfl

@[simp] theorem MatchPoint.htScore_state :
    p.state.htScore side = (p.htScore side).map fun n : Nat => .int n := by
  cases side <;> rfl

theorem MatchPoint.any_score :
    ((p.score side).map fun n : Nat => JsNumber.int n).any (·.isPositive) = true ↔
      p.Scored side := by
  rw [Scored]
  cases p.score side <;> simp

variable (h : p.phase.Reports p.rawStatus)

include h

theorem MatchPoint.not_void : p.state.statusShort ∉ voidStatuses := h.status.1

theorem MatchPoint.finished_iff : p.state.statusShort ∈ finishedStatuses ↔ p.phase = .finished :=
  h.status.2.2

/-- A settlement is a result: the match has not been called off. -/
theorem resolveSettlement_point (bet : ResolvableBet) :
    resolveSettlement bet p.state = resolveOutcome bet p.state := by
  rw [resolveSettlement, if_neg (MatchPoint.not_void h)]

theorem resolveOutcome_firstHalf :
    resolveOutcome ⟨"Buts 1ère mi-temps", side⟩ p.state =
      if p.ReadsFirstHalf then (if p.Scored side then some .won else none)
      else (p.htScore side).map fun n => if 0 < n then .won else .lost := by
  rw [resolveOutcome, if_neg (MatchPoint.not_void h), if_pos rfl, FinalMatchState.firstHalfGoal]
  by_cases hfirst : p.ReadsFirstHalf
  · rw [if_pos hfirst, if_pos (c := p.state.statusShort ∈ firstHalfStatuses) hfirst]
    simp only [MatchPoint.score_state, MatchPoint.any_score]
  · have hpost : p.state.statusShort ∈ postHtStatuses := (h.status.2.1 hfirst).1
    rw [if_neg hfirst, if_neg (c := p.state.statusShort ∈ firstHalfStatuses) hfirst, if_pos hpost,
      MatchPoint.htScore_state, Option.map_map]
    simp only [Function.comp_def, isPositive_int, decide_eq_true_eq]

theorem resolveOutcome_match :
    resolveOutcome ⟨"Buts match", side⟩ p.state =
      if p.Scored side then some .won else if p.phase = .finished then some .lost else none := by
  rw [resolveOutcome, if_neg (MatchPoint.not_void h),
    if_neg (show ¬ "Buts match" = "Buts 1ère mi-temps" by decide), if_pos rfl,
    FinalMatchState.matchGoal]
  simp only [MatchPoint.score_state, MatchPoint.any_score, MatchPoint.finished_iff h]

theorem resolveOutcome_secondHalf :
    resolveOutcome ⟨"Buts 2ème mi-temps", side⟩ p.state =
      if p.Ahead side ∧ (p.phase = .finished ∨ p.htScore side ≠ none) then some .won
      else if p.phase = .finished then some .lost else none := by
  rw [resolveOutcome, if_neg (MatchPoint.not_void h),
    if_neg (show ¬ "Buts 2ème mi-temps" = "Buts 1ère mi-temps" by decide),
    if_neg (show ¬ "Buts 2ème mi-temps" = "Buts match" by decide), if_pos rfl,
    FinalMatchState.secondHalfGoal]
  have hahead : p.state.scoredInSecondHalf side = true ↔
      p.Ahead side ∧ (p.phase = .finished ∨ p.htScore side ≠ none) := by
    rw [FinalMatchState.scoredInSecondHalf, MatchPoint.Ahead]
    rw [MatchPoint.score_state, MatchPoint.htScore_state]
    cases p.score side with
    | none => simp
    | some n =>
      cases p.htScore side with
      | none => simp [MatchPoint.finished_iff h, and_comm]
      | some ht => simp
  simp only [hahead, MatchPoint.finished_iff h]

end Point

/-! ## Stability -/

namespace MatchHistory

variable (H : MatchHistory) (bet : ResolvableBet)

/-- A result, once given, is given in every later state; and a bet on a goal in the first half is
won only by a team that scored one. -/
structure Stable : Prop where
  outcome : H.points.Pairwise fun p q => ∀ o,
    resolveOutcome bet p.state = some o → resolveOutcome bet q.state = some o
  settlement : H.points.Pairwise fun p q => ∀ o,
    resolveSettlement bet p.state = some o → resolveSettlement bet q.state = some o
  firstHalf : bet.marketType = "Buts 1ère mi-temps" → ∀ p ∈ H.points,
    (resolveOutcome bet p.state = some .won ∨ resolveSettlement bet p.state = some .won) →
      0 < H.firstHalfGoals bet.isHomeTeam

/-- What a bet on the first half needs of the states read as that half. -/
structure FirstHalfClear (side : Bool) : Prop where
  /-- None of them shows a goal of a team that scored none in the first half. -/
  scored : ∀ p ∈ H.points, p.ReadsFirstHalf → p.Scored side → 0 < H.firstHalfGoals side
  /-- After a goal, a state read as a later one has the score at half-time. -/
  known : H.points.Pairwise fun p q =>
    p.ReadsFirstHalf → p.Scored side → ¬ q.ReadsFirstHalf → q.htScore side ≠ none
  /-- After the score at half-time was read, none of them is seen, unless the team had scored and
  its goals are still shown. -/
  closed : H.points.Pairwise fun p q =>
    ¬ p.ReadsFirstHalf → p.htScore side ≠ none → q.ReadsFirstHalf →
      0 < H.firstHalfGoals side ∧ q.score side ≠ none

/-- What a bet needs of the match for its results to be stable. -/
structure Decisive : Prop where
  firstHalf : bet.marketType = "Buts 1ère mi-temps" → H.FirstHalfClear bet.isHomeTeam
  /-- No first goal is added after the end. -/
  fullMatch : bet.marketType = "Buts match" → H.points.Pairwise fun p q =>
    p.phase = .finished → (p.Scored bet.isHomeTeam ↔ q.Scored bet.isHomeTeam)
  /-- Neither a goal nor the score at half-time is added after the end in a way that puts the team
  ahead, or back. -/
  secondHalf : bet.marketType = "Buts 2ème mi-temps" → H.points.Pairwise fun p q =>
    p.phase = .finished → (p.Ahead bet.isHomeTeam ↔ q.Ahead bet.isHomeTeam)

variable {H bet}

/-- Two relations that agree where one state comes before the other. -/
theorem pairwise_iff {R S : MatchPoint → MatchPoint → Prop}
    (h : ∀ {p q}, p ∈ H.points → q ∈ H.points → p.Precedes q → (R p q ↔ S p q)) :
    H.points.Pairwise R ↔ H.points.Pairwise S := by
  constructor
  · intro hR
    exact (hR.and H.ordered).imp_of_mem fun hp hq hpq => (h hp hq hpq.2).1 hpq.1
  · intro hS
    exact (hS.and H.ordered).imp_of_mem fun hp hq hpq => (h hp hq hpq.2).2 hpq.1

theorem finished_of_precedes {p q : MatchPoint} (h : p.Precedes q) (hp : p.phase = .finished) :
    q.phase = .finished := by
  have hrank := h.phase
  rw [hp] at hrank
  revert hrank
  cases q.phase <;> decide

theorem scored_of_precedes {p q : MatchPoint} (h : p.Precedes q) {side : Bool}
    (hp : p.Scored side) : q.Scored side := by
  rw [MatchPoint.Scored] at hp ⊢
  cases hs : p.score side with
  | none => simp [hs] at hp
  | some n =>
    obtain ⟨m, hm, hnm⟩ := h.score side n hs
    rw [hs, Option.getD_some] at hp
    rw [hm, Option.getD_some]
    omega

/-- With the score at half-time known, being ahead lasts. -/
theorem ahead_of_precedes {p q : MatchPoint} (h : p.Precedes q) {side : Bool}
    (hht : p.htScore side ≠ none) (hp : p.Ahead side) : q.Ahead side := by
  rw [MatchPoint.Ahead] at hp ⊢
  obtain ⟨ht, hht⟩ := Option.ne_none_iff_exists'.1 hht
  rw [h.htScore side ht hht]
  cases hs : p.score side with
  | none => simp [hs] at hp
  | some n =>
    obtain ⟨m, hm, hnm⟩ := h.score side n hs
    rw [hs, hht, Option.getD_some, Option.getD_some] at hp
    rw [hm, Option.getD_some, Option.getD_some]
    omega

/-- The match: only a goal added after the end changes what was lost. -/
theorem match_iff {side : Bool} {p q : MatchPoint} (hp : p ∈ H.points) (hq : q ∈ H.points)
    (h : p.Precedes q) :
    (∀ o, resolveOutcome ⟨"Buts match", side⟩ p.state = some o →
      resolveOutcome ⟨"Buts match", side⟩ q.state = some o) ↔
    (p.phase = .finished → (p.Scored side ↔ q.Scored side)) := by
  rw [resolveOutcome_match (H.reports p hp), resolveOutcome_match (H.reports q hq)]
  by_cases hscored : p.Scored side
  · simp [hscored, scored_of_precedes h hscored]
  · by_cases hfinished : p.phase = .finished
    · by_cases hq : q.Scored side <;> simp [hscored, hfinished, hq, finished_of_precedes h hfinished]
    · simp [hscored, hfinished]

/-- The second half: the same, and the score at half-time counts. -/
theorem secondHalf_iff {side : Bool} {p q : MatchPoint} (hp : p ∈ H.points) (hq : q ∈ H.points)
    (h : p.Precedes q) :
    (∀ o, resolveOutcome ⟨"Buts 2ème mi-temps", side⟩ p.state = some o →
      resolveOutcome ⟨"Buts 2ème mi-temps", side⟩ q.state = some o) ↔
    (p.phase = .finished → (p.Ahead side ↔ q.Ahead side)) := by
  rw [resolveOutcome_secondHalf (H.reports p hp), resolveOutcome_secondHalf (H.reports q hq)]
  by_cases hfinished : p.phase = .finished
  · have hqfinished := finished_of_precedes h hfinished
    by_cases hahead : p.Ahead side <;> by_cases hq : q.Ahead side <;>
      simp [hahead, hfinished, hq, hqfinished]
  · by_cases hahead : p.Ahead side ∧ p.htScore side ≠ none
    · have hht : q.htScore side ≠ none := by
        obtain ⟨ht, hht⟩ := Option.ne_none_iff_exists'.1 hahead.2
        simp [h.htScore side ht hht]
      simp [hahead.1, hahead.2, hfinished, hht, ahead_of_precedes h hahead.2 hahead.1]
    · simp only [hfinished, false_or, if_neg hahead, if_false]
      simp

/-- A team that scored in the first half is seen to have scored ever after. -/
theorem scored_of_after {side : Bool} {q : MatchPoint} (hq : q ∈ H.points)
    (hphase : q.phase ≠ .firstHalf) (hgoals : 0 < H.firstHalfGoals side)
    (hscore : q.score side ≠ none) : q.Scored side := by
  obtain ⟨m, hm⟩ := Option.ne_none_iff_exists'.1 hscore
  have hle := H.after q hq hphase side m hm
  show 0 < (q.score side).getD 0
  rw [hm, Option.getD_some]
  omega

/-- The first half is not played again. -/
theorem not_firstHalf_of_precedes {p q : MatchPoint} (h : p.Precedes q)
    (hp : p.phase ≠ .firstHalf) : q.phase ≠ .firstHalf := by
  intro hq
  have hrank := h.phase
  rw [hq] at hrank
  revert hp hrank
  cases p.phase <;> decide

/-- The first half: its states and the later ones are read by their status alone. -/
theorem firstHalf_iff {side : Bool} {p q : MatchPoint} (hp : p ∈ H.points) (hq : q ∈ H.points)
    (h : p.Precedes q)
    (hgoals : p.ReadsFirstHalf → p.Scored side → 0 < H.firstHalfGoals side) :
    (∀ o, resolveOutcome ⟨"Buts 1ère mi-temps", side⟩ p.state = some o →
      resolveOutcome ⟨"Buts 1ère mi-temps", side⟩ q.state = some o) ↔
    (p.ReadsFirstHalf → p.Scored side → ¬ q.ReadsFirstHalf → q.htScore side ≠ none) ∧
      (¬ p.ReadsFirstHalf → p.htScore side ≠ none → q.ReadsFirstHalf →
        0 < H.firstHalfGoals side ∧ q.score side ≠ none) := by
  rw [resolveOutcome_firstHalf (H.reports p hp), resolveOutcome_firstHalf (H.reports q hq)]
  by_cases hpfirst : p.ReadsFirstHalf
  · by_cases hscored : p.Scored side
    · by_cases hqfirst : q.ReadsFirstHalf
      · simp [hpfirst, hqfirst, hscored, scored_of_precedes h hscored]
      · cases hht : q.htScore side with
        | none => simp [hpfirst, hqfirst, hscored]
        | some n =>
          have hn : 0 < n := by
            rw [H.halfTime q hq side n hht]
            exact hgoals hpfirst hscored
          simp [hpfirst, hqfirst, hscored, hn]
    · simp [hpfirst, hscored]
  · cases hht : p.htScore side with
    | none => simp [hpfirst]
    | some n =>
      have hn : n = H.firstHalfGoals side := H.halfTime p hp side n hht
      by_cases hqfirst : q.ReadsFirstHalf
      · have hphase := not_firstHalf_of_precedes h ((H.reports p hp).status.2.1 hpfirst).2
        have hscored : 0 < H.firstHalfGoals side ∧ q.score side ≠ none ↔
            0 < H.firstHalfGoals side ∧ q.Scored side := by
          refine and_congr_right fun hpos => ⟨scored_of_after hq hphase hpos, ?_⟩
          intro hq hnone
          simp [MatchPoint.Scored, hnone] at hq
        simp only [hpfirst, hqfirst, hscored, if_true, if_false, Option.map_some]
        by_cases hpos : 0 < n <;> by_cases hqs : q.Scored side <;> simp [hpos, hqs, ← hn]
      · simp [hpfirst, hqfirst, h.htScore side n hht]

/-- **Along which matches the results of a bet are stable.** -/
theorem stable_iff (H : MatchHistory) (bet : ResolvableBet) : H.Stable bet ↔ H.Decisive bet := by
  obtain ⟨marketType, side⟩ := bet
  have hsettle : (H.points.Pairwise fun p q => ∀ o,
      resolveSettlement ⟨marketType, side⟩ p.state = some o →
        resolveSettlement ⟨marketType, side⟩ q.state = some o) ↔
      H.points.Pairwise fun p q => ∀ o, resolveOutcome ⟨marketType, side⟩ p.state = some o →
        resolveOutcome ⟨marketType, side⟩ q.state = some o := by
    refine H.pairwise_iff fun hp hq _ => ?_
    rw [resolveSettlement_point (H.reports _ hp), resolveSettlement_point (H.reports _ hq)]
  constructor
  · rintro ⟨hstable, -, hwon⟩
    refine ⟨?_, ?_, ?_⟩
    · rintro rfl
      have hscored : ∀ p ∈ H.points, p.ReadsFirstHalf → p.Scored side →
          0 < H.firstHalfGoals side := by
        intro p hp hfirst hs
        refine hwon rfl p hp (.inl ?_)
        rw [resolveOutcome_firstHalf (H.reports p hp), if_pos hfirst, if_pos hs]
      have hpairs := (H.pairwise_iff fun hp hq h =>
        firstHalf_iff hp hq h (hscored _ hp)).1 hstable
      obtain ⟨hknown, hclosed⟩ := List.pairwise_and_iff.1 hpairs
      exact ⟨hscored, hknown, hclosed⟩
    · rintro rfl
      exact (H.pairwise_iff match_iff).1 hstable
    · rintro rfl
      exact (H.pairwise_iff secondHalf_iff).1 hstable
  · rintro ⟨hfirst, hmatch, hsecond⟩
    have hstable : H.points.Pairwise fun p q => ∀ o,
        resolveOutcome ⟨marketType, side⟩ p.state = some o →
          resolveOutcome ⟨marketType, side⟩ q.state = some o := by
      by_cases h1 : marketType = "Buts 1ère mi-temps"
      · obtain rfl := h1
        obtain ⟨hscored, hknown, hclosed⟩ := hfirst rfl
        exact (H.pairwise_iff fun hp hq h => firstHalf_iff hp hq h (hscored _ hp)).2
          (hknown.and hclosed)
      by_cases h2 : marketType = "Buts match"
      · obtain rfl := h2
        exact (H.pairwise_iff match_iff).2 (hmatch rfl)
      by_cases h3 : marketType = "Buts 2ème mi-temps"
      · obtain rfl := h3
        exact (H.pairwise_iff secondHalf_iff).2 (hsecond rfl)
      · -- a bet on another market is never settled
        refine List.Pairwise.imp_of_mem (R := fun _ _ => True) (fun hp _ _ o ho => ?_)
          (List.pairwise_of_forall fun _ _ => trivial)
        rw [resolveOutcome, if_neg (MatchPoint.not_void (H.reports _ hp)), if_neg h1, if_neg h2,
          if_neg h3] at ho
        cases ho
    refine ⟨hstable, hsettle.2 hstable, ?_⟩
    rintro rfl p hp hwon
    rw [resolveSettlement_point (H.reports p hp), or_self,
      resolveOutcome_firstHalf (H.reports p hp)] at hwon
    split_ifs at hwon with hreads hs
    · exact (hfirst rfl).scored p hp hreads hs
    · cases hht : p.htScore side with
      | none => simp [hht] at hwon
      | some n =>
        rw [← H.halfTime p hp side n hht]
        by_contra hn
        simp [hht, hn] at hwon

end MatchHistory

/-! ## A goal in the second half -/

namespace Sample

/-- No goal at half-time, and one of the home team in the second half. -/
def lateGoal : MatchHistory where
  points :=
    [⟨.halfTime, "Half Time", fun _ => some 0, fun _ => some 0⟩,
      ⟨.secondHalf, "60", fun side => some (if side then 1 else 0), fun _ => some 0⟩]
  firstHalfGoals _ := 0
  reports := by
    rintro p hp
    simp only [List.mem_cons, List.not_mem_nil, or_false] at hp
    rcases hp with rfl | rfl
    · exact .inl rfl
    · exact .inl (by decide)
  ordered := by
    refine List.pairwise_pair.2 ⟨by decide, ?_, ?_⟩
    · rintro side n hn
      exact ⟨_, rfl, by simp [← Option.some.inj hn]⟩
    · exact fun _ _ h => h
  before := by simp
  atHalfTime := by simp
  after := by simp
  halfTime := by
    rintro p hp side n hn
    simp only [List.mem_cons, List.not_mem_nil, or_false] at hp
    rcases hp with rfl | rfl <;> exact (Option.some.inj hn).symm

end Sample

/-- The bet on a goal in the first half is lost at half-time, and won at the hour. -/
theorem late_goal_unstable :
    ¬ ∀ (H : MatchHistory) (bet : ResolvableBet), H.Stable bet := by
  intro h
  have hstable := (h Sample.lateGoal ⟨"Buts 1ère mi-temps", true⟩).outcome
  have hlate := List.pairwise_pair.1 hstable .lost (by decide)
  exact absurd hlate (by decide)

end ApiScore
