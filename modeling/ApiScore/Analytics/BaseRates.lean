import ApiScore.History.GoalHalves
import ApiScore.Lib.Double
import ApiScore.Lib.Grouping

/-!
# Base rates

`base-rates.calculator.ts`: of the teams whose signal reached a threshold, the part for which the
event of a market occurred, for every league, season, market, signal and threshold with a sample.

* `computeBaseRates` — the rates of a list of observations.
* `mem_computeBaseRates` — which rates there are, and of which counts they are.
* `pairwise_computeBaseRates` — no two of them are of the same key.
* `round4_bounds` — how far a rate is from the quotient of its counts.
-/

set_option autoImplicit false

namespace ApiScore

open Double Grouping

/-! ## The calculator -/

inductive BaseRateSignal
  | totalShots
  | onTarget
  | pressureIndex
  deriving DecidableEq

/-- `BASE_RATE_SIGNALS`. -/
def baseRateSignals : List BaseRateSignal := [.totalShots, .onTarget, .pressureIndex]

/-- `DEFAULT_THRESHOLDS`. -/
def defaultThresholds : BaseRateSignal → List Int
  | .totalShots => [1, 2, 3, 4, 5, 6, 7, 8, 9, 10]
  | .onTarget => [1, 2, 3, 4, 5, 6, 7, 8]
  | .pressureIndex => [10, 20, 30, 40, 50, 60, 70, 80]

def BaseRateMarket.text : BaseRateMarket → String
  | .goal1h => "goal_1h"
  | .goal2h => "goal_2h"
  | .goalFt => "goal_ft"

/-- `signals[signal]`. -/
def BaseRateSignals.value (signals : BaseRateSignals) : BaseRateSignal → JsNumber
  | .totalShots => signals.totalShots
  | .onTarget => signals.onTarget
  | .pressureIndex => signals.pressureIndex

structure ComputedBaseRate where
  leagueId : JsNumber
  season : JsNumber
  market : BaseRateMarket
  signal : BaseRateSignal
  threshold : Int
  sampleSize : Nat
  observedRate : ℚ
  deriving DecidableEq

/-- `round4`, with the decimals that the column `DECIMAL(6,4)` keeps of the double. -/
def round4 (value : ℚ) : ℚ := jsRound (double (value * 10000)) / 10000

/-- `obs.signals[signal] >= threshold`. -/
def TeamMatchObservation.atLeast (obs : TeamMatchObservation) (signal : BaseRateSignal)
    (threshold : Int) : Bool := (obs.signals.value signal).geRat threshold

section Calculator

variable (numberText : JsNumber → String) (thresholds : BaseRateSignal → List Int)
  (minSample : Nat)

def groupKey (o : TeamMatchObservation) : String :=
  numberText o.leagueId ++ "|" ++ numberText o.season ++ "|" ++ o.market.text

/-- The rate of a bucket, whose first observation is `first`, where the sample is large enough. -/
def bucketRate (bucket : List TeamMatchObservation) (first : TeamMatchObservation)
    (signal : BaseRateSignal) (threshold : Int) : Option ComputedBaseRate :=
  let sampleSize := bucket.countP (·.atLeast signal threshold)
  let positives := bucket.countP fun o => o.atLeast signal threshold && o.eventOccurred
  if sampleSize < minSample then none
  else some
    { leagueId := first.leagueId, season := first.season, market := first.market, signal, threshold,
      sampleSize, observedRate := round4 (double (positives / sampleSize)) }

def bucketRates (bucket : List TeamMatchObservation) : List ComputedBaseRate :=
  match bucket with
  | [] => []
  | first :: _ => baseRateSignals.flatMap fun signal =>
      (thresholds signal).filterMap (bucketRate minSample bucket first signal)

/-- `computeBaseRates`, for a sample of one at least. -/
def computeBaseRates (observations : List TeamMatchObservation) : List ComputedBaseRate :=
  (groupBy (groupKey numberText) observations).flatMap fun group =>
    bucketRates thresholds minSample group.2

end Calculator

/-! ## The counts -/

/-- The teams whose signal reached the threshold, for a market. -/
def sampleOf (observations : List TeamMatchObservation) (market : BaseRateMarket)
    (signal : BaseRateSignal) (threshold : Int) : Nat :=
  observations.countP fun o => decide (o.market = market) && o.atLeast signal threshold

/-- Those of them for which the event occurred. -/
def positivesOf (observations : List TeamMatchObservation) (market : BaseRateMarket)
    (signal : BaseRateSignal) (threshold : Int) : Nat :=
  observations.countP fun o =>
    decide (o.market = market) && (o.atLeast signal threshold && o.eventOccurred)

section Counts

variable {observations observations' : List TeamMatchObservation} {market : BaseRateMarket}
  {signal : BaseRateSignal} {threshold threshold' : Int}

/-- **A higher threshold has a smaller sample.** -/
theorem sampleOf_antitone (h : threshold ≤ threshold') :
    sampleOf observations market signal threshold' ≤
      sampleOf observations market signal threshold := by
  refine List.countP_mono_left fun o _ ho => ?_
  rw [Bool.and_eq_true] at ho ⊢
  refine ⟨ho.1, ?_⟩
  have hle : (threshold : ℚ) ≤ threshold' := by exact_mod_cast h
  have hge := ho.2
  rw [TeamMatchObservation.atLeast] at hge ⊢
  cases hvalue : o.signals.value signal with
  | num q =>
    rw [hvalue] at hge
    exact decide_eq_true (hle.trans (of_decide_eq_true hge))
  | inf => rfl
  | negInf | nan =>
    rw [hvalue] at hge
    cases hge

theorem positivesOf_le : positivesOf observations market signal threshold ≤
    sampleOf observations market signal threshold := by
  refine List.countP_mono_left fun o _ ho => ?_
  simp only [Bool.and_eq_true] at ho ⊢
  exact ⟨ho.1, ho.2.1⟩

/-- The order of the observations does not matter. -/
theorem sampleOf_perm (h : observations.Perm observations') :
    sampleOf observations market signal threshold =
      sampleOf observations' market signal threshold := h.countP_eq _

theorem positivesOf_perm (h : observations.Perm observations') :
    positivesOf observations market signal threshold =
      positivesOf observations' market signal threshold := h.countP_eq _

end Counts

/-- An observation is of the league and the season of its match. -/
theorem pair_of_mem {number : JsValue → JsNumber} {fixture : FixtureRow}
    {snapshots : List SnapshotRow} {goals : List GoalRow} {o : TeamMatchObservation}
    (h : o ∈ buildObservations number fixture snapshots goals) :
    fixture.leagueId = some o.leagueId ∧ fixture.season = some o.season := by
  have hteam : ∀ {leagueId season teamId : JsNumber},
      o ∈ teamObservations number leagueId season snapshots goals teamId →
        o.leagueId = leagueId ∧ o.season = season := by
    intro leagueId season teamId ho
    simp only [teamObservations] at ho
    split at ho
    · cases ho
    · rcases List.mem_append.1 ho with ho | ho
      · rcases List.mem_cons.1 ho with rfl | ho
        · exact ⟨rfl, rfl⟩
        · rw [List.mem_singleton.1 ho]
          exact ⟨rfl, rfl⟩
      · split at ho
        · cases ho
        · rw [List.mem_singleton.1 ho]
          exact ⟨rfl, rfl⟩
  simp only [buildObservations] at h
  split at h
  · rename_i leagueId season hl hs
    obtain ⟨teamId, -, ho⟩ := List.mem_flatMap.1 h
    cases teamId with
    | none => cases ho
    | some teamId =>
      obtain ⟨hl', hs'⟩ := hteam ho
      rw [hl, hs, hl', hs']
      exact ⟨rfl, rfl⟩
  · cases h

/-! ## Which rates there are -/

section Rates

variable {numberText : JsNumber → String} {thresholds : BaseRateSignal → List Int} {minSample : Nat}
  {observations bucket : List TeamMatchObservation} {r r' : ComputedBaseRate}

/-- The rate has the counts that are asked for, and their quotient. -/
def ComputedBaseRate.Counts (observations : List TeamMatchObservation) (r : ComputedBaseRate) : Prop :=
  r.sampleSize = sampleOf observations r.market r.signal r.threshold ∧
    r.observedRate = round4 (double (positivesOf observations r.market r.signal r.threshold /
      r.sampleSize))

theorem bucketRate_key {first : TeamMatchObservation} {signal : BaseRateSignal} {threshold : Int}
    (h : bucketRate minSample bucket first signal threshold = some r) :
    r.signal = signal ∧ r.threshold = threshold := by
  simp only [bucketRate] at h
  split_ifs at h
  rw [← Option.some.inj h]
  exact ⟨rfl, rfl⟩

theorem mem_bucketRates {first : TeamMatchObservation} {rest : List TeamMatchObservation} :
    r ∈ bucketRates thresholds minSample (first :: rest) ↔
      r.threshold ∈ thresholds r.signal ∧
        bucketRate minSample (first :: rest) first r.signal r.threshold = some r := by
  simp only [bucketRates, List.mem_flatMap, List.mem_filterMap]
  constructor
  · rintro ⟨signal, -, threshold, hmem, h⟩
    obtain ⟨rfl, rfl⟩ := bucketRate_key h
    exact ⟨hmem, h⟩
  · rintro ⟨hmem, h⟩
    refine ⟨r.signal, ?_, r.threshold, hmem, h⟩
    cases r.signal <;> decide

/-- A bucket of observations of one league, season and market. -/
theorem bucketRate_eq_some {first : TeamMatchObservation} {signal : BaseRateSignal} {threshold : Int}
    (hbucket : bucket = observations.filter fun o => decide (o.market = first.market)) :
    bucketRate minSample bucket first signal threshold = some r ↔
      r.leagueId = first.leagueId ∧ r.season = first.season ∧ r.market = first.market ∧
        r.signal = signal ∧ r.threshold = threshold ∧ minSample ≤ r.sampleSize ∧
          r.Counts observations := by
  have hsample : bucket.countP (·.atLeast signal threshold) =
      sampleOf observations first.market signal threshold := by
    rw [hbucket, List.countP_filter]
    exact List.countP_congr fun o _ => by rw [Bool.and_comm]
  have hpositives : (bucket.countP fun o => o.atLeast signal threshold && o.eventOccurred) =
      positivesOf observations first.market signal threshold := by
    rw [hbucket, List.countP_filter]
    exact List.countP_congr fun o _ => by rw [Bool.and_comm]
  simp only [bucketRate, hsample, hpositives]
  constructor
  · intro h
    split_ifs at h with hlt
    rw [← Option.some.inj h]
    exact ⟨rfl, rfl, rfl, rfl, rfl, not_lt.1 hlt, rfl, rfl⟩
  · rintro ⟨hl, hs, hm, rfl, rfl, hmin, hcount, hrate⟩
    rw [hm] at hcount hrate
    rw [← hcount, if_neg (not_lt.2 hmin), ← hrate, ← hl, ← hs, ← hm]

variable {leagueId season : JsNumber}

/-- The key of a group tells the market, in one league and season. -/
theorem groupKey_inj {o o' : TeamMatchObservation} (hl : o.leagueId = o'.leagueId)
    (hs : o.season = o'.season) (h : groupKey numberText o = groupKey numberText o') :
    o.market = o'.market := by
  rw [groupKey, groupKey, hl, hs, String.append_right_inj] at h
  cases hm : o.market <;> cases hm' : o'.market <;> first | rfl | (rw [hm, hm'] at h; exact absurd h (by decide))

/-- The groups of one league and season are its markets. -/
theorem mem_groups (hpair : ∀ o ∈ observations, o.leagueId = leagueId ∧ o.season = season)
    {key : String} (h : (key, bucket) ∈ groupBy (groupKey numberText) observations) :
    ∃ first rest, bucket = first :: rest ∧ first ∈ observations ∧
      bucket = observations.filter fun o => decide (o.market = first.market) := by
  obtain ⟨⟨o, ho, rfl⟩, rfl⟩ := mem_groupBy.1 h
  have hfilter : (observations.filter fun x => groupKey numberText x == groupKey numberText o) =
      observations.filter fun x => decide (x.market = o.market) := by
    refine List.filter_congr fun x hx => ?_
    obtain ⟨hl, hs⟩ := hpair x hx
    obtain ⟨hl', hs'⟩ := hpair o ho
    by_cases hm : x.market = o.market
    · rw [decide_eq_true hm, groupKey, groupKey, hl, hs, hl', hs', hm, beq_self_eq_true]
    · rw [decide_eq_false hm, beq_eq_false_iff_ne]
      exact fun hkey => hm (groupKey_inj (hl.trans hl'.symm) (hs.trans hs'.symm) hkey)
  rw [hfilter]
  cases hfirst : observations.filter fun x => decide (x.market = o.market) with
  | nil =>
    have hmem : o ∈ observations.filter fun x => decide (x.market = o.market) :=
      List.mem_filter.2 ⟨ho, decide_eq_true rfl⟩
    rw [hfirst] at hmem
    cases hmem
  | cons first rest =>
    have hmem : first ∈ observations.filter fun x => decide (x.market = o.market) := by
      rw [hfirst]
      exact List.mem_cons_self
    obtain ⟨hmem, hm⟩ := List.mem_filter.1 hmem
    exact ⟨first, rest, rfl, hmem, by rw [← hfirst, of_decide_eq_true hm]⟩

/-- **Which rates there are of one league and season**: of every threshold whose sample is large
enough, with the counts. -/
theorem mem_computeBaseRates (hmin : 0 < minSample)
    (hpair : ∀ o ∈ observations, o.leagueId = leagueId ∧ o.season = season) :
    r ∈ computeBaseRates numberText thresholds minSample observations ↔
      r.leagueId = leagueId ∧ r.season = season ∧ r.threshold ∈ thresholds r.signal ∧
        minSample ≤ r.sampleSize ∧ r.Counts observations := by
  rw [computeBaseRates, List.mem_flatMap]
  constructor
  · rintro ⟨⟨key, bucket⟩, hgroup, hr⟩
    obtain ⟨first, rest, rfl, hfirst, hbucket⟩ := mem_groups hpair hgroup
    obtain ⟨hthreshold, hr⟩ := mem_bucketRates.1 hr
    obtain ⟨hl, hs, -, -, -, hsample, hcounts⟩ := (bucketRate_eq_some hbucket).1 hr
    exact ⟨hl.trans (hpair first hfirst).1, hs.trans (hpair first hfirst).2, hthreshold, hsample,
      hcounts⟩
  · rintro ⟨rfl, rfl, hthreshold, hsample, hcounts⟩
    -- somebody reached the threshold
    have hpos : 0 < sampleOf observations r.market r.signal r.threshold :=
      hcounts.1 ▸ hmin.trans_le hsample
    obtain ⟨o, ho, hreached⟩ := List.countP_pos_iff.1 hpos
    rw [Bool.and_eq_true, decide_eq_true_eq] at hreached
    refine ⟨_, mem_groupBy.2 ⟨⟨o, ho, rfl⟩, rfl⟩, ?_⟩
    obtain ⟨first, rest, hcons, hfirst, hbucket⟩ := mem_groups hpair (mem_groupBy.2 ⟨⟨o, ho, rfl⟩, rfl⟩)
    change r ∈ bucketRates thresholds minSample (List.filter _ _)
    rw [hcons] at hbucket ⊢
    have hm : r.market = first.market := by
      have hmem : o ∈ first :: rest := hcons ▸ List.mem_filter.2 ⟨ho, beq_self_eq_true _⟩
      rw [hbucket] at hmem
      rw [← hreached.1]
      exact of_decide_eq_true (List.mem_filter.1 hmem).2
    exact mem_bucketRates.2 ⟨hthreshold, (bucketRate_eq_some hbucket).2
      ⟨(hpair first hfirst).1.symm, (hpair first hfirst).2.symm, hm, rfl, rfl, hsample, hcounts⟩⟩

/-- **Where there is a rate, there is one of every lower threshold.** -/
theorem exists_lower (hmin : 0 < minSample)
    (hpair : ∀ o ∈ observations, o.leagueId = leagueId ∧ o.season = season) {threshold : Int}
    (hr : r ∈ computeBaseRates numberText thresholds minSample observations)
    (hthreshold : threshold ∈ thresholds r.signal) (hle : threshold ≤ r.threshold) :
    ∃ r' ∈ computeBaseRates numberText thresholds minSample observations, r'.market = r.market ∧
      r'.signal = r.signal ∧ r'.threshold = threshold := by
  obtain ⟨hl, hs, -, hsample, hcount, -⟩ := (mem_computeBaseRates hmin hpair).1 hr
  rw [hcount] at hsample
  exact ⟨{ r with
      threshold
      sampleSize := sampleOf observations r.market r.signal threshold
      observedRate := round4 (double (positivesOf observations r.market r.signal threshold /
        sampleOf observations r.market r.signal threshold)) },
    (mem_computeBaseRates hmin hpair).2
      ⟨hl, hs, hthreshold, hsample.trans (sampleOf_antitone hle), rfl, rfl⟩, rfl, rfl, rfl⟩

/-- The unique key of the table of rates. -/
def ComputedBaseRate.sameKey (r r' : ComputedBaseRate) : Bool :=
  decide (r.leagueId = r'.leagueId ∧ r.season = r'.season ∧ r.market = r'.market ∧
    r.signal = r'.signal ∧ r.threshold = r'.threshold)

theorem ComputedBaseRate.sameKey_iff : r.sameKey r' = true ↔
    r.leagueId = r'.leagueId ∧ r.season = r'.season ∧ r.market = r'.market ∧ r.signal = r'.signal ∧
      r.threshold = r'.threshold := decide_eq_true_iff

theorem pairwise_bucketRates (hthresholds : ∀ signal, (thresholds signal).Nodup) :
    (bucketRates thresholds minSample bucket).Pairwise fun r r' => r.sameKey r' = false := by
  cases bucket with
  | nil => exact List.Pairwise.nil
  | cons first rest =>
    refine List.pairwise_flatMap.2 ⟨fun signal _ => ?_, ?_⟩
    · refine List.pairwise_filterMap.2 ((hthresholds signal).imp fun {t t'} hne r hr r' hr' => ?_)
      rw [Bool.eq_false_iff, ne_eq, ComputedBaseRate.sameKey_iff]
      rintro ⟨-, -, -, -, hthreshold⟩
      exact hne ((bucketRate_key hr).2.symm.trans (hthreshold.trans (bucketRate_key hr').2))
    · refine (show baseRateSignals.Nodup by decide).imp fun {x y} hne r hr r' hr' => ?_
      obtain ⟨t, -, hr⟩ := List.mem_filterMap.1 hr
      obtain ⟨t', -, hr'⟩ := List.mem_filterMap.1 hr'
      rw [Bool.eq_false_iff, ne_eq, ComputedBaseRate.sameKey_iff]
      rintro ⟨-, -, -, hsignal, -⟩
      exact hne ((bucketRate_key hr).1.symm.trans (hsignal.trans (bucketRate_key hr').1))

/-- **No two rates are of the same key**, where no threshold is given twice. -/
theorem pairwise_computeBaseRates (hthresholds : ∀ signal, (thresholds signal).Nodup)
    (hpair : ∀ o ∈ observations, o.leagueId = leagueId ∧ o.season = season) :
    (computeBaseRates numberText thresholds minSample observations).Pairwise fun r r' =>
      r.sameKey r' = false := by
  -- the rates of a group are of its market
  have hmarket : ∀ {key bucket r}, (key, bucket) ∈ groupBy (groupKey numberText) observations →
      r ∈ bucketRates thresholds minSample bucket →
        ∃ o ∈ observations, groupKey numberText o = key ∧ r.market = o.market := by
    intro key bucket r hgroup hr
    obtain ⟨first, rest, rfl, hfirst, hbucket⟩ := mem_groups hpair hgroup
    obtain ⟨-, -, hm, -⟩ := (bucketRate_eq_some hbucket).1 (mem_bucketRates.1 hr).2
    have hmem : first ∈ first :: rest := List.mem_cons_self
    rw [(mem_groupBy.1 hgroup).2] at hmem
    exact ⟨first, hfirst, by simpa using (List.mem_filter.1 hmem).2, hm⟩
  refine List.pairwise_flatMap.2 ⟨fun group _ => pairwise_bucketRates hthresholds, ?_⟩
  have hnodup : (groupBy (groupKey numberText) observations).Pairwise fun g g' => g.1 ≠ g'.1 := by
    refine List.pairwise_map.2 ?_
    exact (nodup_eraseDups _).imp fun h => h
  refine hnodup.imp_of_mem fun {g g'} hg hg' hne r hr r' hr' => ?_
  rw [Bool.eq_false_iff, ne_eq, ComputedBaseRate.sameKey_iff]
  rintro ⟨-, -, hm, -, -⟩
  obtain ⟨o, ho, hkey, hom⟩ := hmarket hg hr
  obtain ⟨o', ho', hkey', hom'⟩ := hmarket hg' hr'
  refine hne ?_
  rw [← hkey, ← hkey', groupKey, groupKey, (hpair o ho).1, (hpair o ho).2, (hpair o' ho').1,
    (hpair o' ho').2, ← hom, ← hom', hm]

end Rates

/-! ## The rounding -/

theorem abs_double_sub_le_of_lt {q : ℚ} {e : Int} (h : |q| < 2 ^ e) :
    |double q - q| ≤ 2 ^ (e - 54) := by
  by_cases hzero : q = 0
  · rw [hzero, double_zero, sub_zero, abs_zero]
    positivity
  calc |double q - q| ≤ ulp q / 2 := abs_double_sub_le q
    _ ≤ 2 ^ (e - 53) / 2 := by linarith only [ulp_le hzero h]
    _ = 2 ^ (e - 54) := by
      rw [show e - 53 = (e - 54) + 1 by ring, zpow_add_one₀ (by norm_num)]
      ring

theorem abs_jsRound_sub_le (q : ℚ) : |(jsRound q : ℚ) - q| ≤ 1 / 2 := by
  have hfloor := Int.floor_le (q + 1 / 2)
  have hlt := Int.lt_floor_add_one (q + 1 / 2)
  rw [jsRound, abs_le]
  constructor <;> linarith

/-- **A rate is a part of one, half a unit of its last decimal from the quotient at most**, and what
the doubles lose. -/
theorem round4_bounds {p n : Nat} (h : p ≤ n) (hn : 0 < n) :
    0 ≤ round4 (double (p / n)) ∧ round4 (double (p / n)) ≤ 1 ∧
      |round4 (double (p / n)) - p / n| ≤ 1 / 20000 + 1 / 2 ^ 52 := by
  have hpos : (0 : ℚ) < n := by exact_mod_cast hn
  have hnonneg : (0 : ℚ) ≤ p / n := by positivity
  have hone : (p : ℚ) / n ≤ 1 := (div_le_one hpos).2 (by exact_mod_cast h)
  generalize (p : ℚ) / n = q at hnonneg hone ⊢
  -- the quotient, and its ten thousand fold, as doubles
  have hquotient := abs_double_sub_le_of_lt (q := q) (e := 1) (by rw [abs_of_nonneg hnonneg]; linarith)
  norm_num at hquotient
  obtain ⟨hlow, hhigh⟩ := abs_le.1 hquotient
  have hscaled := abs_double_sub_le_of_lt (q := double q * 10000) (e := 14) (by
    rw [abs_lt]
    constructor <;> linarith)
  norm_num at hscaled
  obtain ⟨hlow', hhigh'⟩ := abs_le.1 hscaled
  obtain ⟨hdown, hup⟩ := abs_le.1 (abs_jsRound_sub_le (double (double q * 10000)))
  have hround : 0 ≤ jsRound (double (double q * 10000)) := le_jsRound.2 (by push_cast; linarith)
  have hround' : jsRound (double (double q * 10000)) ≤ 10000 := by
    have hlt : (jsRound (double (double q * 10000)) : ℚ) < 10001 := by linarith
    have hlt' : jsRound (double (double q * 10000)) < 10001 := by exact_mod_cast hlt
    omega
  have hcast : (0 : ℚ) ≤ jsRound (double (double q * 10000)) := by exact_mod_cast hround
  have hcast' : (jsRound (double (double q * 10000)) : ℚ) ≤ 10000 := by exact_mod_cast hround'
  rw [round4]
  refine ⟨by positivity, by linarith, abs_le.2 ⟨?_, ?_⟩⟩
  · linarith
  · linarith

end ApiScore
