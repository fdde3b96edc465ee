import ApiScore.Rules.SignalShape

/-!
# Absent statistics

A signal that is `null` never fires a rule, but what is absent from a payload is not always read as
`null`: the shots on target and the index of pressure are 0 where the provider gives nothing, and so
is a total of shots that stands in the payload without a value.  A rule whose threshold the score
brings down to zero then fires on no data.

* `SignalAbsent` — a payload without a number for the signal.
* `value_of_absent` — what is read of it: nothing, or 0.
* `absent_silent_iff` — a team without data gets no signal exactly when no open rule is reached by 0.
* `absent_signalled` — settings that are accepted, and a signal of a team without data.
-/

set_option autoImplicit false

namespace ApiScore

/-! ## Payloads without a number -/

/-- JavaScript's `Number`, of the values that are not there. -/
structure NumberConversion where
  number : JsValue → JsNumber
  ofUndefined : number .undefined = .nan
  ofNull : number .null = .num 0
  ofEmpty : number (.str "") = .num 0

/-- The names of the statistics that a signal is read from. -/
def SignalType.statNames : SignalType → List String
  | .totalShots => ["total shots", "shots total", "on target", "off target"]
  | .onTarget => ["On Target", "Shots on Goal"]
  | .pressureIndex =>
    ["Attacks", "Dangerous Attacks", "On Target", "Shots on Goal", "Off Target", "Shots off Goal",
      "Corner Kicks", "Corners"]

/-- The fields of the payload that it may be read from instead. -/
def SignalType.statFields : SignalType → List String
  | .totalShots => ["total_shots", "shots"]
  | signal => signal.statNames

/-- No statistic of the signal has a number, nor has a field. -/
structure SignalAbsent (number : JsValue → JsNumber) (signal : SignalType) (stats : JsValue) :
    Prop where
  entries : ∀ stat ∈ (stats.get "statistics").items, ∀ name ∈ signal.statNames,
    (statType stat).any (sameName name) = true → toNumber number (stat.get "value") = none
  fields : ∀ name ∈ signal.statFields, toNumber number (stats.get name) = none

/-- `null`, or an empty text. -/
def JsValue.blank : JsValue → Bool
  | .null => true
  | .str text => text == ""
  | _ => false

/-- The total of the shots stands in the payload, blank: in a statistic of the total, in the shots on
target that it is otherwise made of, or in a field. -/
def blankTotal (stats : JsValue) : Bool :=
  let statistics := (stats.get "statistics").items
  (statistics.any fun stat => ((statType stat).any fun name =>
    sameName name "total shots" || sameName name "shots total") && (stat.get "value").blank) ||
  ((statistics.find? fun stat => (statType stat).any (sameName "on target")).any fun stat =>
    (stat.get "value").blank) ||
  ((stats.get "total_shots").orElse (stats.get "shots")).blank

/-- What is absent of the signal is read as 0. -/
def readsZero (signal : SignalType) (stats : JsValue) : Bool :=
  match signal with
  | .totalShots => blankTotal stats
  | .onTarget | .pressureIndex => true

section Reading

variable {N : NumberConversion} {stats value : JsValue}

theorem sameName_comm (a b : String) : sameName a b = sameName b a := by
  rw [sameName, sameName, Bool.eq_iff_iff, beq_iff_eq, beq_iff_eq, eq_comm]

/-- `Number`, of what is no number: 0 where it is blank. -/
theorem numeric?_of_none (h : toNumber N.number value = none) :
    numeric? N.number value = if value.blank then some (.num 0) else none := by
  have hnan : N.number value = .nan → numeric? N.number value = none := fun h => if_pos h
  have hother (hne : ∀ text, value = .str text → text ≠ "") (hnull : value ≠ .null)
      (hund : value ≠ .undefined) : numeric? N.number value = none := by
    refine hnan ?_
    unfold toNumber at h
    split at h
    · exact absurd rfl hund
    · exact absurd rfl hnull
    · exact absurd rfl (hne "" rfl)
    · by_contra hnum
      rw [if_neg hnum] at h
      cases h
  cases value with
  | undefined => exact hnan N.ofUndefined
  | null => rw [numeric?, N.ofNull]; rfl
  | str text =>
    by_cases htext : text = ""
    · rw [htext, numeric?, N.ofEmpty]; rfl
    · rw [hother (fun _ h => by cases h; exact htext) (by simp) (by simp), JsValue.blank,
        beq_false_of_ne htext]
      rfl
  | bool | num | arr | obj => exact hother (by simp) (by simp) (by simp)

/-- The names are those of the signal. -/
theorem getStatValue_of_absent {signal : SignalType} {names : List String}
    (h : SignalAbsent N.number signal stats) (hnames : ∀ name ∈ names, name ∈ signal.statNames)
    (hfields : ∀ name ∈ names, name ∈ signal.statFields) :
    getStatValue N.number stats names = .num 0 := by
  rw [getStatValue]
  split
  · next stat hfind =>
    have hmatch := List.find?_some hfind
    rw [Option.any_eq_true] at hmatch
    obtain ⟨type, htype, hmatch⟩ := hmatch
    obtain ⟨name, hname, hsame⟩ := List.any_eq_true.1 hmatch
    rw [h.entries stat (List.mem_of_find?_eq_some hfind) name (hnames name hname)]
    · rfl
    · rw [htype, Option.any_some, sameName_comm]
      exact hsame
  · rw [List.findSome?_eq_none_iff.2 fun name hname => h.fields name (hfields name hname)]
    rfl

theorem shotsOnTarget_of_absent (h : SignalAbsent N.number .onTarget stats) :
    (snapshotSignals N.number stats).shotsOnTarget = .num 0 :=
  getStatValue_of_absent h (fun _ h => h) fun _ h => h

theorem pressureIndex_of_absent (h : SignalAbsent N.number .pressureIndex stats) :
    (snapshotSignals N.number stats).pressureIndex = .num 0 := by
  have hzero (names : List String)
      (hnames : ∀ name ∈ names, name ∈ SignalType.pressureIndex.statNames) :
      getStatValue N.number stats names = .num 0 := getStatValue_of_absent h hnames hnames
  show computePressureIndex N.number stats = .num 0
  simp only [computePressureIndex]
  rw [hzero _ (by decide), hzero _ (by decide), hzero _ (by decide), hzero _ (by decide),
    hzero _ (by decide)]
  decide +kernel

/-- A number of a statistic that is absent. -/
theorem statNumber?_of_absent {name : String} (hname : name ∈ SignalType.totalShots.statNames)
    (h : SignalAbsent N.number .totalShots stats) :
    statNumber? N.number stats name =
      if ((stats.get "statistics").items.find? fun stat =>
        (statType stat).any (sameName name)).any fun stat => (stat.get "value").blank
      then some (.num 0) else none := by
  rw [statNumber?]
  cases hfind : (stats.get "statistics").items.find? fun stat =>
    (statType stat).any (sameName name) with
  | none => rfl
  | some stat =>
    have hmatch := List.find?_some hfind
    exact numeric?_of_none (h.entries stat (List.mem_of_find?_eq_some hfind) name hname hmatch)

theorem findSome?_ite {α β : Type} {f : α → Option β} {p q : α → Bool} {b : β} {l : List α}
    (h : ∀ a ∈ l, f a = if p a then (if q a then some b else none) else none) :
    l.findSome? f = if l.any (fun a => p a && q a) then some b else none := by
  induction l with
  | nil => rfl
  | cons a l ih =>
    rw [List.findSome?_cons, List.any_cons, ih fun a' ha' => h a' (List.mem_cons_of_mem _ ha'),
      h a List.mem_cons_self]
    cases p a <;> cases q a <;> rfl

/-- A total, or else the shots on target with those off target, or else a field: 0 if there is one. -/
theorem firstZero {flat : Bool} {last : Option JsNumber} (total on off : Bool)
    (hlast : last = if flat then some (.num 0) else none) :
    ((if total then some (JsNumber.num 0) else none).or
      (((if on then some (JsNumber.num 0) else none).map fun n =>
        ((if off then some (JsNumber.num 0) else none).map n.add).getD n).or last)) =
      if total || on || flat then some (.num 0) else none := by
  have hadd : (JsNumber.num 0).add (.num 0) = .num 0 := by decide +kernel
  subst hlast
  cases total
  · cases on
    · cases flat <;> rfl
    · cases off
      · rfl
      · exact congrArg some hadd
  · rfl

theorem totalShots_of_absent (h : SignalAbsent N.number .totalShots stats) :
    (snapshotSignals N.number stats).totalShots =
      if blankTotal stats then some (.num 0) else none := by
  have htotal : ((stats.get "statistics").items.findSome? fun stat =>
      if (statType stat).any fun name => sameName name "total shots" || sameName name "shots total"
      then numeric? N.number (stat.get "value") else none) =
      if (stats.get "statistics").items.any (fun stat => ((statType stat).any fun name =>
        sameName name "total shots" || sameName name "shots total") && (stat.get "value").blank)
      then some (.num 0) else none := by
    refine findSome?_ite fun stat hstat => ?_
    split
    · next hmatch =>
      refine numeric?_of_none ?_
      obtain ⟨name, htype, hname⟩ := (Option.any_eq_true _ _).1 hmatch
      rw [Bool.or_eq_true] at hname
      rcases hname with hname | hname
      · exact h.entries stat hstat "total shots" (by decide)
          ((Option.any_eq_true _ _).2 ⟨name, htype, (sameName_comm _ _).trans hname⟩)
      · exact h.entries stat hstat "shots total" (by decide)
          ((Option.any_eq_true _ _).2 ⟨name, htype, (sameName_comm _ _).trans hname⟩)
    · rfl
  have hfield : toNumber N.number ((stats.get "total_shots").orElse (stats.get "shots")) = none := by
    unfold JsValue.orElse
    split
    · exact h.fields _ (by decide)
    · exact h.fields _ (by decide)
    · exact h.fields _ (by decide)
  show extractTotalShots N.number stats = _
  simp only [extractTotalShots, htotal,
    statNumber?_of_absent (show "on target" ∈ SignalType.totalShots.statNames by decide) h,
    statNumber?_of_absent (show "off target" ∈ SignalType.totalShots.statNames by decide) h,
    blankTotal]
  refine firstZero _ _ _ ?_
  have hnum := numeric?_of_none hfield
  revert hnum
  generalize (stats.get "total_shots").orElse (stats.get "shots") = flat
  intro hnum
  cases flat with
  | undefined => rfl
  | null | bool | num | str | arr | obj => exact hnum

/-- What is read of a payload without a number for the signal. -/
theorem value_of_absent {signal : SignalType} (h : SignalAbsent N.number signal stats) :
    (snapshotSignals N.number stats).value signal =
      if readsZero signal stats then some (.num 0) else none := by
  cases signal with
  | totalShots => exact totalShots_of_absent h
  | onTarget => exact congrArg some (shotsOnTarget_of_absent h)
  | pressureIndex => exact congrArg some (pressureIndex_of_absent h)

end Reading

/-! ## Rules that 0 reaches -/

/-- 0 reaches a rule whose window is open: in the first half its threshold, in the second one counted
from half-time. -/
def RuleEvaluationInput.ReachedByZero (input : RuleEvaluationInput) (config : SmartRulesConfig)
    (isHomeTeam : Bool) : Prop :=
  (input.statusShort ∈ firstHalfStatuses ∧ 1 ≤ input.elapsed ∧
    ∃ rule ∈ config.firstHalfRules, input.elapsed < rule.maxElapsed ∧
      rule.minShots + input.thresholdOffset config isHomeTeam ≤ 0) ∨
  (input.statusShort ∈ secondHalfStatuses ∧ 45 ≤ input.elapsed ∧
    input.elapsed < config.secondHalfRule.maxElapsed ∧
    ((JsNumber.num 0).sub (input.htBaseline config.signalType isHomeTeam)).max0.geRat
      (config.secondHalfRule.minShots + input.thresholdOffset config isHomeTeam) = true)

section Rules

variable {numberText : JsNumber → String} {input : RuleEvaluationInput} {config : SmartRulesConfig}
  {side : Bool} {m : RuleMatch}

theorem mem_evaluateRules : m ∈ evaluateRules numberText input config ↔
    (input.statusShort ∈ firstHalfStatuses ∧ 1 ≤ input.elapsed ∧
      withinWindow config.firstHalfRules input.elapsed ∧
      ∃ side, m ∈ firstHalfMatches numberText input config side) ∨
    (input.statusShort ∈ secondHalfStatuses ∧ 45 ≤ input.elapsed ∧
      input.elapsed < config.secondHalfRule.maxElapsed ∧
      ∃ side, m ∈ secondHalfMatches numberText input config side) := by
  have hsides (matches_ : Bool → List RuleMatch) :
      m ∈ matches_ true ++ matches_ false ↔ ∃ side, m ∈ matches_ side := by
    rw [List.mem_append, Bool.exists_bool, or_comm]
  have hguard (p : Prop) [Decidable p] (ms : List RuleMatch) :
      m ∈ (if p then ms else []) ↔ p ∧ m ∈ ms := by
    by_cases h : p <;> simp [h]
  rw [evaluateRules, List.mem_append, evaluateFirstHalf, evaluateSecondHalf, hguard, hguard,
    hsides (firstHalfMatches numberText input config),
    hsides (secondHalfMatches numberText input config)]
  simp only [and_assoc]

theorem of_mem_firstHalf (h : m ∈ firstHalfMatches numberText input config side) :
    input.firesFirstHalf config side = true ∧ m.teamId = (input.team side).teamId ∧
      isRuleMarket m.marketType := by
  have hbet := List.mem_map_of_mem (f := (·.bet)) h
  rw [keys_firstHalfMatches] at hbet
  split_ifs at hbet with hfires
  · simp only [RuleMatch.bet, List.mem_cons, Prod.mk.injEq, List.not_mem_nil, or_false] at hbet
    rcases hbet with ⟨hteam, hmarket⟩ | ⟨hteam, hmarket⟩
    · exact ⟨hfires, hteam, .inl hmarket⟩
    · exact ⟨hfires, hteam, .inr (.inl hmarket)⟩
  · cases hbet

theorem of_mem_secondHalf (h : m ∈ secondHalfMatches numberText input config side) :
    input.firesSecondHalf config side = true ∧ m.teamId = (input.team side).teamId ∧
      isRuleMarket m.marketType := by
  have hbet := List.mem_map_of_mem (f := (·.bet)) h
  rw [keys_secondHalfMatches] at hbet
  split_ifs at hbet with hfires
  · simp only [RuleMatch.bet, List.mem_singleton, Prod.mk.injEq] at hbet
    exact ⟨hfires, hbet.1, .inr (.inr hbet.2)⟩
  · cases hbet

theorem isRuleMarket_evaluateRules (h : m ∈ evaluateRules numberText input config) :
    isRuleMarket m.marketType := by
  rcases mem_evaluateRules.1 h with ⟨-, -, -, side, hm⟩ | ⟨-, -, -, side, hm⟩
  · exact (of_mem_firstHalf hm).2.2
  · exact (of_mem_secondHalf hm).2.2

/-- In the first half 0 fires the rules whose threshold it reaches. -/
theorem firesFirstHalf_zero (h : (input.team side).value config.signalType = some (.num 0)) :
    input.firesFirstHalf config side = true ↔
      ∃ rule ∈ config.firstHalfRules, input.elapsed < rule.maxElapsed ∧
        rule.minShots + input.thresholdOffset config side ≤ 0 := by
  rw [RuleEvaluationInput.firesFirstHalf, h, Option.any_some, findMatchedRule, List.find?_isSome]
  simp only [JsNumber.geRat, Bool.and_eq_true, decide_eq_true_eq]

theorem firesSecondHalf_zero (h : (input.team side).value config.signalType = some (.num 0)) :
    input.firesSecondHalf config side = true ↔
      input.elapsed < config.secondHalfRule.maxElapsed ∧
        ((JsNumber.num 0).sub (input.htBaseline config.signalType side)).max0.geRat
          (config.secondHalfRule.minShots + input.thresholdOffset config side) = true := by
  rw [RuleEvaluationInput.firesSecondHalf, h, Option.any_some, findMatchedRule, List.find?_isSome]
  simp only [List.mem_singleton, exists_eq_left, Bool.and_eq_true, decide_eq_true_eq]

variable (numberText) in
/-- **A side of which 0 is read is suggested for, once 0 reaches a rule.** -/
theorem exists_match_zero (h : (input.team side).value config.signalType = some (.num 0))
    (hreached : input.ReachedByZero config side) :
    ∃ m ∈ evaluateRules numberText input config, m.teamId = (input.team side).teamId := by
  rcases hreached with ⟨hstatus, hfirst, rule, hrule, hwindow, hthreshold⟩ |
    ⟨hstatus, hsecond, hwindow, hthreshold⟩
  · have hfires := (firesFirstHalf_zero h).2 ⟨rule, hrule, hwindow, hthreshold⟩
    obtain ⟨m, hm, hbet⟩ : ∃ m ∈ firstHalfMatches numberText input config side,
      m.bet = ((input.team side).teamId, "Buts 1ère mi-temps") := exists_firstHalf hfires
    refine ⟨m, mem_evaluateRules.2 (.inl ⟨hstatus, hfirst, ?_, side, hm⟩), congrArg Prod.fst hbet⟩
    exact List.any_eq_true.2 ⟨rule, hrule, decide_eq_true hwindow⟩
  · have hfires := (firesSecondHalf_zero h).2 ⟨hwindow, hthreshold⟩
    obtain ⟨m, hm, hbet⟩ : ∃ m ∈ secondHalfMatches numberText input config side,
      m.bet = ((input.team side).teamId, "Buts 2ème mi-temps") := exists_secondHalf hfires
    exact ⟨m, mem_evaluateRules.2 (.inr ⟨hstatus, hsecond, hwindow, side, hm⟩),
      congrArg Prod.fst hbet⟩

/-- A suggestion is about a side whose signal is a number; if that is 0, then 0 reaches a rule. -/
theorem side_of_match (h : m ∈ evaluateRules numberText input config) :
    ∃ side, m.teamId = (input.team side).teamId ∧
      (input.team side).value config.signalType ≠ none ∧
      ((input.team side).value config.signalType = some (.num 0) →
        input.ReachedByZero config side) := by
  rcases mem_evaluateRules.1 h with ⟨hstatus, hfirst, -, side, hm⟩ |
    ⟨hstatus, hsecond, hwindow, side, hm⟩
  · obtain ⟨hfires, hteam, -⟩ := of_mem_firstHalf hm
    refine ⟨side, hteam, fun hnone => ?_, fun hzero => ?_⟩
    · rw [RuleEvaluationInput.firesFirstHalf, hnone] at hfires
      cases hfires
    · exact .inl ⟨hstatus, hfirst, (firesFirstHalf_zero hzero).1 hfires⟩
  · obtain ⟨hfires, hteam, -⟩ := of_mem_secondHalf hm
    refine ⟨side, hteam, fun hnone => ?_, fun hzero => ?_⟩
    · rw [RuleEvaluationInput.firesSecondHalf, hnone] at hfires
      cases hfires
    · exact .inr ⟨hstatus, hsecond, (firesSecondHalf_zero hzero).1 hfires⟩

end Rules

/-! ## The signals of a pass -/

section Pass

variable {N : NumberConversion} {numberText : JsNumber → String} {data : LiveData}
  {fixtures : List Fixture} {config : SmartRulesConfig} {suffix : String} {ht : Option HtBaseline}
  {f : Fixture} {input : RuleEvaluationInput} {s : LiveSignal}

/-- The latest snapshot of a team of a fixture. -/
def LiveData.latest (data : LiveData) (fixtureId : String) (teamId : Int) :
    Option FixtureStatsSnapshot :=
  firstOf (latestSnapshotsFirst data.snapshots) fixtureId teamId

theorem of_mem_evaluateFixtures
    (h : s ∈ evaluateFixturesWithRules N.number numberText data fixtures config suffix ht) :
    ∃ f ∈ fixtures, ∃ input, liveInput? N.number data.snapshots ht f = some input ∧
      ∃ m ∈ evaluateRules numberText input config, s.fixtureId = f.id ∧ s.teamId = m.teamId := by
  obtain ⟨f, hf, hs⟩ := List.mem_flatMap.1 h
  rw [fixtureMatches] at hs
  cases hinput : liveInput? N.number data.snapshots ht f with
  | none =>
    rw [hinput] at hs
    have hs : s ∈ signalsOfMatches data f suffix [] := hs
    obtain ⟨m, hm, -⟩ := mem_signalsOfMatches (List.forall_mem_nil _) hs
    cases hm
  | some input =>
    rw [hinput] at hs
    obtain ⟨m, hm, hkey, -⟩ := mem_signalsOfMatches (fun _ => isRuleMarket_evaluateRules) hs
    exact ⟨f, hf, input, hinput, m, hm, congrArg Prod.fst hkey,
      congrArg (fun key => key.2.1) hkey⟩

variable (suffix) in
theorem exists_mem_evaluateFixtures (hf : f ∈ fixtures)
    (hinput : liveInput? N.number data.snapshots ht f = some input) {m : RuleMatch}
    (hm : m ∈ evaluateRules numberText input config) :
    ∃ s ∈ evaluateFixturesWithRules N.number numberText data fixtures config suffix ht,
      s.fixtureId = f.id ∧ s.teamId = m.teamId := by
  obtain ⟨s, hs, hkey, -⟩ :
      ∃ s ∈ signalsOfMatches data f suffix (evaluateRules numberText input config),
        s.key = (f.id, m.bet) ∧ s.shotsCount = m.shotsCount :=
    exists_signal (fun _ => isRuleMarket_evaluateRules) hm
  refine ⟨s, List.mem_flatMap.2 ⟨f, hf, ?_⟩, congrArg Prod.fst hkey,
    congrArg (fun key => key.2.1) hkey⟩
  rwa [fixtureMatches, hinput]

/-- What the rules are given of a team without data. -/
theorem value_of_latest {side : Bool} {snap : FixtureStatsSnapshot}
    (hinput : liveInput? N.number data.snapshots ht f = some input)
    (hlatest : data.latest f.id (input.team side).teamId = some snap)
    (habsent : SignalAbsent N.number config.signalType snap.stats) :
    (input.team side).value config.signalType =
      if readsZero config.signalType snap.stats then some (.num 0) else none := by
  obtain ⟨homeId, awayId, -, -, -, rfl⟩ := liveInput?_eq_some.1 hinput
  rw [value_team_liveInput, latestSignals, show firstOf _ _ _ = some snap from hlatest]
  exact value_of_absent habsent

/-- **A team without data gets no signal exactly when no open rule is reached by the 0 that may be
read of it.** -/
theorem absent_silent_iff (N : NumberConversion) (numberText : JsNumber → String) (data : LiveData)
    (fixtures : List Fixture) (config : SmartRulesConfig) (suffix : String)
    (ht : Option HtBaseline) :
    (∀ s ∈ evaluateFixturesWithRules N.number numberText data fixtures config suffix ht,
      ∀ snap, data.latest s.fixtureId s.teamId = some snap →
        ¬ SignalAbsent N.number config.signalType snap.stats) ↔
    (∀ f ∈ fixtures, ∀ input, liveInput? N.number data.snapshots ht f = some input → ∀ side snap,
      data.latest f.id (input.team side).teamId = some snap →
      SignalAbsent N.number config.signalType snap.stats →
      readsZero config.signalType snap.stats = true → ¬ input.ReachedByZero config side) := by
  constructor
  · intro h f hf input hinput side snap hlatest habsent hzero hreached
    have hvalue := value_of_latest hinput hlatest habsent
    rw [if_pos hzero] at hvalue
    obtain ⟨m, hm, hteam⟩ := exists_match_zero numberText hvalue hreached
    obtain ⟨s, hs, hfixture, hsteam⟩ := exists_mem_evaluateFixtures suffix hf hinput hm
    refine h s hs snap ?_ habsent
    rwa [hfixture, hsteam, hteam]
  · intro h s hs snap hlatest habsent
    obtain ⟨f, hf, input, hinput, m, hm, hfixture, hsteam⟩ := of_mem_evaluateFixtures hs
    obtain ⟨side, hteam, hsome, hreached⟩ := side_of_match hm
    rw [hfixture, hsteam, hteam] at hlatest
    have hvalue := value_of_latest hinput hlatest habsent
    by_cases hzero : readsZero config.signalType snap.stats = true
    · rw [if_pos hzero] at hvalue
      exact h f hf input hinput side snap hlatest habsent hzero (hreached hvalue)
    · rw [if_neg hzero] at hvalue
      exact hsome hvalue

end Pass

/-! ## A threshold below zero -/

namespace Sample

/-- `Number`, of numbers and of what is not there. -/
def numberConversion : NumberConversion where
  number
    | .num n => n
    | .null | .str "" => .num 0
    | _ => .nan
  ofUndefined := rfl
  ofNull := rfl
  ofEmpty := rfl

/-- The home team has a snapshot without statistics. -/
def emptySnapshot : FixtureStatsSnapshot := { nineShots with stats := .obj [("statistics", .arr [])] }

def liveEmpty : LiveData := { live with snapshots := [emptySnapshot] }

/-- Five shots on target, twenty less when the score is level. -/
def easyWhenLevel : SmartRulesConfig :=
  { longFirstHalf with signal := some .onTarget, scoreStateModifiers := some ⟨0, 0, -20⟩ }

end Sample

/-- **A team without statistics is signalled**, by settings that are accepted. -/
theorem absent_signalled :
    ¬ ∀ (N : NumberConversion) (numberText : JsNumber → String) (data : LiveData)
      (fixtures : List Fixture) (config : SmartRulesConfig) (suffix : String)
      (ht : Option HtBaseline), config.Admitted →
      ∀ s ∈ evaluateFixturesWithRules N.number numberText data fixtures config suffix ht,
        ∀ snap, data.latest s.fixtureId s.teamId = some snap →
          ¬ SignalAbsent N.number config.signalType snap.stats := by
  intro h
  have hinput : liveInput? Sample.numberConversion.number Sample.liveEmpty.snapshots none
      Sample.liveFixture = some (liveInput Sample.numberConversion.number
        Sample.liveEmpty.snapshots none Sample.liveFixture 1 2) :=
    liveInput?_eq_some.2 ⟨1, 2, rfl, rfl, by decide +kernel, rfl⟩
  have hreached : (liveInput Sample.numberConversion.number Sample.liveEmpty.snapshots none
      Sample.liveFixture 1 2).ReachedByZero Sample.easyWhenLevel true :=
    .inl ⟨by decide +kernel, by decide +kernel, ⟨60, 5⟩, by decide +kernel, by decide +kernel,
      by decide +kernel⟩
  obtain ⟨m, hm, hteam⟩ := exists_match_zero (fun _ => "") (by decide +kernel) hreached
  obtain ⟨s, hs, hfixture, hsteam⟩ := exists_mem_evaluateFixtures "fh"
    (List.mem_singleton_self Sample.liveFixture) hinput hm
  refine h _ _ _ _ Sample.easyWhenLevel _ _ (by decide +kernel) s hs Sample.emptySnapshot ?_
    ⟨List.forall_mem_nil _, by decide +kernel⟩
  rw [hfixture, hsteam, hteam]
  rfl

end ApiScore
