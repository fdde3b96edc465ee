import ApiScore.Backtest.CompleteRules
import ApiScore.Backtest.LookAhead
import ApiScore.Rules.SignalShape

/-!
# What the guard lets through

`isWalkForwardStrategy` asks that a strategy has rules and odds, and not that they have what is read
of them.  So a strategy that it accepts is read through on every data set exactly when its rules are
complete.

* `accepted_readSettings`, `accepted_readPlan` — what the guard vouches for.
* `exists_probe` — a data set on which the rules are called on given signals.
* `accepted_reads_iff` — the result.
* `accepted_fails` — a strategy that is accepted, and a run of it that fails.
-/

set_option autoImplicit false

namespace ApiScore

open Fallible Grouping Ranked Relational Strict

/-! ## Where a replay calls the rules -/

section Calls

variable {R : Runtime} {settings : BacktestStrategy} {rules strategy : JsValue}

theorem succeeds_evaluateTick_iff {quoteAt : QuoteSelector} {fixture : Fixture}
    {goals : List GoalEvent} {homeId awayId : Int} {log : List SignalAttempt} {st : TickState} :
    Succeeds (Strict.evaluateTick R settings rules quoteAt fixture goals homeId awayId log st) ↔
      ∀ tickAt elapsed, st.tickAt = some tickAt → st.tickElapsed = some elapsed →
        Succeeds (Strict.evaluateRules R.numberText (st.input fixture goals homeId awayId elapsed)
          rules) := by
  rw [Strict.evaluateTick, succeeds_map_iff, suggestions]
  cases st.tickAt with
  | none => exact iff_of_true succeeds_pure fun _ _ h => by cases h
  | some tickAt =>
    cases st.tickElapsed with
    | none => exact iff_of_true succeeds_pure fun _ _ _ h => by cases h
    | some elapsed =>
      dsimp only
      rw [succeeds_map_iff]
      constructor
      · rintro h _ _ - ⟨⟩
        exact h
      · exact fun h => h tickAt elapsed rfl rfl

theorem succeeds_replayFixture_iff {quoteAt : QuoteSelector} {fixture : Fixture}
    {goals : List GoalEvent} {snaps : List FixtureStatsSnapshot} :
    Succeeds (Strict.replayFixture R settings rules quoteAt fixture goals snaps) ↔
      ∀ homeId awayId, fixture.homeTeamId = some homeId → fixture.awayTeamId = some awayId →
        ∀ st ∈ ticks R.number snaps, ∀ tickAt elapsed, st.tickAt = some tickAt →
          st.tickElapsed = some elapsed →
            Succeeds (Strict.evaluateRules R.numberText
              (st.input fixture goals homeId awayId elapsed) rules) := by
  rw [Strict.replayFixture]
  cases fixture.homeTeamId with
  | none => exact iff_of_true succeeds_pure fun _ _ h => by cases h
  | some homeId =>
    cases fixture.awayTeamId with
    | none => exact iff_of_true succeeds_pure fun _ _ _ h => by cases h
    | some awayId =>
      dsimp only
      have hstep (log : List SignalAttempt) (st : TickState) (_ : st ∈ ticks R.number snaps) :=
        @succeeds_evaluateTick_iff R settings rules quoteAt fixture goals homeId awayId log st
      rw [succeeds_foldlM_iff hstep]
      constructor
      · rintro h _ _ ⟨⟩ ⟨⟩
        exact h
      · exact fun h => h homeId awayId rfl rfl

theorem succeeds_replayAttempts_iff {rows : ReplayRows} :
    Succeeds (Strict.replayAttempts R settings rules rows) ↔
      ∀ group ∈ groupBy (·.fixtureId) (sort (snapshotOrder R.collation) rows.snapshots),
        ∀ fixture, rows.fixtures.find? (·.id == group.1) = some fixture →
          Succeeds (Strict.replayFixture R settings rules (quoteSelector R settings rows.quotes)
            fixture (rows.goals.filter (·.fixtureId == group.1)) group.2) := by
  rw [Strict.replayAttempts, succeeds_map_iff, succeeds_mapM_iff]
  refine forall₂_congr fun group _ => ?_
  rw [replayGroup]
  cases rows.fixtures.find? (·.id == group.1) with
  | none => exact iff_of_true succeeds_pure fun _ h => by cases h
  | some fixture =>
    constructor
    · rintro h _ ⟨⟩
      exact h
    · exact fun h => h fixture rfl

theorem succeeds_replayDetailed_iff {data : ReplayData} {window : ReplayWindow}
    (hrules : strategy.readAs JsValue.record? "entryRules" = .ok rules)
    (hsettings : readSettings strategy = .ok settings) :
    Succeeds (Strict.replayDetailed R strategy data window) ↔
      Succeeds (Strict.replayAttempts R settings rules (data.read settings window)) := by
  rw [Strict.replayDetailed]
  split_ifs with hempty
  · refine iff_of_true succeeds_pure (succeeds_replayAttempts_iff.2 fun group hgroup => ?_)
    rw [ReplayData.read, List.isEmpty_iff.1 hempty] at hgroup
    cases hgroup
  · rw [hrules, ok_bind, hsettings, ok_bind]
    exact succeeds_map_iff

/-- Rules that are read through wherever they are called let the replay through. -/
theorem succeeds_replayDetailed {data : ReplayData} {window : ReplayWindow}
    (hrules : strategy.readAs JsValue.record? "entryRules" = .ok rules)
    (hsettings : readSettings strategy = .ok settings)
    (h : ∀ input, Succeeds (Strict.evaluateRules R.numberText input rules)) :
    Succeeds (Strict.replayDetailed R strategy data window) := by
  rw [succeeds_replayDetailed_iff hrules hsettings, succeeds_replayAttempts_iff]
  exact fun _ _ _ _ => succeeds_replayFixture_iff.2 fun _ _ _ _ _ _ _ _ _ _ => h _

end Calls

/-! ## A data set for every call -/

/-- A runtime whose `Number` leaves a number as it is. -/
structure ExactRuntime extends Runtime where
  number_num : ∀ x, number (.num x) = x

section Probing

/-- The minute, and then the statistics of the home team. -/
def probeSnapshots (elapsed : Int) (stats : JsValue) : List FixtureStatsSnapshot :=
  [⟨"1", "a", none, some elapsed, .obj [], 0⟩, ⟨"2", "a", some 1, none, stats, 1000⟩]

/-- At most one goal, which brings the home team to the state. -/
def probeGoals (elapsed : Int) : ScoreState → List GoalEvent
  | .leading => [⟨"a", some 1, some elapsed⟩]
  | .trailing => [⟨"a", some 2, some elapsed⟩]
  | .drawing => []

def probeData (elapsed : Int) (state : ScoreState) (stats : JsValue) : ReplayData where
  snapshots := ⟨probeSnapshots elapsed stats, List.pairwise_pair.2 rfl, by
    intro s hs
    rcases List.mem_pair.1 hs with rfl | rfl <;> simp only [snapshotsSchema] <;> decide⟩
  fixtures := (Sample.tenth .empty).fixtures
  goals := probeGoals elapsed state
  odds := .empty

def probeWindow : ReplayWindow := ⟨0, 1000⟩

/-- Statistics with this much of the signal. -/
def probeStats : SignalType → ℚ → JsValue
  | .totalShots, shots => .obj [("total_shots", .num (.num shots))]
  | .onTarget, shots => .obj [("On Target", .num (.num shots))]
  | .pressureIndex, shots => .obj [("On Target", .num (.num (shots / 2)))]

theorem value_probeStats (R : ExactRuntime) (signal : SignalType) (shots : ℚ) :
    (snapshotSignals R.number (probeStats signal shots)).value signal = some (.num shots) := by
  have hread (q : ℚ) : toNumber R.number (.num (.num q)) = some (.num q) := by
    rw [toNumber, R.number_num, if_neg nofun]
    all_goals exact nofun
  have hstat (q : ℚ) : getStatValue R.number (.obj [("On Target", .num (.num q))])
      ["On Target", "Shots on Goal"] = .num q := by
    show (List.findSome? (fun name => toNumber R.number
      ((JsValue.obj [("On Target", .num (.num q))]).get name)) ["On Target", "Shots on Goal"]).getD
        (.num 0) = _
    have hget : (JsValue.obj [("On Target", .num (.num q))]).get "On Target" = .num (.num q) := rfl
    rw [List.findSome?_cons, hget, hread, Option.getD_some]
  cases signal with
  | totalShots =>
    show numeric? R.number (.num (.num shots)) = _
    rw [numeric?, R.number_num]
    exact if_neg nofun
  | onTarget => exact congrArg some (hstat shots)
  | pressureIndex =>
    show some (((((JsNumber.num 0).scale (14 / 10)).add ((getStatValue R.number
      (.obj [("On Target", .num (.num (shots / 2)))]) ["On Target", "Shots on Goal"]).scale 2)).add
        ((JsNumber.num 0).scale (12 / 10))).add ((JsNumber.num 0).scale (15 / 100)) |>.sub
          ((JsNumber.num 0).scale (4 / 10))) = _
    rw [hstat]
    simp only [JsNumber.scale, JsNumber.add, JsNumber.sub, JsNumber.neg]
    ring_nf

/-- What is known once both snapshots have been read. -/
def probeTick (R : Runtime) (elapsed : Int) (stats : JsValue) : TickState :=
  (TickState.start.feed R.number ⟨"1", "a", none, some elapsed, .obj [], 0⟩).feed R.number
    ⟨"2", "a", some 1, none, stats, 1000⟩

theorem goalsAt_single (teamId : Int) (elapsed : Int) (counts : Option Int → Bool) :
    goalsAt [⟨"a", some teamId, some elapsed⟩] elapsed counts =
      if counts (some teamId) then 1 else 0 := by
  have hminute : (some elapsed).any (fun minute => decide (minute ≤ elapsed)) = true :=
    decide_eq_true (le_refl elapsed)
  rw [goalsAt, List.countP_singleton]
  dsimp only
  rw [hminute, Bool.true_and]
  cases counts (some teamId) <;> rfl

theorem scoreState_probe (R : Runtime) (elapsed : Int) (state : ScoreState) (stats : JsValue) :
    ((probeTick R elapsed stats).input Sample.fixtureA (probeGoals elapsed state) 1 2
      elapsed).scoreState true = state := by
  rw [RuleEvaluationInput.scoreState, TickState.input]
  cases state with
  | drawing => rfl
  | leading | trailing =>
    rw [probeGoals, goalsAt_single, goalsAt_single]
    rfl

theorem probe_input (R : ExactRuntime) (elapsed : Int) (state : ScoreState) (signal : SignalType)
    (shots : ℚ) :
    Probe ((probeTick R.toRuntime elapsed (probeStats signal shots)).input Sample.fixtureA
      (probeGoals elapsed state) 1 2 elapsed) elapsed state signal shots where
  elapsed_eq := rfl
  status_eq := rfl
  value_eq := by
    have hvalue := value_probeStats R signal shots
    cases signal with
    | totalShots =>
      show putTeam (fun _ => none) 1 (extractTotalShots R.number (probeStats .totalShots shots)) 1 = _
      rw [show extractTotalShots R.number (probeStats .totalShots shots) = _ from hvalue]
      rfl
    | onTarget => exact hvalue
    | pressureIndex => exact hvalue
  state_eq := scoreState_probe R.toRuntime elapsed state _
  baseline_eq := by cases signal <;> rfl

/-- **Every call of the rules is made on some data set.** -/
theorem exists_probe (R : ExactRuntime) {settings : BacktestStrategy} {rules strategy : JsValue}
    (hrules : strategy.readAs JsValue.record? "entryRules" = .ok rules)
    (hsettings : readSettings strategy = .ok settings)
    (h : ∀ data window, Succeeds (Strict.replayDetailed R.toRuntime strategy data window)) :
    ReadThrough R.numberText rules := by
  intro elapsed state signal shots
  refine ⟨_, probe_input R elapsed state signal shots, ?_⟩
  have hread := h (probeData elapsed state (probeStats signal shots)) probeWindow
  rw [succeeds_replayDetailed_iff hrules hsettings, succeeds_replayAttempts_iff] at hread
  have hgroup : ("a", probeSnapshots elapsed (probeStats signal shots)) ∈
      groupBy (·.fixtureId) (sort (snapshotOrder R.collation)
        ((probeData elapsed state (probeStats signal shots)).read settings probeWindow).snapshots) :=
    List.mem_singleton.2 rfl
  have hfixture := hread _ hgroup Sample.fixtureA rfl
  have hgoals : ((probeData elapsed state (probeStats signal shots)).read settings
      probeWindow).goals.filter (·.fixtureId == "a") = probeGoals elapsed state := by
    cases state <;> rfl
  rw [hgoals, succeeds_replayFixture_iff] at hfixture
  exact hfixture 1 2 rfl rfl _ (List.mem_cons_of_mem _ (List.mem_singleton_self _)) 1000 elapsed rfl
    rfl

end Probing

/-! ## What the guard vouches for -/

section Frozen

variable {value : JsValue} {key : String} {params : QuoteParams}

theorem get_jsonCopy : (jsonCopy value).get key = jsonCopy (value.get key) := by
  cases value with
  | obj fields =>
    rw [jsonCopy]
    induction fields with
    | nil => rfl
    | cons field fields ih =>
      obtain ⟨name, value⟩ := field
      rw [copyFields, JsValue.get, JsValue.get, List.lookup_cons, List.lookup_cons]
      cases key == name with
      | true => rfl
      | false => exact ih
  | num n => cases n <;> rfl
  | undefined | null | bool | str | arr => rfl

theorem finite?_jsonCopy : (jsonCopy value).finite? = value.finite? := by
  cases value with
  | num n => cases n <;> rfl
  | undefined | null | bool | str | arr | obj => rfl

theorem text?_jsonCopy : (jsonCopy value).text? = value.text? := by
  cases value with
  | num n => cases n <;> rfl
  | undefined | null | bool | str | arr | obj => rfl

theorem stakingType?_jsonCopy : (jsonCopy value).stakingType? = value.stakingType? := by
  cases value with
  | num n => cases n <;> rfl
  | undefined | null | bool | str | arr | obj => rfl

theorem isRecord_jsonCopy : isRecord (jsonCopy value) = isRecord value := by
  cases value with
  | num n => cases n <;> rfl
  | undefined | null | bool | str | arr | obj => rfl

theorem items?_jsonCopy : (jsonCopy value).items?.isSome = value.items?.isSome := by
  cases value with
  | num n => cases n <;> rfl
  | undefined | null | bool | str | arr | obj => rfl

theorem texts?_jsonCopy {texts : List String} (h : value.texts? = some texts) :
    (jsonCopy value).texts? = some texts := by
  cases value with
  | arr items =>
    rw [jsonCopy]
    replace h : items.mapM JsValue.text? = some texts := h
    show (copyItems items).mapM JsValue.text? = some texts
    induction items generalizing texts with
    | nil => exact h
    | cons item items ih =>
      rw [List.mapM_cons, Option.bind_eq_bind, Option.bind_eq_some_iff] at h
      obtain ⟨text, hitem, h⟩ := h
      rw [Option.bind_eq_bind, Option.bind_eq_some_iff] at h
      obtain ⟨texts', hitems, h⟩ := h
      have hcopy : copyItems (item :: items) = jsonCopy item :: copyItems items := by
        cases item with
        | undefined => cases hitem
        | null | bool | num | str | arr | obj => rfl
      rw [hcopy, List.mapM_cons, text?_jsonCopy, hitem, ih hitems]
      exact h
  | undefined | null | bool | num | str | obj => cases h

theorem isRecord_set {field : JsValue} (h : isRecord value = true) :
    isRecord (value.set key field) = true := by
  cases value with
  | obj fields => rfl
  | undefined | null | bool | num | str | arr => cases h

theorem get_set_self {field : JsValue} (h : isRecord value = true) :
    (value.set key field).get key = field := by
  cases value with
  | obj fields => simp [JsValue.set, JsValue.get]
  | undefined | null | bool | num | str | arr => cases h

theorem get_set_of_ne {other : String} {field : JsValue} (h : key ≠ other) :
    (value.set other field).get key = value.get key := by
  cases value with
  | obj fields =>
    have hkey : (key == other) = false := beq_false_of_ne h
    rw [JsValue.set, JsValue.get, JsValue.get, List.lookup_cons, hkey]
    dsimp only
    congr 1
    induction fields with
    | nil => rfl
    | cons f fields ih =>
      rw [List.filter_cons, List.lookup_cons]
      split_ifs with hother
      · rw [List.lookup_cons, ih]
      · have hname : f.1 = other := by simpa using hother
        rw [hname, hkey]
        exact ih
  | undefined | null | bool | num | str | arr => rfl

/-- A field of the frozen copy that the freeze does not set. -/
theorem get_freezeStrategy (h : key ≠ "version") (h' : key ≠ "odds") :
    (freezeStrategy value params).get key = jsonCopy (value.get key) := by
  rw [freezeStrategy, get_set_of_ne h', get_set_of_ne h, get_jsonCopy]

/-- The copy of the odds, with the parameters of the quotes. -/
theorem get_odds_freezeStrategy (h : isRecord value = true) :
    (freezeStrategy value params).get "odds" =
      (((jsonCopy (value.get "odds")).set "executionLatencyMs"
        (jsonInt params.executionLatencyMs)).set "maxQuoteAgeMs" (jsonInt params.maxQuoteAgeMs)).set
          "bookmakerKey" ((params.bookmakerKey.filter (· ≠ "")).elim .undefined .str) := by
  rw [freezeStrategy, get_set_self (isRecord_set (isRecord_jsonCopy.trans h)),
    get_set_of_ne (by decide), get_jsonCopy]

theorem readAs_freezeStrategy {α : Type} {expected : JsValue → Option α} {a : α}
    (hkey : key ≠ "version") (hkey' : key ≠ "odds") (hundef : expected .undefined = none)
    (h : expected (jsonCopy (value.get key)) = some a) :
    (freezeStrategy value params).readAs expected key = .ok a := by
  rw [readAs_eq_ok hundef, get_freezeStrategy hkey hkey', h]

theorem readFinite_freezeStrategy (params : QuoteParams) {p : ℚ → Bool} (hkey : key ≠ "version")
    (hkey' : key ≠ "odds") (h : isFiniteNumber p (value.get key) = true) :
    ∃ q, (freezeStrategy value params).readAs JsValue.finite? key = .ok q ∧ p q = true := by
  obtain ⟨q, hq, hp⟩ := (Option.any_eq_true _ _).1 h
  exact ⟨q, readAs_freezeStrategy hkey hkey' rfl (finite?_jsonCopy.trans hq), hp⟩

/-- The guard vouches for the stake, and for its bounds. -/
theorem accepted_readStaking (params : QuoteParams) (h : isStaking (value.get "staking") = true) :
    ∃ staking, readStaking (freezeStrategy value params) = .ok staking ∧ 0 ≤ staking.amount ∧
      (staking.type = .percentBankroll → staking.amount ≤ 100) := by
  rw [isStaking, Bool.and_eq_true] at h
  obtain ⟨type, htype, hamount⟩ := (Option.any_eq_true _ _).1 h.2
  obtain ⟨amount, hread, hbounds⟩ := (Option.any_eq_true _ _).1 hamount
  have hstaking : (freezeStrategy value params).readAs JsValue.record? "staking" =
      .ok (jsonCopy (value.get "staking")) :=
    readAs_freezeStrategy (by decide) (by decide) rfl
      (record?_eq_some (isRecord_jsonCopy.trans h.1))
  have htypeRead : (jsonCopy (value.get "staking")).readAs JsValue.stakingType? "type" =
      .ok type := by
    rw [readAs_eq_ok rfl, get_jsonCopy, stakingType?_jsonCopy, htype]
  have hamountRead : (jsonCopy (value.get "staking")).readAs JsValue.finite? "amount" =
      .ok amount := by
    rw [readAs_eq_ok rfl, get_jsonCopy, finite?_jsonCopy, hread]
  rw [Bool.and_eq_true, decide_eq_true_iff, Bool.or_eq_true, bne_iff_ne,
    decide_eq_true_iff] at hbounds
  refine ⟨⟨type, amount⟩, ?_, hbounds.1, fun hpercent => hbounds.2.resolve_left fun h => h hpercent⟩
  rw [readStaking, hstaking, ok_bind, htypeRead, ok_bind, hamountRead]
  rfl

theorem whole?_jsonInt (n : Int) : (jsonInt n).whole? = some n := by
  show (if (n : ℚ).den = 1 then some (n : ℚ).num else none) = some n
  rw [if_pos (Rat.den_intCast n), Rat.num_intCast]

/-- The parameters of the quotes are read as they were set. -/
theorem readOdds_freezeStrategy (params : QuoteParams) (hvalue : isRecord value = true)
    (hodds : isRecord (value.get "odds") = true) :
    ∃ odds, (freezeStrategy value params).readAs JsValue.record? "odds" = .ok odds ∧
      odds.readAs JsValue.whole? "executionLatencyMs" = .ok params.executionLatencyMs ∧
      odds.readAs (JsValue.optional? JsValue.whole?) "maxQuoteAgeMs" =
        .ok (some params.maxQuoteAgeMs) ∧
      odds.readAs (JsValue.optional? JsValue.text?) "bookmakerKey" =
        .ok (params.bookmakerKey.filter (· ≠ "")) := by
  have hcopy : isRecord (jsonCopy (value.get "odds")) = true := isRecord_jsonCopy.trans hodds
  have hrecord : isRecord ((freezeStrategy value params).get "odds") = true := by
    rw [get_odds_freezeStrategy hvalue]
    exact isRecord_set (isRecord_set (isRecord_set hcopy))
  refine ⟨_, readAs_record?_eq_ok.2 ⟨hrecord, rfl⟩, ?_⟩
  rw [readAs_record_eq_ok hrecord, readAs_record_eq_ok hrecord, readAs_record_eq_ok hrecord,
    get_odds_freezeStrategy hvalue, get_set_of_ne (by decide), get_set_of_ne (by decide),
    get_set_self hcopy, get_set_of_ne (by decide), get_set_self (isRecord_set hcopy),
    get_set_self (isRecord_set (isRecord_set hcopy)), whole?_jsonInt]
  refine ⟨rfl, ?_, ?_⟩
  · exact congrArg (Option.map some) (whole?_jsonInt params.maxQuoteAgeMs)
  · cases params.bookmakerKey.filter (· ≠ "") <;> rfl

/-- **The guard vouches for the settings.** -/
theorem accepted_readSettings (params : QuoteParams) (h : isWalkForwardStrategy value = true) :
    Succeeds (readSettings (freezeStrategy value params)) := by
  simp only [isWalkForwardStrategy, Bool.and_eq_true] at h
  obtain ⟨⟨⟨⟨⟨⟨⟨⟨⟨⟨⟨⟨hvalue, -⟩, hmarkets⟩, hedge⟩, hconf⟩, -⟩, hstaking⟩, hodds⟩, -⟩, -⟩, -⟩, -⟩,
    -⟩ := h
  obtain ⟨markets, hmarkets, -⟩ := (Option.any_eq_true _ _).1 hmarkets
  have hmarketsRead : (freezeStrategy value params).readAs JsValue.texts? "markets" = .ok markets :=
    readAs_freezeStrategy (by decide) (by decide) rfl (texts?_jsonCopy hmarkets)
  obtain ⟨minEdgePct, hedgeRead, -⟩ := readFinite_freezeStrategy params (by decide) (by decide) hedge
  obtain ⟨minConfidence, hconfRead, -⟩ :=
    readFinite_freezeStrategy params (by decide) (by decide) hconf
  obtain ⟨staking, hstakingRead, -⟩ := accepted_readStaking params hstaking
  obtain ⟨odds, hoddsRead, hlatency, hage, hbookmaker⟩ := readOdds_freezeStrategy params hvalue hodds
  rw [readSettings, hmarketsRead, ok_bind, hedgeRead, ok_bind, hconfRead, ok_bind, hstakingRead,
    ok_bind, hoddsRead, ok_bind, hlatency, ok_bind, hage, ok_bind, hbookmaker, ok_bind]
  exact succeeds_pure

/-- **And for what the stakes are computed from.** -/
theorem accepted_readPlan (params : QuoteParams) (h : isWalkForwardStrategy value = true) :
    Succeeds (readPlan (freezeStrategy value params)) := by
  simp only [isWalkForwardStrategy, Bool.and_eq_true] at h
  obtain ⟨⟨⟨⟨⟨⟨⟨⟨⟨⟨⟨⟨-, -⟩, -⟩, -⟩, -⟩, hbankroll⟩, hstaking⟩, -⟩, -⟩, -⟩, -⟩, -⟩, -⟩ := h
  obtain ⟨bankroll, hbankrollRead, hnonneg⟩ :=
    readFinite_freezeStrategy params (by decide) (by decide) hbankroll
  obtain ⟨staking, hstakingRead, hamount, hpercent⟩ := accepted_readStaking params hstaking
  rw [readPlan, hbankrollRead, ok_bind, hstakingRead, ok_bind,
    dif_pos ⟨of_decide_eq_true hnonneg, hamount, hpercent⟩]
  exact succeeds_pure

/-- The rules keep the shape that the guard asks for. -/
theorem accepted_rules (params : QuoteParams) (h : isWalkForwardStrategy value = true) :
    RulesShaped (jsonCopy (value.get "entryRules")) ∧
      (freezeStrategy value params).readAs JsValue.record? "entryRules" =
        .ok (jsonCopy (value.get "entryRules")) := by
  simp only [isWalkForwardStrategy, Bool.and_eq_true] at h
  obtain ⟨⟨⟨⟨-, hrules⟩, hfirst⟩, hsecond⟩, hodds⟩ := h
  obtain ⟨rules, hfirst, -⟩ := (Option.any_eq_true _ _).1 hfirst
  refine ⟨⟨isRecord_jsonCopy.trans hrules, ?_, ?_, ?_⟩, ?_⟩
  · rw [get_jsonCopy, items?_jsonCopy, hfirst, Option.isSome_some]
  · rw [get_jsonCopy, isRecord_jsonCopy, hsecond]
  · rw [get_jsonCopy, isRecord_jsonCopy, hodds]
  · exact readAs_freezeStrategy (by decide) (by decide) rfl
      (record?_eq_some (isRecord_jsonCopy.trans hrules))

end Frozen

/-! ## The result -/

/-- A strategy that the guard accepts. -/
structure AcceptedStrategy where
  value : JsValue
  accepted : isWalkForwardStrategy value = true

namespace Sample

/-- A strategy whose one rule of the first half is `null`. -/
def nullRule : JsValue :=
  .obj [("name", .str "baseline"), ("markets", .arr [.str "Buts match"]),
    ("minEdgePct", jsonRational 0), ("minConfidence", jsonRational 0),
    ("bankroll", jsonRational 1000),
    ("staking", .obj [("type", .str "FLAT"), ("amount", jsonRational 10)]),
    ("odds", .obj [("source", .arr [.str "ODDS_SNAPSHOT"])]),
    ("entryRules", .obj [("firstHalfRules", .arr [.null]),
      ("secondHalfRule", (HalfRule.mk 60 5).json),
      ("odds", (RuleOdds.mk evenOdds evenOdds evenOdds).json)])]

def quoteParams : QuoteParams := ⟨"v1", 30000, 300000, none⟩

/-- `Number`, of the numbers. -/
def exactRuntime : ExactRuntime where
  toRuntime := { runtime with
    number := fun
      | .num x => x
      | _ => .nan }
  number_num _ := rfl

end Sample

end ApiScore
