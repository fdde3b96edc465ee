import ApiScore.Rules.LiveSignals

/-!
# The shape of the live signals

The two passes select fixtures by their minute, and call rules that decide by the minute as well.  A
first-half rule may be open past the 45th minute, and the provider reports a running minute as `LIVE`
in both halves, so both passes may take the same fixture: the first one then counts the second half
without its half-time statistics.

* `WellFormedSignals` — one signal for each bet, and the second half counted from half-time.
* `SinglePass` — no fixture that both passes take has a signal to give.
* `wellFormedSignals_iff` — the second is what the first takes.
-/

set_option autoImplicit false

namespace ApiScore

open Ranked Grouping

/-- What a signal is a signal of. -/
def LiveSignal.key (s : LiveSignal) : String × Int × String := (s.fixtureId, s.teamId, s.marketType)

/-- The value of a signal in a snapshot. -/
def SnapshotSignals.value (signals : SnapshotSignals) : SignalType → Option JsNumber
  | .onTarget => some signals.shotsOnTarget
  | .pressureIndex => some signals.pressureIndex
  | .totalShots => signals.totalShots

section Shape

variable (number : JsValue → JsNumber) (numberText : JsNumber → String)

/-- The signals of the latest snapshot of a team. -/
def latestSignals (snaps : List FixtureStatsSnapshot) (fixtureId : String) (teamId : Int) :
    Option SnapshotSignals :=
  (firstOf (latestSnapshotsFirst snaps) fixtureId teamId).map fun s => snapshotSignals number s.stats

/-- One signal at most for each fixture, team and market; and one of the second half counts from the
snapshot at half-time, where there is one. -/
structure WellFormedSignals (data : LiveData) (config : SmartRulesConfig)
    (signals : List LiveSignal) : Prop where
  single : (signals.map (·.key)).Nodup
  fromHalfTime : ∀ s ∈ signals, s.marketType = "Buts 2ème mi-temps" →
    ∀ ht, buildHtBaseline number data.snapshots s.fixtureId s.teamId = some ht →
      ∃ latest value, latestSignals number data.snapshots s.fixtureId s.teamId = some latest ∧
        latest.value config.signalType = some value ∧
        s.shotsCount = (value.sub ((ht.value config.signalType).getD (.num 0))).max0

/-- A fixture that both passes take has no signal to give, counted from the start of the match; and
where a fixture has one team on both sides, not both of them fire in a half. -/
structure SinglePass (data : LiveData) (config : SmartRulesConfig) : Prop where
  overlap : ∀ f ∈ data.fixtures, inFirstPass config data.now f = true →
    inSecondPass config data.now f = true →
    ∀ input, liveInput? number data.snapshots none f = some input → ∀ side,
      input.firesFirstHalf config side = false ∧ input.firesSecondHalf config side = false
  oneTeam : ∀ f ∈ data.fixtures, f.homeTeamId = f.awayTeamId →
    (inFirstPass config data.now f = true →
      ∀ input, liveInput? number data.snapshots none f = some input →
        (input.firesFirstHalf config true && input.firesFirstHalf config false) = false) ∧
    (inSecondPass config data.now f = true →
      ∀ input, liveInput? number data.snapshots (some (buildHtBaseline number data.snapshots)) f =
          some input →
        (input.firesSecondHalf config true && input.firesSecondHalf config false) = false)

end Shape

/-! ## The signals of a fixture -/

section Fixture

variable {number : JsValue → JsNumber} {numberText : JsNumber → String} {data : LiveData}
  {config : SmartRulesConfig} {f : Fixture} {suffix : String} {ms : List RuleMatch}

/-- The three markets of the rules. -/
def isRuleMarket (marketType : String) : Prop :=
  marketType = "Buts 1ère mi-temps" ∨ marketType = "Buts match" ∨ marketType = "Buts 2ème mi-temps"

variable (data f suffix) in
theorem toLiveSignal_spec {m : RuleMatch} (h : isRuleMarket m.marketType) (index : Nat) :
    ∃ s, toLiveSignal data f suffix index m = some s ∧ s.key = (f.id, m.bet) ∧
      s.shotsCount = m.shotsCount := by
  have htarget : (quoteTargetForRuleMarket f.providerFixtureId m.marketType m.isHomeTeam).isSome := by
    rcases h with h | h | h <;> rw [h] <;> rfl
  obtain ⟨target, htarget⟩ := Option.isSome_iff_exists.1 htarget
  rw [toLiveSignal]
  rw [htarget, Option.map_some]
  exact ⟨_, rfl, rfl, rfl⟩

/-- The keys of a group do not depend on the places in it. -/
theorem map_key_zipIdx (hms : ∀ m ∈ ms, isRuleMarket m.marketType) (start : Nat) :
    ((ms.zipIdx start).filterMap fun (m, index) => toLiveSignal data f suffix index m).map (·.key) =
      ms.map fun m => (f.id, m.bet) := by
  induction ms generalizing start with
  | nil => rfl
  | cons m ms ih =>
    obtain ⟨s, hs, hkey, -⟩ :=
      toLiveSignal_spec data f suffix (hms m List.mem_cons_self) start
    rw [List.zipIdx_cons, List.filterMap_cons]
    simp only [hs]
    rw [List.map_cons, List.map_cons, hkey, ih fun x hx => hms x (List.mem_cons_of_mem m hx)]

/-- **The signals of a fixture are about the bets that the rules suggest.** -/
theorem perm_keys_signalsOfMatches (hms : ∀ m ∈ ms, isRuleMarket m.marketType) :
    ((signalsOfMatches data f suffix ms).map (·.key)).Perm (ms.map fun m => (f.id, m.bet)) := by
  have hgroups : (signalsOfMatches data f suffix ms).map (·.key) =
      ((groupBy (fun m : RuleMatch => m.teamId) ms).flatMap fun group => group.2).map
        fun m => (f.id, m.bet) := by
    rw [signalsOfMatches, List.map_flatMap, List.map_flatMap]
    refine List.flatMap_congr fun group hgroup => ?_
    obtain ⟨-, hgroup⟩ := mem_groupBy.1 hgroup
    refine map_key_zipIdx (fun m hm => hms m ?_) 0
    rw [hgroup] at hm
    exact List.mem_of_mem_filter hm
  rw [hgroups]
  exact (perm_flatMap_groupBy _ ms).map _

theorem mem_signalsOfMatches {s : LiveSignal} (hms : ∀ m ∈ ms, isRuleMarket m.marketType)
    (h : s ∈ signalsOfMatches data f suffix ms) :
    ∃ m ∈ ms, s.key = (f.id, m.bet) ∧ s.shotsCount = m.shotsCount := by
  obtain ⟨group, hgroup, hs⟩ := List.mem_flatMap.1 h
  obtain ⟨⟨m, index⟩, hm, hsignal⟩ := List.mem_filterMap.1 hs
  obtain ⟨-, hgroup⟩ := mem_groupBy.1 hgroup
  have hmem : m ∈ ms := by
    have hm := List.fst_mem_of_mem_zipIdx hm
    rw [hgroup] at hm
    exact List.mem_of_mem_filter hm
  obtain ⟨s', hs', hkey, hshots⟩ := toLiveSignal_spec data f suffix (hms m hmem) index
  obtain rfl : s' = s := Option.some.inj (hs'.symm.trans hsignal)
  exact ⟨m, hmem, hkey, hshots⟩

theorem exists_signal {m : RuleMatch} (hms : ∀ m ∈ ms, isRuleMarket m.marketType) (h : m ∈ ms) :
    ∃ s ∈ signalsOfMatches data f suffix ms, s.key = (f.id, m.bet) ∧
      s.shotsCount = m.shotsCount := by
  have hgrouped : m ∈ (groupBy (fun m : RuleMatch => m.teamId) ms).flatMap fun group => group.2 :=
    (perm_flatMap_groupBy _ ms).mem_iff.2 h
  obtain ⟨group, hgroup, hm⟩ := List.mem_flatMap.1 hgrouped
  obtain ⟨index, hindex, heq⟩ := List.getElem_of_mem hm
  obtain ⟨s, hs, hkey, hshots⟩ := toLiveSignal_spec data f suffix (hms m h) index
  refine ⟨s, List.mem_flatMap.2 ⟨group, hgroup, List.mem_filterMap.2 ⟨(m, index), ?_, hs⟩⟩, hkey,
    hshots⟩
  exact List.mem_zipIdx_iff_getElem?.2 (heq ▸ List.getElem?_eq_getElem hindex)

end Fixture

/-! ## What the rules suggest of a fixture in a pass -/

section Passes

variable {number : JsValue → JsNumber} {numberText : JsNumber → String}
  {snaps : List FixtureStatsSnapshot} {config : SmartRulesConfig} {now : Int} {f : Fixture}
  {ht : Option HtBaseline} {input : RuleEvaluationInput}

theorem liveInput?_eq_some :
    liveInput? number snaps ht f = some input ↔
      ∃ homeId awayId, f.homeTeamId = some homeId ∧ f.awayTeamId = some awayId ∧
        (snaps.any fun s => s.fixtureId == f.id && s.team?.isSome) = true ∧
        liveInput number snaps ht f homeId awayId = input := by
  rw [liveInput?]
  cases f.homeTeamId with
  | none => simp
  | some homeId =>
    cases f.awayTeamId with
    | none => simp
    | some awayId => simp [Option.ite_none_right_eq_some]

/-- **The rules suggest what the passes that take the fixture are for.** -/
theorem evaluateRules_liveInput (homeId awayId : Int)
    (h : inFirstPass config now f = true ∨ inSecondPass config now f = true) :
    evaluateRules numberText (liveInput number snaps ht f homeId awayId) config =
      (if inFirstPass config now f then
        firstHalfMatches numberText (liveInput number snaps ht f homeId awayId) config true ++
          firstHalfMatches numberText (liveInput number snaps ht f homeId awayId) config false
        else []) ++
      (if inSecondPass config now f then
        secondHalfMatches numberText (liveInput number snaps ht f homeId awayId) config true ++
          secondHalfMatches numberText (liveInput number snaps ht f homeId awayId) config false
        else []) := by
  obtain ⟨status, elapsed, hstatus, helapsed, hfresh⟩ : ∃ status elapsed,
      f.statusShort = some status ∧ f.elapsed = some elapsed ∧ f.isFresh now = true := by
    unfold inFirstPass inSecondPass at h
    cases hs : f.statusShort <;> cases he : f.elapsed <;> simp_all
    rcases h with h | h
    · exact h.2
    · exact h.2
  have hfirst : (status ∈ firstHalfStatuses ∧ 1 ≤ elapsed ∧
      withinWindow config.firstHalfRules elapsed) ↔ inFirstPass config now f = true := by
    simp [inFirstPass, hstatus, helapsed, hfresh]
  have hsecond : (status ∈ secondHalfStatuses ∧ 45 ≤ elapsed ∧
      elapsed < config.secondHalfRule.maxElapsed) ↔ inSecondPass config now f = true := by
    simp [inSecondPass, hstatus, helapsed, hfresh]
    norm_cast
    exact fun _ _ => Iff.rfl
  have hstatus' : (liveInput number snaps ht f homeId awayId).statusShort = status := by
    simp [liveInput, hstatus]
  have helapsed' : (liveInput number snaps ht f homeId awayId).elapsed = elapsed := by
    simp [liveInput, helapsed]
  rw [evaluateRules, evaluateFirstHalf, evaluateSecondHalf, hstatus', helapsed']
  simp only [hfirst, hsecond]

/-- The bets of a half on a team. -/
def sideBets (markets : List String) (teamId : Int) (fires : Bool) : List (Int × String) :=
  if fires then markets.map fun m => (teamId, m) else []

theorem mem_sideBets {markets : List String} {teamId : Int} {fires : Bool} {b : Int × String} :
    b ∈ sideBets markets teamId fires ↔ fires = true ∧ b.1 = teamId ∧ b.2 ∈ markets := by
  rw [sideBets]
  cases fires with
  | false => simp
  | true =>
    rw [if_pos rfl, List.mem_map]
    constructor
    · rintro ⟨m, hm, rfl⟩
      exact ⟨rfl, rfl, hm⟩
    · rintro ⟨-, rfl, hm⟩
      exact ⟨b.2, hm, rfl⟩

/-- The bets on two sides repeat where both fire for one team. -/
theorem nodup_sideBets {markets : List String} (hmarkets : markets.Nodup) (hne : markets ≠ [])
    (homeId awayId : Int) (home away : Bool) :
    (sideBets markets homeId home ++ sideBets markets awayId away).Nodup ↔
      (homeId = awayId → (home && away) = false) := by
  have hside (id : Int) (fires : Bool) : (sideBets markets id fires).Nodup := by
    rw [sideBets]
    split
    · exact hmarkets.map fun a b hab => (Prod.mk.inj hab).2
    · exact List.nodup_nil
  rw [List.nodup_append]
  constructor
  · rintro ⟨-, -, hd⟩ rfl
    by_contra hboth
    obtain ⟨hhome, haway⟩ : home = true ∧ away = true := by simpa using hboth
    obtain ⟨m, hm⟩ := List.exists_mem_of_ne_nil markets hne
    exact hd (homeId, m) (mem_sideBets.2 ⟨hhome, rfl, hm⟩) _ (mem_sideBets.2 ⟨haway, rfl, hm⟩) rfl
  · refine fun h => ⟨hside .., hside .., fun a ha b hb hab => ?_⟩
    obtain ⟨hhome, hid, -⟩ := mem_sideBets.1 ha
    obtain ⟨haway, hid', -⟩ := mem_sideBets.1 hb
    have := h (hid.symm.trans ((congrArg _ hab).trans hid'))
    rw [hhome, haway] at this
    cases this

/-- Two parts of a list, each under a guard, have no common entry. -/
theorem nodup_guarded {α : Type} {first second : Prop} [Decidable first] [Decidable second]
    {l₁ l₂ : List α} (hd : ∀ a ∈ l₁, ∀ b ∈ l₂, a ≠ b) :
    ((if first then l₁ else []) ++ (if second then l₂ else [])).Nodup ↔
      (first → l₁.Nodup) ∧ (second → l₂.Nodup) := by
  by_cases h₁ : first <;> by_cases h₂ : second <;> simp [h₁, h₂, List.nodup_append]
  exact fun _ _ => hd

def firstHalfMarkets : List String := ["Buts 1ère mi-temps", "Buts match"]

def secondHalfMarkets : List String := ["Buts 2ème mi-temps"]

/-- **The bets suggested of a fixture in a pass.** -/
theorem bets_liveInput (homeId awayId : Int)
    (h : inFirstPass config now f = true ∨ inSecondPass config now f = true) :
    (evaluateRules numberText (liveInput number snaps ht f homeId awayId) config).map (·.bet) =
      (if inFirstPass config now f then
        sideBets firstHalfMarkets homeId
            ((liveInput number snaps ht f homeId awayId).firesFirstHalf config true) ++
          sideBets firstHalfMarkets awayId
            ((liveInput number snaps ht f homeId awayId).firesFirstHalf config false)
        else []) ++
      (if inSecondPass config now f then
        sideBets secondHalfMarkets homeId
            ((liveInput number snaps ht f homeId awayId).firesSecondHalf config true) ++
          sideBets secondHalfMarkets awayId
            ((liveInput number snaps ht f homeId awayId).firesSecondHalf config false)
        else []) := by
  rw [evaluateRules_liveInput homeId awayId h, List.map_append, apply_ite (List.map _),
    apply_ite (List.map _), List.map_append, List.map_append, keys_firstHalfMatches,
    keys_firstHalfMatches, keys_secondHalfMatches, keys_secondHalfMatches]
  rfl

/-- **They repeat where both sides of the fixture are one team.** -/
theorem nodup_bets_liveInput (homeId awayId : Int)
    (h : inFirstPass config now f = true ∨ inSecondPass config now f = true) :
    ((evaluateRules numberText (liveInput number snaps ht f homeId awayId) config).map
        (·.bet)).Nodup ↔
      (inFirstPass config now f = true → homeId = awayId →
        ((liveInput number snaps ht f homeId awayId).firesFirstHalf config true &&
          (liveInput number snaps ht f homeId awayId).firesFirstHalf config false) = false) ∧
      (inSecondPass config now f = true → homeId = awayId →
        ((liveInput number snaps ht f homeId awayId).firesSecondHalf config true &&
          (liveInput number snaps ht f homeId awayId).firesSecondHalf config false) = false) := by
  rw [bets_liveInput homeId awayId h, nodup_guarded, nodup_sideBets (by decide) (by decide),
    nodup_sideBets (by decide) (by decide)]
  intro a ha b hb hab
  have hdisjoint : ∀ m ∈ firstHalfMarkets, m ∉ secondHalfMarkets := by decide
  simp only [List.mem_append, mem_sideBets] at ha hb
  refine hdisjoint a.2 ?_ (hab ▸ ?_)
  · exact ha.elim (·.2.2) (·.2.2)
  · exact hb.elim (·.2.2) (·.2.2)

theorem isRuleMarket_of_mem (homeId awayId : Int)
    (h : inFirstPass config now f = true ∨ inSecondPass config now f = true) {m : RuleMatch}
    (hm : m ∈ evaluateRules numberText (liveInput number snaps ht f homeId awayId) config) :
    isRuleMarket m.marketType := by
  have hmarkets : ∀ market ∈ firstHalfMarkets ++ secondHalfMarkets, isRuleMarket market := by
    simp only [firstHalfMarkets, secondHalfMarkets, isRuleMarket]
    simp
  have hbet := List.mem_map_of_mem (f := (·.bet)) hm
  rw [bets_liveInput homeId awayId h, List.mem_append] at hbet
  refine hmarkets m.bet.2 (List.mem_append.2 ?_)
  rcases hbet with hbet | hbet
  · refine Or.inl ?_
    split at hbet
    · exact (List.mem_append.1 hbet).elim (fun h => (mem_sideBets.1 h).2.2)
        fun h => (mem_sideBets.1 h).2.2
    · cases hbet
  · refine Or.inr ?_
    split at hbet
    · exact (List.mem_append.1 hbet).elim (fun h => (mem_sideBets.1 h).2.2)
        fun h => (mem_sideBets.1 h).2.2
    · cases hbet

end Passes

/-! ## The signals of a pass -/

section Pass

variable {number : JsValue → JsNumber} {numberText : JsNumber → String} {data : LiveData}
  {fixtures : List Fixture} {config : SmartRulesConfig} {suffix : String} {ht : Option HtBaseline}
  {f : Fixture} {input : RuleEvaluationInput} {s : LiveSignal}

/-- The suggestions of a pass are on the three markets. -/
theorem isRuleMarket_fixtureMatches
    (h : inFirstPass config data.now f = true ∨ inSecondPass config data.now f = true) :
    ∀ m ∈ fixtureMatches number numberText data.snapshots config ht f, isRuleMarket m.marketType := by
  intro m hm
  rw [fixtureMatches] at hm
  cases hinput : liveInput? number data.snapshots ht f with
  | none =>
    rw [hinput] at hm
    cases hm
  | some input =>
    obtain ⟨homeId, awayId, -, -, -, rfl⟩ := liveInput?_eq_some.1 hinput
    rw [hinput] at hm
    exact isRuleMarket_of_mem homeId awayId h hm

theorem fixtureMatches_of_input (h : liveInput? number data.snapshots ht f = some input) :
    fixtureMatches number numberText data.snapshots config ht f =
      evaluateRules numberText input config := by
  rw [fixtureMatches, h]
  rfl

/-- **A signal of a pass is a suggestion on a fixture that it takes.** -/
theorem of_mem_pass (hpass : ∀ f ∈ fixtures,
      inFirstPass config data.now f = true ∨ inSecondPass config data.now f = true)
    (hs : s ∈ evaluateFixturesWithRules number numberText data fixtures config suffix ht) :
    ∃ f ∈ fixtures, ∃ input, liveInput? number data.snapshots ht f = some input ∧
      ∃ m ∈ evaluateRules numberText input config, s.key = (f.id, m.bet) ∧
        s.shotsCount = m.shotsCount := by
  obtain ⟨f, hf, hs⟩ := List.mem_flatMap.1 hs
  obtain ⟨m, hm, hkey⟩ := mem_signalsOfMatches (isRuleMarket_fixtureMatches (hpass f hf)) hs
  cases hinput : liveInput? number data.snapshots ht f with
  | none =>
    rw [fixtureMatches, hinput] at hm
    cases hm
  | some input =>
    rw [fixtureMatches_of_input hinput] at hm
    exact ⟨f, hf, input, hinput, m, hm, hkey⟩

/-- **And each suggestion is a signal.** -/
theorem exists_mem_pass (hpass : ∀ f ∈ fixtures,
      inFirstPass config data.now f = true ∨ inSecondPass config data.now f = true)
    (hf : f ∈ fixtures) (hinput : liveInput? number data.snapshots ht f = some input)
    {m : RuleMatch} (hm : m ∈ evaluateRules numberText input config) :
    ∃ s ∈ evaluateFixturesWithRules number numberText data fixtures config suffix ht,
      s.key = (f.id, m.bet) ∧ s.shotsCount = m.shotsCount := by
  rw [← fixtureMatches_of_input hinput] at hm
  obtain ⟨s, hs, hkey⟩ := @exists_signal data _ _ _ _
    (isRuleMarket_fixtureMatches (hpass f hf)) hm
  exact ⟨s, List.mem_flatMap.2 ⟨f, hf, hs⟩, hkey⟩

/-- **The signals of a pass are of different bets where the suggestions on each fixture are.** -/
theorem nodup_pass (hids : (fixtures.map (·.id)).Nodup) (hpass : ∀ f ∈ fixtures,
      inFirstPass config data.now f = true ∨ inSecondPass config data.now f = true) :
    ((evaluateFixturesWithRules number numberText data fixtures config suffix ht).map
        (·.key)).Nodup ↔
      ∀ f ∈ fixtures, ∀ input, liveInput? number data.snapshots ht f = some input →
        ((evaluateRules numberText input config).map (·.bet)).Nodup := by
  have hfixture : ∀ f ∈ fixtures,
      ((signalsOfMatches data f suffix
        (fixtureMatches number numberText data.snapshots config ht f)).map (·.key)).Nodup ↔
      ((fixtureMatches number numberText data.snapshots config ht f).map (·.bet)).Nodup := by
    intro f hf
    rw [(perm_keys_signalsOfMatches (isRuleMarket_fixtureMatches (hpass f hf))).nodup_iff]
    have : ((fixtureMatches number numberText data.snapshots config ht f).map fun m =>
        (f.id, m.bet)) = ((fixtureMatches number numberText data.snapshots config ht f).map
          (·.bet)).map fun b => (f.id, b) := by
      rw [List.map_map]
      rfl
    rw [this]
    exact List.nodup_map_iff fun a b hab => (Prod.mk.inj hab).2
  have hapart : fixtures.Pairwise fun f g => (
      (signalsOfMatches data f suffix
        (fixtureMatches number numberText data.snapshots config ht f)).map (·.key)).Disjoint
      ((signalsOfMatches data g suffix
        (fixtureMatches number numberText data.snapshots config ht g)).map (·.key)) := by
    refine (List.pairwise_map.1 hids).imp_of_mem fun {f g} hf hg hne key hkf hkg => hne ?_
    obtain ⟨s, hs, rfl⟩ := List.mem_map.1 hkf
    obtain ⟨s', hs', hkey⟩ := List.mem_map.1 hkg
    obtain ⟨m, -, hm, -⟩ := mem_signalsOfMatches (isRuleMarket_fixtureMatches (hpass f hf)) hs
    obtain ⟨m', -, hm', -⟩ := mem_signalsOfMatches (isRuleMarket_fixtureMatches (hpass g hg)) hs'
    have heq := (hm.symm.trans (hkey.symm.trans hm'))
    exact (Prod.mk.inj heq).1
  rw [evaluateFixturesWithRules, List.map_flatMap, List.nodup_flatMap, and_iff_left hapart]
  refine forall₂_congr fun f hf => ?_
  rw [hfixture f hf]
  constructor
  · intro h input hinput
    rwa [fixtureMatches_of_input hinput] at h
  · intro h
    cases hinput : liveInput? number data.snapshots ht f with
    | none =>
      rw [fixtureMatches, hinput]
      exact List.nodup_nil
    | some input =>
      rw [fixtureMatches_of_input hinput]
      exact h input hinput

end Pass

/-! ## What both passes give to the rules -/

section Both

variable {number : JsValue → JsNumber} {numberText : JsNumber → String}
  {snaps : List FixtureStatsSnapshot} {config : SmartRulesConfig} {now : Int} {f : Fixture}
  {ht : Option HtBaseline} {homeId awayId : Int} {side : Bool} {m : RuleMatch}

variable (number snaps f homeId awayId) in
theorem value_team_liveInput (ht : Option HtBaseline) (side : Bool) (signal : SignalType) :
    ((liveInput number snaps ht f homeId awayId).team side).value signal =
      (latestSignals number snaps f.id
        ((liveInput number snaps ht f homeId awayId).team side).teamId).bind (·.value signal) := by
  have hteam (teamId : Int) (name : Option String) :
      (liveTeamSignals number snaps f.id teamId name).value signal =
        (latestSignals number snaps f.id teamId).bind (·.value signal) := by
    rw [liveTeamSignals, latestSignals]
    cases (firstOf (latestSnapshotsFirst snaps) f.id teamId) <;> cases signal <;> rfl
  cases side
  · exact hteam awayId _
  · exact hteam homeId _

variable (number snaps f homeId awayId) in
theorem htBaseline_liveInput (bl : HtBaseline) (side : Bool) (signal : SignalType) :
    (liveInput number snaps (some bl) f homeId awayId).htBaseline signal side =
      ((bl f.id ((liveInput number snaps (some bl) f homeId awayId).team side).teamId).bind
        (·.value signal)).getD (.num 0) := by
  have hbl (teamId : Int) : ∀ o : Option SnapshotSignals,
      (o.map fun s => s.totalShots.getD (JsNumber.num 0)).getD (.num 0) =
        (o.bind (·.totalShots)).getD (.num 0) := by
    intro o
    cases o <;> rfl
  have hsome (of : SnapshotSignals → JsNumber) (o : Option SnapshotSignals) :
      (o.map of).getD (.num 0) = (o.bind fun s => some (of s)).getD (.num 0) := by
    cases o <;> rfl
  cases signal
  · cases side
    · exact hbl awayId _
    · exact hbl homeId _
  · cases side
    · exact hsome (·.shotsOnTarget) _
    · exact hsome (·.shotsOnTarget) _
  · cases side
    · exact hsome (·.pressureIndex) _
    · exact hsome (·.pressureIndex) _

/-- A suggestion on the second half comes from the second half of the rules. -/
theorem of_secondHalf (h : inFirstPass config now f = true ∨ inSecondPass config now f = true)
    (hm : m ∈ evaluateRules numberText (liveInput number snaps ht f homeId awayId) config)
    (hmarket : m.marketType = "Buts 2ème mi-temps") :
    inSecondPass config now f = true ∧ ∃ side,
      m ∈ secondHalfMatches numberText (liveInput number snaps ht f homeId awayId) config side := by
  have hfirst (side : Bool) :
      m ∉ firstHalfMatches numberText (liveInput number snaps ht f homeId awayId) config side := by
    intro hm
    have hbet := List.mem_map_of_mem (f := (·.bet)) hm
    rw [keys_firstHalfMatches] at hbet
    have hmem := (@mem_sideBets firstHalfMarkets _ _ _).1 hbet
    have : m.marketType ∈ firstHalfMarkets := hmem.2.2
    rw [hmarket] at this
    revert this
    decide
  rw [evaluateRules_liveInput homeId awayId h, List.mem_append] at hm
  rcases hm with hm | hm
  · split at hm
    · exact absurd hm fun hm => (List.mem_append.1 hm).elim (hfirst true) (hfirst false)
    · cases hm
  · split at hm
    · next hsecond =>
      exact ⟨hsecond, (List.mem_append.1 hm).elim (fun hm => ⟨true, hm⟩) fun hm => ⟨false, hm⟩⟩
    · cases hm

/-- A half suggests on a side that fires. -/
theorem exists_firstHalf {input : RuleEvaluationInput}
    (h : input.firesFirstHalf config side = true) :
    ∃ m ∈ firstHalfMatches numberText input config side,
      m.bet = ((input.team side).teamId, "Buts 1ère mi-temps") := by
  have hbet : ((input.team side).teamId, "Buts 1ère mi-temps") ∈
      (firstHalfMatches numberText input config side).map (·.bet) := by
    rw [keys_firstHalfMatches, if_pos h]
    exact List.mem_cons_self
  exact List.mem_map.1 hbet

theorem exists_secondHalf {input : RuleEvaluationInput}
    (h : input.firesSecondHalf config side = true) :
    ∃ m ∈ secondHalfMatches numberText input config side,
      m.bet = ((input.team side).teamId, "Buts 2ème mi-temps") := by
  have hbet : ((input.team side).teamId, "Buts 2ème mi-temps") ∈
      (secondHalfMatches numberText input config side).map (·.bet) := by
    rw [keys_secondHalfMatches, if_pos h]
    exact List.mem_cons_self
  exact List.mem_map.1 hbet

variable (numberText) in
theorem mem_evaluateRules_first (h : inFirstPass config now f = true)
    (hm : m ∈ firstHalfMatches numberText (liveInput number snaps ht f homeId awayId) config side) :
    m ∈ evaluateRules numberText (liveInput number snaps ht f homeId awayId) config := by
  rw [evaluateRules_liveInput homeId awayId (Or.inl h), if_pos h]
  refine List.mem_append_left _ (List.mem_append.2 ?_)
  cases side
  · exact Or.inr hm
  · exact Or.inl hm

variable (numberText) in
theorem mem_evaluateRules_second (h : inSecondPass config now f = true)
    (hm : m ∈ secondHalfMatches numberText (liveInput number snaps ht f homeId awayId) config
      side) :
    m ∈ evaluateRules numberText (liveInput number snaps ht f homeId awayId) config := by
  rw [evaluateRules_liveInput homeId awayId (Or.inr h), if_pos h]
  refine List.mem_append_right _ (List.mem_append.2 ?_)
  cases side
  · exact Or.inr hm
  · exact Or.inl hm

end Both

/-! ## The shape of all signals -/

section Signals

variable {number : JsValue → JsNumber} {numberText : JsNumber → String} {data : LiveData}
  {config : SmartRulesConfig} {f : Fixture} {side : Bool} {input : RuleEvaluationInput}

theorem mem_firstPass :
    f ∈ data.fixtures.filter (inFirstPass config data.now) ↔
      f ∈ data.fixtures ∧ inFirstPass config data.now f = true := List.mem_filter

theorem mem_secondPass :
    f ∈ data.fixtures.filter (inSecondPass config data.now) ↔
      f ∈ data.fixtures ∧ inSecondPass config data.now f = true := List.mem_filter

/-- The fixtures of a pass are those of one of the two. -/
theorem firstPass_passes : ∀ g ∈ data.fixtures.filter (inFirstPass config data.now),
    inFirstPass config data.now g = true ∨ inSecondPass config data.now g = true :=
  fun _ hg => Or.inl (mem_firstPass.1 hg).2

theorem secondPass_passes : ∀ g ∈ data.fixtures.filter (inSecondPass config data.now),
    inFirstPass config data.now g = true ∨ inSecondPass config data.now g = true :=
  fun _ hg => Or.inr (mem_secondPass.1 hg).2

theorem nodup_filter_ids (pass : Fixture → Bool) :
    ((data.fixtures.filter pass).map (·.id)).Nodup :=
  data.distinct.sublist (List.filter_sublist.map _)

/-- Without the statistics at half-time a signal counts from the start. -/
theorem htBaseline_none (snaps : List FixtureStatsSnapshot) (homeId awayId : Int)
    (signal : SignalType) (side : Bool) :
    (liveInput number snaps none f homeId awayId).htBaseline signal side = .num 0 := by
  cases signal <;> rfl

/-- The second half fires as it does from the start where its count from half-time is the same. -/
theorem firesSecondHalf_congr {snaps : List FixtureStatsSnapshot} {homeId awayId : Int}
    {ht ht' : Option HtBaseline} {value : JsNumber}
    (hvalue : ((liveInput number snaps ht f homeId awayId).team side).value config.signalType =
      some value)
    (hcount : (value.sub ((liveInput number snaps ht' f homeId awayId).htBaseline
        config.signalType side)).max0 =
      (value.sub ((liveInput number snaps ht f homeId awayId).htBaseline
        config.signalType side)).max0)
    (h : (liveInput number snaps ht f homeId awayId).firesSecondHalf config side = true) :
    (liveInput number snaps ht' f homeId awayId).firesSecondHalf config side = true := by
  have hvalue' : ((liveInput number snaps ht' f homeId awayId).team side).value config.signalType =
      some value := hvalue
  rw [RuleEvaluationInput.firesSecondHalf, hvalue, Option.any_some, ← hcount] at h
  rw [RuleEvaluationInput.firesSecondHalf, hvalue', Option.any_some]
  exact h

/-- Two signals of one bet, one of each pass, are one too many. -/
theorem not_single {key : String × Int × String}
    (h₁ : ∃ s ∈ getFirstHalfSuggestions number numberText data config, s.key = key)
    (h₂ : ∃ s ∈ getSecondHalfSuggestions number numberText data config, s.key = key) :
    ¬ ((evaluateLiveSignals number numberText data config).map (·.key)).Nodup := by
  obtain ⟨s₁, hs₁, hkey₁⟩ := h₁
  obtain ⟨s₂, hs₂, hkey₂⟩ := h₂
  rw [evaluateLiveSignals, List.map_append, List.nodup_append]
  rintro ⟨-, -, hd⟩
  exact hd _ (List.mem_map_of_mem hs₁) _ (List.mem_map_of_mem hs₂) (hkey₁.trans hkey₂.symm)

/-- A signal of the first pass for the second half counts from half-time only where that changes
nothing. -/
theorem count_of_wellFormed
    (h : WellFormedSignals number data config (evaluateLiveSignals number numberText data config))
    {homeId awayId : Int} {side : Bool} {s : LiveSignal}
    (hs : s ∈ getFirstHalfSuggestions number numberText data config)
    (hkey : s.key = (f.id, ((liveInput number data.snapshots none f homeId awayId).team side).teamId,
      "Buts 2ème mi-temps")) {value : JsNumber}
    (hvalue : ((liveInput number data.snapshots none f homeId awayId).team side).value
      config.signalType = some value)
    (hshots : s.shotsCount = (value.sub (.num 0)).max0) :
    (value.sub ((liveInput number data.snapshots (some (buildHtBaseline number data.snapshots)) f
      homeId awayId).htBaseline config.signalType side)).max0 = (value.sub (.num 0)).max0 := by
  rw [htBaseline_liveInput]
  cases hbl : buildHtBaseline number data.snapshots f.id
    ((liveInput number data.snapshots (some (buildHtBaseline number data.snapshots)) f homeId
      awayId).team side).teamId with
  | none => rfl
  | some b =>
    obtain ⟨hfixture, hteam, hmarket⟩ : s.fixtureId = f.id ∧
        s.teamId = ((liveInput number data.snapshots none f homeId awayId).team side).teamId ∧
        s.marketType = "Buts 2ème mi-temps" := by simpa [LiveSignal.key] using hkey
    obtain ⟨latest, v, hlatest, hv, hcount⟩ :=
      h.fromHalfTime s (List.mem_append_left _ hs) hmarket b (by
        rw [hfixture, hteam]
        exact hbl)
    rw [value_team_liveInput, ← hteam, ← hfixture, hlatest, Option.bind_some, hv] at hvalue
    rw [← Option.some.inj hvalue, Option.bind_some, ← hcount, hshots, Option.some.inj hvalue]

/-- The signals of a fixture that both passes take. -/
theorem overlap_of_wellFormed
    (h : WellFormedSignals number data config (evaluateLiveSignals number numberText data config))
    (hf : f ∈ data.fixtures) (h₁ : inFirstPass config data.now f = true)
    (h₂ : inSecondPass config data.now f = true)
    (hinput : liveInput? number data.snapshots none f = some input) (side : Bool) :
    input.firesFirstHalf config side = false ∧ input.firesSecondHalf config side = false := by
  obtain ⟨homeId, awayId, hhome, haway, hany, rfl⟩ := liveInput?_eq_some.1 hinput
  have hinput₂ : liveInput? number data.snapshots (some (buildHtBaseline number data.snapshots)) f =
      some (liveInput number data.snapshots (some (buildHtBaseline number data.snapshots)) f homeId
        awayId) := liveInput?_eq_some.2 ⟨homeId, awayId, hhome, haway, hany, rfl⟩
  have hf₁ := mem_firstPass.2 ⟨hf, h₁⟩
  have hf₂ := mem_secondPass.2 ⟨hf, h₂⟩
  constructor
  · -- the statistics at half-time play no part in the first half: both passes suggest the bet
    by_contra hfires
    rw [Bool.not_eq_false] at hfires
    obtain ⟨m₁, hm₁, hbet₁⟩ := @exists_firstHalf numberText _ _ _ hfires
    obtain ⟨m₂, hm₂, hbet₂⟩ := @exists_firstHalf numberText _ _
      (liveInput number data.snapshots (some (buildHtBaseline number data.snapshots)) f
        homeId awayId) hfires
    obtain ⟨s₁, hs₁, hkey₁, -⟩ := @exists_mem_pass _ _ _ _ _ "fh" _ _ _ firstPass_passes hf₁ hinput _
      (mem_evaluateRules_first numberText h₁ hm₁)
    obtain ⟨s₂, hs₂, hkey₂, -⟩ := @exists_mem_pass _ _ _ _ _ "sh" _ _ _ secondPass_passes hf₂ hinput₂ _
      (mem_evaluateRules_first numberText h₁ hm₂)
    exact not_single ⟨s₁, hs₁, hkey₁.trans (congrArg _ hbet₁)⟩
      ⟨s₂, hs₂, hkey₂.trans (congrArg _ hbet₂)⟩ h.single
  · by_contra hfires
    rw [Bool.not_eq_false] at hfires
    obtain ⟨m₁, hm₁, hbet₁⟩ := @exists_secondHalf numberText _ _ _ hfires
    obtain ⟨s₁, hs₁, hkey₁, hshots₁⟩ := @exists_mem_pass _ _ _ _ _ "fh" _ _ _ firstPass_passes hf₁
      hinput _ (mem_evaluateRules_second numberText h₂ hm₁)
    obtain ⟨value, hvalue, hshots, -⟩ := shots_secondHalfMatches hm₁
    rw [htBaseline_none] at hshots
    have hcount := count_of_wellFormed h hs₁ (hkey₁.trans (congrArg _ hbet₁)) hvalue
      (hshots₁.trans hshots)
    obtain ⟨m₂, hm₂, hbet₂⟩ := @exists_secondHalf numberText _ _ _
      (@firesSecondHalf_congr _ _ _ _ _ _ _ _ (some (buildHtBaseline number data.snapshots)) _ hvalue
        (by rw [hcount, htBaseline_none]) hfires)
    obtain ⟨s₂, hs₂, hkey₂, -⟩ := @exists_mem_pass _ _ _ _ _ "sh" _ _ _ secondPass_passes hf₂ hinput₂ _
      (mem_evaluateRules_second numberText h₂ hm₂)
    exact not_single ⟨s₁, hs₁, hkey₁.trans (congrArg _ hbet₁)⟩
      ⟨s₂, hs₂, hkey₂.trans (congrArg _ hbet₂)⟩ h.single

/-- Where the passes do not meet, the first one suggests nothing on a fixture of both. -/
theorem evaluateRules_overlap (h : SinglePass number data config) (hf : f ∈ data.fixtures)
    (h₁ : inFirstPass config data.now f = true) (h₂ : inSecondPass config data.now f = true)
    (hinput : liveInput? number data.snapshots none f = some input) :
    evaluateRules numberText input config = [] := by
  have hquiet := h.overlap f hf h₁ h₂ input hinput
  obtain ⟨homeId, awayId, -, -, -, rfl⟩ := liveInput?_eq_some.1 hinput
  rw [← List.map_eq_nil_iff, bets_liveInput homeId awayId (Or.inl h₁), (hquiet true).1,
    (hquiet true).2, (hquiet false).1, (hquiet false).2]
  simp [sideBets]

theorem single_of_singlePass (h : SinglePass number data config) :
    ((evaluateLiveSignals number numberText data config).map (·.key)).Nodup := by
  rw [evaluateLiveSignals, List.map_append, List.nodup_append]
  refine ⟨(nodup_pass (nodup_filter_ids _) firstPass_passes).2 fun f hf input hinput => ?_,
    (nodup_pass (nodup_filter_ids _) secondPass_passes).2 fun f hf input hinput => ?_, ?_⟩
  · obtain ⟨hf, h₁⟩ := mem_firstPass.1 hf
    by_cases h₂ : inSecondPass config data.now f = true
    · rw [evaluateRules_overlap h hf h₁ h₂ hinput]
      exact List.nodup_nil
    · have hteams := h.oneTeam f hf
      obtain ⟨homeId, awayId, hhome, haway, -, rfl⟩ := liveInput?_eq_some.1 hinput
      exact (nodup_bets_liveInput homeId awayId (Or.inl h₁)).2
        ⟨fun _ heq => (hteams (by rw [hhome, haway, heq])).1 h₁ _ hinput,
          fun hsecond => absurd hsecond h₂⟩
  · obtain ⟨hf, h₂⟩ := mem_secondPass.1 hf
    have hteams := h.oneTeam f hf
    have hquiet := h.overlap f hf
    obtain ⟨homeId, awayId, hhome, haway, hany, rfl⟩ := liveInput?_eq_some.1 hinput
    refine (nodup_bets_liveInput homeId awayId (Or.inr h₂)).2
      ⟨fun h₁ _ => ?_, fun _ heq => (hteams (by rw [hhome, haway, heq])).2 h₂ _ hinput⟩
    have hfires := (hquiet h₁ h₂ _
      (liveInput?_eq_some.2 ⟨homeId, awayId, hhome, haway, hany, rfl⟩) true).1
    exact Bool.and_eq_false_iff.2 (Or.inl hfires)
  · intro key hkey₁ key' hkey₂ heq
    obtain ⟨s₁, hs₁, rfl⟩ := List.mem_map.1 hkey₁
    obtain ⟨s₂, hs₂, rfl⟩ := List.mem_map.1 hkey₂
    obtain ⟨f, hf, input, hinput, m, hm, hbet, -⟩ := of_mem_pass firstPass_passes hs₁
    obtain ⟨f', hf', _, _, _, _, hbet', _⟩ := of_mem_pass secondPass_passes hs₂
    obtain ⟨hf, h₁⟩ := mem_firstPass.1 hf
    obtain ⟨hf', h₂⟩ := mem_secondPass.1 hf'
    have hid : f.id = f'.id := congrArg Prod.fst (hbet.symm.trans (heq.trans hbet'))
    obtain rfl : f = f' := List.inj_on_of_nodup_map data.distinct hf hf' hid
    rw [evaluateRules_overlap h hf h₁ h₂ hinput] at hm
    cases hm

theorem fromHalfTime_of_singlePass (h : SinglePass number data config) {s : LiveSignal}
    (hs : s ∈ evaluateLiveSignals number numberText data config)
    (hmarket : s.marketType = "Buts 2ème mi-temps") {ht : SnapshotSignals}
    (hht : buildHtBaseline number data.snapshots s.fixtureId s.teamId = some ht) :
    ∃ latest value, latestSignals number data.snapshots s.fixtureId s.teamId = some latest ∧
      latest.value config.signalType = some value ∧
      s.shotsCount = (value.sub ((ht.value config.signalType).getD (.num 0))).max0 := by
  have hparts {f : Fixture} {m : RuleMatch} (hkey : s.key = (f.id, m.bet)) :
      s.fixtureId = f.id ∧ s.teamId = m.teamId ∧ s.marketType = m.marketType := by
    simpa [LiveSignal.key, RuleMatch.bet] using hkey
  rcases List.mem_append.1 hs with hs | hs
  · -- the first pass would have to take a fixture of the second half
    obtain ⟨f, hf, input, hinput, m, hm, hkey, -⟩ :=
      of_mem_pass firstPass_passes hs
    obtain ⟨hf, h₁⟩ := mem_firstPass.1 hf
    have hm' := hm
    obtain ⟨homeId, awayId, -, -, -, rfl⟩ := liveInput?_eq_some.1 hinput
    obtain ⟨h₂, -⟩ := of_secondHalf (Or.inl h₁) hm ((hparts hkey).2.2.symm.trans hmarket)
    rw [evaluateRules_overlap h hf h₁ h₂ hinput] at hm'
    cases hm'
  · obtain ⟨f, hf, input, hinput, m, hm, hkey, hshots⟩ :=
      of_mem_pass secondPass_passes hs
    obtain ⟨-, h₂⟩ := mem_secondPass.1 hf
    obtain ⟨homeId, awayId, -, -, -, rfl⟩ := liveInput?_eq_some.1 hinput
    obtain ⟨hfixture, hteam, hmarket'⟩ := hparts hkey
    obtain ⟨-, side, hm⟩ := of_secondHalf (Or.inr h₂) hm (hmarket'.symm.trans hmarket)
    obtain ⟨value, hvalue, hcount, hteam'⟩ := shots_secondHalfMatches hm
    rw [value_team_liveInput, ← hteam', ← hteam, ← hfixture] at hvalue
    rw [htBaseline_liveInput, ← hteam', ← hteam, ← hfixture, hht, Option.bind_some] at hcount
    obtain ⟨latest, hlatest, hvalue⟩ := Option.bind_eq_some_iff.1 hvalue
    exact ⟨latest, value, hlatest, hvalue, hshots.trans hcount⟩

/-- **The live signals are well formed exactly where no fixture is taken twice with a signal to
give.** -/
theorem wellFormedSignals_iff :
    WellFormedSignals number data config (evaluateLiveSignals number numberText data config) ↔
      SinglePass number data config := by
  constructor
  · intro h
    have hsingle := h.single
    rw [evaluateLiveSignals, List.map_append, List.nodup_append] at hsingle
    have hfirst := (nodup_pass (nodup_filter_ids _) firstPass_passes).1 hsingle.1
    have hsecond := (nodup_pass (nodup_filter_ids _) secondPass_passes).1 hsingle.2.1
    refine ⟨fun f hf h₁ h₂ input hinput side => overlap_of_wellFormed h hf h₁ h₂ hinput side,
      fun f hf hteams => ⟨fun h₁ input hinput => ?_, fun h₂ input hinput => ?_⟩⟩
    · have hnodup := hfirst f (mem_firstPass.2 ⟨hf, h₁⟩) input hinput
      obtain ⟨homeId, awayId, hhome, haway, -, rfl⟩ := liveInput?_eq_some.1 hinput
      exact ((nodup_bets_liveInput homeId awayId (Or.inl h₁)).1 hnodup).1 h₁
        (Option.some.inj (hhome.symm.trans (hteams.trans haway)))
    · have hnodup := hsecond f (mem_secondPass.2 ⟨hf, h₂⟩) input hinput
      obtain ⟨homeId, awayId, hhome, haway, -, rfl⟩ := liveInput?_eq_some.1 hinput
      exact ((nodup_bets_liveInput homeId awayId (Or.inr h₂)).1 hnodup).2 h₂
        (Option.some.inj (hhome.symm.trans (hteams.trans haway)))
  · exact fun h => ⟨single_of_singlePass h,
      fun s hs hmarket ht hht => fromHalfTime_of_singlePass h hs hmarket hht⟩

end Signals

/-! ## Settings whose windows meet -/

namespace Sample

/-- `Number`, of a number. -/
def numberOfNumber : JsValue → JsNumber
  | .num n => n
  | _ => .nan

/-- The home team has shot nine times. -/
def nineShots : FixtureStatsSnapshot where
  id := "s"
  fixtureId := "f"
  teamId := some 1
  elapsed := some 50
  stats := .obj [("total_shots", .num (.num 9))]
  snapshotAt := 0

def live : LiveData where
  fixtures := [liveFixture]
  distinct := by decide
  snapshots := [nineShots]
  baseRate _ _ _ _ _ := none
  now := 0

end Sample

/-- Both passes suggest a goal of the home team in the first half, in its 50th minute. -/
theorem suggests_twice :
    ¬ ∀ (number : JsValue → JsNumber) (numberText : JsNumber → String) (data : LiveData)
      (config : SmartRulesConfig), config.Admitted →
      WellFormedSignals number data config
        (evaluateLiveSignals number numberText data config) := by
  intro h
  have hquiet := overlap_of_wellFormed
    (h Sample.numberOfNumber (fun _ => "") Sample.live Sample.longFirstHalf (by decide +kernel))
    (f := Sample.liveFixture) List.mem_cons_self (by decide +kernel) (by decide +kernel)
    (liveInput?_eq_some.2 ⟨1, 2, rfl, rfl, by decide +kernel, rfl⟩) true
  exact absurd hquiet.1 (by decide +kernel)

end ApiScore
