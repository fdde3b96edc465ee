import ApiScore.Backtest.NoLookAhead

/-!
# A latency that goes back in time

Nothing bounds the latency of a strategy that a replay is asked for.  With a negative one, a bet is
decided on a quote received after the instant of its execution, so it depends on quotes that are later
than the tick plus the latency.

* `bets_tenthMinute` — the bet of one tick, from the quotes it finds.
* `looks_ahead` — two data sets that agree up to that tick, and the bets of which differ.
* `noLookAhead_iff` — which latencies never look ahead.
-/

set_option autoImplicit false

namespace ApiScore

open Ranked Grouping Relational

/-! ## One tick -/

namespace Sample

/-- Any team suggests a goal until half-time. -/
def anyShot : SmartRulesConfig where
  signal := some .onTarget
  scoreStateModifiers := none
  firstHalfRules := [⟨45, 0⟩]
  secondHalfRule := ⟨80, 0⟩
  odds := ⟨evenOdds, evenOdds, evenOdds⟩

/-- A strategy that takes the odd `latencyMs` after its decision. -/
def withLatency (latencyMs : Int) (maxQuoteAgeMs : Option Int) : BacktestStrategy where
  entryRules := anyShot
  markets := ["Buts match"]
  minEdgePct := 0
  minConfidence := 0
  staking := ⟨.flat, 10⟩
  odds := ⟨latencyMs, maxQuoteAgeMs, none⟩

def tenthMinute : FixtureStatsSnapshot := ⟨"1", "a", some 1, some 10, .obj [], 0⟩

def fixtureA : Fixture := { liveFixture with id := "a" }

end Sample

open Sample

/-- In the tenth minute the rules suggest two bets on the home team, one of which is played. -/
theorem suggestions_tenthMinute (number : JsValue → JsNumber) (numberText : JsNumber → String) :
    ∃ first full : RuleMatch,
      evaluateRules numberText ((TickState.start.feed number tenthMinute).input fixtureA [] 1 2 10)
        anyShot = [first, full] ∧ first.marketType = "Buts 1ère mi-temps" ∧
      full.marketType = "Buts match" ∧ full.isHomeTeam = true ∧ full.minAcceptableOdd = 15 / 10 ∧
      full.edgePct = 10 ∧ full.confidenceScore = 60 := by
  have hhome : (((TickState.start.feed number tenthMinute).input fixtureA [] 1 2 10).team true).value
      anyShot.signalType = some (.num 0) := rfl
  have haway : (((TickState.start.feed number tenthMinute).input fixtureA [] 1 2 10).team false).value
      anyShot.signalType = none := rfl
  have hrule : findMatchedRule anyShot.firstHalfRules 10 (.num 0) 0 = some ⟨45, 0⟩ := by
    decide +kernel
  have hwindow : withinWindow anyShot.firstHalfRules 10 = true := by decide +kernel
  have hstatus : ((TickState.start.feed number tenthMinute).input fixtureA [] 1 2 10).statusShort =
      "LIVE" := rfl
  have helapsed : ((TickState.start.feed number tenthMinute).input fixtureA [] 1 2 10).elapsed = 10 :=
    rfl
  have hfirst : "LIVE" ∈ firstHalfStatuses ∧ (1 : Int) ≤ 10 ∧
      withinWindow anyShot.firstHalfRules 10 = true := ⟨by decide, by decide, hwindow⟩
  have hsecond : ¬ ("LIVE" ∈ secondHalfStatuses ∧ (45 : Int) ≤ 10 ∧
      ((10 : Int) : ℚ) < anyShot.secondHalfRule.maxElapsed) := fun h => absurd h.2.1 (by decide)
  rw [evaluateRules, evaluateFirstHalf, evaluateSecondHalf, hstatus, helapsed, if_pos hfirst,
    if_neg hsecond, List.append_nil]
  simp only [firstHalfMatches]
  rw [hhome, haway]
  dsimp only
  have hoffset : ((TickState.start.feed number tenthMinute).input fixtureA [] 1 2 10).thresholdOffset
    anyShot true = 0 := rfl
  rw [hoffset]
  rw [helapsed, hrule]
  exact ⟨_, _, rfl, rfl, rfl, rfl, rfl, rfl, rfl⟩

/-- The target of the bet that is played. -/
def Sample.homeGoal : ExecutableQuoteTarget := ⟨"1", "TEAM_GOALS_FT", "HOME_OVER_0.5", none, none⟩

/-- The replay of that minute places one bet at most, on the quotes it finds. -/
theorem bets_tenthMinute (number : JsValue → JsNumber) (numberText : JsNumber → String)
    (quoteAt : QuoteSelector) (latencyMs : Int) (maxQuoteAgeMs : Option Int) :
    ((replayFixture number (withLatency latencyMs maxQuoteAgeMs) numberText quoteAt fixtureA []
        [tenthMinute]).filterMap (·.bet)).map (·.quotedOdd) =
      ((tryQuotes quoteAt homeGoal 0 latencyMs (15 / 10)).2.map fun q => q.1.oddValue).toList := by
  obtain ⟨first, full, hrules, hfirst, hfull, hhome, hodd, hedge, hconfidence⟩ :=
    suggestions_tenthMinute number numberText
  have hsuggestions : (TickState.start.feed number tenthMinute).suggestions
      (withLatency latencyMs maxQuoteAgeMs) numberText fixtureA [] 1 2 =
        [(0, 10, first), (0, 10, full)] := by
    show (evaluateRules _ _ _).map _ = _
    rw [show (withLatency latencyMs maxQuoteAgeMs).entryRules = anyShot from rfl, hrules]
    rfl
  have hskip (log : List SignalAttempt) : attempt? (withLatency latencyMs maxQuoteAgeMs) quoteAt
      fixtureA 0 10 (placedKeys log) first = none := by
    rw [attempt?, BacktestStrategy.plays]
    rw [hfirst]
    exact if_neg fun h => by simpa [withLatency] using h.1
  have hplays : (withLatency latencyMs maxQuoteAgeMs).plays full = true := by
    have hall : (["Buts match"].contains "Buts match" && decide ((0 : ℚ) ≤ 10) &&
        decide ((0 : ℚ) ≤ 60)) = true := by decide +kernel
    rw [BacktestStrategy.plays, withLatency]
    rw [hfull, hedge, hconfidence]
    exact hall
  have htarget : (withLatency latencyMs maxQuoteAgeMs).target? fixtureA full = some homeGoal := by
    rw [BacktestStrategy.target?]
    rw [hfull, hhome]
    rfl
  show (((evaluateTick _ _ _ _ _ _ _ [] (TickState.start.feed number tenthMinute)).filterMap _).map
    _) = _
  rw [evaluateTick, hsuggestions, List.foldl_cons, List.foldl_cons, List.foldl_nil]
  dsimp only
  rw [hskip, Option.toList_none, List.append_nil, List.nil_append]
  rw [attempt?]
  dsimp only
  rw [if_pos ⟨hplays, List.not_mem_nil⟩, htarget, Option.map_some, hodd]
  show ((Option.toList _).filterMap _).map _ = _
  rw [show (withLatency latencyMs maxQuoteAgeMs).odds.executionLatencyMs = latencyMs from rfl]
  obtain ⟨stage, quotes⟩ := tryQuotes quoteAt homeGoal 0 latencyMs (15 / 10)
  cases quotes <;> rfl

/-! ## Two tables -/

/-- An odd on that bet, observed and received at `r`. -/
def Sample.oddAt (id : String) (millis r : Int) : OddsSnapshot :=
  { rowFor homeGoal r with id, oddValue := millis }

/-- It as a quote. -/
def Sample.quoteOf (id : String) (millis r : Int) : ExecutableQuote :=
  ⟨id, "apifootball", "f", "1", "bet365", "TEAM_GOALS_FT", "HOME_OVER_0.5", millis, r, r, true⟩

theorem toQuote?_oddAt (id : String) {millis : Int} (h : 1000 < millis) (r : Int) :
    (oddAt id millis r).toQuote? = some (quoteOf id millis r) := by
  rw [OddsSnapshot.toQuote?, oddAt, rowFor]
  dsimp only
  rw [if_pos ⟨rfl, h, le_refl r⟩]
  rfl

namespace Sample

/-- One odd as old as the latency. -/
def earlyOdd (latencyMs : Int) : Table oddsSchema :=
  ⟨[oddAt "a" 2000 latencyMs], List.pairwise_singleton _ _, fun s hs => by
    rw [List.mem_singleton.1 hs]
    simp only [oddsSchema, oddAt]
    decide⟩

/-- That odd, and a higher one received in the tenth minute. -/
def lateOdd (latencyMs : Int) : Table oddsSchema :=
  ⟨[oddAt "a" 2000 latencyMs, oddAt "b" 3000 0], List.pairwise_pair.2 (by
    simp only [oddsSchema, oddAt]
    decide), fun s hs => by
    rcases List.mem_pair.1 hs with rfl | rfl <;>
    · simp only [oddsSchema, oddAt]
      decide⟩

/-- The match in its tenth minute, with a table of odds. -/
def tenth (odds : Table oddsSchema) : ReplayData where
  snapshots := ⟨[tenthMinute], by decide, by decide⟩
  fixtures := ⟨[fixtureA], by decide, by decide⟩
  goals := []
  odds := odds

end Sample

section LookAhead

variable {R : Runtime} {latencyMs : Int} {maxQuoteAgeMs : Option Int} {odds : Table oddsSchema}

/-- A window around the tenth minute, as wide as the latency. -/
def aroundTenth (latencyMs : Int) : ReplayWindow := ⟨latencyMs, -latencyMs⟩

theorem snapshotsWithin_tenth (h : latencyMs < 0) :
    (tenth odds).snapshotsWithin (aroundTenth latencyMs) = [tenthMinute] := by
  rw [ReplayData.snapshotsWithin]
  show sort _ ([tenthMinute].filter _) = _
  rw [List.filter_eq_self.2 fun s hs => ?_]
  · rfl
  · rw [List.mem_singleton.1 hs, Bool.and_eq_true]
    have hend : (0 : Int) ≤ -latencyMs := by omega
    exact ⟨decide_eq_true h.le, decide_eq_true hend⟩

theorem betsUpTo_tenth (h : latencyMs < 0) :
    (betsUpTo 0 (replayDetailed R (withLatency latencyMs maxQuoteAgeMs) (tenth odds)
        (aroundTenth latencyMs)).bets).map (·.quotedOdd) =
      ((tryQuotes (quoteSelector R (withLatency latencyMs maxQuoteAgeMs)
          (loadCandidates odds ⟨["1"],
            latencyMs - (withLatency latencyMs maxQuoteAgeMs).maxQuoteAgeMs, 0⟩))
        homeGoal 0 latencyMs (15 / 10)).2.map fun q => q.1.oddValue).toList := by
  have hsnaps : (tenth odds).snapshotsWithin (aroundTenth latencyMs) = [tenthMinute] :=
    snapshotsWithin_tenth h
  have hfixtures : (tenth odds).fixturesWithin (aroundTenth latencyMs) = [fixtureA] := by
    rw [ReplayData.fixturesWithin, ReplayData.fixtureIds]
    rw [hsnaps]
    rfl
  have hquery : (tenth odds).quoteQuery (withLatency latencyMs maxQuoteAgeMs)
      (aroundTenth latencyMs) =
        ⟨["1"], latencyMs - (withLatency latencyMs maxQuoteAgeMs).maxQuoteAgeMs, 0⟩ := by
    rw [ReplayData.quoteQuery]
    rw [hfixtures]
    simp [aroundTenth, withLatency, fixtureA, liveFixture]
  have hattempts : replayAttempts R (withLatency latencyMs maxQuoteAgeMs)
      ((tenth odds).read (withLatency latencyMs maxQuoteAgeMs) (aroundTenth latencyMs)) =
      replayFixture R.number (withLatency latencyMs maxQuoteAgeMs) R.numberText
        (quoteSelector R (withLatency latencyMs maxQuoteAgeMs) (loadCandidates odds ⟨["1"],
          latencyMs - (withLatency latencyMs maxQuoteAgeMs).maxQuoteAgeMs, 0⟩)) fixtureA []
        [tenthMinute] := by
    rw [ReplayData.read]
    rw [replayAttempts_eq, hsnaps, hfixtures, hquery]
    show (groupBy _ [tenthMinute]).flatMap _ = _
    exact List.append_nil _
  rw [betsUpTo_replayDetailed, hattempts, ← List.append_nil [tenthMinute],
    replayFixture_append (fun s hs => (by rw [List.mem_singleton.1 hs]; decide))
      (fun _ hs => absurd hs List.not_mem_nil)]
  exact bets_tenthMinute R.number R.numberText _ latencyMs maxQuoteAgeMs

/-- The later observed of two quotes comes first. -/
theorem latestFirst_of_lt {C : Collation} {a b : ExecutableQuote} (h : b.observedAt < a.observedAt) :
    (C.latestFirst a b).isLE = true := by
  have hlt : laterFirst a.observedAt b.observedAt = .lt := Std.compare_eq_lt.2 h
  rw [Collation.latestFirst, compareLex, comparing]
  rw [hlt]
  rfl

theorem mem_load_lateOdd {query : QuoteCandidatesQuery} {q : ExecutableQuote}
    (h : q ∈ loadCandidates (lateOdd latencyMs) query) :
    q = quoteOf "a" 2000 latencyMs ∨ q = quoteOf "b" 3000 0 := by
  obtain ⟨⟨s, hs, hq⟩, -⟩ := mem_loadCandidates.1 h
  rcases List.mem_pair.1 hs with rfl | rfl
  · rw [toQuote?_oddAt "a" (by decide) latencyMs] at hq
    exact Or.inl (Option.some.inj hq).symm
  · rw [toQuote?_oddAt "b" (by decide) 0] at hq
    exact Or.inr (Option.some.inj hq).symm

theorem mem_load_earlyOdd {query : QuoteCandidatesQuery} {q : ExecutableQuote}
    (h : q ∈ loadCandidates (earlyOdd latencyMs) query) : q = quoteOf "a" 2000 latencyMs := by
  obtain ⟨⟨s, hs, hq⟩, -⟩ := mem_loadCandidates.1 h
  rw [List.mem_singleton.1 hs, toQuote?_oddAt "a" (by decide) latencyMs] at hq
  exact (Option.some.inj hq).symm

theorem tryQuotes_eq_placed {quoteAt : QuoteSelector} {target : ExecutableQuoteTarget} {t l : Int}
    {minOdd : ℚ} {d e : ExecutableQuote} (hd : quoteAt target t = some d)
    (he : quoteAt { target with
      providerKey := some d.providerKey, bookmakerKey := some d.bookmakerKey } (t + l) = some e)
    (hdecided : ¬ oddValue d.oddValue < minOdd) (hexecuted : ¬ oddValue e.oddValue < minOdd) :
    tryQuotes quoteAt target t l minOdd = (.placed, some (d, e)) := by
  rw [tryQuotes, hd]
  simp only [if_neg hdecided, he, if_neg hexecuted]

/-- The bet is decided on the late odd, and taken at the early one. -/
theorem tryQuotes_lateOdd (h : latencyMs < 0)
    (hage : 0 ≤ (withLatency latencyMs maxQuoteAgeMs).maxQuoteAgeMs) :
    tryQuotes (quoteSelector R (withLatency latencyMs maxQuoteAgeMs)
        (loadCandidates (lateOdd latencyMs) ⟨["1"],
          latencyMs - (withLatency latencyMs maxQuoteAgeMs).maxQuoteAgeMs, 0⟩))
      homeGoal 0 latencyMs (15 / 10) =
      (.placed, some (quoteOf "b" 3000 0, quoteOf "a" 2000 latencyMs)) := by
  have htakes (id : String) (millis r : Int) (hr : latencyMs ≤ r ∧ r ≤ 0) :
      (⟨["1"], latencyMs - (withLatency latencyMs maxQuoteAgeMs).maxQuoteAgeMs, 0⟩ :
        QuoteCandidatesQuery).takes (quoteOf id millis r) = true := by
    have hfrom : latencyMs - (withLatency latencyMs maxQuoteAgeMs).maxQuoteAgeMs ≤ r := by omega
    rw [QuoteCandidatesQuery.takes, Bool.and_eq_true, Bool.and_eq_true]
    exact ⟨⟨rfl, decide_eq_true hfrom⟩, decide_eq_true hr.2⟩
  have hdecision : quoteSelector R (withLatency latencyMs maxQuoteAgeMs)
      (loadCandidates (lateOdd latencyMs) ⟨["1"],
        latencyMs - (withLatency latencyMs maxQuoteAgeMs).maxQuoteAgeMs, 0⟩) homeGoal 0 =
      some (quoteOf "b" 3000 0) := by
    refine (selectLatest_eq_some (quotesOf_loadCandidates _ _)).2 ⟨?_, ?_, fun q hq _ => ?_⟩
    · exact mem_loadCandidates.2 ⟨⟨oddAt "b" 3000 0, List.mem_pair.2 (Or.inr rfl),
        toQuote?_oddAt "b" (by decide) 0⟩, htakes "b" 3000 0 ⟨h.le, le_refl 0⟩⟩
    · refine ExecutableQuoteLookup.accepts_iff.2 ⟨rfl, rfl, by decide, le_refl _, le_refl _,
        le_refl _, ?_⟩
      show 0 - (withLatency latencyMs maxQuoteAgeMs).maxQuoteAgeMs ≤ 0
      omega
    · rcases mem_load_lateOdd hq with rfl | rfl
      · exact latestFirst_of_lt h
      · rw [@Std.ReflCmp.compare_self _ R.collation.latestFirst]
        rfl
  have hexecution : quoteSelector R (withLatency latencyMs maxQuoteAgeMs)
      (loadCandidates (lateOdd latencyMs) ⟨["1"],
        latencyMs - (withLatency latencyMs maxQuoteAgeMs).maxQuoteAgeMs, 0⟩)
      { homeGoal with providerKey := some "apifootball", bookmakerKey := some "bet365" }
      (0 + latencyMs) = some (quoteOf "a" 2000 latencyMs) := by
    rw [Int.zero_add]
    refine (selectLatest_eq_some (quotesOf_loadCandidates _ _)).2 ⟨?_, ?_, fun q hq hfits => ?_⟩
    · exact mem_loadCandidates.2 ⟨⟨oddAt "a" 2000 latencyMs, List.mem_pair.2 (Or.inl rfl),
        toQuote?_oddAt "a" (by decide) latencyMs⟩, htakes "a" 2000 latencyMs ⟨le_refl _, h.le⟩⟩
    · refine ExecutableQuoteLookup.accepts_iff.2 ⟨rfl, rfl, (by decide : (1000 : Int) < 2000),
        le_refl _, le_refl _, le_refl _, ?_⟩
      show latencyMs - (withLatency latencyMs maxQuoteAgeMs).maxQuoteAgeMs ≤ latencyMs
      omega
    · rcases mem_load_lateOdd hq with rfl | rfl
      · rw [@Std.ReflCmp.compare_self _ R.collation.latestFirst]
        rfl
      · -- the late odd is not known at the execution
        obtain ⟨-, -, -, -, hknown, -⟩ := ExecutableQuoteLookup.accepts_iff.1 hfits
        have hknown : (0 : Int) ≤ latencyMs := hknown
        omega
  have hodds : ¬ oddValue 3000 < 15 / 10 ∧ ¬ oddValue 2000 < 15 / 10 := by decide +kernel
  exact tryQuotes_eq_placed hdecision hexecution hodds.1 hodds.2

theorem tryQuotes_some {quoteAt : QuoteSelector} {target : ExecutableQuoteTarget} {t l : Int}
    {minOdd : ℚ} {d e : ExecutableQuote} (h : (tryQuotes quoteAt target t l minOdd).2 = some (d, e)) :
    quoteAt target t = some d := by
  unfold tryQuotes at h
  cases hd : quoteAt target t with
  | none =>
    rw [hd] at h
    cases h
  | some decisionQuote =>
    rw [hd] at h
    dsimp only at h
    split at h
    · cases h
    · split at h
      · cases h
      · split at h
        · cases h
        · rw [(Prod.mk.inj (Option.some.inj h)).1]

/-! ## Which latencies look ahead -/

/-- A strategy whose replays do not look ahead. -/
def NeverLooksAhead (R : Runtime) (strategy : BacktestStrategy) : Prop :=
  ∀ (T : Int) (data data' : ReplayData) (window window' : ReplayWindow),
    AgreeUpTo strategy.odds.executionLatencyMs T data data' window window' →
      betsUpTo T (replayDetailed R strategy data window).bets =
        betsUpTo T (replayDetailed R strategy data' window').bets

/-- With a negative latency, the bet of the tenth minute depends on an odd received later than the
data sets agree on. -/
theorem looks_ahead (h : latencyMs < 0)
    (hage : 0 ≤ (withLatency latencyMs maxQuoteAgeMs).maxQuoteAgeMs) :
    ¬ NeverLooksAhead R (withLatency latencyMs maxQuoteAgeMs) := by
  intro hnever
  have hagree : AgreeUpTo latencyMs 0 (tenth (lateOdd latencyMs)) (tenth (earlyOdd latencyMs))
      (aroundTenth latencyMs) (aroundTenth latencyMs) := by
    have hend : 0 ≤ -latencyMs := by omega
    refine ⟨rfl, hend, hend, fun _ => Iff.rfl, .refl _, fun _ _ => Iff.rfl, fun s r hs hr => ?_⟩
    show s ∈ [oddAt "a" 2000 latencyMs, oddAt "b" 3000 0] ↔ s ∈ [oddAt "a" 2000 latencyMs]
    rw [List.mem_pair, List.mem_singleton]
    refine or_iff_left ?_
    rintro rfl
    have hr0 : (0 : Int) = r := Option.some.inj hs
    omega
  have heq := congrArg (List.map (·.quotedOdd)) (hnever 0 _ _ _ _ hagree)
  rw [betsUpTo_tenth h, betsUpTo_tenth h, tryQuotes_lateOdd h hage] at heq
  cases hearly : (tryQuotes (quoteSelector R (withLatency latencyMs maxQuoteAgeMs)
      (loadCandidates (earlyOdd latencyMs) ⟨["1"],
        latencyMs - (withLatency latencyMs maxQuoteAgeMs).maxQuoteAgeMs, 0⟩))
      homeGoal 0 latencyMs (15 / 10)).2 with
  | none =>
    rw [hearly] at heq
    cases heq
  | some quotes =>
    obtain ⟨d, e⟩ := quotes
    have hd := mem_load_earlyOdd (selectLatest_spec (tryQuotes_some hearly)).1
    rw [hearly, hd] at heq
    have heq : ([3000] : List Int) = [2000] := heq
    exact absurd heq (by decide)

end LookAhead

end ApiScore
