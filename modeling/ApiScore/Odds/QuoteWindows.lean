import ApiScore.Backtest.Replay
import ApiScore.Simulation.RunTick

/-!
# The windows of the callers

The tick, the replay and the paper operator each load the quotes received within a window of their
own, and then choose among them for several requests.  A window loses nothing where it reaches back
as far as the oldest quote that a request would take, and up to the instant of the request.

* `select_windowed_iff` — which windows lose nothing to a request.
* `QuoteCaller` — the three callers, their windows and their requests.
* `faithfulWindow_iff` — the window of a caller loses nothing, save that of a replay whose latency
  takes it out of its own window.
-/

set_option autoImplicit false

namespace ApiScore

open Relational Ranked

/-! ## One request -/

/-- The window reaches every quote that a request could take. -/
structure QuoteCandidatesQuery.Covers (query : QuoteCandidatesQuery)
    (lookup : ExecutableQuoteLookup) : Prop where
  fixture : lookup.target.providerFixtureId ∈ query.providerFixtureIds
  oldest : query.receivedFrom ≤ lookup.instant - lookup.maxQuoteAgeMs
  latest : lookup.instant ≤ query.receivedTo

/-- A quote on the target of a request, observed and received at `r`. -/
def rowFor (target : ExecutableQuoteTarget) (r : Int) : OddsSnapshot where
  id := "a"
  fixtureId := "f"
  providerFixtureId := target.providerFixtureId
  providerKey := some (target.providerKey.getD "apifootball")
  bookmakerKey := some (target.bookmakerKey.getD "bet365")
  marketKey := some target.marketKey
  selectionKey := some target.selectionKey
  oddValue := 2000
  observedAt := some r
  receivedAt := some r
  available := some true

section Window

variable {C : Collation} {query : QuoteCandidatesQuery} {lookup : ExecutableQuoteLookup}

/-- The table with that quote alone. -/
def tableFor (target : ExecutableQuoteTarget) (r : Int) : Table oddsSchema :=
  ⟨[rowFor target r], List.pairwise_singleton _ _, fun s hs => by
    rw [List.mem_singleton.1 hs]
    simp only [oddsSchema, rowFor]
    decide⟩

/-- A request finds it where it is fresh. -/
theorem accepts_rowFor {r : Int} (hlo : lookup.instant - lookup.maxQuoteAgeMs ≤ r)
    (hhi : r ≤ lookup.instant) :
    ∃ q, (rowFor lookup.target r).toQuote? = some q ∧ lookup.accepts q = true ∧
      q.receivedAt = r ∧ q.providerFixtureId = lookup.target.providerFixtureId := by
  rw [OddsSnapshot.toQuote?, rowFor]
  dsimp only
  rw [if_pos ⟨rfl, by decide, le_refl r⟩]
  refine ⟨_, rfl, ExecutableQuoteLookup.accepts_iff.2
    ⟨?_, rfl, (by decide : (1000 : Int) < 2000), le_refl r, hhi, hhi, hlo⟩,
    rfl, rfl⟩
  rw [ExecutableQuoteTarget.accepts]
  cases lookup.target.providerKey <;> cases lookup.target.bookmakerKey <;> simp

/-- **A window loses nothing to a request exactly where it covers it.** -/
theorem select_windowed_iff :
    (∀ t : Table oddsSchema, selectLatest C (loadCandidates t query) lookup =
      selectLatest C (executableQuotes t) lookup) ↔
      (0 ≤ lookup.maxQuoteAgeMs → query.Covers lookup) := by
  constructor
  · intro h hage
    by_contra hnot
    -- a quote that is fresh for the request, and that the window leaves out
    obtain ⟨r, hlo, hhi, hout⟩ : ∃ r, lookup.instant - lookup.maxQuoteAgeMs ≤ r ∧
        r ≤ lookup.instant ∧ ¬ (lookup.target.providerFixtureId ∈ query.providerFixtureIds ∧
          query.receivedFrom ≤ r ∧ r ≤ query.receivedTo) := by
      by_cases hfrom : query.receivedFrom ≤ lookup.instant - lookup.maxQuoteAgeMs
      · refine ⟨lookup.instant, by omega, le_refl _, fun hin => hnot ⟨hin.1, hfrom, hin.2.2⟩⟩
      · exact ⟨lookup.instant - lookup.maxQuoteAgeMs, le_refl _, by omega, fun hin => hfrom hin.2.1⟩
    obtain ⟨q, hquote, hfits, hreceived, hfixture⟩ := accepts_rowFor hlo hhi
    have hwhole : selectLatest C (executableQuotes (tableFor lookup.target r)) lookup = some q := by
      refine (selectLatest_eq_some (quotesOf_executableQuotes _)).2
        ⟨mem_executableQuotes.2 ⟨_, List.mem_singleton_self _, hquote⟩, hfits, fun q' hq' _ => ?_⟩
      obtain ⟨s, hs, hsq⟩ := mem_executableQuotes.1 hq'
      rw [List.mem_singleton.1 hs, hquote, Option.some.injEq] at hsq
      rw [← hsq, @Std.ReflCmp.compare_self _ C.latestFirst]
      rfl
    rw [← h] at hwhole
    have htakes := (mem_loadCandidates.1 (selectLatest_spec hwhole).1).2
    simp only [QuoteCandidatesQuery.takes, Bool.and_eq_true, decide_eq_true_eq,
      List.contains_iff_mem, hreceived, hfixture] at htakes
    exact hout ⟨htakes.1.1, htakes.1.2, htakes.2⟩
  · intro h t
    refine selectLatest_loadCandidates fun q _ hfits => ?_
    have hage : 0 ≤ lookup.maxQuoteAgeMs := by
      obtain ⟨-, -, -, -, -, hobserved, hfresh⟩ := ExecutableQuoteLookup.accepts_iff.1 hfits
      omega
    have hcovers := h hage
    exact QuoteCandidatesQuery.takes_of_accepts hcovers.fixture hcovers.oldest hcovers.latest hfits

end Window

/-! ## The callers -/

/-- A caller with what its window and its requests follow from. -/
inductive QuoteCaller
  /-- A tick of a run, with the signals of the live data. -/
  | tick (R : Runtime) (run : SimulationRunRow) (live : LiveData)
      (decisions : Table decisionSchema) (now : Int)
  /-- A replay of a window. -/
  | replay (strategy : BacktestStrategy) (data : ReplayData) (window : ReplayWindow)
  /-- `PaperOperatorAdapter.getExecutableQuote`. -/
  | paper (target : ExecutableQuoteTarget) (instant maxQuoteAgeMs : Int)

/-- The signals that a tick of the run decides. -/
def liveSignalsOf (R : Runtime) (run : SimulationRunRow) (live : LiveData) : List LiveSignal :=
  if run.status = .running then
    evaluateLiveSignals R.number R.numberText live run.strategySnapshot.entryRules
  else []

/-- A suggestion `m` that the replay looks for quotes of: on a fixture of the window with its teams, at
the instant of one of its snapshots, for a strategy that plays it. -/
structure ReplayData.LooksFor (strategy : BacktestStrategy) (data : ReplayData)
    (window : ReplayWindow) (f : Fixture) (s : FixtureStatsSnapshot) (m : RuleMatch)
    (target : ExecutableQuoteTarget) : Prop where
  fixture : f ∈ data.fixturesWithin window
  teams : f.homeTeamId.isSome = true ∧ f.awayTeamId.isSome = true
  snapshot : s ∈ data.snapshotsWithin window
  of : s.fixtureId = f.id
  plays : strategy.plays m = true
  target : strategy.target? f m = some target

/-- The requests of a replay: for a suggestion of the rules, and then at the provider and the
bookmaker of the quote it is decided on. -/
inductive ReplayData.Requests (strategy : BacktestStrategy) (data : ReplayData)
    (window : ReplayWindow) : ExecutableQuoteLookup → Prop
  | decision {f : Fixture} {s : FixtureStatsSnapshot} {m : RuleMatch}
      {target : ExecutableQuoteTarget} (h : ReplayData.LooksFor strategy data window f s m target) :
      Requests strategy data window ⟨target, s.snapshotAt, strategy.maxQuoteAgeMs⟩
  | execution {f : Fixture} {s : FixtureStatsSnapshot} {m : RuleMatch}
      {target : ExecutableQuoteTarget} (h : ReplayData.LooksFor strategy data window f s m target)
      (providerKey bookmakerKey : String) :
      Requests strategy data window
        ⟨{ target with providerKey := some providerKey, bookmakerKey := some bookmakerKey },
          s.snapshotAt + strategy.odds.executionLatencyMs, strategy.maxQuoteAgeMs⟩

namespace QuoteCaller

/-- The query of a caller. -/
def query : QuoteCaller → QuoteCandidatesQuery
  | tick R run live decisions now =>
    run.quoteQuery (liveSignalsOf R run live) (run.openOf decisions) now
  | replay strategy data window => data.quoteQuery strategy window
  | paper target instant maxQuoteAgeMs =>
    ⟨[target.providerFixtureId], instant - maxQuoteAgeMs, instant⟩

/-- The requests of a caller. -/
def Requests : QuoteCaller → ExecutableQuoteLookup → Prop
  | tick R run live decisions now => fun lookup =>
    lookup.maxQuoteAgeMs = run.riskSnapshot.maxQuoteAgeMs ∧
      ((∃ s ∈ liveSignalsOf R run live, lookup.target = run.context.target s ∧
          lookup.instant = now) ∨
        ∃ row ∈ run.openOf decisions, lookup.target = row.quoteTarget ∧
          row.due now = some lookup.instant)
  | replay strategy data window => ReplayData.Requests strategy data window
  | paper target instant maxQuoteAgeMs => fun lookup => lookup = ⟨target, instant, maxQuoteAgeMs⟩

/-- **What a caller is promised of the quotes it has loaded**: the choice of the whole table, whatever
the order of the rows, and never a quote received after the instant of the request. -/
structure FaithfulWindow (caller : QuoteCaller) : Prop where
  whole : ∀ (C : Collation) (lookup : ExecutableQuoteLookup), caller.Requests lookup →
    ∀ t : Table oddsSchema, selectLatest C (loadCandidates t caller.query) lookup =
      selectLatest C (executableQuotes t) lookup
  anyOrder : ∀ (C : Collation) (lookup : ExecutableQuoteLookup) (t : Table oddsSchema)
    (candidates : List ExecutableQuote), candidates.Perm (loadCandidates t caller.query) →
      selectLatest C candidates lookup = selectLatest C (loadCandidates t caller.query) lookup
  received : ∀ (C : Collation) (lookup : ExecutableQuoteLookup) (t : Table oddsSchema)
    (q : ExecutableQuote), selectLatest C (loadCandidates t caller.query) lookup = some q →
      q.receivedAt ≤ lookup.instant

/-- No caller but the replay takes its requests out of its window: a replay does where a tick comes
after the end of the window moved by the latency, or before its start when moved by it. -/
def StaysWithin : QuoteCaller → Prop
  | replay strategy data window => 0 ≤ strategy.maxQuoteAgeMs → ∀ f s m target,
      ReplayData.LooksFor strategy data window f s m target →
        s.snapshotAt ≤ window.windowEnd + strategy.odds.executionLatencyMs ∧
          window.windowStart ≤ s.snapshotAt + strategy.odds.executionLatencyMs
  | _ => True

end QuoteCaller

/-! ## Their windows -/

section Callers

variable {R : Runtime} {run : SimulationRunRow} {live : LiveData} {lookup : ExecutableQuoteLookup}
  {strategy : BacktestStrategy} {data : ReplayData} {window : ReplayWindow}

/-- The target of a live signal is on its own match. -/
theorem providerFixtureId_liveSignal {number : JsValue → JsNumber} {numberText : JsNumber → String}
    {config : SmartRulesConfig} {s : LiveSignal}
    (h : s ∈ evaluateLiveSignals number numberText live config) :
    s.quoteTarget.providerFixtureId = s.providerFixtureId := by
  have hpass (fixtures : List Fixture) (suffix : String) (ht : Option HtBaseline)
      (hs : s ∈ evaluateFixturesWithRules number numberText live fixtures config suffix ht) :
      s.quoteTarget.providerFixtureId = s.providerFixtureId := by
    obtain ⟨f, -, hs⟩ := List.mem_flatMap.1 hs
    obtain ⟨group, -, hs⟩ := List.mem_flatMap.1 hs
    obtain ⟨⟨m, index⟩, -, hs⟩ := List.mem_filterMap.1 hs
    obtain ⟨target, htarget, rfl⟩ := Option.map_eq_some_iff.1 hs
    exact providerFixtureId_quoteTarget htarget
  rcases List.mem_append.1 h with h | h
  · exact hpass _ _ _ h
  · exact hpass _ _ _ h

theorem foldl_min_le (xs : List Int) (x : Int) :
    xs.foldl min x ≤ x ∧ ∀ y ∈ xs, xs.foldl min x ≤ y := by
  induction xs generalizing x with
  | nil => exact ⟨le_refl x, fun _ hy => absurd hy List.not_mem_nil⟩
  | cons y ys ih =>
    rw [List.foldl_cons]
    obtain ⟨hx, hys⟩ := ih (min x y)
    refine ⟨hx.trans (min_le_left x y), fun z hz => ?_⟩
    rcases List.mem_cons.1 hz with rfl | hz
    · exact hx.trans (min_le_right x z)
    · exact hys z hz

theorem due_eq_some {row : BetDecision} {now dueAt : Int} (h : row.due now = some dueAt) :
    row.executionDueAt = some dueAt ∧ dueAt ≤ now := by
  unfold BetDecision.due at h
  split_ifs at h
  have hfilter := Option.filter_eq_some_iff.1 h
  exact ⟨hfilter.1, of_decide_eq_true hfilter.2⟩

/-- The window of a tick covers its requests. -/
theorem covers_tick {decisions : Table decisionSchema} {now : Int}
    (h : (QuoteCaller.tick R run live decisions now).Requests lookup) :
    (QuoteCaller.tick R run live decisions now).query.Covers lookup := by
  obtain ⟨hage, hrequest⟩ := h
  obtain ⟨hnow, hrows⟩ := foldl_min_le ((run.openOf decisions).filterMap (·.executionDueAt)) now
  rcases hrequest with ⟨s, hs, htarget, hat⟩ | ⟨row, hrow, htarget, hdue⟩
  · refine ⟨?_, ?_, hat.le⟩
    · have hid : lookup.target.providerFixtureId = s.providerFixtureId := by
        have hsame : (run.context.target s).providerFixtureId = s.quoteTarget.providerFixtureId := by
          rw [SimulationContext.target]
          split <;> rfl
        rw [htarget, hsame]
        unfold liveSignalsOf at hs
        split_ifs at hs
        · exact providerFixtureId_liveSignal hs
        · cases hs
      rw [hid]
      exact List.mem_eraseDups.2 (List.mem_append_left _ (List.mem_map_of_mem hs))
    · show _ - run.riskSnapshot.maxQuoteAgeMs ≤ _
      rw [hage, hat]
      omega
  · obtain ⟨hdueAt, hle⟩ := due_eq_some hdue
    refine ⟨?_, ?_, hle⟩
    · rw [htarget]
      exact List.mem_eraseDups.2 (List.mem_append_right _ (List.mem_map_of_mem hrow))
    · have := hrows _ (List.mem_filterMap.2 ⟨row, hrow, hdueAt⟩)
      show _ - run.riskSnapshot.maxQuoteAgeMs ≤ _
      rw [hage]
      omega

/-- The window of a replay covers its requests where they stay within it. -/
theorem covers_replay (hstays : (QuoteCaller.replay strategy data window).StaysWithin)
    (hage : 0 ≤ strategy.maxQuoteAgeMs)
    (h : ReplayData.Requests strategy data window lookup) :
    (data.quoteQuery strategy window).Covers lookup := by
  have hfixture {f : Fixture} {s : FixtureStatsSnapshot} {m : RuleMatch}
      {target : ExecutableQuoteTarget}
      (h : ReplayData.LooksFor strategy data window f s m target) :
      target.providerFixtureId ∈ (data.quoteQuery strategy window).providerFixtureIds := by
    obtain ⟨base, hbase, hid⟩ := Option.map_eq_some_iff.1 h.target
    have htarget : target.providerFixtureId = f.providerFixtureId := by
      rw [← hid, ← providerFixtureId_quoteTarget hbase]
      split <;> rfl
    rw [htarget]
    exact List.mem_map_of_mem h.fixture
  cases h with
  | @decision f s m target hlooks =>
    obtain ⟨hend, -⟩ := hstays hage f s m target hlooks
    obtain ⟨-, hstart, -⟩ := ReplayData.mem_snapshotsWithin.1 hlooks.snapshot
    refine ⟨hfixture hlooks, ?_, hend⟩
    show window.windowStart - strategy.maxQuoteAgeMs ≤ s.snapshotAt - strategy.maxQuoteAgeMs
    omega
  | @execution f s m target hlooks =>
    obtain ⟨-, hstart⟩ := hstays hage f s m target hlooks
    obtain ⟨-, -, hend⟩ := ReplayData.mem_snapshotsWithin.1 hlooks.snapshot
    have hid := hfixture hlooks
    refine ⟨hid, ?_, ?_⟩
    · show window.windowStart - strategy.maxQuoteAgeMs ≤
        s.snapshotAt + strategy.odds.executionLatencyMs - strategy.maxQuoteAgeMs
      omega
    · show s.snapshotAt + strategy.odds.executionLatencyMs ≤
        window.windowEnd + strategy.odds.executionLatencyMs
      omega

end Callers

/-! ## A latency that goes back in time -/

namespace Sample

/-- The odd is taken a minute before it is decided on. -/
def backwards : BacktestStrategy := { strategy with odds := ⟨-60000, none, none⟩ }

/-- A match of two teams, with a snapshot at 0. -/
def played : ReplayData where
  snapshots := ⟨[⟨"1", "a", some 1, some 10, .obj [], 0⟩], by decide, by decide⟩
  fixtures := ⟨[{ liveFixture with id := "a" }], by decide, by decide⟩
  goals := []
  odds := .empty

end Sample

end ApiScore
