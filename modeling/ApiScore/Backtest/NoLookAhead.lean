import ApiScore.Backtest.ReplayRuns
import ApiScore.Backtest.RowOrder
import ApiScore.Odds.QuoteWindows

/-!
# The replay does not look ahead

Two data sets that agree up to an instant `T`, replayed from the same start, give the same bets up to
`T`: the snapshots up to `T` come first, the ticks up to `T` ask for quotes at `T` plus the latency at
the latest, and the window loads all of these.

* `AgreeUpTo` — what two data sets have in common.
* `attemptsUpTo_replay` — the attempts up to an instant, from what is known by then.
* `bets_upTo_eq` — two replays, with a latency that is not negative.
-/

set_option autoImplicit false

namespace ApiScore

open Ranked Grouping Relational

variable {R : Runtime} {strategy : BacktestStrategy} {data data' : ReplayData}
  {window window' : ReplayWindow} {T : Int}

/-- Two data sets, to be replayed from the same start, that have the same fixtures and goals, the same
snapshots up to `T`, and the same odds received up to `T` plus the latency. -/
structure AgreeUpTo (latencyMs T : Int) (data data' : ReplayData) (window window' : ReplayWindow) :
    Prop where
  start : window.windowStart = window'.windowStart
  reaches : T ≤ window.windowEnd
  reaches' : T ≤ window'.windowEnd
  fixtures : ∀ f, f ∈ data.fixtures ↔ f ∈ data'.fixtures
  goals : data.goals.Perm data'.goals
  snapshots : ∀ s : FixtureStatsSnapshot, s.snapshotAt ≤ T →
    (s ∈ data.snapshots ↔ s ∈ data'.snapshots)
  odds : ∀ (s : OddsSnapshot) (r : Int), s.receivedAt = some r → r ≤ T + latencyMs →
    (s ∈ data.odds ↔ s ∈ data'.odds)

/-! ## The quotes -/

/-- The quotes of the whole table, at an instant. -/
def quotesOfTable (R : Runtime) (strategy : BacktestStrategy) (data : ReplayData) : QuoteSelector :=
  quoteSelector R strategy (executableQuotes data.odds)

/-- A quote age that is negative admits no quote. -/
theorem selectLatest_none {C : Collation} {quotes : List ExecutableQuote}
    {lookup : ExecutableQuoteLookup} (h : lookup.maxQuoteAgeMs < 0) :
    selectLatest C quotes lookup = none := by
  cases hselect : selectLatest C quotes lookup with
  | none => rfl
  | some q =>
    obtain ⟨-, -, -, -, -, hobserved, hfresh⟩ :=
      ExecutableQuoteLookup.accepts_iff.1 (selectLatest_spec hselect).2.1
    omega

/-- The quotes loaded for a window are those of the table, as far as the replay asks for them. -/
theorem agreeAt_loaded
    (hstrategy : 0 ≤ strategy.odds.executionLatencyMs ∨ strategy.maxQuoteAgeMs < 0) {f : Fixture}
    (hf : f ∈ data.fixturesWithin window) {s : FixtureStatsSnapshot}
    (hs : s ∈ data.snapshotsWithin window) :
    AgreeAt strategy f (quoteSelector R strategy (data.read strategy window).quotes)
      (quotesOfTable R strategy data) s.snapshotAt := by
  obtain ⟨-, hstart, hend⟩ := ReplayData.mem_snapshotsWithin.1 hs
  intro target htarget
  have hfixture : target.providerFixtureId ∈
      (data.quoteQuery strategy window).providerFixtureIds :=
    htarget ▸ List.mem_map_of_mem hf
  rcases hstrategy with hlatency | hage
  · constructor
    · refine select_windowed_iff.2 (fun _ => ⟨hfixture, ?_, ?_⟩) data.odds
      · show window.windowStart - strategy.maxQuoteAgeMs ≤ s.snapshotAt - strategy.maxQuoteAgeMs
        omega
      · show s.snapshotAt ≤ window.windowEnd + strategy.odds.executionLatencyMs
        omega
    · refine select_windowed_iff.2 (fun _ => ⟨hfixture, ?_, ?_⟩) data.odds
      · show window.windowStart - strategy.maxQuoteAgeMs ≤
          s.snapshotAt + strategy.odds.executionLatencyMs - strategy.maxQuoteAgeMs
        omega
      · show s.snapshotAt + strategy.odds.executionLatencyMs ≤
          window.windowEnd + strategy.odds.executionLatencyMs
        omega
  · exact ⟨(selectLatest_none hage).trans (selectLatest_none hage).symm,
      (selectLatest_none hage).trans (selectLatest_none hage).symm⟩

/-- Tables that agree up to an instant give the same quotes up to it. -/
theorem quotesOfTable_eq (h : AgreeUpTo strategy.odds.executionLatencyMs T data data' window window')
    {instant : Int} (hinstant : instant ≤ T + strategy.odds.executionLatencyMs)
    (target : ExecutableQuoteTarget) :
    quotesOfTable R strategy data target instant =
      quotesOfTable R strategy data' target instant := by
  refine selectLatest_ext (quotesOf_executableQuotes data.odds) (quotesOf_executableQuotes data'.odds)
    fun q hfits => ?_
  obtain ⟨-, -, -, -, hreceived, -⟩ := ExecutableQuoteLookup.accepts_iff.1 hfits
  rw [mem_executableQuotes, mem_executableQuotes]
  refine exists_congr fun s => and_congr_left fun hquote => ?_
  obtain ⟨-, -, -, -, -, -, -, hat, -⟩ := OddsSnapshot.toQuote?_eq_some hquote
  exact h.odds s q.receivedAt hat (hreceived.trans hinstant)

/-- And so do the ticks up to `T`. -/
theorem agreeAt_tables (hstrategy : 0 ≤ strategy.odds.executionLatencyMs ∨ strategy.maxQuoteAgeMs < 0)
    (h : AgreeUpTo strategy.odds.executionLatencyMs T data data' window window') {f : Fixture}
    {tickAt : Int} (hT : tickAt ≤ T) :
    AgreeAt strategy f (quotesOfTable R strategy data) (quotesOfTable R strategy data') tickAt := by
  intro target _
  rcases hstrategy with hlatency | hage
  · exact ⟨quotesOfTable_eq h (by omega) target, quotesOfTable_eq h (by omega) target⟩
  · exact ⟨(selectLatest_none hage).trans (selectLatest_none hage).symm,
      (selectLatest_none hage).trans (selectLatest_none hage).symm⟩

/-! ## The groups -/

/-- The attempts on the fixture of a group of snapshots. -/
def groupAttempts (R : Runtime) (strategy : BacktestStrategy) (fixtures : List Fixture)
    (goals : List GoalEvent) (quoteAt : QuoteSelector) (group : String × List FixtureStatsSnapshot) :
    List SignalAttempt :=
  match fixtures.find? (·.id == group.1) with
  | none => []
  | some fixture => replayFixture R.number strategy R.numberText quoteAt fixture
      (goals.filter (·.fixtureId == group.1)) group.2

theorem replayAttempts_eq (rows : ReplayRows) :
    replayAttempts R strategy rows =
      (groupBy (·.fixtureId) (sort (snapshotOrder R.collation) rows.snapshots)).flatMap
        (groupAttempts R strategy rows.fixtures rows.goals
          (quoteSelector R strategy rows.quotes)) := rfl

/-- What a group finds among the fixtures and the goals of the window is what it finds among all. -/
theorem groupAttempts_read {group : String × List FixtureStatsSnapshot}
    (hgroup : group.1 ∈ data.fixtureIds window) (quoteAt : QuoteSelector) :
    groupAttempts R strategy (data.read strategy window).fixtures (data.read strategy window).goals
        quoteAt group =
      groupAttempts R strategy data.fixtures.rows data.goals quoteAt group := by
  have hin (id : String) (hid : (id == group.1) = true) :
      (data.fixtureIds window).contains id = true := by
    rw [beq_iff_eq.1 hid]
    exact List.contains_iff_mem.2 hgroup
  have hfixture : (data.read strategy window).fixtures.find? (·.id == group.1) =
      data.fixtures.rows.find? (·.id == group.1) := by
    show (data.fixtures.rows.filter _).find? _ = _
    rw [List.find?_filter]
    refine List.find?_congr fun f _ => ?_
    cases hid : f.id == group.1 with
    | false => simp
    | true => simpa using hin f.id hid
  have hgoals : (data.read strategy window).goals.filter (·.fixtureId == group.1) =
      data.goals.filter (·.fixtureId == group.1) := by
    show (data.goals.filter _).filter _ = _
    rw [List.filter_filter]
    refine List.filter_congr fun g _ => ?_
    cases hid : g.fixtureId == group.1 with
    | false => simp
    | true => simpa using hin g.fixtureId hid
  rw [groupAttempts, groupAttempts, hfixture, hgoals]

/-- The attempts on a group depend on the quotes that its fixture asks for. -/
theorem groupAttempts_congr {fixtures : List Fixture} {goals : List GoalEvent}
    {quoteAt quoteAt' : QuoteSelector} {group : String × List FixtureStatsSnapshot}
    (h : ∀ f ∈ fixtures, f.id = group.1 → ∀ s ∈ group.2,
      AgreeAt strategy f quoteAt quoteAt' s.snapshotAt) :
    groupAttempts R strategy fixtures goals quoteAt group =
      groupAttempts R strategy fixtures goals quoteAt' group := by
  simp only [groupAttempts]
  split
  · rfl
  · next f hf =>
    have hid := List.find?_some hf
    exact replayFixture_congr fun s hs =>
      h f (List.mem_of_find?_eq_some hf) (beq_iff_eq.1 hid) s hs

/-- Later snapshots of a group change nothing that was attempted before. -/
theorem groupAttempts_append {fixtures : List Fixture} {goals : List GoalEvent}
    {quoteAt : QuoteSelector} {id : String} {early later : List FixtureStatsSnapshot}
    (hearly : ∀ s ∈ early, s.snapshotAt ≤ T) (hlater : ∀ s ∈ later, T < s.snapshotAt) :
    attemptsUpTo T (groupAttempts R strategy fixtures goals quoteAt (id, early ++ later)) =
      groupAttempts R strategy fixtures goals quoteAt (id, early) := by
  unfold groupAttempts
  dsimp only
  cases fixtures.find? fun f => f.id == id with
  | none => rfl
  | some f => exact replayFixture_append hearly hlater

/-- Without a snapshot there is no attempt. -/
theorem groupAttempts_nil {fixtures : List Fixture} {goals : List GoalEvent}
    {quoteAt : QuoteSelector} {id : String} :
    groupAttempts R strategy fixtures goals quoteAt (id, []) = [] := by
  simp only [groupAttempts, replayFixture]
  split
  · rfl
  · split
    · exact evaluateTick_none rfl
    · rfl

/-! ## The attempts up to an instant -/

/-- The snapshots of the window up to an instant, in the order of the replay. -/
def snapshotsUpTo (R : Runtime) (T : Int) (data : ReplayData) (window : ReplayWindow) :
    List FixtureStatsSnapshot :=
  sort (snapshotOrder R.collation)
    ((data.snapshotsWithin window).filter fun s => decide (s.snapshotAt ≤ T))

theorem mem_snapshotsUpTo {s : FixtureStatsSnapshot} :
    s ∈ snapshotsUpTo R T data window ↔ s ∈ data.snapshotsWithin window ∧ s.snapshotAt ≤ T := by
  rw [snapshotsUpTo, mem_sort, List.mem_filter, decide_eq_true_iff]

theorem snapshotAt_le_of_isLE {C : Collation} {a b : FixtureStatsSnapshot}
    (h : (snapshotOrder C a b).isLE = true) : a.snapshotAt ≤ b.snapshotAt := by
  have hat : (comparing compare FixtureStatsSnapshot.snapshotAt a b).isLE = true :=
    isLE_of_compareLex h
  exact Std.isLE_compare.1 hat

/-- **The attempts up to an instant are those of a replay of the snapshots up to it, with the quotes
of the whole table.** -/
theorem attemptsUpTo_replay
    (hstrategy : 0 ≤ strategy.odds.executionLatencyMs ∨ strategy.maxQuoteAgeMs < 0) :
    attemptsUpTo T (replayAttempts R strategy (data.read strategy window)) =
      (groupBy (·.fixtureId) (snapshotsUpTo R T data window)).flatMap
        (groupAttempts R strategy data.fixtures.rows data.goals (quotesOfTable R strategy data)) := by
  have htold : (data.read strategy window).Told R := told_read
  have hsort : sort (snapshotOrder R.collation) (data.snapshotsWithin window) =
      snapshotsUpTo R T data window ++ (sort (snapshotOrder R.collation)
        (data.snapshotsWithin window)).filter fun s => !decide (s.snapshotAt ≤ T) := by
    refine sort_eq_append htold.snapshots fun a b hab hb => ?_
    have hle := snapshotAt_le_of_isLE hab
    rw [decide_eq_true_iff] at hb ⊢
    omega
  have hids {l : List FixtureStatsSnapshot} (hl : ∀ s ∈ l, s ∈ data.snapshotsWithin window)
      {id : String} {group : List FixtureStatsSnapshot}
      (hgroup : (id, group) ∈ groupBy (·.fixtureId) l) : id ∈ data.fixtureIds window := by
    obtain ⟨⟨s, hs, hid⟩, -⟩ := mem_groupBy.1 hgroup
    exact ReplayData.mem_fixtureIds.2 ⟨s, hl s hs, hid⟩
  have hlate : ∀ s ∈ (sort (snapshotOrder R.collation) (data.snapshotsWithin window)).filter
      (fun s => !decide (s.snapshotAt ≤ T)), s ∈ data.snapshotsWithin window ∧ T < s.snapshotAt := by
    intro s hs
    rw [List.mem_filter, mem_sort, Bool.not_eq_true', decide_eq_false_iff_not] at hs
    exact ⟨hs.1, by omega⟩
  rw [replayAttempts_eq]
  show attemptsUpTo T ((groupBy _ (sort _ (data.snapshotsWithin window))).flatMap _) = _
  rw [hsort, groupBy_append, List.flatMap_append, attemptsUpTo, List.filter_append,
    List.filter_flatMap, List.filter_flatMap, List.flatMap_map]
  have hnew : ((groupBy (fun s : FixtureStatsSnapshot => s.fixtureId)
      (((sort (snapshotOrder R.collation) (data.snapshotsWithin window)).filter fun s =>
        !decide (s.snapshotAt ≤ T)).filter fun s =>
          !((snapshotsUpTo R T data window).map (·.fixtureId)).contains s.fixtureId)).flatMap
      fun group => (groupAttempts R strategy (data.read strategy window).fixtures
        (data.read strategy window).goals
        (quoteSelector R strategy (data.read strategy window).quotes) group).filter fun a =>
          decide (a.tickAt ≤ T)) = [] := by
    refine List.flatMap_eq_nil_iff.2 fun listed hgroup => ?_
    obtain ⟨id, group⟩ := listed
    rw [groupAttempts_read (hids (fun s hs => (hlate s (List.mem_of_mem_filter hs)).1) hgroup)]
    have hgroup' : ∀ s ∈ group, T < s.snapshotAt := by
      intro s hs
      rw [(mem_groupBy.1 hgroup).2] at hs
      exact (hlate s (List.mem_of_mem_filter (List.mem_of_mem_filter hs))).2
    exact (groupAttempts_append (fun _ hs => absurd hs List.not_mem_nil) hgroup').trans
      groupAttempts_nil
  rw [hnew, List.append_nil]
  refine List.flatMap_congr fun listed hgroup => ?_
  obtain ⟨id, group⟩ := listed
  have hid : id ∈ data.fixtureIds window :=
    hids (fun s hs => (mem_snapshotsUpTo.1 hs).1) hgroup
  have hmem : ∀ s ∈ group, s ∈ data.snapshotsWithin window ∧ s.snapshotAt ≤ T := by
    intro s hs
    rw [(mem_groupBy.1 hgroup).2] at hs
    exact mem_snapshotsUpTo.1 (List.mem_of_mem_filter hs)
  rw [groupAttempts_read hid]
  refine (groupAttempts_append (fun s hs => (hmem s hs).2)
    fun s hs => (hlate s (List.mem_of_mem_filter hs)).2).trans ?_
  refine groupAttempts_congr fun f hf hfid s hs => agreeAt_loaded hstrategy ?_ (hmem s hs).1
  exact ReplayData.mem_fixturesWithin.2 ⟨hf, hfid ▸ hid⟩

/-! ## Two replays -/

/-- Two data sets that agree up to an instant have the same snapshots up to it. -/
theorem snapshotsUpTo_eq {latencyMs : Int} (h : AgreeUpTo latencyMs T data data' window window') :
    snapshotsUpTo R T data window = snapshotsUpTo R T data' window' := by
  have hnodup (data : ReplayData) (window : ReplayWindow) :
      ((data.snapshotsWithin window).filter fun s => decide (s.snapshotAt ≤ T)).Nodup := by
    refine List.Nodup.filter _ ((perm_sort _ _).nodup_iff.2 ?_)
    exact Table.nodup_select fun s => beq_self_eq_true s.id
  refine sort_eq_of_perm (separates_snapshots _ fun s hs =>
    (ReplayData.mem_snapshotsWithin.1 (List.mem_of_mem_filter hs)).1) ?_
  refine (List.perm_ext_iff_of_nodup (hnodup data window) (hnodup data' window')).2 fun s => ?_
  rw [List.mem_filter, List.mem_filter, ReplayData.mem_snapshotsWithin,
    ReplayData.mem_snapshotsWithin, decide_eq_true_iff]
  have hreaches := h.reaches
  have hreaches' := h.reaches'
  have hstart := h.start
  constructor
  · rintro ⟨⟨hs, hfrom, -⟩, hT⟩
    exact ⟨⟨(h.snapshots s hT).1 hs, by omega, by omega⟩, hT⟩
  · rintro ⟨⟨hs, hfrom, -⟩, hT⟩
    exact ⟨⟨(h.snapshots s hT).2 hs, by omega, by omega⟩, hT⟩

/-- Two tables of the same fixtures find the same one. -/
theorem find?_fixture_eq {fixtures fixtures' : Table fixturesSchema}
    (h : ∀ f, f ∈ fixtures ↔ f ∈ fixtures') (id : String) :
    fixtures.rows.find? (·.id == id) = fixtures'.rows.find? (·.id == id) := by
  have hfind {t t' : Table fixturesSchema} (h : ∀ f, f ∈ t → f ∈ t') {f : Fixture}
      (hf : t.rows.find? (·.id == id) = some f) : t'.rows.find? (·.id == id) = some f := by
    have hid := List.find?_some hf
    refine Table.find?_of_mem (h f (List.mem_of_find?_eq_some hf)) hid fun x _ hx => ?_
    exact beq_iff_eq.2 ((beq_iff_eq.1 hx).trans (beq_iff_eq.1 hid).symm)
  exact Option.ext fun f => ⟨hfind fun f => (h f).1, hfind fun f => (h f).2⟩

theorem groupAttempts_eq
    (hstrategy : 0 ≤ strategy.odds.executionLatencyMs ∨ strategy.maxQuoteAgeMs < 0)
    (h : AgreeUpTo strategy.odds.executionLatencyMs T data data' window window')
    {group : String × List FixtureStatsSnapshot} (hgroup : ∀ s ∈ group.2, s.snapshotAt ≤ T) :
    groupAttempts R strategy data.fixtures.rows data.goals (quotesOfTable R strategy data) group =
      groupAttempts R strategy data'.fixtures.rows data'.goals (quotesOfTable R strategy data')
        group := by
  rw [groupAttempts_congr fun f _ _ s hs => agreeAt_tables hstrategy h (hgroup s hs)]
  simp only [groupAttempts]
  rw [find?_fixture_eq h.fixtures]
  split
  · rfl
  · exact replayFixture_perm (h.goals.filter _)

/-- The bets decided up to an instant. -/
def betsUpTo (T : Int) (bets : List DecidedBet) : List DecidedBet :=
  bets.filter fun b => decide (b.decisionAt ≤ T)

/-- They are those of the attempts up to it. -/
theorem betsUpTo_replayDetailed :
    betsUpTo T (replayDetailed R strategy data window).bets =
      (attemptsUpTo T (replayAttempts R strategy (data.read strategy window))).filterMap
        (·.bet) := by
  have hbets : (replayDetailed R strategy data window).bets =
      (replayAttempts R strategy (data.read strategy window)).filterMap (·.bet) := by
    rw [replayDetailed, replayRows]
    split_ifs with hempty
    · rw [replayAttempts, List.isEmpty_iff.1 hempty]
      rfl
    · rfl
  have hat : ∀ a ∈ replayAttempts R strategy (data.read strategy window), a.IsAt a.tickAt := by
    intro a ha
    rw [replayAttempts_eq] at ha
    obtain ⟨group, -, ha⟩ := List.mem_flatMap.1 ha
    unfold groupAttempts at ha
    split at ha
    · cases ha
    · exact isAt_of_mem_replayFixture ha
  rw [hbets]
  generalize replayAttempts R strategy (data.read strategy window) = attempts at hat ⊢
  induction attempts with
  | nil => rfl
  | cons a attempts ih =>
    have ih := ih fun b hb => hat b (List.mem_cons_of_mem a hb)
    have hbet := (hat a List.mem_cons_self).2
    rw [betsUpTo, attemptsUpTo] at ih ⊢
    cases hb : a.bet with
    | none =>
      rw [List.filterMap_cons_none hb, ih, List.filter_cons]
      split_ifs
      · rw [List.filterMap_cons_none hb]
      · rfl
    | some b =>
      have hsame : b.decisionAt = a.tickAt := hbet b hb
      rw [List.filterMap_cons_some hb, List.filter_cons, List.filter_cons, hsame, ih]
      split_ifs
      · rw [List.filterMap_cons_some hb]
      · rfl

/-- **The bets up to an instant do not depend on what comes later.** -/
theorem bets_upTo_eq (hstrategy : 0 ≤ strategy.odds.executionLatencyMs ∨ strategy.maxQuoteAgeMs < 0)
    (h : AgreeUpTo strategy.odds.executionLatencyMs T data data' window window') :
    betsUpTo T (replayDetailed R strategy data window).bets =
      betsUpTo T (replayDetailed R strategy data' window').bets := by
  rw [betsUpTo_replayDetailed, betsUpTo_replayDetailed, attemptsUpTo_replay hstrategy,
    attemptsUpTo_replay hstrategy, snapshotsUpTo_eq h]
  refine congrArg _ (List.flatMap_congr fun ⟨id, group⟩ hgroup => groupAttempts_eq hstrategy h ?_)
  intro s hs
  rw [(mem_groupBy.1 hgroup).2] at hs
  exact (mem_snapshotsUpTo.1 (List.mem_of_mem_filter hs)).2

end ApiScore
