import ApiScore.Backtest.Replay
import Mathlib.Data.List.Find

/-!
# The replay does not depend on the order of the rows

None of the queries of the replay says in which order it returns what compares equal to it.  The
snapshots, the fixtures and the quotes are sorted by instants and identifiers, which tell them apart;
the goals only count, and are hashed by their texts.

* `replayAttempts_perm` — the attempts, and with them the bets and the signals.
* `canonicalJson_datasetJson_perm` — what is hashed.
* `replayRows_perm` — the result.
-/

set_option autoImplicit false

namespace ApiScore

open Ranked Grouping Relational

variable {R : Runtime} {strategy : BacktestStrategy} {data : ReplayData} {window : ReplayWindow}
  {rows rows' : ReplayRows}

/-- The same rows in another order. -/
structure ReplayRows.Perm (rows rows' : ReplayRows) : Prop where
  snapshots : rows.snapshots.Perm rows'.snapshots
  fixtures : rows.fixtures.Perm rows'.fixtures
  goals : rows.goals.Perm rows'.goals
  quotes : rows.quotes.Perm rows'.quotes

/-! ## Rows that their identifiers tell apart -/

/-- What the orders of the replay tell apart. -/
structure ReplayRows.Told (R : Runtime) (rows : ReplayRows) : Prop where
  snapshots : Separates (snapshotOrder R.collation) rows.snapshots
  fixtures : Separates (comparing R.collation.compare (·.id)) rows.fixtures
  plainGoals : ∀ g ∈ rows.goals, isPlainText g.fixtureId = true
  quotes : ∃ t : Table oddsSchema, QuotesOf t rows.quotes

theorem isPlainText_snapshot {s : FixtureStatsSnapshot} (h : s ∈ data.snapshots) :
    isPlainText s.id = true ∧ isPlainText s.fixtureId = true := by
  have hcheck := data.snapshots.checked s h
  rw [snapshotsSchema, Bool.and_eq_true] at hcheck
  exact ⟨isPlainText_of_isGeneratedId hcheck.1, isPlainText_of_isGeneratedId hcheck.2⟩

theorem separates_snapshots (C : Collation) {snaps : List FixtureStatsSnapshot}
    (h : ∀ s ∈ snaps, s ∈ data.snapshots) : Separates (snapshotOrder C) snaps := by
  intro a ha b hb hab
  rw [snapshotOrder, compareLex_eq_eq] at hab
  have hid := C.eq_of_plain (isPlainText_snapshot (h a ha)).1 (isPlainText_snapshot (h b hb)).1 hab.2
  exact Table.eq_of_clash (h a ha) (h b hb) (beq_iff_eq.2 hid)

theorem separates_fixtures (C : Collation) {fixtures : List Fixture}
    (h : ∀ f ∈ fixtures, f ∈ data.fixtures) :
    Separates (comparing C.compare (·.id)) fixtures := by
  intro a ha b hb hab
  have hid := C.eq_of_plain (isPlainText_of_isGeneratedId (data.fixtures.checked a (h a ha)))
    (isPlainText_of_isGeneratedId (data.fixtures.checked b (h b hb))) hab
  exact Table.eq_of_clash (h a ha) (h b hb) (beq_iff_eq.2 hid)

theorem told_read : (data.read strategy window).Told R where
  snapshots := separates_snapshots _ fun _ hs => (ReplayData.mem_snapshotsWithin.1 hs).1
  fixtures := separates_fixtures _ fun _ hf => List.mem_of_mem_filter hf
  plainGoals g hg := by
    have hid := List.of_mem_filter hg
    rw [List.contains_iff_mem, ReplayData.mem_fixtureIds] at hid
    obtain ⟨s, hs, hid⟩ := hid
    rw [← hid]
    exact (isPlainText_snapshot (ReplayData.mem_snapshotsWithin.1 hs).1).2
  quotes := ⟨data.odds, quotesOf_loadCandidates _ _⟩

/-! ## The attempts -/

/-- Goals only count. -/
theorem goalsAt_perm {goals goals' : List GoalEvent} (h : goals.Perm goals') (elapsed : Int)
    (counts : Option Int → Bool) : goalsAt goals elapsed counts = goalsAt goals' elapsed counts := by
  rw [goalsAt, goalsAt, h.countP_eq]

theorem replayFixture_perm {number : JsValue → JsNumber} {numberText : JsNumber → String}
    {quoteAt : QuoteSelector} {fixture : Fixture} {goals goals' : List GoalEvent}
    {snaps : List FixtureStatsSnapshot} (h : goals.Perm goals') :
    replayFixture number strategy numberText quoteAt fixture goals snaps =
      replayFixture number strategy numberText quoteAt fixture goals' snaps := by
  have hsuggestions (homeId awayId : Int) (st : TickState) :
      st.suggestions strategy numberText fixture goals homeId awayId =
        st.suggestions strategy numberText fixture goals' homeId awayId := by
    simp only [TickState.suggestions, TickState.input]
    simp only [goalsAt_perm h]
  simp only [replayFixture]
  split
  · congr 1
    funext log st
    rw [evaluateTick, evaluateTick, hsuggestions]
  · rfl

/-- The fixture of an identifier. -/
theorem find?_fixtures_perm (htold : rows.Told R) (h : rows.fixtures.Perm rows'.fixtures)
    (id : String) : rows.fixtures.find? (·.id == id) = rows'.fixtures.find? (·.id == id) := by
  refine List.find?_eq_find?_of_perm h fun a ⟨ha, hpa⟩ b ⟨hb, hpb⟩ => ?_
  refine htold.fixtures a ha b hb ?_
  rw [comparing, beq_iff_eq.1 hpa, beq_iff_eq.1 hpb]
  exact Std.ReflCmp.compare_self

/-- **The attempts do not depend on the order of the rows.** -/
theorem replayAttempts_perm (htold : rows.Told R) (h : rows.Perm rows') :
    replayAttempts R strategy rows = replayAttempts R strategy rows' := by
  obtain ⟨t, hquotes⟩ := htold.quotes
  have hselect : quoteSelector R strategy rows.quotes = quoteSelector R strategy rows'.quotes := by
    funext target instant
    exact selectLatest_perm hquotes h.quotes
  rw [replayAttempts, replayAttempts, sort_eq_of_perm htold.snapshots h.snapshots, hselect]
  refine List.flatMap_congr fun group _ => ?_
  rw [find?_fixtures_perm htold h.fixtures]
  split
  · rfl
  · exact replayFixture_perm (h.goals.filter _)

/-! ## What is hashed -/

theorem isPlainText_goal {g : GoalEvent} (h : isPlainText g.fixtureId = true) :
    isPlainText (canonicalJson R.numberText g.json) = true := by
  have hint (n : Option Int) : isPlainText (canonicalJson R.numberText (jsonInt n)) = true := by
    cases n with
    | none =>
      rw [jsonInt, Option.map_none, JsValue.ofNumber, canonicalJson]
      decide
    | some n => exact R.plainNumber _
  refine isPlainText_canonicalJson_arr fun item hitem => ?_
  simp only [List.mem_cons, List.not_mem_nil, or_false] at hitem
  rcases hitem with rfl | rfl | rfl
  · rw [canonicalJson]
    exact isPlainText_jsonString h
  · exact hint _
  · exact hint _

/-- The goals are hashed by their texts, in the order of the texts. -/
theorem map_sort_goals (goals : List GoalEvent) :
    (sort (goalOrder R) goals).map (fun g => canonicalJson R.numberText g.json) =
      sort R.collation.compare (goals.map fun g => canonicalJson R.numberText g.json) :=
  map_sort _ _ goals

theorem canonicalJson_goals_perm (htold : rows.Told R) (h : rows.goals.Perm rows'.goals) :
    canonicalJson R.numberText (.arr ((sort (goalOrder R) rows.goals).map (·.json))) =
      canonicalJson R.numberText (.arr ((sort (goalOrder R) rows'.goals).map (·.json))) := by
  refine canonicalJson_arr_congr ?_
  rw [List.map_map, List.map_map]
  refine (map_sort_goals _).trans (.trans ?_ (map_sort_goals _).symm)
  refine sort_eq_of_perm (fun a ha b hb hab => ?_) (h.map _)
  obtain ⟨g, hg, rfl⟩ := List.mem_map.1 ha
  obtain ⟨g', hg', rfl⟩ := List.mem_map.1 hb
  exact R.collation.eq_of_plain (isPlainText_goal (htold.plainGoals g hg))
    (isPlainText_goal (htold.plainGoals g' hg')) hab

/-- **Nor does what is hashed.** -/
theorem canonicalJson_datasetJson_perm (htold : rows.Told R) (h : rows.Perm rows') :
    canonicalJson R.numberText (datasetJson R rows) =
      canonicalJson R.numberText (datasetJson R rows') := by
  obtain ⟨t, hquotes⟩ := htold.quotes
  refine canonicalJson_obj_congr ?_
  simp only [fieldTexts]
  rw [canonicalJson_goals_perm htold h.goals, sort_eq_of_perm htold.snapshots h.snapshots,
    sort_eq_of_perm htold.fixtures h.fixtures,
    sort_eq_of_perm (hquotes.separates_ids R.collation) h.quotes]

/-! ## The result -/

/-- **The replay does not depend on the order in which its queries return the rows.** -/
theorem replayRows_perm (h : (data.read strategy window).Perm rows') :
    replayRows R strategy rows' = replayDetailed R strategy data window := by
  have htold := @told_read R strategy data window
  have hempty : (data.read strategy window).snapshots.isEmpty = rows'.snapshots.isEmpty := by
    rw [Bool.eq_iff_iff, List.isEmpty_iff, List.isEmpty_iff]
    constructor
    · intro hnil
      exact List.nil_perm.1 (hnil ▸ h.snapshots)
    · intro hnil
      exact List.perm_nil.1 (hnil ▸ h.snapshots)
  rw [replayDetailed, replayRows, replayRows, hempty, replayAttempts_perm htold h, sha256Canonical,
    sha256Canonical, sha256Canonical, canonicalJson_datasetJson_perm htold h]

namespace Sample

def snapshotOf (id : String) : FixtureStatsSnapshot := ⟨id, "a", none, none, .obj [], 0⟩

/-- A fixture that has not been played, with two snapshots of one instant. -/
def twoSnapshots : ReplayData where
  snapshots := ⟨[snapshotOf "1", snapshotOf "2"], by decide, by decide⟩
  fixtures := ⟨[{
    id := "a", providerFixtureId := "7", leagueId := none, season := none, homeTeamId := none
    awayTeamId := none, homeTeamName := none, awayTeamName := none, statusShort := none
    elapsed := none, scoreHome := none, scoreAway := none, rawHome := ⟨none, none⟩
    rawAway := ⟨none, none⟩, lastSyncedAt := 0 }], by decide, by decide⟩
  goals := []
  odds := .empty

/-- What the queries return of it, with the snapshots the other way round. -/
def swapped : ReplayRows :=
  { twoSnapshots.read Sample.strategy ⟨0, 0⟩ with snapshots := [snapshotOf "2", snapshotOf "1"] }

end Sample

/-- Two snapshots of one instant may come in either order. -/
theorem replayRows_swapped :
    replayRows Sample.runtime Sample.strategy Sample.swapped =
      replayDetailed Sample.runtime Sample.strategy Sample.twoSnapshots ⟨0, 0⟩ := by
  have h : (Sample.twoSnapshots.read Sample.strategy ⟨0, 0⟩).Perm Sample.swapped :=
    ⟨List.Perm.swap (Sample.snapshotOf "2") (Sample.snapshotOf "1") [], .refl _, .refl _, .refl _⟩
  exact replayRows_perm h

end ApiScore
