import ApiScore.Odds.Quotes

/-!
# Suspended selections

A feed reports a suspended selection as a row with `available = false`.  Such a row never becomes a
candidate, so the choice does not see it: what it picks is the last odd from before the suspension,
for as long as that one is fresh.

* `OddsSnapshot.Suspends` — the row takes back a quote.
* `selectLatest_unsuspended` — when the quote chosen is not one that was taken back.
-/

set_option autoImplicit false

namespace ApiScore

open Relational Ranked

/-- A later observation of the same selection by the same provider and bookmaker, known at the
instant, reports it unavailable. -/
structure OddsSnapshot.Suspends (s : OddsSnapshot) (q : ExecutableQuote) (instant : Int) :
    Prop where
  providerKey : s.providerKey = some q.providerKey
  bookmakerKey : s.bookmakerKey = some q.bookmakerKey
  providerFixtureId : s.providerFixtureId = q.providerFixtureId
  marketKey : s.marketKey = some q.marketKey
  selectionKey : s.selectionKey = some q.selectionKey
  later : ∃ observedAt, s.observedAt = some observedAt ∧ q.observedAt < observedAt
  known : ∃ receivedAt, s.receivedAt = some receivedAt ∧ receivedAt ≤ instant
  unavailable : s.available = some false

/-- A row of the table that the query takes and the lookup accepts. -/
structure Executable (t : Table oddsSchema) (query : QuoteCandidatesQuery)
    (lookup : ExecutableQuoteLookup) (q : ExecutableQuote) : Prop where
  row : ∃ s ∈ t, s.toQuote? = some q
  taken : query.takes q = true
  accepted : lookup.accepts q = true

section Choice

variable {C : Collation} {t : Table oddsSchema} {query : QuoteCandidatesQuery}
  {lookup : ExecutableQuoteLookup} {q : ExecutableQuote}

theorem executable_iff :
    Executable t query lookup q ↔ q ∈ loadCandidates t query ∧ lookup.accepts q = true := by
  rw [mem_loadCandidates]
  constructor
  · rintro ⟨hrow, htaken, haccepted⟩
    exact ⟨⟨hrow, htaken⟩, haccepted⟩
  · rintro ⟨⟨hrow, htaken⟩, haccepted⟩
    exact ⟨hrow, htaken, haccepted⟩

/-- The quote chosen is the one that no executable quote is before. -/
theorem selectLatest_iff_first :
    selectLatest C (loadCandidates t query) lookup = some q ↔
      Executable t query lookup q ∧
        ∀ q', Executable t query lookup q' → C.latestFirst q' q ≠ .lt := by
  rw [selectLatest_eq_some (quotesOf_loadCandidates t query), executable_iff, ← and_assoc]
  refine and_congr_right fun _ => forall_congr' fun q' => ?_
  rw [executable_iff, and_imp, Ne, ← Ordering.isGE_iff_ne_lt, Std.OrientedCmp.isGE_iff_isLE]

/-- **A quote that was taken back is executed, unless another one comes before it.**  The rows with
`available = false` are left out before the latest is chosen, not after. -/
theorem selectLatest_unsuspended (C : Collation) (t : Table oddsSchema)
    (query : QuoteCandidatesQuery) (lookup : ExecutableQuoteLookup) :
    (∀ q, selectLatest C (loadCandidates t query) lookup = some q →
      ∀ s ∈ t, ¬ s.Suspends q lookup.instant) ↔
    ∀ q, Executable t query lookup q → ∀ s ∈ t, s.Suspends q lookup.instant →
      ∃ q', Executable t query lookup q' ∧ C.latestFirst q' q = .lt := by
  constructor
  · intro h q hq s hs hsuspends
    by_contra hnone
    refine h q (selectLatest_iff_first.2 ⟨hq, fun q' hq' hbefore => ?_⟩) s hs hsuspends
    exact hnone ⟨q', hq', hbefore⟩
  · intro h q hselect s hs hsuspends
    obtain ⟨hq, hfirst⟩ := selectLatest_iff_first.1 hselect
    obtain ⟨q', hq', hbefore⟩ := h q hq s hs hsuspends
    exact hfirst q' hq' hbefore

end Choice

/-! ## A suspension ten seconds after an odd -/

namespace Sample

/-- An odd of 1.800 on a goal of the home team, observed at 0. -/
def offered : OddsSnapshot where
  id := "a"
  fixtureId := "f"
  providerFixtureId := "1"
  providerKey := some "apifootball"
  bookmakerKey := some "bet365"
  marketKey := some "TEAM_GOALS_FT"
  selectionKey := some "HOME_OVER_0.5"
  oddValue := 1800
  observedAt := some 0
  receivedAt := some 0
  available := some true

/-- The same, suspended ten seconds later. -/
def suspended : OddsSnapshot :=
  { offered with
    id := "b", observedAt := some 10000, receivedAt := some 10000, available := some false }

def suspendedOdds : Table oddsSchema := ⟨[offered, suspended], by decide, by decide⟩

def goalTarget : ExecutableQuoteTarget := ⟨"1", "TEAM_GOALS_FT", "HOME_OVER_0.5", none, none⟩

end Sample

/-- The odd is executed ten seconds after its selection was suspended. -/
theorem executes_suspended :
    ¬ ∀ (C : Collation) (t : Table oddsSchema) (query : QuoteCandidatesQuery)
      (lookup : ExecutableQuoteLookup) (q : ExecutableQuote),
      selectLatest C (loadCandidates t query) lookup = some q →
        ∀ s ∈ t, ¬ s.Suspends q lookup.instant := by
  intro h
  obtain ⟨q, hq⟩ : ∃ q, Sample.offered.toQuote? = some q := ⟨_, rfl⟩
  refine h .codePoints Sample.suspendedOdds ⟨["1"], -100000, 20000⟩
    ⟨Sample.goalTarget, 20000, 120000⟩ q ?_ Sample.suspended
    (List.mem_cons_of_mem _ List.mem_cons_self) ?_
  · rw [← hq]
    decide +kernel
  · obtain rfl := Option.some.inj hq
    exact ⟨rfl, rfl, rfl, rfl, rfl, ⟨10000, rfl, by decide⟩, ⟨10000, rfl, by decide⟩, rfl⟩

end ApiScore
