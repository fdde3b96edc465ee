import ApiScore.Execution.Entities
import ApiScore.Lib.Program
import ApiScore.Matches.Fixture
import ApiScore.Odds.Partitions
import ApiScore.Odds.Quotes
import ApiScore.Simulation.Acquired

/-!
# The odds, fetched and stored

`odds-ingestion.service.ts`: a sync reads the matches of its phase, and asks the provider for the odds
of one after the other.  The rows of an answer are inserted by one statement, and an answer that
throws, or a statement that fails, ends the sync: what was stored before it stays.

* `syncOdds` — `syncPrematchOdds` and `syncLiveOdds`.
* `OddsRow.snapshot?` — a row, as the columns of the table store it.
* `oddsSync` — any number of syncs at once, while matches are written and deleted.
-/

set_option autoImplicit false

namespace ApiScore

open Concurrent Relational

/-! ## The sync -/

inductive OddsAction
  | matchesOf (phase : SnapshotPhase)
  /-- The odds of a match, and the time they are received. -/
  | fetch (phase : SnapshotPhase) (fixture : Fixture)
  | insert (rows : List OddsRow)

abbrev OddsAction.Result : OddsAction → Type
  | .matchesOf _ => Except String (List Fixture)
  | .fetch _ _ => Except String (List JsValue × Int)
  | .insert _ => Except String Unit

abbrev OddsCall (α : Type) : Type := Async OddsAction OddsAction.Result ServiceError α

/-- What a sync has done. -/
structure OddsSyncResult where
  fixturesProcessed : Nat
  snapshotsInserted : Nat

namespace OddsCall

def perform (a : OddsAction) : OddsCall a.Result := ExceptT.lift (Prog.perform a)

def matchesOf (phase : SnapshotPhase) : OddsCall (List Fixture) := do
  match ← perform (.matchesOf phase) with
  | .ok fixtures => return fixtures
  | .error e => throw (.other e)

def fetch (phase : SnapshotPhase) (fixture : Fixture) : OddsCall (List JsValue × Int) := do
  match ← perform (.fetch phase fixture) with
  | .ok answer => return answer
  | .error e => throw (.other e)

def insert (rows : List OddsRow) : OddsCall Unit := do
  match ← perform (.insert rows) with
  | .ok () => return ()
  | .error e => throw (.other e)

end OddsCall

section Sync

variable (rt : OddsRuntime) (providerKey : String)

/-- What the rows of a match share that was received then. -/
def sourceOf (phase : SnapshotPhase) (fixture : Fixture) (receivedAt : Int) : OddsSource :=
  ⟨fixture.id, fixture.providerFixtureId, providerKey, phase, receivedAt⟩

/-- `ingestOddsResponse`: the number of rows stored. -/
def ingestOddsResponse (source : OddsSource) (response : List JsValue) : OddsCall Nat := do
  match oddsRows rt source response with
  -- a field of `null` is read
  | none => throw (.other "TypeError")
  | some rows =>
    if rows.isEmpty then return 0
    OddsCall.insert rows
    return rows.length

/-- The matches, one after the other. -/
def syncEach (phase : SnapshotPhase) : List Fixture → OddsCall Nat
  | [] => return 0
  | fixture :: fixtures => do
    let (response, receivedAt) ← OddsCall.fetch phase fixture
    let stored ← ingestOddsResponse rt (sourceOf providerKey phase fixture receivedAt) response
    let rest ← syncEach phase fixtures
    return stored + rest

/-- `syncPrematchOdds`, `syncLiveOdds`. -/
def syncOdds (phase : SnapshotPhase) : OddsCall OddsSyncResult := do
  let fixtures ← OddsCall.matchesOf phase
  let inserted ← syncEach rt providerKey phase fixtures
  return ⟨fixtures.length, inserted⟩

end Sync

/-! ## What it works on -/

/-- A row of `fixtures`, with the column its matches are ordered by. -/
structure DatedFixture where
  fixture : Fixture
  matchDate : Option Int

/-- `ORDER BY matchDate ASC`: a date that is missing comes first. -/
def DatedFixture.notLater (a b : DatedFixture) : Prop :=
  match a.matchDate, b.matchDate with
  | none, _ => True
  | some _, none => False
  | some x, some y => x ≤ y

/-- `getUpcomingFixtures`, `getLiveFixtures`: the matches that a phase may be answered with. -/
def MatchesOf (fixtures : List DatedFixture) (r : List Fixture) : SnapshotPhase → Prop
  | .prematch => ∃ upcoming : List DatedFixture,
      upcoming.Perm (fixtures.filter fun f => f.fixture.statusShort == some "NS") ∧
        upcoming.Pairwise DatedFixture.notLater ∧ r = (upcoming.take 50).map (·.fixture)
  | .live => r.Perm ((fixtures.map (·.fixture)).filter fun f =>
      f.statusShort.any liveStatuses.contains)

/-- The row as its columns store it: the odd in thousandths, where it fits. -/
def OddsRow.snapshot? (row : OddsRow) (id : String) : Option OddsSnapshot :=
  ((oddMillis? row.oddValue).filter fitsDecimal8).map fun millis =>
    { id
      fixtureId := row.fixtureId
      providerFixtureId := row.providerFixtureId
      providerKey := some row.providerKey
      bookmakerKey := some row.bookmakerKey
      marketKey := some row.marketKey
      selectionKey := some row.selectionKey
      oddValue := millis
      observedAt := some row.observedAt
      receivedAt := some row.receivedAt
      available := some row.available }

inductive OddsEvent
  /-- The provider has answered. -/
  | fetched (source : OddsSource) (response : List JsValue)
  | inserted (rows : List OddsRow)
  /-- A match is deleted, and its odds with it. -/
  | deleted (fixtureId : String)

structure OddsWorld where
  odds : Table oddsSchema
  fixtures : List DatedFixture
  clock : Int
  /-- Latest first. -/
  trace : List OddsEvent

/-- `ON DELETE CASCADE`. -/
def OddsWorld.deleteMatch (w : OddsWorld) (fixtureId : String) : OddsWorld where
  odds := w.odds.delete fun s => s.fixtureId == fixtureId
  fixtures := w.fixtures.filter fun f => f.fixture.id != fixtureId
  clock := w.clock
  trace := .deleted fixtureId :: w.trace

/-- What one action does. -/
inductive OddsStep (providerKey : String) :
    (a : OddsAction) → OddsWorld → a.Result → OddsWorld → Prop
  | matched {phase : SnapshotPhase} {w : OddsWorld} {r : List Fixture}
      (hmatches : MatchesOf w.fixtures r phase) : OddsStep providerKey (.matchesOf phase) w (.ok r) w
  | notMatched {phase : SnapshotPhase} {w : OddsWorld} (e : String) :
    OddsStep providerKey (.matchesOf phase) w (.error e) w
  | fetched {phase : SnapshotPhase} {fixture : Fixture} {w : OddsWorld} (response : List JsValue) :
    OddsStep providerKey (.fetch phase fixture) w (.ok (response, w.clock))
      { w with trace := .fetched (sourceOf providerKey phase fixture w.clock) response :: w.trace }
  | notFetched {phase : SnapshotPhase} {fixture : Fixture} {w : OddsWorld} (e : String) :
    OddsStep providerKey (.fetch phase fixture) w (.error e) w
  -- the identifiers are new, and the matches are there
  | inserted {rows : List OddsRow} {w : OddsWorld} {snapshots : List OddsSnapshot}
      {odds : Table oddsSchema}
      (hstored : List.Forall₂ (fun row s => row.snapshot? s.id = some s) rows snapshots)
      (hmatches : ∀ row ∈ rows, row.fixtureId ∈ w.fixtures.map (·.fixture.id))
      (hodds : odds.rows = w.odds.rows ++ snapshots) :
    OddsStep providerKey (.insert rows) w (.ok ()) { w with odds, trace := .inserted rows :: w.trace }
  | notInserted {rows : List OddsRow} {w : OddsWorld} (e : String) :
    OddsStep providerKey (.insert rows) w (.error e) w

/-- A match is written, or deleted, or time passes. -/
inductive OddsWorld.Moves (w : OddsWorld) : OddsWorld → Prop
  | written {fixtures : List DatedFixture} {clock : Int}
      (hkept : ∀ f ∈ w.fixtures, f.fixture.id ∈ fixtures.map (·.fixture.id)) (hclock : w.clock ≤ clock) :
    Moves w { w with fixtures, clock }
  | deleted (fixtureId : String) : Moves w (w.deleteMatch fixtureId)

/-- Any number of syncs at once. -/
def oddsSync (rt : OddsRuntime) (providerKey : String) :
    System OddsAction OddsAction.Result Nat OddsWorld where
  step _ := OddsStep providerKey
  entry p := ∃ phase, p = (syncOdds rt providerKey phase).run >>= fun _ => .ret ()
  env := OddsWorld.Moves
  drop _ w := w

/-! ## What a sync inserts -/

/-- The rows are those of an answer that was received. -/
def OddsWorld.Answered (rt : OddsRuntime) (w : OddsWorld) (rows : List OddsRow) : Prop :=
  ∃ source response, .fetched source response ∈ w.trace ∧ oddsRows rt source response = some rows

/-- A sync inserts the rows of an answer, and nothing else. -/
def oddsContract (rt : OddsRuntime) (inv : OddsWorld → Prop) : Contract OddsAction Nat OddsWorld where
  inv := inv
  pre _ a w := match a with
    | .insert rows => w.Answered rt rows
    | _ => True
  guar _ w w' := w.trace <:+ w'.trace
  rely _ w w' := w.trace <:+ w'.trace
  fresh _ _ := True
  refl _ _ := List.suffix_refl _
  trans _ _ _ _ h h' := h.trans h'

section Discipline

variable {rt : OddsRuntime} {providerKey : String} {inv : OddsWorld → Prop} {w w' : OddsWorld} {i : Nat}

theorem OddsStep.trace {a : OddsAction} {b : a.Result} (hs : OddsStep providerKey a w b w') :
    w.trace <:+ w'.trace := by
  cases hs with
  | matched | notMatched | notFetched | notInserted => exact List.suffix_refl _
  | fetched | inserted => exact List.suffix_cons _ _

theorem OddsWorld.Moves.trace (h : w.Moves w') : w.trace <:+ w'.trace := by
  cases h with
  | written => exact List.suffix_refl _
  | deleted => exact List.suffix_cons _ _

/-- What a program of a sync promises. -/
abbrev OddsSpec (rt : OddsRuntime) (providerKey : String) (inv : OddsWorld → Prop) (i : Nat) {α : Type}
    (Q : α → OddsWorld → Prop) (p : OddsCall α) (w : OddsWorld) : Prop :=
  Spec (oddsSync rt providerKey) (oddsContract rt inv) i Q p w

theorem insert_spec {rows : List OddsRow} (hrows : w.Answered rt rows) :
    OddsSpec rt providerKey inv i (fun _ _ => True) (OddsCall.insert rows) w := by
  obtain ⟨source, response, hfetched, hrows⟩ := hrows
  refine Spec.act fun w₁ hr h₁ => ⟨⟨source, response, hr.subset hfetched, hrows⟩, fun b w₂ _ _ _ => ?_⟩
  cases b with
  | ok => exact Spec.pure fun _ _ _ => trivial
  | error e => exact Spec.throw

/-- What is fetched is recorded. -/
theorem fetch_spec {phase : SnapshotPhase} {fixture : Fixture} :
    OddsSpec rt providerKey inv i
      (fun answer w' => .fetched (sourceOf providerKey phase fixture answer.2) answer.1 ∈ w'.trace)
      (OddsCall.fetch phase fixture) w := by
  refine Spec.act fun w₁ hr h₁ => ⟨trivial, fun b w₂ hs h₂ ho => ?_⟩
  cases b with
  | error e => exact Spec.throw
  | ok answer =>
    cases hs with
    | fetched response => exact Spec.pure fun w₃ hr₃ _ => hr₃.subset List.mem_cons_self

theorem ingestOddsResponse_spec {source : OddsSource} {response : List JsValue} (hinv : inv w)
    (hfetched : .fetched source response ∈ w.trace) :
    OddsSpec rt providerKey inv i (fun _ _ => True) (ingestOddsResponse rt source response) w := by
  rw [ingestOddsResponse]
  cases hrows : oddsRows rt source response with
  | none => exact Spec.throw
  | some rows =>
    dsimp only
    split_ifs with hempty
    · exact Spec.pure fun _ _ _ => trivial
    · refine Spec.bind (insert_spec ⟨source, response, hfetched, hrows⟩) hinv fun _ _ _ _ => ?_
      exact Spec.pure fun _ _ _ => trivial

theorem syncEach_spec {phase : SnapshotPhase} {fixtures : List Fixture} (hinv : inv w) :
    OddsSpec rt providerKey inv i (fun _ _ => True) (syncEach rt providerKey phase fixtures) w := by
  induction fixtures generalizing w with
  | nil => exact Spec.pure fun _ _ _ => trivial
  | cons fixture fixtures ih =>
    refine Spec.bind fetch_spec hinv fun answer w₁ h₁ hfetched => ?_
    refine Spec.bind (ingestOddsResponse_spec h₁ hfetched) h₁ fun stored w₂ h₂ _ => ?_
    exact Spec.bind (ih h₂) h₂ fun rest w₃ _ _ => Spec.pure fun _ _ _ => trivial

/-- **Every insert is of the rows of an answer**, whatever an insert of those keeps. -/
theorem oddsSync_discipline
    (hstep : ∀ a b w w', inv w → (oddsContract rt inv).pre 0 a w → OddsStep providerKey a w b w' → inv w')
    (hmoves : ∀ w w', inv w → w.Moves w' → inv w') :
    Discipline (oddsSync rt providerKey) (oddsContract rt inv) where
  entry i p w hp hinv _ := by
    obtain ⟨phase, rfl⟩ := hp
    have hsync : OddsSpec rt providerKey inv i (fun _ _ => True) (syncOdds rt providerKey phase) w := by
      refine Spec.act fun w₁ hr h₁ => ⟨trivial, fun b w₂ hs h₂ ho => ?_⟩
      cases b with
      | error e => exact Spec.throw
      | ok fixtures =>
        refine Spec.bind (syncEach_spec h₂) h₂ fun inserted w₃ _ _ => ?_
        exact Spec.pure fun _ _ _ => trivial
    exact Safe.bind hsync hinv fun _ _ _ _ => Safe.ret fun _ _ _ => trivial
  step i a b w w' hinv hpre hs := ⟨hstep a b w w' hinv hpre hs, hs.trace⟩
  compatible _ _ _ _ _ h := h
  fresh _ _ _ _ h := h
  env w w' h hinv := ⟨hmoves w w' hinv h, fun _ => h.trace⟩
  drop _ w hinv := ⟨hinv, fun _ _ => List.suffix_refl _⟩

end Discipline

end ApiScore
