import ApiScore.Execution.Runs
import ApiScore.Ingestion.GoalEvents
import ApiScore.Lib.Statement

/-!
# Replacing the events of a fixture

`replaceFixtureEvents` of `fixtures-ingestion.service.ts` and `persistMatch` of
`history-import.service.ts`.  Both delete the rows of a fixture and insert new ones, in two statements
that no transaction holds together.

* `replaceEvents`, `persistMatch` — the two calls, statement by statement.
* `EventStore` — the rows of each fixture, with what has been done to them.
* `eventService` — the runs of any number of calls.
-/

set_option autoImplicit false

namespace ApiScore

open Concurrent

/-! ## The rows of an import -/

/-- What is written of a team's statistics. -/
structure ImportedSnapshot where
  teamId : JsValue
  half : String
  elapsed : Nat
  stats : JsValue

/-- The rows that an import writes of a match. -/
structure MatchDetails where
  snapshotRows : List ImportedSnapshot
  eventRows : List FixtureEventRow

/-- `buildTeamStatsEntries`. -/
def buildTeamStatsEntries (statistics homeTeamId awayTeamId : JsValue) : List JsValue :=
  let entry (teamId : JsValue) (side : String) : JsValue :=
    .obj [("team_id", teamId), ("statistics", .arr (statistics.items.map fun stat =>
      .obj [("type", stat.get "type"), ("value", stat.get side)]))]
  if statistics.items.isEmpty then [] else [entry homeTeamId "home", entry awayTeamId "away"]

def snapshotRow (half : String) (elapsed : Nat) (teamId : JsValue → JsValue) (entry : JsValue) :
    ImportedSnapshot :=
  ⟨teamId entry, half, elapsed, entry⟩

section Rows

variable (number : JsValue → JsNumber)

/-- `buildApifootballDetails`: everything is in the payload. -/
def buildApifootballDetails (payload : JsValue) : MatchDetails :=
  let homeTeamId := payloadTeamId number payload "home" "match_hometeam_id"
  let awayTeamId := payloadTeamId number payload "away" "match_awayteam_id"
  { snapshotRows :=
      (buildTeamStatsEntries (payload.get "statistics_1half") homeTeamId awayTeamId).map
        (snapshotRow "1" 45 (·.get "team_id")) ++
      (buildTeamStatsEntries (payload.get "statistics") homeTeamId awayTeamId).map
        (snapshotRow "2" 90 (·.get "team_id"))
    eventRows := buildEventRowsFromGoalscorer number payload }

/-- What the provider answers about a match, in three requests. -/
structure ApiSportsAnswers where
  halftimeStats : List JsValue
  finalStats : List JsValue
  events : List JsValue

/-- The row of a goal. -/
def apiSportsRow (event : JsValue) : FixtureEventRow where
  teamId := ((event.get "team").get "id").orElse .null
  playerId := ((event.get "player").get "id").orElse .null
  assistPlayerId := ((event.get "assist").get "id").orElse .null
  minute := ((event.get "time").get "elapsed").orElse .null
  extra := ((event.get "time").get "extra").orElse .null
  eventType := event.get "type"
  detail := (event.get "detail").orElse .null
  raw := event

/-- `event?.type === 'Goal'`. -/
def isApiSportsGoal (event : JsValue) : Bool :=
  match event.get "type" with
  | .str text => text == "Goal"
  | _ => false

/-- The rows of `fetchApiSportsDetails`. -/
def apiSportsDetails (answers : ApiSportsAnswers) : MatchDetails where
  snapshotRows :=
    answers.halftimeStats.map (snapshotRow "1" 45 fun e => numberOf number (e.get "team_id")) ++
    answers.finalStats.map (snapshotRow "2" 90 fun e => numberOf number (e.get "team_id"))
  eventRows := (answers.events.filter isApiSportsGoal).map apiSportsRow

/-- The id of a match at the provider; `text` is JavaScript's `String`. -/
def payloadFixtureId (text : JsValue → String) (payload : JsValue) : Option String :=
  let id := (payload.get "fixture").get "id"
  if id.truthy then some (text id)
  else if (payload.get "match_id").truthy then some (text (payload.get "match_id"))
  else none

end Rows

/-! ## The statements -/

inductive EventAction
  /-- The fixture is inserted, or updated, by its id at the provider. -/
  | upsertFixture (providerFixtureId : String) (payload : JsValue)
  /-- Its id in the table. -/
  | findFixture (providerFixtureId : String)
  /-- The requests of `fetchApiSportsDetails`. -/
  | fetchApiSportsDetails (fixtureId : String)
  | deleteSnapshots (fixtureId : String)
  | insertSnapshots (fixtureId : String) (rows : List ImportedSnapshot)
  /-- The deletion of the events, by a call that goes on to insert `rows`, if there are any. -/
  | deleteEvents (fixtureId : String) (rows : List FixtureEventRow)
  | insertEvents (fixtureId : String) (rows : List FixtureEventRow)

abbrev EventAction.Answer : EventAction → Type
  | .findFixture _ => Option String
  | .fetchApiSportsDetails _ => ApiSportsAnswers
  | .upsertFixture _ _ | .deleteSnapshots _ | .insertSnapshots _ _ | .deleteEvents _ _
  | .insertEvents _ _ => Unit

abbrev EventCall (α : Type) : Type := StatementCall EventAction EventAction.Answer α

def EventCall.send (a : EventAction) : EventCall a.Answer := stmt a

open EventCall (send)

/-! ## The calls -/

/-- The deletion and the insertion of the rows, of both calls. -/
def replaceEvents (fixtureId : String) (rows : List FixtureEventRow) : EventCall Unit := do
  send (.deleteEvents fixtureId rows)
  if rows.isEmpty then return ()
  send (.insertEvents fixtureId rows)

inductive FootballProvider
  | apifootball | apiSports
  deriving DecidableEq

/-- The rows of the fixture, from the payload or from the provider. -/
def matchDetails (number : JsValue → JsNumber) (provider : FootballProvider) (payload : JsValue)
    (fixtureId : String) : EventCall MatchDetails :=
  match provider with
  | .apifootball => return buildApifootballDetails number payload
  | .apiSports => do
    let answers ← send (.fetchApiSportsDetails fixtureId)
    return apiSportsDetails number answers

/-- `persistMatch`. -/
def persistMatch (number : JsValue → JsNumber) (text : JsValue → String)
    (provider : FootballProvider) (payload : JsValue) : EventCall Unit := do
  match payloadFixtureId text payload with
  | none => return ()
  | some providerFixtureId =>
    send (.upsertFixture providerFixtureId payload)
    match ← send (.findFixture providerFixtureId) with
    | none => return ()
    | some fixtureId =>
      let details ← matchDetails number provider payload fixtureId
      send (.deleteSnapshots fixtureId)
      if !details.snapshotRows.isEmpty then
        send (.insertSnapshots fixtureId details.snapshotRows)
      replaceEvents fixtureId details.eventRows

/-! ## Runs of the calls -/

/-- What has been done to the events of a fixture. -/
inductive EventMark
  /-- Deleted, by a call that has rows to insert. -/
  | deleted (i : CallId) (fixtureId : String)
  /-- Deleted, by a call that has none. -/
  | emptied (i : CallId) (fixtureId : String)
  | inserted (i : CallId) (fixtureId : String)
  deriving DecidableEq

def EventMark.fixtureId : EventMark → String
  | .deleted _ f | .emptied _ f | .inserted _ f => f

structure EventStore where
  /-- The fixtures: their ids at the provider and in the table. -/
  fixtures : List (String × String)
  events : String → List FixtureEventRow
  /-- The whole sets that calls have written. -/
  sets : List (CallId × String × List FixtureEventRow)
  trace : List EventMark

def EventStore.init (fixtures : List (String × String)) (events : String → List FixtureEventRow) :
    EventStore := ⟨fixtures, events, [], []⟩

/-- What the surroundings decide about one statement. -/
structure EventInput where
  /-- The id of a new fixture. -/
  uuid : String
  answers : ApiSportsAnswers

namespace EventStore

/-- The rows of a fixture are these now. -/
def put (w : EventStore) (fixtureId : String) (rows : List FixtureEventRow) (mark : EventMark) :
    EventStore :=
  { w with events := Function.update w.events fixtureId rows, trace := mark :: w.trace }

/-- The call has written its whole set. -/
def whole (w : EventStore) (i : CallId) (fixtureId : String) (rows : List FixtureEventRow) :
    EventStore :=
  { w with sets := (i, fixtureId, rows) :: w.sets }

/-- The fixtures, with this one. -/
def upsert (w : EventStore) (providerFixtureId uuid : String) : EventStore :=
  if w.fixtures.any (·.1 == providerFixtureId) then w
  else { w with fixtures := (providerFixtureId, uuid) :: w.fixtures }

/-- What a statement answers and does; an event of a fixture that is not there is refused. -/
def serve (i : CallId) : (a : EventAction) → EventInput → EventStore →
    Option (a.Answer × EventStore)
  | .upsertFixture providerFixtureId _, input, w =>
    some ((), w.upsert providerFixtureId input.uuid)
  | .findFixture providerFixtureId, _, w => some (w.fixtures.lookup providerFixtureId, w)
  | .fetchApiSportsDetails _, input, w => some (input.answers, w)
  | .deleteSnapshots _, _, w | .insertSnapshots _ _, _, w => some ((), w)
  | .deleteEvents fixtureId rows, _, w =>
    some ((), if rows.isEmpty then (w.whole i fixtureId []).put fixtureId [] (.emptied i fixtureId)
      else w.put fixtureId [] (.deleted i fixtureId))
  | .insertEvents fixtureId rows, _, w =>
    if w.fixtures.any (·.2 == fixtureId) then
      some ((), (w.whole i fixtureId rows).put fixtureId (w.events fixtureId ++ rows)
        (.inserted i fixtureId))
    else none

end EventStore

inductive EventJob
  /-- `replaceFixtureEvents`. -/
  | replaceFixtureEvents (fixtureId : String) (events : List JsValue)
  | persistMatch (provider : FootballProvider) (payload : JsValue)

/-- Any number of calls; the rest of the program writes fixtures, and no event. -/
def eventService (number : JsValue → JsNumber) (text : JsValue → String) :
    Service EventAction EventAction.Answer CallId EventStore EventInput EventJob where
  serve := EventStore.serve
  program
    | .replaceFixtureEvents fixtureId events =>
      (replaceEvents fixtureId (replaceFixtureEvents number events)).start
    | .persistMatch provider payload => (persistMatch number text provider payload).start
  env w w' := ∃ fixtures, w' = { w with fixtures }
  drop _ w := w

end ApiScore
