import ApiScore.Simulation.Resolver

/-!
# Fixtures

A row of `fixtures`, and the state of its match that bets are settled on.
-/

set_option autoImplicit false

namespace ApiScore

/-- What the provider's answer says of one team's score at half-time, as `Number` reads it.  A field
that is missing is `none`, and for the first provider so is an empty one. -/
structure RawHtScore where
  apifootball : Option JsNumber
  apiSports : Option JsNumber
  deriving DecidableEq

structure Fixture where
  id : String
  providerFixtureId : String
  leagueId : Option Int
  season : Option Int
  homeTeamId : Option Int
  awayTeamId : Option Int
  homeTeamName : Option String
  awayTeamName : Option String
  statusShort : Option String
  elapsed : Option Int
  scoreHome : Option Int
  scoreAway : Option Int
  rawHome : RawHtScore
  rawAway : RawHtScore
  lastSyncedAt : Int
  deriving DecidableEq

/-- `extractHtScore`: the first of the two formats that is a number. -/
def extractHtScore (raw : RawHtScore) : Option JsNumber :=
  (raw.apifootball.filter (· ≠ .nan)).or (raw.apiSports.filter (· ≠ .nan))

/-- `finalStateOf`, `buildFinalState` and `toFinalMatchState`. -/
def finalStateOf (fixture : Fixture) : FinalMatchState where
  statusShort := fixture.statusShort.getD ""
  scoreHome := fixture.scoreHome.map .int
  scoreAway := fixture.scoreAway.map .int
  htScoreHome := extractHtScore fixture.rawHome
  htScoreAway := extractHtScore fixture.rawAway

namespace Sample

/-- A match in its 50th minute, which the provider reports as `LIVE`. -/
def liveFixture : Fixture where
  id := "f"
  providerFixtureId := "1"
  leagueId := some 1
  season := some 2025
  homeTeamId := some 1
  awayTeamId := some 2
  homeTeamName := some "Home"
  awayTeamName := some "Away"
  statusShort := some "LIVE"
  elapsed := some 50
  scoreHome := some 0
  scoreAway := some 0
  rawHome := ⟨none, none⟩
  rawAway := ⟨none, none⟩
  lastSyncedAt := 0

end Sample

end ApiScore
