import ApiScore.Execution.Runs
import ApiScore.Lib.Statement
import ApiScore.Lib.Table
import ApiScore.Matches.Fixture

/-!
# Coupons

`evaluateAndSave`, `saveCoupons` and `resolveSettledCoupons` of `smart-suggestions.service.ts`, and
`purgeStaleBettingArtifacts` of `cleanup.service.ts`.  No unique index keeps two coupons of one
suggestion apart: `saveCoupons` reads what is there and inserts the rest.  A resolution saves whole
entities it has read before, and what `save` does not find it inserts.

* `SmartSuggestion`, `SmartCoupon` — with the columns the jobs read; those that are only copied are
  left out.
* `evaluateAndSave`, `resolveSettledCoupons`, `purgeStaleBettingArtifacts` — the jobs.
* `couponJobs` — the runs of any number of them.
-/

set_option autoImplicit false

namespace ApiScore

open Relational Concurrent

/-! ## Suggestions and coupons -/

structure SmartSuggestion where
  fixtureId : String
  teamId : Option Int
  marketType : String
  isHomeTeam : Bool
  deriving DecidableEq

inductive SmartCouponStatus
  | pending | won | lost
  deriving DecidableEq, Repr

/-- A coupon before it has an id. -/
structure NewCoupon where
  fixtureId : String
  teamId : Option Int
  marketType : String
  isHomeTeam : Bool
  status : SmartCouponStatus
  resolvedAt : Option Int
  deriving DecidableEq

structure SmartCoupon extends NewCoupon where
  id : String
  deriving DecidableEq

/-- The fixture, the team and the market a coupon is for. -/
abbrev CouponTarget : Type := String × Option Int × String

def SmartSuggestion.target (s : SmartSuggestion) : CouponTarget :=
  (s.fixtureId, s.teamId, s.marketType)

def NewCoupon.target (c : NewCoupon) : CouponTarget := (c.fixtureId, c.teamId, c.marketType)

/-- The text by which a suggestion is compared with the coupons that are there. -/
def couponKey : CouponTarget → String
  | (fixtureId, teamId, marketType) =>
    fixtureId ++ "|" ++ (teamId.map toString).getD "" ++ "|" ++ marketType

/-- `couponRepo.create`. -/
def SmartSuggestion.coupon (s : SmartSuggestion) : NewCoupon where
  fixtureId := s.fixtureId
  teamId := s.teamId
  marketType := s.marketType
  isHomeTeam := s.isHomeTeam
  status := .pending
  resolvedAt := none

/-- `smart_coupons`: the id is the only key. -/
def smartCouponSchema : Schema SmartCoupon where
  clash a b := a.id == b.id
  symm _ _ := Bool.beq_comm
  check c := decide (c.fixtureId.length ≤ 36) && decide (c.marketType.length ≤ 80)

/-! ## The statements -/

inductive CouponAction
  /-- The reads of `getAllSuggestions`. -/
  | getAllSuggestions
  /-- The deletion of the new recommendations of these fixtures. -/
  | deleteRecommendations (fixtureIds : List String)
  | saveRecommendations (suggestions : List SmartSuggestion)
  | couponsOf (fixtureIds : List String)
  | insert (coupons : List NewCoupon)
  /-- The coupons that are pending. -/
  | pending
  /-- The fixtures with these ids, and the time. -/
  | fixtures (fixtureIds : List String)
  /-- `save`, its first part: the row with the id of the entity. -/
  | load (id : String)
  /-- `save` of an entity that has not been found. -/
  | insertEntity (coupon : SmartCoupon)
  /-- `save` of an entity that has been found. -/
  | update (loaded coupon : SmartCoupon)
  /-- The ids of the fixtures that have not been synced for 24 hours. -/
  | staleFixtures
  /-- The deletion of the pending coupons of these fixtures. -/
  | deletePending (fixtureIds : List String)

abbrev CouponAction.Answer : CouponAction → Type
  | .getAllSuggestions => List SmartSuggestion
  | .couponsOf _ | .pending => List SmartCoupon
  | .fixtures _ => List Fixture × Int
  | .load _ => Option SmartCoupon
  | .staleFixtures => List String
  | .deleteRecommendations _ | .saveRecommendations _ | .insert _ | .insertEntity _ | .update _ _
  | .deletePending _ => Unit

abbrev CouponCall (α : Type) : Type := StatementCall CouponAction CouponAction.Answer α

def CouponCall.send (a : CouponAction) : CouponCall a.Answer := stmt a

open CouponCall (send)

/-! ## The jobs -/

/-- The coupons that are not there yet. -/
def toInsert (existing : List SmartCoupon) (suggestions : List SmartSuggestion) : List NewCoupon :=
  let existingKeys := existing.map fun c => couponKey c.target
  (suggestions.filter fun s => !existingKeys.contains (couponKey s.target)).map (·.coupon)

def saveCoupons (suggestions : List SmartSuggestion) : CouponCall Unit := do
  if suggestions = [] then return ()
  let existing ← send (.couponsOf (suggestions.map (·.fixtureId)).eraseDups)
  let coupons := toInsert existing suggestions
  if coupons = [] then return ()
  send (.insert coupons)

/-- `couponRepo.save` of a coupon that has been read before. -/
def saveCoupon (coupon : SmartCoupon) : CouponCall Unit := do
  match ← send (.load coupon.id) with
  | none => send (.insertEntity coupon)
  | some loaded => if loaded = coupon then return () else send (.update loaded coupon)

def SmartCouponStatus.ofOutcome : DecisionOutcome → SmartCouponStatus
  | .won => .won
  | _ => .lost

/-- The coupon as it is resolved, where the match decides it. -/
def resolveCoupon (fixtures : List Fixture) (now : Int) (coupon : SmartCoupon) :
    Option SmartCoupon := do
  let fixture ← fixtures.find? (·.id = coupon.fixtureId)
  let resolved ← resolveOutcome ⟨coupon.marketType, coupon.isHomeTeam⟩ (finalStateOf fixture)
  return { coupon with status := .ofOutcome resolved, resolvedAt := some now }

def resolveEach (fixtures : List Fixture) (now : Int) : List SmartCoupon → CouponCall Unit
  | [] => return ()
  | coupon :: coupons => do
    if let some resolved := resolveCoupon fixtures now coupon then saveCoupon resolved
    resolveEach fixtures now coupons

def resolveSettledCoupons : CouponCall Unit := do
  let pending ← send .pending
  if pending = [] then return ()
  let (fixtures, now) ← send (.fixtures (pending.map (·.fixtureId)).eraseDups)
  resolveEach fixtures now pending

/-- The `try` of `evaluateAndSave`. -/
def evaluate : CouponCall Unit := do
  let suggestions ← send .getAllSuggestions
  if suggestions ≠ [] then
    send (.deleteRecommendations (suggestions.map (·.fixtureId)).eraseDups)
    send (.saveRecommendations suggestions)
  saveCoupons suggestions

def evaluateAndSave : CouponCall Unit := ensuring evaluate resolveSettledCoupons

def purgeStaleBettingArtifacts : CouponCall Unit := do
  let staleIds ← send .staleFixtures
  if staleIds = [] then return ()
  send (.deleteRecommendations staleIds)
  send (.deletePending staleIds)

/-! ## Runs of the jobs -/

inductive CouponEvent
  /-- Call `i` has read the coupons that are there, in `saveCoupons`. -/
  | read (i : CallId)
  /-- Call `i` has read the pending coupons, in `resolveSettledCoupons`. -/
  | listed (i : CallId)
  /-- A coupon with this id has been inserted. -/
  | stored (id : String)
  /-- The purge has deleted it. -/
  | purged (id : String)
  deriving DecidableEq

/-- The tables, the time, and what has happened to the coupons, latest first. -/
structure CouponBook where
  coupons : Table smartCouponSchema
  fixtures : List Fixture
  now : Int
  trace : List CouponEvent

/-- What the surroundings decide about one statement. -/
structure CouponInput where
  suggestions : List SmartSuggestion
  /-- The ids drawn for the rows of an insertion; none of them is one that was drawn before. -/
  uuid : Nat → String

/-- The rows of an insertion. -/
def couponRows (coupons : List NewCoupon) (uuid : Nat → String) : List SmartCoupon :=
  coupons.zipIdx.map fun (coupon, k) => { coupon with id := uuid k }

/-- `UPDATE` of the columns that differ from what was loaded.  Only these two are ever changed. -/
def SmartCoupon.updated (loaded coupon row : SmartCoupon) : SmartCoupon :=
  { row with
    status := if loaded.status = coupon.status then row.status else coupon.status
    resolvedAt := if loaded.resolvedAt = coupon.resolvedAt then row.resolvedAt else coupon.resolvedAt }

/-- The pending coupons of these fixtures. -/
def isPendingOf (fixtureIds : List String) (c : SmartCoupon) : Bool :=
  c.status == .pending && fixtureIds.contains c.fixtureId

namespace CouponBook

def note (w : CouponBook) (events : List CouponEvent) : CouponBook :=
  { w with trace := events ++ w.trace }

/-- Rows are inserted, unless the table refuses one of them. -/
def insert? (w : CouponBook) (rows : List SmartCoupon) : Option CouponBook :=
  (Table.ofRows? smartCouponSchema (w.coupons.rows ++ rows)).map fun coupons =>
    { w with coupons }.note (rows.map fun (r : SmartCoupon) => .stored r.id)

/-- `now - 24 h`. -/
def cutoff (w : CouponBook) : Int := w.now - 24 * 60 * 60 * 1000

/-- What a statement answers and does. -/
def serve (i : CallId) : (a : CouponAction) → CouponInput → CouponBook →
    Option (a.Answer × CouponBook)
  | .getAllSuggestions, input, w => some (input.suggestions, w)
  | .deleteRecommendations _, _, w => some ((), w)
  | .saveRecommendations _, _, w => some ((), w)
  | .couponsOf fixtureIds, _, w =>
    some (w.coupons.select fun c => fixtureIds.contains c.fixtureId, w.note [.read i])
  | .insert coupons, input, w =>
    let rows := couponRows coupons input.uuid
    if rows.any fun r => w.trace.contains (.purged r.id) then none
    else (w.insert? rows).map ((), ·)
  | .pending, _, w => some (w.coupons.select (·.status == .pending), w.note [.listed i])
  | .fixtures fixtureIds, _, w =>
    some ((w.fixtures.filter fun f => fixtureIds.contains f.id, w.now), w)
  | .load id, _, w => some (w.coupons.find? (·.id == id), w)
  | .insertEntity coupon, _, w => (w.insert? [coupon]).map ((), ·)
  | .update loaded coupon, _, w =>
    (w.coupons.update? (·.id == coupon.id) (loaded.updated coupon)).map fun coupons =>
      ((), { w with coupons })
  | .staleFixtures, _, w =>
    some ((w.fixtures.filter fun f => f.lastSyncedAt < w.cutoff).map (·.id), w)
  | .deletePending fixtureIds, _, w =>
    some ((), { w with coupons := w.coupons.delete (isPendingOf fixtureIds) }.note
      ((w.coupons.select (isPendingOf fixtureIds)).map fun (c : SmartCoupon) => .purged c.id))

end CouponBook

inductive CouponJob
  | evaluateAndSave
  | resolveSettledCoupons
  | purgeStaleBettingArtifacts
  deriving DecidableEq

/-- Any number of jobs; the fixtures and the time change as they like. -/
def couponService :
    Service CouponAction CouponAction.Answer CallId CouponBook CouponInput CouponJob where
  serve := CouponBook.serve
  program
    | .evaluateAndSave => evaluateAndSave.start
    | .resolveSettledCoupons => resolveSettledCoupons.start
    | .purgeStaleBettingArtifacts => purgeStaleBettingArtifacts.start
  env w w' := ∃ fixtures now, w' = { w with fixtures, now }
  drop _ w := w

end ApiScore
