import ApiScore.Ingestion.EventReplacement
import ApiScore.Lib.Trace

/-!
# All events of a call, or those that were there

A replacement deletes, and inserts in another statement.  Two replacements that both delete before
they insert leave both sets; one that fails between its two statements leaves none.

* `lastOn` — what has been done last to the events of a fixture.
* `eventsUndisturbed` — a call inserts only when nothing that others have inserted since its deletion
  is there.
* `whole_sets` — then the rows of a fixture are one whole set, unless the last thing that has been done
  to them is the deletion of a call that has not inserted its own.
* `mixed_or_emptied` — two calls that mix their sets, and a call that loses the set that was there.
-/

set_option autoImplicit false

namespace ApiScore

open Concurrent
open EventCall (send)
open Trace (since since_append exists_split_since)

/-- What has been done last to the events of the fixture. -/
def lastOn (fixtureId : String) (trace : List EventMark) : Option EventMark :=
  trace.find? (·.fixtureId == fixtureId)

def EventMark.isInserted : EventMark → Bool
  | .inserted _ _ => true
  | .deleted _ _ | .emptied _ _ => false

/-- A call inserts only when nothing that others have inserted since its deletion is there. -/
def eventsUndisturbed (i : CallId) (a : EventAction)
    (_ : EventInput × Option StatementFault) (w : EventStore) : Bool :=
  match a with
  | .insertEvents fixtureId _ =>
    !(lastOn fixtureId (since (.deleted i fixtureId) w.trace)).any (·.isInserted)
  | _ => true

/-! ## What the calls preserve -/

/-- What the rows of a fixture are, by what has been done last to them. -/
def RowsAre (before rows : List FixtureEventRow)
    (sets : List (CallId × String × List FixtureEventRow)) (fixtureId : String) :
    Option EventMark → Prop
  | none => rows = before
  | some (.deleted _ _) => rows = []
  | some (.emptied i _) => rows = [] ∧ (i, fixtureId, []) ∈ sets
  | some (.inserted i _) => (i, fixtureId, rows) ∈ sets

def Tracked (before : String → List FixtureEventRow) (w : EventStore) (f : String) : Prop :=
  RowsAre (before f) (w.events f) w.sets f (lastOn f w.trace)

/-- When a statement is sent: a call inserts what it has deleted for. -/
def EventReady (i : CallId) : EventAction → EventStore → Prop
  | .insertEvents fixtureId _, w => .deleted i fixtureId ∈ w.trace
  | _, _ => True

/-- What a call relies on: what has been done stays noted. -/
def EventBeside (w w' : EventStore) : Prop := ∀ mark ∈ w.trace, mark ∈ w'.trace

def replacing (before : String → List FixtureEventRow) : Contract EventAction CallId EventStore where
  inv w := ∀ fixtureId, Tracked before w fixtureId
  pre := EventReady
  guar _ := EventBeside
  rely _ := EventBeside
  fresh _ _ := True
  refl _ _ _ h := h
  trans _ _ _ _ h h' mark hmark := h' mark (h mark hmark)

section Statements

variable {before : String → List FixtureEventRow} {number : JsValue → JsNumber}
  {text : JsValue → String} {i : CallId} {w w' : EventStore} {f g : String} {mark : EventMark}
  {rows : List FixtureEventRow}

theorem lastOn_cons_self (trace : List EventMark) (h : mark.fixtureId = f) :
    lastOn f (mark :: trace) = some mark := by
  simp [lastOn, h]

theorem lastOn_cons_of_ne (trace : List EventMark) (h : mark.fixtureId ≠ f) :
    lastOn f (mark :: trace) = lastOn f trace := by
  simp [lastOn, h]

/-- What has been done last is in what has been done since, unless nothing has. -/
theorem lastOn_append (newer older : List EventMark) :
    lastOn f (newer ++ older) = (lastOn f newer).or (lastOn f older) :=
  List.find?_append

/-- **Nothing has been inserted since the deletion: the fixture has no events.** -/
theorem events_eq_nil (h : Tracked before w f) (hdeleted : .deleted i f ∈ w.trace)
    (hnone : (lastOn f (since (.deleted i f) w.trace)).any (·.isInserted) = false) :
    w.events f = [] := by
  obtain ⟨older, hsplit⟩ := exists_split_since hdeleted
  have hlast : lastOn f w.trace =
      (lastOn f (since (.deleted i f) w.trace)).or (some (.deleted i f)) := by
    have hown : lastOn f (.deleted i f :: older) = some (.deleted i f) :=
      lastOn_cons_self older rfl
    conv_lhs => rw [hsplit, lastOn_append, hown]
  rw [Tracked, hlast] at h
  cases hsince : lastOn f (since (.deleted i f) w.trace) with
  | none =>
    rw [hsince] at h
    exact h
  | some mark =>
    rw [hsince] at h hnone
    cases mark with
    | deleted j g => exact h
    | emptied j g => exact h.1
    | inserted j g => cases hnone

/-- What is done to another fixture. -/
theorem Tracked.put_of_ne (h : Tracked before w f) (hmark : mark.fixtureId = g) (hf : f ≠ g) :
    Tracked before (w.put g rows mark) f := by
  have hlast : lastOn f (w.put g rows mark).trace = lastOn f w.trace :=
    lastOn_cons_of_ne _ (hmark ▸ hf.symm)
  have hevents : (w.put g rows mark).events f = w.events f := Function.update_of_ne hf ..
  rw [Tracked, hlast, hevents]
  exact h

/-- What is done to the fixture itself. -/
theorem tracked_put (hmark : mark.fixtureId = f)
    (h : RowsAre (before f) rows w.sets f (some mark)) : Tracked before (w.put f rows mark) f := by
  have hlast : lastOn f (w.put f rows mark).trace = some mark := lastOn_cons_self _ hmark
  have hevents : (w.put f rows mark).events f = rows := Function.update_self ..
  rw [Tracked, hlast, hevents]
  exact h

/-- A set more leaves what is there. -/
theorem Tracked.whole (h : Tracked before w f) : Tracked before (w.whole i g rows) f := by
  rw [Tracked] at h ⊢
  simp only [EventStore.whole]
  cases hlast : lastOn f w.trace with
  | none => rwa [hlast] at h
  | some mark =>
    rw [hlast] at h
    cases mark with
    | deleted j g => exact h
    | emptied j g => exact ⟨h.1, List.mem_cons_of_mem _ h.2⟩
    | inserted j g => exact List.mem_cons_of_mem _ h

/-- A deletion. -/
theorem tracked_delete (hinv : ∀ f, Tracked before w f) (f : String) :
    Tracked before (if rows.isEmpty then (w.whole i g []).put g [] (.emptied i g)
      else w.put g [] (.deleted i g)) f := by
  by_cases hf : f = g
  · subst hf
    split_ifs
    · exact tracked_put rfl ⟨rfl, List.mem_cons_self⟩
    · exact tracked_put rfl rfl
  · split_ifs
    · exact (hinv f).whole.put_of_ne rfl hf
    · exact (hinv f).put_of_ne rfl hf

/-- An insertion where there is nothing. -/
theorem tracked_insert (hinv : ∀ f, Tracked before w f) (hnone : w.events g = []) (f : String) :
    Tracked before ((w.whole i g rows).put g (w.events g ++ rows) (.inserted i g)) f := by
  by_cases hf : f = g
  · subst hf
    rw [hnone, List.nil_append]
    exact tracked_put rfl List.mem_cons_self
  · exact (hinv f).whole.put_of_ne rfl hf

/-- **A statement that is not disturbed keeps the rows of a fixture one whole set.** -/
theorem serve_tracked {a : EventAction} {x : a.Answer} {input : EventInput × Option StatementFault}
    (hinv : ∀ f, Tracked before w f) (hpre : EventReady i a w)
    (hallow : eventsUndisturbed i a input w = true)
    (h : (eventService number text).serve i a input.1 w = some (x, w')) :
    (∀ f, Tracked before w' f) ∧ EventBeside w w' := by
  cases a with
  | findFixture | fetchApiSportsDetails | deleteSnapshots | insertSnapshots =>
    obtain rfl : w = w' := congrArg Prod.snd (Option.some.inj h)
    exact ⟨hinv, fun _ h => h⟩
  | upsertFixture providerFixtureId payload =>
    obtain rfl : w.upsert providerFixtureId input.1.uuid = w' :=
      congrArg Prod.snd (Option.some.inj h)
    rw [EventStore.upsert]
    split_ifs
    · exact ⟨hinv, fun _ h => h⟩
    · exact ⟨hinv, fun _ h => h⟩
  | deleteEvents g rows =>
    obtain rfl := congrArg Prod.snd (Option.some.inj h)
    refine ⟨tracked_delete hinv, fun mark hmark => ?_⟩
    split_ifs
    · exact List.mem_cons_of_mem _ hmark
    · exact List.mem_cons_of_mem _ hmark
  | insertEvents g rows =>
    simp only [eventService, EventStore.serve] at h
    split_ifs at h
    obtain rfl := congrArg Prod.snd (Option.some.inj h)
    have hnone : w.events g = [] := by
      refine events_eq_nil (hinv g) hpre ?_
      simpa only [eventsUndisturbed, Bool.not_eq_true'] using hallow
    exact ⟨tracked_insert hinv hnone, fun mark hmark => List.mem_cons_of_mem _ hmark⟩

end Statements

/-! ## The calls -/

section Calls

variable {before : String → List FixtureEventRow} {number : JsValue → JsNumber}
  {text : JsValue → String} {i : CallId} {w : EventStore}

/-- The calls, as far as they are not disturbed. -/
abbrev undisturbedReplacements (number : JsValue → JsNumber) (text : JsValue → String) :
    System EventAction (Reply EventAction.Answer) CallId EventStore :=
  ((eventService number text).machine eventsUndisturbed).system

/-- A deletion is noted, by a call that has rows to insert. -/
theorem deleted_mem {fixtureId : String} {rows : List FixtureEventRow} {input : EventInput} {u : Unit}
    {w' : EventStore} (hrows : ¬ rows.isEmpty = true)
    (h : (eventService number text).serve i (.deleteEvents fixtureId rows) input w = some (u, w')) :
    .deleted i fixtureId ∈ w'.trace := by
  obtain rfl := congrArg Prod.snd (Option.some.inj h)
  rw [if_neg hrows]
  exact List.mem_cons_self

theorem replaceEvents_spec (fixtureId : String) (rows : List FixtureEventRow) :
    Spec (undisturbedReplacements number text) (replacing before) i (fun _ _ => True)
      (replaceEvents fixtureId rows) w := by
  rw [replaceEvents]
  refine Spec.stmt fun w₁ _ _ => ⟨trivial, fun input _ w₂ _ hserve _ _ => ?_⟩
  split_ifs with hrows
  · exact Spec.pure fun _ _ _ => trivial
  refine Spec.stmt_last fun w₃ hb _ => ⟨?_, fun _ _ _ _ _ _ _ _ _ _ => trivial⟩
  exact hb _ (deleted_mem hrows hserve)

theorem matchDetails_spec (provider : FootballProvider) (payload : JsValue) (fixtureId : String) :
    Spec (undisturbedReplacements number text) (replacing before) i (fun _ _ => True)
      (matchDetails number provider payload fixtureId) w := by
  cases provider with
  | apifootball => exact Spec.pure fun _ _ _ => trivial
  | apiSports =>
    refine Spec.stmt fun w₁ _ _ => ⟨trivial, fun _ _ w₂ _ _ _ _ => ?_⟩
    exact Spec.pure fun _ _ _ => trivial

theorem persistMatch_spec (provider : FootballProvider) (payload : JsValue) :
    Spec (undisturbedReplacements number text) (replacing before) i (fun _ _ => True)
      (persistMatch number text provider payload) w := by
  rw [persistMatch]
  cases payloadFixtureId text payload with
  | none => exact Spec.pure fun _ _ _ => trivial
  | some providerFixtureId =>
    refine Spec.stmt fun w₁ _ _ => ⟨trivial, fun _ _ w₂ _ _ _ _ => ?_⟩
    refine Spec.stmt fun w₃ _ _ => ⟨trivial, fun _ found w₄ _ _ hinv₄ _ => ?_⟩
    cases found with
    | none => exact Spec.pure fun _ _ _ => trivial
    | some fixtureId =>
      refine Spec.bind (matchDetails_spec provider payload fixtureId) hinv₄ fun details w₅ _ _ => ?_
      refine Spec.stmt fun w₆ _ _ => ⟨trivial, fun _ _ w₇ _ _ _ _ => ?_⟩
      split_ifs
      · refine Spec.stmt fun w₈ _ _ => ⟨trivial, fun _ _ w₉ _ _ _ _ => ?_⟩
        exact replaceEvents_spec fixtureId details.eventRows
      · exact replaceEvents_spec fixtureId details.eventRows

theorem EventJob.safe (job : EventJob) (hinv : ∀ f, Tracked before w f) :
    Safe (undisturbedReplacements number text) (replacing before) i (fun _ _ => True)
      ((eventService number text).program job) w := by
  cases job with
  | replaceFixtureEvents fixtureId events =>
    exact StatementCall.start_safe (replaceEvents_spec fixtureId _) hinv
  | persistMatch provider payload =>
    exact StatementCall.start_safe (persistMatch_spec provider payload) hinv

end Calls

theorem replacing_discipline (before : String → List FixtureEventRow)
    (number : JsValue → JsNumber) (text : JsValue → String) :
    Discipline (undisturbedReplacements number text) (replacing before) where
  entry i p w hp hinv _ := by
    obtain ⟨job, rfl⟩ := hp
    exact job.safe hinv
  step i a b w w' hinv hpre hs := by
    obtain ⟨input, hallow, hserved⟩ := Service.step_cases hs
    rcases hserved.moved with rfl | ⟨x, hserve⟩
    · exact ⟨hinv, fun _ h => h⟩
    · exact serve_tracked hinv hpre hallow hserve
  compatible _ _ _ _ _ h := h
  fresh _ _ _ _ h := h
  env w w' h hinv := by
    obtain ⟨fixtures, rfl⟩ := h
    exact ⟨hinv, fun _ _ h => h⟩
  drop i w hinv := ⟨hinv, fun _ _ _ h => h⟩

/-- The rows of the fixture are those that were there, or the whole set of one call. -/
def WholeSet (before : String → List FixtureEventRow) (w : EventStore) (fixtureId : String) : Prop :=
  w.events fixtureId = before fixtureId ∨ ∃ i, (i, fixtureId, w.events fixtureId) ∈ w.sets

/-- **The rows of a fixture are one whole set**, in every run in which a call inserts only when
nothing that others have inserted since its deletion is there, and wherever the last thing that has
been done to the rows is not the deletion of a call that has not inserted its own. -/
theorem whole_sets (number : JsValue → JsNumber) (text : JsValue → String)
    {fixtures : List (String × String)} {before : String → List FixtureEventRow}
    {c : Config EventAction (Reply EventAction.Answer) CallId EventStore}
    (h : Reachable ((eventService number text).machine eventsUndisturbed).system
      (.init (.init fixtures before)) c) (fixtureId : String)
    (hlast : ∀ i, lastOn fixtureId c.state.trace ≠ some (.deleted i fixtureId)) :
    WholeSet before c.state fixtureId := by
  have hinit : ∀ f, Tracked before (.init fixtures before) f := fun _ => rfl
  have htracked : Tracked before c.state fixtureId :=
    ((replacing_discipline before number text).reachable hinit (fun _ => trivial) h).1 fixtureId
  rw [Tracked] at htracked
  cases hmark : lastOn fixtureId c.state.trace with
  | none =>
    rw [hmark] at htracked
    exact .inl htracked
  | some mark =>
    rw [hmark] at htracked
    have hof : mark.fixtureId = fixtureId := by simpa using List.find?_some hmark
    cases mark with
    | deleted i g =>
      obtain rfl : g = fixtureId := hof
      exact (hlast i hmark).elim
    | emptied i g =>
      refine .inr ⟨i, ?_⟩
      rw [htracked.1]
      exact htracked.2
    | inserted i g => exact .inr ⟨i, htracked⟩

namespace Sample

/-- A goal as the live synchronisation reads it. -/
def liveGoal : JsValue := .obj [("type", .str "Goal"), ("minute", .str "23")]

/-- A match with one goal as the import reads it. -/
def importedMatch : JsValue :=
  .obj [("match_id", .str "10"), ("goalscorer", .arr [.obj [("time", .str "23"),
    ("home_scorer", .str "A. Striker"), ("home_scorer_id", .str "7")]])]

def textOf (value : JsValue) : String := value.text?.getD ""

/-- The calls on the fixture `f`, as far as `allow` lets their statements happen. -/
def replacements (allow : CallId → EventAction → EventInput × Option StatementFault → EventStore →
    Bool) : Machine EventAction (Reply EventAction.Answer) CallId EventStore
      (EventInput × Option StatementFault) EventJob :=
  (eventService numberOfText textOf).machine allow

/-- The store before the calls, with these rows. -/
def storeOf (rows : List FixtureEventRow) : EventStore := .init [("10", "f")] fun _ => rows

def asks (i : CallId) (fault : Option StatementFault) :
    Pick CallId (EventInput × Option StatementFault) EventJob :=
  .act i (⟨"", ⟨[], [], []⟩⟩, fault)

/-- The live call, whose insertion ends in this way. -/
def liveCall (i : CallId) (fault : Option StatementFault) :
    List (Pick CallId (EventInput × Option StatementFault) EventJob) :=
  [.start i (.replaceFixtureEvents "f" [liveGoal]), asks i none, asks i fault]

/-- An import that has deleted, the live call, and the insertion of the import. -/
def mixed : List (Pick CallId (EventInput × Option StatementFault) EventJob) :=
  .start 0 (.persistMatch .apifootball importedMatch) :: List.replicate 4 (asks 0 none) ++
    liveCall 1 none ++ [asks 0 none]

end Sample

/-- A call that is not disturbed leaves its own set. -/
theorem whole_sets_of_one : ∃ c, (Sample.replacements eventsUndisturbed).replay
      (Sample.liveCall 0 none) (.init (Sample.storeOf [])) = some c ∧
    (c.state.events "f").length = 1 ∧ WholeSet (fun _ => []) c.state "f" := by
  have hreplay : ((Sample.replacements eventsUndisturbed).replay (Sample.liveCall 0 none)
      (.init (Sample.storeOf []))).map
        (fun c => ((c.state.events "f").length, lastOn "f" c.state.trace)) =
          some (1, some (.inserted 0 "f")) := by
    decide +kernel
  obtain ⟨c, hc, hstate⟩ := Option.map_eq_some_iff.1 hreplay
  obtain ⟨hlength, hlast⟩ := Prod.mk.inj hstate
  refine ⟨c, hc, hlength, whole_sets Sample.numberOfText Sample.textOf
    (Machine.replay_reachable .init hc) "f" fun i hi => ?_⟩
  rw [hlast] at hi
  cases hi

/-- **Two calls leave the goals of both, although no statement fails; and one call alone, whose
insertion fails, leaves none**, when all calls are over. -/
theorem mixed_or_emptied :
    (¬ ∀ (number : JsValue → JsNumber) (text : JsValue → String) (fixtures : List (String × String))
        (before : String → List FixtureEventRow) c,
      Reachable ((eventService number text).machine fun _ _ input _ => input.2.isNone).system
        (.init (.init fixtures before)) c → c.Quiet → ∀ f, WholeSet before c.state f) ∧
    ¬ ∀ (number : JsValue → JsNumber) (text : JsValue → String) (fixtures : List (String × String))
        (before : String → List FixtureEventRow) c,
      Reachable ((eventService number text).machine fun i _ _ _ => i == 0).system
        (.init (.init fixtures before)) c → c.Quiet → ∀ f, WholeSet before c.state f := by
  constructor
  · intro hall
    have hreplay : ((Sample.replacements fun _ _ input _ => input.2.isNone).replay Sample.mixed
        (.init (Sample.storeOf []))).map (fun c => ((c.state.events "f").length,
          c.state.sets.map (·.2.2.length), (Sample.mixed.map (·.call)).all c.isOver)) =
            some (2, [1, 1], true) := by
      decide +kernel
    obtain ⟨c, hc, hstate⟩ := Option.map_eq_some_iff.1 hreplay
    obtain ⟨hlength, hrest⟩ := Prod.mk.inj hstate
    obtain ⟨hsets, hover⟩ := Prod.mk.inj hrest
    rcases hall _ _ _ _ c (Machine.replay_reachable .init hc) (Machine.replay_quiet hc hover) "f" with
      hbefore | ⟨i, hset⟩
    · rw [hbefore] at hlength
      cases hlength
    · have hone : (c.state.events "f").length ∈ c.state.sets.map (·.2.2.length) :=
        List.mem_map.2 ⟨_, hset, rfl⟩
      rw [hsets, hlength] at hone
      exact absurd hone (by decide)
  · intro hall
    have hreplay : ((Sample.replacements fun i _ _ _ => i == 0).replay
        (Sample.liveCall 0 (some .refused)) (.init (Sample.storeOf [replacedRow
          Sample.numberOfText Sample.liveGoal]))).map (fun c => ((c.state.events "f").length,
            c.state.sets.length, ((Sample.liveCall 0 (some .refused)).map (·.call)).all c.isOver)) =
              some (0, 0, true) := by
      decide +kernel
    obtain ⟨c, hc, hstate⟩ := Option.map_eq_some_iff.1 hreplay
    obtain ⟨hlength, hrest⟩ := Prod.mk.inj hstate
    obtain ⟨hsets, hover⟩ := Prod.mk.inj hrest
    rcases hall _ _ _ _ c (Machine.replay_reachable .init hc) (Machine.replay_quiet hc hover) "f" with
      hbefore | ⟨i, hset⟩
    · rw [hbefore] at hlength
      cases hlength
    · rw [List.length_eq_zero_iff.1 hsets] at hset
      cases hset

end ApiScore
