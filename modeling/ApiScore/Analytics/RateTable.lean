import ApiScore.Analytics.BaseRates
import ApiScore.Lib.Alone
import ApiScore.Lib.Table
import ApiScore.Rules.LiveSignals

/-!
# The table of base rates

`base-rates.service.ts`: for every league and season, the rates are computed of what is read of its
matches, the old ones deleted, and the new ones inserted, with no transaction around it.  Any number
of calls may do so at once, fail, or die in the middle, while the matches change.

* `recomputeLeagueSeason`, `recomputeAll` — the calls, as programs.
* `rateSystem` — what any number of them do to the table.
* `rates_whole` — the rates of a league, season, market and signal are those of one computation.
-/

set_option autoImplicit false

namespace ApiScore

open Relational Concurrent

/-! ## What is stored -/

/-- A value of a column `int`. -/
def JsNumber.isInt32 : JsNumber → Bool
  | .num q => decide (q.den = 1 ∧ -2 ^ 31 ≤ q.num ∧ q.num < 2 ^ 31)
  | _ => false

/-- The unique key of `base_rates`, and its columns. -/
def rateSchema : Schema ComputedBaseRate where
  clash := ComputedBaseRate.sameKey
  symm a b := by
    rw [Bool.eq_iff_iff, ComputedBaseRate.sameKey_iff, ComputedBaseRate.sameKey_iff]
    constructor <;> exact fun ⟨hl, hs, hm, hsignal, ht⟩ =>
      ⟨hl.symm, hs.symm, hm.symm, hsignal.symm, ht.symm⟩
  check r := r.leagueId.isInt32 && r.season.isInt32 && (JsNumber.int r.threshold).isInt32 &&
    (JsNumber.int r.sampleSize).isInt32

/-- A row of `fixture_stats_snapshots`, as the calculator reads it. -/
structure StoredSnapshot where
  fixtureId : String
  row : SnapshotRow

/-- A row of `fixture_events`. -/
structure StoredEvent where
  fixtureId : String
  eventType : Option String
  row : GoalRow

/-- The matches, and what is known of them. -/
structure StoredMatches where
  fixtures : List Fixture
  snapshots : List StoredSnapshot
  events : List StoredEvent

/-! ## The calls -/

inductive RateQuery
  | pairs
  | fixturesOf (leagueId season : Int)
  | snapshotsOf (fixtureIds : List String)
  | goalsOf (fixtureIds : List String)
  | delete (leagueId season : Int)
  | insert (rates : List ComputedBaseRate)

abbrev RateQuery.Result : RateQuery → Type
  | .pairs => List (Int × Int)
  | .fixturesOf _ _ => List Fixture
  | .snapshotsOf _ => List StoredSnapshot
  | .goalsOf _ => List StoredEvent
  | .delete _ _ | .insert _ => Unit

inductive RateAction
  | statement (q : RateQuery)
  /-- Which of two reads that were started together is served first. -/
  | order

abbrev RateAction.Result : RateAction → Type
  | .statement q => Except String q.Result
  | .order => Bool

abbrev RateCall (α : Type) : Type := Async RateAction RateAction.Result String α

namespace RateCall

def perform (a : RateAction) : RateCall a.Result := ExceptT.lift (Prog.perform a)

def statement (q : RateQuery) : RateCall q.Result := do
  match ← perform (.statement q) with
  | .ok r => return r
  | .error e => throw e

/-- `Promise.all` of two reads. -/
def both {α β : Type} (a : RateCall α) (b : RateCall β) : RateCall (α × β) := do
  if ← perform .order then
    let x ← a
    let y ← b
    return (x, y)
  else
    let y ← b
    let x ← a
    return (x, y)

end RateCall

open RateCall (statement)

def Fixture.rateRow (fixture : Fixture) : FixtureRow where
  leagueId := fixture.leagueId.map .int
  season := fixture.season.map .int
  homeTeamId := fixture.homeTeamId.map .int
  awayTeamId := fixture.awayTeamId.map .int

/-- What was read of the matches of a league and season. -/
structure RateReads where
  fixtures : List Fixture
  snapshots : List StoredSnapshot
  goals : List StoredEvent

/-- `DEFAULT_MIN_SAMPLE`. -/
def defaultMinSample : Nat := 20

section Calls

variable (number : JsValue → JsNumber) (numberText : JsNumber → String)

/-- The observations of the matches, each with the snapshots and the goals that are grouped under it. -/
def RateReads.observations (reads : RateReads) : List TeamMatchObservation :=
  reads.fixtures.flatMap fun f => buildObservations number f.rateRow
    ((reads.snapshots.filter (·.fixtureId == f.id)).map (·.row))
    ((reads.goals.filter (·.fixtureId == f.id)).map (·.row))

def RateReads.rates (reads : RateReads) (minSample : Nat) : List ComputedBaseRate :=
  computeBaseRates numberText defaultThresholds minSample (reads.observations number)

def recomputeLeagueSeason (leagueId season : Int) (minSample : Nat) : RateCall (Nat × Nat) := do
  let fixtures ← statement (.fixturesOf leagueId season)
  if fixtures = [] then return (0, 0)
  else do
    let fixtureIds := fixtures.map (·.id)
    let (snapshots, goals) ←
      RateCall.both (statement (.snapshotsOf fixtureIds)) (statement (.goalsOf fixtureIds))
    let reads : RateReads := ⟨fixtures, snapshots, goals⟩
    let rates := reads.rates number numberText minSample
    statement (.delete leagueId season)
    if rates = [] then return ((reads.observations number).length, 0)
    else do
      statement (.insert rates)
      return ((reads.observations number).length, rates.length)

/-- The pairs, one after the other. -/
def recomputePairs (minSample : Nat) : List (Int × Int) → RateCall (Nat × Nat)
  | [] => return (0, 0)
  | (leagueId, season) :: pairs => do
    let result ← recomputeLeagueSeason number numberText leagueId season minSample
    let rest ← recomputePairs minSample pairs
    return (result.1 + rest.1, result.2 + rest.2)

structure RecomputeResult where
  leagueSeasonPairs : Nat
  observations : Nat
  ratesUpserted : Nat

def recomputeAll (minSample : Nat) : RateCall RecomputeResult := do
  let pairs ← statement .pairs
  let result ← recomputePairs number numberText minSample pairs
  return ⟨pairs.length, result.1, result.2⟩

end Calls

/-! ## What any number of them do -/

/-- A statement that was served, to the call and with the answer. -/
structure Served where
  call : Nat
  query : RateQuery
  answer : query.Result

structure RateWorld where
  history : StoredMatches
  rates : Table rateSchema
  /-- Latest first. -/
  trace : List Served

/-- The rates of a league and season. -/
def ComputedBaseRate.ofPair (leagueId season : Int) (r : ComputedBaseRate) : Bool :=
  decide (r.leagueId = .int leagueId ∧ r.season = .int season)

/-- What the database may answer, in whatever order it lists the rows, and the table afterwards. -/
inductive RateQuery.Serves (history : StoredMatches) (rates : Table rateSchema) :
    (q : RateQuery) → q.Result → Table rateSchema → Prop
  | pairs {r : List (Int × Int)} (hnodup : r.Nodup)
      (hmem : ∀ p, p ∈ r ↔ ∃ f ∈ history.fixtures, f.leagueId = some p.1 ∧ f.season = some p.2) :
      Serves history rates .pairs r rates
  | fixturesOf {leagueId season : Int} {r : List Fixture} (hperm : r.Perm (history.fixtures.filter
      fun f => decide (f.leagueId = some leagueId ∧ f.season = some season))) :
      Serves history rates (.fixturesOf leagueId season) r rates
  | snapshotsOf {ids : List String} {r : List StoredSnapshot}
      (hperm : r.Perm (history.snapshots.filter fun s => ids.contains s.fixtureId)) :
      Serves history rates (.snapshotsOf ids) r rates
  | goalsOf {ids : List String} {r : List StoredEvent} (hperm : r.Perm (history.events.filter
      fun e => ids.contains e.fixtureId && e.eventType == some "Goal")) :
      Serves history rates (.goalsOf ids) r rates
  | delete {leagueId season : Int} :
      Serves history rates (.delete leagueId season) () (rates.delete (·.ofPair leagueId season))
  | insert {rows : List ComputedBaseRate} {t : Table rateSchema}
      (hrows : Table.ofRows? rateSchema (rates.rows ++ rows) = some t) :
      Serves history rates (.insert rows) () t

/-- What one action does: a statement may also fail, with or without having been served. -/
inductive RateStep (i : Nat) : (a : RateAction) → RateWorld → a.Result → RateWorld → Prop
  | served {q : RateQuery} {w : RateWorld} {r : q.Result} {t : Table rateSchema}
      (h : q.Serves w.history w.rates r t) :
      RateStep i (.statement q) w (.ok r) { w with rates := t, trace := ⟨i, q, r⟩ :: w.trace }
  | unacknowledged {q : RateQuery} {w : RateWorld} {r : q.Result} {t : Table rateSchema}
      (h : q.Serves w.history w.rates r t) (e : String) :
      RateStep i (.statement q) w (.error e) { w with rates := t, trace := ⟨i, q, r⟩ :: w.trace }
  | failed {q : RateQuery} {w : RateWorld} (e : String) : RateStep i (.statement q) w (.error e) w
  | ordered {w : RateWorld} (b : Bool) : RateStep i .order w b w

/-- Calls of `recomputeAll`, while the matches change as `changes` says. -/
def rateSystem (number : JsValue → JsNumber) (numberText : JsNumber → String)
    (changes : StoredMatches → StoredMatches → Prop) :
    System RateAction RateAction.Result Nat RateWorld where
  step := RateStep
  entry p := ∃ minSample, 0 < minSample ∧
    p = (recomputeAll number numberText minSample).run >>= fun _ => .ret ()
  env w w' := ∃ history, changes w.history history ∧ w' = { w with history }
  drop _ w := w

/-! ## What is in the table -/

/-- What was inserted since the rates of a league and season were last deleted, oldest first. -/
def standing (leagueId season : Int) : List Served → List (List ComputedBaseRate)
  | [] => []
  | ⟨_, .delete leagueId' season', _⟩ :: trace =>
    if leagueId' = leagueId ∧ season' = season then [] else standing leagueId season trace
  | ⟨_, .insert rows, _⟩ :: trace => standing leagueId season trace ++ [rows]
  | _ :: trace => standing leagueId season trace

section

variable (number : JsValue → JsNumber) (numberText : JsNumber → String)

/-- The rates of what call `i` has read of the matches of a league and season. -/
def Computed (i : Nat) (rows : List ComputedBaseRate) (trace : List Served) : Prop :=
  ∃ (leagueId season : Int) (reads : RateReads) (minSample : Nat), 0 < minSample ∧
    rows = reads.rates number numberText minSample ∧
      ⟨i, .fixturesOf leagueId season, reads.fixtures⟩ ∈ trace ∧
        ⟨i, .snapshotsOf (reads.fixtures.map (·.id)), reads.snapshots⟩ ∈ trace ∧
          ⟨i, .goalsOf (reads.fixtures.map (·.id)), reads.goals⟩ ∈ trace

/-- What every run keeps. -/
structure RatesSound (w : RateWorld) : Prop where
  rows : ∀ leagueId season, w.rates.rows.filter (·.ofPair leagueId season) =
    (standing leagueId season w.trace).flatMap (·.filter (·.ofPair leagueId season))
  computed : ∀ i rows, ⟨i, .insert rows, ()⟩ ∈ w.trace → Computed number numberText i rows w.trace
  fixtures : ∀ i leagueId season r, ⟨i, .fixturesOf leagueId season, r⟩ ∈ w.trace →
    ∀ f ∈ r, f.leagueId = some leagueId ∧ f.season = some season

end

section

variable {number : JsValue → JsNumber} {numberText : JsNumber → String}
  {changes : StoredMatches → StoredMatches → Prop} {i : Nat} {w w' : RateWorld}
  {leagueId season leagueId' season' : Int} {r : ComputedBaseRate}

theorem Computed.later {rows : List ComputedBaseRate} {trace trace' : List Served}
    (h : Computed number numberText i rows trace) (ht : trace <:+ trace') :
    Computed number numberText i rows trace' := by
  obtain ⟨l, s, reads, minSample, hmin, hrows, hf, hs, hg⟩ := h
  exact ⟨l, s, reads, minSample, hmin, hrows, ht.subset hf, ht.subset hs, ht.subset hg⟩

theorem ofPair_iff : r.ofPair leagueId season = true ↔
    r.leagueId = .int leagueId ∧ r.season = .int season := decide_eq_true_iff

/-- A row is of one league and season at most. -/
theorem ofPair_unique (h : r.ofPair leagueId season = true) (h' : r.ofPair leagueId' season' = true) :
    leagueId = leagueId' ∧ season = season' := by
  rw [ofPair_iff] at h h'
  rw [h.1, h.2] at h'
  simpa [JsNumber.int] using h'

/-- What one statement does to the rates of a league and season. -/
theorem RatesSound.rows_served {q : RateQuery} {a : q.Result} {t : Table rateSchema}
    (h : RatesSound number numberText w) (hs : q.Serves w.history w.rates a t) :
    t.rows.filter (·.ofPair leagueId season) =
      (standing leagueId season (⟨i, q, a⟩ :: w.trace)).flatMap
        (·.filter (·.ofPair leagueId season)) := by
  cases hs with
  | pairs | fixturesOf | snapshotsOf | goalsOf => exact h.rows leagueId season
  | @delete leagueId' season' =>
    rw [Table.delete, List.filter_filter, standing]
    by_cases hpair : leagueId' = leagueId ∧ season' = season
    · obtain ⟨rfl, rfl⟩ := hpair
      rw [if_pos ⟨rfl, rfl⟩, List.flatMap_nil, List.filter_eq_nil_iff]
      intro r _
      simp
    · rw [if_neg hpair, ← h.rows leagueId season]
      refine List.filter_congr fun r _ => ?_
      cases hr : r.ofPair leagueId season with
      | false => rfl
      | true =>
        cases hr' : r.ofPair leagueId' season' with
        | false => rfl
        | true => exact absurd (ofPair_unique hr' hr) hpair
  | insert hrows =>
    rw [Table.ofRows?_eq_some hrows, List.filter_append, h.rows leagueId season, standing,
      List.flatMap_append, List.flatMap_singleton]

/-- **A statement that is served keeps what every run keeps.** -/
theorem RatesSound.served {q : RateQuery} {a : q.Result} {t : Table rateSchema}
    (h : RatesSound number numberText w)
    (hpre : ∀ rows, q = .insert rows → Computed number numberText i rows w.trace)
    (hs : q.Serves w.history w.rates a t) :
    RatesSound number numberText { w with rates := t, trace := ⟨i, q, a⟩ :: w.trace } where
  rows _ _ := h.rows_served hs
  computed j rows hmem := by
    refine Computed.later ?_ (List.suffix_cons _ _)
    rcases List.mem_cons.1 hmem with heq | hmem
    · cases heq
      exact hpre rows rfl
    · exact h.computed j rows hmem
  fixtures j l s r hmem f hf := by
    rcases List.mem_cons.1 hmem with heq | hmem
    · cases heq
      cases hs with
      | fixturesOf hperm =>
        exact of_decide_eq_true (List.mem_filter.1 (hperm.mem_iff.1 hf)).2
    · exact h.fixtures j l s r hmem f hf

/-! ## The discipline -/

/-- A call inserts only what it has computed. -/
def rateContract (number : JsValue → JsNumber) (numberText : JsNumber → String) :
    Contract RateAction Nat RateWorld where
  inv := RatesSound number numberText
  pre i a w := ∀ rows, a = .statement (.insert rows) → Computed number numberText i rows w.trace
  guar _ w w' := w.trace <:+ w'.trace
  rely _ w w' := w.trace <:+ w'.trace
  fresh _ _ := True
  refl _ _ := List.suffix_refl _
  trans _ _ _ _ h h' := h.trans h'

/-- One action, which inserts only what has been computed. -/
theorem RateStep.sound {a : RateAction} {b : a.Result} (h : RatesSound number numberText w)
    (hpre : (rateContract number numberText).pre i a w) (hs : RateStep i a w b w') :
    RatesSound number numberText w' ∧ w.trace <:+ w'.trace := by
  cases hs with
  | served hserves =>
    exact ⟨h.served (fun rows hq => hpre rows (by rw [hq])) hserves, List.suffix_cons _ _⟩
  | unacknowledged hserves =>
    exact ⟨h.served (fun rows hq => hpre rows (by rw [hq])) hserves, List.suffix_cons _ _⟩
  | failed | ordered => exact ⟨h, List.suffix_refl _⟩

/-- The promise of a call about its result. -/
abbrev RateSpec (changes : StoredMatches → StoredMatches → Prop) (number : JsValue → JsNumber)
    (numberText : JsNumber → String) (i : Nat) {α : Type} (Q : α → List Served → Prop)
    (p : RateCall α) (w : RateWorld) : Prop :=
  Spec (rateSystem number numberText changes) (rateContract number numberText) i
    (fun x w => Q x w.trace) p w

theorem statement_spec {q : RateQuery} {Q : q.Result → List Served → Prop}
    (hpre : ∀ rows, q = .insert rows → Computed number numberText i rows w.trace)
    (hQ : ∀ r trace, w.trace <:+ trace → ⟨i, q, r⟩ ∈ trace → Q r trace) :
    RateSpec changes number numberText i Q (statement q) w := by
  refine Spec.act fun w₁ hr hi => ⟨fun rows hq => ?_, fun b w₂ hs h₂ hg => ?_⟩
  · exact (hpre rows (by cases hq; rfl)).later hr
  · cases b with
    | error e => exact Spec.throw
    | ok r =>
      cases hs with
      | served hserves =>
        refine Spec.pure fun w₃ hr₃ _ => hQ r _ (hr.trans (hg.trans hr₃)) (hr₃.subset ?_)
        exact List.mem_cons_self

/-- Two reads started together, in either order. -/
theorem both_spec {q q' : RateQuery} (hq : ∀ rows, q ≠ .insert rows)
    (hq' : ∀ rows, q' ≠ .insert rows) :
    RateSpec changes number numberText i (fun x trace => w.trace <:+ trace ∧
      ⟨i, q, x.1⟩ ∈ trace ∧ ⟨i, q', x.2⟩ ∈ trace) (RateCall.both (statement q) (statement q')) w := by
  refine Spec.act fun w₁ hr hi => ⟨fun rows hrows => (by cases hrows), fun b w₂ hs h₂ hg => ?_⟩
  have hstart : w.trace <:+ w₂.trace := hr.trans hg
  have hboth : ∀ {q q' : RateQuery} {β : Type} {f : q.Result → q'.Result → β},
      (∀ rows, q ≠ .insert rows) → (∀ rows, q' ≠ .insert rows) →
      RateSpec changes number numberText i (fun y trace => ∃ x x', y = f x x' ∧ w.trace <:+ trace ∧
        ⟨i, q, x⟩ ∈ trace ∧ ⟨i, q', x'⟩ ∈ trace)
        (do let x ← statement q; let x' ← statement q'; return f x x') w₂ := by
    intro q q' β f hq hq'
    refine Spec.bind (statement_spec (Q := fun x trace => w₂.trace <:+ trace ∧ ⟨i, q, x⟩ ∈ trace)
      (fun rows hrows => (hq rows hrows).elim) fun _ _ ht hmem => ⟨ht, hmem⟩) h₂ fun x w₃ h₃ hx => ?_
    refine Spec.bind (statement_spec (Q := fun x' trace => w₃.trace <:+ trace ∧ ⟨i, q', x'⟩ ∈ trace)
      (fun rows hrows => (hq' rows hrows).elim) fun _ _ ht hmem => ⟨ht, hmem⟩) h₃
      fun x' w₄ h₄ hx' => ?_
    exact Spec.pure fun w₅ ht _ => ⟨x, x', rfl,
      hstart.trans (hx.1.trans (hx'.1.trans ht)), ht.subset (hx'.1.subset hx.2), ht.subset hx'.2⟩
  cases b with
  | true =>
    refine (hboth (f := fun x y => (x, y)) hq hq').imp fun y _ _ h => ?_
    obtain ⟨x, x', rfl, h⟩ := h
    exact h
  | false =>
    refine (hboth (f := fun y x => (x, y)) hq' hq).imp fun y _ _ h => ?_
    obtain ⟨x, x', rfl, ht, hx, hx'⟩ := h
    exact ⟨ht, hx', hx⟩

theorem recomputeLeagueSeason_spec {minSample : Nat} (hmin : 0 < minSample)
    (hinv : RatesSound number numberText w) :
    RateSpec changes number numberText i (fun _ _ => True)
      (recomputeLeagueSeason number numberText leagueId season minSample) w := by
  have hdone : ∀ {α : Type} {x : α} {w : RateWorld}, RateSpec changes number numberText i
      (fun _ _ => True) (pure x) w := Spec.pure fun _ _ _ => trivial
  refine Spec.bind (statement_spec (Q := fun r trace => ⟨i, .fixturesOf leagueId season, r⟩ ∈ trace)
    (fun rows hrows => (by cases hrows)) fun _ _ _ hmem => hmem) hinv fun fixtures w₁ h₁ hf => ?_
  split_ifs
  · exact hdone
  refine Spec.bind (both_spec (fun _ hq => by cases hq) (fun _ hq => by cases hq)) h₁
    fun x w₂ h₂ hx => ?_
  obtain ⟨snapshots, goals⟩ := x
  obtain ⟨ht, hs, hg⟩ := hx
  have hcomputed : Computed number numberText i
      ((⟨fixtures, snapshots, goals⟩ : RateReads).rates number numberText minSample) w₂.trace :=
    ⟨leagueId, season, ⟨fixtures, snapshots, goals⟩, minSample, hmin, rfl, ht.subset hf, hs, hg⟩
  refine Spec.bind (statement_spec (Q := fun _ trace => w₂.trace <:+ trace)
    (fun rows hrows => (by cases hrows)) fun _ _ ht _ => ht) h₂ fun _ w₃ h₃ ht₃ => ?_
  split_ifs
  · exact hdone
  refine Spec.bind (statement_spec (Q := fun _ _ => True) (fun rows hrows => ?_)
    fun _ _ _ _ => trivial) h₃ fun _ _ _ _ => hdone
  cases hrows
  exact hcomputed.later ht₃

theorem recomputePairs_spec {minSample : Nat} (hmin : 0 < minSample) {pairs : List (Int × Int)}
    (hinv : RatesSound number numberText w) : RateSpec changes number numberText i (fun _ _ => True)
      (recomputePairs number numberText minSample pairs) w := by
  induction pairs generalizing w with
  | nil => exact Spec.pure fun _ _ _ => trivial
  | cons pair pairs ih =>
    refine Spec.bind (recomputeLeagueSeason_spec hmin hinv) hinv fun _ w₁ h₁ _ => ?_
    exact Spec.bind (ih h₁) h₁ fun _ _ _ _ => Spec.pure fun _ _ _ => trivial

theorem rate_discipline :
    Discipline (rateSystem number numberText changes) (rateContract number numberText) where
  entry i p w hp hinv _ := by
    obtain ⟨minSample, hmin, rfl⟩ := hp
    have hcall : RateSpec changes number numberText i (fun _ _ => True)
        (recomputeAll number numberText minSample) w := by
      refine Spec.bind (statement_spec (Q := fun _ _ => True) (fun rows hrows => (by cases hrows))
        fun _ _ _ _ => trivial) hinv fun pairs w₁ h₁ _ => ?_
      exact Spec.bind (recomputePairs_spec hmin h₁) h₁ fun _ _ _ _ => Spec.pure fun _ _ _ => trivial
    exact Safe.bind hcall hinv fun _ _ _ _ => Safe.ret fun _ _ _ => trivial
  step i a b w w' hinv hpre hs := hs.sound hinv hpre
  compatible _ _ _ _ _ h := h
  fresh _ _ _ _ h := h
  env w w' h hinv := by
    obtain ⟨history, -, rfl⟩ := h
    exact ⟨⟨hinv.rows, hinv.computed, hinv.fixtures⟩, fun _ => List.suffix_refl _⟩
  drop _ _ hinv := ⟨hinv, fun _ _ => List.suffix_refl _⟩

/-! ## One computation -/

/-- Where two parts that are not empty do not go together, there is at most one. -/
theorem flatMap_eq_one {α β : Type} {f : α → List β} {R : β → β → Prop} {as : List α}
    (h : (as.flatMap f).Pairwise R)
    (hclash : ∀ a ∈ as, ∀ a' ∈ as, f a ≠ [] → f a' ≠ [] → ∃ x ∈ f a, ∃ y ∈ f a', ¬ R x y) :
    as.flatMap f = [] ∨ ∃ a ∈ as, as.flatMap f = f a := by
  induction as with
  | nil => exact .inl rfl
  | cons a as ih =>
    rw [List.flatMap_cons, List.pairwise_append] at h
    obtain ⟨-, hrest, hcross⟩ := h
    rw [List.flatMap_cons]
    by_cases ha : f a = []
    · rw [ha, List.nil_append]
      refine (ih hrest fun x hx y hy => hclash x (List.mem_cons_of_mem _ hx) y
        (List.mem_cons_of_mem _ hy)).imp_right ?_
      rintro ⟨b, hb, heq⟩
      exact ⟨b, List.mem_cons_of_mem _ hb, heq⟩
    · refine .inr ⟨a, List.mem_cons_self, ?_⟩
      have hnil : as.flatMap f = [] := by
        refine List.flatMap_eq_nil_iff.2 fun b hb => by_contra fun hne => ?_
        obtain ⟨x, hx, y, hy, hxy⟩ := hclash a List.mem_cons_self b (List.mem_cons_of_mem _ hb) ha hne
        exact hxy (hcross x hx y (List.mem_flatMap.2 ⟨b, hb, hy⟩))
      rw [hnil, List.append_nil]

variable (number) in
/-- The observations are of the league and season that were read. -/
theorem RateReads.pair {reads : RateReads}
    (h : ∀ f ∈ reads.fixtures, f.leagueId = some leagueId ∧ f.season = some season) :
    ∀ o ∈ reads.observations number, o.leagueId = .int leagueId ∧ o.season = .int season := by
  intro o ho
  obtain ⟨f, hf, ho⟩ := List.mem_flatMap.1 ho
  obtain ⟨hl, hs⟩ := pair_of_mem ho
  obtain ⟨hl', hs'⟩ := h f hf
  rw [Fixture.rateRow, hl'] at hl
  rw [Fixture.rateRow, hs'] at hs
  exact ⟨(Option.some.inj hl).symm, (Option.some.inj hs).symm⟩

/-- The rates of a league, season, market and signal. -/
def ComputedBaseRate.ofSeries (leagueId season : Int) (market : BaseRateMarket)
    (signal : BaseRateSignal) (r : ComputedBaseRate) : Bool :=
  r.ofPair leagueId season && decide (r.market = market ∧ r.signal = signal)

/-- The lowest threshold of a signal. -/
def lowestThreshold (signal : BaseRateSignal) : Int := (defaultThresholds signal).headI

theorem lowestThreshold_mem (signal : BaseRateSignal) :
    lowestThreshold signal ∈ defaultThresholds signal := by
  cases signal <;> decide

theorem lowestThreshold_le {signal : BaseRateSignal} {threshold : Int}
    (h : threshold ∈ defaultThresholds signal) : lowestThreshold signal ≤ threshold := by
  cases signal <;> revert threshold <;> decide

theorem mem_standing {rows : List ComputedBaseRate} {trace : List Served}
    (h : rows ∈ standing leagueId season trace) : ∃ i, ⟨i, .insert rows, ()⟩ ∈ trace := by
  induction trace with
  | nil => cases h
  | cons e trace ih =>
    obtain ⟨i, q, a⟩ := e
    have hlater : rows ∈ standing leagueId season trace → ∃ j, (⟨j, .insert rows, ()⟩ : Served) ∈
        ⟨i, q, a⟩ :: trace := fun hrows => (ih hrows).imp fun _ => List.mem_cons_of_mem _
    cases q with
    | pairs | fixturesOf | snapshotsOf | goalsOf => exact hlater h
    | delete leagueId' season' =>
      rw [standing] at h
      split_ifs at h
      · cases h
      · exact hlater h
    | insert rows' =>
      rcases List.mem_append.1 h with h | h
      · exact hlater h
      · rw [List.mem_singleton.1 h]
        exact ⟨i, List.mem_cons_self⟩

/-- What a computation has of a series, it has of its lowest threshold. -/
theorem Computed.exists_lowest {rows : List ComputedBaseRate} {market : BaseRateMarket}
    {signal : BaseRateSignal} (h : Computed number numberText i rows w.trace)
    (hinv : RatesSound number numberText w)
    (hne : rows.filter (·.ofSeries leagueId season market signal) ≠ []) :
    ∃ r ∈ rows.filter (·.ofSeries leagueId season market signal),
      r.threshold = lowestThreshold signal := by
  obtain ⟨r, hr⟩ := List.exists_mem_of_ne_nil _ hne
  obtain ⟨hr, hseries⟩ := List.mem_filter.1 hr
  obtain ⟨l, s, reads, minSample, hmin, rfl, hf, -, -⟩ := h
  have hpair := RateReads.pair number (hinv.fixtures _ _ _ _ hf)
  have hr' := (mem_computeBaseRates hmin hpair).1 hr
  obtain ⟨x, hx, hm, hsignal, hthreshold⟩ := exists_lower hmin hpair hr (lowestThreshold_mem _)
    (lowestThreshold_le hr'.2.2.1)
  obtain ⟨hl, hs, -⟩ := (mem_computeBaseRates hmin hpair).1 hx
  simp only [ComputedBaseRate.ofSeries, Bool.and_eq_true, ofPair_iff, decide_eq_true_eq] at hseries
  obtain ⟨⟨hrl, hrs⟩, rfl, rfl⟩ := hseries
  refine ⟨x, List.mem_filter.2 ⟨hx, ?_⟩, hthreshold⟩
  simp only [ComputedBaseRate.ofSeries, Bool.and_eq_true, ofPair_iff, decide_eq_true_eq]
  exact ⟨⟨hl.trans (hr'.1.symm.trans hrl), hs.trans (hr'.2.1.symm.trans hrs)⟩, hm, hsignal⟩

/-- **The rates of a league, season, market and signal are those of one computation**, by what one call
has read, whatever the calls do at once and however they fail: the lowest threshold is in all of
them, and the unique key lets it in once. -/
theorem rates_whole {history : StoredMatches} {c : Config RateAction RateAction.Result Nat RateWorld}
    (h : Reachable (rateSystem number numberText changes) (.init ⟨history, .empty, []⟩) c)
    (leagueId season : Int) (market : BaseRateMarket) (signal : BaseRateSignal) :
    c.state.rates.rows.filter (·.ofSeries leagueId season market signal) = [] ∨
      ∃ i rows, Computed number numberText i rows c.state.trace ∧
        c.state.rates.rows.filter (·.ofSeries leagueId season market signal) =
          rows.filter (·.ofSeries leagueId season market signal) := by
  have hempty : RatesSound number numberText ⟨history, .empty, []⟩ :=
    ⟨fun _ _ => rfl, fun _ _ hmem => (List.not_mem_nil hmem).elim,
      fun _ _ _ _ hmem => (List.not_mem_nil hmem).elim⟩
  have hinv : RatesSound number numberText c.state :=
    (rate_discipline.reachable hempty (fun _ => trivial) h).1
  have hcomputed : ∀ rows ∈ standing leagueId season c.state.trace,
      ∃ i, Computed number numberText i rows c.state.trace := by
    intro rows hrows
    obtain ⟨i, hmem⟩ := mem_standing hrows
    exact ⟨i, hinv.computed i rows hmem⟩
  have hrows : c.state.rates.rows.filter (·.ofSeries leagueId season market signal) =
      (standing leagueId season c.state.trace).flatMap
        (·.filter (·.ofSeries leagueId season market signal)) := by
    have hsplit : ∀ rows : List ComputedBaseRate,
        rows.filter (·.ofSeries leagueId season market signal) =
          (rows.filter (·.ofPair leagueId season)).filter fun r =>
            decide (r.market = market ∧ r.signal = signal) := by
      intro rows
      rw [List.filter_filter]
      exact List.filter_congr fun r _ => Bool.and_comm _ _
    rw [hsplit, hinv.rows leagueId season, List.filter_flatMap]
    exact List.flatMap_congr fun rows _ => (hsplit rows).symm
  have hdistinct := c.state.rates.distinct.filter (·.ofSeries leagueId season market signal)
  rw [hrows] at hdistinct ⊢
  refine (flatMap_eq_one hdistinct fun rows hmem rows' hmem' hne hne' => ?_).imp_right ?_
  · obtain ⟨i, hi⟩ := hcomputed rows hmem
    obtain ⟨j, hj⟩ := hcomputed rows' hmem'
    obtain ⟨x, hx, hthreshold⟩ := hi.exists_lowest hinv hne
    obtain ⟨y, hy, hthreshold'⟩ := hj.exists_lowest hinv hne'
    refine ⟨x, hx, y, hy, ?_⟩
    have hxs := (List.mem_filter.1 hx).2
    have hys := (List.mem_filter.1 hy).2
    simp only [ComputedBaseRate.ofSeries, Bool.and_eq_true, ofPair_iff, decide_eq_true_eq]
      at hxs hys
    rw [Bool.not_eq_false]
    exact ComputedBaseRate.sameKey_iff.2 ⟨hxs.1.1.trans hys.1.1.symm, hxs.1.2.trans hys.1.2.symm,
      hxs.2.1.trans hys.2.1.symm, hxs.2.2.trans hys.2.2.symm, hthreshold.trans hthreshold'.symm⟩
  · rintro ⟨rows, hmem, heq⟩
    obtain ⟨i, hi⟩ := hcomputed rows hmem
    exact ⟨i, rows, hi, heq⟩

end

end ApiScore
