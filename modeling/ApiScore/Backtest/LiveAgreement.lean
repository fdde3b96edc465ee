import ApiScore.Backtest.NoLookAhead
import ApiScore.Rules.SignalShape
import Mathlib.Data.List.Induction

/-!
# What live and replay give to the rules

The live path reads the statistics of a team in its latest snapshot, and its statistics at half-time
in the last snapshot of the first half.  The replay carries them from snapshot to snapshot, and a
snapshot that gives no count of shots leaves the count of an earlier one in place.

* `mem_ticks_iff` — what is known at a tick.
* `forall_received_iff` — the snapshots that the live path may read.
* `KeepsCounts`, `KeepsHtCounts` — what the snapshots of a team have to be like.
* `liveAgrees_iff` — when the rules are given the same.
-/

set_option autoImplicit false

namespace ApiScore

open Ranked Grouping

/-! ## What is known after some snapshots -/

/-- The last value that is given in a list. -/
def lastGiven {α β : Type} (given : α → Option β) (l : List α) : Option β :=
  (l.filterMap given).getLast?

theorem lastGiven_concat {α β : Type} (given : α → Option β) (l : List α) (a : α) :
    lastGiven given (l ++ [a]) = (given a).or (lastGiven given l) := by
  rw [lastGiven, lastGiven, List.filterMap_append, List.getLast?_append]
  cases h : given a with
  | none => rw [List.filterMap_cons_none h]; rfl
  | some b => rw [List.filterMap_cons_some h]; rfl

/-- The value of a team, in a snapshot of it. -/
def FixtureStatsSnapshot.ofTeam (snap : FixtureStatsSnapshot) (teamId : Int)
    (value : Option JsNumber) : Option JsNumber :=
  if snap.team? = some teamId then value else none

/-- The value of a team, in a snapshot of it in the first half. -/
def FixtureStatsSnapshot.ofTeamHt (snap : FixtureStatsSnapshot) (teamId : Int)
    (value : Option JsNumber) : Option JsNumber :=
  if snap.inFirstHalf then snap.ofTeam teamId value else none

section Known

variable (number : JsValue → JsNumber)

/-- `snapshotSignals(snap.stats)`. -/
def FixtureStatsSnapshot.signals (snap : FixtureStatsSnapshot) : SnapshotSignals :=
  snapshotSignals number snap.stats

/-- What is known after some snapshots: of each value, the last one that was given. -/
def TickState.after (snaps : List FixtureStatsSnapshot) : TickState where
  tickAt := lastGiven (fun s => some s.snapshotAt) snaps
  tickElapsed := lastGiven (·.elapsed) snaps
  shotsByTeam teamId := lastGiven (fun s => s.ofTeam teamId (s.signals number).totalShots) snaps
  onTargetByTeam teamId :=
    lastGiven (fun s => s.ofTeam teamId (some (s.signals number).shotsOnTarget)) snaps
  pressureByTeam teamId :=
    lastGiven (fun s => s.ofTeam teamId (some (s.signals number).pressureIndex)) snaps
  htShotsByTeam teamId := lastGiven (fun s => s.ofTeamHt teamId (s.signals number).totalShots) snaps
  htOnTargetByTeam teamId :=
    lastGiven (fun s => s.ofTeamHt teamId (some (s.signals number).shotsOnTarget)) snaps
  htPressureByTeam teamId :=
    lastGiven (fun s => s.ofTeamHt teamId (some (s.signals number).pressureIndex)) snaps

variable {number}

theorem putTeam_apply (values : Int → Option JsNumber) (teamId team : Int)
    (value : Option JsNumber) :
    putTeam values team value teamId =
      (if some team = some teamId then value else none).or (values teamId) := by
  cases value with
  | none => simp [putTeam]
  | some x =>
    by_cases h : team = teamId
    · rw [if_pos (congrArg some h), h]
      exact Function.update_self ..
    · rw [if_neg (fun heq => h (Option.some.inj heq))]
      exact Function.update_of_ne (fun heq => h heq.symm) ..

/-- **One more snapshot.** -/
theorem TickState.feed_after (snaps : List FixtureStatsSnapshot) (snap : FixtureStatsSnapshot) :
    (TickState.after number snaps).feed number snap = TickState.after number (snaps ++ [snap]) := by
  simp only [TickState.after, lastGiven_concat, TickState.feed, FixtureStatsSnapshot.ofTeamHt,
    FixtureStatsSnapshot.ofTeam, FixtureStatsSnapshot.signals, snapshotSignals]
  cases hteam : snap.team? with
  | none => simp
  | some team =>
    cases snap.inFirstHalf <;> simp [putTeam_apply, funext_iff]

theorem TickState.foldl_feed (snaps : List FixtureStatsSnapshot) :
    snaps.foldl (fun st snap => st.feed number snap) .start = TickState.after number snaps := by
  induction snaps using List.reverseRecOn with
  | nil => rfl
  | append_singleton snaps snap ih =>
    rw [List.foldl_append, List.foldl_cons, List.foldl_nil, ih, TickState.feed_after]

/-! ## The ticks -/

/-- The snapshots taken up to an instant. -/
def upTo (T : Int) (snaps : List FixtureStatsSnapshot) : List FixtureStatsSnapshot :=
  snaps.filter fun s => decide (s.snapshotAt ≤ T)

/-- The snapshots come in the order of their instants. -/
def Chronological (snaps : List FixtureStatsSnapshot) : Prop :=
  snaps.Pairwise fun s s' => s.snapshotAt ≤ s'.snapshotAt

theorem Chronological.filter {snaps : List FixtureStatsSnapshot} (h : Chronological snaps)
    (p : FixtureStatsSnapshot → Bool) : Chronological (snaps.filter p) :=
  List.Pairwise.filter p h

/-- No snapshot is later than the last one. -/
theorem Chronological.le_getLast {snaps : List FixtureStatsSnapshot} (h : Chronological snaps)
    {last s : FixtureStatsSnapshot} (hlast : snaps.getLast? = some last) (hs : s ∈ snaps) :
    s.snapshotAt ≤ last.snapshotAt := by
  obtain ⟨init, rfl⟩ := List.getLast?_eq_some_iff.1 hlast
  rcases List.mem_append.1 hs with hs | hs
  · exact (List.pairwise_append.1 h).2.2 s hs last List.mem_cons_self
  · rw [List.mem_singleton.1 hs]

theorem TickState.tickAt_after {snaps : List FixtureStatsSnapshot} {T : Int} :
    (TickState.after number snaps).tickAt = some T ↔
      ∃ s, snaps.getLast? = some s ∧ s.snapshotAt = T := by
  show lastGiven (fun s : FixtureStatsSnapshot => some s.snapshotAt) snaps = some T ↔ _
  rw [lastGiven, List.filterMap_eq_map', List.getLast?_map, Option.map_eq_some_iff]

theorem mem_upTo {T : Int} {snaps : List FixtureStatsSnapshot} {s : FixtureStatsSnapshot} :
    s ∈ upTo T snaps ↔ s ∈ snaps ∧ s.snapshotAt ≤ T := by
  rw [upTo, List.mem_filter, decide_eq_true_iff]

/-- The snapshots up to an instant are the first ones, where one of it is the last of these and the
next one is of another. -/
theorem upTo_append {early later : List FixtureStatsSnapshot}
    (h : Chronological (early ++ later)) {T : Int} {s : FixtureStatsSnapshot} (hlast : early.getLast? = some s) (hs : s.snapshotAt = T)
    (hnext : ∀ s' ∈ later.head?, s'.snapshotAt ≠ T) : upTo T (early ++ later) = early := by
  obtain ⟨init, rfl⟩ := List.getLast?_eq_some_iff.1 hlast
  have hearly : upTo T (init ++ [s]) = init ++ [s] := by
    have horder : Chronological (init ++ [s]) := (List.pairwise_append.1 h).1
    exact List.filter_eq_self.2 fun x hx =>
      decide_eq_true ((horder.le_getLast hlast hx).trans_eq hs)
  have hlater : upTo T later = [] := by
    cases later with
    | nil => rfl
    | cons next rest =>
      have hne := hnext next rfl
      have hle := (List.pairwise_append.1 h).2.2 s
        (List.mem_append_right _ List.mem_cons_self) next List.mem_cons_self
      have hrest := List.pairwise_cons.1 (List.pairwise_append.1 h).2.1
      refine List.filter_eq_nil_iff.2 fun x hx hat => ?_
      have hat := of_decide_eq_true hat
      rcases List.mem_cons.1 hx with rfl | hx
      · omega
      · have := hrest.1 x hx
        omega
  rw [upTo, List.filter_append]
  exact (congrArg₂ _ hearly hlater).trans (List.append_nil _)

/-- A tick of an instant knows the snapshots up to it. -/
theorem eq_after_of_mem_ticksFrom {early later : List FixtureStatsSnapshot}
    (h : Chronological (early ++ later)) {T : Int} {t : TickState}
    (ht : t ∈ ticksFrom number (TickState.after number early) later) (hat : t.tickAt = some T) :
    t = TickState.after number (upTo T (early ++ later)) := by
  induction later generalizing early with
  | nil =>
    rw [ticksFrom, List.mem_singleton] at ht
    subst ht
    obtain ⟨s, hlast, hs⟩ := TickState.tickAt_after.1 hat
    rw [upTo_append h hlast hs fun _ hx => by cases hx]
  | cons snap later ih =>
    have hrest : t ∈ ticksFrom number ((TickState.after number early).feed number snap) later →
        t = TickState.after number (upTo T (early ++ snap :: later)) := by
      intro ht
      rw [TickState.feed_after] at ht
      rw [List.append_cons early snap later] at h ⊢
      exact ih h ht
    rw [ticksFrom] at ht
    split at ht
    · exact hrest ht
    · next hother =>
      rcases List.mem_cons.1 ht with rfl | ht
      · obtain ⟨s, hlast, hs⟩ := TickState.tickAt_after.1 hat
        rw [upTo_append h hlast hs]
        rintro _ ⟨rfl⟩ hsnap
        rw [hat, Option.all_some, beq_iff_eq] at hother
        exact hother hsnap.symm
      · exact hrest ht

/-- There is a tick at each instant of a snapshot. -/
theorem after_mem_ticksFrom {early later : List FixtureStatsSnapshot}
    (h : Chronological (early ++ later)) {T : Int}
    (hT : (∃ s, early.getLast? = some s ∧ s.snapshotAt = T) ∨ ∃ s ∈ later, s.snapshotAt = T) :
    TickState.after number (upTo T (early ++ later)) ∈
      ticksFrom number (TickState.after number early) later := by
  induction later generalizing early with
  | nil =>
    rcases hT with ⟨s, hlast, hs⟩ | ⟨s, hmem, -⟩
    · rw [upTo_append h hlast hs fun _ hx => by cases hx]
      exact List.mem_singleton.2 rfl
    · cases hmem
  | cons snap later ih =>
    have hrest (hT : snap.snapshotAt = T ∨ ∃ s ∈ later, s.snapshotAt = T) :
        TickState.after number (upTo T (early ++ snap :: later)) ∈
          ticksFrom number ((TickState.after number early).feed number snap) later := by
      rw [TickState.feed_after]
      rw [List.append_cons early snap later] at h ⊢
      exact ih h (hT.imp_left fun hsnap => ⟨snap, List.getLast?_concat .., hsnap⟩)
    rw [ticksFrom]
    by_cases hsnap : snap.snapshotAt = T ∨ ∃ s ∈ later, s.snapshotAt = T
    · split
      · exact hrest hsnap
      · exact List.mem_cons_of_mem _ (hrest hsnap)
    · rcases hT with ⟨s, hlast, hs⟩ | ⟨s, hmem, hs⟩
      · have hat := (@TickState.tickAt_after number _ _).2 ⟨s, hlast, hs⟩
        have hother : ¬ (TickState.after number early).tickAt.all (· == snap.snapshotAt) = true := by
          rw [hat, Option.all_some, beq_iff_eq]
          exact fun heq => hsnap (Or.inl heq.symm)
        rw [if_neg hother, upTo_append h hlast hs]
        · exact List.mem_cons_self
        · rintro _ ⟨rfl⟩ heq
          exact hsnap (Or.inl heq)
      · rcases List.mem_cons.1 hmem with rfl | hmem
        · exact absurd (Or.inl hs) hsnap
        · exact absurd (Or.inr ⟨s, hmem, hs⟩) hsnap

/-- **What is known at a tick**: the snapshots up to its instant. -/
theorem mem_ticks_iff {snaps : List FixtureStatsSnapshot} (h : Chronological snaps) {T : Int}
    {t : TickState} :
    (t ∈ ticks number snaps ∧ t.tickAt = some T) ↔
      (∃ s ∈ snaps, s.snapshotAt = T) ∧ t = TickState.after number (upTo T snaps) := by
  constructor
  · rintro ⟨ht, hat⟩
    exact ⟨tickAt_of_mem_ticks ht hat, @eq_after_of_mem_ticksFrom _ [] _ h _ _ ht hat⟩
  · rintro ⟨hT, rfl⟩
    refine ⟨@after_mem_ticksFrom _ [] _ h _ (Or.inr hT), ?_⟩
    obtain ⟨s, hs, hat⟩ := hT
    have hmem : s ∈ upTo T snaps := mem_upTo.2 ⟨hs, hat.le⟩
    have hlast := List.getLast?_eq_some_getLast (List.ne_nil_of_mem hmem)
    generalize (upTo T snaps).getLast _ = last at hlast
    have hle := (h.filter _).le_getLast hlast hmem
    have hge := (mem_upTo.1 (List.mem_of_getLast? hlast)).2
    exact TickState.tickAt_after.2 ⟨last, hlast, by omega⟩

end Known

/-! ## What the live path may read -/

/-- The snapshots of a team of a fixture. -/
def isOf (fixtureId : String) (teamId : Int) (s : FixtureStatsSnapshot) : Bool :=
  s.fixtureId == fixtureId && s.team? == some teamId

/-- A latest snapshot of the list. -/
def IsLatest (snaps : List FixtureStatsSnapshot) (s : FixtureStatsSnapshot) : Prop :=
  s ∈ snaps ∧ ∀ s' ∈ snaps, s'.snapshotAt ≤ s.snapshotAt

section Received

variable {history : List FixtureStatsSnapshot} {fixtureId : String} {teamId : Int}
  {kept : FixtureStatsSnapshot → Bool}

theorem isLE_laterFirst {s s' : FixtureStatsSnapshot} :
    (comparing laterFirst (·.snapshotAt) s s').isLE = true ↔ s'.snapshotAt ≤ s.snapshotAt :=
  Std.isLE_compare

theorem isLatest_of_firstOf {rows : List FixtureStatsSnapshot} (hrows : rows.Perm history)
    {s : FixtureStatsSnapshot}
    (h : firstOf (latestSnapshotsFirst (rows.filter kept)) fixtureId teamId = some s) :
    IsLatest ((history.filter kept).filter (isOf fixtureId teamId)) s := by
  have hmem {x : FixtureStatsSnapshot} :
      x ∈ (history.filter kept).filter (isOf fixtureId teamId) ↔
        x ∈ rows.filter kept ∧ isOf fixtureId teamId x = true := by
    rw [List.mem_filter, (hrows.filter kept).mem_iff]
  obtain ⟨hs, hof, hfirst⟩ := find?_sort_spec h
  refine ⟨hmem.2 ⟨hs, hof⟩, fun x hx => ?_⟩
  exact isLE_laterFirst.1 (hfirst x (hmem.1 hx).1 (hmem.1 hx).2)

theorem exists_firstOf {s : FixtureStatsSnapshot}
    (h : IsLatest ((history.filter kept).filter (isOf fixtureId teamId)) s) :
    ∃ rows : List FixtureStatsSnapshot, rows.Perm history ∧
      firstOf (latestSnapshotsFirst (rows.filter kept)) fixtureId teamId = some s := by
  obtain ⟨hs, hlatest⟩ := h
  obtain ⟨hs, hof⟩ := List.mem_filter.1 hs
  obtain ⟨hs, hkept⟩ := List.mem_filter.1 hs
  obtain ⟨before, after, rfl⟩ := List.append_of_mem hs
  refine ⟨s :: (before ++ after), List.perm_middle.symm, ?_⟩
  rw [List.filter_cons_of_pos hkept]
  refine find?_sort_cons hof fun x hx hxof => isLE_laterFirst.2 (hlatest x ?_)
  exact List.mem_filter.2 ⟨(List.perm_middle.symm.filter kept).mem_iff.1
    ((List.filter_cons_of_pos hkept).symm ▸ List.mem_cons_of_mem s hx), hxof⟩

/-- **What holds of the first row, whatever the order of the rows**: it holds of each latest
snapshot. -/
theorem forall_firstOf_iff (P : Option FixtureStatsSnapshot → Prop) :
    (∀ rows : List FixtureStatsSnapshot, rows.Perm history →
        P (firstOf (latestSnapshotsFirst (rows.filter kept)) fixtureId teamId)) ↔
      ((history.filter kept).filter (isOf fixtureId teamId) = [] → P none) ∧
        ∀ s, IsLatest ((history.filter kept).filter (isOf fixtureId teamId)) s → P (some s) := by
  constructor
  · refine fun h => ⟨fun hnil => ?_, fun s hs => ?_⟩
    · cases hfirst : firstOf (latestSnapshotsFirst (history.filter kept)) fixtureId teamId with
      | none => exact hfirst ▸ h history (.refl _)
      | some s =>
        have hs := (isLatest_of_firstOf (.refl history) hfirst).1
        rw [hnil] at hs
        cases hs
    · obtain ⟨rows, hrows, hfirst⟩ := exists_firstOf hs
      exact hfirst ▸ h rows hrows
  · rintro ⟨hnone, hsome⟩ rows hrows
    cases hfirst : firstOf (latestSnapshotsFirst (rows.filter kept)) fixtureId teamId with
    | none =>
      refine hnone (List.filter_eq_nil_iff.2 fun x hx hof => ?_)
      exact List.find?_eq_none.1 hfirst x (mem_sort.2 ((hrows.filter kept).mem_iff.2 hx)) hof
    | some s => exact hsome s (isLatest_of_firstOf hrows hfirst)

end Received

/-! ## What the snapshots have to be like -/

section Counts

variable (number : JsValue → JsNumber)

/-- The latest snapshots of a team say the same, and none of its snapshots counts its shots where
its latest one does not. -/
structure KeepsCounts (snaps : List FixtureStatsSnapshot) : Prop where
  alike : ∀ s s', IsLatest snaps s → IsLatest snaps s' → s.signals number = s'.signals number
  counted : ∀ s, IsLatest snaps s → (s.signals number).totalShots = none →
    ∀ s' ∈ snaps, (s'.signals number).totalShots = none

/-- The latest snapshots of a team in the first half say the same, and the last count of its shots
in the first half is 0 where its latest snapshot has none. -/
structure KeepsHtCounts (snaps : List FixtureStatsSnapshot) : Prop where
  alike : ∀ s s', IsLatest snaps s → IsLatest snaps s' →
    { s.signals number with totalShots := some ((s.signals number).totalShots.getD (.num 0)) } =
      { s'.signals number with totalShots := some ((s'.signals number).totalShots.getD (.num 0)) }
  counted : ∀ s, IsLatest snaps s → (s.signals number).totalShots = none →
    ∀ shots, lastGiven (fun s' => (s'.signals number).totalShots) snaps = some shots → shots = .num 0

/-- The snapshots of a team are such that the live path knows what the replay knows. -/
structure KeepsSignals (snaps : List FixtureStatsSnapshot) (teamId : Int) : Prop where
  now : KeepsCounts number (snaps.filter fun s => s.team? == some teamId)
  ht : KeepsHtCounts number ((snaps.filter (·.isHt)).filter fun s => s.team? == some teamId)

variable {number} {snaps : List FixtureStatsSnapshot}

theorem exists_isLatest (h : Chronological snaps) (hne : snaps ≠ []) :
    ∃ s, snaps.getLast? = some s ∧ IsLatest snaps s := by
  have hlast := List.getLast?_eq_some_getLast hne
  exact ⟨_, hlast, List.mem_of_getLast? hlast, fun _ hs => h.le_getLast hlast hs⟩

/-- The last value is that of the last snapshot, where that gives one. -/
theorem lastGiven_getLast {β : Type} {given : FixtureStatsSnapshot → Option β}
    {s : FixtureStatsSnapshot} (hlast : snaps.getLast? = some s) {b : β} (hs : given s = some b) :
    lastGiven given snaps = some b := by
  obtain ⟨init, rfl⟩ := List.getLast?_eq_some_iff.1 hlast
  rw [lastGiven_concat, hs, Option.some_or]

theorem lastGiven_eq_none {β : Type} {given : FixtureStatsSnapshot → Option β} :
    lastGiven given snaps = none ↔ ∀ s ∈ snaps, given s = none := by
  rw [lastGiven, List.getLast?_eq_none_iff, List.filterMap_eq_nil_iff]

theorem keepsCounts_iff (h : Chronological snaps) :
    (∀ s, IsLatest snaps s →
        lastGiven (fun s' => (s'.signals number).totalShots) snaps = (s.signals number).totalShots ∧
        lastGiven (fun s' => some (s'.signals number).shotsOnTarget) snaps =
          some (s.signals number).shotsOnTarget ∧
        lastGiven (fun s' => some (s'.signals number).pressureIndex) snaps =
          some (s.signals number).pressureIndex) ↔
      KeepsCounts number snaps := by
  constructor
  · intro hlive
    refine ⟨fun s s' hs hs' => ?_, fun s hs hnone => ?_⟩
    · obtain ⟨h₁, h₂, h₃⟩ := hlive s hs
      obtain ⟨h₁', h₂', h₃'⟩ := hlive s' hs'
      rw [SnapshotSignals.mk.injEq]
      exact ⟨h₁.symm.trans h₁', Option.some.inj (h₂.symm.trans h₂'),
        Option.some.inj (h₃.symm.trans h₃')⟩
    · exact lastGiven_eq_none.1 ((hlive s hs).1.trans hnone)
  · rintro ⟨halike, hcounted⟩ s hs
    obtain ⟨last, hlast, hlatest⟩ := exists_isLatest h (List.ne_nil_of_mem hs.1)
    rw [halike s last hs hlatest]
    refine ⟨?_, lastGiven_getLast hlast rfl, lastGiven_getLast hlast rfl⟩
    cases hshots : (last.signals number).totalShots with
    | none => exact lastGiven_eq_none.2 (hcounted last hlatest hshots)
    | some shots => exact lastGiven_getLast hlast hshots

theorem keepsHtCounts_iff (h : Chronological snaps) :
    (∀ s, IsLatest snaps s →
        (lastGiven (fun s' => (s'.signals number).totalShots) snaps).getD (.num 0) =
          (s.signals number).totalShots.getD (.num 0) ∧
        (lastGiven (fun s' => some (s'.signals number).shotsOnTarget) snaps).getD (.num 0) =
          (s.signals number).shotsOnTarget ∧
        (lastGiven (fun s' => some (s'.signals number).pressureIndex) snaps).getD (.num 0) =
          (s.signals number).pressureIndex) ↔
      KeepsHtCounts number snaps := by
  constructor
  · intro hlive
    refine ⟨fun s s' hs hs' => ?_, fun s hs hnone shots hshots => ?_⟩
    · obtain ⟨h₁, h₂, h₃⟩ := hlive s hs
      obtain ⟨h₁', h₂', h₃'⟩ := hlive s' hs'
      rw [SnapshotSignals.mk.injEq]
      exact ⟨congrArg some (h₁.symm.trans h₁'), h₂.symm.trans h₂', h₃.symm.trans h₃'⟩
    · have heq := (hlive s hs).1
      rw [hshots, hnone] at heq
      exact heq
  · rintro ⟨halike, hcounted⟩ s hs
    obtain ⟨last, hlast, hlatest⟩ := exists_isLatest h (List.ne_nil_of_mem hs.1)
    have hsame := SnapshotSignals.mk.inj (halike s last hs hlatest)
    rw [Option.some.inj hsame.1, hsame.2.1, hsame.2.2]
    rw [@lastGiven_getLast _ _ (fun s' => some (s'.signals number).shotsOnTarget) _ hlast _ rfl,
      @lastGiven_getLast _ _ (fun s' => some (s'.signals number).pressureIndex) _ hlast _ rfl]
    refine ⟨?_, rfl, rfl⟩
    cases hshots : (last.signals number).totalShots with
    | none =>
      cases hgiven : lastGiven (fun s' => (s'.signals number).totalShots) snaps with
      | none => rfl
      | some shots => exact hcounted last hlatest hshots shots hgiven
    | some shots => rw [lastGiven_getLast hlast hshots]

end Counts

/-! ## Live and replay -/

/-- The fixture as the live path has it, with the minute and the score of a tick. -/
def Fixture.asOf (fixture : Fixture) (goals : List GoalEvent) (homeId awayId elapsed : Int) :
    Fixture :=
  { fixture with
    statusShort := some "LIVE"
    elapsed := some elapsed
    scoreHome := some (goalsAt goals elapsed (· == some homeId))
    scoreAway := some (goalsAt goals elapsed fun id => id != some homeId && id == some awayId) }

/-- At a tick of the second half, the replay gives to the rules what the live path gives to them in
whatever order it reads the snapshots received up to then. -/
def LiveAgrees (R : Runtime) (history : List FixtureStatsSnapshot) (fixture : Fixture)
    (goals : List GoalEvent) (homeId awayId T : Int) : Prop :=
  ∀ group ∈ groupBy (·.fixtureId) (sort (snapshotOrder R.collation) history),
    group.1 = fixture.id → ∀ st ∈ ticks R.number group.2, st.tickAt = some T →
      ∀ elapsed, st.tickElapsed = some elapsed → 45 ≤ elapsed →
        ∀ rows : List FixtureStatsSnapshot, rows.Perm (upTo T history) →
          st.input fixture goals homeId awayId elapsed =
            liveInput R.number rows (some (buildHtBaseline R.number rows))
              (fixture.asOf goals homeId awayId elapsed) homeId awayId

/-- The snapshots of a fixture, in the order of the replay. -/
def snapshotsOf (R : Runtime) (history : List FixtureStatsSnapshot) (fixtureId : String) :
    List FixtureStatsSnapshot :=
  (sort (snapshotOrder R.collation) history).filter (·.fixtureId == fixtureId)

/-- A snapshot is of the instant, and the last minute that is known by then is of the second half. -/
def InSecondHalf (snaps : List FixtureStatsSnapshot) (T : Int) : Prop :=
  (∃ s ∈ snaps, s.snapshotAt = T) ∧
    ∃ elapsed, lastGiven (·.elapsed) (upTo T snaps) = some elapsed ∧ 45 ≤ elapsed

section Agreement

variable {R : Runtime} {history : List FixtureStatsSnapshot} {fixture : Fixture}
  {goals : List GoalEvent} {homeId awayId T : Int} {st : TickState}

/-- The replay knows of a team what the snapshot says, where there is one. -/
def TickState.Knows (st : TickState) (number : JsValue → JsNumber) (teamId : Int)
    (snap : Option FixtureStatsSnapshot) : Prop :=
  let signals := snap.map (·.signals number)
  st.shotsByTeam teamId = signals.bind (·.totalShots) ∧
    st.onTargetByTeam teamId = signals.map (·.shotsOnTarget) ∧
    st.pressureByTeam teamId = signals.map (·.pressureIndex)

/-- The replay knows of the first half of a team what the snapshot says, where there is one. -/
def TickState.KnowsHt (st : TickState) (number : JsValue → JsNumber) (teamId : Int)
    (snap : Option FixtureStatsSnapshot) : Prop :=
  let signals := snap.map (·.signals number)
  (st.htShotsByTeam teamId).getD (.num 0) =
      (signals.map fun s => s.totalShots.getD (.num 0)).getD (.num 0) ∧
    (st.htOnTargetByTeam teamId).getD (.num 0) = (signals.map (·.shotsOnTarget)).getD (.num 0) ∧
    (st.htPressureByTeam teamId).getD (.num 0) = (signals.map (·.pressureIndex)).getD (.num 0)

theorem input_eq_liveInput_iff {number : JsValue → JsNumber} {elapsed : Int}
    {rows : List FixtureStatsSnapshot} :
    st.input fixture goals homeId awayId elapsed =
        liveInput number rows (some (buildHtBaseline number rows))
          (fixture.asOf goals homeId awayId elapsed) homeId awayId ↔
      (∀ teamId, teamId = homeId ∨ teamId = awayId →
        st.Knows number teamId (firstOf (latestSnapshotsFirst rows) fixture.id teamId)) ∧
      ∀ teamId, teamId = homeId ∨ teamId = awayId →
        st.KnowsHt number teamId
          (firstOf (latestSnapshotsFirst (rows.filter (·.isHt))) fixture.id teamId) := by
  simp only [TickState.input, liveInput, Fixture.asOf, liveTeamSignals, buildHtBaseline,
    RuleEvaluationInput.mk.injEq, TeamInputSignals.mk.injEq, SideNumbers.mk.injEq, Option.map_some,
    Option.getD_some, Option.some.injEq, true_and, and_true, TickState.Knows, TickState.KnowsHt,
    forall_eq_or_imp, forall_eq, FixtureStatsSnapshot.signals]
  constructor
  · rintro ⟨home, away, ⟨shots, shots'⟩, ⟨onTarget, onTarget'⟩, pressure, pressure'⟩
    exact ⟨⟨home, away⟩, ⟨shots, onTarget, pressure⟩, shots', onTarget', pressure'⟩
  · rintro ⟨⟨home, away⟩, ⟨shots, onTarget, pressure⟩, shots', onTarget', pressure'⟩
    exact ⟨home, away, ⟨shots, shots'⟩, ⟨onTarget, onTarget'⟩, pressure, pressure'⟩

theorem chronological_snapshotsOf (R : Runtime) (history : List FixtureStatsSnapshot)
    (fixtureId : String) : Chronological (snapshotsOf R history fixtureId) :=
  List.Pairwise.filter _
    ((pairwise_sort (snapshotOrder R.collation) history).imp snapshotAt_le_of_isLE)

theorem chronological_upTo (R : Runtime) (history : List FixtureStatsSnapshot) (fixtureId : String)
    (T : Int) : Chronological (upTo T (snapshotsOf R history fixtureId)) :=
  (chronological_snapshotsOf R history fixtureId).filter _

/-- The snapshots of a team that the live path chooses from. -/
theorem mem_ofTeam {kept : FixtureStatsSnapshot → Bool} {fixtureId : String} {teamId : Int}
    {s : FixtureStatsSnapshot} :
    s ∈ ((upTo T (snapshotsOf R history fixtureId)).filter kept).filter (·.team? == some teamId) ↔
      s ∈ ((upTo T history).filter kept).filter (isOf fixtureId teamId) := by
  simp only [List.mem_filter, mem_upTo, snapshotsOf, mem_sort, isOf, Bool.and_eq_true]
  tauto

/-- What the live path may read of a team, in terms of what the replay has read. -/
theorem forall_received_iff (kept : FixtureStatsSnapshot → Bool) (fixtureId : String) (teamId : Int)
    (P : Option FixtureStatsSnapshot → Prop) :
    (∀ rows : List FixtureStatsSnapshot, rows.Perm (upTo T history) →
        P (firstOf (latestSnapshotsFirst (rows.filter kept)) fixtureId teamId)) ↔
      (((upTo T (snapshotsOf R history fixtureId)).filter kept).filter
          (·.team? == some teamId) = [] → P none) ∧
        ∀ s, IsLatest (((upTo T (snapshotsOf R history fixtureId)).filter kept).filter
          (·.team? == some teamId)) s → P (some s) := by
  rw [forall_firstOf_iff]
  simp only [IsLatest, List.eq_nil_iff_forall_not_mem, mem_ofTeam]

theorem lastGiven_ofTeam {snaps : List FixtureStatsSnapshot} {teamId : Int}
    (value : FixtureStatsSnapshot → Option JsNumber) :
    lastGiven (fun s => s.ofTeam teamId (value s)) snaps =
      lastGiven value (snaps.filter (·.team? == some teamId)) := by
  rw [lastGiven, lastGiven, List.filterMap_filter]
  congr 1
  refine List.filterMap_congr fun s _ => ?_
  simp only [FixtureStatsSnapshot.ofTeam, beq_iff_eq]

theorem inFirstHalf_eq_isHt (s : FixtureStatsSnapshot) : s.inFirstHalf = s.isHt := by
  rw [FixtureStatsSnapshot.inFirstHalf, FixtureStatsSnapshot.isHt]
  cases s.elapsed <;> rfl

theorem lastGiven_ofTeamHt {snaps : List FixtureStatsSnapshot} {teamId : Int}
    (value : FixtureStatsSnapshot → Option JsNumber) :
    lastGiven (fun s => s.ofTeamHt teamId (value s)) snaps =
      lastGiven value ((snaps.filter (·.isHt)).filter (·.team? == some teamId)) := by
  rw [← lastGiven_ofTeam, lastGiven, lastGiven, List.filterMap_filter]
  simp only [FixtureStatsSnapshot.ofTeamHt, inFirstHalf_eq_isHt]

theorem forall_knows_iff (teamId : Int) :
    (∀ rows : List FixtureStatsSnapshot, rows.Perm (upTo T history) →
        (TickState.after R.number (upTo T (snapshotsOf R history fixture.id))).Knows R.number teamId
          (firstOf (latestSnapshotsFirst rows) fixture.id teamId)) ↔
      KeepsCounts R.number
        ((upTo T (snapshotsOf R history fixture.id)).filter (·.team? == some teamId)) := by
  have hall (l : List FixtureStatsSnapshot) : l.filter (fun _ => true) = l :=
    List.filter_eq_self.2 fun _ _ => rfl
  have hiff := @forall_received_iff R history T (fun _ => true) fixture.id
    teamId ((TickState.after R.number (upTo T (snapshotsOf R history fixture.id))).Knows R.number
      teamId)
  simp only [hall] at hiff
  have hchron := (chronological_upTo R history fixture.id T).filter (·.team? == some teamId)
  rw [hiff, ← keepsCounts_iff hchron]
  simp only [TickState.Knows, TickState.after, lastGiven_ofTeam]
  constructor
  · exact fun h s hs => h.2 s hs
  · refine fun h => ⟨fun hnil => ?_, h⟩
    rw [hnil]
    exact ⟨rfl, rfl, rfl⟩

theorem forall_knowsHt_iff (teamId : Int) :
    (∀ rows : List FixtureStatsSnapshot, rows.Perm (upTo T history) →
        (TickState.after R.number (upTo T (snapshotsOf R history fixture.id))).KnowsHt R.number
          teamId (firstOf (latestSnapshotsFirst (rows.filter (·.isHt))) fixture.id teamId)) ↔
      KeepsHtCounts R.number (((upTo T (snapshotsOf R history fixture.id)).filter (·.isHt)).filter
        (·.team? == some teamId)) := by
  have hchron := ((chronological_upTo R history fixture.id T).filter (·.isHt)).filter
    (·.team? == some teamId)
  rw [forall_received_iff (R := R), ← keepsHtCounts_iff hchron]
  simp only [TickState.KnowsHt, TickState.after, lastGiven_ofTeamHt]
  constructor
  · exact fun h s hs => h.2 s hs
  · refine fun h => ⟨fun hnil => ?_, h⟩
    rw [hnil]
    exact ⟨rfl, rfl, rfl⟩

/-- **Live and replay give the same to the rules** at an instant of the second half exactly if the
latest snapshots of each team say the same, and count its shots wherever an earlier one did. -/
theorem liveAgrees_iff (R : Runtime) (history : List FixtureStatsSnapshot) (fixture : Fixture)
    (goals : List GoalEvent) (homeId awayId T : Int) :
    LiveAgrees R history fixture goals homeId awayId T ↔
      (InSecondHalf (snapshotsOf R history fixture.id) T →
        ∀ teamId, teamId = homeId ∨ teamId = awayId →
          KeepsSignals R.number (upTo T (snapshotsOf R history fixture.id)) teamId) := by
  have hchron := chronological_snapshotsOf R history fixture.id
  constructor
  · rintro hagree ⟨⟨s, hs, hat⟩, elapsed, helapsed, hhalf⟩ teamId hteam
    obtain ⟨hsort, hid⟩ := List.mem_filter.1 hs
    have hgroup : (fixture.id, snapshotsOf R history fixture.id) ∈
        groupBy (·.fixtureId) (sort (snapshotOrder R.collation) history) :=
      mem_groupBy.2 ⟨⟨s, hsort, beq_iff_eq.1 hid⟩, rfl⟩
    obtain ⟨htick, htickAt⟩ := (@mem_ticks_iff R.number _ hchron _ _).2 ⟨⟨s, hs, hat⟩, rfl⟩
    have hinput := hagree _ hgroup rfl _ htick htickAt elapsed helapsed hhalf
    exact ⟨(forall_knows_iff teamId).1 fun rows hrows =>
        (input_eq_liveInput_iff.1 (hinput rows hrows)).1 teamId hteam,
      (forall_knowsHt_iff teamId).1 fun rows hrows =>
        (input_eq_liveInput_iff.1 (hinput rows hrows)).2 teamId hteam⟩
  · rintro hkeeps ⟨id, snaps⟩ hgroup rfl st hst hat elapsed helapsed hhalf rows hrows
    obtain ⟨-, rfl⟩ := mem_groupBy.1 hgroup
    obtain ⟨htick, rfl⟩ := (@mem_ticks_iff R.number _ hchron _ _).1 ⟨hst, hat⟩
    have hteams := hkeeps ⟨htick, elapsed, helapsed, hhalf⟩
    exact input_eq_liveInput_iff.2
      ⟨fun teamId hteam => (forall_knows_iff teamId).2 (hteams teamId hteam).now rows hrows,
        fun teamId hteam => (forall_knowsHt_iff teamId).2 (hteams teamId hteam).ht rows hrows⟩

end Agreement

namespace Sample

/-- Nine shots of the home team in the 60th minute; a minute later the provider gives its corners
only. -/
def sparse : List FixtureStatsSnapshot :=
  let stats (type : String) (value : ℚ) : JsValue := .obj [("statistics",
    .arr [.obj [("type", .str type), ("value", .num (.num value))]])]
  [⟨"1", "f", some 1, some 60, stats "Shots Total" 9, 0⟩,
    ⟨"2", "f", some 1, some 61, stats "Corners" 3, 60000⟩]

end Sample

/-- The replay goes on with nine shots where the live path knows of none. -/
theorem replay_carries_shots :
    ¬ ∀ (R : Runtime) (history : List FixtureStatsSnapshot) (fixture : Fixture)
      (goals : List GoalEvent) (homeId awayId T : Int),
      LiveAgrees R history fixture goals homeId awayId T := by
  intro h
  let R : Runtime := { Sample.runtime with number := Sample.numberOfNumber }
  let snaps := snapshotsOf R Sample.sparse "f"
  obtain ⟨htick, hat⟩ := (@mem_ticks_iff R.number _
    (chronological_snapshotsOf R Sample.sparse "f") 60000 _).2
    ⟨⟨_, List.mem_filter.2 ⟨mem_sort.2 (List.mem_cons_of_mem _ List.mem_cons_self), rfl⟩, rfl⟩, rfl⟩
  have hgroup : ("f", snaps) ∈
      groupBy (·.fixtureId) (sort (snapshotOrder R.collation) Sample.sparse) :=
    mem_groupBy.2 ⟨⟨_, mem_sort.2 List.mem_cons_self, rfl⟩, rfl⟩
  have hinput := h R Sample.sparse Sample.liveFixture [] 1 2 60000 _ hgroup rfl _ htick hat 61
    (by decide +kernel) (by decide) _ (.refl _)
  have hshots := congrArg (fun input => input.home.totalShots) hinput
  revert hshots
  decide +kernel

end ApiScore
