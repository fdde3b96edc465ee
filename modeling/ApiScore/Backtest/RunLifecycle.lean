import ApiScore.Backtest.WalkForward
import ApiScore.Lib.Table
import Mathlib.Tactic.SplitIfs

/-!
# The life of a walk-forward run

The transition PENDING → RUNNING is conditional: a run is replayed once.  What follows is written by
the id of the run alone.  An execution whose lock was lost goes on after the run has been declared
orphaned; one that fails after it has inserted its folds makes the run FAILED with them.

* `RunsInOrder` — what the calls preserve.
* `lifecycleKept` — an execution writes its folds and its result only while the run has not been
  declared orphaned, and the run is made FAILED only before its folds have gone in.
* `run_lifecycle` — then a run is replayed once, a run that is over stays as it is, and a FAILED run
  has no folds.
* `orphan_completed` — an execution that has lost its lock completes a run that was FAILED.
-/

set_option autoImplicit false

namespace ApiScore

open Relational Concurrent
open WalkForwardCall (send)

/-! ## Reading the state -/

namespace WalkForwards

def status? (w : WalkForwards) (runId : String) : Option WalkForwardRunStatus :=
  (w.run? runId).map (·.status)

theorem run?_update {w : WalkForwards} {p : WalkForwardRun → Bool}
    {f : WalkForwardRun → WalkForwardRun} (hf : ∀ r, (f r).id = r.id) (id : String) :
    (w.update p f).run? id = (w.run? id).map fun r => if p r then f r else r := by
  refine Table.find?_map_key (g := WalkForwardRun.id) (fun r => ?_) id w.runs
  split_ifs
  · exact hf r
  · rfl

theorem id_of_run? {w : WalkForwards} {id : String} {r : WalkForwardRun} (h : w.run? id = some r) :
    r.id = id := by simpa using List.find?_some h

/-- A write by the id of a run changes the status of that run. -/
theorem status?_update {w : WalkForwards} {f : WalkForwardRun → WalkForwardRun}
    {s : WalkForwardRunStatus} (hf : ∀ r, (f r).id = r.id) (hs : ∀ r, (f r).status = s)
    (id j : String) : (w.update (·.id == id) f).status? j =
      if j = id then (w.status? j).map fun _ => s else w.status? j := by
  rw [status?, run?_update hf, status?, Option.map_map, Option.map_map]
  cases hr : w.run? j with
  | none => simp
  | some r =>
    have hid : r.id = j := id_of_run? hr
    simp only [Option.map_some, Function.comp_apply, hid, beq_iff_eq]
    split_ifs
    · rw [hs]
    · rfl

/-- The update of the orphans makes those FAILED. -/
theorem status?_failOrphaned {w : WalkForwards} {now : Int}
    {f : WalkForwardRun → WalkForwardRun} (hf : ∀ r, (f r).id = r.id)
    (hs : ∀ r, (f r).status = .failed) (j : String) :
    (w.update (w.isOrphaned now) f).status? j =
      if (w.run? j).any (w.isOrphaned now) then some .failed else w.status? j := by
  rw [status?, run?_update hf, status?, Option.map_map]
  cases hr : w.run? j with
  | none => simp
  | some r =>
    simp only [Option.map_some, Function.comp_apply, Option.any_some]
    split_ifs
    · rw [hs]
    · rfl

end WalkForwards

/-- How often the run has been replayed. -/
def replays (runId : String) (trace : List WalkForwardEvent) : Nat :=
  trace.countP fun
    | .replaying _ id => id == runId
    | _ => false

/-! ## What the calls preserve -/

structure RunsInOrder (w : WalkForwards) : Prop where
  /-- A run is claimed by one call, -/
  once : ∀ i j id, .claimed i id ∈ w.trace → .claimed j id ∈ w.trace → i = j
  /-- and never pending again. -/
  begun : ∀ i id, .claimed i id ∈ w.trace → ∃ s, w.status? id = some s ∧ s ≠ .pending
  owner : ∀ i id, .replaying i id ∈ w.trace → .claimed i id ∈ w.trace
  replay : ∀ id, replays id w.trace ≤ 1
  givenUp : ∀ id, .gaveUp id ∈ w.trace → ∃ i, .claimed i id ∈ w.trace
  folded : ∀ f ∈ w.folds, .folded f.runId ∈ w.trace
  done : ∀ id, w.status? id = some .completed → .completed id ∈ w.trace
  ended : ∀ id, w.status? id = some .failed → .gaveUp id ∈ w.trace ∨ .orphaned id ∈ w.trace
  failed : ∀ id, w.status? id = some .failed → ∀ f ∈ w.folds, f.runId ≠ id

/-- A run that is over stays as it is. -/
def FinalStays (w w' : WalkForwards) : Prop :=
  ∀ id s, w.status? id = some s → s.isFinal = true → w'.status? id = some s

/-- An execution writes its folds and its result only while the run has not been declared orphaned;
a run is made FAILED, by its execution or as an orphan, only before its folds have gone in and before
it has been completed.  A statement that is refused does nothing. -/
def lifecycleKept (_ : CallId) (a : WalkForwardAction)
    (input : WalkForwardInput × Option StatementFault) (w : WalkForwards) : Bool :=
  input.2 == some .refused ||
    match a with
    | .insertFolds id _ | .complete id _ => !w.trace.contains (.orphaned id)
    | .fail id => !w.trace.contains (.folded id) && !w.trace.contains (.completed id)
    | .failOrphaned => (w.runs.filter (w.isOrphaned input.1.now)).all fun r =>
        !w.trace.contains (.folded r.id)
    | _ => true

/-- When a statement is sent: an execution writes about the run it has claimed, and no more once it
has given up. -/
def WalkForwardReady (i : CallId) : WalkForwardAction → WalkForwards → Prop
  | .startReplay id, w => .claimed i id ∈ w.trace ∧ .replaying i id ∉ w.trace
  | .insertFolds id rows, w => .claimed i id ∈ w.trace ∧ .gaveUp id ∉ w.trace ∧
      ∀ f ∈ rows, f.runId = id
  | .complete id _, w => .claimed i id ∈ w.trace ∧ .gaveUp id ∉ w.trace
  | .fail id, w => .claimed i id ∈ w.trace
  | _, _ => True

/-- What a call relies on: what has happened stays noted, and nobody else replays for it or gives its
runs up. -/
structure WalkForwardBeside (i : CallId) (w w' : WalkForwards) : Prop where
  stays : ∀ e ∈ w.trace, e ∈ w'.trace
  replaying : ∀ id, .replaying i id ∈ w'.trace → .replaying i id ∈ w.trace
  gaveUp : ∀ id, .claimed i id ∈ w.trace → .gaveUp id ∈ w'.trace → .gaveUp id ∈ w.trace

theorem WalkForwardBeside.refl (i : CallId) (w : WalkForwards) : WalkForwardBeside i w w :=
  ⟨fun _ h => h, fun _ h => h, fun _ _ h => h⟩

theorem WalkForwardBeside.trans {i : CallId} {w w' w'' : WalkForwards}
    (h : WalkForwardBeside i w w') (h' : WalkForwardBeside i w' w'') :
    WalkForwardBeside i w w'' where
  stays e he := h'.stays e (h.stays e he)
  replaying id hid := h.replaying id (h'.replaying id hid)
  gaveUp id hclaimed hid := h.gaveUp id hclaimed (h'.gaveUp id (h.stays _ hclaimed) hid)

def lifecycle : Contract WalkForwardAction CallId WalkForwards where
  inv := RunsInOrder
  pre := WalkForwardReady
  guar i w w' := (∀ j, i ≠ j → WalkForwardBeside j w w') ∧ FinalStays w w' ∧
    ∀ e ∈ w.trace, e ∈ w'.trace
  rely := WalkForwardBeside
  fresh i w := ∀ id, .replaying i id ∉ w.trace
  refl := WalkForwardBeside.refl
  trans _ _ _ _ h h' := h.trans h'

/-! ## What a statement does -/

section Statements

open WalkForwards

variable {i j : CallId} {w w' : WalkForwards} {input : WalkForwardInput × Option StatementFault}
  {id : String} {f : WalkForwardRun → WalkForwardRun}

theorem FinalStays.refl (w : WalkForwards) : FinalStays w w := fun _ _ h _ => h

/-- Nothing but the locks has changed. -/
theorem RunsInOrder.locks {locks : List (CallId × String)} (h : RunsInOrder w) :
    RunsInOrder { w with locks } :=
  ⟨h.once, h.begun, h.owner, h.replay, h.givenUp, h.folded, h.done, h.ended, h.failed⟩

/-- A run more. -/
theorem create_inOrder {folds : List FoldWindow} {now : Int} (h : RunsInOrder w)
    (hnew : w.run? id = none) :
    RunsInOrder { w with runs := newRun id folds now :: w.runs } ∧
      FinalStays w { w with runs := newRun id folds now :: w.runs } := by
  have hstatus (k : String) : ({ w with runs := newRun id folds now :: w.runs } :
      WalkForwards).status? k = if k = id then some .pending else w.status? k := by
    rw [status?, run?, List.find?_cons]
    by_cases hk : k = id
    · simp [newRun, hk]
    · have hid : ((newRun id folds now).id == k) = false := beq_false_of_ne (Ne.symm hk)
      rw [hid, if_neg hk]
      rfl
  have hnone : w.status? id = none := by rw [status?, hnew, Option.map_none]
  have hkeep {k : String} {s : WalkForwardRunStatus} (hk : w.status? k = some s) : k ≠ id := by
    rintro rfl
    rw [hnone] at hk
    cases hk
  have hback {k : String} {s : WalkForwardRunStatus} (hs : s ≠ .pending)
      (hk : ({ w with runs := newRun id folds now :: w.runs } : WalkForwards).status? k = some s) :
      w.status? k = some s := by
    rw [hstatus] at hk
    split_ifs at hk
    · exact (hs (Option.some.inj hk).symm).elim
    · exact hk
  refine ⟨⟨h.once, fun i k hk => ?_, h.owner, h.replay, h.givenUp, h.folded,
    fun k hk => h.done k (hback nofun hk), fun k hk => h.ended k (hback nofun hk),
    fun k hk => h.failed k (hback nofun hk)⟩, fun k s hk _ => ?_⟩
  · obtain ⟨s, hs, hne⟩ := h.begun i k hk
    exact ⟨s, by rw [hstatus, if_neg (hkeep hs), hs], hne⟩
  · rw [hstatus, if_neg (hkeep hk), hk]

/-- What a change of status and a note do to what is read. -/
structure Rewritten (w w' : WalkForwards) (p : String → Bool) (s : WalkForwardRunStatus)
    (events : List WalkForwardEvent) : Prop where
  status : ∀ k, w'.status? k = if p k then (w.status? k).map fun _ => s else w.status? k
  folds : w'.folds = w.folds
  trace : w'.trace = events ++ w.trace

/-- A write by the id of a run. -/
theorem rewritten_update {s : WalkForwardRunStatus} {events : List WalkForwardEvent}
    (hf : ∀ r, (f r).id = r.id) (hs : ∀ r, (f r).status = s) :
    Rewritten w ((w.update (·.id == id) f).note events) (· == id) s events where
  status k := by
    refine (status?_update hf hs id k).trans ?_
    simp only [beq_iff_eq]
  folds := rfl
  trace := rfl

/-- The update of the orphans. -/
theorem rewritten_failOrphaned {now : Int} {events : List WalkForwardEvent}
    (hf : ∀ r, (f r).id = r.id) (hs : ∀ r, (f r).status = .failed) :
    Rewritten w ((w.update (w.isOrphaned now) f).note events)
      (fun k => (w.run? k).any (w.isOrphaned now)) .failed events where
  status k := by
    refine (status?_failOrphaned hf hs k).trans ?_
    rw [status?]
    cases w.run? k <;> rfl
  folds := rfl
  trace := rfl

variable {p : String → Bool} {s : WalkForwardRunStatus} {events : List WalkForwardEvent}

theorem replays_append (h : ∀ e ∈ events, ∀ i k, e ≠ .replaying i k) (trace : List WalkForwardEvent) :
    replays id (events ++ trace) = replays id trace := by
  rw [replays, List.countP_append, List.countP_eq_zero.2, Nat.zero_add, replays]
  intro e he hcount
  cases e with
  | replaying i k => exact h _ he i k rfl
  | claimed | folded | completed | gaveUp | orphaned => cases hcount

/-- **A change of status keeps the runs in order**: a claim is of a run that nobody has claimed, a run
that is completed or failed is noted as such, and one that is failed has no folds. -/
theorem Rewritten.inOrder (hr : Rewritten w w' p s events) (h : RunsInOrder w) (hnew : s ≠ .pending)
    (hquiet : ∀ e ∈ events, ∀ i k, e ≠ .replaying i k)
    (hclaim : ∀ i k, .claimed i k ∈ events → (p k = true ∧ w.status? k ≠ none) ∧
      ∀ j, .claimed j k ∈ events ++ w.trace → i = j)
    (hgiven : ∀ k, .gaveUp k ∈ events → ∃ i, .claimed i k ∈ w.trace)
    (hdone : s = .completed → ∀ k, p k = true → .completed k ∈ events)
    (hended : s = .failed → ∀ k, p k = true → .gaveUp k ∈ events ∨ .orphaned k ∈ events)
    (hfailed : s = .failed → ∀ k, p k = true → ∀ f ∈ w.folds, f.runId ≠ k) : RunsInOrder w' := by
  have hold {k : String} {u : WalkForwardRunStatus} (hk : w'.status? k = some u) :
      w.status? k = some u ∨ p k = true ∧ u = s := by
    rw [hr.status] at hk
    split_ifs at hk with hp
    · obtain ⟨-, -, hu⟩ := Option.map_eq_some_iff.1 hk
      exact .inr ⟨hp, hu.symm⟩
    · exact .inl hk
  have hmono {e : WalkForwardEvent} (he : e ∈ w.trace) : e ∈ w'.trace := by
    rw [hr.trace]
    exact List.mem_append_right _ he
  constructor
  · intro i j k hi hj
    rw [hr.trace] at hi hj
    rcases List.mem_append.1 hi with hi' | hi'
    · exact (hclaim i k hi').2 j hj
    · rcases List.mem_append.1 hj with hj' | hj'
      · exact ((hclaim j k hj').2 i hi).symm
      · exact h.once i j k hi' hj'
  · intro i k hi
    rw [hr.trace] at hi
    have hsome : ∃ u, w.status? k = some u ∧ (p k = true ∨ u ≠ .pending) := by
      rcases List.mem_append.1 hi with hi' | hi'
      · obtain ⟨⟨hp, hsome⟩, -⟩ := hclaim i k hi'
        obtain ⟨u, hu⟩ := Option.ne_none_iff_exists'.1 hsome
        exact ⟨u, hu, .inl hp⟩
      · obtain ⟨u, hu, hne⟩ := h.begun i k hi'
        exact ⟨u, hu, .inr hne⟩
    obtain ⟨u, hu, hor⟩ := hsome
    rw [hr.status, hu]
    split_ifs with hp
    · exact ⟨s, rfl, hnew⟩
    · exact ⟨u, rfl, hor.resolve_left hp⟩
  · intro i k hi
    rw [hr.trace] at hi
    rcases List.mem_append.1 hi with hi' | hi'
    · exact (hquiet _ hi' i k rfl).elim
    · exact hmono (h.owner i k hi')
  · intro k
    rw [hr.trace, replays_append hquiet]
    exact h.replay k
  · intro k hk
    rw [hr.trace] at hk
    obtain ⟨i, hi⟩ := (List.mem_append.1 hk).elim (hgiven k) (h.givenUp k)
    exact ⟨i, hmono hi⟩
  · intro f hf
    rw [hr.folds] at hf
    exact hmono (h.folded f hf)
  · intro k hk
    rcases hold hk with hk | ⟨hp, hs⟩
    · exact hmono (h.done k hk)
    · rw [hr.trace]
      exact List.mem_append_left _ (hdone hs.symm k hp)
  · intro k hk
    rcases hold hk with hk | ⟨hp, hs⟩
    · exact (h.ended k hk).imp hmono hmono
    · rw [hr.trace]
      exact (hended hs.symm k hp).imp (List.mem_append_left _) (List.mem_append_left _)
  · intro k hk f hf
    rw [hr.folds] at hf
    rcases hold hk with hk | ⟨hp, hs⟩
    · exact h.failed k hk f hf
    · exact hfailed hs.symm k hp f hf

theorem Rewritten.finalStays (hr : Rewritten w w' p s events)
    (hfinal : ∀ k u, p k = true → w.status? k = some u → u.isFinal = true → u = s) :
    FinalStays w w' := by
  intro k u hu hend
  rw [hr.status, hu]
  split_ifs with hp
  · rw [hfinal k u hp hu hend]
    rfl
  · rfl

/-- PENDING → RUNNING, of a run nobody has claimed. -/
theorem claim_inOrder (h : RunsInOrder w) (hpending : w.status? id = some .pending)
    (hr : Rewritten w w' (· == id) .running [.claimed i id]) : RunsInOrder w' ∧ FinalStays w w' := by
  have hfree (j : CallId) : .claimed j id ∉ w.trace := fun hj => by
    obtain ⟨u, hu, hne⟩ := h.begun j id hj
    rw [hpending] at hu
    exact hne (Option.some.inj hu).symm
  refine ⟨hr.inOrder h nofun (fun e he => ?_) (fun j k hk => ?_) (by simp) nofun nofun nofun,
    hr.finalStays fun k u hk hu hend => ?_⟩
  · rw [List.mem_singleton.1 he]
    nofun
  · obtain ⟨rfl, rfl⟩ := WalkForwardEvent.claimed.inj (List.mem_singleton.1 hk)
    refine ⟨⟨beq_self_eq_true _, by rw [hpending]; nofun⟩, fun l hl => ?_⟩
    rcases List.mem_cons.1 hl with hl | hl
    · exact (WalkForwardEvent.claimed.inj hl).1.symm
    · exact (hfree l hl).elim
  · rw [beq_iff_eq.1 hk, hpending] at hu
    rw [← Option.some.inj hu] at hend
    cases hend

/-- The result of a run that has not been given up. -/
theorem complete_inOrder (h : RunsInOrder w) (hfailed : w.status? id ≠ some .failed)
    (hr : Rewritten w w' (· == id) .completed [.completed id]) :
    RunsInOrder w' ∧ FinalStays w w' := by
  refine ⟨hr.inOrder h nofun (fun e he => ?_) (fun j k hk => ?_) (by simp) (fun _ k hk => ?_) nofun
    nofun, hr.finalStays fun k u hk hu hend => ?_⟩
  · rw [List.mem_singleton.1 he]
    nofun
  · cases List.mem_singleton.1 hk
  · rw [beq_iff_eq.1 hk]
    exact List.mem_singleton_self _
  · cases u with
    | completed => rfl
    | failed =>
      rw [beq_iff_eq.1 hk] at hu
      exact (hfailed hu).elim
    | pending | running => cases hend

/-- A run is made FAILED before its folds have gone in, and before it has been completed. -/
theorem fail_inOrder (h : RunsInOrder w) (hr : Rewritten w w' p .failed events)
    (hevents : ∀ e ∈ events, ∃ k, e = .gaveUp k ∨ e = .orphaned k)
    (hgiven : ∀ k, .gaveUp k ∈ events → ∃ i, .claimed i k ∈ w.trace)
    (hnoted : ∀ k, p k = true → .gaveUp k ∈ events ∨ .orphaned k ∈ events)
    (hfolds : ∀ k, p k = true → .folded k ∉ w.trace)
    (hopen : ∀ k, p k = true → w.status? k ≠ some .completed) :
    RunsInOrder w' ∧ FinalStays w w' := by
  refine ⟨hr.inOrder h nofun (fun e he i k => ?_) (fun j k hk => ?_) hgiven nofun (fun _ => hnoted)
    (fun _ k hk f hf hid => ?_), hr.finalStays fun k u hk hu hend => ?_⟩
  · obtain ⟨l, rfl | rfl⟩ := hevents e he
    · nofun
    · nofun
  · obtain ⟨l, hl | hl⟩ := hevents _ hk
    · cases hl
    · cases hl
  · exact hfolds k hk (hid ▸ h.folded f hf)
  · cases u with
    | failed => rfl
    | completed => exact (hopen k hk hu).elim
    | pending | running => cases hend

/-- A replay that begins is the first of its run. -/
theorem startReplay_inOrder (h : RunsInOrder w) (hclaimed : .claimed i id ∈ w.trace)
    (hfirst : .replaying i id ∉ w.trace) : RunsInOrder (w.note [.replaying i id]) := by
  have hnone : replays id w.trace = 0 := by
    rw [replays, List.countP_eq_zero]
    intro e he hcount
    cases e with
    | replaying j k =>
      obtain rfl : k = id := beq_iff_eq.1 hcount
      rw [h.once j i k (h.owner j k he) hclaimed] at he
      exact hfirst he
    | claimed | folded | completed | gaveUp | orphaned => cases hcount
  have hold {e : WalkForwardEvent} (hne : ∀ j k, e ≠ .replaying j k)
      (he : e ∈ (w.note [.replaying i id]).trace) : e ∈ w.trace :=
    (List.mem_cons.1 he).resolve_left (hne i id)
  refine ⟨fun j l k hj hl => h.once j l k (hold nofun hj) (hold nofun hl),
    fun j k hj => h.begun j k (hold nofun hj), fun j k hj => ?_, fun k => ?_,
    fun k hk => (h.givenUp k (hold nofun hk)).imp fun _ => List.mem_cons_of_mem _,
    fun f hf => List.mem_cons_of_mem _ (h.folded f hf),
    fun k hk => List.mem_cons_of_mem _ (h.done k hk),
    fun k hk => (h.ended k hk).imp (List.mem_cons_of_mem _) (List.mem_cons_of_mem _), h.failed⟩
  · rcases List.mem_cons.1 hj with hj | hj
    · obtain ⟨rfl, rfl⟩ := WalkForwardEvent.replaying.inj hj
      exact List.mem_cons_of_mem _ hclaimed
    · exact List.mem_cons_of_mem _ (h.owner j k hj)
  · by_cases hk : id = k
    · subst hk
      rw [note, List.singleton_append, replays, List.countP_cons, ← replays, hnone]
      split_ifs
      · exact le_refl 1
      · exact Nat.zero_le 1
    · rw [note, List.singleton_append, replays, List.countP_cons, ← replays,
        if_neg (by simpa using hk)]
      exact h.replay k

/-- The folds of a run that has not been given up go in. -/
theorem insertFolds_inOrder {rows : List WalkForwardFold} (h : RunsInOrder w)
    (hrows : ∀ f ∈ rows, f.runId = id) (hfailed : w.status? id ≠ some .failed) :
    RunsInOrder ({ w with folds := rows ++ w.folds }.note [.folded id]) := by
  have hold {e : WalkForwardEvent} (hne : e ≠ .folded id)
      (he : e ∈ ({ w with folds := rows ++ w.folds }.note [.folded id]).trace) : e ∈ w.trace :=
    (List.mem_cons.1 he).resolve_left hne
  refine ⟨fun j l k hj hl => h.once j l k (hold nofun hj) (hold nofun hl),
    fun j k hj => h.begun j k (hold nofun hj),
    fun j k hj => List.mem_cons_of_mem _ (h.owner j k (hold nofun hj)), fun k => ?_,
    fun k hk => (h.givenUp k (hold nofun hk)).imp fun _ => List.mem_cons_of_mem _, fun f hf => ?_,
    fun k hk => List.mem_cons_of_mem _ (h.done k hk),
    fun k hk => (h.ended k hk).imp (List.mem_cons_of_mem _) (List.mem_cons_of_mem _),
    fun k hk f hf => ?_⟩
  · have hsame : replays k ([.folded id] ++ w.trace) = replays k w.trace :=
      replays_append (fun e he i k => by rw [List.mem_singleton.1 he]; nofun) w.trace
    exact hsame.trans_le (h.replay k)
  · rcases List.mem_append.1 hf with hf | hf
    · rw [hrows f hf]
      exact List.mem_cons_self
    · exact List.mem_cons_of_mem _ (h.folded f hf)
  · rcases List.mem_append.1 hf with hf | hf
    · rw [hrows f hf]
      rintro rfl
      exact hfailed hk
    · exact h.failed k hk f hf

/-- A run that an execution writes about is not FAILED, where neither it nor the update of the
orphans has made it so. -/
theorem not_failed (h : RunsInOrder w) (hgaveUp : .gaveUp id ∉ w.trace)
    (horphaned : .orphaned id ∉ w.trace) : w.status? id ≠ some .failed :=
  fun hid => (h.ended id hid).elim hgaveUp horphaned

/-- **A statement in order keeps the runs in order, and those that are over as they are.** -/
theorem serve_inOrder {a : WalkForwardAction} {x : a.Answer} (h : RunsInOrder w)
    (hpre : WalkForwardReady i a w) (hallow : lifecycleKept i a input w = true)
    (hdone : input.2 ≠ some .refused)
    (hs : walkForwardService.serve i a input.1 w = some (x, w')) :
    RunsInOrder w' ∧ FinalStays w w' := by
  have hmay := hallow
  simp only [lifecycleKept, beq_iff_eq, Bool.or_eq_true, hdone, false_or] at hmay
  cases a with
  | create folds =>
    simp only [walkForwardService, WalkForwards.serve] at hs
    split_ifs at hs with hnew
    obtain rfl := congrArg Prod.snd (Option.some.inj hs)
    exact create_inOrder h (by simpa using hnew)
  | getLock k =>
    simp only [walkForwardService, WalkForwards.serve] at hs
    split_ifs at hs
    · obtain rfl := congrArg Prod.snd (Option.some.inj hs)
      exact ⟨h, .refl w⟩
    · obtain rfl := congrArg Prod.snd (Option.some.inj hs)
      exact ⟨h.locks, .refl w⟩
  | releaseLock k =>
    obtain rfl := congrArg Prod.snd (Option.some.inj hs)
    exact ⟨h.locks, .refl w⟩
  | claim k =>
    simp only [walkForwardService, WalkForwards.serve] at hs
    split_ifs at hs with hpending
    · obtain rfl := congrArg Prod.snd (Option.some.inj hs)
      obtain ⟨r, hr, hstatus⟩ := (Option.any_eq_true ..).1 hpending
      refine claim_inOrder h ?_ (rewritten_update (fun _ => rfl) fun _ => rfl)
      rw [status?, hr, Option.map_some, beq_iff_eq.1 hstatus]
    · obtain rfl := congrArg Prod.snd (Option.some.inj hs)
      exact ⟨h, .refl w⟩
  | findRun | endReplay =>
    obtain rfl := congrArg Prod.snd (Option.some.inj hs)
    exact ⟨h, .refl w⟩
  | startReplay k =>
    obtain rfl := congrArg Prod.snd (Option.some.inj hs)
    exact ⟨startReplay_inOrder h hpre.1 hpre.2, .refl w⟩
  | insertFolds k rows =>
    simp only [walkForwardService, WalkForwards.serve] at hs
    split_ifs at hs
    obtain rfl := congrArg Prod.snd (Option.some.inj hs)
    exact ⟨insertFolds_inOrder h hpre.2.2 (not_failed h hpre.2.1 (by simpa using hmay)), .refl w⟩
  | complete k outcome =>
    obtain rfl := congrArg Prod.snd (Option.some.inj hs)
    exact complete_inOrder h (not_failed h hpre.2 (by simpa using hmay))
      (rewritten_update (fun _ => rfl) fun _ => rfl)
  | fail k =>
    obtain rfl := congrArg Prod.snd (Option.some.inj hs)
    simp only [Bool.and_eq_true, Bool.not_eq_true', List.contains_eq_mem,
      decide_eq_false_iff_not] at hmay
    refine fail_inOrder h (rewritten_update (fun _ => rfl) fun _ => rfl)
      (fun e he => ⟨k, .inl (List.mem_singleton.1 he)⟩) (fun l hl => ?_) (fun l hl => ?_)
      (fun l hl => ?_) fun l hl hcompleted => ?_
    · rw [WalkForwardEvent.gaveUp.inj (List.mem_singleton.1 hl)]
      exact ⟨i, hpre⟩
    · rw [beq_iff_eq.1 hl]
      exact .inl (List.mem_singleton_self _)
    · rw [beq_iff_eq.1 hl]
      exact hmay.1
    · rw [beq_iff_eq.1 hl] at hcompleted
      exact hmay.2 (h.done k hcompleted)
  | failOrphaned =>
    obtain rfl := congrArg Prod.snd (Option.some.inj hs)
    simp only [List.all_eq_true, Bool.not_eq_true', List.contains_eq_mem,
      decide_eq_false_iff_not] at hmay
    have hrun {l : String} (hl : (w.run? l).any (w.isOrphaned input.1.now) = true) :
        ∃ r ∈ w.runs.filter (w.isOrphaned input.1.now), r.id = l ∧ w.run? l = some r := by
      obtain ⟨r, hr, horphan⟩ := (Option.any_eq_true ..).1 hl
      exact ⟨r, List.mem_filter.2 ⟨List.mem_of_find?_eq_some hr, horphan⟩, id_of_run? hr, hr⟩
    refine fail_inOrder h (rewritten_failOrphaned (fun _ => rfl) fun _ => rfl) (fun e he => ?_)
      (fun l hl => ?_) (fun l hl => ?_) (fun l hl => ?_) fun l hl hcompleted => ?_
    · obtain ⟨r, -, rfl⟩ := List.mem_map.1 he
      exact ⟨r.id, .inr rfl⟩
    · obtain ⟨r, -, hr⟩ := List.mem_map.1 hl
      cases hr
    · obtain ⟨r, hr, rfl, -⟩ := hrun hl
      exact .inr (List.mem_map.2 ⟨r, hr, rfl⟩)
    · obtain ⟨r, hr, rfl, -⟩ := hrun hl
      exact hmay r hr
    · obtain ⟨r, hr, -, hfound⟩ := hrun hl
      rw [status?, hfound, Option.map_some] at hcompleted
      have horphan := (List.mem_filter.1 hr).2
      simp only [isOrphaned, Option.some.inj hcompleted, WalkForwardRunStatus.isFinal,
        Bool.not_true, Bool.false_and, Bool.false_eq_true] at horphan

/-- What a statement notes. -/
def WalkForwardAction.notes (i : CallId) : WalkForwardAction → List WalkForwardEvent → Prop
  | .claim id, events => events = [] ∨ events = [.claimed i id]
  | .startReplay id, events => events = [.replaying i id]
  | .insertFolds id _, events => events = [.folded id]
  | .complete id _, events => events = [.completed id]
  | .fail id, events => events = [.gaveUp id]
  | .failOrphaned, events => ∀ e ∈ events, ∃ id, e = .orphaned id
  | _, events => events = []

theorem serve_notes {a : WalkForwardAction} {x : a.Answer} {n : WalkForwardInput}
    (hs : walkForwardService.serve i a n w = some (x, w')) :
    ∃ events, w'.trace = events ++ w.trace ∧ a.notes i events := by
  cases a with
  | create folds | getLock k =>
    simp only [walkForwardService, WalkForwards.serve] at hs
    split_ifs at hs <;>
    · obtain rfl := congrArg Prod.snd (Option.some.inj hs)
      exact ⟨[], rfl, rfl⟩
  | claim k =>
    simp only [walkForwardService, WalkForwards.serve] at hs
    split_ifs at hs
    · obtain rfl := congrArg Prod.snd (Option.some.inj hs)
      exact ⟨_, rfl, .inr rfl⟩
    · obtain rfl := congrArg Prod.snd (Option.some.inj hs)
      exact ⟨[], rfl, .inl rfl⟩
  | releaseLock | findRun | endReplay =>
    obtain rfl := congrArg Prod.snd (Option.some.inj hs)
    exact ⟨[], rfl, rfl⟩
  | startReplay | complete | fail =>
    obtain rfl := congrArg Prod.snd (Option.some.inj hs)
    exact ⟨_, rfl, rfl⟩
  | insertFolds k rows =>
    simp only [walkForwardService, WalkForwards.serve] at hs
    split_ifs at hs
    obtain rfl := congrArg Prod.snd (Option.some.inj hs)
    exact ⟨_, rfl, rfl⟩
  | failOrphaned =>
    obtain rfl := congrArg Prod.snd (Option.some.inj hs)
    refine ⟨_, rfl, fun e he => ?_⟩
    obtain ⟨r, -, rfl⟩ := List.mem_map.1 he
    exact ⟨r.id, rfl⟩

/-- A statement is beside the other calls: it gives up only what its own call has claimed. -/
theorem serve_besideOthers {a : WalkForwardAction} {x : a.Answer} (h : RunsInOrder w)
    (hpre : WalkForwardReady i a w) (hij : i ≠ j)
    (hs : walkForwardService.serve i a input.1 w = some (x, w')) : WalkForwardBeside j w w' := by
  obtain ⟨events, htrace, hnotes⟩ := serve_notes hs
  have hquiet : (∀ id, .replaying j id ∉ events) ∧
      ∀ id, .claimed j id ∈ w.trace → .gaveUp id ∉ events := by
    cases a with
    | create | getLock | releaseLock | findRun | endReplay =>
      obtain rfl : events = [] := hnotes
      exact ⟨by simp, by simp⟩
    | claim k =>
      rcases hnotes with rfl | rfl
      · exact ⟨by simp, by simp⟩
      · exact ⟨by simp, by simp⟩
    | startReplay k =>
      obtain rfl : events = [.replaying i k] := hnotes
      refine ⟨fun id hid => hij ?_, by simp⟩
      exact (WalkForwardEvent.replaying.inj (List.mem_singleton.1 hid)).1.symm
    | insertFolds k rows =>
      obtain rfl : events = [.folded k] := hnotes
      exact ⟨by simp, by simp⟩
    | complete k outcome =>
      obtain rfl : events = [.completed k] := hnotes
      exact ⟨by simp, by simp⟩
    | fail k =>
      obtain rfl : events = [.gaveUp k] := hnotes
      refine ⟨by simp, fun id hclaimed hid => hij ?_⟩
      obtain rfl := WalkForwardEvent.gaveUp.inj (List.mem_singleton.1 hid)
      exact h.once i j id hpre hclaimed
    | failOrphaned =>
      refine ⟨fun id hid => ?_, fun id _ hid => ?_⟩
      · obtain ⟨k, hk⟩ := hnotes _ hid
        cases hk
      · obtain ⟨k, hk⟩ := hnotes _ hid
        cases hk
  refine ⟨fun e he => ?_, fun id hid => ?_, fun id hclaimed hid => ?_⟩
  · rw [htrace]
    exact List.mem_append_right _ he
  · rw [htrace] at hid
    exact (List.mem_append.1 hid).resolve_left (hquiet.1 id)
  · rw [htrace] at hid
    exact (List.mem_append.1 hid).resolve_left (hquiet.2 id hclaimed)

end Statements

/-! ## The calls -/

/-- The calls, as far as they are kept in order. -/
abbrev keptRuns : System WalkForwardAction (Reply WalkForwardAction.Answer) CallId WalkForwards :=
  (walkForwardService.machine lifecycleKept).system

section Calls

variable {i : CallId} {w w' : WalkForwards} {id : String}

/-- The call has claimed the run, and has not given it up. -/
def Working (i : CallId) (id : String) (w : WalkForwards) : Prop :=
  .claimed i id ∈ w.trace ∧ .gaveUp id ∉ w.trace

theorem Working.stable (h : Working i id w) (hb : WalkForwardBeside i w w') : Working i id w' :=
  ⟨hb.stays _ h.1, fun hid => h.2 (hb.gaveUp id h.1 hid)⟩

/-- A statement that gives nothing up. -/
theorem Working.own {a : WalkForwardAction} {x : a.Answer} {input : WalkForwardInput}
    (h : Working i id w) (hs : walkForwardService.serve i a input w = some (x, w'))
    (hno : ∀ events, a.notes i events → .gaveUp id ∉ events) : Working i id w' := by
  obtain ⟨events, htrace, hnotes⟩ := serve_notes hs
  rw [Working, htrace]
  refine ⟨List.mem_append_right _ h.1, fun hid => ?_⟩
  exact (List.mem_append.1 hid).elim (hno events hnotes) h.2

theorem replayAndStore_spec {run : WalkForwardRun} (h : Working i run.id w)
    (hfirst : .replaying i run.id ∉ w.trace) :
    Spec keptRuns lifecycle i (fun _ _ => True) (replayAndStore run) w := by
  rw [replayAndStore]
  refine Spec.stmt fun w₁ hb₁ _ => ⟨⟨(h.stable hb₁).1, fun hr => hfirst (hb₁.replaying _ hr)⟩,
    fun input₁ _ w₂ _ hs₁ _ _ => ?_⟩
  have h₂ : Working i run.id w₂ := (h.stable hb₁).own hs₁ (by simp [WalkForwardAction.notes])
  refine Spec.stmt fun w₃ hb₃ _ => ⟨trivial, fun input₃ outcome w₄ _ hs₃ _ _ => ?_⟩
  have h₄ : Working i run.id w₄ := (h₂.stable hb₃).own hs₃ (by simp [WalkForwardAction.notes])
  dsimp only
  have hcomplete {w₅ : WalkForwards} (h₅ : Working i run.id w₅) :
      Spec keptRuns lifecycle i (fun _ _ => True) (send (.complete run.id outcome)) w₅ :=
    Spec.stmt_last fun w₆ hb₆ _ => ⟨h₅.stable hb₆, fun _ _ _ _ _ _ _ _ _ _ => trivial⟩
  split_ifs
  · refine Spec.stmt fun w₅ hb₅ _ => ⟨⟨(h₄.stable hb₅).1, (h₄.stable hb₅).2, fun f hf => ?_⟩,
      fun input₅ _ w₆ _ hs₅ _ _ => ?_⟩
    · obtain ⟨window, -, rfl⟩ := List.mem_map.1 hf
      rfl
    · exact hcomplete ((h₄.stable hb₅).own hs₅ (by simp [WalkForwardAction.notes]))
  · exact hcomplete h₄

/-- A run that is claimed has not been given up. -/
theorem working_of_claim {input : WalkForwardInput} (hinv : RunsInOrder w)
    (hs : walkForwardService.serve i (.claim id) input w = some (true, w')) : Working i id w' := by
  simp only [walkForwardService, WalkForwards.serve] at hs
  split_ifs at hs with hpending
  · obtain rfl := congrArg Prod.snd (Option.some.inj hs)
    obtain ⟨r, hr, hstatus⟩ := (Option.any_eq_true ..).1 hpending
    refine ⟨List.mem_cons_self, fun hid => ?_⟩
    obtain ⟨j, hj⟩ := hinv.givenUp id ((List.mem_cons.1 hid).resolve_left nofun)
    obtain ⟨s, hs, hne⟩ := hinv.begun j id hj
    rw [WalkForwards.status?, hr, Option.map_some, beq_iff_eq.1 hstatus] at hs
    exact hne (Option.some.inj hs).symm
  · cases congrArg Prod.fst (Option.some.inj hs)

theorem executeLeased_spec (hfirst : ∀ k, .replaying i k ∉ w.trace) :
    Spec keptRuns lifecycle i (fun _ _ => True) (executeLeased id) w := by
  rw [executeLeased]
  refine Spec.stmt fun w₁ hb₁ hinv₁ => ⟨trivial, fun input₁ claimed w₂ _ hs₁ _ _ => ?_⟩
  cases claimed with
  | false => exact Spec.pure fun _ _ _ => trivial
  | true =>
    have h₂ : Working i id w₂ := working_of_claim hinv₁ hs₁
    have hfirst₂ (k : String) : .replaying i k ∉ w₂.trace := by
      obtain ⟨events, htrace, hnotes⟩ := serve_notes hs₁
      rw [htrace, List.mem_append, not_or]
      refine ⟨?_, fun hk => hfirst k (hb₁.replaying k hk)⟩
      rcases hnotes with rfl | rfl
      · simp
      · simp
    refine Spec.stmt fun w₃ hb₃ _ => ⟨trivial, fun input₃ found w₄ _ hs₃ hinv₄ _ => ?_⟩
    obtain ⟨hfound, rfl⟩ := Prod.mk.inj (Option.some.inj hs₃)
    cases found with
    | none => exact Spec.throw
    | some run =>
      obtain rfl : run.id = id := WalkForwards.id_of_run? hfound
      have h₃ := h₂.stable hb₃
      refine Spec.tryCatch_frame (P := fun s => .claimed i run.id ∈ s.trace)
        (replayAndStore_spec h₃ fun hk => hfirst₂ _ (hb₃.replaying _ hk)) hinv₄ h₃.1
        (fun _ _ hb hc => hb.stays _ hc) (fun _ _ hg hc => hg.2.2 _ hc) (fun _ _ _ _ _ => trivial)
        fun e w₅ _ hclaimed => ?_
      refine Spec.stmt fun w₆ hb₆ _ => ⟨hb₆.stays _ hclaimed, fun _ _ w₇ _ _ _ _ => ?_⟩
      exact Spec.throw

theorem releaseLease_spec (hinv : RunsInOrder w) :
    Spec keptRuns lifecycle i (fun _ _ => True) (releaseLease id) w := by
  refine Spec.tryCatch ?_ hinv (fun _ _ _ _ _ => trivial) fun _ _ _ => Spec.pure fun _ _ _ => trivial
  exact Spec.stmt_last fun w₁ _ _ => ⟨trivial, fun _ _ _ _ _ _ _ _ _ _ => trivial⟩

theorem execute_spec (hfirst : ∀ k, .replaying i k ∉ w.trace) :
    Spec keptRuns lifecycle i (fun _ _ => True) (execute id) w := by
  rw [execute]
  refine Spec.stmt fun w₁ hb₁ _ => ⟨trivial, fun input₁ acquired w₂ _ hs₁ hinv₂ _ => ?_⟩
  have hfirst₂ (k : String) : .replaying i k ∉ w₂.trace := by
    obtain ⟨events, htrace, rfl⟩ := serve_notes hs₁
    rw [htrace, List.nil_append]
    exact fun hk => hfirst k (hb₁.replaying k hk)
  split_ifs
  · exact Spec.pure fun _ _ _ => trivial
  · exact Spec.ensuring (executeLeased_spec hfirst₂) hinv₂ fun _ hinv => releaseLease_spec hinv

theorem WalkForwardJob.safe (job : WalkForwardJob) (hinv : RunsInOrder w)
    (hfirst : ∀ k, .replaying i k ∉ w.trace) :
    Safe keptRuns lifecycle i (fun _ _ => True) (walkForwardService.program job) w := by
  cases job with
  | execute id => exact StatementCall.start_safe (execute_spec hfirst) hinv
  | failOrphanedRuns =>
    have hspec : Spec keptRuns lifecycle i (fun _ _ => True) ApiScore.failOrphanedRuns w :=
      Spec.stmt fun w₁ _ _ => ⟨trivial, fun _ _ w₂ _ _ _ _ => Spec.pure fun _ _ _ => trivial⟩
    exact StatementCall.start_safe hspec hinv
  | start folds =>
    have hspec : Spec keptRuns lifecycle i (fun _ _ => True) (startWalkForward folds) w := by
      rw [startWalkForward]
      split_ifs
      · exact Spec.throw
      refine Spec.stmt fun w₁ hb₁ _ => ⟨trivial, fun input₁ id w₂ _ hs₁ _ _ => execute_spec ?_⟩
      intro k
      obtain ⟨events, htrace, rfl⟩ := serve_notes hs₁
      rw [htrace, List.nil_append]
      exact fun hk => hfirst k (hb₁.replaying k hk)
    exact StatementCall.start_safe hspec hinv

end Calls

theorem lifecycle_discipline : Discipline keptRuns lifecycle where
  entry i p w hp hinv hfresh := by
    obtain ⟨job, rfl⟩ := hp
    exact job.safe hinv hfresh
  step i a b w w' hinv hpre hs := by
    obtain ⟨input, hallow, hserved⟩ := Service.step_cases hs
    by_cases hdone : input.2 = some .refused
    · rw [hdone] at hserved
      obtain rfl : w' = w := by
        cases hserved
        rfl
      exact ⟨hinv, fun j _ => .refl j w', .refl w', fun _ h => h⟩
    · rcases hserved.moved with rfl | ⟨x, hserve⟩
      · exact ⟨hinv, fun j _ => .refl j w', .refl w', fun _ h => h⟩
      · obtain ⟨hkept, hfinal⟩ := serve_inOrder hinv hpre hallow hdone hserve
        obtain ⟨events, htrace, -⟩ := serve_notes hserve
        refine ⟨hkept, fun j hij => serve_besideOthers hinv hpre hij hserve, hfinal, fun e he => ?_⟩
        rw [htrace]
        exact List.mem_append_right _ he
  compatible i j w w' hij h := h.1 j hij
  fresh i w w' hb hfresh k hk := hfresh k (hb.replaying k hk)
  env w w' h hinv := by
    obtain ⟨lost, rfl⟩ := h
    exact ⟨hinv.locks, fun j => ⟨fun _ h => h, fun _ h => h, fun _ _ h => h⟩⟩
  drop i w hinv := ⟨hinv.locks, fun j _ => ⟨fun _ h => h, fun _ h => h, fun _ _ h => h⟩⟩

theorem runsInOrder_init : RunsInOrder .init := by
  constructor <;> simp [WalkForwards.init, replays, WalkForwards.status?, WalkForwards.run?]

/-- **A run is replayed once, a FAILED run has no folds, and a run that is over stays as it is**, in
every run of the calls in which an execution writes its folds and its result only while its run has
not been declared orphaned, and a run is made FAILED only before its folds have gone in and before it
has been completed. -/
theorem run_lifecycle
    {c : Config WalkForwardAction (Reply WalkForwardAction.Answer) CallId WalkForwards}
    (h : Reachable (walkForwardService.machine lifecycleKept).system (.init .init) c) :
    (∀ id, replays id c.state.trace ≤ 1) ∧
      (∀ id, c.state.status? id = some .failed → ∀ f ∈ c.state.folds, f.runId ≠ id) ∧
      ∀ c', Reachable (walkForwardService.machine lifecycleKept).system c c' →
        FinalStays c.state c'.state := by
  have hok := lifecycle_discipline.reachable runsInOrder_init (fun i k => List.not_mem_nil) h
  refine ⟨hok.1.replay, hok.1.failed, fun c' hc' => ?_⟩
  refine (lifecycle_discipline.evolves FinalStays.refl (fun w w' w'' hw hw' k s hs hend =>
    hw' k s (hw k s hs hend) hend) (fun _ _ _ hg => hg.2.1) (fun w w' henv => ?_)
    (fun _ w => FinalStays.refl w) hok hc').2
  obtain ⟨lost, rfl⟩ := henv
  exact FinalStays.refl w

namespace Sample

def window : FoldWindow := ⟨0, 0, 1, 1, 2, 2, 3, true⟩

/-- The next statement of a call, at this time, with this end. -/
def steps (i : CallId) (now : Int) (fault : Option StatementFault) :
    Pick CallId (WalkForwardInput × Option StatementFault) WalkForwardJob :=
  .act i (⟨now, "run", ⟨"", "", fun _ => none⟩, ""⟩, fault)

/-- A run whose replay has begun. -/
def replayBegun : List (Pick CallId (WalkForwardInput × Option StatementFault) WalkForwardJob) :=
  .start 0 (.start [window]) :: List.replicate 5 (steps 0 0 none)

/-- The orphans are looked for, an hour later. -/
def sweep : List (Pick CallId (WalkForwardInput × Option StatementFault) WalkForwardJob) :=
  [.start 1 .failOrphanedRuns, steps 1 3600000 none]

/-- The connections are lost. -/
def disconnected (c : Config WalkForwardAction (Reply WalkForwardAction.Answer) CallId WalkForwards) :
    Config WalkForwardAction (Reply WalkForwardAction.Answer) CallId WalkForwards :=
  ⟨{ c.state with locks := c.state.locks.filter fun _ => !true }, c.procs⟩

end Sample

/-- A run that goes well is completed, and looking for orphans does not change it. -/
theorem run_lifecycle_completed : ∃ c, (walkForwardService.machine lifecycleKept).replay
      (Sample.replayBegun ++ List.replicate 4 (Sample.steps 0 1 none) ++ Sample.sweep)
      (.init .init) = some c ∧ c.state.status? "run" = some .completed ∧
    replays "run" c.state.trace ≤ 1 := by
  have hreplay : ((walkForwardService.machine lifecycleKept).replay
      (Sample.replayBegun ++ List.replicate 4 (Sample.steps 0 1 none) ++ Sample.sweep)
      (.init .init)).map (fun c => c.state.status? "run") = some (some .completed) := by
    decide +kernel
  obtain ⟨c, hc, hstatus⟩ := Option.map_eq_some_iff.1 hreplay
  exact ⟨c, hc, hstatus, (run_lifecycle (Machine.replay_reachable .init hc)).1 "run"⟩

/-- **An execution that has lost its lock completes a run that has been declared orphaned; and one
whose last update fails leaves a FAILED run with its folds.** -/
theorem orphan_completed :
    (¬ ∀ c c', Reachable (walkForwardService.machine fun _ _ _ _ => true).system (.init .init) c →
      Reachable (walkForwardService.machine fun _ _ _ _ => true).system c c' →
        FinalStays c.state c'.state) ∧
    ¬ ∀ c, Reachable (walkForwardService.machine fun _ _ _ _ => true).system (.init .init) c →
      ∀ id, c.state.status? id = some .failed → ∀ f ∈ c.state.folds, f.runId ≠ id := by
  constructor
  · intro hall
    have hreplay : (((walkForwardService.machine fun _ _ _ _ => true).replay Sample.replayBegun
        (.init .init)).bind fun c => ((walkForwardService.machine fun _ _ _ _ => true).replay
          Sample.sweep (Sample.disconnected c)).bind fun c' =>
            ((walkForwardService.machine fun _ _ _ _ => true).replay
              (List.replicate 3 (Sample.steps 0 3600001 none)) c').map fun c'' =>
                (c'.state.status? "run", c''.state.status? "run")) =
        some (some .failed, some .completed) := by
      decide +kernel
    obtain ⟨c, hc, hrest⟩ := Option.bind_eq_some_iff.1 hreplay
    obtain ⟨c', hc', hrest⟩ := Option.bind_eq_some_iff.1 hrest
    obtain ⟨c'', hc'', hstatus⟩ := Option.map_eq_some_iff.1 hrest
    obtain ⟨hfailed, hcompleted⟩ := Prod.mk.inj hstatus
    have hlost : Reachable (walkForwardService.machine fun _ _ _ _ => true).system (.init .init)
        (Sample.disconnected c) :=
      .step (Machine.replay_reachable .init hc) (.env ⟨fun _ => true, rfl⟩)
    have hstays := hall c' c'' (Machine.replay_reachable hlost hc')
      (Machine.replay_reachable .init hc'') "run" _ hfailed rfl
    rw [hcompleted] at hstays
    cases hstays
  · intro hall
    have hreplay : ((walkForwardService.machine fun _ _ _ _ => true).replay (Sample.replayBegun ++
        [Sample.steps 0 1 none, Sample.steps 0 1 none, Sample.steps 0 1 (some .refused),
          Sample.steps 0 1 none]) (.init .init)).map
            (fun c => (c.state.status? "run", c.state.folds.map (·.runId))) =
              some (some .failed, ["run"]) := by
      decide +kernel
    obtain ⟨c, hc, hstate⟩ := Option.map_eq_some_iff.1 hreplay
    obtain ⟨hfailed, hfolds⟩ := Prod.mk.inj hstate
    have hmem : "run" ∈ c.state.folds.map (·.runId) := by
      rw [hfolds]
      exact List.mem_singleton_self _
    obtain ⟨f, hf, hid⟩ := List.mem_map.1 hmem
    exact hall c (Machine.replay_reachable .init hc) "run" hfailed f hf hid

end ApiScore
