import ApiScore.Lib.Trace
import ApiScore.Scheduling.CircuitBreaker
import Mathlib.Tactic.SplitIfs

/-!
# One sync at a time, and none during a pause

A tick that comes back from the quota check acts on flags it has tested before it left.  A sync that
another tick has started meanwhile may still be running, or may have tripped the breaker.

* `inProgress`, `pausesOn` — what a trace says of a cadence.
* `calm` — no sync that was started while the tick waited is still running, and no pause that began
  meanwhile is still on.
* `Kept` — the flags tell the truth about the trace.
* `one_sync_none_paused` — when every tick that goes on does so in calm, a cadence has one sync in
  progress at a time, and none starts during a pause.
* `started_during_pause` — a tick that does not.
-/

set_option autoImplicit false

namespace ApiScore

open Concurrent
open Trace (since past_cons exists_split_since)

section Traces

variable {κ : Type} [DecidableEq κ]

/-! ## Reading a trace -/

/-- The syncs of the cadence that are in progress. -/
def inProgress (phase : κ) : List (TickEvent κ) → List TickId
  | [] => []
  | .started i p :: older => if p = phase then i :: inProgress phase older else inProgress phase older
  | .ended i p :: older =>
    if p = phase then (inProgress phase older).filter (· ≠ i) else inProgress phase older
  | _ :: older => inProgress phase older

/-- The pauses of the cadence that are on, each with its `pausedUntil`: the clock has not shown it
since the breaker paused. -/
def pausesOn (phase : κ) : List (TickEvent κ) → List Int
  | [] => []
  | .paused p pausedUntil :: older =>
    if p = phase then pausedUntil :: pausesOn phase older else pausesOn phase older
  | .clock now :: older => (pausesOn phase older).filter (now < ·)
  | _ :: older => pausesOn phase older

/-- Nothing is running, and no pause is on. -/
def Idle (phase : κ) (trace : List (TickEvent κ)) : Prop :=
  inProgress phase trace = [] ∧ pausesOn phase trace = []

instance (phase : κ) (trace : List (TickEvent κ)) : Decidable (Idle phase trace) :=
  inferInstanceAs (Decidable (_ ∧ _))

/-- **What was idle before tells nothing of what is going on.** -/
theorem Idle.append {phase : κ} {older : List (TickEvent κ)} (h : Idle phase older)
    (newer : List (TickEvent κ)) :
    inProgress phase (newer ++ older) = inProgress phase newer ∧
      pausesOn phase (newer ++ older) = pausesOn phase newer := by
  induction newer with
  | nil => exact h
  | cons e newer ih =>
    obtain ⟨hrunning, hpauses⟩ := ih
    cases e <;> simp only [List.cons_append, inProgress, pausesOn, hrunning, hpauses, and_self]

/-- A tick goes on only when no sync that was started while it waited is still running, and no pause
that began meanwhile is still on. -/
def calm (i : TickId) : TickAction κ → SyncAnswer → Breakers κ → Bool
  | .hasRateBudget phase, input, w =>
    !input.quotaOk || decide (Idle phase (since (.tested i phase) w.trace))
  | _, _, _ => true

/-- The claim of the breaker on what has happened: one sync at a time, and each of them started
while no pause was on. -/
def SyncsInTurn (phase : κ) (trace : List (TickEvent κ)) : Prop :=
  (inProgress phase trace).length ≤ 1 ∧
    ∀ newer i older, trace = newer ++ .started i phase :: older → pausesOn phase older = []

/-! ## What the flags tell -/

/-- A pause that is on is in the flags, and nothing runs meanwhile. -/
def PauseKept (phase : κ) (w : Breakers κ) : Prop :=
  pausesOn phase w.trace = [] ∨ ∃ pausedUntil, pausesOn phase w.trace = [pausedUntil] ∧
    (w.states phase).jobState = .paused ∧ (w.states phase).pausedUntil = some pausedUntil ∧
    w.now < pausedUntil ∧ inProgress phase w.trace = []

/-- The flags of a cadence tell the truth. -/
structure Kept (phase : κ) (w : Breakers κ) : Prop where
  single : (inProgress phase w.trace).length ≤ 1
  running : (w.states phase).isSyncRunning = false → inProgress phase w.trace = []
  pause : PauseKept phase w
  starts : ∀ newer i older, w.trace = newer ++ .started i phase :: older → pausesOn phase older = []
  tests : ∀ newer i older, w.trace = newer ++ .tested i phase :: older → Idle phase older

variable {phase q : κ} {w w' : Breakers κ} {i j : TickId}

theorem kept_init (phase : κ) (now : Int) : Kept phase (.init κ now) where
  single := Nat.zero_le _
  running _ := rfl
  pause := .inl rfl
  starts newer i older h := by simp [Breakers.init] at h
  tests newer i older h := by simp [Breakers.init] at h

theorem Kept.inTurn (h : Kept phase w) : SyncsInTurn phase w.trace := ⟨h.single, h.starts⟩

/-- Nothing is running while a pause is on. -/
theorem PauseKept.of_running (h : PauseKept phase w) (hrun : inProgress phase w.trace ≠ []) :
    pausesOn phase w.trace = [] :=
  h.resolve_right fun ⟨_, _, _, _, _, hnone⟩ => hrun hnone

/-- A breaker that is active keeps no pause. -/
theorem PauseKept.of_active (h : PauseKept phase w) (hactive : (w.states phase).jobState ≠ .paused) :
    pausesOn phase w.trace = [] :=
  h.resolve_right fun ⟨_, _, hpaused, _⟩ => hactive hpaused

/-- A breaker that may resume keeps none either. -/
theorem PauseKept.of_resume (h : PauseKept phase w)
    (hresume : (tryResume w.now (w.states phase)).1 = true) : pausesOn phase w.trace = [] := by
  refine h.resolve_right fun ⟨pausedUntil, _, hjob, huntil, hnow, _⟩ => ?_
  rw [tryResume, hjob, huntil] at hresume
  simp only [hnow, if_true] at hresume
  cases hresume

/-! ## What a piece of a tick preserves -/

omit [DecidableEq κ] in
theorem states_note (e : TickEvent κ) : (w.note e).states = w.states := rfl

theorem put_self (s : PhaseState) : (w.put phase s).states phase = s := Function.update_self ..

theorem put_of_ne (h : q ≠ phase) (s : PhaseState) : (w.put phase s).states q = w.states q :=
  Function.update_of_ne h ..

/-- An event is about a cadence. -/
def TickEvent.IsOf (phase : κ) : TickEvent κ → Prop
  | .tested _ p | .started _ p | .ended _ p | .paused p _ => p = phase
  | .clock _ => True

/-- What happens to one cadence says nothing of another. -/
theorem Kept.note_of_ne {e : TickEvent κ} (h : Kept q w) (he : ¬ e.IsOf q) :
    Kept q (w.note e) := by
  have hreads : inProgress q (w.note e).trace = inProgress q w.trace ∧
      pausesOn q (w.note e).trace = pausesOn q w.trace := by
    cases e <;> simp only [TickEvent.IsOf, not_true_eq_false] at he <;>
      simp only [Breakers.note, inProgress, pausesOn, he, if_false, and_self]
  constructor
  · rw [hreads.1]
    exact h.single
  · rw [hreads.1]
    exact h.running
  · rw [PauseKept, hreads.1, hreads.2]
    exact h.pause
  · exact past_cons h.starts fun i hi => (he (hi ▸ rfl)).elim
  · exact past_cons h.tests fun i hi => (he (hi ▸ rfl)).elim

/-- A cadence whose breaker is left alone. -/
theorem Kept.put_of_ne {s : PhaseState} (h : Kept q w) (hq : q ≠ phase) :
    Kept q (w.put phase s) where
  single := h.single
  running := by
    rw [ApiScore.put_of_ne hq]
    exact h.running
  pause := by
    rw [PauseKept, ApiScore.put_of_ne hq]
    exact h.pause
  starts := h.starts
  tests := h.tests

/-- The breaker resumes. -/
theorem Kept.resume (h : Kept phase w) (hresume : (tryResume w.now (w.states phase)).1 = true)
    (hrunning : (w.states phase).isSyncRunning = false) (s : PhaseState) :
    Kept phase (w.put phase s) where
  single := h.single
  running _ := h.running hrunning
  pause := .inl (h.pause.of_resume hresume)
  starts := h.starts
  tests := h.tests

/-- The flags are down: the tick waits for the quota check. -/
theorem Kept.test (h : Kept phase w) (hidle : Idle phase w.trace) :
    Kept phase (w.note (.tested i phase)) where
  single := h.single
  running := h.running
  pause := h.pause
  starts := past_cons h.starts fun j hj => by cases hj
  tests := past_cons h.tests fun j hj => by
    obtain rfl := (TickEvent.tested.inj hj).1
    exact hidle

/-- The sync starts. -/
theorem Kept.start {s : PhaseState} (h : Kept phase w) (hidle : Idle phase w.trace)
    (hrunning : s.isSyncRunning = true) :
    Kept phase ((w.put phase s).note (.started i phase)) where
  single := by
    simp only [Breakers.note, Breakers.put, inProgress, if_true, hidle.1, List.length_singleton,
      Nat.le_refl]
  running hdown := by
    rw [states_note, put_self, hrunning] at hdown
    cases hdown
  pause := .inl hidle.2
  starts := past_cons h.starts fun j _ => hidle.2
  tests := past_cons h.tests fun j hj => by cases hj

/-- A sync in progress is the only one. -/
theorem Kept.alone (h : Kept phase w) (hi : i ∈ inProgress phase w.trace) :
    inProgress phase w.trace = [i] := by
  obtain ⟨j, hj⟩ := List.length_eq_one_iff.1
    (Nat.le_antisymm h.single (List.length_pos_of_mem hi))
  rw [hj, List.mem_singleton] at hi
  rw [hj, hi]

/-- The sync ends. -/
theorem Kept.lower {s : PhaseState} (h : Kept phase w) (hi : i ∈ inProgress phase w.trace) :
    Kept phase (w.lower i phase s) ∧ Idle phase (w.lower i phase s).trace := by
  have hnone : inProgress phase (w.lower i phase s).trace = [] := by
    simp only [Breakers.lower, Breakers.note, Breakers.put, inProgress, if_true, h.alone hi, ne_eq,
      decide_not, List.filter_cons, decide_true, Bool.not_true, Bool.false_eq_true, if_false,
      List.filter_nil]
  have hpauses := h.pause.of_running (List.ne_nil_of_mem hi)
  refine ⟨⟨?_, fun _ => hnone, .inl hpauses, ?_, ?_⟩, hnone, hpauses⟩
  · rw [hnone]
    exact Nat.zero_le 1
  · exact past_cons h.starts fun j hj => by cases hj
  · exact past_cons h.tests fun j hj => by cases hj

/-- The breaker trips: the pause is in its flags, and lies ahead. -/
theorem Kept.tripped {pausedUntil : Int} (h : Kept phase w) (hidle : Idle phase w.trace)
    (hjob : (w.states phase).jobState = .paused)
    (huntil : (w.states phase).pausedUntil = some pausedUntil) (hahead : w.now < pausedUntil) :
    Kept phase (w.note (.paused phase pausedUntil)) where
  single := h.single
  running := h.running
  pause := by
    refine .inr ⟨pausedUntil, ?_, hjob, huntil, hahead, hidle.1⟩
    simp only [Breakers.note, pausesOn, if_true, hidle.2]
  starts := past_cons h.starts fun j hj => by cases hj
  tests := past_cons h.tests fun j hj => by cases hj

/-- The clock shows another time: a pause stays on until its end is shown. -/
theorem Kept.clock {now : Int} (h : Kept phase w) :
    Kept phase { w with now, trace := .clock now :: w.trace } where
  single := h.single
  running := h.running
  pause := by
    rcases h.pause with hoff | ⟨pausedUntil, hon, hjob, huntil, -, hnone⟩
    · refine .inl ?_
      simp only [pausesOn, hoff, List.filter_nil]
    · by_cases hnow : now < pausedUntil
      · refine .inr ⟨pausedUntil, ?_, hjob, huntil, hnow, hnone⟩
        simp only [pausesOn, hon, List.filter_cons, hnow, decide_true, if_true, List.filter_nil]
      · refine .inl ?_
        simp only [pausesOn, hon, List.filter_cons, hnow, decide_false, Bool.false_eq_true,
          if_false, List.filter_nil]
  starts := past_cons h.starts fun j hj => by cases hj
  tests := past_cons h.tests fun j hj => by cases hj

/-! ## Ticks among each other -/

/-- What a tick relies on: what it has noted of itself stays so. -/
structure TickBeside (i : TickId) (w w' : Breakers κ) : Prop where
  tested : ∀ phase, .tested i phase ∈ w.trace → .tested i phase ∈ w'.trace
  inProgress : ∀ phase, i ∈ inProgress phase w.trace → i ∈ inProgress phase w'.trace

theorem TickBeside.refl (i : TickId) (w : Breakers κ) : TickBeside i w w :=
  ⟨fun _ h => h, fun _ h => h⟩

theorem TickBeside.trans {w'' : Breakers κ} (h : TickBeside i w w') (h' : TickBeside i w' w'') :
    TickBeside i w w'' :=
  ⟨fun p hp => h'.tested p (h.tested p hp), fun p hp => h'.inProgress p (h.inProgress p hp)⟩

theorem TickBeside.put (i : TickId) (w : Breakers κ) (phase : κ) (s : PhaseState) :
    TickBeside i w (w.put phase s) := ⟨fun _ h => h, fun _ h => h⟩

/-- An event does not end the syncs of a tick, unless it says that it has ended. -/
theorem TickBeside.note {e : TickEvent κ} (he : ∀ p, e ≠ .ended i p) :
    TickBeside i w (w.note e) := by
  refine ⟨fun p hp => List.mem_cons_of_mem e hp, fun p hp => ?_⟩
  cases e with
  | tested | paused | clock => exact hp
  | started j r =>
    simp only [Breakers.note, ApiScore.inProgress]
    split_ifs
    · exact List.mem_cons_of_mem j hp
    · exact hp
  | ended j r =>
    simp only [Breakers.note, ApiScore.inProgress]
    split_ifs
    · exact List.mem_filter.2 ⟨hp, decide_eq_true fun (hij : i = j) => he r (hij ▸ rfl)⟩
    · exact hp

/-- When a piece of a tick is reached. -/
def TickReady (i : TickId) : TickAction κ → Breakers κ → Prop
  | .test _, _ => True
  | .hasRateBudget phase, w => .tested i phase ∈ w.trace
  | .sync phase, w => i ∈ inProgress phase w.trace

/-- What the ticks preserve, rely on and guarantee. -/
def breaking : Contract (TickAction κ) TickId (Breakers κ) where
  inv w := ∀ phase, Kept phase w
  pre := TickReady
  guar i w w' := ∀ j, i ≠ j → TickBeside j w w'
  rely := TickBeside
  fresh _ _ := True
  refl := TickBeside.refl
  trans _ _ _ _ h h' := h.trans h'

variable {config : SchedulerConfig} {answer : SyncAnswer}

/-- **In calm, nothing is going on**: nothing was when the tick tested its flags. -/
theorem idle_of_calm (h : Kept phase w) (htested : .tested i phase ∈ w.trace)
    (hcalm : Idle phase (since (.tested i phase) w.trace)) : Idle phase w.trace := by
  obtain ⟨older, hsplit⟩ := exists_split_since htested
  have hidle : Idle phase (.tested i phase :: older) := h.tests _ i older hsplit
  rw [Idle, hsplit, (hidle.append _).1, (hidle.append _).2]
  exact hcalm

/-- The tests of a tick. -/
theorem exec_test_kept (hinv : ∀ q, Kept q w) (q : κ) :
    Kept q (w.exec config i (.test phase) answer).2 := by
  simp only [Breakers.exec]
  split_ifs with hrunning hresume hpaused
  · exact hinv q
  · by_cases hq : q = phase
    · subst hq
      exact (hinv q).resume hresume (by simpa using hrunning) _
    · exact (hinv q).put_of_ne hq
  · exact hinv q
  · by_cases hq : q = phase
    · subst hq
      exact (hinv q).test
        ⟨(hinv q).running (by simpa using hrunning), (hinv q).pause.of_active hpaused⟩
    · exact (hinv q).note_of_ne (Ne.symm hq)

/-- The answer of the quota check. -/
theorem exec_hasRateBudget_kept (hinv : ∀ q, Kept q w) (htested : .tested i phase ∈ w.trace)
    (hcalm : calm i (.hasRateBudget phase) answer w = true) (q : κ) :
    Kept q (w.exec config i (.hasRateBudget phase) answer).2 := by
  rw [Breakers.exec]
  split_ifs with hquota
  · simp only [calm, hquota, Bool.not_true, Bool.false_or, decide_eq_true_eq] at hcalm
    by_cases hq : q = phase
    · subst hq
      exact (hinv q).start (idle_of_calm (hinv q) htested hcalm) rfl
    · exact ((hinv q).put_of_ne hq).note_of_ne (Ne.symm hq)
  · exact hinv q

/-- A breaker that trips on a failure holds the pause it notes. -/
theorem onSyncFailure_tripped {now : Int} {s : PhaseState}
    (h : config.maxFailures ≤ (onSyncFailure config now s).consecutiveFailures) :
    (onSyncFailure config now s).jobState = .paused ∧
      (onSyncFailure config now s).pausedUntil = some (now + config.pauseDurationMs) := by
  rw [onSyncFailure] at h ⊢
  split_ifs at h ⊢ with hmax
  · exact ⟨rfl, rfl⟩
  · exact (hmax h).elim

/-- The end of a sync. -/
theorem exec_sync_kept (hinv : ∀ q, Kept q w) (hi : i ∈ inProgress phase w.trace) (q : κ) :
    Kept q (w.exec config i (.sync phase) answer).2 := by
  have hlower (s : PhaseState) : Kept q (w.lower i phase s) := by
    by_cases hq : q = phase
    · subst hq
      exact ((hinv q).lower hi).1
    · exact ((hinv q).put_of_ne hq).note_of_ne (Ne.symm hq)
  obtain ⟨quotaOk, syncOk⟩ := answer
  cases syncOk with
  | true => exact hlower _
  | false =>
    simp only [Breakers.exec, Breakers.finish]
    split_ifs with hmax
    · by_cases hq : q = phase
      · subst hq
        obtain ⟨hjob, huntil⟩ := onSyncFailure_tripped hmax
        have hidle := ((hinv q).lower (i := i) (s := onSyncFailure config w.now (w.states q)) hi).2
        have hahead : w.now < w.now + config.pauseDurationMs := by
          have := config.minute_le
          omega
        refine (hlower _).tripped hidle ?_ ?_ hahead
        · rw [Breakers.lower, states_note, put_self]
          exact hjob
        · rw [Breakers.lower, states_note, put_self]
          exact huntil
      · exact (hlower _).note_of_ne (Ne.symm hq)
    · exact hlower _

/-- A piece of a tick is beside the other ticks. -/
theorem exec_beside (a : TickAction κ) (hij : i ≠ j) :
    TickBeside j w (w.exec config i a answer).2 := by
  have hended (s : PhaseState) (p : κ) : TickBeside j w (w.lower i p s) :=
    (TickBeside.put j w p _).trans (.note fun r hr => hij (TickEvent.ended.inj hr).1)
  cases a with
  | test p =>
    simp only [Breakers.exec]
    split_ifs
    · exact .refl j w
    · exact .put j w p _
    · exact .refl j w
    · exact .note fun r hr => by cases hr
  | hasRateBudget p =>
    simp only [Breakers.exec]
    split_ifs
    · exact (TickBeside.put j w p _).trans (.note fun r hr => by cases hr)
    · exact .refl j w
  | sync p =>
    obtain ⟨quotaOk, syncOk⟩ := answer
    cases syncOk with
    | true => exact hended _ p
    | false =>
      simp only [Breakers.exec, Breakers.finish]
      split_ifs
      · exact (hended _ p).trans (.note fun r hr => by cases hr)
      · exact hended _ p

/-- The clock is beside every tick. -/
theorem clock_beside {now : Int} :
    TickBeside i w { w with now, trace := .clock now :: w.trace } :=
  ⟨fun _ h => List.mem_cons_of_mem _ h, fun _ h => h⟩

/-- A tick that goes to the quota check has noted that it tested its flags. -/
theorem exec_test_goesOn (h : (w.exec config i (.test phase) answer).1 = true) :
    .tested i phase ∈ (w.exec config i (.test phase) answer).2.trace := by
  simp only [Breakers.exec] at h ⊢
  split_ifs at h ⊢
  exact List.mem_cons_self

/-- A tick that comes back with budget has started its sync. -/
theorem exec_hasRateBudget_goesOn (h : (w.exec config i (.hasRateBudget phase) answer).1 = true) :
    i ∈ inProgress phase (w.exec config i (.hasRateBudget phase) answer).2.trace := by
  simp only [Breakers.exec] at h ⊢
  split_ifs at h ⊢
  simp only [Breakers.note, inProgress, if_true, List.mem_cons_self]

theorem calm_step {a : TickAction κ} {b : a.Result}
    (hs : (scheduler config calm).system.step i a w b w') :
    ∃ answer, calm i a answer w = true ∧ w.exec config i a answer = (b, w') := by
  obtain ⟨answer, hexec⟩ := hs
  simp only [scheduler] at hexec
  split_ifs at hexec with hcalm
  exact ⟨answer, hcalm, Option.some.inj hexec⟩

/-- A tick goes on only after it has tested its flags, and ends only the sync it has started. -/
theorem runSyncTick_safe :
    Safe (scheduler config calm).system breaking i (fun _ _ => True) (runSyncTick phase) w := by
  refine Safe.act fun w₁ _ _ => ⟨trivial, fun goesOn w₂ hs _ _ => ?_⟩
  obtain ⟨answer, -, hexec⟩ := calm_step hs
  cases goesOn with
  | false => exact Safe.ret fun _ _ _ => trivial
  | true =>
    obtain rfl : (w₁.exec config i (.test phase) answer).2 = w₂ := congrArg Prod.snd hexec
    have htested := exec_test_goesOn (congrArg Prod.fst hexec)
    refine Safe.act fun w₃ hb₃ _ => ⟨hb₃.tested phase htested, fun quotaOk w₄ hs₄ _ _ => ?_⟩
    obtain ⟨answer₄, -, hexec₄⟩ := calm_step hs₄
    cases quotaOk with
    | false => exact Safe.ret fun _ _ _ => trivial
    | true =>
      obtain rfl : (w₃.exec config i (.hasRateBudget phase) answer₄).2 = w₄ :=
        congrArg Prod.snd hexec₄
      have hstarted := exec_hasRateBudget_goesOn (congrArg Prod.fst hexec₄)
      refine Safe.act fun w₅ hb₅ _ => ⟨hb₅.inProgress phase hstarted, fun _ w₆ _ _ _ => ?_⟩
      exact Safe.ret fun _ _ _ => trivial

theorem breaking_discipline : Discipline (scheduler (κ := κ) config calm).system breaking where
  entry i p w hp _ _ := by
    obtain ⟨phase, rfl⟩ := hp
    exact runSyncTick_safe
  step i a b w w' hinv hpre hs := by
    obtain ⟨answer, hcalm, hexec⟩ := calm_step hs
    obtain rfl : (w.exec config i a answer).2 = w' := congrArg Prod.snd hexec
    refine ⟨?_, fun j hij => exec_beside a hij⟩
    cases a with
    | test phase => exact exec_test_kept hinv
    | hasRateBudget phase => exact exec_hasRateBudget_kept hinv hpre hcalm
    | sync phase => exact exec_sync_kept hinv hpre
  compatible i j w w' hij h := h j hij
  fresh _ _ _ _ h := h
  env w w' h hinv := by
    obtain ⟨now, rfl⟩ := h
    exact ⟨fun phase => (hinv phase).clock, fun j => clock_beside⟩
  drop i w hinv := ⟨hinv, fun j _ => .refl j w⟩

/-- In every run of a scheduler whose ticks go on in calm only, each cadence syncs in turn. -/
theorem scheduler_inTurn {now : Int}
    {c : Config (TickAction κ) TickAction.Result TickId (Breakers κ)}
    (h : Reachable (scheduler config calm).system (.init (.init κ now)) c) (phase : κ) :
    SyncsInTurn phase c.state.trace :=
  ((breaking_discipline.reachable (fun phase => kept_init phase now) (fun _ => trivial) h).1
    phase).inTurn

end Traces

/-- **One sync at a time, and none during a pause**, for each cadence of the odds and for the
fixtures, in every run in which each tick that comes back with budget finds that no sync started
while it waited is still running, and no pause that began meanwhile is still on. -/
theorem one_sync_none_paused (config : SchedulerConfig) (now : Int) :
    (∀ c, Reachable (oddsSyncScheduler config calm).system (.init (.init OddsPhase now)) c →
      ∀ phase, SyncsInTurn phase c.state.trace) ∧
    ∀ c, Reachable (fixturesSyncScheduler config calm).system (.init (.init Unit now)) c →
      SyncsInTurn () c.state.trace :=
  ⟨fun _ h => scheduler_inTurn h, fun _ h => scheduler_inTurn h ()⟩

namespace Sample

/-- A breaker that trips on the first failure. -/
def brittle : SchedulerConfig := ⟨1, 60000, by decide, by decide⟩

/-- The next piece of a tick; there is budget. -/
def goOn (i : TickId) (syncOk : Bool) : Pick TickId SyncAnswer OddsPhase := .act i ⟨true, syncOk⟩

/-- A whole tick whose sync fails. -/
def failedTick (i : TickId) : List (Pick TickId SyncAnswer OddsPhase) :=
  .start i .prematch :: List.replicate 3 (goOn i false)

/-- Three ticks that have tested their flags; two of them start their sync. -/
def bothStarted : List (Pick TickId SyncAnswer OddsPhase) :=
  [.start 0 .prematch, .start 1 .prematch, .start 2 .prematch, goOn 0 true, goOn 1 true, goOn 2 true,
    goOn 0 true, goOn 1 true]

/-- The first sync fails, and the third tick starts its own. -/
def startedPaused : List (Pick TickId SyncAnswer OddsPhase) :=
  bothStarted ++ [goOn 0 false, goOn 2 true]

end Sample

/-- After a failure, and while the breaker is paused, a second tick does not start. -/
theorem one_sync_none_paused_after_failure :
    ∃ c, (oddsSyncScheduler Sample.brittle calm).replay
      (Sample.failedTick 0 ++ [.start 1 .prematch, Sample.goOn 1 true])
      (.init (.init OddsPhase 0)) = some c ∧
    c.state.trace = [.paused .prematch 60000, .ended 0 .prematch, .started 0 .prematch,
      .tested 0 .prematch] ∧ SyncsInTurn OddsPhase.prematch c.state.trace := by
  have hreplay : ((oddsSyncScheduler Sample.brittle calm).replay
      (Sample.failedTick 0 ++ [.start 1 .prematch, Sample.goOn 1 true])
      (.init (.init OddsPhase 0))).map (fun c => c.state.trace) =
      some [.paused .prematch 60000, .ended 0 .prematch, .started 0 .prematch,
        .tested 0 .prematch] := by
    decide +kernel
  obtain ⟨c, hc, htrace⟩ := Option.map_eq_some_iff.1 hreplay
  exact ⟨c, hc, htrace,
    (one_sync_none_paused Sample.brittle 0).1 c (Machine.replay_reachable .init hc) .prematch⟩

/-- **Ticks that wait for the quota check together all start**: two syncs are in progress at once,
and one starts although the breaker has just paused. -/
theorem started_during_pause :
    (¬ ∀ (config : SchedulerConfig) (now : Int) c,
      Reachable (oddsSyncScheduler config fun _ _ _ _ => true).system
        (.init (.init OddsPhase now)) c →
      ∀ phase, (inProgress phase c.state.trace).length ≤ 1) ∧
    ¬ ∀ (config : SchedulerConfig) (now : Int) c,
      Reachable (oddsSyncScheduler config fun _ _ _ _ => true).system
        (.init (.init OddsPhase now)) c →
      ∀ phase newer i older, c.state.trace = newer ++ .started i phase :: older →
        pausesOn phase older = [] := by
  constructor
  · intro hall
    have hreplay : ((oddsSyncScheduler Sample.brittle fun _ _ _ _ => true).replay
        Sample.bothStarted (.init (.init OddsPhase 0))).map
          (fun c => inProgress OddsPhase.prematch c.state.trace) = some [1, 0] := by
      decide +kernel
    obtain ⟨c, hc, hrunning⟩ := Option.map_eq_some_iff.1 hreplay
    have hone := hall Sample.brittle 0 c (Machine.replay_reachable .init hc) .prematch
    rw [hrunning] at hone
    exact absurd hone (by decide)
  · intro hall
    have hreplay : ((oddsSyncScheduler Sample.brittle fun _ _ _ _ => true).replay
        Sample.startedPaused (.init (.init OddsPhase 0))).map (fun c => c.state.trace.take 2) =
          some [.started 2 .prematch, .paused .prematch 60000] := by
      decide +kernel
    obtain ⟨c, hc, hlast⟩ := Option.map_eq_some_iff.1 hreplay
    have hsplit : c.state.trace =
        [] ++ .started 2 .prematch :: .paused .prematch 60000 :: c.state.trace.drop 2 := by
      refine (List.take_append_drop 2 c.state.trace).symm.trans ?_
      rw [hlast]
      rfl
    have hoff := hall Sample.brittle 0 c (Machine.replay_reachable .init hc) _ _ _ _ hsplit
    cases hoff

end ApiScore
