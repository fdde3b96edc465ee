import ApiScore.Execution.CleanRuns
import ApiScore.Execution.StopBarrier
import ApiScore.Lib.Amid

/-!
# Alarms

A reconciliation run that a call closes with a critical item, or fails, stops the execution before the
call returns, and from then on nothing is submitted before somebody climbs.  The only hole is a stop
that the database rolls back: `autoStop` never throws.

* `HeldSince` — since a stop nothing was submitted without a climb.
* `Ending` — the last actions of a call that returns.
* `alarms_stop` — over every run, a call that returns has ended so.
-/

set_option autoImplicit false

namespace ApiScore

open Relational Concurrent Relation

/-! ## What is said -/

/-- A stop committed on `w`; as long as nobody climbs, the control row is disabled, and nothing is
submitted. -/
def HeldSince (w w' : World) : Prop :=
  ∃ newer, w'.trace = newer ++ .stopped :: w.trace ∧ (.raised ∉ newer →
    (∃ control, w'.db.control = some control ∧ control.mode = .known .disabled) ∧
      ∀ j request control, .started j request control ∉ newer)

/-- A run is closed in a way that calls for somebody. -/
def Transaction.Alarming (runId : String) (closing : Transaction) : Prop :=
  closing = .failRun runId ∨
    ∃ drafts, closing = .completeRun runId drafts ∧ 0 < criticalCount drafts

/-- The last actions with which call `i` closes a run, and what they have left in `w'`. -/
inductive Closing (i : CallId) (runId : String) (w' : World) : List (Action × World) → Prop
  | clean {before : List (Action × World)} {drafts : List ItemDraft} {w : World}
      (hclean : criticalCount drafts = 0) (hdone : .completed i runId drafts ∈ w'.trace) :
      Closing i runId w' (before ++ [(.commit (.completeRun runId drafts), w)])
  | alarmed {before : List (Action × World)} {closing : Transaction} {reason : String}
      {w w₁ : World} (halarm : closing.Alarming runId) (hheld : HeldSince w₁ w') :
      Closing i runId w' (before ++ [(.commit closing, w), (.commit (.stop reason .automatic), w₁)])

/-- What call `i` of `execute`, which has returned `run`, did. -/
inductive Ending (i : CallId) (runId : String) (run : ReconciliationRun) (w' : World) :
    List (Action × World) → Prop
  /-- Somebody had closed the run. -/
  | early {w : World} (hover : run.status ≠ .running) :
      Ending i runId run w' [(.query (.reconciliationRun runId), w)]
  | closed {log : List (Action × World)} {w : World} (h : Closing i runId w' log) :
      Ending i runId run w' (log ++ [(.query (.reconciliationRun runId), w)])

/-- The database does not roll back the stops of call `i`. -/
def Setting.ServesStops (S : Setting) (i : CallId) : Prop :=
  ∀ reason source input w, S.allow i (.commit (.stop reason source)) input w →
    ∀ e, input.fault ≠ some (.rolledBack e)

theorem stopTriggerFor_eq_none {drafts : List ItemDraft} :
    stopTriggerFor drafts = none ↔ criticalCount drafts = 0 := by
  simp only [stopTriggerFor, criticalCount, List.length_eq_zero_iff]
  split_ifs with h <;> simp [h]

section

variable {S : Setting} {i : CallId} {c c' : Run} {log : List (Action × World)} {w w' : World}

/-- The barrier is one of the disciplines. -/
theorem barrier_discipline : Discipline S.system (S.sound (Barrier S)).toContract :=
  Setting.sound_discipline (fun _ _ _ _ _ hinv hpre hs => hinv.step hpre hs)
    (fun _ _ hd hinv => hinv.drift hd) fun _ _ hinv => hinv.drop

theorem Barrier.init (db : Database) (clock : Int) (funds : String → String → OperatorBalance) :
    Barrier S (.init db clock funds) where
  permits _ hp := (List.not_mem_nil hp).elim
  shut hshut := by cases hshut
  started _ _ _ he := (List.not_mem_nil he).elim
  barred := trivial

/-- The others keep the barrier, while call `i` is on its way. -/
structure Guarding (S : Setting) (i : CallId) (c : Run) : Prop where
  ok : c.OkBut S.system (S.sound (Barrier S)).toContract i
  absent : c.procs i = none

/-- What the others do keeps the barrier. -/
theorem Guarding.meanwhile (h : Guarding S i c) (ho : ReflTransGen (Meanwhile S.system i) c c') :
    Guarding S i c' ∧ Onward c.state c'.state := by
  obtain ⟨hok, habsent, hrely⟩ := barrier_discipline.meanwhiles h.ok h.absent ho
  exact ⟨⟨hok, habsent⟩, hrely.onward⟩

/-- A stop that the database does not roll back has committed. -/
theorem Setting.Step.stopped {reason : String} {source : StopSource}
    {b : Except TxError ExecutionControl} (hserved : S.ServesStops i)
    (hs : S.Step i (.commit (.stop reason source)) w b w') : w'.trace = .stopped :: w.trace := by
  obtain ⟨input, -, -, hallow, hexec⟩ := hs
  obtain ⟨⟨control, db⟩, hbody⟩ := stopTx_commits reason source input.env w.db
  have hbody' : (Transaction.stop reason source).body S.platform input.env w.db =
      .ok (control, db) := hbody
  simp only [exec, hbody'] at hexec
  split_ifs at hexec
  cases hf : input.fault with
  | none =>
    simp only [hf, Option.some.injEq, Prod.mk.injEq] at hexec
    rw [← hexec.2]
    rfl
  | some f =>
    cases f with
    | rolledBack e => exact (hserved reason source input w hallow e hf).elim
    | unacknowledged e =>
      simp only [hf, Option.some.injEq, Prod.mk.injEq] at hexec
      rw [← hexec.2]
      rfl

/-- After a stop the barrier holds. -/
theorem Barrier.held {w₁ : World} (h : Barrier S w') (newer : List Event)
    (htrace : w'.trace = newer ++ .stopped :: w₁.trace) :
    HeldSince w₁ w' := by
  refine ⟨newer, htrace, fun hraised => ⟨?_, fun j request control hstarted => ?_⟩⟩
  · refine h.shut ?_
    rw [htrace]
    exact shut_of_stopped hraised
  · obtain ⟨later, mid, rfl⟩ := List.append_of_mem hstarted
    have hbarred := h.barred
    rw [htrace, List.append_assoc, List.cons_append] at hbarred
    exact hraised (List.mem_append_right _ (List.mem_cons_of_mem _ hbarred.raised))

/-- It goes on to hold. -/
theorem HeldSince.later {w₁ : World} (h : HeldSince w₁ w) (ho : Onward w w') (hb : Barrier S w') :
    HeldSince w₁ w' := by
  obtain ⟨newer, htrace, -⟩ := h
  obtain ⟨later, hlater⟩ := ho.trace
  refine hb.held (later ++ newer) ?_
  rw [← hlater, htrace, List.append_assoc]

theorem Closing.later {runId : String} (h : Closing i runId w log) (ho : Onward w w')
    (hb : Barrier S w') : Closing i runId w' log := by
  cases h with
  | clean hclean hdone => exact .clean hclean (ho.mem hdone)
  | alarmed halarm hheld => exact .alarmed halarm (hheld.later ho hb)

theorem Closing.prepend {runId : String} {before : List (Action × World)}
    (h : Closing i runId w log) : Closing i runId w (before ++ log) := by
  cases h with
  | clean hclean hdone =>
    rw [← List.append_assoc]
    exact .clean hclean hdone
  | alarmed halarm hheld =>
    rw [← List.append_assoc]
    exact .alarmed halarm hheld

/-! ## The parts of the call -/

/-- The first part of a sequence, whose log has acted under its preconditions. -/
theorem Guarding.first {α β : Type} {p : Call α} {f : α → Call β} {y : β} (h : Guarding S i c)
    (hlog : ∀ e ∈ log, Sound i e.1 e.2) (hrun : Yields S.system i (p >>= f) c log y c') :
    ∃ x c₁ log₁ log₂, Yields S.system i p c log₁ x c₁ ∧ Yields S.system i (f x) c₁ log₂ y c' ∧
      log = log₁ ++ log₂ ∧ Guarding S i c₁ ∧ (∀ e ∈ log₁, Sound i e.1 e.2) ∧
        ∀ e ∈ log₂, Sound i e.1 e.2 := by
  obtain ⟨x, c₁, log₁, log₂, hp, hf, rfl⟩ := hrun.of_bind
  obtain ⟨h₁, h₂⟩ := List.forall_mem_append.1 hlog
  obtain ⟨hok, habsent⟩ := barrier_discipline.amid_log hp h.ok h.absent h₁
  exact ⟨x, c₁, log₁, log₂, hp, hf, rfl, ⟨hok, habsent⟩, h₁, h₂⟩

theorem Guarding.query {q : Query} {r : q.Result} (h : Guarding S i c)
    (hlog : ∀ e ∈ log, Sound i e.1 e.2) (hrun : Yields S.system i (query q) c log r c') :
    Guarding S i c' ∧ Onward c.state c'.state ∧
      ∃ w, q.read w.db = some r ∧ log = [(.query q, w)] := by
  obtain ⟨w, b, c₁, rest, hrely, -, hs, hguar, hok, habsent, hrest, rfl⟩ :=
    barrier_discipline.amid_act hrun h.ok h.absent hlog
  cases b with
  | error e => exact (not_yields_throw hrest).elim
  | ok x =>
    obtain ⟨rfl, rfl, rfl⟩ := yields_pure.1 hrest
    exact ⟨⟨hok, habsent⟩, hrely.onward.trans hguar.1, w, hs.query.1, rfl⟩

theorem Guarding.commit {t : Transaction} {r : t.Result} (h : Guarding S i c)
    (hlog : ∀ e ∈ log, Sound i e.1 e.2) (hrun : Yields S.system i (commit t) c log r c') :
    Guarding S i c' ∧ ∃ w, Ran S i t r w c'.state ∧ log = [(.commit t, w)] := by
  obtain ⟨w, b, c₁, rest, -, -, hs, -, hok, habsent, hrest, rfl⟩ :=
    barrier_discipline.amid_act hrun h.ok h.absent hlog
  cases b with
  | error e => exact (not_yields_throw hrest).elim
  | ok x =>
    obtain ⟨rfl, rfl, rfl⟩ := yields_pure.1 hrest
    rcases hs.commit with ⟨r', hran, hr⟩ | ⟨-, e, he⟩
    · obtain rfl := hr x rfl
      exact ⟨⟨hok, habsent⟩, w, hran, rfl⟩
    · cases he

/-- `autoStop` stops the execution. -/
theorem Guarding.autoStop {request : AutoStopRequest} {u : Unit} (hserved : S.ServesStops i)
    (h : Guarding S i c) (hlog : ∀ e ∈ log, Sound i e.1 e.2)
    (hrun : Yields S.system i (autoStop request) c log u c') :
    Guarding S i c' ∧ ∃ w, HeldSince w c'.state ∧
      log = [(.commit (.stop request.reason .automatic), w)] := by
  obtain ⟨w, b, c₁, rest, -, -, hs, -, hok, habsent, hrest, rfl⟩ :=
    barrier_discipline.amid_act hrun h.ok h.absent hlog
  obtain ⟨-, rfl, rfl⟩ := yields_pure.1 hrest
  exact ⟨⟨hok, habsent⟩, w, hok.1.held [] (hs.stopped hserved), rfl⟩

/-- A sequence ends as its second part. -/
theorem Guarding.after {α β : Type} {p : Call α} {f : α → Call β} {y : β} {runId : String}
    (h : Guarding S i c) (hlog : ∀ e ∈ log, Sound i e.1 e.2)
    (hrun : Yields S.system i (p >>= f) c log y c')
    (hf : ∀ x c₁ rest, Guarding S i c₁ → (∀ e ∈ rest, Sound i e.1 e.2) →
      Yields S.system i (f x) c₁ rest y c' → Guarding S i c' ∧ Closing i runId c'.state rest) :
    Guarding S i c' ∧ Closing i runId c'.state log := by
  obtain ⟨x, c₁, before, rest, -, hrest, rfl, h₁, -, hlog₁⟩ := h.first hlog hrun
  obtain ⟨h', hclosing⟩ := hf x c₁ rest h₁ hlog₁ hrest
  exact ⟨h', hclosing.prepend⟩

/-- A run that is closed with its items is stopped if one of them is critical. -/
theorem Guarding.complete {runId : String} {drafts : List ItemDraft} {u : Unit}
    (hserved : S.ServesStops i) (h : Guarding S i c) (hlog : ∀ e ∈ log, Sound i e.1 e.2)
    (hrun : Yields S.system i (do
      ApiScore.commit (.completeRun runId drafts)
      applyStop ((stopTriggerFor drafts).map fun trigger =>
        ⟨trigger, [("reconciliationRunId", runId)]⟩)) c log u c') :
    Guarding S i c' ∧ Closing i runId c'.state log := by
  obtain ⟨_, c₁, l₁, l₂, hcommit, hstop, rfl, -, hlog₁, hlog₂⟩ := h.first hlog hrun
  obtain ⟨h₁, w, hran, rfl⟩ := h.commit hlog₁ hcommit
  have hdone : .completed i runId drafts ∈ c₁.state.trace := by
    obtain ⟨env, db, -, -, hstate⟩ := hran
    rw [hstate]
    exact List.mem_cons_self
  cases htrigger : stopTriggerFor drafts with
  | none =>
    rw [htrigger] at hstop
    obtain ⟨-, rfl, rfl⟩ := yields_pure.1 hstop
    have hclosing : Closing i runId _ ([] ++ [(.commit (.completeRun runId drafts), w)]) :=
      .clean (stopTriggerFor_eq_none.1 htrigger) hdone
    exact ⟨h₁, hclosing⟩
  | some trigger =>
    rw [htrigger] at hstop
    obtain ⟨h₂, w₁, hheld, rfl⟩ := h₁.autoStop hserved hlog₂ hstop
    have hcritical : 0 < criticalCount drafts := by
      refine Nat.pos_of_ne_zero fun hzero => ?_
      rw [stopTriggerFor_eq_none.2 hzero] at htrigger
      cases htrigger
    refine ⟨h₂, ?_⟩
    rw [← List.nil_append (_ ++ _)]
    exact .alarmed (.inr ⟨drafts, rfl, hcritical⟩) hheld

/-- What is inside the `try` closes the run with its items, and stops the execution if one of them is
critical. -/
theorem Guarding.examine {run : ReconciliationRun} {now : Int} {u : Unit}
    (hserved : S.ServesStops i) (h : Guarding S i c) (hlog : ∀ e ∈ log, Sound i e.1 e.2)
    (hrun : Yields S.system i (examine S.platform run now) c log u c') :
    Guarding S i c' ∧ Closing i run.id c'.state log := by
  refine h.after hlog hrun fun account _ _ h hlog hrun => ?_
  cases hport : S.platform.portFor account.mode with
  | error e =>
    rw [hport] at hrun
    exact (not_yields_throw hrun).elim
  | ok port =>
    rw [hport] at hrun
    refine h.after hlog hrun fun _ _ _ h hlog hrun => ?_
    refine h.after hlog hrun fun abandoned _ _ h hlog hrun => ?_
    refine h.after hlog hrun fun listed _ _ h hlog hrun => ?_
    refine h.after hlog hrun fun lookups _ _ h hlog hrun => ?_
    refine h.after hlog hrun fun resolved _ _ h hlog hrun => ?_
    refine h.after hlog hrun fun again _ _ h hlog hrun => ?_
    refine h.after hlog hrun fun balance _ _ h hlog hrun => ?_
    exact h.after hlog hrun fun ledger _ _ h hlog hrun => h.complete hserved hlog hrun

/-- What catches a failure fails the run, and stops the execution. -/
theorem Guarding.fail {runId : String} {request : AutoStopRequest} {u : Unit}
    (hserved : S.ServesStops i) (h : Guarding S i c) (hlog : ∀ e ∈ log, Sound i e.1 e.2)
    (hrun : Yields S.system i (do
      ApiScore.commit (.failRun runId)
      ApiScore.autoStop request) c log u c') :
    Guarding S i c' ∧ Closing i runId c'.state log := by
  obtain ⟨_, c₁, l₁, l₂, hcommit, hstop, rfl, -, hlog₁, hlog₂⟩ := h.first hlog hrun
  obtain ⟨h₁, w, -, rfl⟩ := h.commit hlog₁ hcommit
  obtain ⟨h₂, w₁, hheld, rfl⟩ := h₁.autoStop hserved hlog₂ hstop
  refine ⟨h₂, ?_⟩
  rw [← List.nil_append (_ ++ _)]
  exact .alarmed (.inl rfl) hheld

/-- **A call that returns has closed the run, and with an alarm it has stopped the execution.** -/
theorem Guarding.executeRun {runId : String} {now : Int} {run : ReconciliationRun}
    (hserved : S.ServesStops i) (h : Guarding S i c) (hlog : ∀ e ∈ log, Sound i e.1 e.2)
    (hrun : Yields S.system i (executeRun S.platform runId now) c log run c') :
    Guarding S i c' ∧ Ending i runId run c'.state log := by
  obtain ⟨row, c₁, l₁, l₂, hread, hrest, rfl, -, hlog₁, hlog₂⟩ := h.first hlog hrun
  obtain ⟨h₁, -, w, hrow, rfl⟩ := h.query hlog₁ hread
  have hid : row.id = runId := by
    simpa using List.find?_some hrow
  split_ifs at hrest with hstatus
  · obtain ⟨rfl, rfl, rfl⟩ := yields_pure.1 hrest
    exact ⟨h₁, .early hstatus⟩
  obtain ⟨u, c₂, l₃, l₄, htry, hlast, rfl, -, hlog₃, hlog₄⟩ := h₁.first hlog₂ hrest
  have hclosed : Guarding S i c₂ ∧ Closing i runId c₂.state l₃ := by
    rcases htry.of_tryCatch with hexamine | ⟨e, c₃, l₅, l₆, herror, hcatch, rfl⟩
    · exact hid ▸ h₁.examine hserved hlog₃ hexamine
    · obtain ⟨h₅, h₆⟩ := List.forall_mem_append.1 hlog₃
      obtain ⟨hok, habsent⟩ := barrier_discipline.amid_log herror h₁.ok h₁.absent h₅
      obtain ⟨h₂, hclosing⟩ := Guarding.fail hserved ⟨hok, habsent⟩ h₆ hcatch
      exact ⟨h₂, hclosing.prepend⟩
  obtain ⟨h₂, hclosing⟩ := hclosed
  obtain ⟨h', ho, w', -, rfl⟩ := h₂.query hlog₄ hlast
  rw [← List.append_assoc]
  exact ⟨h', .closed (hclosing.later ho h'.ok.1).prepend⟩

/-- **An alarm stops the execution**: a call of `execute` that returns, amid any others, has found the
run closed, or closed it without an alarm, or stopped the execution behind it; and at any later moment
nothing was submitted since that stop, and the control row is disabled, unless somebody climbed. -/
theorem alarms_stop {db : Database} {clock : Int} {funds : String → String → OperatorBalance}
    {runId : String} {now : Int} {run : ReconciliationRun} (hserved : S.ServesStops i)
    (h : Reachable S.system (.init (.init db clock funds)) c) (hi : c.procs i = none)
    (hnow : now ≤ c.state.clock)
    (hrun : Yields S.system i (executeRun S.platform runId now) c log run c') :
    ∀ c'', ReflTransGen (Meanwhile S.system i) c' c'' → Ending i runId run c''.state log := by
  intro c'' hothers
  obtain ⟨hinv, hslot⟩ := barrier_discipline.reachable (Barrier.init db clock funds)
    (fun _ => trivial) h
  have hguarding : Guarding S i c := ⟨⟨hinv, fun j _ => hslot j⟩, hi⟩
  obtain ⟨-, -, -, hlog⟩ := barrier_discipline.amid hrun hguarding.ok hi
    (executeRun_ensures (T := S.sound (Barrier S)) hinv hnow)
  obtain ⟨h', hending⟩ := hguarding.executeRun hserved hlog hrun
  obtain ⟨h'', ho⟩ := h'.meanwhile hothers
  cases hending with
  | early hover => exact .early hover
  | closed hclosing => exact .closed (hclosing.later ho h''.ok.1)

end

namespace Sample

/-- No transaction of the scene is rolled back. -/
def servedScene : Scene := { scene with allow := fun _ _ input _ => input.fault.isNone }

theorem servedScene_serves (i : CallId) : servedScene.setting.ServesStops i := by
  intro reason source input w hallow e hfault
  have hnone : input.fault.isNone = true := hallow
  rw [hfault] at hnone
  cases hnone

/-- The operator does not know the order. -/
def mislaid : Input := { Input.at 1000 "" with lookups := .ok [(key, .notFound)] }

/-- An order is accepted, and then a call alone reconciles it. -/
def alerted : Option (Run × ReconciliationRun × World) := do
  let c ← servedScene.replay (enabled ++ scheduled :: accepted) initial
  let (r, w) ← servedScene.alone 5 (executeRun platform "recon" 1000).run
    (List.replicate 19 mislaid) c.state
  return (c, ← r.toOption, w)

theorem alerted_spec {c : Run} {run : ReconciliationRun} {w : World}
    (h : alerted = some (c, run, w)) : Reachable servedScene.setting.system initial c ∧
      ∃ log, Yields servedScene.setting.system 5 (executeRun platform "recon" 1000) c log run
        ⟨w, c.procs⟩ := by
  simp only [alerted, Option.bind_eq_bind, Option.bind_eq_some_iff] at h
  obtain ⟨c₁, hc, ⟨r, w'⟩, hrun, run', hok, h⟩ := h
  obtain ⟨rfl, rfl, rfl⟩ : c₁ = c ∧ run' = run ∧ w' = w := by simpa using h
  refine ⟨Scene.replay_reachable .init hc, ?_⟩
  have hret := Scene.alone_spec hrun
  cases r with
  | error e => cases hok
  | ok r =>
    obtain rfl := Option.some.inj hok
    exact Alone.amid hret

end Sample

/-- An accepted order that the operator does not know: the run is closed with critical items, and the
execution is stopped. -/
theorem alarms_stop_missing : ∃ (c c' : Run) (log : List (Action × World))
    (run : ReconciliationRun), run.status = .completed ∧ 0 < run.criticalCount ∧
      c'.state.trace.findSome? Event.shuts = some true ∧
      Yields Sample.servedScene.setting.system 5 (executeRun Sample.platform "recon" 1000) c log run
        c' ∧
      ∀ c'', ReflTransGen (Meanwhile Sample.servedScene.setting.system 5) c' c'' →
        Ending 5 "recon" run c''.state log := by
  have hrun : (Sample.alerted.any fun r => (r.1.procs 5).isNone && decide (1000 ≤ r.1.state.clock) &&
      r.2.1.status == .completed && decide (0 < r.2.1.criticalCount) &&
        r.2.2.trace.findSome? Event.shuts == some true) = true := by
    decide +kernel
  obtain ⟨⟨c, run, w⟩, hsome, hchecks⟩ := (Option.any_eq_true _ _).1 hrun
  obtain ⟨hreach, log, hyields⟩ := Sample.alerted_spec hsome
  simp only [Bool.and_eq_true, beq_iff_eq, Option.isNone_iff_eq_none, decide_eq_true_eq] at hchecks
  obtain ⟨⟨⟨⟨hfree, hclock⟩, hstatus⟩, hcritical⟩, hshut⟩ := hchecks
  exact ⟨c, _, log, run, hstatus, hcritical, hshut, hyields,
    alarms_stop (Sample.servedScene_serves 5) hreach hfree hclock hyields⟩

end ApiScore
