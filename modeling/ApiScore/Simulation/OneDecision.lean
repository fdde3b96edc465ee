import ApiScore.Odds.Suspension
import ApiScore.Simulation.TickRows

/-!
# One decision for each signal

A signal may be decided more than once: an order that is rejected leaves it open, and so does a
rejection.  Its orders are numbered by those before it, so the next one is given only after all of them
were rejected, and a reason to reject it is written down once.

* `AttemptsKept` — the invariant of the rows of a run.
* `attemptsKept_tick` — a tick keeps it.
* `oneDecision` — over any run of ticks and stops.
-/

set_option autoImplicit false

namespace ApiScore

open Relational

/-! ## The decisions of a signal -/

/-- The attempts of a signal that have staked something. -/
def stakedOf (rows : List BetDecision) (key : String) : List BetDecision :=
  (historyOf rows key).filter (·.stake.isSome)

/-- The decisions of the signals of a run, as they may be. -/
structure OneDecision (R : Runtime) (runId : String) (rows : List BetDecision) : Prop where
  live : ∀ key, (historyOf rows key).countP (·.isLive) ≤ 1
  attempts : ∀ key, (stakedOf rows key).map (·.idempotencyKey) =
    (List.range (stakedOf rows key).length).map (orderKey R.sha256 runId key)
  rejected : ∀ key, ∀ d ∈ (stakedOf rows key).dropLast, d.status = .rejected
  reasons : ∀ key code, (historyOf rows key).countP
    (fun d => d.stake.isNone && d.rejectionCode == some code) ≤ 1

/-- What a tick keeps of the rows of its run. -/
structure AttemptsKept (R : Runtime) (runId : String) (rows : List BetDecision) : Prop where
  status : ∀ d ∈ rows, d.isLive = false → d.status = .rejected
  attempts : ∀ key, (stakedOf rows key).map (·.idempotencyKey) =
    (List.range (stakedOf rows key).length).map (orderKey R.sha256 runId key)
  rejected : ∀ key, ∀ d ∈ (stakedOf rows key).dropLast, d.status = .rejected
  stakeless : ∀ d ∈ rows, d.stake = none → ∃ code, d.status = .rejected ∧
    d.rejectionCode = some code ∧ d.idempotencyKey = rejectionKey R.sha256 runId d.signalKey code

section Kept

variable {R : Runtime} {run : SimulationRunRow} {rows new : List BetDecision}
  {f : BetDecision → BetDecision} {tick : TickInput} {key : String}

/-- A tick leaves alone what was rejected. -/
theorem eq_of_rejected {d : BetDecision} (h : f d = d ∨ TickedRow tick d (f d))
    (hd : d.status = .rejected) : f d = d := by
  rcases h with h | h
  · exact h
  · exact nomatch hd.symm.trans h.opened

/-- The signal and the stake of a row stay. -/
theorem same_of_ticked {d : BetDecision} (h : f d = d ∨ TickedRow tick d (f d)) :
    (f d).signalKey = d.signalKey ∧ (f d).stake = d.stake ∧
      (f d).idempotencyKey = d.idempotencyKey := by
  rcases h with h | h
  · rw [h]
    exact ⟨rfl, rfl, rfl⟩
  · exact ⟨h.signal, h.stake, h.key⟩

theorem historyOf_map (h : ∀ d ∈ rows, f d = d ∨ TickedRow tick d (f d)) :
    historyOf (rows.map f) key = (historyOf rows key).map f := by
  rw [historyOf, List.filter_map, historyOf]
  refine congrArg _ (List.filter_congr fun d hd => ?_)
  rw [Function.comp_apply, (same_of_ticked (h d hd)).1]

theorem mem_historyOf {d : BetDecision} : d ∈ historyOf rows key ↔ d ∈ rows ∧ d.signalKey = key := by
  rw [historyOf, List.mem_filter, beq_iff_eq]

theorem stakedOf_map (h : ∀ d ∈ rows, f d = d ∨ TickedRow tick d (f d)) :
    stakedOf (rows.map f) key = (stakedOf rows key).map f := by
  rw [stakedOf, historyOf_map h, List.filter_map, stakedOf]
  refine congrArg _ (List.filter_congr fun d hd => ?_)
  rw [Function.comp_apply, (same_of_ticked (h d (mem_historyOf.1 hd).1)).2.1]

theorem stakedOf_append (rows new : List BetDecision) :
    stakedOf (rows ++ new) key = stakedOf rows key ++ stakedOf new key := by
  rw [stakedOf, historyOf, List.filter_append, List.filter_append]
  rfl

theorem mem_stakedOf {d : BetDecision} :
    d ∈ stakedOf rows key ↔ (d ∈ rows ∧ d.signalKey = key) ∧ d.stake.isSome = true := by
  rw [stakedOf, List.mem_filter, mem_historyOf]

/-- A signal gets at most one new row. -/
theorem stakedOf_new (h : (new.map (·.signalKey)).Nodup) :
    stakedOf new key = [] ∨ ∃ row, stakedOf new key = [row] := by
  have hsub : (stakedOf new key).Sublist new :=
    List.filter_sublist.trans List.filter_sublist
  have honce := (hsub.map (·.signalKey)).nodup h
  have hkey : ∀ d ∈ stakedOf new key, d.signalKey = key := fun d hd => (mem_stakedOf.1 hd).1.2
  cases hnew : stakedOf new key with
  | nil => exact Or.inl rfl
  | cons row rest =>
    rw [hnew] at honce hkey
    cases rest with
    | nil => exact Or.inr ⟨row, rfl⟩
    | cons row' rest =>
      have hsame := (hkey row' (List.mem_cons_of_mem _ List.mem_cons_self)).trans
        (hkey row List.mem_cons_self).symm
      exact absurd (List.mem_cons.2 (Or.inl hsame.symm)) (List.nodup_cons.1 honce).1

/-- A signal that gets a row has only been rejected before. -/
theorem rejected_of_idle (hkept : AttemptsKept R run.id rows) {row : BetDecision}
    (hrow : PlannedRow R run.context rows row) :
    ∀ d ∈ historyOf rows row.signalKey, d.status = .rejected := fun d hd =>
  hkept.status d (mem_historyOf.1 hd).1 (hrow.idle d hd)

/-! ## A tick -/

theorem AttemptsKept.nil (R : Runtime) (runId : String) : AttemptsKept R runId [] where
  status _ h := nomatch h
  attempts _ := rfl
  rejected _ _ h := nomatch h
  stakeless _ h := nomatch h

/-- The attempts of a signal after a tick: the ones there were, with one more where all of these were
rejected. -/
theorem stakedOf_tick (hkept : AttemptsKept R run.id rows)
    (hf : ∀ d ∈ rows, f d = d ∨ TickedRow tick d (f d))
    (hnew : NewRows R run rows (rows.map f) new) (key : String) :
    stakedOf (rows.map f ++ new) key = (stakedOf rows key).map f ∨
      ∃ row, stakedOf (rows.map f ++ new) key = stakedOf rows key ++ [row] ∧
        (∀ d ∈ stakedOf rows key, d.status = .rejected) ∧
        row.idempotencyKey = orderKey R.sha256 run.id key (stakedOf rows key).length := by
  rw [stakedOf_append, stakedOf_map hf]
  rcases @stakedOf_new _ key hnew.once with hnone | ⟨row, hone⟩
  · rw [hnone, List.append_nil]
    exact Or.inl rfl
  · have hrow : row ∈ stakedOf new key := hone ▸ List.mem_cons_self
    obtain ⟨⟨hmem, rfl⟩, hstake⟩ := mem_stakedOf.1 hrow
    have hplanned := hnew.planned row hmem
    have hrejected : ∀ d ∈ stakedOf rows row.signalKey, d.status = .rejected := fun d hd =>
      rejected_of_idle hkept hplanned d (List.mem_of_mem_filter hd)
    have hsame : (stakedOf rows row.signalKey).map f = stakedOf rows row.signalKey := by
      refine (List.map_congr_left fun d hd => ?_).trans (List.map_id _)
      exact eq_of_rejected (hf d (mem_stakedOf.1 hd).1.1) (hrejected d hd)
    refine Or.inr ⟨row, by rw [hone, hsame], hrejected, ?_⟩
    rcases hplanned.decision with ⟨_, -, -, hnone, -⟩ | ⟨_, -, -, -, -, hkey⟩
    · rw [hnone] at hstake
      cases hstake
    · rw [hkey, attemptsOf, List.countP_eq_length_filter]
      rfl

/-- **A tick keeps the attempts of every signal.** -/
theorem attemptsKept_tick (hkept : AttemptsKept R run.id rows)
    (hf : ∀ d ∈ rows, f d = d ∨ TickedRow tick d (f d))
    (hnew : NewRows R run rows (rows.map f) new) :
    AttemptsKept R run.id (rows.map f ++ new) where
  status d hd hlive := by
    rcases List.mem_append.1 hd with hd | hd
    · obtain ⟨x, hx, rfl⟩ := List.mem_map.1 hd
      rcases hf x hx with heq | hticked
      · rw [heq] at hlive ⊢
        exact hkept.status x hx hlive
      · rcases hticked.status with hs | hs | hs
        · exact hs
        · simp [BetDecision.isLive, hs] at hlive
        · simp [BetDecision.isLive, hs] at hlive
    · rcases (hnew.planned d hd).decision with ⟨_, hs, -⟩ | ⟨_, hs, -⟩
      · exact hs
      · simp [BetDecision.isLive, hs] at hlive
  attempts key := by
    rcases stakedOf_tick hkept hf hnew key with heq | ⟨row, heq, -, hkey⟩
    · have hkeys : ((stakedOf rows key).map f).map (·.idempotencyKey) =
          (stakedOf rows key).map (·.idempotencyKey) := by
        rw [List.map_map]
        exact List.map_congr_left fun d hd =>
          (same_of_ticked (hf d (mem_stakedOf.1 hd).1.1)).2.2
      rw [heq, hkeys, List.length_map, hkept.attempts]
    · rw [heq, List.map_append, hkept.attempts, List.length_append, List.length_singleton,
        List.range_succ, List.map_append, List.map_singleton, List.map_singleton, hkey]
  rejected key d hd := by
    rcases stakedOf_tick hkept hf hnew key with heq | ⟨row, heq, hrejected, -⟩
    · rw [heq, ← List.map_dropLast] at hd
      obtain ⟨x, hx, rfl⟩ := List.mem_map.1 hd
      have hs := hkept.rejected key x hx
      have hmem := (mem_stakedOf.1 ((List.dropLast_sublist _).subset hx)).1.1
      rw [eq_of_rejected (hf x hmem) hs]
      exact hs
    · rw [heq, List.dropLast_concat] at hd
      exact hrejected d hd
  stakeless d hd hstake := by
    rcases List.mem_append.1 hd with hd | hd
    · obtain ⟨x, hx, rfl⟩ := List.mem_map.1 hd
      have hold := (same_of_ticked (hf x hx)).2.1.symm.trans hstake
      have hreason := hkept.stakeless x hx hold
      rw [eq_of_rejected (hf x hx) hreason.choose_spec.1]
      exact hreason
    · have hplanned := hnew.planned d hd
      rcases hplanned.decision with ⟨code, hs, hcode, -, hkey⟩ | ⟨_, -, hsome, -⟩
      · exact ⟨code, hs, hcode, hkey⟩
      · rw [hstake] at hsome
        cases hsome

end Kept

/-! ## Any run of ticks and stops -/

section Runs

variable {R : Runtime} {w w' w₀ : SimulationWorld}

theorem attemptsKept_step (h : SimulationWorld.Step R w w')
    (hkept : AttemptsKept R w.run.id w.rows) : AttemptsKept R w'.run.id w'.rows := by
  obtain ⟨⟨status, hrun, -⟩, heq | ⟨tick, f, new, -, heq, hf, hnew⟩⟩ := h.rows_eq
  · rw [hrun, heq]
    exact hkept
  · have hid : w'.run.id = w.run.id := by rw [hrun]
    rw [hid, heq]
    exact attemptsKept_tick hkept hf hnew

/-- **Every run keeps the attempts.** -/
theorem attemptsKept_reachable (hstart : w₀.rows = [])
    (hreach : Relation.ReflTransGen (SimulationWorld.Step R) w₀ w) :
    AttemptsKept R w.run.id w.rows := by
  induction hreach with
  | refl =>
    rw [hstart]
    exact .nil R _
  | tail _ hstep ih => exact attemptsKept_step hstep ih

/-- After a stop no row is added. -/
theorem ids_of_stopped (hstopped : w.run.status = .stopped)
    (hreach : Relation.ReflTransGen (SimulationWorld.Step R) w w') :
    w'.run.status = .stopped ∧ w'.rows.map (·.id) = w.rows.map (·.id) := by
  induction hreach with
  | refl => exact ⟨hstopped, rfl⟩
  | tail _ hstep ih =>
    obtain ⟨hs, hids⟩ := ih
    obtain ⟨⟨status, hrun, hstop⟩, heq | ⟨tick, f, new, -, heq, hf, hnew⟩⟩ := hstep.rows_eq
    · exact ⟨hrun ▸ hstop hs, heq ▸ hids⟩
    · have hnone : new = [] := by
        refine List.eq_nil_iff_forall_not_mem.2 fun row hrow => ?_
        exact nomatch hs.symm.trans (hnew.running row hrow)
      refine ⟨hrun ▸ hstop hs, ?_⟩
      rw [heq, hnone, List.append_nil, List.map_map, ← hids]
      refine List.map_congr_left fun d hd => ?_
      rcases hf d hd with hsame | hticked
      · rw [Function.comp_apply, hsame]
      · exact hticked.id

theorem countP_le_one {α : Type} {p : α → Bool} {l : List α}
    (h : l.Pairwise fun a b => ¬ (p a = true ∧ p b = true)) : l.countP p ≤ 1 := by
  induction l with
  | nil => exact Nat.zero_le 1
  | cons a l ih =>
    rw [List.pairwise_cons] at h
    by_cases ha : p a = true
    · have hnone : l.countP p = 0 := List.countP_eq_zero.2 fun b hb hpb => h.1 b hb ⟨ha, hpb⟩
      rw [List.countP_cons_of_pos ha, hnone]
    · rw [List.countP_cons_of_neg ha]
      exact ih h.2

/-- The rows of a table keep the decisions of a signal apart. -/
theorem AttemptsKept.oneDecision {decisions : Table decisionSchema} {run : SimulationRunRow}
    (h : AttemptsKept R run.id (run.decisionsOf decisions)) :
    OneDecision R run.id (run.decisionsOf decisions) where
  attempts := h.attempts
  rejected := h.rejected
  live key := by
    -- what is live has staked something
    have hstaked : (historyOf (run.decisionsOf decisions) key).countP (·.isLive) =
        (stakedOf (run.decisionsOf decisions) key).countP (·.isLive) := by
      rw [stakedOf, List.countP_filter]
      refine List.countP_congr fun d hd => ?_
      rw [Bool.and_eq_true]
      refine ⟨fun hlive => ⟨hlive, ?_⟩, And.left⟩
      by_contra hnone
      obtain ⟨_, hs, -⟩ := h.stakeless d (mem_historyOf.1 hd).1 (by simpa using hnone)
      simp [BetDecision.isLive, hs] at hlive
    have hrejected := h.rejected key
    rw [hstaked]
    rcases List.eq_nil_or_concat' (stakedOf (run.decisionsOf decisions) key) with
      hnil | ⟨init, last, hlast⟩
    · rw [hnil]
      exact Nat.zero_le 1
    · rw [hlast, List.dropLast_concat] at hrejected
      have hnone : init.countP (·.isLive) = 0 := by
        refine List.countP_eq_zero.2 fun d hd hlive => ?_
        simp [BetDecision.isLive, hrejected d hd] at hlive
      rw [hlast, List.countP_append, hnone, Nat.zero_add]
      exact List.countP_le_length
  reasons key code := by
    refine countP_le_one (((decisions.distinct.filter _).filter _).imp_of_mem
      fun {d d'} hd hd' hclash hboth => ?_)
    obtain ⟨hmem, hkey⟩ := mem_historyOf.1 hd
    obtain ⟨hmem', hkey'⟩ := mem_historyOf.1 hd'
    simp only [Bool.and_eq_true, Option.isNone_iff_eq_none, beq_iff_eq] at hboth
    obtain ⟨⟨hstake, hcode⟩, hstake', hcode'⟩ := hboth
    obtain ⟨c, -, hc, hidem⟩ := h.stakeless d hmem hstake
    obtain ⟨c', -, hc', hidem'⟩ := h.stakeless d' hmem' hstake'
    obtain rfl := Option.some.inj (hc.symm.trans hcode)
    obtain rfl := Option.some.inj (hc'.symm.trans hcode')
    have hsame : d.idempotencyKey = d'.idempotencyKey := by rw [hidem, hidem', hkey, hkey']
    have htrue : decisionSchema.clash d d' = true :=
      Bool.or_eq_true_iff.2 (Or.inr (beq_iff_eq.2 hsame))
    exact absurd (hclash.symm.trans htrue) Bool.false_ne_true

/-- **One decision for each signal**: at most one is live, its orders are numbered and all but the last
were rejected, each reason to reject it is written down once, and a stopped run gets no new row. -/
theorem oneDecision_reachable (hstart : w₀.rows = [])
    (hreach : Relation.ReflTransGen (SimulationWorld.Step R) w₀ w) :
    OneDecision R w.run.id w.rows ∧
      (w.run.status = .stopped → ∀ w', Relation.ReflTransGen (SimulationWorld.Step R) w w' →
        w'.rows.map (·.id) = w.rows.map (·.id)) :=
  ⟨(attemptsKept_reachable hstart hreach).oneDecision, fun hstopped _ hafter =>
    (ids_of_stopped hstopped hafter).2⟩

end Runs

namespace Sample

/-- A goal of the home team is suggested. -/
def goalSignal : LiveSignal where
  id := "smart-fh-f-1-a"
  fixtureId := "f"
  fixtureLabel := "Home vs Away"
  providerFixtureId := "1"
  quoteTarget := goalTarget
  marketType := "Buts match"
  selection := "Home marque dans le match (+0.5)"
  minAcceptableOdd := 3 / 2
  edgePct := 5
  confidenceScore := some 60
  baseRateSampleSize := some 100
  reasons := []
  ruleName := "Goal"
  elapsed := 50
  shotsCount := .num 9
  teamId := 1
  teamName := "Home"
  isHomeTeam := true

/-- A run with a bankroll of 100. -/
def simulationRun : SimulationRunRow where
  id := "a"
  currency := "EUR"
  initialBankroll := 10000
  status := .running
  strategySnapshot := strategy
  riskSnapshot := ⟨120000, 30000, none, some 500, some 2000⟩
  bankroll_pos := by decide
  exposure_pos := by decide

/-- A tick that finds the odd of the signal. -/
def goalTick : RunTickInput where
  signals := [goalSignal]
  now := 5000
  odds := suspendedOdds
  fixture _ := none
  ids _ := "d"
  admits _ := true

def simulationWorld : SimulationWorld := ⟨simulationRun, .empty, []⟩

end Sample

/-- One tick gives an order to the signal. -/
theorem reachable_afterTick : ∃ w : SimulationWorld,
    Relation.ReflTransGen (SimulationWorld.Step Sample.runtime) Sample.simulationWorld w ∧
      w.rows.map (·.stake) = [some 500] := by
  have hrows : (runTick Sample.runtime Sample.simulationRun Sample.goalTick .empty).toOption.map
      (fun t => (Sample.simulationRun.decisionsOf t).map (·.stake)) = some [some 500] := by
    decide +kernel
  cases htick : runTick Sample.runtime Sample.simulationRun Sample.goalTick .empty with
  | error e =>
    rw [htick] at hrows
    cases hrows
  | ok decisions =>
    rw [htick] at hrows
    have hcommit := @SimulationWorld.Step.commit Sample.runtime
      ⟨Sample.simulationRun, .empty, [[Sample.goalSignal]]⟩ Sample.goalTick decisions
      List.mem_cons_self htick
    refine ⟨_, .tail (.single (.read _ [Sample.goalSignal])) hcommit, ?_⟩
    exact Option.some.inj hrows

/-- The decisions of a run that has given an order. -/
theorem oneDecision_afterTick : ∃ w : SimulationWorld, w.rows.map (·.stake) = [some 500] ∧
    OneDecision Sample.runtime w.run.id w.rows ∧
      (w.run.status = .stopped → ∀ w',
        Relation.ReflTransGen (SimulationWorld.Step Sample.runtime) w w' →
          w'.rows.map (·.id) = w.rows.map (·.id)) := by
  obtain ⟨w, hreach, hrows⟩ := reachable_afterTick
  exact ⟨w, hrows, oneDecision_reachable rfl hreach⟩

end ApiScore
