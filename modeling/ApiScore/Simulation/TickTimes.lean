import ApiScore.Simulation.TickRows

/-!
# The instants of a tick

A row keeps the instant it was decided at.  A tick decides and settles at its own instant, and
settles only orders that it finds executed or due.

* `TimedRow`, `tickRow_timed` — the instants of a row that a tick changes.
* `planNewDecisions_decidedAt` — the instant of the new decisions.
* `runTick_times` — a whole tick, with its instants.
-/

set_option autoImplicit false

namespace ApiScore

open Relational

/-! ## Open orders -/

section Timed

variable {input : TickInput} {row row' : BetDecision}

/-- A tick may settle the row: it is executed, or due. -/
def BetDecision.started (row : BetDecision) (now : Int) : Bool :=
  row.executableOdd.isSome || (row.due now).isSome

/-- The instants of a row that a tick changes. -/
structure TimedRow (input : TickInput) (row row' : BetDecision) : Prop where
  decidedAt : row'.decidedAt = row.decidedAt
  settledAt : row'.status = .completed → row'.settledAt = some input.now
  started : row'.status = .completed → row.started input.now = true

theorem planExecution_timed (h : planExecution row input.selectQuote input.now = some row') :
    row'.decidedAt = row.decidedAt ∧ row'.status ≠ .completed ∧
      (row.due input.now).isSome = true := by
  have hticked := planExecution_ticked h
  obtain ⟨dueAt, hdue, rfl⟩ := Option.map_eq_some_iff.1 h
  have hopen : row.status = .orderReserved := hticked.opened
  rw [hdue]
  split
  · exact ⟨rfl, nofun, rfl⟩
  · dsimp only
    split_ifs
    · exact ⟨rfl, nofun, rfl⟩
    · refine ⟨rfl, ?_, rfl⟩
      show row.status ≠ .completed
      rw [hopen]
      exact nofun

/-- **The instants of an open order that a tick changes.** -/
theorem tickRow_timed (h : tickRow input row = .ok (some row')) : TimedRow input row row' := by
  rw [tickRow] at h
  cases hplan : planSettlement ((planExecution row input.selectQuote input.now).getD row)
      (input.fixture row.fixtureId) input.now with
  | error e =>
    rw [hplan] at h
    cases h
  | ok settled =>
    rw [hplan] at h
    have h := Except.ok.inj h
    cases settled with
    | none =>
      obtain ⟨hdecided, hstatus, -⟩ := planExecution_timed h
      exact ⟨hdecided, fun hs => absurd hs hstatus, fun hs => absurd hs hstatus⟩
    | some x =>
      obtain rfl := Option.some.inj h
      obtain ⟨odd, stake, outcome, -, hodd, -, -, rfl⟩ := planSettlement_settled hplan
      cases hexec : planExecution row input.selectQuote input.now with
      | none =>
        rw [hexec, Option.getD_none] at hodd
        refine ⟨by rw [Option.getD_none], fun _ => rfl, fun _ => ?_⟩
        rw [BetDecision.started, hodd]
        rfl
      | some executed =>
        obtain ⟨hdecided, -, hdue⟩ := planExecution_timed hexec
        refine ⟨by rw [Option.getD_some, hdecided], fun _ => rfl, fun _ => ?_⟩
        rw [BetDecision.started, hdue, Bool.or_true]

end Timed

/-! ## New decisions -/

section Plan

variable {R : Runtime} {context : SimulationContext} {existing : List BetDecision}
  {selectQuote : QuoteSelector} {now : Int} {plan plan' : PlanState}

theorem PlanState.reject_decidedAt {row : BetDecision} {code : RejectionCode}
    (hrow : row.decidedAt = now) (h : ∀ d ∈ plan.rows, d.decidedAt = now) :
    ∀ d ∈ (plan.reject R context row code).rows, d.decidedAt = now := by
  rw [PlanState.reject]
  split_ifs
  · exact h
  · exact List.forall_mem_append.2 ⟨h, List.forall_mem_singleton.2 hrow⟩

/-- A signal is decided at the instant of the tick. -/
theorem planSignal_decidedAt {signal : LiveSignal} {key : String}
    (hplan : planSignal R context existing selectQuote now plan signal key = .ok plan')
    (h : ∀ d ∈ plan.rows, d.decidedAt = now) : ∀ d ∈ plan'.rows, d.decidedAt = now := by
  rw [planSignal] at hplan
  split_ifs at hplan
  · obtain rfl := Except.ok.inj hplan
    exact h
  · rw [planNewSignal] at hplan
    split_ifs at hplan
    · obtain rfl := Except.ok.inj hplan
      exact h
    · cases hquote : selectQuote (context.target signal) now with
      | none =>
        simp only [hquote] at hplan
        obtain rfl := Except.ok.inj hplan
        exact PlanState.reject_decidedAt rfl h
      | some quote =>
        simp only [hquote] at hplan
        split_ifs at hplan
        · obtain rfl := Except.ok.inj hplan
          exact PlanState.reject_decidedAt rfl h
        · obtain rfl := Except.ok.inj hplan
          exact PlanState.reject_decidedAt rfl h
        · obtain rfl := Except.ok.inj hplan
          exact List.forall_mem_append.2 ⟨h, List.forall_mem_singleton.2 rfl⟩

theorem planSignals_decidedAt {signals : List (LiveSignal × String)}
    (hplan : planSignals R context existing selectQuote now plan signals = .ok plan')
    (h : ∀ d ∈ plan.rows, d.decidedAt = now) : ∀ d ∈ plan'.rows, d.decidedAt = now := by
  induction signals generalizing plan with
  | nil =>
    obtain rfl := Except.ok.inj hplan
    exact h
  | cons signal signals ih =>
    rw [planSignals] at hplan
    cases hsignal : planSignal R context existing selectQuote now plan signal.1 signal.2 with
    | error e => simp [hsignal] at hplan
    | ok next =>
      simp only [hsignal] at hplan
      exact ih hplan (planSignal_decidedAt hsignal h)

/-- **The new decisions are those of the instant.** -/
theorem planNewDecisions_decidedAt {signals : List LiveSignal} {bankroll : BankrollState}
    {rows : List BetDecision}
    (h : planNewDecisions R context existing selectQuote now signals bankroll = .ok rows) :
    ∀ row ∈ rows, row.decidedAt = now := by
  rw [planNewDecisions] at h
  cases hplan : planSignals R context existing selectQuote now
      ⟨bankroll, existing.map (·.idempotencyKey), [], []⟩ (eligibleSignals R context signals) with
  | error e =>
    rw [hplan] at h
    cases h
  | ok plan' =>
    rw [hplan] at h
    obtain rfl := Except.ok.inj h
    exact planSignals_decidedAt hplan (List.forall_mem_nil _)

end Plan

/-! ## A whole tick -/

section Tick

variable {R : Runtime} {run : SimulationRunRow} {input : RunTickInput}
  {decisions written decisions' : Table decisionSchema}

theorem decideTick_times (h : decideTick R run input decisions written = .ok decisions') :
    ∃ new, run.decisionsOf decisions' = run.decisionsOf written ++ new ∧
      ∀ row ∈ new, row.decidedAt = input.now := by
  rw [decideTick] at h
  split_ifs at h
  · obtain rfl := Except.ok.inj h
    exact ⟨[], (List.append_nil _).symm, List.forall_mem_nil _⟩
  · cases hbankroll : bankrollOf run.initialBankroll (run.decisionsOf written) with
    | error e => simp [hbankroll] at h
    | ok bankroll =>
      cases hplan : planNewDecisions R run.context (input.history R run decisions)
          (input.selectQuote R run decisions) input.now (input.candidates run) bankroll with
      | error e => simp [hbankroll, hplan] at h
      | ok rows =>
        simp only [hbankroll, hplan] at h
        obtain rfl := Except.ok.inj h
        have hsub : (written.insertIgnore input.admits (input.withIds rows)).2.Sublist
            (input.withIds rows) := Table.sublist_insertIgnore
        refine ⟨((written.insertIgnore input.admits (input.withIds rows)).2).filter fun d =>
          d.simulationRunId == run.id, ?_, fun row hrow => ?_⟩
        · rw [SimulationRunRow.decisionsOf, Table.select, Table.rows_insertIgnore,
            List.filter_append]
          rfl
        · obtain ⟨⟨base, n⟩, hbase, rfl⟩ :=
            List.mem_map.1 (hsub.subset (List.mem_of_mem_filter hrow))
          exact planNewDecisions_decidedAt hplan base
            ((List.mem_zipIdx' hbase).2 ▸ List.getElem_mem _)

/-- **A whole tick, with its instants.** -/
theorem runTick_times (h : runTick R run input decisions = .ok decisions') :
    ∃ (f : BetDecision → BetDecision) (new : List BetDecision),
      run.decisionsOf decisions' = (run.decisionsOf decisions).map f ++ new ∧
      (∀ d ∈ run.decisionsOf decisions,
        f d = d ∨ tickRow (input.tickInput R run decisions) d = .ok (some (f d))) ∧
      NewRows R run (run.decisionsOf decisions) ((run.decisionsOf decisions).map f) new ∧
      ∀ row ∈ new, row.decidedAt = input.now := by
  rw [runTick] at h
  cases hsettle : settleTick R run input decisions with
  | error e =>
    rw [hsettle] at h
    cases h
  | ok written =>
    rw [hsettle] at h
    obtain ⟨f, hf, hrows⟩ := settleTick_rows hsettle
    obtain ⟨new, hnew, hspec⟩ := decideTick_spec h
    obtain ⟨new', hnew', htimes⟩ := decideTick_times h
    obtain rfl := List.append_cancel_left (hnew.symm.trans hnew')
    exact ⟨f, new, hf ▸ hnew, hrows, hf ▸ hspec, htimes⟩

end Tick

end ApiScore
