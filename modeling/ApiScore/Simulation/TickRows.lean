import ApiScore.Simulation.RunTick

/-!
# What a tick does to the rows of its run

A tick rewrites some of the open orders of its run, and adds rows for the signals it decides, at most
one for each.

* `TickedRow`, `tickRow_ticked` — what becomes of an open order.
* `settleTick_spec` — the executions and the settlements.
* `PlannedRow`, `planSignal_spec` — the row of a signal.
* `planSignals_spec` — the rows of all signals.
* `runTick_spec` — a whole tick.
* `SimulationWorld.Step.rows_eq` — any step.
-/

set_option autoImplicit false

namespace ApiScore

open Relational Ranked

/-! ## Open orders -/

section Ticked

variable {input : TickInput} {row row' : BetDecision}

/-- What a tick keeps of a row that it changes, and what it makes of it. -/
structure TickedRow (input : TickInput) (row row' : BetDecision) : Prop where
  id : row'.id = row.id
  run : row'.simulationRunId = row.simulationRunId
  signal : row'.signalKey = row.signalKey
  key : row'.idempotencyKey = row.idempotencyKey
  stake : row'.stake = row.stake
  opened : row.status = .orderReserved
  status : row'.status = .rejected ∨ row'.status = .orderReserved ∨ row'.status = .completed
  odd : row'.executableOdd = row.executableOdd ∨ ∃ target instant quote,
    input.selectQuote target instant = some quote ∧ row'.executableOdd = some quote.oddValue
  profit : row'.status = .completed → ∃ odd stake outcome, row'.executableOdd = some odd ∧
    row.stake = some stake ∧
    row'.profit = some (DecisionOutcome.profitCents outcome stake (oddValue odd))

theorem planExecution_ticked (h : planExecution row input.selectQuote input.now = some row') :
    TickedRow input row row' := by
  obtain ⟨dueAt, hdue, rfl⟩ := Option.map_eq_some_iff.1 h
  have hopen : row.status = .orderReserved := by
    by_contra hne
    rw [BetDecision.due, if_neg fun hs => hne hs.1] at hdue
    cases hdue
  split
  · exact ⟨rfl, rfl, rfl, rfl, rfl, hopen, Or.inl rfl, Or.inl rfl, fun hs => nomatch hs⟩
  · next quote hquote =>
    have hodd : ∃ target instant q, input.selectQuote target instant = some q ∧
        some quote.oddValue = some q.oddValue := ⟨_, _, quote, hquote, rfl⟩
    dsimp only
    split_ifs
    · exact ⟨rfl, rfl, rfl, rfl, rfl, hopen, Or.inl rfl, Or.inr hodd, fun hs => nomatch hs⟩
    · refine ⟨rfl, rfl, rfl, rfl, rfl, hopen, Or.inr (Or.inl hopen), Or.inr hodd, fun hs => ?_⟩
      exact nomatch hopen.symm.trans hs

theorem planSettlement_ticked {fixture : Option Fixture}
    (h : planSettlement row fixture input.now = .ok (some row')) : TickedRow input row row' := by
  obtain ⟨odd, stake, outcome, hopen, hodd, hstake, -, rfl⟩ := planSettlement_settled h
  exact ⟨rfl, rfl, rfl, rfl, rfl, hopen, Or.inr (Or.inr rfl), Or.inl rfl,
    fun _ => ⟨odd, stake, outcome, hodd, hstake, rfl⟩⟩

/-- A row executed and settled by one tick. -/
theorem TickedRow.trans {row'' : BetDecision} (h : TickedRow input row row')
    (h' : TickedRow input row' row'') : TickedRow input row row'' where
  id := h'.id.trans h.id
  run := h'.run.trans h.run
  signal := h'.signal.trans h.signal
  key := h'.key.trans h.key
  stake := h'.stake.trans h.stake
  opened := h.opened
  status := h'.status
  odd := by
    rcases h'.odd with heq | hquote
    · rw [heq]
      exact h.odd
    · exact Or.inr hquote
  profit hs := h.stake ▸ h'.profit hs

/-- **What a tick makes of an open order.** -/
theorem tickRow_ticked (h : tickRow input row = .ok (some row')) : TickedRow input row row' := by
  rw [tickRow] at h
  cases hplan : planSettlement ((planExecution row input.selectQuote input.now).getD row)
      (input.fixture row.fixtureId) input.now with
  | error e =>
    rw [hplan] at h
    cases h
  | ok settled =>
    rw [hplan] at h
    have h := Except.ok.inj h
    cases settled with
    | none => exact planExecution_ticked h
    | some x =>
      obtain rfl := Option.some.inj h
      have hsettled := @planSettlement_ticked input _ _ _ hplan
      cases hexec : planExecution row input.selectQuote input.now with
      | none =>
        rw [hexec] at hsettled
        exact hsettled
      | some executed =>
        rw [hexec] at hsettled
        exact (planExecution_ticked hexec).trans hsettled

end Ticked

/-! ## Executions and settlements -/

section Settle

variable {R : Runtime} {run : SimulationRunRow} {input : RunTickInput}
  {decisions written : Table decisionSchema}

/-- What a tick reads outside its run. -/
def RunTickInput.tickInput (R : Runtime) (run : SimulationRunRow) (input : RunTickInput)
    (decisions : Table decisionSchema) : TickInput :=
  ⟨input.now, input.selectQuote R run decisions, input.fixture⟩

/-- **The executions and the settlements rewrite rows of the run**, each as a tick does one row. -/
theorem settleTick_rows (h : settleTick R run input decisions = .ok written) :
    ∃ f : BetDecision → BetDecision,
      run.decisionsOf written = (run.decisionsOf decisions).map f ∧
      ∀ d ∈ run.decisionsOf decisions,
        f d = d ∨ tickRow (input.tickInput R run decisions) d = .ok (some (f d)) := by
  rw [settleTick] at h
  cases hchanges : tickChanges ⟨input.now, input.selectQuote R run decisions, input.fixture⟩
      (run.openOf decisions) with
  | error e =>
    rw [hchanges] at h
    cases h
  | ok changed =>
    rw [hchanges] at h
    cases hupsert : decisions.upsert? (·.id) changed with
    | none =>
      simp only [hupsert] at h
      cases h
    | some t =>
      simp only [hupsert] at h
      obtain rfl := Except.ok.inj h
      -- what is written comes from an open order with the same identifier
      have hticked (d : BetDecision) (hd : d ∈ decisions) (x : BetDecision)
          (hx : changed.find? (fun x => x.id == d.id) = some x) :
          d ∈ run.decisionsOf decisions ∧
            tickRow (input.tickInput R run decisions) d = .ok (some x) := by
        obtain ⟨row, hrow, htick⟩ := mem_tickChanges hchanges (List.mem_of_find?_eq_some hx)
        obtain ⟨hmem, hopen⟩ := Table.mem_select.1 hrow
        have hfound : (x.id == d.id) = true :=
          List.find?_some (p := fun x : BetDecision => x.id == d.id) hx
        have hid : row.id = d.id := (tickRow_ticked htick).id.symm.trans (beq_iff_eq.1 hfound)
        have hclash : decisionSchema.clash row d = true :=
          Bool.or_eq_true_iff.2 (Or.inl (beq_iff_eq.2 hid))
        obtain rfl := Table.eq_of_clash hmem hd hclash
        refine ⟨Table.mem_select.2 ⟨hmem, ?_⟩, htick⟩
        exact (Bool.and_eq_true_iff.1 hopen).1
      refine ⟨fun d => (changed.find? fun x => x.id == d.id).getD d, ?_, fun d hd => ?_⟩
      · have hkeys : ∀ x ∈ changed, ∃ r ∈ decisions, r.id = x.id := by
          intro x hx
          obtain ⟨row, hrow, htick⟩ := mem_tickChanges hchanges hx
          exact ⟨row, (Table.mem_select.1 hrow).1, (tickRow_ticked htick).id.symm⟩
        rw [SimulationRunRow.decisionsOf, SimulationRunRow.decisionsOf, Table.select, Table.select,
          Table.rows_upsert? hupsert hkeys, List.filter_map]
        refine congrArg _ (List.filter_congr fun d hd => ?_)
        show (((changed.find? fun x => x.id == d.id).getD d).simulationRunId == run.id) = _
        cases hx : changed.find? fun x => x.id == d.id with
        | none => rfl
        | some x => rw [Option.getD_some, (tickRow_ticked (hticked d hd x hx).2).run]
      · dsimp only
        cases hx : changed.find? fun x => x.id == d.id with
        | none => exact Or.inl rfl
        | some x => exact Or.inr (hticked d (Table.mem_select.1 hd).1 x hx).2

/-- What becomes of the rows of the run. -/
theorem settleTick_spec (h : settleTick R run input decisions = .ok written) :
    ∃ f : BetDecision → BetDecision,
      run.decisionsOf written = (run.decisionsOf decisions).map f ∧
      ∀ d ∈ run.decisionsOf decisions,
        f d = d ∨ TickedRow (input.tickInput R run decisions) d (f d) := by
  obtain ⟨f, hf, hrows⟩ := settleTick_rows h
  exact ⟨f, hf, fun d hd => (hrows d hd).imp_right tickRow_ticked⟩

end Settle

/-! ## New decisions -/

/-- What rows have staked. -/
def stakesOf (rows : List BetDecision) : Int := (rows.map fun d => d.stake.getD 0).sum

section Plan

variable (R : Runtime) (context : SimulationContext) (existing : List BetDecision)

/-- A row that is planned for a signal without a decision underway: the signal is rejected, or gets an
order. -/
structure PlannedRow (row : BetDecision) : Prop where
  run : row.simulationRunId = context.runId
  idle : ∀ d ∈ historyOf existing row.signalKey, d.isLive = false
  odd : row.executableOdd = none
  decision :
    (∃ code, row.status = .rejected ∧ row.rejectionCode = some code ∧ row.stake = none ∧
      row.idempotencyKey = rejectionKey R.sha256 context.runId row.signalKey code) ∨
    ∃ stake, row.status = .orderReserved ∧ row.stake = some stake ∧ 0 < stake ∧
      (∀ most ∈ context.risk.maxStakePerBet, stake ≤ most) ∧
      row.idempotencyKey = orderKey R.sha256 context.runId row.signalKey
        (attemptsOf existing row.signalKey)

/-- What a plan adds to a plan: rows of signals that it has not gone through before, one for each,
with stakes that its bankroll allows. -/
structure PlanStep (plan plan' : PlanState) (new : List BetDecision) : Prop where
  rows : plan'.rows = plan.rows ++ new
  decided : ∀ key ∈ plan.decided, key ∈ plan'.decided
  signals : ∀ row ∈ new, row.signalKey ∉ plan.decided ∧ row.signalKey ∈ plan'.decided
  once : (new.map (·.signalKey)).Nodup
  planned : ∀ row ∈ new, PlannedRow R context existing row
  available : plan'.bankroll.availableCents = plan.bankroll.availableCents - stakesOf new
  exposure : plan'.bankroll.openExposureCents = plan.bankroll.openExposureCents + stakesOf new
  funded : 0 ≤ plan.bankroll.availableCents → 0 ≤ plan'.bankroll.availableCents
  capped : ∀ cap ∈ context.risk.maxOpenExposure, plan.bankroll.openExposureCents ≤ cap →
    plan'.bankroll.openExposureCents ≤ cap

variable {R context existing} {selectQuote : QuoteSelector} {now : Int}
  {plan plan' plan'' : PlanState} {new new' : List BetDecision}

theorem PlanStep.refl (plan : PlanState) : PlanStep R context existing plan plan [] where
  rows := (List.append_nil _).symm
  decided _ h := h
  signals _ h := nomatch h
  once := List.nodup_nil
  planned _ h := nomatch h
  available := (sub_zero _).symm
  exposure := (add_zero _).symm
  funded h := h
  capped _ _ h := h

theorem stakesOf_append (rows rows' : List BetDecision) :
    stakesOf (rows ++ rows') = stakesOf rows + stakesOf rows' := by
  rw [stakesOf, List.map_append, List.sum_append, stakesOf, stakesOf]

theorem PlanStep.trans (h : PlanStep R context existing plan plan' new)
    (h' : PlanStep R context existing plan' plan'' new') :
    PlanStep R context existing plan plan'' (new ++ new') where
  rows := by rw [h'.rows, h.rows, List.append_assoc]
  decided key hkey := h'.decided key (h.decided key hkey)
  signals row hrow := by
    rcases List.mem_append.1 hrow with hrow | hrow
    · exact ⟨(h.signals row hrow).1, h'.decided _ (h.signals row hrow).2⟩
    · exact ⟨fun hold => (h'.signals row hrow).1 (h.decided _ hold), (h'.signals row hrow).2⟩
  once := by
    rw [List.map_append, List.nodup_append]
    refine ⟨h.once, h'.once, fun key hkey key' hkey' heq => ?_⟩
    obtain ⟨row, hrow, rfl⟩ := List.mem_map.1 hkey
    obtain ⟨row', hrow', rfl⟩ := List.mem_map.1 hkey'
    exact (h'.signals row' hrow').1 (heq ▸ (h.signals row hrow).2)
  planned row hrow := (List.mem_append.1 hrow).elim (h.planned row) (h'.planned row)
  available := by
    rw [h'.available, h.available, stakesOf_append]
    ring
  exposure := by
    rw [h'.exposure, h.exposure, stakesOf_append]
    ring
  funded havailable := h'.funded (h.funded havailable)
  capped cap hcap hle := h'.capped cap hcap (h.capped cap hcap hle)

/-- The stake is at most what is available, and within the caps. -/
theorem SimulationContext.stakeCents_le (context : SimulationContext) (bankroll : BankrollState) :
    context.stakeCents bankroll ≤ bankroll.availableCents ∧
      (∀ most ∈ context.risk.maxStakePerBet, context.stakeCents bankroll ≤ most) ∧
      ∀ cap ∈ context.risk.maxOpenExposure,
        context.stakeCents bankroll ≤ cap - bankroll.openExposureCents := by
  rw [stakeCents]
  cases context.risk.maxStakePerBet <;> cases context.risk.maxOpenExposure <;>
    simp

/-- The plan that has gone through a signal. -/
def PlanState.through (plan : PlanState) (key : String) : PlanState :=
  { plan with decided := key :: plan.decided }

/-- A signal that nothing is added for. -/
theorem PlanStep.through (plan : PlanState) (key : String) :
    PlanStep R context existing plan (plan.through key) [] :=
  { PlanStep.refl plan with
    decided := fun _ h => List.mem_cons_of_mem key h
    signals := fun _ h => nomatch h }

/-- A signal is rejected, once for each reason. -/
theorem PlanStep.reject {row : BetDecision} (hnew : row.signalKey ∉ plan.decided)
    (hrun : row.simulationRunId = context.runId)
    (hidle : ∀ d ∈ historyOf existing row.signalKey, d.isLive = false)
    (hodd : row.executableOdd = none) (hstake : row.stake = none) (code : RejectionCode) :
    ∃ new, PlanStep R context existing plan
        ((plan.through row.signalKey).reject R context row code) new ∧
      ∀ row' ∈ new, row'.signalKey = row.signalKey := by
  rw [PlanState.reject]
  split_ifs with hknown
  · exact ⟨[], .through plan row.signalKey, fun _ h => nomatch h⟩
  · refine ⟨_, ⟨rfl, fun _ h => List.mem_cons_of_mem _ h, ?_, List.nodup_singleton _, ?_, ?_, ?_,
      fun h => h, fun _ _ h => h⟩, List.forall_mem_singleton.2 rfl⟩
    · exact List.forall_mem_singleton.2 ⟨hnew, List.mem_cons_self⟩
    · exact List.forall_mem_singleton.2
        ⟨hrun, hidle, hodd, Or.inl ⟨code, rfl, rfl, hstake, rfl⟩⟩
    · simp [stakesOf, hstake, PlanState.through]
    · simp [stakesOf, hstake, PlanState.through]

/-- A signal gets an order, of a stake that the bankroll allows. -/
theorem PlanStep.order {row : BetDecision} (hnew : row.signalKey ∉ plan.decided)
    (hrun : row.simulationRunId = context.runId)
    (hidle : ∀ d ∈ historyOf existing row.signalKey, d.isLive = false)
    (hodd : row.executableOdd = none) (hstatus : row.status = .orderReserved)
    (hstake : row.stake = some (context.stakeCents plan.bankroll))
    (hpos : 0 < context.stakeCents plan.bankroll)
    (hkey : row.idempotencyKey =
      orderKey R.sha256 context.runId row.signalKey (attemptsOf existing row.signalKey)) :
    PlanStep R context existing plan
      { plan.through row.signalKey with
        bankroll := { plan.bankroll with
          availableCents := plan.bankroll.availableCents - context.stakeCents plan.bankroll
          openExposureCents := plan.bankroll.openExposureCents + context.stakeCents plan.bankroll }
        rows := plan.rows ++ [row] } [row] := by
  obtain ⟨havailable, hmost, hcap⟩ := context.stakeCents_le plan.bankroll
  have hstakes : stakesOf [row] = context.stakeCents plan.bankroll := by simp [stakesOf, hstake]
  refine ⟨rfl, fun _ h => List.mem_cons_of_mem _ h, ?_, List.nodup_singleton _, ?_, ?_, ?_, ?_, ?_⟩
  · exact List.forall_mem_singleton.2 ⟨hnew, List.mem_cons_self⟩
  · exact List.forall_mem_singleton.2
      ⟨hrun, hidle, hodd, Or.inr ⟨_, hstatus, hstake, hpos, hmost, hkey⟩⟩
  · rw [hstakes]
  · rw [hstakes]
  · intro _
    show 0 ≤ plan.bankroll.availableCents - context.stakeCents plan.bankroll
    omega
  · intro cap hmem _
    have := hcap cap hmem
    show plan.bankroll.openExposureCents + context.stakeCents plan.bankroll ≤ cap
    omega

/-- **One signal adds at most its row.** -/
theorem planSignal_spec {signal : LiveSignal} {key : String}
    (h : planSignal R context existing selectQuote now plan signal key = .ok plan') :
    ∃ new, PlanStep R context existing plan plan' new ∧ ∀ row ∈ new, row.signalKey = key := by
  rw [planSignal] at h
  split_ifs at h with hnew
  · obtain rfl := Except.ok.inj h
    exact ⟨[], .refl plan, fun _ h => nomatch h⟩
  · rw [planNewSignal] at h
    split_ifs at h with hlive
    · obtain rfl := Except.ok.inj h
      exact ⟨[], .through plan key, fun _ h => nomatch h⟩
    · have hidle : ∀ d ∈ historyOf existing key, d.isLive = false := by
        simpa using hlive
      cases hquote : selectQuote (context.target signal) now with
      | none =>
        simp only [hquote] at h
        obtain rfl := Except.ok.inj h
        exact @PlanStep.reject _ _ _ _ (context.base signal key now) hnew rfl hidle rfl rfl _
      | some quote =>
        simp only [hquote] at h
        split_ifs at h with hmin hstake hsafe
        · obtain rfl := Except.ok.inj h
          exact @PlanStep.reject _ _ _ _ ((context.base signal key now).quotedAt quote) hnew rfl
            hidle rfl rfl _
        · obtain rfl := Except.ok.inj h
          exact @PlanStep.reject _ _ _ _ ((context.base signal key now).quotedAt quote) hnew rfl
            hidle rfl rfl _
        · obtain rfl := Except.ok.inj h
          exact ⟨_, @PlanStep.order _ _ _ _ ({ (context.base signal key now).quotedAt quote with
            idempotencyKey := orderKey R.sha256 context.runId key (attemptsOf existing key)
            status := .orderReserved
            stake := some (context.stakeCents plan.bankroll)
            executionDueAt := some (now + context.risk.executionLatencyMs) }) hnew rfl hidle rfl rfl
            rfl (by omega) rfl, List.forall_mem_singleton.2 rfl⟩

/-- **The signals one after the other.** -/
theorem planSignals_spec {signals : List (LiveSignal × String)}
    (h : planSignals R context existing selectQuote now plan signals = .ok plan') :
    ∃ new, PlanStep R context existing plan plan' new ∧
      ∀ row ∈ new, row.signalKey ∈ signals.map (·.2) := by
  induction signals generalizing plan with
  | nil =>
    obtain rfl := Except.ok.inj h
    exact ⟨[], .refl plan, fun _ h => nomatch h⟩
  | cons signal signals ih =>
    rw [planSignals] at h
    cases hsignal : planSignal R context existing selectQuote now plan signal.1 signal.2 with
    | error e => simp [hsignal] at h
    | ok next =>
      simp only [hsignal] at h
      obtain ⟨new, hnew, hkey⟩ := planSignal_spec hsignal
      obtain ⟨rest, hrest, hkeys⟩ := ih h
      refine ⟨new ++ rest, hnew.trans hrest, fun row hrow => ?_⟩
      rcases List.mem_append.1 hrow with hrow | hrow
      · exact List.mem_cons.2 (Or.inl (hkey row hrow))
      · exact List.mem_cons_of_mem _ (hkeys row hrow)

/-- **The rows of the new decisions.** -/
theorem planNewDecisions_spec {signals : List LiveSignal} {bankroll : BankrollState}
    {rows : List BetDecision}
    (h : planNewDecisions R context existing selectQuote now signals bankroll = .ok rows) :
    ∃ plan', PlanStep R context existing
        ⟨bankroll, existing.map (·.idempotencyKey), [], []⟩ plan' rows ∧
      ∀ row ∈ rows, row.signalKey ∈ signals.map (signalKeyOf R.sha256 context.runId) := by
  rw [planNewDecisions] at h
  cases hplan : planSignals R context existing selectQuote now
      ⟨bankroll, existing.map (·.idempotencyKey), [], []⟩ (eligibleSignals R context signals) with
  | error e =>
    rw [hplan] at h
    cases h
  | ok plan' =>
  rw [hplan] at h
  obtain ⟨new, hnew, hkeys⟩ := planSignals_spec hplan
  obtain rfl : new = rows := (hnew.rows.trans (List.nil_append _)).symm.trans (Except.ok.inj h)
  refine ⟨plan', hnew, fun row hrow => ?_⟩
  obtain ⟨⟨signal, key⟩, hmem, hkey⟩ := List.mem_map.1 (hkeys row hrow)
  obtain ⟨s, hs, heq⟩ := List.mem_map.1 (mem_sort.1 hmem)
  refine List.mem_map.2 ⟨s, List.mem_of_mem_filter hs, ?_⟩
  exact (Prod.mk.inj heq).2.trans hkey

end Plan

/-! ## The bankroll -/

/-- What the bets that are over have brought in. -/
def realizedOf (rows : List BetDecision) : Int :=
  (rows.map fun d => if d.status = .completed then d.profit.getD 0 else 0).sum

/-- What is staked on open orders. -/
def exposureOf (rows : List BetDecision) : Int :=
  (rows.map fun d => if d.status = .orderReserved then d.stake.getD 0 else 0).sum

theorem bankrollFromJournal_eq (initialBankroll : Int) (rows : List BetDecision) :
    bankrollFromJournal initialBankroll rows =
      .of initialBankroll (realizedOf rows) (exposureOf rows) := by
  have hfold (sums : Int × Int) : rows.foldl (fun (sums : Int × Int) row =>
      (sums.1 + (if row.status = .completed then row.profit.getD 0 else 0),
        sums.2 + (if row.status = .orderReserved then row.stake.getD 0 else 0))) sums =
      (sums.1 + realizedOf rows, sums.2 + exposureOf rows) := by
    induction rows generalizing sums with
    | nil => simp [realizedOf, exposureOf]
    | cons row rows ih =>
      rw [List.foldl_cons, ih]
      simp only [realizedOf, exposureOf, List.map_cons, List.sum_cons, add_assoc]
  rw [bankrollFromJournal, hfold]
  simp

theorem getD_sqlSum (values : List (Option Int)) :
    (sqlSum values).getD 0 = (values.map (·.getD 0)).sum := by
  rw [sqlSum]
  split_ifs with hnone
  · refine (List.sum_eq_zero fun x hx => ?_).symm
    obtain ⟨value, hvalue, rfl⟩ := List.mem_map.1 hx
    rw [Option.isNone_iff_eq_none.1 (List.all_eq_true.1 hnone value hvalue), Option.getD_none]
  · rfl

/-- **The query computes the bankroll of the journal**, where its sums are safe integers. -/
theorem bankrollOf_eq (initialBankroll : Int) (rows : List BetDecision) :
    bankrollOf initialBankroll rows =
      if isSafeInteger (realizedOf rows) && isSafeInteger (exposureOf rows) then
        .ok (bankrollFromJournal initialBankroll rows)
      else .error (.other "Montant hors bornes") := by
  have hite (c : Prop) [Decidable c] (value : Option Int) :
      (if c then value else some 0).getD 0 = if c then value.getD 0 else 0 := by
    split_ifs <;> rfl
  rw [bankrollOf, getD_sqlSum, getD_sqlSum, bankrollFromJournal_eq]
  simp only [List.map_map, Function.comp_def, hite]
  rfl

/-! ## A whole tick -/

section Tick

variable {R : Runtime} {run : SimulationRunRow} {input : RunTickInput}
  {decisions written decisions' : Table decisionSchema}

/-- The rows that a tick adds to the rows `old` of its run, after it has rewritten these to
`written`. -/
structure NewRows (R : Runtime) (run : SimulationRunRow) (old written new : List BetDecision) :
    Prop where
  running : ∀ row ∈ new, run.status = .running
  planned : ∀ row ∈ new, PlannedRow R run.context old row
  once : (new.map (·.signalKey)).Nodup
  funded : 0 ≤ (bankrollFromJournal run.initialBankroll written).availableCents →
    stakesOf new ≤ (bankrollFromJournal run.initialBankroll written).availableCents
  capped : ∀ cap ∈ run.riskSnapshot.maxOpenExposure, exposureOf written ≤ cap →
    exposureOf written + stakesOf new ≤ cap

theorem NewRows.nil (R : Runtime) (run : SimulationRunRow) (old written : List BetDecision) :
    NewRows R run old written [] where
  running _ h := nomatch h
  planned _ h := nomatch h
  once := List.nodup_nil
  funded h := h
  capped _ _ h := (add_zero _).trans_le h

theorem PlannedRow.stored {context : SimulationContext} {existing : List BetDecision}
    {row : BetDecision} (h : PlannedRow R context existing row) (id : String) :
    PlannedRow R context existing (row.stored id) := by
  refine ⟨h.run, h.idle, h.odd, h.decision.imp ?_ ?_⟩
  · rintro ⟨code, hstatus, hcode, hstake, hkey⟩
    exact ⟨code, hstatus, hcode, by rw [BetDecision.stored, hstake]; rfl, hkey⟩
  · rintro ⟨stake, hstatus, hstake, hpos, hmost, hkey⟩
    refine ⟨min stake maxDecimal14, hstatus, by rw [BetDecision.stored, hstake]; rfl,
      lt_min hpos (by decide), fun most hmem => ?_, hkey⟩
    exact (min_le_left _ _).trans (hmost most hmem)

/-- The signals of the rows stay. -/
theorem signals_withIds (rows : List BetDecision) :
    (input.withIds rows).map (·.signalKey) = rows.map (·.signalKey) := by
  rw [RunTickInput.withIds, List.map_map]
  conv_rhs => rw [← List.zipIdx_map_fst 0 rows, List.map_map]
  rfl

/-- No more is staked than was planned. -/
theorem stakesOf_withIds (rows : List BetDecision) :
    stakesOf (input.withIds rows) ≤ stakesOf rows := by
  rw [stakesOf, RunTickInput.withIds, List.map_map, stakesOf]
  conv_rhs => rw [← List.zipIdx_map_fst 0 rows, List.map_map]
  refine List.sum_le_sum fun row _ => ?_
  show ((row.1.stake.map fun stake => min stake maxDecimal14).getD 0) ≤ row.1.stake.getD 0
  cases row.1.stake with
  | none => exact le_rfl
  | some stake => exact min_le_left _ _

theorem PlannedRow.stake_nonneg {context : SimulationContext} {existing : List BetDecision}
    {row : BetDecision} (h : PlannedRow R context existing row) : 0 ≤ row.stake.getD 0 := by
  rcases h.decision with ⟨_, -, -, hstake, -⟩ | ⟨stake, -, hstake, hpos, -⟩
  · rw [hstake]
    exact le_rfl
  · rw [hstake]
    exact hpos.le

theorem PlannedRow.of_history {context : SimulationContext} {existing old : List BetDecision}
    {row : BetDecision} (h : PlannedRow R context existing row)
    (heq : historyOf existing row.signalKey = historyOf old row.signalKey) :
    PlannedRow R context old row := by
  refine ⟨h.run, heq ▸ h.idle, h.odd, h.decision.imp_right ?_⟩
  rw [attemptsOf, attemptsOf, heq]
  exact id

theorem stakesOf_le {rows rows' : List BetDecision} (hsub : rows.Sublist rows')
    (h : ∀ row ∈ rows', 0 ≤ row.stake.getD 0) : stakesOf rows ≤ stakesOf rows' :=
  (hsub.map _).sum_le_sum (List.forall_mem_map.2 h)

/-- The history that a tick has read of a signal it decides is its whole history. -/
theorem historyOf_history {key : String}
    (hkey : key ∈ (input.candidates run).map (signalKeyOf R.sha256 run.id)) :
    historyOf (input.history R run decisions) key = historyOf (run.decisionsOf decisions) key := by
  rw [historyOf, RunTickInput.history, List.filter_filter, historyOf]
  refine List.filter_congr fun d _ => ?_
  by_cases hd : d.signalKey = key
  · have hmem : ((input.candidates run).map (signalKeyOf R.sha256 run.id)).contains d.signalKey =
        true := List.contains_iff_mem.2 (hd ▸ hkey)
    rw [hmem, Bool.and_true]
  · rw [beq_eq_false_iff_ne.2 hd, Bool.false_and]

/-- **The rows that a tick adds.** -/
theorem decideTick_spec (h : decideTick R run input decisions written = .ok decisions') :
    ∃ new, run.decisionsOf decisions' = run.decisionsOf written ++ new ∧
      NewRows R run (run.decisionsOf decisions) (run.decisionsOf written) new := by
  rw [decideTick] at h
  split_ifs at h with hempty
  · obtain rfl := Except.ok.inj h
    exact ⟨[], (List.append_nil _).symm, .nil R run _ _⟩
  · cases hbankroll : bankrollOf run.initialBankroll (run.decisionsOf written) with
    | error e => simp [hbankroll] at h
    | ok bankroll =>
      cases hplan : planNewDecisions R run.context (input.history R run decisions)
          (input.selectQuote R run decisions) input.now (input.candidates run) bankroll with
      | error e => simp [hbankroll, hplan] at h
      | ok rows =>
        simp only [hbankroll, hplan] at h
        obtain rfl := Except.ok.inj h
        obtain ⟨plan, hstep, hkeys⟩ := planNewDecisions_spec hplan
        have hjournal :
            bankroll = bankrollFromJournal run.initialBankroll (run.decisionsOf written) := by
          rw [bankrollOf_eq] at hbankroll
          split_ifs at hbankroll
          exact (Except.ok.inj hbankroll).symm
        have hsub : (written.insertIgnore input.admits (input.withIds rows)).2.Sublist
            (input.withIds rows) := Table.sublist_insertIgnore
        have hplanned : ∀ row ∈ input.withIds rows,
            PlannedRow R run.context (run.decisionsOf decisions) row := by
          intro row hrow
          obtain ⟨⟨base, n⟩, hbase, rfl⟩ := List.mem_map.1 hrow
          have hbase := (List.mem_zipIdx' hbase).2 ▸ List.getElem_mem _
          exact ((hstep.planned base hbase).of_history
            (historyOf_history (hkeys base hbase))).stored _
        have hstakes : stakesOf (written.insertIgnore input.admits (input.withIds rows)).2 ≤
            stakesOf rows :=
          (stakesOf_le hsub fun row hrow => (hplanned row hrow).stake_nonneg).trans
            (stakesOf_withIds rows)
        refine ⟨(written.insertIgnore input.admits (input.withIds rows)).2, ?_, ?_⟩
        · rw [SimulationRunRow.decisionsOf, Table.select, Table.rows_insertIgnore,
            List.filter_append]
          refine congrArg _ (List.filter_eq_self.2 fun row hrow => ?_)
          exact beq_iff_eq.2 (hplanned row (hsub.subset hrow)).run
        · subst hjournal
          refine ⟨fun _ _ => ?_, fun row hrow => hplanned row (hsub.subset hrow), ?_, ?_, ?_⟩
          · by_contra hstopped
            rw [RunTickInput.candidates, if_neg hstopped] at hempty
            exact hempty rfl
          · have honce := hstep.once
            rw [← @signals_withIds input rows] at honce
            exact (hsub.map _).nodup honce
          · intro havailable
            have hleft := hstep.funded havailable
            rw [hstep.available] at hleft
            dsimp only at hleft
            omega
          · intro cap hcap hle
            rw [bankrollFromJournal_eq] at hstep
            have hcapped := hstep.capped cap hcap hle
            rw [hstep.exposure] at hcapped
            exact (Int.add_le_add_left hstakes _).trans hcapped

/-- **A whole tick**: it rewrites open orders of its run, and adds rows. -/
theorem runTick_spec (h : runTick R run input decisions = .ok decisions') :
    ∃ (f : BetDecision → BetDecision) (new : List BetDecision),
      run.decisionsOf decisions' = (run.decisionsOf decisions).map f ++ new ∧
      (∀ d ∈ run.decisionsOf decisions,
        f d = d ∨ TickedRow (input.tickInput R run decisions) d (f d)) ∧
      NewRows R run (run.decisionsOf decisions) ((run.decisionsOf decisions).map f) new := by
  rw [runTick] at h
  cases hsettle : settleTick R run input decisions with
  | error e =>
    rw [hsettle] at h
    cases h
  | ok written =>
    rw [hsettle] at h
    obtain ⟨f, hf, hticked⟩ := settleTick_spec hsettle
    obtain ⟨new, hnew, hrows⟩ := decideTick_spec h
    exact ⟨f, new, hf ▸ hnew, hticked, hf ▸ hrows⟩

end Tick

/-! ## Any step -/

section Step

variable {R : Runtime} {w w' : SimulationWorld}

/-- The decisions of the run of a world. -/
def SimulationWorld.rows (w : SimulationWorld) : List BetDecision := w.run.decisionsOf w.decisions

/-- A tick executes at odds over 1. -/
theorem RunTickInput.odd_of_selectQuote {run : SimulationRunRow} {input : RunTickInput}
    {decisions : Table decisionSchema} {target : ExecutableQuoteTarget} {instant : Int}
    {quote : ExecutableQuote}
    (h : (input.tickInput R run decisions).selectQuote target instant = some quote) :
    1000 < quote.oddValue :=
  (ExecutableQuoteLookup.accepts_iff.1 (selectLatest_spec h).2.1).2.2.1

/-- **What a step does to the rows of the run**: a tick rewrites some and adds some, and everything
else leaves them alone. -/
theorem SimulationWorld.Step.rows_eq (h : SimulationWorld.Step R w w') :
    (∃ status, w'.run = { w.run with status } ∧ (w.run.status = .stopped → status = .stopped)) ∧
      (w'.rows = w.rows ∨ ∃ (tick : TickInput) (f : BetDecision → BetDecision)
        (new : List BetDecision),
          (∀ target instant quote, tick.selectQuote target instant = some quote →
            1000 < quote.oddValue) ∧
          w'.rows = w.rows.map f ++ new ∧ (∀ d ∈ w.rows, f d = d ∨ TickedRow tick d (f d)) ∧
          NewRows R w.run w.rows (w.rows.map f) new) := by
  cases h with
  | read signals => exact ⟨⟨_, rfl, id⟩, Or.inl rfl⟩
  | commit hwaits htick =>
    obtain ⟨f, new, hrows, hticked, hnew⟩ := runTick_spec htick
    exact ⟨⟨_, rfl, id⟩, Or.inr ⟨_, f, new, fun _ _ _ => RunTickInput.odd_of_selectQuote, hrows,
      hticked, hnew⟩⟩
  | fail signals => exact ⟨⟨_, rfl, id⟩, Or.inl rfl⟩
  | stop => exact ⟨⟨.stopped, rfl, fun _ => rfl⟩, Or.inl rfl⟩
  | others hours => exact ⟨⟨_, rfl, id⟩, Or.inl hours⟩

end Step

end ApiScore
