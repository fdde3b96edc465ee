import ApiScore.Execution.DecisionAgreement
import ApiScore.Execution.SettlementAgreement
import ApiScore.Simulation.Tick

/-!
# Who a decision belongs to

A virtual order of the simulation and an order of the pipeline hold their decision with the same
status, `ORDER_RESERVED`, and a tick asks for nothing else.  Once the pipeline has accepted an order
its decision has an executable odd, and then a tick settles it too, with the stake and the result it
finds by itself.  This file says when a tick leaves the decisions of the pipeline alone.

* `LeavesOrders` — what a tick reads gives it nothing to do on them.
* `SettledAlike` — a decision has been closed as its order was.
* `simulation_spares_orders` — as long as every tick reads such a state, none writes the decision of
  an order, and every closed one is as the operator settled it.
* `tick_overwrites_settlement` — otherwise a tick can undo what the operator said.
-/

set_option autoImplicit false

namespace ApiScore

open Relational Concurrent

/-! ## The condition -/

/-- None of the open decisions of the run that have an order waits for an odd that is due, or has both
an odd and a result. -/
def LeavesOrders (db : Database) (runId : String) (input : TickInput) : Prop :=
  ∀ d ∈ db.openDecisions runId, db.hasOrder d.id = true → d.due input.now = none ∧
    (d.executableOdd = none ∨ d.result? (input.fixture d.fixtureId) input.now = none)

instance (db : Database) (runId : String) (input : TickInput) :
    Decidable (LeavesOrders db runId input) :=
  inferInstanceAs (Decidable (∀ d ∈ db.openDecisions runId, _))

theorem hasOrder_iff {db : Database} {id : String} :
    db.hasOrder id = true ↔ ∃ o ∈ db.orders, o.decisionId = id := by
  simp only [Database.hasOrder, List.any_eq_true, beq_iff_eq]
  rfl

/-! ## What an order says of its decision -/

/-- The decision is completed with the outcome and the profit of what the operator paid. -/
def SettledWith (o : BetOrder) (d : BetDecision) : Prop :=
  d.status = .completed ∧ ∃ stake payout outcome profit, o.acceptedStake = some stake ∧
    o.payout = some payout ∧ settlementOutcome stake payout = (outcome, profit) ∧
    d.outcome = some outcome ∧ d.profit = some profit

/-- What the status of an order says of its decision, its outcome included. -/
def SettledAlike (o : BetOrder) (d : BetDecision) : Prop :=
  match o.status with
  | .rejected => d.status = .rejected ∧ d.rejectionCode = o.rejectionCode
  | .settled | .voided => SettledWith o d
  | _ => d.status = .orderReserved

theorem settledAlike_of_reserving {o : BetOrder} {d : BetDecision}
    (h : o.status ∈ reservingStatuses) : SettledAlike o d ↔ d.status = .orderReserved := by
  cases hs : o.status <;> simp_all [SettledAlike, reservingStatuses]

theorem settledAlike_of_closed {o : BetOrder} {d : BetDecision}
    (h : o.status = .settled ∨ o.status = .voided) : SettledAlike o d ↔ SettledWith o d := by
  rcases h with h | h <;> simp only [SettledAlike, h]

/-- The pipeline closes a decision as it closes its order. -/
theorem verdict_settledAlike : Verdict SettledAlike where
  notEligible {o d} h hd := by
    cases hs : o.status <;> simp_all [SettledAlike, SettledWith]
  goesOn hs hs' hk h := by
    rw [settledAlike_of_reserving hs', hk.status]
    exact (settledAlike_of_reserving hs).1 h
  reserved hs := (settledAlike_of_reserving (by simp [hs, reservingStatuses])).2 rfl
  refused hs hcode := by
    simp only [SettledAlike, hs]
    exact ⟨rfl, hcode.symm⟩
  closed hstake hprofit := by
    rw [settledAlike_of_closed (settled_status _ _ _ _ _)]
    exact ⟨rfl, _, _, _, _, hstake, rfl, hprofit, rfl, rfl⟩

/-! ## Virtual orders -/

/-- A virtual order: it is open, and has no order at the operator. -/
structure Database.Virtual (db : Database) (d : BetDecision) : Prop where
  mem : d ∈ db.decisions
  status : d.status = .orderReserved
  alone : db.hasOrder d.id = false

section Virtual

variable {db db' : Database} {e : BetDecision}

theorem Database.Virtual.ne (h : db.Virtual e) {o : BetOrder} (ho : o ∈ db.orders) :
    o.decisionId ≠ e.id := by
  intro hid
  have hhas : db.hasOrder e.id = true := hasOrder_iff.2 ⟨o, ho, hid⟩
  rw [h.alone] at hhas
  cases hhas

/-- The orders may change as long as none of them takes the decision. -/
theorem Database.Virtual.of_orders (hmem : e ∈ db'.decisions) (hs : e.status = .orderReserved)
    (hne : ∀ o ∈ db'.orders, o.decisionId ≠ e.id) : db'.Virtual e where
  mem := hmem
  status := hs
  alone := by
    rw [Bool.eq_false_iff, Ne, hasOrder_iff]
    rintro ⟨o, ho, hid⟩
    exact hne o ho hid

/-- **No transaction of the pipeline touches a virtual order.** -/
theorem Database.Virtual.deciding {t : Transaction} (h : db.Virtual e) (hd : Deciding db db' t) :
    db'.Virtual e := by
  -- neither the orders that move nor a new one is an order of `e`
  have hout : ∀ {os : List BetOrder} {k : BetDecision → BetDecision}, Redecides db os k db' →
      (∀ o ∈ os, o.decisionId ≠ e.id) → e ∈ db'.decisions := by
    intro os k hre hos
    refine hre.mem_iff.2 ⟨e, h.mem, if_neg fun hin => ?_⟩
    obtain ⟨o, ho, hid⟩ := List.mem_map.1 hin
    exact hos o ho hid
  have hrewrite : ∀ {os : List BetOrder} {f : BetOrder → BetOrder}
      {k : BetDecision → BetDecision}, Rewrites db os f db' → Redecides db os k db' →
      (∀ o ∈ os, (f o).decisionId = o.decisionId) → db'.Virtual e := by
    intro os f k hrw hre hf
    refine .of_orders (hout hre fun o ho => h.ne (hrw.mem o ho)) h.status fun o' ho' => ?_
    obtain ⟨o, ho, rfl⟩ := hrw.mem_iff.1 ho'
    rw [rewritten_decisionId hf o]
    exact h.ne ho
  have hadd : ∀ {d : BetDecision} {o : BetOrder} {k : BetDecision → BetDecision},
      d ∈ db.decisions → d.id = o.decisionId → d.status = .eligible →
      db'.orders.rows = db.orders.rows ++ [o] → Redecides db [o] k db' → db'.Virtual e := by
    intro d o k hd hid heligible hrows hre
    have hne : o.decisionId ≠ e.id := by
      intro heq
      obtain rfl := decision_eq_of_id hd h.mem (hid.trans heq)
      rw [h.status] at heligible
      cases heligible
    refine .of_orders (hout hre fun x hx => List.mem_singleton.1 hx ▸ hne) h.status fun x hx => ?_
    rcases (mem_of_added hrows).1 hx with hold | rfl
    · exact h.ne hold
    · exact hne
  cases hd with
  | aside horders hdecisions =>
    exact .of_orders (hdecisions ▸ h.mem) h.status fun o ho => h.ne (horders ▸ ho)
  | goOn hrw hre hsteps _ _ => exact hrewrite hrw hre fun o ho => (hsteps o ho).same.decisionId
  | refuse hrw hre => exact hrewrite hrw hre fun _ _ => rfl
  | close _ hrw hre => exact hrewrite hrw hre fun _ _ => rfl
  | refuseAlone horders hrows hp =>
    refine .of_orders ((mem_refused hrows).2 ⟨e, h.mem, if_neg fun hpe => ?_⟩) h.status
      fun o ho => h.ne (horders ▸ ho)
    exact absurd ((hp e h.mem hpe).symm.trans h.status) (by simp)
  | reserve hd hid heligible _ _ _ hrows hre => exact hadd hd hid heligible hrows hre
  | refuseNew hd hid heligible _ _ _ _ hrows hre => exact hadd hd hid heligible hrows hre

/-! ## What a tick leaves -/

variable {runId : String} {input : TickInput} {changed newRows : List BetDecision}

/-- **A tick that leaves the orders alone is going to write virtual orders of its run.** -/
theorem LeavesOrders.virtual (h : LeavesOrders db runId input)
    (hchanges : tickChanges input (db.openDecisions runId) = .ok changed) :
    ∀ x ∈ changed, ∃ e, db.Virtual e ∧ e.id = x.id ∧ e.simulationRunId = runId := by
  intro x hx
  obtain ⟨row, hrow, htick⟩ := mem_tickChanges hchanges hx
  obtain ⟨hmem, hopen⟩ := Table.mem_select.1 hrow
  rw [Bool.and_eq_true, beq_iff_eq, beq_iff_eq] at hopen
  refine ⟨row, ⟨hmem, hopen.2, ?_⟩, (tickRow_same htick).1.symm, hopen.1⟩
  rw [Bool.eq_false_iff]
  intro hhas
  obtain ⟨hdue, hplan⟩ := h row hrow hhas
  rw [tickRow_none hdue hplan] at htick
  cases htick

/-- A write of a tick leaves every decision that it does not name. -/
theorem mem_writeTick (hwrite : db.writeTick changed newRows = some db')
    (hkeys : ∀ x ∈ changed, ∃ r ∈ db.decisions, r.id = x.id) {d : BetDecision}
    (hd : d ∈ db.decisions) (hne : ∀ x ∈ changed, x.id ≠ d.id) : d ∈ db'.decisions := by
  obtain ⟨t, ht, rfl⟩ := Option.map_eq_some_iff.1 hwrite
  show d ∈ (t.insertIgnore (fun _ => true) newRows).1.rows
  rw [Table.rows_insertIgnore, List.mem_append]
  refine .inl ?_
  rw [Table.rows_upsert? ht hkeys, List.mem_map]
  have hnone : changed.find? (fun x => x.id == d.id) = none :=
    List.find?_eq_none.2 fun x hx => by simpa using hne x hx
  exact ⟨d, hd, by rw [hnone, Option.getD_none]⟩

theorem orders_writeTick (hwrite : db.writeTick changed newRows = some db') :
    db'.orders = db.orders := by
  obtain ⟨_, -, rfl⟩ := Option.map_eq_some_iff.1 hwrite
  rfl

end Virtual

/-! ## Every run -/

/-- To the calls of the pipeline, a tick is one of the things the rest of the program does. -/
theorem TickStep.rely {cond : Database → String → TickInput → Prop} {x x' : World × Simulation}
    (h : TickStep cond x x') (j : CallId) : Rely j x.1 x'.1 := by
  cases h with
  | read | abandon => exact .refl j _
  | write _ hwrite =>
    obtain ⟨t, -, rfl⟩ := Option.map_eq_some_iff.1 hwrite
    exact ⟨⟨le_refl _, Outside.evolves rfl, List.suffix_rfl⟩, rfl, fun _ => Iff.rfl⟩

/-- The decision of every order is as its order says, what the ticks are going to write are virtual
orders of their runs, and no tick has written another one. -/
structure Undisturbed (x : World × Simulation) : Prop where
  decided : Matches SettledAlike x.1.db
  virtual : ∀ runId changed, x.2.ticks runId = some changed → ∀ d ∈ changed,
    ∃ e, x.1.db.Virtual e ∧ e.id = d.id ∧ e.simulationRunId = runId
  overwritten : x.2.overwritten = []

section Runs

variable {x x' : World × Simulation}

/-- What keeps the orders and their decisions together, and the virtual orders, keeps the ticks. -/
theorem Undisturbed.of_world {w w' : World} {sim : Simulation} (h : Undisturbed (w, sim))
    (hdecided : Matches SettledAlike w'.db) (hvirtual : ∀ e, w.db.Virtual e → w'.db.Virtual e) :
    Undisturbed (w', sim) where
  decided := hdecided
  virtual runId changed hticks d hd := by
    obtain ⟨e, he, hid, hrun⟩ := h.virtual runId changed hticks d hd
    exact ⟨e, hvirtual e he, hid, hrun⟩
  overwritten := h.overwritten

/-- The rest of the program. -/
theorem Undisturbed.outside {w w' : World} {sim : Simulation} (h : Undisturbed (w, sim))
    (horders : w'.db.orders = w.db.orders) (hadds : AddsDecisions w.db w'.db) :
    Undisturbed (w', sim) := by
  obtain ⟨ds, hrows⟩ := hadds
  have hmem : ∀ d ∈ w.db.decisions, d ∈ w'.db.decisions := by
    intro d hd
    rw [Table.mem_def, hrows, List.mem_append]
    exact .inl hd
  refine h.of_world (fun o ho => ?_) fun e he => ?_
  · rw [horders] at ho
    obtain ⟨d, hd, hid, hR⟩ := h.decided o ho
    exact ⟨d, hmem d hd, hid, hR⟩
  · exact .of_orders (hmem e he.mem) he.status fun o ho => he.ne (horders ▸ ho)

/-- **What a tick writes is its own.** -/
theorem Undisturbed.write {w : World} {sim : Simulation} (h : Undisturbed (w, sim))
    {runId : String} {changed newRows : List BetDecision} {db : Database}
    (hticks : sim.ticks runId = some changed)
    (hwrite : w.db.writeTick changed newRows = some db) :
    Undisturbed ({ w with db }, {
      ticks := Function.update sim.ticks runId none
      overwritten := (changed.map (·.id)).filter w.db.hasOrder ++ sim.overwritten }) := by
  have hmine := h.virtual runId changed hticks
  have horders : db.orders = w.db.orders := orders_writeTick hwrite
  have hkeys : ∀ x ∈ changed, ∃ r ∈ w.db.decisions, r.id = x.id := by
    intro x hx
    obtain ⟨e, he, hid, -⟩ := hmine x hx
    exact ⟨e, he.mem, hid⟩
  refine ⟨fun o ho => ?_, fun run rows hrows d hd => ?_, ?_⟩
  · have ho : o ∈ w.db.orders := horders ▸ ho
    obtain ⟨d, hd, hid, hR⟩ := h.decided o ho
    refine ⟨d, mem_writeTick hwrite hkeys hd fun x hx hxd => ?_, hid, hR⟩
    obtain ⟨e, he, hex, -⟩ := hmine x hx
    exact he.ne ho ((hex.trans (hxd.trans hid)).symm)
  · -- a tick of another run holds other decisions
    have hrows : Function.update sim.ticks runId none run = some rows := hrows
    have hrun : run ≠ runId := by
      rintro rfl
      rw [Function.update_self] at hrows
      cases hrows
    rw [Function.update_of_ne hrun] at hrows
    obtain ⟨e, he, hid, herun⟩ := h.virtual run rows hrows d hd
    refine ⟨e, .of_orders (mem_writeTick hwrite hkeys he.mem fun x hx hxe => ?_) he.status
      fun o ho => he.ne (horders ▸ ho), hid, herun⟩
    obtain ⟨y, hy, hyx, hyrun⟩ := hmine x hx
    obtain rfl := decision_eq_of_id hy.mem he.mem (hyx.trans hxe)
    exact hrun (herun.symm.trans hyrun)
  · have hnone : (changed.map (·.id)).filter w.db.hasOrder = [] := by
      refine List.filter_eq_nil_iff.2 fun id hin => ?_
      obtain ⟨x, hx, rfl⟩ := List.mem_map.1 hin
      obtain ⟨e, he, hid, -⟩ := hmine x hx
      rw [← hid, he.alone]
      exact Bool.false_ne_true
    show (changed.map (·.id)).filter w.db.hasOrder ++ sim.overwritten = []
    rw [hnone, h.overwritten, List.nil_append]

/-- **Every moment of a tick that leaves the orders alone.** -/
theorem Undisturbed.tick (h : Undisturbed x) (ht : TickStep LeavesOrders x x') :
    Undisturbed x' := by
  cases ht with
  | @read w sim runId input changed hidle hcond hchanges =>
    refine ⟨h.decided, fun run rows hrows d hd => ?_, h.overwritten⟩
    have hrows : Function.update sim.ticks runId (some changed) run = some rows := hrows
    by_cases hrun : run = runId
    · subst hrun
      rw [Function.update_self] at hrows
      obtain rfl := Option.some.inj hrows
      exact hcond.virtual hchanges d hd
    · rw [Function.update_of_ne hrun] at hrows
      exact h.virtual run rows hrows d hd
  | write hticks hwrite => exact h.write hticks hwrite
  | @abandon w sim runId =>
    refine ⟨h.decided, fun run rows hrows d hd => ?_, h.overwritten⟩
    have hrows : Function.update sim.ticks runId none run = some rows := hrows
    by_cases hrun : run = runId
    · subst hrun
      rw [Function.update_self] at hrows
      cases hrows
    · rw [Function.update_of_ne hrun] at hrows
      exact h.virtual run rows hrows d hd

/-- **As long as every tick reads a state in which it has nothing to do on the decisions of the
pipeline**, no tick has ever written one of them, and each is as its order says: a closed one has
the outcome and the profit of what the operator paid. -/
theorem simulation_spares_orders {S : Setting} {db₀ : Database} (hnone : db₀.orders = .empty)
    {clock : Int} {funds : String → String → OperatorBalance}
    {c : Config Action Action.Result CallId (World × Simulation)}
    (h : Reachable (S.withTicks LeavesOrders) (.init (.init db₀ clock funds, .idle)) c) :
    c.state.2.overwritten = [] ∧ Matches SettledAlike c.state.1.db := by
  have hinit : Undisturbed (.init db₀ clock funds, .idle) := by
    refine ⟨fun o ho => ?_, fun _ _ hticks => ?_, rfl⟩
    · have ho : o ∈ db₀.orders := ho
      rw [hnone] at ho
      exact (Table.not_mem_empty o ho).elim
    · cases hticks
  have hall : Undisturbed c.state := by
    refine Discipline.beside_invariant
      (S.sound_alone (I := fun _ => True) (fun _ _ _ _ _ _ _ _ => trivial) fun _ _ _ => trivial)
      ?_ ?_ ?_ ?_ trivial (fun _ => trivial) hinit h
    · rintro _ _ (⟨hdrift, -⟩ | ⟨htick⟩) -
      · exact ⟨trivial, hdrift.rely⟩
      · exact ⟨trivial, htick.rely⟩
    · intro i a b w w' sim hinv hpre hs
      have hs : S.Step i a w b w' := hs
      obtain ⟨_, -, -, hdone⟩ := hs.done
      have hcommit : ∀ {t : Transaction} {r : t.Result} {db : Database} {env : TxEnv},
          a = .commit t → t.body S.platform env w.db = .ok (r, db) →
          ∀ w', w'.db = db → Undisturbed (w', sim) := by
        rintro t r db env rfl hbody w' rfl
        have hd := Transaction.deciding hpre.guarded hbody
        refine hinv.of_world (hinv.decided.deciding verdict_settledAlike ?_ hd)
          fun e he => he.deciding hd
        rintro orderId outcome profit payout settledAt rfl o ho hid
        obtain ⟨x, hx, hxid, -, stake, hstake, hprofit⟩ := hpre.settles _ _ _ _ _ rfl
        rw [order_eq_of_id ho hx (hid.trans hxid.symm)]
        exact ⟨stake, hstake, hprofit⟩
      cases hdone with
      | committed _ hbody => exact hcommit rfl hbody _ (committed_db ..)
      | unacknowledged _ hbody => exact hcommit rfl hbody _ (committed_db ..)
      | _ => exact hinv.of_world hinv.decided fun _ he => he
    · rintro _ _ hinv (⟨hdrift, hadds⟩ | ⟨htick⟩)
      · obtain ⟨clock, book, funds, db, -, -, hout, rfl⟩ := hdrift
        exact hinv.outside (by rw [hout]) hadds
      · exact hinv.tick htick
    · exact fun i w sim hinv => hinv.of_world hinv.decided fun _ he => he
  exact ⟨hall.overwritten, hall.decided⟩

end Runs

/-! ## Two ticks -/

/-- Calls, a tick that reads, calls again, and the tick writes. -/
def Scene.replayTick (s : Scene) (cond : Database → String → TickInput → Prop)
    [∀ db runId input, Decidable (cond db runId input)] (runId : String) (input : TickInput)
    (before between : List Choice) (c : Run) :
    Option (Config Action Action.Result CallId (World × Simulation)) := do
  let c₁ ← s.replay before c
  if cond c₁.state.db runId input then
    let changed ← (tickChanges input (c₁.state.db.openDecisions runId)).toOption
    let c₂ ← s.replay between c₁
    let db ← c₂.state.db.writeTick changed []
    return ⟨({ c₂.state with db }, {
      ticks := Function.update (Function.update Simulation.idle.ticks runId (some changed)) runId none
      overwritten := (changed.map (·.id)).filter c₂.state.db.hasOrder ++ [] }), c₂.procs⟩
  else none

section Replay

variable {s : Scene} {cond : Database → String → TickInput → Prop}

/-- A replay of calls reaches the same beside the ticks. -/
theorem Scene.replay_beside {chs : List Choice} {c c' : Run} {sim : Simulation}
    {x₀ : Config Action Action.Result CallId (World × Simulation)}
    (hc : Reachable (s.setting.withTicks cond) x₀ ⟨(c.state, sim), c.procs⟩)
    (hchs : ∀ ch ∈ chs, ch.ofCall = true) (h : s.replay chs c = some c') :
    Reachable (s.setting.withTicks cond) x₀ ⟨(c'.state, sim), c'.procs⟩ := by
  induction chs generalizing c with
  | nil => rwa [← Option.some.inj h]
  | cons ch chs ih =>
    obtain ⟨x, hx, hrest⟩ := Option.bind_eq_some_iff.1 h
    obtain ⟨hch, hchs⟩ := List.forall_mem_cons.1 hchs
    have hstep := (Scene.play_among (fun _ _ => False) hx hch).beside (t := sim)
      (E := s.setting.Beside cond) fun _ hbad => hbad.elim
    exact ih (.step hc hstep) hchs hrest

theorem Scene.replayTick_reachable [∀ db runId input, Decidable (cond db runId input)]
    {runId : String} {input : TickInput} {before between : List Choice} {w : World}
    {x : Config Action Action.Result CallId (World × Simulation)}
    (hbefore : ∀ ch ∈ before, ch.ofCall = true) (hbetween : ∀ ch ∈ between, ch.ofCall = true)
    (h : s.replayTick cond runId input before between (.init w) = some x) :
    Reachable (s.setting.withTicks cond) (.init (w, .idle)) x := by
  obtain ⟨c₁, hc₁, h⟩ := Option.bind_eq_some_iff.1 h
  split_ifs at h with hcond
  obtain ⟨changed, hchanged, h⟩ := Option.bind_eq_some_iff.1 h
  obtain ⟨c₂, hc₂, h⟩ := Option.bind_eq_some_iff.1 h
  obtain ⟨db, hdb, h⟩ := Option.bind_eq_some_iff.1 h
  rw [← Option.some.inj h]
  have hchanges : tickChanges input (c₁.state.db.openDecisions runId) = .ok changed := by
    cases hres : tickChanges input (c₁.state.db.openDecisions runId) with
    | error e =>
      rw [hres] at hchanged
      cases hchanged
    | ok rows =>
      rw [hres] at hchanged
      rw [Option.some.inj hchanged]
  have hread := (@replay_beside _ _ _ (.init w) _ .idle _ .init hbefore hc₁).step
    (.env (.tick (.read rfl hcond hchanges)))
  have hcalls := replay_beside (c := c₁) hread hbetween hc₂
  exact hcalls.step (.env (.tick (.write (Function.update_self ..) hdb)))

end Replay

namespace Sample

/-- A virtual order of the same run, taken at 2.000. -/
def virtualOrder : BetDecision :=
  { decision with
    id := "virtual", idempotencyKey := "virtual", fixtureId := "fixture-2", status := .orderReserved
    executableOdd := some 2000 }

/-- The tables of the sample, with the virtual order. -/
def virtualSeed : Database :=
  { seed with decisions := table _ [decision, virtualOrder] }

/-- Only one of the matches is over, and it is won. -/
def finishedMatch (fixtureId : String) : TickInput where
  now := 1000
  selectQuote _ _ := none
  fixture id := if id = fixtureId then some won else none

/-- The operator has voided the bet. -/
def voided : OperatorOrder where
  externalOrderId := some "ticket"
  idempotencyKey := key
  status := .voided
  acceptedOdd := none
  acceptedStake := none
  acceptedAt := none
  receiptHash := none
  payout := some "6.00"
  settledAt := none

/-- The order is settled as the operator says. -/
def settledVoid : List Choice :=
  [.start 5 (.settleFromOperator "order" voided), .act 5 (.at 1000 ""), .act 5 (.at 1000 ""),
    .act 5 (.at 1000 ""), .act 5 (.at 1000 "")]

/-- What a run leaves of the orders and of the decisions. -/
structure Closed (x : Config Action Action.Result CallId (World × Simulation))
    (orders : List (OrderStatus × Option Int × Option Int))
    (decisions : List (DecisionStatus × Option DecisionOutcome × Option Int)) : Prop where
  orders : (x.state.1.db.orders.rows.map fun o => (o.status, o.acceptedStake, o.payout)) = orders
  decisions :
    (x.state.1.db.decisions.rows.map fun d => (d.status, d.outcome, d.profit)) = decisions

instance {x : Config Action Action.Result CallId (World × Simulation)}
    {orders : List (OrderStatus × Option Int × Option Int)}
    {decisions : List (DecisionStatus × Option DecisionOutcome × Option Int)} :
    Decidable (Closed x orders decisions) :=
  decidable_of_iff (_ ∧ _) ⟨fun h => ⟨h.1, h.2⟩, fun h => ⟨h.orders, h.decisions⟩⟩

end Sample

/-- A tick settles a virtual order while an accepted order of the same run is voided. -/
theorem simulation_spares_orders_run :
    ∃ x, Sample.Closed x [(.voided, some 600, some 600)]
        [(.completed, some .void, some 0), (.completed, some .won, some 1000)] ∧
      x.state.2.overwritten = [] ∧ Matches SettledAlike x.state.1.db := by
  have hrun : (Sample.scene.replayTick LeavesOrders "run" (Sample.finishedMatch "fixture-2")
      (Sample.armed ++ Sample.accepted) Sample.settledVoid
      (.init (.init Sample.virtualSeed 1000 Sample.funds))).any (fun x =>
        decide (Sample.Closed x [(.voided, some 600, some 600)]
          [(.completed, some .void, some 0), (.completed, some .won, some 1000)])) = true := by
    decide +kernel
  obtain ⟨x, hx, hclosed⟩ := (Option.any_eq_true _ _).1 hrun
  refine ⟨x, of_decide_eq_true hclosed, simulation_spares_orders (S := Sample.scene.setting) rfl
    (Scene.replayTick_reachable ?_ ?_ hx)⟩
  · simp [Sample.armed, Sample.accepted, Choice.ofCall]
  · simp [Sample.settledVoid, Choice.ofCall]

/-- **Otherwise a tick can undo what the operator said**: it has read the accepted order of a match
that is won, the operator voids the bet, and the tick then writes the decision as won. -/
theorem tick_overwrites_settlement :
    ∃ x, Reachable (Sample.scene.setting.withTicks fun _ _ _ => True)
        (.init (.init Sample.virtualSeed 1000 Sample.funds, .idle)) x ∧
      x.state.2.overwritten = ["decision"] ∧
      Sample.Closed x [(.voided, some 600, some 600)]
        [(.completed, some .won, some 1000), (.orderReserved, none, none)] ∧
      ¬ Matches SettledAlike x.state.1.db := by
  have hrun : (Sample.scene.replayTick (fun _ _ _ => True) "run" (Sample.finishedMatch "fixture-1")
      (Sample.armed ++ Sample.accepted) Sample.settledVoid
      (.init (.init Sample.virtualSeed 1000 Sample.funds))).any (fun x =>
        x.state.2.overwritten == ["decision"] &&
        decide (Sample.Closed x [(.voided, some 600, some 600)]
          [(.completed, some .won, some 1000), (.orderReserved, none, none)])) = true := by
    decide +kernel
  obtain ⟨x, hx, hview⟩ := (Option.any_eq_true _ _).1 hrun
  rw [Bool.and_eq_true, beq_iff_eq, decide_eq_true_eq] at hview
  obtain ⟨hover, hclosed⟩ := hview
  refine ⟨x, Scene.replayTick_reachable ?_ ?_ hx, hover, hclosed, fun hmatches => ?_⟩
  · simp [Sample.armed, Sample.accepted, Choice.ofCall]
  · simp [Sample.settledVoid, Choice.ofCall]
  · -- what was paid says `VOID`, and neither of the decisions does
    obtain ⟨o, ho, hrow⟩ := List.map_eq_singleton_iff.1 hclosed.orders
    simp only [Prod.mk.injEq] at hrow
    have hmem : o ∈ x.state.1.db.orders := by
      rw [Table.mem_def, ho]
      exact List.mem_singleton_self o
    obtain ⟨d, hd, -, hR⟩ := hmatches o hmem
    rw [settledAlike_of_closed (.inr hrow.1)] at hR
    obtain ⟨hs, stake, payout, outcome, profit, hstake, hpayout, hsettled, houtcome, -⟩ := hR
    obtain rfl : 600 = stake := Option.some.inj (hrow.2.1.symm.trans hstake)
    obtain rfl : 600 = payout := Option.some.inj (hrow.2.2.symm.trans hpayout)
    have hvoid : outcome = .void := (congrArg Prod.fst hsettled).symm
    have hview : (d.status, d.outcome, d.profit) ∈
        [(DecisionStatus.completed, some DecisionOutcome.won, some (1000 : Int)),
          (.orderReserved, none, none)] :=
      hclosed.decisions ▸ List.mem_map_of_mem hd
    rw [hs, houtcome, hvoid] at hview
    simp at hview

end ApiScore
