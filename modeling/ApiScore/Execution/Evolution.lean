import ApiScore.Execution.Exposure

/-!
# How a row can change over a run

A call reads a row, and other transactions commit before it uses what it read.  An order only ever
takes the transitions of `OrderStep`, an entry or a receipt is never taken back, and the control row
is written by three transactions only: what was read still says something later.

* `Became` — from one row of an order to a later one.
* `Evolves` — what every move, and so every run, preserves of the tables.
* `Keeps.cancelTx`, … — the transactions that leave the control row alone.
-/

set_option autoImplicit false

namespace ApiScore

open Relational Relation

/-! ## One order -/

/-- From one row of an order to a later one. -/
def Became (o o' : BetOrder) : Prop := ReflTransGen OrderStep o o'

theorem Became.refl (o : BetOrder) : Became o o := ReflTransGen.refl

theorem Became.trans {o o' o'' : BetOrder} (h : Became o o') (h' : Became o' o'') :
    Became o o'' := ReflTransGen.trans h h'

theorem Became.same {o o' : BetOrder} (h : Became o o') : SameOrder o o' := by
  induction h with
  | refl => exact .refl o
  | tail _ hstep ih => exact ih.trans hstep.same

/-- An order that was refused, closed or handed to a human stays as it is. -/
theorem Became.eq_of_final {o o' : BetOrder} (h : Became o o')
    (hs : o.status ∈ [OrderStatus.rejected, .settled, .voided, .reconciliationRequired]) :
    o' = o := by
  induction h with
  | refl => rfl
  | @tail x y _ hstep ih =>
    subst ih
    have hr : x.status ∉ releasableStatuses := by
      intro hr
      cases hx : x.status <;> simp_all [releasableStatuses]
    cases hstep with
    | submit hx => simp [hx] at hs
    | doubt hx => simp [hx] at hs
    | recover hx => simp [hx] at hs
    | refuse hx => exact (hr hx).elim
    | dispute hx => exact (hr hx).elim
    | accept hx => exact (hr hx).elim
    | settle hx => simp [hx] at hs

/-- An order the operator has taken stays taken, for the same stake. -/
theorem Became.taken {o o' : BetOrder} (h : Became o o') (hs : o.status ∈ takenStatuses) :
    o'.status ∈ takenStatuses ∧ o'.acceptedStake = o.acceptedStake := by
  induction h with
  | refl => exact ⟨hs, rfl⟩
  | @tail x y _ hstep ih =>
    obtain ⟨hx, hstake⟩ := ih
    by_cases hacc : x.status = .accepted
    · obtain ⟨hy, hstake', -⟩ := hstep.of_accepted hacc
      exact ⟨hy, hstake'.trans hstake⟩
    · have hfinal : x.status ∈ [OrderStatus.rejected, .settled, .voided,
          .reconciliationRequired] := by
        simp only [takenStatuses, List.mem_cons, List.not_mem_nil, or_false] at hx ⊢
        tauto
      have heq := Became.eq_of_final (.single hstep) hfinal
      rw [heq]
      exact ⟨hx, hstake⟩

/-- Once submitted, an order is never `RESERVED` again, and the instant of its submission stays. -/
theorem Became.submitted {o o' : BetOrder} (h : Became o o') (hs : o.status ≠ .reserved) :
    o'.status ≠ .reserved ∧ o'.submittedAt = o.submittedAt := by
  induction h with
  | refl => exact ⟨hs, rfl⟩
  | @tail x y _ hstep ih =>
    obtain ⟨hx, hat⟩ := ih
    cases hstep with
    | submit hr => exact (hx hr).elim
    | doubt => exact ⟨by simp [BetOrder.touched, BetOrder.doubt], hat⟩
    | recover => exact ⟨by simp [BetOrder.touched, BetOrder.doubt], hat⟩
    | refuse => exact ⟨by simp [BetOrder.touched, BetOrder.refuse], hat⟩
    | dispute => exact ⟨by simp [BetOrder.touched, BetOrder.dispute], hat⟩
    | accept => exact ⟨by simp [BetOrder.touched, BetOrder.accept], hat⟩
    | settle _ outcome =>
      refine ⟨?_, hat⟩
      simp only [BetOrder.touched, BetOrder.settle]
      split_ifs <;> simp

/-- An order that was handed to the operator is never held back again. -/
theorem Became.sent {o o' : BetOrder} (h : Became o o')
    (hs : o.status ∉ [OrderStatus.reserved, .submitting]) :
    o'.status ∉ [OrderStatus.reserved, .submitting] := by
  induction h with
  | refl => exact hs
  | tail _ hstep ih =>
    cases hstep with
    | submit hr => simp [hr] at ih
    | doubt | recover => simp [BetOrder.touched, BetOrder.doubt]
    | refuse => simp [BetOrder.touched, BetOrder.refuse]
    | dispute => simp [BetOrder.touched, BetOrder.dispute]
    | accept => simp [BetOrder.touched, BetOrder.accept]
    | settle =>
      simp only [BetOrder.touched, BetOrder.settle]
      split_ifs <;> simp

/-- An `UNKNOWN` order that is still `UNKNOWN` is the row that was read. -/
theorem Became.eq_of_unknown {o o' : BetOrder} (h : Became o o') (hs : o.status = .unknown)
    (hs' : o'.status = .unknown) : o' = o := by
  rcases ReflTransGen.cases_head h with rfl | ⟨x, hstep, hrest⟩
  · rfl
  · have hfinal : x.status ∈ takenStatuses ∨ x.status ∈ [OrderStatus.rejected, .settled, .voided,
        .reconciliationRequired] := by
      cases hstep with
      | submit hx => simp [hs] at hx
      | doubt hx => simp [hs] at hx
      | recover hx => simp [hs] at hx
      | refuse => simp [BetOrder.touched, BetOrder.refuse]
      | dispute => simp [BetOrder.touched, BetOrder.dispute]
      | accept => simp [BetOrder.touched, BetOrder.accept, takenStatuses]
      | settle hx => simp [hs] at hx
    rcases hfinal with hx | hx
    · have ht := (Became.taken hrest hx).1
      simp [hs', takenStatuses] at ht
    · rw [Became.eq_of_final hrest hx] at hs'
      simp [hs'] at hx

/-! ## The tables -/

/-- What every run preserves of the tables: orders take their transitions, and nothing that was
recorded is taken back. -/
structure Evolves (db db' : Database) : Prop where
  orders : ∀ o ∈ db.orders, ∃ o' ∈ db'.orders, Became o o'
  entries : ∀ e ∈ db.entries, e ∈ db'.entries
  receipts : ∀ r ∈ db.receipts, r ∈ db'.receipts

theorem Evolves.refl (db : Database) : Evolves db db :=
  ⟨fun o ho => ⟨o, ho, .refl o⟩, fun _ he => he, fun _ hr => hr⟩

theorem Evolves.trans {db db' db'' : Database} (h : Evolves db db') (h' : Evolves db' db'') :
    Evolves db db'' := by
  refine ⟨fun o ho => ?_, fun e he => h'.entries e (h.entries e he),
    fun r hr => h'.receipts r (h.receipts r hr)⟩
  obtain ⟨x, hx, hox⟩ := h.orders o ho
  obtain ⟨y, hy, hxy⟩ := h'.orders x hx
  exact ⟨y, hy, hox.trans hxy⟩

theorem Evolves.has {db db' : Database} (h : Evolves db db') {κ : KeyKind} {key : String}
    (hhas : db.Has κ key) : db'.Has κ key := by
  obtain ⟨e, he, hkey⟩ := hhas
  exact ⟨e, h.entries e he, hkey⟩

/-- The row an order has now, from one it had before. -/
theorem Evolves.row {db db' : Database} (h : Evolves db db') {o o' : BetOrder}
    (ho : o ∈ db.orders) (ho' : o' ∈ db'.orders) (hid : o'.id = o.id) : Became o o' := by
  obtain ⟨x, hx, hox⟩ := h.orders o ho
  rw [← order_eq_of_id hx ho' (hox.same.id.trans hid.symm)]
  exact hox

section

variable {db db' : Database} {os : List BetOrder} {f : BetOrder → BetOrder}

theorem Rewrites.orders_became (hrw : Rewrites db os f db')
    (hsteps : ∀ o ∈ os, OrderStep o (f o)) : ∀ o ∈ db.orders, ∃ o' ∈ db'.orders, Became o o' := by
  intro o ho
  refine ⟨_, hrw.mem_iff.2 ⟨o, ho, rfl⟩, ?_⟩
  by_cases hos : o ∈ os
  · rw [if_pos hos]
    exact .single (hsteps o hos)
  · rw [if_neg hos]
    exact .refl o

theorem Posted.entries_kept {a a' : BankrollAccount} {inputs : List AppendInput}
    (h : Posted db a inputs a' db') : ∀ e ∈ db.entries, e ∈ db'.entries := by
  obtain ⟨rows, dbNow, hrec, -⟩ := h
  exact fun e he => hrec.mem_entries.2 (.inl he)

/-- **Every move is an evolution.** -/
theorem Move.evolves (h : Move db db') : Evolves db db' := by
  cases h with
  | aside hl ho hr =>
    exact ⟨fun o hx => ⟨o, ho ▸ hx, .refl o⟩, fun e he => hl.entries ▸ he, fun r hx => hr ▸ hx⟩
  | account _ _ _ he ho hr =>
    exact ⟨fun o hx => ⟨o, ho ▸ hx, .refl o⟩, fun e hx => he ▸ hx, fun r hx => hr ▸ hx⟩
  | credit _ hposted _ _ ho hr =>
    exact ⟨fun o hx => ⟨o, ho ▸ hx, .refl o⟩, hposted.entries_kept, fun r hx => hr ▸ hx⟩
  | reserve hrows _ _ _ hposted hr =>
    exact ⟨fun o hx => ⟨o, (mem_of_added hrows).2 (.inl hx), .refl o⟩, hposted.entries_kept,
      fun r hx => hr ▸ hx⟩
  | refuseNew hrows _ _ hl hr =>
    exact ⟨fun o hx => ⟨o, (mem_of_added hrows).2 (.inl hx), .refl o⟩,
      fun e he => hl.entries ▸ he, fun r hx => hr ▸ hx⟩
  | quiet hrw hsteps _ hl hr =>
    exact ⟨hrw.orders_became hsteps, fun e he => hl.entries ▸ he, fun r hx => hr ▸ hx⟩
  | release hrw hsteps _ _ _ _ hposted hr =>
    exact ⟨hrw.orders_became fun o ho => (hsteps o ho).1, hposted.entries_kept,
      fun r hx => hr ▸ hx⟩
  | refuse hrw hstep _ _ _ hl hr =>
    exact ⟨hrw.orders_became (List.forall_mem_singleton.2 hstep), fun e he => hl.entries ▸ he,
      fun r hx => hr ▸ hx⟩
  | @accept o f accepted odd stake hash env hrw hf hfrom _ hpart hr =>
    have hstep : OrderStep o (f o) := hf ▸ .accept hfrom accepted odd stake env
    refine ⟨hrw.orders_became (List.forall_mem_singleton.2 hstep), fun e he => ?_, fun r hx => ?_⟩
    · rcases hpart with ⟨-, hl⟩ | ⟨-, a, a', -, -, hposted⟩
      · exact hl.entries ▸ he
      · exact hposted.entries_kept e he
    · rw [Table.mem_def, hr]
      exact List.mem_append_left _ hx
  | settleStake _ _ _ _ _ hposted ho hr =>
    exact ⟨fun o hx => ⟨o, ho ▸ hx, .refl o⟩, hposted.entries_kept, fun r hx => hr ▸ hx⟩

theorem Evolves.of_moves (h : ReflTransGen Move db db') : Evolves db db' := by
  induction h with
  | refl => exact .refl db
  | tail _ hm ih => exact ih.trans hm.evolves

end

/-! ## The control row

Only a stop, a change of mode and a new policy write it. -/

/-- The statements of `m` leave the control row as it was. -/
abbrev KeepsControl {α : Type} (m : DbTx α) : Prop := Tx.Keeps Database.control m

namespace KeepsControl

variable {α β : Type}

theorem read {f : Database → α} : KeepsControl (DbTx.read f) := fun db a db' h => by
  rw [(Prod.mk.inj (DbTx.read_eq_ok.1 h)).2]

theorem fail {e : ServiceError} : KeepsControl (DbTx.fail e : DbTx α) := Tx.Keeps.throw

theorem fail_bind {e : ServiceError} {k : α → DbTx β} : KeepsControl (DbTx.fail e >>= k) :=
  fun _ _ _ h => (DbTx.fail_bind_eq_ok.1 h).elim

theorem get! {e : ServiceError} {o : Option α} : KeepsControl (DbTx.get! e o) := Tx.Keeps.orThrow

theorem liftRule {x : Except ServiceError α} : KeepsControl (liftRule x) := by
  cases x with
  | ok a => exact .pure
  | error e => exact fail

theorem write {f : Database → Option Database}
    (hf : ∀ db db', f db = some db' → db'.control = db.control) : KeepsControl (DbTx.write f) :=
  fun db _ db' h => hf db db' (DbTx.write_eq_ok.1 h)

theorem withPending {stop : Option AutoStopRequest} {m : DbTx α} (hm : KeepsControl m) :
    KeepsControl (withPending stop m) := fun db a db' h =>
  hm db a db' (withPending_eq_ok.1 h)

theorem lockOrder {id : String} : KeepsControl (lockOrder id) := .bind read fun _ => get!

theorem lockAccount {id : String} : KeepsControl (lockAccount id) := .bind read fun _ => get!

theorem storeCents {n : Int} : KeepsControl (storeCents n) := .ite .pure fail

theorem lockForExecution {env : TxEnv} : KeepsControl (lockForExecution env) :=
  .ite fail (.bind read fun _ => liftRule)

theorem updateOrders {p : BetOrder → Bool} {f : BetOrder → BetOrder} :
    KeepsControl (updateOrders p f) :=
  .bind read fun _ => .bind (write fun db db' h => by
    obtain ⟨t, -, rfl⟩ := Option.map_eq_some_iff.1 h
    rfl) fun _ => .pure

theorem updateDecisions {p : BetDecision → Bool} {f : BetDecision → BetDecision} :
    KeepsControl (updateDecisions p f) :=
  write fun db db' h => by
    obtain ⟨t, -, rfl⟩ := Option.map_eq_some_iff.1 h
    rfl

theorem insertOrder {o : BetOrder} : KeepsControl (insertOrder o) :=
  write fun db db' h => by
    split_ifs at h
    obtain ⟨t, -, rfl⟩ := Option.map_eq_some_iff.1 h
    rfl

theorem insertReceipt {r : BetReceipt} : KeepsControl (insertReceipt r) :=
  write fun db db' h => by
    split_ifs at h
    obtain ⟨t, -, rfl⟩ := Option.map_eq_some_iff.1 h
    rfl

theorem transition {o : BetOrder} {patch : BetOrder → BetOrder} {env : TxEnv} :
    KeepsControl (transition o patch env) :=
  .bind updateOrders fun _ => .ite fail .pure

theorem insertEntry {e : BankrollLedgerEntry} : KeepsControl (insertEntry e) :=
  write fun db db' h => by
    split_ifs at h
    obtain ⟨t, -, rfl⟩ := Option.map_eq_some_iff.1 h
    rfl

theorem insertEntries {rows : List BankrollLedgerEntry} : KeepsControl (insertEntries rows) := by
  induction rows with
  | nil => exact .pure
  | cons row rows ih => exact .bind insertEntry fun _ => ih

theorem saveAccount {account : BankrollAccount} {balances : Balances} {version : Nat}
    {conflict : String} : KeepsControl (saveAccount account balances version conflict) := by
  refine .bind (.bind read fun _ => .bind (write fun db db' h => ?_) fun _ => .pure) fun _ =>
    .ite fail_bind .pure
  obtain ⟨t, -, rfl⟩ := Option.map_eq_some_iff.1 h
  rfl

theorem entryRow {account : BankrollAccount} {input : AppendInput} {planned : PlannedEntry}
    {version : Nat} {dbNow : Int} : KeepsControl (entryRow account input planned version dbNow) :=
  .bind storeCents fun _ => .bind storeCents fun _ => .bind storeCents fun _ =>
    .bind storeCents fun _ => .pure

theorem append {account : BankrollAccount} {input : AppendInput} {dbNow : Int} :
    KeepsControl (append account input dbNow) := by
  refine .bind read fun found => ?_
  cases found with
  | some existing => exact .bind liftRule fun _ => .ite .pure fail
  | none =>
    exact .bind liftRule fun _ => .bind entryRow fun _ => .bind insertEntry
      fun _ => .bind saveAccount fun _ => .bind read fun _ => .bind get! fun _ => .pure

theorem planBatch {account : BankrollAccount} {existing : List BankrollLedgerEntry} {dbNow : Int}
    {inputs : List AppendInput} {balances : Balances} {version : Nat} :
    KeepsControl (planBatch account existing dbNow inputs balances version) := by
  induction inputs generalizing balances version with
  | nil => exact .pure
  | cons input inputs ih =>
    rw [ApiScore.planBatch]
    cases existing.find? fun e => e.entryKey == input.entryKey with
    | some replay => exact .bind liftRule fun _ => .ite ih fail
    | none => exact .bind liftRule fun _ => .bind entryRow fun _ => .bind ih fun _ => .pure

theorem appendBatch {account : BankrollAccount} {inputs : List AppendInput} {dbNow : Int} :
    KeepsControl (appendBatch account inputs dbNow) :=
  .ite .pure (.ite fail_bind (.bind read fun _ => .bind planBatch fun _ =>
    .bind (.ite .pure (.bind insertEntries fun _ => saveAccount)) fun _ => .bind read fun _ =>
      .bind (.mapM (fun _ => .bind get! fun _ => .pure) _) fun _ => .pure))

theorem openAccount {input : OpenAccountInput} {id : String} {dbNow : Int} :
    KeepsControl (openAccount input id dbNow) :=
  .bind get! fun _ => .ite fail_bind (.bind read fun _ => .ite fail_bind
    (.bind (write fun db db' h => by
      obtain ⟨t, -, rfl⟩ := Option.map_eq_some_iff.1 h
      rfl) fun _ => .bind read fun _ => .bind get! fun _ => .bind append fun _ =>
        .bind read fun _ => get!))

theorem reserveWithin {request : ReserveStakeRequest} {env : TxEnv} :
    KeepsControl (reserveWithin request env) := by
  refine .bind lockForExecution fun control => .bind read fun found => ?_
  cases found with
  | some entry =>
    exact .bind (.bind lockAccount fun _ => .bind append fun _ => .pure) fun _ => .pure
  | none =>
    refine .ite (withPending fail) (.bind read fun policy => ?_)
    cases policy with
    | none => exact .pure
    | some policy =>
      refine .bind lockAccount fun account => .ite .pure (.bind read fun daily => ?_)
      generalize evaluateRisk _ = verdict
      cases verdict with
      | rejected code limit autoStop => exact .pure
      | ok => exact .bind append fun _ => .pure

theorem reserveTx {P : Platform} {decisionId accountId : String} {env : TxEnv} :
    KeepsControl (reserveTx P decisionId accountId env) := by
  refine .bind read fun existing => ?_
  cases existing with
  | some order => exact .pure
  | none =>
    refine .bind lockForExecution fun control => .bind liftRule fun port => .bind read fun _ =>
      .bind get! fun decision => .ite .pure ?_
    cases decision.terms with
    | none => exact .bind updateDecisions fun _ => .pure
    | some terms =>
      refine .bind read fun _ => .bind get! fun run => .bind read fun taken =>
        .ite (.bind updateDecisions fun _ => .pure) (.bind insertOrder fun _ =>
          .bind reserveWithin fun r => withPending (.bind ?_ fun _ => .bind lockOrder fun _ => .pure))
      cases r.1 with
      | rejected code limit reason => exact .bind transition fun _ => updateDecisions
      | reserved entry replayed => exact updateDecisions

theorem recheckTx {P : Platform} {orderId : String} {quote : Option OperatorQuote} {env : TxEnv} :
    KeepsControl (recheckTx P orderId quote env) := by
  refine .bind lockForExecution fun control => .bind lockOrder fun current =>
    .ite .pure (.bind read fun policy => ?_)
  cases recheckVerdict P current control policy quote env.now with
  | some verdict => exact .pure
  | none => exact .bind get! fun _ => .bind transition fun _ => .bind lockOrder fun _ => .pure

theorem cancelTx {orderId : String} {source : List OrderStatus} {cancel : Cancellation}
    {env : TxEnv} : KeepsControl (cancelTx orderId source cancel env) := by
  refine .bind lockOrder fun order => .ite .pure (.bind (.bind read fun found => ?_) fun _ =>
    .bind transition fun _ => updateDecisions)
  cases found with
  | none => exact .pure
  | some entry => exact .bind lockAccount fun _ => .bind append fun _ => .pure

theorem unknownTx {orderId reason : String} {env : TxEnv} :
    KeepsControl (unknownTx orderId reason env) :=
  .bind lockOrder fun _ => .ite .pure transition

theorem acceptanceTx {P : Platform} {orderId : String} {accepted : OperatorOrder} {env : TxEnv} :
    KeepsControl (acceptanceTx P orderId accepted env) :=
  .bind lockOrder fun _ => .ite .pure (.bind read fun _ => .bind read fun _ =>
    .ite (.bind transition fun _ => .pure) (.bind (.bind get! fun _ => .bind get! fun _ =>
      .bind get! fun _ => .bind get! fun _ => .bind insertReceipt fun _ => .bind transition fun _ =>
        .bind (.ite (.bind lockAccount fun _ => .bind append fun _ => .pure) .pure) fun _ =>
          .bind read fun _ => .bind get! fun _ => updateDecisions) fun _ => .pure))

theorem settleStakeTx {input : SettleStakeInput} {env : TxEnv} :
    KeepsControl (settleStakeTx input env) :=
  .bind lockAccount fun _ => .bind append fun _ => .bind read fun _ => .bind read fun _ =>
    .bind read fun _ => .pure

theorem settleOrderTx {orderId : String} {outcome : DecisionOutcome} {profit payout : Int}
    {settledAt : Option Int} {env : TxEnv} :
    KeepsControl (settleOrderTx orderId outcome profit payout settledAt env) :=
  .bind lockOrder fun _ => .ite .pure (.bind transition fun _ => .bind storeCents fun _ =>
    updateDecisions)

theorem cancelAbandonedTx {orderIds : List String} {env : TxEnv} :
    KeepsControl (cancelAbandonedTx orderIds env) := by
  refine .bind read fun orders => ?_
  cases orders with
  | nil => exact .pure
  | cons first rest =>
    exact .ite fail (.bind lockAccount fun _ => .bind read fun _ => .bind appendBatch fun _ =>
      .ite .pure (.bind updateOrders fun _ => .bind updateDecisions fun _ => .pure))

end KeepsControl

end ApiScore
