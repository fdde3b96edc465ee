import ApiScore.Execution.Runs

/-!
# What a transaction does to the decisions

A decision is a row of its own, and most transactions of the pipeline write it beside the order's
row.  This file says of every transaction which orders it rewrote, which decisions, and how the two
go together; an invariant of both tables is then proved once for each kind of change.

* `Redecides` — rewriting the decisions of some orders.
* `cancelTx_decisions`, `acceptanceTx_decisions`, … — one statement for each transaction.
* `Deciding`, `Transaction.deciding` — the seven kinds of change.
-/

set_option autoImplicit false

namespace ApiScore

open Relational Concurrent

/-! ## Rewriting decisions -/

section Rows

variable {db db' : Database}

theorem decision_eq_of_id {d e : BetDecision} (hd : d ∈ db.decisions) (he : e ∈ db.decisions)
    (h : d.id = e.id) : d = e :=
  Table.eq_of_clash hd he (by simp [decisionSchema, h])

/-- The decisions of the orders `os`, and no others, were rewritten by `k`. -/
def Redecides (db : Database) (os : List BetOrder) (k : BetDecision → BetDecision)
    (db' : Database) : Prop :=
  db'.decisions.rows = db.decisions.rows.map fun d =>
    if d.id ∈ os.map (·.decisionId) then k d else d

theorem Redecides.mem_iff {os : List BetOrder} {k : BetDecision → BetDecision}
    (h : Redecides db os k db') {d : BetDecision} : d ∈ db'.decisions ↔
      ∃ e ∈ db.decisions, (if e.id ∈ os.map (·.decisionId) then k e else e) = d := by
  rw [Table.mem_def, h, List.mem_map]
  rfl

/-- Where no decision changed, those of any orders may be called rewritten. -/
theorem Redecides.same (os : List BetOrder) (h : db'.decisions = db.decisions) :
    Redecides db os id db' := by
  rw [Redecides, h]
  exact ((List.map_congr_left fun d _ => by simp).trans (List.map_id _)).symm

/-- What a rewrite of a decision may do: it never reserves one. -/
structure Lowers (k : BetDecision → BetDecision) : Prop where
  sameId : ∀ d, (k d).id = d.id
  currency : ∀ d, (k d).currency = d.currency
  status : ∀ d, (k d).status = .orderReserved → d.status = .orderReserved

/-- Refuse a decision. -/
def BetDecision.refuse (code : RejectionCode) (d : BetDecision) : BetDecision :=
  { d with status := .rejected, rejectionCode := some code }

theorem lowers_refuse (code : RejectionCode) : Lowers (BetDecision.refuse code) :=
  ⟨fun _ => rfl, fun _ => rfl, fun _ h => nomatch h⟩

end Rows

/-! ## What each transaction writes on decisions -/

section Transactions

variable {P : Platform} {env : TxEnv} {db db' : Database}

theorem LedgerOnly.decisions (h : LedgerOnly db db') : db'.decisions = db.decisions := by
  rw [h]

theorem OrdersOnly.decisions (h : OrdersOnly db db') : db'.decisions = db.decisions := by
  rw [h]

theorem updateDecisions_rows {p : BetDecision → Bool} {f : BetDecision → BetDecision} {u : Unit}
    (h : updateDecisions p f db = .ok (u, db')) :
    db'.decisions.rows = db.decisions.rows.map fun d => if p d then f d else d := by
  rw [updateDecisions, DbTx.write_eq_ok] at h
  obtain ⟨t, ht, heq⟩ := Option.map_eq_some_iff.1 h
  cases heq
  exact Table.rows_update? ht

/-- A statement on the decision of one order. -/
theorem updateDecisions_redecides {o : BetOrder} {p : BetDecision → Bool}
    {k : BetDecision → BetDecision} {u : Unit} (hp : ∀ d, p d = true ↔ d.id = o.decisionId)
    (h : updateDecisions p k db = .ok (u, db')) : Redecides db [o] k db' := by
  rw [Redecides, updateDecisions_rows h]
  refine List.map_congr_left fun d _ => ?_
  simp only [hp, List.map_cons, List.map_nil, List.mem_singleton]

theorem rejectDecision_redecides {o : BetOrder} {code : RejectionCode} {u : Unit}
    (h : rejectDecision o.decisionId code none db = .ok (u, db')) :
    Redecides db [o] (BetDecision.refuse code) db' :=
  updateDecisions_redecides (fun d => by simp) h

theorem Redecides.of_eq {os : List BetOrder} {k : BetDecision → BetDecision} {x : Database}
    (h : Redecides x os k db') (hx : x.decisions = db.decisions) : Redecides db os k db' := by
  rw [Redecides, h, hx]

theorem releaseIfReserved_decisions {o : BetOrder} {u : Unit}
    (h : releaseIfReserved o env db = .ok (u, db')) :
    db'.decisions = db.decisions ∧ db'.orders = db.orders := by
  rcases releaseIfReserved_spec h with ⟨-, rfl⟩ | ⟨_, _, -, -, -, -, honly⟩
  · exact ⟨rfl, rfl⟩
  · exact ⟨honly.decisions, honly.orders⟩

/-- **Cancelling refuses the decision with the code of the order.** -/
theorem cancelTx_decisions {orderId : String} {source : List OrderStatus} {cancel : Cancellation}
    {u : Unit} (h : cancelTx orderId source cancel env db = .ok (u, db')) :
    db' = db ∨ ∃ o, Rewrites db [o]
      (fun x => (x.refuse cancel.code cancel.reason).touched env) db' ∧
        Redecides db [o] (BetDecision.refuse cancel.code) db' := by
  rw [cancelTx, Tx.bind_eq_ok] at h
  obtain ⟨o, s, hlock, h⟩ := h
  obtain ⟨rfl, ho, -⟩ := lockOrder_spec hlock
  rw [Tx.ite_eq_ok] at h
  rcases h with ⟨-, h⟩ | ⟨-, h⟩
  · exact .inl (Prod.mk.inj (Tx.pure_eq_ok.1 h)).2
  · simp only [Tx.bind_eq_ok] at h
    obtain ⟨_, s₁, hrel, _, s₂, htr, hrej⟩ := h
    obtain ⟨hd₁, ho₁⟩ := releaseIfReserved_decisions hrel
    obtain ⟨honly, hrw⟩ := @transition_spec _ _ _ s₁ _ _ (ho₁ ▸ ho) htr
    have hd := rejectDecision_spec hrej
    refine .inr ⟨o, hrw.congr ho₁.symm (by rw [hd]), ?_⟩
    exact (rejectDecision_redecides hrej).of_eq (honly.decisions.trans hd₁)

theorem unknownTx_decisions {orderId reason : String} {u : Unit}
    (h : unknownTx orderId reason env db = .ok (u, db')) : db'.decisions = db.decisions := by
  rw [unknownTx, Tx.bind_eq_ok] at h
  obtain ⟨o, s, hlock, h⟩ := h
  obtain ⟨rfl, ho, -⟩ := lockOrder_spec hlock
  rw [Tx.ite_eq_ok] at h
  rcases h with ⟨-, h⟩ | ⟨-, h⟩
  · rw [(Prod.mk.inj (Tx.pure_eq_ok.1 h)).2]
  · exact (transition_spec ho h).1.decisions

/-- What an acceptance may write on a decision: its executed odd. -/
structure SameVerdict (k : BetDecision → BetDecision) : Prop where
  sameId : ∀ d, (k d).id = d.id
  currency : ∀ d, (k d).currency = d.currency
  status : ∀ d, (k d).status = d.status
  rejectionCode : ∀ d, (k d).rejectionCode = d.rejectionCode
  profit : ∀ d, (k d).profit = d.profit

theorem SameVerdict.refl : SameVerdict id :=
  ⟨fun _ => rfl, fun _ => rfl, fun _ => rfl, fun _ => rfl, fun _ => rfl⟩

theorem SameVerdict.lowers {k : BetDecision → BetDecision} (h : SameVerdict k) : Lowers k :=
  ⟨h.sameId, h.currency, fun d hd => (h.status d).symm.trans hd⟩

theorem releaseUnused_decisions {o : BetOrder} {stake : Int} {u : Unit}
    (h : releaseUnused o stake env db = .ok (u, db')) : db'.decisions = db.decisions := by
  rcases releaseUnused_spec h with ⟨-, rfl⟩ | ⟨-, honly, -⟩
  · rfl
  · exact honly.decisions

theorem recordAcceptance_decisions {o : BetOrder} {accepted : OperatorOrder} {u : Unit}
    (ho : o ∈ db.orders) (h : recordAcceptance o accepted env db = .ok (u, db')) :
    ∃ k, SameVerdict k ∧ Redecides db [o] k db' := by
  simp only [recordAcceptance, Tx.bind_eq_ok] at h
  obtain ⟨hash, s, hhash, q, s₁, hq, odd, s₂, hodd, stake, s₃, hstake, _, s₄, hins, _, s₅, htr,
    _, s₆, hrel, _, s₇, hread, _, s₈, hget, hdec⟩ := h
  obtain ⟨_, -, heq⟩ := DbTx.get!_eq_ok.1 hhash
  obtain ⟨-, rfl⟩ := Prod.mk.inj heq
  obtain ⟨_, -, heq⟩ := DbTx.get!_eq_ok.1 hq
  obtain ⟨-, rfl⟩ := Prod.mk.inj heq
  obtain ⟨_, -, heq⟩ := DbTx.get!_eq_ok.1 hodd
  obtain ⟨-, rfl⟩ := Prod.mk.inj heq
  obtain ⟨_, -, heq⟩ := DbTx.get!_eq_ok.1 hstake
  obtain ⟨-, rfl⟩ := Prod.mk.inj heq
  obtain ⟨t, -, rfl⟩ := insertReceipt_spec hins
  obtain ⟨honly, -⟩ := transition_spec (show o ∈ ({ s₃ with receipts := t } : Database).orders
    from ho) htr
  have hd₆ := releaseUnused_decisions hrel
  obtain ⟨-, rfl⟩ := Prod.mk.inj (DbTx.read_eq_ok.1 hread)
  obtain ⟨_, -, heq⟩ := DbTx.get!_eq_ok.1 hget
  obtain ⟨-, rfl⟩ := Prod.mk.inj heq
  refine ⟨_, ?_, (updateDecisions_redecides (fun d => by simp) hdec).of_eq
    (hd₆.trans honly.decisions)⟩
  exact ⟨fun _ => rfl, fun _ => rfl, fun _ => rfl, fun _ => rfl, fun _ => rfl⟩

/-- **An acceptance leaves the verdict of its decision alone.** -/
theorem acceptanceTx_decisions {orderId : String} {accepted : OperatorOrder}
    {r : Option AutoStopRequest} (h : acceptanceTx P orderId accepted env db = .ok (r, db'))
    {o : BetOrder} (ho : o ∈ db.orders) (hid : o.id = orderId) :
    ∃ k, SameVerdict k ∧ Redecides db [o] k db' := by
  rw [acceptanceTx, Tx.bind_eq_ok] at h
  obtain ⟨x, s, hlock, h⟩ := h
  obtain ⟨rfl, hx, hxid⟩ := lockOrder_spec hlock
  obtain rfl : o = x := order_eq_of_id ho hx (hid.trans hxid.symm)
  rw [Tx.ite_eq_ok] at h
  rcases h with ⟨-, h⟩ | ⟨-, h⟩
  · rw [(Prod.mk.inj (Tx.pure_eq_ok.1 h)).2]
    exact ⟨id, .refl, .same _ rfl⟩
  · simp only [Tx.bind_eq_ok] at h
    obtain ⟨taken, s₁, hreceipt, external, s₂, hexternal, h⟩ := h
    obtain ⟨-, rfl⟩ := Prod.mk.inj (DbTx.read_eq_ok.1 hreceipt)
    obtain ⟨-, rfl⟩ := Prod.mk.inj (DbTx.read_eq_ok.1 hexternal)
    rw [Tx.ite_eq_ok] at h
    rcases h with ⟨-, h⟩ | ⟨-, h⟩
    · rw [violateAcceptance, Tx.bind_eq_ok] at h
      obtain ⟨_, s₃, htr, h⟩ := h
      obtain ⟨-, rfl⟩ := Prod.mk.inj (Tx.pure_eq_ok.1 h)
      exact ⟨id, .refl, .same _ (transition_spec ho htr).1.decisions⟩
    · rw [Tx.bind_eq_ok] at h
      obtain ⟨_, s₃, hrec, h⟩ := h
      obtain ⟨-, rfl⟩ := Prod.mk.inj (Tx.pure_eq_ok.1 h)
      exact recordAcceptance_decisions ho hrec

/-- Complete a decision. -/
def BetDecision.complete (outcome : DecisionOutcome) (profit instant : Int) (d : BetDecision) :
    BetDecision :=
  { d with status := .completed, outcome := some outcome, profit := some profit,
           settledAt := some instant }

/-- **Closing an order completes its decision with the profit it is closed with.** -/
theorem settleOrderTx_decisions {orderId : String} {outcome : DecisionOutcome}
    {profit payout : Int} {settledAt : Option Int} {u : Unit}
    (h : settleOrderTx orderId outcome profit payout settledAt env db = .ok (u, db')) :
    (db' = db ∧ ∃ o ∈ db.orders, o.id = orderId ∧ o.status ≠ .accepted) ∨
      ∃ o, o ∈ db.orders ∧ o.id = orderId ∧
        Rewrites db [o] (fun x => (x.settle outcome payout (settledAt.getD env.now)).touched env)
          db' ∧
        Redecides db [o] (BetDecision.complete outcome profit (settledAt.getD env.now)) db' := by
  rw [settleOrderTx, Tx.bind_eq_ok] at h
  obtain ⟨o, s, hlock, h⟩ := h
  obtain ⟨rfl, ho, hid⟩ := lockOrder_spec hlock
  rw [Tx.ite_eq_ok] at h
  rcases h with ⟨hs, h⟩ | ⟨-, h⟩
  · exact .inl ⟨(Prod.mk.inj (Tx.pure_eq_ok.1 h)).2, o, ho, hid, hs⟩
  · simp only [Tx.bind_eq_ok] at h
    obtain ⟨_, s₁, htr, profit', s₂, hprofit, hdec⟩ := h
    obtain ⟨honly, hrw⟩ := transition_spec ho htr
    obtain ⟨rfl, rfl⟩ := storeCents_spec hprofit
    have hd := updateDecisions_spec hdec
    refine .inr ⟨o, ho, hid, hrw.congr rfl (by rw [hd]), ?_⟩
    exact (updateDecisions_redecides (fun d => by simp) hdec).of_eq honly.decisions

/-- **The sweep of abandoned reservations refuses their decisions.** -/
theorem cancelReservedOrders_decisions {os : List BetOrder} {accountId : String}
    {ids : List String} (hmem : ∀ o ∈ os, o ∈ db.orders ∧ o.status = .reserved)
    (h : cancelReservedOrders os accountId env db = .ok (ids, db')) {os' : List BetOrder}
    (hos' : ∀ o ∈ os', o ∈ db.orders) (hids : ids = os'.map (·.id)) :
    Redecides db os' (BetDecision.refuse .operatorUnavailable) db' := by
  simp only [cancelReservedOrders, Tx.bind_eq_ok] at h
  obtain ⟨a, s, hlock, reserves, s₁, hread, ⟨res, a'⟩, s₂, hbatch, h⟩ := h
  obtain ⟨rfl, ha, -⟩ := lockAccount_spec hlock
  obtain ⟨rfl, rfl⟩ := Prod.mk.inj (DbTx.read_eq_ok.1 hread)
  generalize hrel : List.filter _ os = rel at h hbatch
  have hsub : ∀ o ∈ rel, o ∈ s₁.orders := by
    intro o ho
    rw [← hrel, List.mem_filter] at ho
    exact (hmem o ho.1).1
  obtain ⟨-, honly⟩ := appendBatch_posted ha hbatch
  -- the rows named by the ids are the rows that were cancelled
  have hdecided : ids = rel.map (·.id) →
      ∀ x, x ∈ os'.map (·.decisionId) ↔ x ∈ rel.map (·.decisionId) := by
    intro heq x
    have hsame : ∀ o, o ∈ os' ↔ o ∈ rel := by
      have hto : ∀ l₁ l₂ : List BetOrder, (∀ o ∈ l₁, o ∈ s₁.orders) → (∀ o ∈ l₂, o ∈ s₁.orders) →
          l₁.map (·.id) = l₂.map (·.id) → ∀ o ∈ l₁, o ∈ l₂ := by
        intro l₁ l₂ h₁ h₂ hmap o ho
        have hin : o.id ∈ l₂.map (·.id) := hmap ▸ List.mem_map_of_mem ho
        obtain ⟨y, hy, hyid⟩ := List.mem_map.1 hin
        rwa [← order_eq_of_id (h₂ y hy) (h₁ o ho) hyid]
      have hmap : os'.map (·.id) = rel.map (·.id) := hids.symm.trans heq
      exact fun o => ⟨hto os' rel hos' hsub hmap o, hto rel os' hsub hos' hmap.symm o⟩
    simp only [List.mem_map, hsame]
  rw [Tx.ite_eq_ok] at h
  rcases h with ⟨hnil, h⟩ | ⟨-, h⟩
  · obtain ⟨rfl, rfl⟩ := Prod.mk.inj (Tx.pure_eq_ok.1 h)
    have hos : os' = [] := List.map_eq_nil_iff.1 hids.symm
    rw [hos, Redecides, honly.decisions]
    simp
  · simp only [Tx.bind_eq_ok] at h
    obtain ⟨n, s₃, hupd, _, s₄, hdec, h⟩ := h
    obtain ⟨rfl, rfl⟩ := Prod.mk.inj (Tx.pure_eq_ok.1 h)
    obtain ⟨-, hor, -⟩ := updateOrders_spec hupd
    rw [Redecides, updateDecisions_rows hdec, hor.decisions, honly.decisions]
    refine List.map_congr_left fun d _ => ?_
    simp only [List.contains_iff_mem, hdecided rfl, BetDecision.refuse]

theorem cancelAbandonedTx_decisions {orderIds ids : List String}
    (h : cancelAbandonedTx orderIds env db = .ok (ids, db')) {os' : List BetOrder}
    (hos' : ∀ o ∈ os', o ∈ db.orders) (hids : ids = os'.map (·.id)) :
    Redecides db os' (BetDecision.refuse .operatorUnavailable) db' := by
  rw [cancelAbandonedTx, Tx.bind_eq_ok] at h
  obtain ⟨os, s, hlock, h⟩ := h
  obtain ⟨rfl, -, hmem⟩ := lockReserved_spec hlock
  cases os with
  | nil =>
    obtain ⟨rfl, rfl⟩ := Prod.mk.inj (Tx.pure_eq_ok.1 h)
    have hos : os' = [] := List.map_eq_nil_iff.1 hids.symm
    rw [hos, Redecides]
    simp
  | cons first rest =>
    simp only [Tx.ite_eq_ok] at h
    rcases h with ⟨-, h⟩ | ⟨-, h⟩
    · exact (DbTx.fail_eq_ok.1 h).elim
    · exact cancelReservedOrders_decisions (fun o ho => ⟨(hmem o ho).1, (hmem o ho).2.2⟩) h hos'
        hids

end Transactions

/-! ## Every transaction -/

/-- The statuses of an order that holds its decision. -/
def reservingStatuses : List OrderStatus :=
  [.reserved, .submitting, .unknown, .accepted, .reconciliationRequired]

theorem mem_reserving_of_releasable {s : OrderStatus} (h : s ∈ releasableStatuses) :
    s ∈ reservingStatuses := by
  cases s <;> simp_all [releasableStatuses, reservingStatuses]

/-- **What a committed transaction does to the orders and the decisions.** -/
inductive Deciding (db db' : Database) : Transaction → Prop
  /-- None of them changed. -/
  | aside {t : Transaction} (horders : db'.orders = db.orders)
      (hdecisions : db'.decisions = db.decisions) : Deciding db db' t
  /-- Orders went on, and still hold their decisions. -/
  | goOn {t : Transaction} {os : List BetOrder} {f : BetOrder → BetOrder}
      {k : BetDecision → BetDecision} (hrw : Rewrites db os f db') (hre : Redecides db os k db')
      (hsteps : ∀ o ∈ os, OrderStep o (f o)) (hk : SameVerdict k)
      (hs : ∀ o ∈ os, o.status ∈ reservingStatuses ∧ (f o).status ∈ reservingStatuses) :
      Deciding db db' t
  /-- Orders were refused, and their decisions with them. -/
  | refuse {t : Transaction} {os : List BetOrder} {code : RejectionCode} {reason : String}
      {env : TxEnv} (hrw : Rewrites db os (fun x => (x.refuse code reason).touched env) db')
      (hre : Redecides db os (BetDecision.refuse code) db') : Deciding db db' t
  /-- An order was closed, and its decision completed. -/
  | close {o : BetOrder} {outcome : DecisionOutcome} {profit payout instant : Int}
      {settledAt : Option Int} {env : TxEnv} (ho : o ∈ db.orders)
      (hrw : Rewrites db [o] (fun x => (x.settle outcome payout instant).touched env) db')
      (hre : Redecides db [o] (BetDecision.complete outcome profit instant) db') :
      Deciding db db' (.settleOrder o.id outcome profit payout settledAt)
  /-- Decisions that were still eligible were refused. -/
  | refuseAlone {t : Transaction} {p : BetDecision → Bool} {code : RejectionCode}
      (horders : db'.orders = db.orders)
      (hrows : db'.decisions.rows = db.decisions.rows.map fun d =>
        if p d then d.refuse code else d)
      (hp : ∀ d ∈ db.decisions, p d = true → d.status = .eligible) : Deciding db db' t
  /-- The order of an eligible decision was inserted, and its stake reserved. -/
  | reserve {d : BetDecision} {o : BetOrder} (hd : d ∈ db.decisions) (hid : d.id = o.decisionId)
      (heligible : d.status = .eligible) (hcurrency : o.currency = d.currency)
      (hs : o.status = .reserved)
      (hmode : db.Has .reserve o.idempotencyKey ∨
        ∃ a ∈ db.accounts, a.id = o.accountId ∧ a.mode = o.mode)
      (hrows : db'.orders.rows = db.orders.rows ++ [o])
      (hre : Redecides db [o] (fun x => { x with status := .orderReserved }) db') :
      Deciding db db' (.reserve o.decisionId o.accountId)
  /-- It was inserted, and both were refused. -/
  | refuseNew {d : BetDecision} {o : BetOrder} {code : RejectionCode} (hd : d ∈ db.decisions)
      (hid : d.id = o.decisionId) (heligible : d.status = .eligible)
      (hcurrency : o.currency = d.currency) (hs : o.status = .rejected)
      (hcode : o.rejectionCode = some code) (hledger : LedgerSame db db')
      (hrows : db'.orders.rows = db.orders.rows ++ [o])
      (hre : Redecides db [o] (BetDecision.refuse code) db') :
      Deciding db db' (.reserve o.decisionId o.accountId)

section Transactions

variable {P : Platform} {env : TxEnv} {db db' : Database}

/-- A reservation writes the ledger only. -/
theorem ReserveOutcome.ledgerOnly {request : ReserveStakeRequest} {result : ReservationResult}
    (h : ReserveOutcome request env db result db') : LedgerOnly db db' := by
  cases h with
  | refused => exact .refl _
  | replayed => exact .refl _
  | appended ha hid hkey hcleared happ => exact (append_spec ha happ).posted.2

theorem insertAndReserve_deciding {o : BetOrder} {r : Option BetOrder × Option AutoStopRequest}
    (hs : o.status = .reserved) {d : BetDecision} (hd : d ∈ db.decisions)
    (hdid : d.id = o.decisionId) (heligible : d.status = .eligible)
    (hcurrency : o.currency = d.currency)
    (hmode : ∀ control, db.control = some control → o.mode = control.mode)
    (h : insertAndReserve o env db = .ok (r, db')) :
    Deciding db db' (.reserve o.decisionId o.accountId) := by
  obtain ⟨t, result, stop, s₁, created, -, ht, hres, happly, -, rfl⟩ := insertAndReserve_parts h
  have hout := reserveWithin_spec hres
  have honly : LedgerOnly { db with orders := t } s₁ := hout.ledgerOnly
  have hot : o ∈ s₁.orders := by
    rw [honly.orders]
    exact (Table.mem_insert? ht).2 (.inr rfl)
  cases result with
  | reserved entry replayed =>
    have hmode' : db.Has .reserve o.idempotencyKey ∨
        ∃ a ∈ db.accounts, a.id = o.accountId ∧ a.mode = o.mode := by
      cases hout with
      | replayed hkey => exact .inl ⟨_, (entry?_eq_some hkey).1, (entry?_eq_some hkey).2⟩
      | appended ha hid _ hcleared =>
        exact .inr ⟨_, ha, hid, hcleared.sameMode.trans (hmode _ hcleared.isControl).symm⟩
    refine .reserve hd hdid heligible hcurrency hs hmode' ?_
      ((updateDecisions_redecides (fun d => by simp) happly).of_eq honly.decisions)
    rw [updateDecisions_spec happly]
    show s₁.orders.rows = _
    rw [honly.orders, Table.rows_insert? ht]
  | rejected code limit reason =>
    obtain ⟨hl, -, -⟩ := applyReservation_spec hot happly
    rw [applyReservation, Tx.bind_eq_ok] at happly
    obtain ⟨_, s₂, htr, hrej⟩ := happly
    obtain ⟨hor, hrw⟩ := transition_spec hot htr
    have hd₂ := rejectDecision_spec hrej
    have hrows := @rows_rewrite_last _ db' _ _ _ _ ht honly.orders (hrw.congr rfl (by rw [hd₂]))
    have hsame : s₁ = { db with orders := t } := by
      cases hout with
      | refused => rfl
    have hre : Redecides db [o] (BetDecision.refuse code) db' :=
      (rejectDecision_redecides hrej).of_eq (hor.decisions.trans honly.decisions)
    refine Deciding.refuseNew (o := (o.refuse code reason).touched env) hd hdid heligible hcurrency
      rfl rfl ⟨?_, ?_⟩ hrows hre
    · rw [hl.accounts, hsame]
    · rw [hl.entries, hsame]

theorem reserveTx_deciding {decisionId accountId : String}
    {r : Option BetOrder × Option AutoStopRequest}
    (h : reserveTx P decisionId accountId env db = .ok (r, db')) :
    Deciding db db' (.reserve decisionId accountId) := by
  rw [reserveTx, Tx.bind_eq_ok] at h
  obtain ⟨_, s, hexisting, h⟩ := h
  obtain ⟨rfl, rfl⟩ := Prod.mk.inj (DbTx.read_eq_ok.1 hexisting)
  cases hf : s.orders.find? fun o => o.decisionId == decisionId with
  | some existing =>
    simp only [hf] at h
    obtain ⟨-, rfl⟩ := Prod.mk.inj (Tx.pure_eq_ok.1 h)
    exact .aside rfl rfl
  | none =>
    simp only [hf, Tx.bind_eq_ok] at h
    obtain ⟨control, s₁, hlock, port, s₂, hport, _, s₃, hdecision, decision, s₄, hget, h⟩ := h
    obtain ⟨rfl, hcontrol, -⟩ := lockForExecution_spec hlock
    obtain ⟨-, rfl⟩ := liftRule_eq_ok.1 hport
    obtain ⟨rfl, rfl⟩ := Prod.mk.inj (DbTx.read_eq_ok.1 hdecision)
    obtain ⟨d, hd, heq⟩ := DbTx.get!_eq_ok.1 hget
    obtain ⟨rfl, rfl⟩ := Prod.mk.inj heq
    have hmem : decision ∈ s₄.decisions := Table.mem_of_find? hd
    obtain rfl : decision.id = decisionId := by simpa using Table.of_find? hd
    have hrefused : ∀ {code u} {x : Database},
        rejectDecision decision.id code none s₄ = .ok (u, x) → decision.status = .eligible →
        Deciding s₄ x (.reserve decision.id accountId) := by
      intro code u x hrej hs
      refine @Deciding.refuseAlone _ _ _ (fun d => d.id == decision.id) code
        (by rw [rejectDecision_spec hrej]) ?_ fun y hy hyid => ?_
      · rw [updateDecisions_rows hrej]
        refine List.map_congr_left fun y _ => ?_
        simp [BetDecision.refuse]
      · rw [decision_eq_of_id hy hmem (by simpa using hyid)]
        exact hs
    rw [Tx.ite_eq_ok] at h
    rcases h with ⟨-, h⟩ | ⟨hs, h⟩
    · obtain ⟨-, rfl⟩ := Prod.mk.inj (Tx.pure_eq_ok.1 h)
      exact .aside rfl rfl
    · cases hterms : decision.terms with
      | none =>
        simp only [hterms, Tx.bind_eq_ok] at h
        obtain ⟨_, s₈, hrej, h⟩ := h
        obtain ⟨-, rfl⟩ := Prod.mk.inj (Tx.pure_eq_ok.1 h)
        exact hrefused hrej (not_not.1 hs)
      | some terms =>
        simp only [hterms, Tx.bind_eq_ok] at h
        obtain ⟨_, s₅, hruns, run, s₆, hrun, taken, s₇, htaken, h⟩ := h
        obtain ⟨rfl, rfl⟩ := Prod.mk.inj (DbTx.read_eq_ok.1 hruns)
        obtain ⟨_, -, heq⟩ := DbTx.get!_eq_ok.1 hrun
        obtain ⟨rfl, rfl⟩ := Prod.mk.inj heq
        obtain ⟨rfl, rfl⟩ := Prod.mk.inj (DbTx.read_eq_ok.1 htaken)
        rw [Tx.ite_eq_ok] at h
        rcases h with ⟨-, h⟩ | ⟨-, h⟩
        · rw [Tx.bind_eq_ok] at h
          obtain ⟨_, s₈, hrej, h⟩ := h
          obtain ⟨-, rfl⟩ := Prod.mk.inj (Tx.pure_eq_ok.1 h)
          exact hrefused hrej (not_not.1 hs)
        · refine insertAndReserve_deciding rfl hmem rfl (not_not.1 hs) rfl (fun c hc => ?_) h
          rw [hcontrol] at hc
          rw [← Option.some.inj hc]
          rfl

/-- **Every transaction is one of the seven changes.** -/
theorem Transaction.deciding {t : Transaction} {r : t.Result} (hg : t.Guarded db)
    (hbody : t.body P env db = .ok (r, db')) : Deciding db db' t := by
  cases t with
  | openAccount input =>
    obtain ⟨_, _, _, _, _, -, -, -, -, happ⟩ := openAccount_spec hbody
    obtain ⟨-, honly⟩ := happ.posted
    exact .aside honly.orders honly.decisions
  | reserve decisionId accountId => exact reserveTx_deciding hbody
  | rejectEligible decisionId code =>
    refine .refuseAlone (by rw [rejectDecision_spec hbody]) (updateDecisions_rows hbody) ?_
    intro d _ hd
    rw [Bool.and_eq_true, Option.all_some] at hd
    exact (beq_iff_eq.1 hd.2).symm
  | recheck orderId quote =>
    cases recheckTx_spec hbody with
    | cancel _ hdb => exact hdb ▸ .aside rfl rfl
    | found _ hdb => exact hdb ▸ .aside rfl rfl
    | @moved o odd _ _ _ hs _ hrw honly =>
      refine .goOn hrw (.same _ honly.decisions)
        (List.forall_mem_singleton.2 (.submit hs odd env)) .refl ?_
      exact List.forall_mem_singleton.2 ⟨by simp [hs, reservingStatuses], by
        simp [BetOrder.touched, BetOrder.submit, reservingStatuses]⟩
  | cancel orderId source c =>
    rcases cancelTx_decisions hbody with rfl | ⟨o, hrw, hre⟩
    · exact .aside rfl rfl
    · exact .refuse hrw hre
  | unknown orderId reason =>
    rcases unknownTx_spec hbody with rfl | ⟨o, ho, hid, hs, hrw, -⟩
    · exact .aside rfl rfl
    · refine .goOn hrw (.same _ (unknownTx_decisions hbody))
        (List.forall_mem_singleton.2 (.doubt hs reason env)) .refl ?_
      exact List.forall_mem_singleton.2 ⟨by simp [hs, reservingStatuses], by
        simp [BetOrder.touched, BetOrder.doubt, reservingStatuses]⟩
  | acceptance orderId accepted =>
    rcases acceptanceTx_spec hbody with ⟨rfl, -⟩ | ⟨o, ho, hid, hs, -, hout⟩
    · exact .aside rfl rfl
    · obtain ⟨k, hk, hre⟩ := acceptanceTx_decisions hbody ho hid
      have hs' := mem_reserving_of_releasable hs
      rcases hout with ⟨reason, hrw⟩ | ⟨odd, stake, hash, -, hrw⟩
      · refine .goOn hrw hre (List.forall_mem_singleton.2 (.dispute hs reason env)) hk ?_
        exact List.forall_mem_singleton.2 ⟨hs', by
          simp [BetOrder.touched, BetOrder.dispute, reservingStatuses]⟩
      · refine .goOn hrw hre (List.forall_mem_singleton.2 (.accept hs accepted odd stake env)) hk ?_
        exact List.forall_mem_singleton.2 ⟨hs', by
          simp [BetOrder.touched, BetOrder.accept, reservingStatuses]⟩
  | settleStake input =>
    obtain ⟨_, _, _, -, -, hout⟩ := settleStakeTx_spec hbody
    exact .aside hout.posted.2.orders hout.posted.2.decisions
  | settleOrder orderId outcome profit payout settledAt =>
    rcases settleOrderTx_decisions hbody with ⟨rfl, -⟩ | ⟨o, ho, rfl, hrw, hre⟩
    · exact .aside rfl rfl
    · exact .close ho hrw hre
  | recoverStale ids =>
    obtain ⟨-, honly, -⟩ := updateOrders_spec hbody
    obtain ⟨os, hos, hrw, -⟩ := recoverStaleTx_spec hbody
    refine .goOn hrw (.same _ honly.decisions) (fun o ho => .recover (hos o ho).2 _ env) .refl
      fun o ho => ⟨?_, ?_⟩
    · simp [(hos o ho).2, reservingStatuses]
    · simp [BetOrder.touched, BetOrder.doubt, reservingStatuses]
  | cancelAbandoned orderIds =>
    obtain ⟨os, hos, hids, hrw, -⟩ := cancelAbandonedTx_spec hbody
    exact .refuse hrw (cancelAbandonedTx_decisions hbody (fun o ho => (hos o ho).1) hids)
  | stop reason source =>
    obtain ⟨hdb, -⟩ := stopTx_spec hbody
    exact .aside (by rw [hdb]) (by rw [hdb])
  | changeMode input =>
    obtain ⟨hdb, -⟩ := changeModeTx_spec hbody
    exact .aside (by rw [hdb]) (by rw [hdb])
  | createRiskPolicy input =>
    obtain ⟨hdb, -⟩ := createRiskPolicyTx_spec hbody
    exact .aside (by rw [hdb]) (by rw [hdb])
  | completeRun runId drafts =>
    have hdb := completeRunTx_spec hbody
    exact .aside (by rw [hdb]) (by rw [hdb])
  | failRun runId =>
    have hdb := failRunTx_spec hbody
    exact .aside (by rw [hdb]) (by rw [hdb])

end Transactions

end ApiScore
