import ApiScore.Execution.DecisionMoves
import ApiScore.Execution.Discipline
import ApiScore.Execution.Replay

/-!
# An order and its decision

An order and its decision are two rows, and about ten transactions move one or both.  This file
shows that no path leaves them apart: whatever the status of an order says of its decision is what
the decision's row says.

The pipeline is taken as the only writer of the decisions: what the rest of the program may do is to
add some that are not `ORDER_RESERVED`.

* `Agrees` — what the status of an order says of its decision.
* `Matches`, `Paired` — the invariant, and its rules: `rewrite`, `add`, `refuse`.
* `Verdict`, `Matches.deciding` — every transaction keeps it.
* `order_decision_agree` — in every state a run can reach.
-/

set_option autoImplicit false

namespace ApiScore

open Relational Concurrent

/-! ## The invariant -/

/-- The decision is completed with what came back for the order, less its stake. -/
def ClosedWith (o : BetOrder) (d : BetDecision) : Prop :=
  d.status = .completed ∧ ∃ stake payout, o.acceptedStake = some stake ∧
    o.payout = some payout ∧ d.profit = some (payout - stake)

/-- What the status of an order says of its decision. -/
def Agrees (o : BetOrder) (d : BetDecision) : Prop :=
  match o.status with
  | .rejected => d.status = .rejected ∧ d.rejectionCode = o.rejectionCode
  | .settled | .voided => ClosedWith o d
  | _ => d.status = .orderReserved

theorem agrees_of_reserving {o : BetOrder} {d : BetDecision} (h : o.status ∈ reservingStatuses) :
    Agrees o d ↔ d.status = .orderReserved := by
  cases hs : o.status <;> simp_all [Agrees, reservingStatuses]

theorem agrees_of_rejected {o : BetOrder} {d : BetDecision} (h : o.status = .rejected) :
    Agrees o d ↔ d.status = .rejected ∧ d.rejectionCode = o.rejectionCode := by
  simp only [Agrees, h]

theorem agrees_of_closed {o : BetOrder} {d : BetDecision}
    (h : o.status = .settled ∨ o.status = .voided) : Agrees o d ↔ ClosedWith o d := by
  rcases h with h | h <;> simp only [Agrees, h]

/-- An order holds its decision `ORDER_RESERVED` just as long as it is open. -/
theorem Agrees.reserved_iff {o : BetOrder} {d : BetDecision} (h : Agrees o d) :
    d.status = .orderReserved ↔ o.status ∈ reservingStatuses := by
  constructor
  · intro hd
    by_contra hs
    by_cases hr : o.status = .rejected
    · rw [agrees_of_rejected hr, hd] at h
      exact absurd h.1 (by simp)
    · have hc : o.status = .settled ∨ o.status = .voided := by
        cases ho : o.status <;> simp_all [reservingStatuses]
      rw [agrees_of_closed hc, ClosedWith, hd] at h
      exact absurd h.1 (by simp)
  · exact fun hs => (agrees_of_reserving hs).1 h

theorem Agrees.not_eligible {o : BetOrder} {d : BetDecision} (h : Agrees o d) :
    d.status ≠ .eligible := by
  intro hd
  cases hs : o.status <;> simp_all [Agrees, ClosedWith]

/-- Every order has its decision, and `R` relates the two. -/
def Matches (R : BetOrder → BetDecision → Prop) (db : Database) : Prop :=
  ∀ o ∈ db.orders, ∃ d ∈ db.decisions, d.id = o.decisionId ∧ R o d

/-- A decision is `ORDER_RESERVED` only for its order. -/
def ReservedForOrder (db : Database) : Prop :=
  ∀ d ∈ db.decisions, d.status = .orderReserved → ∃ o ∈ db.orders, o.decisionId = d.id

/-- Every order has its decision, with what its status says, and a decision is `ORDER_RESERVED` only
for its order. -/
structure Paired (db : Database) : Prop where
  decided : Matches Agrees db
  reserved : ReservedForOrder db

theorem order_eq_of_decision {db : Database} {o x : BetOrder} (ho : o ∈ db.orders)
    (hx : x ∈ db.orders) (h : o.decisionId = x.decisionId) : o = x :=
  Table.eq_of_clash ho hx (by simp [orderSchema, h])

/-! ## Its rules -/

section Rules

variable {R : BetOrder → BetDecision → Prop} {db db' : Database}

theorem Matches.congr (h : Matches R db) (ho : db'.orders = db.orders)
    (hd : db'.decisions = db.decisions) : Matches R db' := by
  intro o hmem
  rw [ho] at hmem
  rw [hd]
  exact h o hmem

theorem ReservedForOrder.congr (h : ReservedForOrder db) (ho : db'.orders = db.orders)
    (hd : db'.decisions = db.decisions) : ReservedForOrder db' := by
  intro d hmem
  rw [hd] at hmem
  rw [ho]
  exact h d hmem

section Rewrite

variable {os : List BetOrder} {f : BetOrder → BetOrder} {k : BetDecision → BetDecision}

theorem rewritten_decisionId (hf : ∀ o ∈ os, (f o).decisionId = o.decisionId) (o : BetOrder) :
    (if o ∈ os then f o else o).decisionId = o.decisionId := by
  split_ifs with ho
  · exact hf o ho
  · rfl

/-- **Orders and their decisions move together.** -/
theorem Matches.rewrite (h : Matches R db) (hrw : Rewrites db os f db')
    (hre : Redecides db os k db') (hf : ∀ o ∈ os, (f o).decisionId = o.decisionId)
    (hk : ∀ d, (k d).id = d.id) (hR : ∀ o ∈ os, ∀ d, R o d → R (f o) (k d)) : Matches R db' := by
  intro o' ho'
  obtain ⟨o, ho, rfl⟩ := hrw.mem_iff.1 ho'
  obtain ⟨d, hd, hdid, hag⟩ := h o ho
  refine ⟨_, hre.mem_iff.2 ⟨d, hd, rfl⟩, ?_, ?_⟩
  · rw [rewritten_decisionId hf o, ← hdid]
    split_ifs
    · exact hk d
    · rfl
  · by_cases hos : o ∈ os
    · have hin : d.id ∈ os.map (·.decisionId) := List.mem_map.2 ⟨o, hos, hdid.symm⟩
      rw [if_pos hos, if_pos hin]
      exact hR o hos d hag
    · -- another order of the same decision would be the same order
      have hout : d.id ∉ os.map (·.decisionId) := by
        intro hin
        obtain ⟨x, hx, hxid⟩ := List.mem_map.1 hin
        have heq : x = o := order_eq_of_decision (hrw.mem x hx) ho (hxid.trans hdid)
        exact hos (heq ▸ hx)
      rw [if_neg hos, if_neg hout]
      exact hag

theorem ReservedForOrder.rewrite (h : ReservedForOrder db) (hrw : Rewrites db os f db')
    (hre : Redecides db os k db') (hf : ∀ o ∈ os, (f o).decisionId = o.decisionId)
    (hk : Lowers k) : ReservedForOrder db' := by
  intro d' hd' hs
  obtain ⟨d, hd, rfl⟩ := hre.mem_iff.1 hd'
  have hold : d.status = .orderReserved ∧
      (if d.id ∈ os.map (·.decisionId) then k d else d).id = d.id := by
    split_ifs at hs ⊢
    · exact ⟨hk.status d hs, hk.sameId d⟩
    · exact ⟨hs, rfl⟩
  obtain ⟨o, ho, hod⟩ := h d hd hold.1
  refine ⟨_, hrw.mem_iff.2 ⟨o, ho, rfl⟩, ?_⟩
  rw [rewritten_decisionId hf o, hold.2]
  exact hod

end Rewrite

section Add

variable {o : BetOrder} {k : BetDecision → BetDecision}

/-- **A new order comes with its decision.** -/
theorem Matches.add (h : Matches R db) (hrows : db'.orders.rows = db.orders.rows ++ [o])
    (hre : Redecides db [o] k db') (hid : ∀ d, (k d).id = d.id) {d₀ : BetDecision}
    (hd₀ : d₀ ∈ db.decisions) (hd₀id : d₀.id = o.decisionId) (hR : R o (k d₀)) :
    Matches R db' := by
  intro x hx
  rcases (mem_of_added hrows).1 hx with hold | rfl
  · obtain ⟨d, hd, hdid, hag⟩ := h x hold
    have hne : d.id ∉ [o].map (·.decisionId) := by
      have hd := db'.orders.distinct
      rw [hrows, List.pairwise_append] at hd
      have hc := hd.2.2 x hold o (List.mem_singleton_self o)
      simp only [orderSchema, Bool.or_eq_false_iff, beq_eq_false_iff_ne] at hc
      simpa [hdid] using hc.1.1.2
    exact ⟨d, hre.mem_iff.2 ⟨d, hd, if_neg hne⟩, hdid, hag⟩
  · have hin : d₀.id ∈ [x].map (·.decisionId) := by simp [hd₀id]
    exact ⟨k d₀, hre.mem_iff.2 ⟨d₀, hd₀, if_pos hin⟩, (hid d₀).trans hd₀id, hR⟩

theorem ReservedForOrder.add (h : ReservedForOrder db)
    (hrows : db'.orders.rows = db.orders.rows ++ [o]) (hre : Redecides db [o] k db')
    (hid : ∀ d, (k d).id = d.id) : ReservedForOrder db' := by
  intro d' hd' hs
  obtain ⟨d, hd, rfl⟩ := hre.mem_iff.1 hd'
  by_cases hin : d.id ∈ [o].map (·.decisionId)
  · refine ⟨o, (mem_of_added hrows).2 (.inr rfl), ?_⟩
    rw [if_pos hin, hid d]
    exact (List.mem_singleton.1 hin).symm
  · rw [if_neg hin] at hs ⊢
    obtain ⟨x, hx, hxid⟩ := h d hd hs
    exact ⟨x, (mem_of_added hrows).2 (.inl hx), hxid⟩

end Add

section Refuse

variable {p : BetDecision → Bool} {code : RejectionCode}

theorem mem_refused (hrows : db'.decisions.rows = db.decisions.rows.map fun d =>
      if p d then d.refuse code else d) {d' : BetDecision} :
    d' ∈ db'.decisions ↔ ∃ d ∈ db.decisions, (if p d then d.refuse code else d) = d' := by
  rw [Table.mem_def, hrows, List.mem_map]
  rfl

/-- **Only a decision without an order is eligible**, so it may be refused alone. -/
theorem Matches.refuse (h : Matches R db) (hR : ∀ {o d}, R o d → d.status ≠ .eligible)
    (horders : db'.orders = db.orders)
    (hrows : db'.decisions.rows = db.decisions.rows.map fun d =>
      if p d then d.refuse code else d)
    (hp : ∀ d ∈ db.decisions, p d = true → d.status = .eligible) : Matches R db' := by
  intro o ho
  rw [horders] at ho
  obtain ⟨d, hd, hdid, hag⟩ := h o ho
  have hout : ¬ p d = true := fun hpd => hR hag (hp d hd hpd)
  exact ⟨d, (mem_refused hrows).2 ⟨d, hd, if_neg hout⟩, hdid, hag⟩

theorem ReservedForOrder.refuse (h : ReservedForOrder db) (horders : db'.orders = db.orders)
    (hrows : db'.decisions.rows = db.decisions.rows.map fun d =>
      if p d then d.refuse code else d) : ReservedForOrder db' := by
  intro d' hd' hs
  obtain ⟨d, hd, rfl⟩ := (mem_refused hrows).1 hd'
  rw [horders]
  by_cases hpd : p d = true
  · rw [if_pos hpd] at hs
    exact absurd hs (by simp [BetDecision.refuse])
  · rw [if_neg hpd] at hs ⊢
    exact h d hd hs

end Refuse

end Rules

/-! ## Every transaction -/

theorem settlementOutcome_profit {stake payout profit : Int} {outcome : DecisionOutcome}
    (h : settlementOutcome stake payout = (outcome, profit)) : profit = payout - stake := by
  rw [settlementOutcome] at h
  split_ifs at h with heq <;> obtain ⟨-, rfl⟩ := Prod.mk.inj h
  · omega
  all_goals rfl

/-- A relation between an order and its decision that the pipeline brings about whenever it writes
one of them. -/
structure Verdict (R : BetOrder → BetDecision → Prop) : Prop where
  notEligible : ∀ {o : BetOrder} {d : BetDecision}, R o d → d.status ≠ .eligible
  /-- An open order may go on, with a decision that stays reserved. -/
  goesOn : ∀ {o o' : BetOrder} {d : BetDecision} {k : BetDecision → BetDecision},
    o.status ∈ reservingStatuses → o'.status ∈ reservingStatuses → SameVerdict k → R o d →
      R o' (k d)
  reserved : ∀ {o : BetOrder} {d : BetDecision}, o.status = .reserved →
    R o { d with status := .orderReserved }
  refused : ∀ {o : BetOrder} {d : BetDecision} {code : RejectionCode}, o.status = .rejected →
    o.rejectionCode = some code → R o (d.refuse code)
  closed : ∀ {o : BetOrder} {d : BetDecision} {outcome : DecisionOutcome}
    {stake payout profit instant : Int} {env : TxEnv}, o.acceptedStake = some stake →
      settlementOutcome stake payout = (outcome, profit) →
      R ((o.settle outcome payout instant).touched env) (d.complete outcome profit instant)

theorem settled_status (o : BetOrder) (outcome : DecisionOutcome) (payout instant : Int)
    (env : TxEnv) : ((o.settle outcome payout instant).touched env).status = .settled ∨
      ((o.settle outcome payout instant).touched env).status = .voided := by
  show (if outcome = .void then OrderStatus.voided else .settled) = .settled ∨
    (if outcome = .void then OrderStatus.voided else .settled) = .voided
  by_cases hvoid : outcome = .void
  · exact .inr (if_pos hvoid)
  · exact .inl (if_neg hvoid)

theorem verdict_agrees : Verdict Agrees where
  notEligible h := h.not_eligible
  goesOn hs hs' hk h := by
    rw [agrees_of_reserving hs', hk.status]
    exact (agrees_of_reserving hs).1 h
  reserved hs := (agrees_of_reserving (by simp [hs, reservingStatuses])).2 rfl
  refused hs hcode := (agrees_of_rejected hs).2 ⟨rfl, hcode.symm⟩
  closed hstake hprofit := by
    rw [agrees_of_closed (settled_status _ _ _ _ _)]
    refine ⟨rfl, _, _, hstake, rfl, ?_⟩
    rw [← settlementOutcome_profit hprofit]
    rfl

section Runs

variable {R : BetOrder → BetDecision → Prop} {db db' : Database} {t : Transaction}

/-- **Every transaction keeps an order and its decision together.** -/
theorem Matches.deciding (hR : Verdict R) (h : Matches R db)
    (hsettles : ∀ orderId outcome profit payout settledAt,
      t = .settleOrder orderId outcome profit payout settledAt → ∀ o ∈ db.orders, o.id = orderId →
        ∃ stake, o.acceptedStake = some stake ∧
          settlementOutcome stake payout = (outcome, profit))
    (hd : Deciding db db' t) : Matches R db' := by
  cases hd with
  | aside horders hdecisions => exact h.congr horders hdecisions
  | goOn hrw hre hsteps hk hs =>
    exact h.rewrite hrw hre (fun o ho => (hsteps o ho).same.decisionId) hk.lowers.sameId
      fun o ho _ hag => hR.goesOn (hs o ho).1 (hs o ho).2 hk hag
  | refuse hrw hre =>
    exact h.rewrite hrw hre (fun _ _ => rfl) (fun _ => rfl) fun _ _ _ _ => hR.refused rfl rfl
  | close ho hrw hre =>
    obtain ⟨stake, hstake, hprofit⟩ := hsettles _ _ _ _ _ rfl _ ho rfl
    refine h.rewrite hrw hre (fun _ _ => rfl) (fun _ => rfl) fun x hx _ _ => ?_
    rw [List.mem_singleton.1 hx]
    exact hR.closed hstake hprofit
  | refuseAlone horders hrows hp => exact h.refuse hR.notEligible horders hrows hp
  | reserve hd hid _ _ hs _ hrows hre =>
    exact h.add hrows hre (fun _ => rfl) hd hid (hR.reserved hs)
  | refuseNew hd hid _ _ hs hcode _ hrows hre =>
    exact h.add hrows hre (fun _ => rfl) hd hid (hR.refused hs hcode)

theorem ReservedForOrder.deciding (h : ReservedForOrder db) (hd : Deciding db db' t) :
    ReservedForOrder db' := by
  cases hd with
  | aside horders hdecisions => exact h.congr horders hdecisions
  | goOn hrw hre hsteps hk _ =>
    exact h.rewrite hrw hre (fun o ho => (hsteps o ho).same.decisionId) hk.lowers
  | @refuse _ os code reason env hrw hre =>
    exact h.rewrite hrw hre (fun _ _ => rfl) (lowers_refuse code)
  | close _ hrw hre =>
    exact h.rewrite hrw hre (fun _ _ => rfl) ⟨fun _ => rfl, fun _ => rfl, fun _ h => nomatch h⟩
  | refuseAlone horders hrows _ => exact h.refuse horders hrows
  | reserve _ _ _ _ _ _ hrows hre => exact h.add hrows hre fun _ => rfl
  | refuseNew _ _ _ _ _ _ _ hrows hre => exact h.add hrows hre fun _ => rfl

theorem Paired.deciding (h : Paired db)
    (hsettles : ∀ orderId outcome profit payout settledAt,
      t = .settleOrder orderId outcome profit payout settledAt → ∀ o ∈ db.orders, o.id = orderId →
        ∃ stake, o.acceptedStake = some stake ∧
          settlementOutcome stake payout = (outcome, profit))
    (hd : Deciding db db' t) : Paired db' :=
  ⟨h.decided.deciding verdict_agrees hsettles hd, h.reserved.deciding hd⟩

/-! ## Runs -/

/-- The rest of the program only adds decisions, none of them `ORDER_RESERVED`. -/
def OnlyAdds (db db' : Database) : Prop :=
  ∃ ds : List BetDecision, db'.decisions.rows = db.decisions.rows ++ ds ∧
    ∀ d ∈ ds, d.status ≠ .orderReserved

theorem Paired.outside (h : Paired db) (hout : Outside db db') (hadds : OnlyAdds db db') :
    Paired db' := by
  obtain ⟨ds, hrows, hds⟩ := hadds
  have horders : db'.orders = db.orders := by
    rw [hout]
  have hmem : ∀ {d}, d ∈ db'.decisions ↔ d ∈ db.decisions ∨ d ∈ ds := by
    intro d
    rw [Table.mem_def, hrows, List.mem_append]
    rfl
  refine ⟨fun o ho => ?_, fun d hd hs => ?_⟩
  · rw [horders] at ho
    obtain ⟨d, hd, hag⟩ := h.decided o ho
    exact ⟨d, hmem.2 (.inl hd), hag⟩
  · rw [horders]
    rcases hmem.1 hd with hd | hd
    · exact h.reserved d hd hs
    · exact (hds d hd hs).elim

/-- What the order and decision tables say of each other. -/
structure OrderDecisionAgreement (db : Database) : Prop where
  /-- A decision has at most one order. -/
  decisionId : ∀ o ∈ db.orders, ∀ x ∈ db.orders, o.decisionId = x.decisionId → o = x
  /-- So has an idempotency key. -/
  idempotencyKey : ∀ o ∈ db.orders, ∀ x ∈ db.orders, o.idempotencyKey = x.idempotencyKey → o = x
  reserved_iff : ∀ d ∈ db.decisions, d.status = .orderReserved ↔
    ∃ o ∈ db.orders, o.decisionId = d.id ∧ o.status ∈ reservingStatuses
  rejected : ∀ o ∈ db.orders, o.status = .rejected →
    ∃ d ∈ db.decisions, d.id = o.decisionId ∧ d.status = .rejected ∧
      d.rejectionCode = o.rejectionCode
  closed : ∀ o ∈ db.orders, o.status = .settled ∨ o.status = .voided →
    ∃ d ∈ db.decisions, d.id = o.decisionId ∧ ClosedWith o d

theorem Paired.agreement (h : Paired db) : OrderDecisionAgreement db where
  decisionId o ho x hx := order_eq_of_decision ho hx
  idempotencyKey o ho x hx := order_eq_of_key ho hx
  reserved_iff d hd := by
    constructor
    · intro hs
      obtain ⟨o, ho, hod⟩ := h.reserved d hd hs
      obtain ⟨e, he, heid, hag⟩ := h.decided o ho
      obtain rfl := decision_eq_of_id hd he (hod.symm.trans heid.symm)
      exact ⟨o, ho, hod, hag.reserved_iff.1 hs⟩
    · rintro ⟨o, ho, hod, hs⟩
      obtain ⟨e, he, heid, hag⟩ := h.decided o ho
      obtain rfl := decision_eq_of_id hd he (hod.symm.trans heid.symm)
      exact hag.reserved_iff.2 hs
  rejected o ho hs := by
    obtain ⟨d, hd, hdid, hag⟩ := h.decided o ho
    exact ⟨d, hd, hdid, (agrees_of_rejected hs).1 hag⟩
  closed o ho hs := by
    obtain ⟨d, hd, hdid, hag⟩ := h.decided o ho
    exact ⟨d, hd, hdid, (agrees_of_closed hs).1 hag⟩

/-- **In every state of every run, an order and its decision agree**, wherever the pipeline alone
writes the decisions: from any tables without orders in which no decision is reserved. -/
theorem order_decision_agree {S : Setting} {db₀ : Database} (hnone : db₀.orders = .empty)
    (hfree : ∀ d ∈ db₀.decisions, d.status ≠ .orderReserved) {clock : Int}
    {funds : String → String → OperatorBalance} {c : Run}
    (h : Reachable (S.system.among fun w w' => S.Drift w w' ∧ OnlyAdds w.db w'.db)
      (.init (.init db₀ clock funds)) c) : OrderDecisionAgreement c.state.db := by
  have hinit : Paired db₀ := by
    refine ⟨fun o ho => ?_, fun d hd hs => (hfree d hd hs).elim⟩
    rw [hnone] at ho
    exact (Table.not_mem_empty o ho).elim
  refine Paired.agreement (Setting.sound_invariant_among (I := fun w => Paired w.db) ?_ ?_ ?_
    hinit h)
  · intro i a b w w' hinv hpre hs
    obtain ⟨_, -, -, hdone⟩ := hs.done
    have hcommit : ∀ {t : Transaction} {r : t.Result} {db : Database} {env : TxEnv},
        a = .commit t → t.body S.platform env w.db = .ok (r, db) → Paired db := by
      rintro t r db env rfl hbody
      refine hinv.deciding ?_ (Transaction.deciding hpre.guarded hbody)
      rintro orderId outcome profit payout settledAt rfl o ho hid
      obtain ⟨x, hx, hxid, -, stake, hstake, hprofit⟩ := hpre.settles _ _ _ _ _ rfl
      rw [order_eq_of_id ho hx (hid.trans hxid.symm)]
      exact ⟨stake, hstake, hprofit⟩
    cases hdone with
    | committed _ hbody =>
      rw [committed_db]
      exact hcommit rfl hbody
    | unacknowledged _ hbody =>
      rw [committed_db]
      exact hcommit rfl hbody
    | _ => exact hinv
  · rintro w w' ⟨clock, book, funds, db, -, -, hout, rfl⟩ hadds hinv
    exact hinv.outside hout hadds
  · exact fun i w hinv => hinv

/-- An accepted order and its decision. -/
theorem order_decision_agree_accepted :
    ∃ c : Run, (c.state.db.orders.rows.map (·.status), c.state.db.decisions.rows.map (·.status))
        = ([.accepted], [.orderReserved]) ∧ OrderDecisionAgreement c.state.db := by
  have hrun : (Sample.scene.replay (Sample.armed ++ Sample.accepted) Sample.seeded).map
      (fun c => (c.state.db.orders.rows.map (·.status), c.state.db.decisions.rows.map (·.status)))
        = some ([.accepted], [.orderReserved]) := by decide +kernel
  have hcalls : ∀ ch ∈ Sample.armed ++ Sample.accepted, ch.ofCall = true := by
    simp [Sample.armed, Sample.accepted, Choice.ofCall]
  obtain ⟨c, hc, hrows⟩ := Option.map_eq_some_iff.1 hrun
  refine ⟨c, hrows, order_decision_agree (S := Sample.scene.setting) rfl ?_
    (Scene.replay_among _ .init hcalls hc)⟩
  intro d hd
  obtain rfl : d = Sample.decision := by
    have hrows : Sample.seed.decisions.rows = [Sample.decision] := by decide +kernel
    rw [Table.mem_def, hrows] at hd
    exact List.mem_singleton.1 hd
  exact fun hs => nomatch hs

end Runs

end ApiScore
