import ApiScore.Lib.Amid
import ApiScore.Execution.SettlementStages

/-!
# A settlement, crashed and retried

Any number of calls of `settleFromOperator` with one report of the operator, at once or one after the
other, each of which may die at any point or lose the acknowledgement of a transaction.  Every call
that returns leaves what one call alone would have left.

* `retries` — the runs that this is about.
* `settleFromOperator_safe` — a call keeps the stages in order, and has closed the order when it
  returns.
* `settlement_survives` — the result.
-/

set_option autoImplicit false

namespace ApiScore

open Relational Concurrent

/-! ## The runs -/

/-- Calls that settle one order from one report. -/
def settling (P : Platform) (interlock : CallId → Bool) (orderId : String) (op : OperatorOrder) :
    Setting where
  platform := P
  interlock := interlock
  entry e := e = .settleFromOperator orderId op
  allow _ _ _ _ := True
  drift _ _ _ := True

/-- Time passes and the operator acts; the rest of the program does nothing. -/
def OnlyTime (w w' : World) : Prop :=
  ∃ clock book funds, w.clock ≤ clock ∧ w' = { w with clock, book, funds }

/-- Those calls, with nothing else going on. -/
def retries (P : Platform) (interlock : CallId → Bool) (orderId : String) (op : OperatorOrder) :
    System Action Action.Result CallId World :=
  (settling P interlock orderId op).system.among OnlyTime

/-! ## The contract -/

section

variable (db₀ : Database) (order : BetOrder) (stake payout : Int) (settledAt : Option Int)

/-- When a retry performs an action: it closes the order only once the entry is booked. -/
inductive Retries (w : World) : Action → Prop
  | query (q : Query) : Retries w (.query q)
  | stop (reason : String) (source : StopSource) : Retries w (.commit (.stop reason source))
  | stake : Retries w (.commit (.settleStake (order.settleInput stake payout)))
  | close (hbooked : Booked db₀ order stake payout w.db) :
      Retries w (.commit (.settleOrder order.id (settlementOutcome stake payout).1
        (settlementOutcome stake payout).2 payout settledAt))

/-- Nothing of the settlement is undone. -/
structure Advances (w w' : World) : Prop where
  booked : Booked db₀ order stake payout w.db → Booked db₀ order stake payout w'.db
  closed : Closed db₀ order stake payout w.db → Closed db₀ order stake payout w'.db

theorem Advances.refl (w : World) : Advances db₀ order stake payout w w := ⟨id, id⟩

def retryContract : Contract Action CallId World where
  inv w := SettleStage db₀ order stake payout w.db
  pre _ a w := Retries db₀ order stake payout settledAt w a
  guar _ := Advances db₀ order stake payout
  rely _ := Advances db₀ order stake payout
  fresh _ _ := True
  refl _ := Advances.refl db₀ order stake payout
  trans _ _ _ _ h h' := ⟨h'.booked ∘ h.booked, h'.closed ∘ h.closed⟩

end

variable {P : Platform} {interlock : CallId → Bool} {orderId : String} {op : OperatorOrder}
  {db₀ : Database} {order : BetOrder} {stake payout : Int} {i : CallId} {w w' : World}

theorem Advances.of_eq (h : w'.db = w.db) : Advances db₀ order stake payout w w' := by
  constructor <;> rw [h] <;> exact id

/-- A transaction of a retry, committed: what it makes of the stages. -/
theorem retry_commit (hd : Due db₀ order stake payout) {t : Transaction} {r : t.Result}
    (hinv : SettleStage db₀ order stake payout w.db)
    (hpre : Retries db₀ order stake payout op.settledAt w (.commit t))
    (hran : Ran (settling P interlock orderId op) i t r w w') :
    SettleStage db₀ order stake payout w'.db ∧ Advances db₀ order stake payout w w' := by
  obtain ⟨env, db, -, hbody, rfl⟩ := hran
  rw [committed_db]
  cases hpre with
  | stop reason source =>
    obtain ⟨hdb, -⟩ := stopTx_spec hbody
    have hledger : LedgerSame w.db db := ⟨by rw [hdb], by rw [hdb]⟩
    refine ⟨hinv.congr hledger (by rw [hdb]) (by rw [hdb]), ?_, ?_⟩ <;> rw [committed_db]
    · exact fun hb => hb.congr hledger
    · exact fun hc => hc.congr (by rw [hdb]) (by rw [hdb])
  | stake =>
    obtain ⟨hstage, hbooked, hclosed⟩ := hinv.settleStake hd hbody
    refine ⟨hstage, ?_, ?_⟩ <;> rw [committed_db]
    · exact fun _ => hbooked
    · exact hclosed
  | close hb =>
    obtain ⟨hbooked, hclosed⟩ := hinv.settleOrder hd hb hbody
    refine ⟨.closed hbooked hclosed, ?_, ?_⟩ <;> rw [committed_db]
    · exact fun _ => hbooked
    · exact fun _ => hclosed

/-- **One action of a retry** keeps the stages in order, and undoes nothing. -/
theorem retry_step (hd : Due db₀ order stake payout) {a : Action} {b : a.Result}
    (hinv : SettleStage db₀ order stake payout w.db)
    (hpre : Retries db₀ order stake payout op.settledAt w a)
    (hs : (settling P interlock orderId op).Step i a w b w') :
    SettleStage db₀ order stake payout w'.db ∧ Advances db₀ order stake payout w w' := by
  cases a with
  | commit t =>
    rcases hs.commit with ⟨r, hran, -⟩ | ⟨rfl, -⟩
    · exact retry_commit hd hinv hpre hran
    · exact ⟨hinv, .refl _ _ _ _ _⟩
  | query q =>
    obtain ⟨input, -, -, hdone⟩ := hs.done
    have hdb : w'.db = w.db := by cases hdone <;> rfl
    exact ⟨hdb ▸ hinv, .of_eq hdb⟩
  | _ => cases hpre

/-! ## One call -/

section Call

variable {Q : BetOrder → World → Prop}

theorem retry_query {q : Query} {R : q.Result → World → Prop}
    (hR : ∀ r w₁ w₂, Advances db₀ order stake payout w w₁ →
      SettleStage db₀ order stake payout w₁.db → q.read w₁.db = some r →
      Advances db₀ order stake payout w₁ w₂ → R r w₂) :
    Spec (retries P interlock orderId op) (retryContract db₀ order stake payout op.settledAt) i R
      (query q) w := by
  refine Spec.act fun w₁ h₁ hinv => ⟨.query q, fun b w₂ hs _ hg => ?_⟩
  cases b with
  | error e => exact Spec.throw
  | ok r =>
    refine Spec.pure fun w₃ h₃ _ => hR r w₁ w₃ h₁ hinv (Setting.Step.query hs).1 ?_
    exact ⟨h₃.booked ∘ hg.booked, h₃.closed ∘ hg.closed⟩

theorem retry_transaction {t : Transaction} {R : t.Result → World → Prop}
    (hpre : ∀ w₁, Advances db₀ order stake payout w w₁ →
      Retries db₀ order stake payout op.settledAt w₁ (.commit t))
    (hR : ∀ r w₁ w₂ w₃, Advances db₀ order stake payout w w₁ →
      SettleStage db₀ order stake payout w₁.db → Ran (settling P interlock orderId op) i t r w₁ w₂ →
      Advances db₀ order stake payout w₂ w₃ → R r w₃) :
    Spec (retries P interlock orderId op) (retryContract db₀ order stake payout op.settledAt) i R
      (commit t) w := by
  refine Spec.act fun w₁ h₁ hinv => ⟨hpre w₁ h₁, fun b w₂ hs _ _ => ?_⟩
  cases b with
  | error e => exact Spec.throw
  | ok r =>
    rcases Setting.Step.commit hs with ⟨r', hran, hr⟩ | ⟨-, e, he⟩
    · rw [hr r rfl]
      exact Spec.pure fun w₃ h₃ _ => hR r' w₁ w₂ w₃ h₁ hinv hran h₃
    · cases he

theorem retry_applyStop {request : Option AutoStopRequest} :
    Spec (retries P interlock orderId op) (retryContract db₀ order stake payout op.settledAt) i
      (fun _ => Advances db₀ order stake payout w) (applyStop request) w := by
  cases request with
  | none => exact Spec.pure fun w₁ h₁ _ => h₁
  | some request =>
    refine Spec.act fun w₁ h₁ _ => ⟨.stop _ _, fun b w₂ _ _ hg => Spec.pure fun w₃ h₃ _ => ?_⟩
    exact ⟨h₃.booked ∘ hg.booked ∘ h₁.booked, h₃.closed ∘ hg.closed ∘ h₁.closed⟩

/-- **A retry that returns has closed the order**, whatever the others do meanwhile. -/
theorem settleFromOperator_safe (hd : Due db₀ order stake payout) {text : String}
    (hset : op.settlement? = some text) (hcents : toCents text = some payout)
    (hinv : SettleStage db₀ order stake payout w.db) :
    Spec (retries P interlock orderId op) (retryContract db₀ order stake payout op.settledAt) i
      (fun _ w' => Booked db₀ order stake payout w'.db ∧ Closed db₀ order stake payout w'.db)
      (settleFromOperator order.id op) w := by
  refine Spec.bind (R := fun o w' => o = order ∨ (o.status ≠ .accepted ∧
    Booked db₀ order stake payout w'.db ∧ Closed db₀ order stake payout w'.db))
    (retry_query fun o w₁ w₂ _ hstage hread hw => ?_) hinv fun o w₁ hinv₁ hrow => ?_
  · exact (hstage.row hd hread).imp And.left fun ⟨hne, hb, hc⟩ => ⟨hne, hw.booked hb, hw.closed hc⟩
  rcases hrow with rfl | ⟨hne, hb, hc⟩
  swap
  · rw [if_pos hne]
    exact Spec.pure fun w₂ h₂ _ => ⟨h₂.booked hb, h₂.closed hc⟩
  rw [if_neg (not_not.2 hd.accepted)]
  simp only [hset, hd.hasStake, hcents]
  refine Spec.bind (R := fun _ w' => Booked db₀ o stake payout w'.db)
    (retry_transaction (fun _ _ => .stake) fun r w₂ w₃ w₄ _ hstage hran h₄ => h₄.booked ?_) hinv₁
    fun r w₂ hinv₂ hb => ?_
  · obtain ⟨env, db, -, hbody, rfl⟩ := hran
    rw [committed_db]
    exact (hstage.settleStake hd hbody).2.1
  refine Spec.bind (R := fun _ w' => Booked db₀ o stake payout w'.db)
    (Spec.imp retry_applyStop fun _ _ _ hw => hw.booked hb) hinv₂ fun _ w₃ hinv₃ hb₃ => ?_
  refine Spec.bind (R := fun _ w' => Booked db₀ o stake payout w'.db ∧ Closed db₀ o stake payout w'.db)
    (retry_transaction (fun w₁ h₁ => .close (h₁.booked hb₃)) fun r w₄ w₅ w₆ h₄ hstage hran h₆ => ?_)
    hinv₃ fun _ w₄ hinv₄ hdone => ?_
  · obtain ⟨env, db, -, hbody, rfl⟩ := hran
    obtain ⟨hbooked, hclosed⟩ := hstage.settleOrder hd (h₄.booked hb₃) hbody
    refine ⟨h₆.booked ?_, h₆.closed ?_⟩ <;> rw [committed_db]
    · exact hbooked
    · exact hclosed
  · exact retry_query fun _ w₅ w₆ h₅ _ _ h₆ =>
      ⟨h₆.booked (h₅.booked hdone.1), h₆.closed (h₅.closed hdone.2)⟩

end Call

/-- Retries run under their contract. -/
theorem retries_discipline (hd : Due db₀ order stake payout) {text : String}
    (hset : op.settlement? = some text) (hcents : toCents text = some payout) :
    Discipline (retries P interlock order.id op)
      (retryContract db₀ order stake payout op.settledAt) where
  entry i p w hp hinv _ := by
    obtain ⟨e, rfl, rfl⟩ := hp
    exact Safe.bind (settleFromOperator_safe hd hset hcents hinv) hinv fun _ _ _ _ =>
      Safe.ret fun _ _ _ => trivial
  step i a b w w' hinv hpre hs := retry_step hd hinv hpre hs
  compatible _ _ _ _ _ h := h
  fresh _ _ _ _ _ := trivial
  env w w' h hinv := by
    obtain ⟨clock, book, funds, -, rfl⟩ := h
    exact ⟨hinv, fun _ => .of_eq rfl⟩
  drop i w hinv := ⟨hinv, fun _ _ => .of_eq rfl⟩

/-! ## A retry goes through -/

/-- The answers to a retry that nothing disturbs; it reads no policy. -/
def calmInput (clock : Int) (interlockOpen : Bool) : Input :=
  { Input.at clock "" with
    env := { TxEnv.at clock "" with interlockOpen, controlUnreadable := true } }

theorem retry_reads {q : Query} {r : q.Result} (h : q.read w.db = some r) :
    Returns (retries P interlock orderId op) i (query q) w r (w.note (.read i q r)) := by
  refine ⟨.ok r, w.note (.read i q r), ⟨calmInput w.clock (interlock i), rfl, rfl, trivial, ?_⟩,
    returns_pure.2 ⟨rfl, rfl⟩⟩
  simp only [exec, calmInput, Input.at, h]
  rfl

theorem retry_commits {t : Transaction} {r : t.Result} {db : Database}
    (hlock : t.locksControl = false)
    (h : t.body P (calmInput w.clock (interlock i)).env w.db = .ok (r, db)) :
    Returns (retries P interlock orderId op) i (commit t) w r (w.committed i db t r) := by
  refine ⟨.ok r, w.committed i db t r, ⟨calmInput w.clock (interlock i), rfl, rfl, trivial, ?_⟩,
    returns_pure.2 ⟨rfl, rfl⟩⟩
  have hexec : exec P i (.commit t) (calmInput w.clock (interlock i)) w =
      some (.ok r, w.committed i db t r) := by
    rw [exec, if_neg (by simp [hlock]), h]
    rfl
  exact hexec

/-- **From any stage a retry goes through**, if a settlement has gone through once. -/
theorem settleFromOperator_returns (hd : Due db₀ order stake payout) {text : String}
    (hset : op.settlement? = some text) (hcents : toCents text = some payout) {db₁ : Database}
    (hb : Booked db₀ order stake payout db₁) (hc : Closed db₀ order stake payout db₁)
    (h : SettleStage db₀ order stake payout w.db) (i : CallId) :
    ∃ r w', Returns (retries P interlock order.id op) i (settleFromOperator order.id op) w r w' := by
  obtain ⟨o, hrow⟩ := h.order? hd
  rcases h.row hd hrow with ⟨rfl, -⟩ | ⟨hne, -⟩
  · have hrow' : (Query.order o.id).read w.db = some o := hrow
    let w₁ := w.note (.read i (.order o.id) o)
    have hstage₁ : SettleStage db₀ o stake payout w₁.db := h
    obtain ⟨r, db₂, hstake⟩ := hd.settleStake_commits hb hstage₁
      (calmInput w₁.clock (interlock i)).env
    obtain ⟨hstage₂, hb₂, -⟩ := hstage₁.settleStake hd hstake
    obtain ⟨_, _, _, -, -, hr⟩ := settleStakeTx_eq_ok.1 hstake
    have hquiet : r.2 = false := by rw [hr]; rfl
    obtain ⟨db₃, hclose⟩ := hd.settleOrder_commits hc hstage₂ op.settledAt
      (calmInput w.clock (interlock i)).env
    obtain ⟨-, hc₃⟩ := hstage₂.settleOrder hd hb₂ hclose
    obtain ⟨_, _, hrow₃⟩ := hc₃.order?
    let w₂ := w₁.committed i db₂ (.settleStake (o.settleInput stake payout)) r
    let w₃ := w₂.committed i db₃ (.settleOrder o.id (settlementOutcome stake payout).1
      (settlementOutcome stake payout).2 payout op.settledAt) ()
    have hreads : Returns (retries P interlock o.id op) i (query (.order o.id)) w o w₁ :=
      retry_reads hrow'
    have hsettles : Returns (retries P interlock o.id op) i
        (commit (.settleStake (o.settleInput stake payout))) w₁ r w₂ := retry_commits rfl hstake
    have hcloses : Returns (retries P interlock o.id op) i (commit (.settleOrder o.id
        (settlementOutcome stake payout).1 (settlementOutcome stake payout).2 payout op.settledAt))
        w₂ () w₃ := retry_commits rfl hclose
    obtain ⟨row, w₄, hends⟩ : ∃ row w₄,
        Returns (retries P interlock o.id op) i (query (.order o.id)) w₃ row w₄ :=
      ⟨_, _, retry_reads (w := w₃) hrow₃⟩
    refine ⟨row, w₄, hreads.bind ?_⟩
    rw [if_neg (not_not.2 hd.accepted)]
    simp only [hset, hd.hasStake, hcents]
    refine hsettles.bind ?_
    rw [if_neg (by simp [hquiet])]
    exact Returns.bind (returns_pure.2 ⟨rfl, rfl⟩) (hcloses.bind hends)
  · have hrow' : (Query.order order.id).read w.db = some o := hrow
    refine ⟨o, w.note (.read i (.order order.id) o), Returns.bind (retry_reads hrow') ?_⟩
    rw [if_pos hne]
    exact returns_pure.2 ⟨rfl, rfl⟩

/-! ## The result -/

/-- What one call alone makes of `w₀`, this database is, up to the instants of the settlement; and the
order is settled once. -/
structure EndsAlone (S : System Action Action.Result CallId World) (w₀ : World) (orderId : String)
    (op : OperatorOrder) (order : BetOrder) (db : Database) : Prop where
  once : SettledOnce order db
  possible : ∃ j r w, Returns S j (settleFromOperator orderId op) w₀ r w
  alike : ∀ j r w, Returns S j (settleFromOperator orderId op) w₀ r w → SameSettlement order db w.db

/-- One call alone that returns has closed the order. -/
theorem closed_of_returns {w₀ : World} (hd : Due w₀.db order stake payout) {text : String}
    (hset : op.settlement? = some text) (hcents : toCents text = some payout) {r : BetOrder}
    (h : Returns (retries P interlock order.id op) i (settleFromOperator order.id op) w₀ r w) :
    Booked w₀.db order stake payout w.db ∧ Closed w₀.db order stake payout w.db := by
  have hstage : SettleStage w₀.db order stake payout w₀.db := .due ⟨rfl, rfl⟩ rfl rfl
  have hD : Discipline (retries P interlock order.id op)
      (retryContract w₀.db order stake payout op.settledAt) := retries_discipline hd hset hcents
  obtain ⟨log, hamid⟩ := Alone.amid (c := .init w₀) h
  obtain ⟨-, -, hdone, -⟩ := hD.amid hamid ⟨hstage, fun _ _ => trivial⟩ rfl
    (settleFromOperator_safe hd hset hcents hstage)
  exact hdone r rfl

/-- A settlement that has gone through ends as one call alone does. -/
theorem endsAlone {w₀ : World} {db : Database} (hd : Due w₀.db order stake payout) {text : String}
    (hset : op.settlement? = some text) (hcents : toCents text = some payout)
    (hnone : Unsettled w₀.db order) (hb : Booked w₀.db order stake payout db)
    (hc : Closed w₀.db order stake payout db) :
    EndsAlone (retries P interlock order.id op) w₀ order.id op order db where
  once := Closed.once hnone hb hc
  possible := by
    have hstage : SettleStage w₀.db order stake payout w₀.db := .due ⟨rfl, rfl⟩ rfl rfl
    exact ⟨0, settleFromOperator_returns hd hset hcents hb hc hstage 0⟩
  alike j r w hw := by
    obtain ⟨hb', hc'⟩ := closed_of_returns hd hset hcents hw
    exact Closed.alike hb hc hb' hc'

/-- **Settlement survives crashes and retries.**  From an accepted order without a settle entry, in
every state that calls with one well-formed report can reach: an order that is no longer accepted was
settled once, as by one call alone; a call that returns, whatever the others do, has left it so; and
where one call alone can go through, it still can. -/
theorem settlement_survives {w₀ : World} (horder : w₀.db.order? orderId = some order)
    (hs : order.status = .accepted) (hop : op.settlement?.isSome = true)
    (hnone : Unsettled w₀.db order) {c : Config Action Action.Result CallId World}
    (hc : Reachable (retries P interlock orderId op) (.init w₀) c) :
    (∀ o, c.state.db.order? orderId = some o → o.status ≠ .accepted →
      EndsAlone (retries P interlock orderId op) w₀ orderId op order c.state.db) ∧
    (∀ i log result c', c.procs i = none →
      Yields (retries P interlock orderId op) i (settleFromOperator orderId op) c log result c' →
        EndsAlone (retries P interlock orderId op) w₀ orderId op order c'.state.db) ∧
    ((∃ j r w, Returns (retries P interlock orderId op) j (settleFromOperator orderId op) w₀ r w) →
      ∀ i, ∃ r w, Returns (retries P interlock orderId op) i (settleFromOperator orderId op)
        c.state r w) := by
  obtain ⟨hmem, rfl⟩ := order?_eq_some horder
  obtain ⟨text, hset⟩ := Option.isSome_iff_exists.1 hop
  have hamount : isAmountText text = true := by
    rw [OperatorOrder.settlement?] at hset
    split_ifs at hset
    exact (Option.filter_eq_some_iff.1 hset).2
  obtain ⟨payout, hcents, hnonneg, hlt⟩ := toCents_of_isAmountText hamount
  obtain ⟨stake, hstake⟩ : ∃ stake, order.acceptedStake = some stake := by
    have hcheck := w₀.db.orders.checked order hmem
    simp only [orderSchema, Bool.and_eq_true, hs] at hcheck
    obtain ⟨⟨⟨⟨⟨⟨⟨⟨-, haccepted⟩, -⟩, -⟩, -⟩, -⟩, -⟩, -⟩, -⟩ := hcheck
    rw [Bool.or_eq_true] at haccepted
    simp only [beq_self_eq_true, Bool.true_or, Bool.not_true, Bool.false_eq_true, false_or,
      Bool.and_eq_true] at haccepted
    exact Option.isSome_iff_exists.1 haccepted.1.2
  have hunrecorded : w₀.db.entry? (KeyKind.key .settle order.idempotencyKey) = none :=
    List.find?_eq_none.2 fun e he => by simpa using (hnone e he).1
  have hd : Due w₀.db order stake payout := ⟨hmem, hs, hstake, ⟨hnonneg, hlt⟩, hunrecorded⟩
  have hD : Discipline (retries P interlock order.id op)
      (retryContract w₀.db order stake payout op.settledAt) := retries_discipline hd hset hcents
  have hok := hD.reachable (s := w₀) (.due ⟨rfl, rfl⟩ rfl rfl) (fun _ => trivial) hc
  refine ⟨fun o ho hne => ?_, fun i log result c' hi hrun => ?_, fun hcan i => ?_⟩
  · rcases SettleStage.row hd hok.1 ho with ⟨rfl, -⟩ | ⟨-, hb, hc⟩
    · exact (hne hs).elim
    · exact endsAlone hd hset hcents hnone hb hc
  · obtain ⟨-, -, hdone, -⟩ := hD.amid hrun ⟨hok.1, fun j _ => hok.2 j⟩ hi
      (settleFromOperator_safe hd hset hcents hok.1)
    obtain ⟨hb, hc⟩ := hdone result rfl
    exact endsAlone hd hset hcents hnone hb hc
  · obtain ⟨j, r, w, hw⟩ := hcan
    obtain ⟨hb, hc⟩ := closed_of_returns hd hset hcents hw
    exact settleFromOperator_returns hd hset hcents hb hc hok.1 i

/-! ## A crash between the two transactions -/

namespace Sample

/-- The settlement of 10.00 at 2.000, won. -/
def paperWin : OperatorOrder :=
  (((paperBooking 1000 2000).refreshSettlementFromFixture (some won) 1000).toOption).getD
    (paperBooking 1000 2000).order

/-- Calls that settle the order of the sample from this report. -/
def paperRetries : Scene where
  platform := paperPlatform
  entry e := match e with
    | .settleFromOperator id op => id == "order" && op == paperWin
    | _ => false

/-- The first call dies once the settle entry is committed. -/
def settleCrash : List Choice :=
  [.start 1 (.settleFromOperator "order" paperWin), .act 1 (.at 1000 ""), .act 1 (.at 1000 ""),
    .crash 1]

theorem paperRetries_entry {e : Entry} (h : paperRetries.entry e = true) :
    e = .settleFromOperator "order" paperWin := by
  cases e with
  | settleFromOperator id op =>
    simp only [paperRetries, Bool.and_eq_true, beq_iff_eq] at h
    rw [h.1, h.2]
  | _ => simp [paperRetries] at h

/-- Before the crash, after it, and what a second call returns. -/
def retriedOnce : Option (World × Run × BetOrder × World) := do
  let c₀ ← paperScene.replay (paperAccepted 1000 2000) (paperSeed 1000 2000)
  let c ← paperRetries.replay settleCrash (.init c₀.state)
  let (result, w) ← paperRetries.alone 2 (settleFromOperator "order" paperWin).run
    [.at 1000 "", .at 1000 "", .at 1000 "", .at 1000 ""] c.state
  return (c₀.state, c, ← result.toOption, w)

theorem retriedOnce_spec {w₀ w : World} {c : Run} {result : BetOrder}
    (h : retriedOnce = some (w₀, c, result, w)) :
    Reachable (retries paperPlatform (fun _ => false) "order" paperWin) (.init w₀) c ∧
      Returns (retries paperPlatform (fun _ => false) "order" paperWin) 2
        (settleFromOperator "order" paperWin) c.state result w := by
  simp only [retriedOnce, Option.bind_eq_bind, Option.bind_eq_some_iff] at h
  obtain ⟨c₀, -, c, hc, ⟨r, w'⟩, hrun, result', hok, h⟩ := h
  obtain ⟨rfl, rfl, rfl, rfl⟩ : c₀.state = w₀ ∧ c = _ ∧ result' = result ∧ w' = w := by
    simpa using h
  have hstep : ∀ i a s b s', paperRetries.setting.system.step i a s b s' →
      (retries paperPlatform (fun _ => false) "order" paperWin).step i a s b s' := by
    rintro i a s b s' ⟨input, hnow, hlock, -, hexec⟩
    exact ⟨input, hnow, hlock, trivial, hexec⟩
  have hreach : Reachable (paperRetries.setting.system.among OnlyTime) (.init c₀.state) c :=
    Scene.replay_among OnlyTime .init (by simp [settleCrash, Choice.ofCall]) hc
  refine ⟨Reachable.mono (S := paperRetries.setting.system.among OnlyTime) hstep ?_
    (fun _ _ h => h) rfl hreach, ?_⟩
  · rintro p ⟨e, he, rfl⟩
    exact ⟨e, paperRetries_entry he, rfl⟩
  · have hret := (Scene.alone_spec hrun).mono fun a s b s' => hstep 2 a s b s'
    cases r with
    | error e => cases hok
    | ok r =>
      obtain rfl := Option.some.inj hok
      exact hret

/-- What is read off the run: the order is accepted and unsettled before it, and after the crash it is
accepted still, with its settle entry. -/
def crashedBetween (order : BetOrder) (r : World × Run × BetOrder × World) : Bool :=
  order.status == .accepted &&
    (r.1.db.entries.rows.all fun e => e.entryKey != KeyKind.key .settle order.idempotencyKey &&
      !(e.entryType == .settle && e.orderId == some order.id)) &&
    (r.2.1.procs 2).isNone &&
    ((r.2.1.state.db.order? "order").any fun o => o.status == .accepted) &&
    (r.2.1.state.db.entry? (KeyKind.key .settle order.idempotencyKey)).isSome

end Sample

/-- A call dies between its two transactions, and the next one ends as if it had been alone. -/
theorem settlement_survives_crash : ∃ (w₀ : World) (order : BetOrder) (c c' : Run)
    (log : List (Action × World)) (result : BetOrder),
    w₀.db.order? "order" = some order ∧
      Reachable (retries Sample.paperPlatform (fun _ => false) "order" Sample.paperWin) (.init w₀) c ∧
      (c.state.db.order? "order").any (·.status == .accepted) = true ∧
      (c.state.db.entry? (KeyKind.key .settle order.idempotencyKey)).isSome = true ∧
      Yields (retries Sample.paperPlatform (fun _ => false) "order" Sample.paperWin) 2
        (settleFromOperator "order" Sample.paperWin) c log result c' ∧
      EndsAlone (retries Sample.paperPlatform (fun _ => false) "order" Sample.paperWin) w₀ "order"
        Sample.paperWin order c'.state.db := by
  have hrun : (Sample.retriedOnce.any fun r =>
      (r.1.db.order? "order").any fun order => Sample.crashedBetween order r) = true := by
    decide +kernel
  obtain ⟨⟨w₀, c, result, w⟩, hsome, hany⟩ := (Option.any_eq_true _ _).1 hrun
  obtain ⟨order, horder, hchecks⟩ := (Option.any_eq_true _ _).1 hany
  obtain ⟨hreach, hreturns⟩ := Sample.retriedOnce_spec hsome
  simp only [Sample.crashedBetween, Bool.and_eq_true, beq_iff_eq, List.all_eq_true, bne_iff_ne,
    Bool.not_eq_true', Option.isNone_iff_eq_none] at hchecks
  obtain ⟨⟨⟨⟨hs, hnone⟩, hfree⟩, hstill⟩, hentry⟩ := hchecks
  have hunsettled : Unsettled w₀.db order := by
    intro e he
    obtain ⟨hkey, hnames⟩ := hnone e he
    refine ⟨hkey, fun hsettle => ?_⟩
    simp [hsettle.1, hsettle.2] at hnames
  obtain ⟨log, hamid⟩ := Alone.amid hreturns
  exact ⟨w₀, order, c, _, log, result, horder, hreach, hstill, hentry, hamid,
    (settlement_survives horder hs (by decide +kernel) hunsettled hreach).2.1 2 log result _ hfree
      hamid⟩

end ApiScore
