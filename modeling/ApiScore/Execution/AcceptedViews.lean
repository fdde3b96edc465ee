import ApiScore.Execution.AcceptanceFits
import ApiScore.Execution.Compare
import ApiScore.Execution.SettlementAgreement

/-!
# Storing a view, and comparing it again

An acceptance stores what the operator says in decimal columns, and `compareOrder` holds what the
columns give back against what the operator says later, as texts and as numbers.

* `Stored` — an order that was accepted from a view, and perhaps settled from it.
* `Spelled` — a view written as the columns write it.
* `compareOrder_clean_iff` — a stored order raises nothing critical exactly on such views.
-/

set_option autoImplicit false

namespace ApiScore

open Relational Concurrent
open Relation (ReflTransGen)

/-! ## Views of the same amounts -/

/-- The two views report the same acceptance, whatever the spelling of the stake. -/
structure SameTaking (view seen : OperatorOrder) : Prop where
  externalOrderId : seen.externalOrderId = view.externalOrderId
  acceptedOdd : seen.acceptedOdd = view.acceptedOdd
  acceptedStake : seen.acceptedStake.bind toCents = view.acceptedStake.bind toCents

/-- The two views report the same amounts, whatever their spelling. -/
structure SameAmounts (view seen : OperatorOrder) : Prop extends SameTaking view seen where
  payout : seen.payout.bind toCents = view.payout.bind toCents

/-- The view is written as the columns write it: its amounts with two decimals, its odd with three.
The payout is compared only once the order is settled. -/
structure Spelled (settled : Prop) (seen : OperatorOrder) : Prop where
  status : seen.status ≠ .rejected
  acceptedOdd : ∃ millis, seen.acceptedOdd = some (.num (oddValue millis))
  acceptedStake : seen.acceptedStake = (seen.acceptedStake.bind toCents).map decimalText
  payout : settled → seen.payout = (seen.payout.bind toCents).map decimalText

/-- What `settleFromOperator` leaves of an order. -/
def settledStatuses : List OrderStatus := [.settled, .voided]

/-- From the state `w₀`, the order was accepted from the view, and perhaps settled from a view of the
same acceptance; it is read in the state `w`. -/
inductive Stored (S : Setting) (orderId : String) (w₀ : World) :
    OperatorOrder → BetOrder → World → Prop
  | accepted {i : CallId} {view : OperatorOrder} {o : BetOrder} {w : World}
      (h : Returns S.system i (applyAcceptance orderId view) w₀ o w) (hs : o.status = .accepted) :
      Stored S orderId w₀ view o w
  | settled {i : CallId} {view seen : OperatorOrder} {o o' : BetOrder} {w w' : World}
      (hstored : Stored S orderId w₀ view o w) (hsame : SameTaking view seen)
      (hs : o.status = .accepted)
      (h : Returns S.system i (settleFromOperator orderId seen) w o' w')
      (hs' : o'.status ∈ settledStatuses) : Stored S orderId w₀ seen o' w'
  /-- Whatever else has happened, the row is still the same. -/
  | later {view : OperatorOrder} {o : BetOrder} {w w' : World}
      (hstored : Stored S orderId w₀ view o w) (hmoves : ReflTransGen Move w.db w'.db)
      (ho : o ∈ w'.db.orders) : Stored S orderId w₀ view o w'

/-- `compareOrder`, with the receipts and the entries that a run reads for the orders `ids`. -/
def Database.compareWith (db : Database) (o : BetOrder) (seen : OperatorOrder) (ids : List String)
    (tracked : Bool) : List ItemDraft :=
  let receiptIds : List String := ((Query.receiptsOf ids).read db).getD []
  let ledgerKeys : List String := ((Query.entryKeysOf o.accountId ids).read db).getD []
  compareOrder o (some seen) (receiptIds.contains o.id) ledgerKeys tracked

/-! ## What the columns give back -/

theorem oddMillis?_oddValue (millis : Int) : oddMillis? (.num (oddValue millis)) = some millis := by
  have hback : oddValue millis * 1000 = millis := by
    rw [oddValue, div_mul_cancel₀ _ (by norm_num)]
  rw [oddMillis?, JsNumber.finite?, Option.map_some, Option.some.injEq, hback, neg_mul, hback]
  split_ifs with h
  · exact jsRound_int millis
  · rw [← Int.cast_neg, jsRound_int, neg_neg]

/-- An odd is read back as it was written when it has three decimals. -/
theorem oddValue_eq_iff {q : ℚ} {odd : Int} (h : oddMillis? (.num q) = some odd) :
    q = oddValue odd ↔ ∃ millis, q = oddValue millis := by
  refine ⟨fun hq => ⟨odd, hq⟩, ?_⟩
  rintro ⟨millis, rfl⟩
  rw [oddMillis?_oddValue, Option.some.injEq] at h
  rw [h]

section Evidence

variable {db : Database} {o : BetOrder} {ids : List String}

/-- An entry of an order is among the keys that are read for it. -/
theorem Consistent.key_mem {κ : KeyKind} (h : Consistent db) (ho : o ∈ db.orders)
    (hids : o.id ∈ ids) (hκ : κ ≠ .opening) (hhas : db.Has κ o.idempotencyKey) :
    κ.key o.idempotencyKey ∈
      (((Query.entryKeysOf o.accountId ids).read db).getD [] : List String) := by
  obtain ⟨e, he, hkey⟩ := hhas
  rcases h.entries e he with ⟨a, -, hopen⟩ | ⟨x, hx, hof⟩
  · exact absurd (KeyKind.key_inj.1 (hkey.symm.trans hopen)).1 hκ
  · obtain ⟨κ', -, hkey'⟩ := hof.entryKey
    obtain rfl := order_eq_of_key ho hx (KeyKind.key_inj.1 (hkey.symm.trans hkey')).2
    refine List.mem_map.2 ⟨e, Table.mem_select.2 ⟨he, ?_⟩, hkey⟩
    simp [hof.accountId, hof.orderId, hids]

/-- The receipt of an order the operator has taken is among those that are read. -/
theorem Consistent.receipt_mem (h : Consistent db) (ho : o ∈ db.orders) (hids : o.id ∈ ids)
    (hs : o.status ∈ takenStatuses) :
    o.id ∈ (((Query.receiptsOf ids).read db).getD [] : List String) := by
  obtain ⟨r, hr, hid⟩ := (h.orders o ho).receipt hs
  exact List.mem_map.2 ⟨r, Table.mem_select.2 ⟨hr, by simp [hid, hids]⟩, hid⟩

end Evidence

/-- With its receipt and its entries there, an order that is taken raises something critical only
where the view is not what is stored. -/
theorem compareTaken_clean_iff {o : BetOrder} {seen : OperatorOrder} {keys : List String}
    {tracked : Bool} (hreserve : KeyKind.key .reserve o.idempotencyKey ∈ keys)
    (hsettle : o.status ≠ .accepted → KeyKind.key .settle o.idempotencyKey ∈ keys) :
    (∀ d ∈ compareTaken o (some seen) true keys tracked, d.severity ≠ .critical) ↔
      sameAcceptance o seen = true ∧ seen.status ≠ .rejected ∧
        (o.status ≠ .accepted → seen.payout = o.payout.map decimalText) := by
  have hkept : o.status = .accepted ∨
      keys.contains (KeyKind.key .settle o.idempotencyKey) = true := by
    rw [List.contains_iff_mem]
    exact Classical.or_iff_not_imp_left.2 hsettle
  rw [compareTaken, if_pos rfl, if_pos (List.contains_iff_mem.2 hreserve), if_pos hkept,
    List.append_nil, List.append_nil, List.append_nil, List.forall_mem_append,
    List.forall_mem_singleton]
  simp only [Option.all_some, beq_iff_eq, ← and_assoc]
  refine and_congr ?_ ?_
  · split_ifs with h
    · simp only [item, ne_eq, not_true_eq_false, false_iff]
      tauto
    · simp only [item, ne_eq, reduceCtorEq, not_false_eq_true, true_iff]
      tauto
  · split_ifs with h
    · exact iff_of_true (fun d hd => nomatch hd) fun hs => h.resolve_left hs
    · rw [List.forall_mem_singleton]
      simp only [item, ne_eq, not_true_eq_false, false_iff]
      tauto

/-! ## What is stored -/

/-- The row has what the view reports, and its tables agree with it. -/
structure KeptView (orderId : String) (view : OperatorOrder) (o : BetOrder) (db : Database) :
    Prop where
  consistent : Consistent db
  mem : o ∈ db.orders
  id : o.id = orderId
  taken : o.status ∈ takenStatuses
  externalOrderId : o.externalOrderId = view.externalOrderId
  acceptedOdd : ∃ q odd, view.acceptedOdd = some (.num q) ∧ oddMillis? (.num q) = some odd ∧
    o.acceptedOdd = some odd
  acceptedStake : ∃ stake, view.acceptedStake.bind toCents = some stake ∧
    o.acceptedStake = some stake
  payout : o.status ≠ .accepted → ∃ payout, view.payout.bind toCents = some payout ∧
    o.payout = some payout

section Calls

variable {S : Setting} {i : CallId} {w w' : World} {orderId : String} {op view : OperatorOrder}
  {o result : BetOrder}

/-- A call that returns the order as accepted has stored what the view reports. -/
theorem applyAcceptance_kept (hinv : Consistent w.db) (ho : o ∈ w.db.orders)
    (hs : o.status ∈ releasableStatuses)
    (h : Returns S.system i (applyAcceptance o.id op) w result w')
    (haccepted : result.status = .accepted) : KeptView o.id op result w'.db := by
  obtain ⟨stop, env, db, control, hbody, hdb', hread⟩ := applyAcceptance_cases (quiet_of_alone h)
  obtain ⟨hmem, hid⟩ := order?_eq_some hread
  have horders : w'.db.orders = db.orders := by rw [hdb']
  rw [horders] at hmem
  have hleft : ∀ {x : BetOrder}, x ∈ db.orders → x.id = o.id → result = x := fun hx hxid =>
    order_eq_of_id hmem hx (hid.trans hxid.symm)
  rcases acceptanceTx_spec hbody with ⟨rfl, x, hx, hxid, hxs⟩ | ⟨x, hx, hxid, -, hmove, hrest⟩
  · rw [order_eq_of_id hx ho hxid] at hxs
    exact (hxs hs).elim
  obtain rfl := order_eq_of_id hx ho hxid
  rcases hrest with ⟨reason, hrw⟩ | ⟨odd, stake, hash, hhonours, hrw⟩
  · rw [hleft (hrw.mem_of_rewritten (List.mem_singleton_self x)) rfl] at haccepted
    cases haccepted
  · obtain rfl := hleft (hrw.mem_of_rewritten (List.mem_singleton_self x)) rfl
    obtain ⟨q, hq, hodd, -⟩ := hhonours.acceptedOdd
    obtain ⟨text, htext, -, hcents⟩ := hhonours.acceptedStake
    refine ⟨?_, horders ▸ hmem, rfl, by simp [haccepted, takenStatuses], rfl,
      ⟨q, odd, hq, hodd, rfl⟩, ⟨stake, by rw [htext]; exact hcents, rfl⟩,
      fun hne => (hne haccepted).elim⟩
    rw [hdb']
    exact (hinv.move hmove).congr ⟨rfl, rfl⟩ rfl rfl

/-- A call that returns the order as settled has stored the payout besides. -/
theorem settleFromOperator_kept (hkept : KeptView orderId view o w.db) (hsame : SameTaking view op)
    (hs : o.status = .accepted) (h : Returns S.system i (settleFromOperator orderId op) w result w')
    (hsettled : result.status ∈ settledStatuses) : KeptView orderId op result w'.db := by
  obtain rfl := hkept.id
  obtain ⟨stake, hstake, hostake⟩ := hkept.acceptedStake
  rcases settleFromOperator_cases (order?_of_mem hkept.mem) hs
      (quiet_of_alone h) with ⟨-, rfl⟩ |
    ⟨text, stake', payout, _, control, _, db, env', db', hset, hcents, hstake', hbody, hbody', hdb',
      hread⟩
  · simp [hs, settledStatuses] at hsettled
  obtain rfl := Option.some.inj (hostake.symm.trans hstake')
  obtain ⟨hmove, hhas, horders⟩ := settleStakeTx_move hkept.mem hkept.taken hostake hbody
  have ho : o ∈ ({ db with control } : Database).orders := horders ▸ hkept.mem
  have hmove' : Move { db with control } db' := settleOrderTx_move (fun x hx hxid => by
    rw [order_eq_of_id hx ho hxid]
    exact hhas) hbody'
  have hinv : Consistent { db with control } :=
    (hkept.consistent.move hmove).congr ⟨rfl, rfl⟩ rfl rfl
  obtain ⟨hmem, hid⟩ := order?_eq_some hread
  rcases settleOrderTx_spec hbody' with ⟨-, x, hx, hxid, hxs⟩ | ⟨x, hx, hxid, -, -, -, hrw⟩
  · rw [order_eq_of_id hx ho hxid] at hxs
    exact (hxs hs).elim
  obtain rfl := order_eq_of_id hx ho hxid
  obtain rfl := order_eq_of_id hmem (hrw.mem_of_rewritten (List.mem_singleton_self x)) hid
  obtain ⟨q, odd, hq, hodd, hoodd⟩ := hkept.acceptedOdd
  have htext : op.payout = some text := by
    rw [OperatorOrder.settlement?] at hset
    split_ifs at hset
    exact (Option.filter_eq_some_iff.1 hset).1
  rw [hdb']
  exact ⟨hinv.move hmove', hmem, rfl, List.mem_cons_of_mem _ hsettled,
    hkept.externalOrderId.trans hsame.externalOrderId.symm,
    ⟨q, odd, hsame.acceptedOdd.trans hq, hodd, hoodd⟩,
    ⟨stake, hsame.acceptedStake.trans hstake, hostake⟩,
    fun _ => ⟨payout, by rw [htext]; exact hcents, rfl⟩⟩

end Calls

/-- **Whatever was stored from a view is still what the view reports.** -/
theorem Stored.kept {S : Setting} {order o : BetOrder} {view : OperatorOrder} {w₀ w : World}
    (hinv : Consistent w₀.db) (ho : order ∈ w₀.db.orders) (hs : order.status ∈ releasableStatuses)
    (h : Stored S order.id w₀ view o w) : KeptView order.id view o w.db := by
  induction h with
  | accepted hcall haccepted => exact applyAcceptance_kept hinv ho hs hcall haccepted
  | settled _ hsame haccepted hcall hsettled ih =>
    exact settleFromOperator_kept ih hsame haccepted hcall hsettled
  | later _ hmoves hmem ih => exact { ih with consistent := ih.consistent.moves hmoves, mem := hmem }

/-! ## The comparison -/

section Compare

variable {orderId : String} {view seen : OperatorOrder} {o : BetOrder} {db : Database}
  {ids : List String} {tracked : Bool}

/-- The columns give the acceptance back as the view has it when they can hold how it is written. -/
theorem KeptView.sameAcceptance_iff (h : KeptView orderId view o db) (hsame : SameTaking view seen) :
    sameAcceptance o seen = true ↔ (∃ millis, seen.acceptedOdd = some (.num (oddValue millis))) ∧
      seen.acceptedStake = (seen.acceptedStake.bind toCents).map decimalText := by
  obtain ⟨q, odd, hq, hodd, hoodd⟩ := h.acceptedOdd
  obtain ⟨stake, hstake, hostake⟩ := h.acceptedStake
  have hback := oddValue_eq_iff hodd
  simp only [sameAcceptance, Bool.and_eq_true, beq_iff_eq, hsame.externalOrderId, h.externalOrderId,
    hsame.acceptedOdd, hq, hoodd, hsame.acceptedStake, hstake, hostake, Option.map_some, true_and,
    Option.some.injEq, JsNumber.num.injEq, hback]
  exact and_comm

/-- **A stored order raises nothing critical exactly on the views that are written as it is.** -/
theorem KeptView.clean_iff (h : KeptView orderId view o db) (hsame : SameAmounts view seen)
    (hids : o.id ∈ ids) : (∀ d ∈ db.compareWith o seen ids tracked, d.severity ≠ .critical) ↔
      Spelled (o.status ≠ .accepted) seen := by
  have hok := h.consistent.orders o h.mem
  have hclosed : o.status ≠ .accepted → o.status ∈ settledStatuses := fun hne =>
    (List.mem_cons.1 h.taken).resolve_left hne
  have hreserved : o.status ≠ .rejected := fun hs => absurd (hs ▸ h.taken) (by decide)
  have hcompare : db.compareWith o seen ids tracked = compareTaken o (some seen) true
      (((Query.entryKeysOf o.accountId ids).read db).getD []) tracked := by
    rw [Database.compareWith, List.contains_iff_mem.2 (h.consistent.receipt_mem h.mem hids h.taken)]
    have ht := h.taken
    simp only [takenStatuses, List.mem_cons, List.not_mem_nil, or_false] at ht
    rcases ht with ht | ht | ht <;> rw [compareOrder, ht]
  rw [hcompare, compareTaken_clean_iff
    (h.consistent.key_mem h.mem hids (by simp) (hok.reserved hreserved))
    fun hne => h.consistent.key_mem h.mem hids (by simp) (hok.closed (hclosed hne)),
    h.sameAcceptance_iff hsame.toSameTaking]
  have hpayout : o.status ≠ .accepted → (seen.payout = o.payout.map decimalText ↔
      seen.payout = (seen.payout.bind toCents).map decimalText) := fun hne => by
    obtain ⟨payout, hpaid, hopaid⟩ := h.payout hne
    rw [hsame.payout, hpaid, hopaid]
  constructor
  · rintro ⟨⟨hodd, hstake⟩, hstatus, hpaid⟩
    exact ⟨hstatus, hodd, hstake, fun hne => (hpayout hne).1 (hpaid hne)⟩
  · rintro ⟨hstatus, hodd, hstake, hpaid⟩
    exact ⟨⟨hodd, hstake⟩, hstatus, fun hne => (hpayout hne).2 (hpaid hne)⟩

end Compare

/-- **When an order that was stored compares clean**: in every run, an order that `applyAcceptance`
accepted, and that `settleFromOperator` perhaps settled, raises nothing critical against a view of the
same amounts if and only if the view is written as the columns write it. -/
theorem compareOrder_clean_iff {S : Setting} {controlId : String} {clock : Int}
    {funds : String → String → OperatorBalance} {c : Run} {order o : BetOrder}
    {view seen : OperatorOrder} {w : World} {ids : List String} {tracked : Bool}
    (h : Reachable S.system (.init (.init (.migrated controlId) clock funds)) c)
    (ho : order ∈ c.state.db.orders) (hs : order.status ∈ releasableStatuses)
    (hstored : Stored S order.id c.state view o w) (hsame : SameAmounts view seen)
    (hids : o.id ∈ ids) : (∀ d ∈ w.db.compareWith o seen ids tracked, d.severity ≠ .critical) ↔
      Spelled (o.status ≠ .accepted) seen :=
  (hstored.kept (recorded_reachable h).consistent ho hs).clean_iff hsame hids

/-! ## A sample -/

namespace Sample

/-- The bet of the sample, reported as accepted with this stake. -/
def taken (stake : String) : OperatorOrder :=
  { acceptance.toOperatorOrder with acceptedStake := some stake }

/-- The order that the operator did not answer for is accepted from this view. -/
def stored (view : OperatorOrder) : Option (Run × BetOrder × BetOrder × World) := do
  let c ← scene.replay (enabled ++ doubtful) initial
  let order ← c.state.db.order? "order"
  let (r, w) ← scene.alone 5 (applyAcceptance order.id view).run [.at 1000 "", .at 1000 ""] c.state
  return (c, order, ← r.toOption, w)

theorem stored_spec {view : OperatorOrder} {c : Run} {order o : BetOrder} {w : World}
    (h : stored view = some (c, order, o, w)) :
    Reachable scene.setting.system initial c ∧ order ∈ c.state.db.orders ∧
      Returns scene.setting.system 5 (applyAcceptance order.id view) c.state o w := by
  simp only [stored, Option.bind_eq_bind, Option.bind_eq_some_iff] at h
  obtain ⟨c₁, hc, order₁, ho, ⟨r, w₁⟩, hrun, o₁, hr, h⟩ := h
  obtain ⟨rfl, rfl, rfl, rfl⟩ : c₁ = c ∧ order₁ = order ∧ o₁ = o ∧ w₁ = w := by simpa using h
  cases r with
  | error e => cases hr
  | ok x =>
    obtain rfl := Option.some.inj hr
    exact ⟨Scene.replay_reachable .init hc, (order?_eq_some ho).1, Scene.alone_spec hrun⟩

/-- The order is settled besides, from the same view. -/
def paid (view : OperatorOrder) : Option (Run × BetOrder × BetOrder × BetOrder × World × World) := do
  let (c, order, o, w) ← stored view
  let (r, w') ← scene.alone 6 (settleFromOperator order.id view).run
    (List.replicate 4 (.at 1000 "")) w
  return (c, order, o, ← r.toOption, w, w')

theorem paid_spec {view : OperatorOrder} {c : Run} {order o o' : BetOrder} {w w' : World}
    (h : paid view = some (c, order, o, o', w, w')) : stored view = some (c, order, o, w) ∧
      Returns scene.setting.system 6 (settleFromOperator order.id view) w o' w' := by
  simp only [paid, Option.bind_eq_bind, Option.bind_eq_some_iff] at h
  obtain ⟨⟨c₁, order₁, o₁, w₁⟩, hstored, ⟨r, w₂⟩, hrun, o₂, hr, h⟩ := h
  obtain ⟨rfl, rfl, rfl, rfl, rfl, rfl⟩ :
      c₁ = c ∧ order₁ = order ∧ o₁ = o ∧ o₂ = o' ∧ w₁ = w ∧ w₂ = w' := by simpa using h
  cases r with
  | error e => cases hr
  | ok x =>
    obtain rfl := Option.some.inj hr
    exact ⟨hstored, Scene.alone_spec hrun⟩

end Sample

/-- The bet of the sample, accepted and won, and written as the columns write it. -/
theorem compareOrder_clean_won : ∃ (c : Run) (order o : BetOrder) (w : World),
    order ∈ c.state.db.orders ∧ o.status = .settled ∧
      ∀ d ∈ w.db.compareWith o (Sample.reportedWon (some "12.00")) [o.id] true,
        d.severity ≠ .critical := by
  have hrun : ((Sample.paid (Sample.reportedWon (some "12.00"))).any fun r =>
      r.2.1.status == .unknown && r.2.2.1.status == .accepted &&
        r.2.2.2.1.status == .settled) = true := by
    decide +kernel
  obtain ⟨⟨c, order, o, o', w, w'⟩, hsome, hchecks⟩ := (Option.any_eq_true _ _).1 hrun
  simp only [Bool.and_eq_true, beq_iff_eq] at hchecks
  obtain ⟨⟨hs, haccepted⟩, hsettled⟩ := hchecks
  obtain ⟨hstored, hpaid⟩ := Sample.paid_spec hsome
  obtain ⟨hreach, ho, hcall⟩ := Sample.stored_spec hstored
  refine ⟨c, order, o', w', ho, hsettled, (compareOrder_clean_iff hreach ho ?_
    (.settled (.accepted hcall haccepted) ⟨rfl, rfl, rfl⟩ haccepted hpaid ?_) ⟨⟨rfl, rfl, rfl⟩, rfl⟩
    (List.mem_singleton_self _)).2 ⟨?_, ⟨2000, ?_⟩, ?_, fun _ => ?_⟩⟩
  · simp [hs, releasableStatuses]
  · simp [hsettled, settledStatuses]
  · decide
  · decide +kernel
  · decide +kernel
  · decide +kernel

/-- **A stake of 6 is stored as 6.00, and no longer compares with itself.** -/
theorem stake_six_differs : ∃ (c : Run) (order o : BetOrder) (w : World),
    Reachable Sample.scene.setting.system Sample.initial c ∧ order ∈ c.state.db.orders ∧
      order.status = .unknown ∧
      Returns Sample.scene.setting.system 5 (applyAcceptance order.id (Sample.taken "6")) c.state o w ∧
      o.status = .accepted ∧
      ∃ d ∈ w.db.compareWith o (Sample.taken "6") [o.id] true, d.severity = .critical := by
  have hrun : ((Sample.stored (Sample.taken "6")).any fun r => r.2.1.status == .unknown &&
      r.2.2.1.status == .accepted && (r.2.2.2.db.compareWith r.2.2.1 (Sample.taken "6") [r.2.2.1.id]
        true).any fun d => d.severity == .critical) = true := by
    decide +kernel
  obtain ⟨⟨c, order, o, w⟩, hsome, hchecks⟩ := (Option.any_eq_true _ _).1 hrun
  simp only [Bool.and_eq_true, beq_iff_eq, List.any_eq_true] at hchecks
  obtain ⟨⟨hs, haccepted⟩, hcritical⟩ := hchecks
  obtain ⟨hreach, ho, hcall⟩ := Sample.stored_spec hsome
  exact ⟨c, order, o, w, hreach, ho, hs, hcall, haccepted, hcritical⟩

end ApiScore
