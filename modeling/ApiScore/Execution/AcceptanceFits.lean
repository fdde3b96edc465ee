import ApiScore.Execution.Commits
import ApiScore.Execution.UnknownTruth

/-!
# When an acceptance goes through

`acceptanceViolation` hands an order to a human where the view of the operator breaks the contract.
What it lets pass is written to five tables, and whatever one of them does not hold rolls the whole
transaction back.

* `Recorded` — what every run keeps of the ledger, the orders and the receipts.
* `Fits` — the tables hold what the acceptance writes.
* `recordAcceptance_accepted_iff`, `violateAcceptance_accepted` — when the transaction commits.
* `applyAcceptance_lands_iff` — the call: accepted, or handed to a human with the execution stopped.
* `applyAcceptance_undated` — an order reported as accepted, with no instant.
-/

set_option autoImplicit false

namespace ApiScore

open Relational Concurrent
open Relation (ReflTransGen)

/-! ## What every run keeps -/

section Runs

variable {db db' : Database}

theorem LedgersSound.posted (hs : LedgersSound db) {a a' : BankrollAccount}
    {inputs : List AppendInput} (ha : a ∈ db.accounts) (h : Posted db a inputs a' db') :
    LedgersSound db' := by
  obtain ⟨rows, dbNow, hrec, -⟩ := h
  exact hs.records ha hrec

/-- **Every move keeps every account sound.** -/
theorem LedgersSound.of_move (hs : LedgersSound db) (h : Move db db') : LedgersSound db' := by
  cases h with
  | aside hl | refuseNew _ _ _ hl | quiet _ _ _ hl | refuse _ _ _ _ _ hl =>
    exact hs.congr hl.accounts hl.entries
  | @account a ht hb hv he =>
    exact (hs.insertAccount ht hb hv).congr rfl he
  | credit ha hposted | reserve _ _ ha _ hposted | release _ _ _ _ ha _ hposted
  | settleStake _ _ _ ha _ hposted => exact hs.posted ha hposted
  | accept _ _ _ _ hpart =>
    rcases hpart with ⟨-, hl⟩ | ⟨-, a, a', ha, -, hposted⟩
    · exact hs.congr hl.accounts hl.entries
    · exact hs.posted ha hposted

/-- Every receipt is of an order the operator has taken. -/
def Receipted (db : Database) : Prop :=
  ∀ r ∈ db.receipts, ∃ o ∈ db.orders, o.id = r.orderId ∧ o.status ∈ takenStatuses

/-- A receipt is written with the order it is of. -/
theorem Move.receipt (h : Move db db') {r : BetReceipt} (hr : r ∈ db'.receipts) :
    r ∈ db.receipts ∨ ∃ o ∈ db'.orders, o.id = r.orderId ∧ o.status = .accepted := by
  cases h with
  | aside _ _ hreceipts | account _ _ _ _ _ hreceipts | credit _ _ _ _ _ hreceipts
  | reserve _ _ _ _ _ hreceipts | refuseNew _ _ _ _ hreceipts | quiet _ _ _ _ hreceipts
  | release _ _ _ _ _ _ _ hreceipts | refuse _ _ _ _ _ _ hreceipts
  | settleStake _ _ _ _ _ _ _ hreceipts => exact .inl (hreceipts ▸ hr)
  | @accept o f accepted odd stake hash env hrw hf _ _ _ hreceipts =>
    rw [Table.mem_def, hreceipts, List.mem_append, List.mem_singleton] at hr
    rcases hr with hr | rfl
    · exact .inl hr
    · refine .inr ⟨f o, hrw.mem_of_rewritten (List.mem_singleton_self o), ?_, ?_⟩
      · rw [hf]
        rfl
      · rw [hf]
        rfl

theorem Receipted.move (hs : Receipted db) (h : Move db db') : Receipted db' := by
  intro r hr
  rcases h.receipt hr with hr | ⟨o, ho, hid, hstatus⟩
  · obtain ⟨o, ho, hid, ht⟩ := hs r hr
    obtain ⟨x, hx, hb⟩ := h.evolves.orders o ho
    exact ⟨x, hx, hb.same.id.trans hid, (hb.taken ht).1⟩
  · exact ⟨o, ho, hid, by simp [hstatus, takenStatuses]⟩

/-- What every run keeps of the ledger, the orders and the receipts. -/
structure Recorded (db : Database) : Prop where
  consistent : Consistent db
  ledgers : LedgersSound db
  receipts : Receipted db

theorem Recorded.moves (h : Recorded db) (hm : ReflTransGen Move db db') : Recorded db' := by
  induction hm with
  | refl => exact h
  | tail _ hmove ih =>
    exact ⟨ih.consistent.move hmove, ih.ledgers.of_move hmove, ih.receipts.move hmove⟩

theorem recorded_reachable {S : Setting} {controlId : String} {clock : Int}
    {funds : String → String → OperatorBalance} {c : Run}
    (h : Reachable S.system (.init (.init (.migrated controlId) clock funds)) c) :
    Recorded c.state.db := by
  refine Setting.sound_invariant (I := fun w => Recorded w.db) ?_ ?_ (fun _ _ h => h) ?_ h
  · intro i a b w w' hinv hpre hs
    exact hinv.moves (hs.moves hpre.1)
  · rintro w w' ⟨clock, book, funds, db, -, -, hout, rfl⟩ hinv
    rw [Outside] at hout
    refine ⟨hinv.consistent.outside hout, hinv.ledgers.congr ?_ ?_, ?_⟩
    · rw [hout]
    · rw [hout]
    · show Receipted db
      rw [hout]
      exact hinv.receipts
  · exact ⟨Consistent.migrated controlId, .of_empty rfl rfl, fun r hr => by cases hr⟩

end Runs

section Held

variable {db : Database}

theorem exposure_nonneg {o : BetOrder} (ho : o ∈ db.orders) : 0 ≤ db.exposure o := by
  have hcheck := db.orders.checked o ho
  simp only [orderSchema, Bool.and_eq_true, decide_eq_true_eq] at hcheck
  obtain ⟨⟨⟨⟨⟨⟨⟨⟨⟨⟨⟨⟨hasked, -⟩, -⟩, htaken⟩, -⟩, -⟩, -⟩, -⟩, -⟩, -⟩, -⟩, -⟩, -⟩ := hcheck
  have hstake : 0 ≤ o.acceptedStake.getD 0 := by
    cases hs : o.acceptedStake with
    | none => exact le_refl _
    | some s =>
      rw [hs, Option.all_some, Bool.and_eq_true, decide_eq_true_eq] at htaken
      exact htaken.1.le
  rw [Database.exposure]
  split
  · exact hasked.le
  · exact hasked.le
  · exact hasked.le
  · exact hasked.le
  · split_ifs
    · exact le_refl _
    · exact hstake
  all_goals exact le_refl _

/-- **An account holds all that an order that is not decided has asked for.** -/
theorem Consistent.held (h : Consistent db) {a : BankrollAccount} (ha : a ∈ db.accounts)
    {o : BetOrder} (ho : o ∈ db.orders) (haid : a.id = o.accountId)
    (hs : o.status ∈ releasableStatuses) : o.requestedStake ≤ a.reservedBalance := by
  have hexposure : db.exposure o = o.requestedStake :=
    exposure_of_pending (pending_of_releasable hs)
  rw [h.balanced a ha, ← hexposure]
  have hle := Table.le_sumBy (t := db.orders)
    (f := fun x => if x.accountId = a.id then db.exposure x else 0) (fun x hx => ?_) ho
  · simp only [haid, if_true] at hle
    rw [Database.exposureOf, haid]
    exact hle
  · split_ifs
    · exact exposure_nonneg hx
    · exact le_refl _

end Held

/-! ## What the tables hold -/

/-- **The tables hold what an acceptance writes.** -/
structure Fits (db : Database) (order : BetOrder) (op : OperatorOrder) : Prop where
  /-- `chk_bet_orders_accepted` asks for an instant. -/
  acceptedAt : op.acceptedAt.isSome = true
  /-- `varchar(128)`. -/
  externalOrderId : (op.externalOrderId.all fun ref => decide (ref.length ≤ 128)) = true
  /-- `decimal(8,3)`, on the order and on its decision. -/
  acceptedOdd : ∃ q millis, op.acceptedOdd = some (.num q) ∧ oddMillis? (.num q) = some millis ∧
    fitsDecimal8 millis = true
  /-- The decision is there, and so is the room for its slippage, `decimal(9,4)`. -/
  slippage : ∃ d, db.decision? order.decisionId = some d ∧ ∀ q, op.acceptedOdd = some (.num q) →
    ∀ s, (d.executed q 0 0).slippagePct = some s → |s| ≤ 10 ^ 9 - 1
  /-- The ledger can give back what was not taken. -/
  unused : ∀ a stake, db.account? order.accountId = some a →
    op.acceptedStake.bind toCents = some stake → stake < order.requestedStake →
      Returnable order stake a

section Checks

variable {P : Platform} {env : TxEnv} {o : BetOrder} {op : OperatorOrder}

theorem dispute_check {reason : String} {now : Int} (h : orderSchema.check o = true) :
    orderSchema.check ((o.dispute reason now).touched env) = true := by
  simp only [orderSchema, BetOrder.touched, BetOrder.dispute, Bool.and_eq_true] at h ⊢
  simp only [h, and_self, and_true, true_and]
  exact ⟨rfl, rfl⟩

theorem accept_check_iff {millis stake : Int} (h : orderSchema.check o = true)
    (hext : op.externalOrderId.isSome = true) (hpos : 0 < stake) (hle : stake ≤ o.requestedStake) :
    orderSchema.check ((o.accept op millis stake).touched env) = true ↔
      op.acceptedAt.isSome = true ∧
        (op.externalOrderId.all fun ref => decide (ref.length ≤ 128)) = true ∧
        fitsDecimal8 millis = true := by
  simp only [orderSchema, BetOrder.touched, BetOrder.accept, Bool.and_eq_true] at h ⊢
  simp [h, hext, hpos, hle]
  tauto

theorem executed_check_iff {d : BetDecision} {q : ℚ} {millis now : Int}
    (h : decisionSchema.check d = true) :
    decisionSchema.check (d.executed q millis now) = true ↔ fitsDecimal8 millis = true ∧
      ∀ s, (d.executed q 0 0).slippagePct = some s → |s| ≤ 10 ^ 9 - 1 := by
  have hslippage : (d.executed q millis now).slippagePct = (d.executed q 0 0).slippagePct := rfl
  have hall : ((d.executed q 0 0).slippagePct.all fun s => decide (|s| ≤ 10 ^ 9 - 1)) = true ↔
      ∀ s, (d.executed q 0 0).slippagePct = some s → |s| ≤ 10 ^ 9 - 1 := by
    rw [Option.all_eq_true]
    simp only [decide_eq_true_eq]
  rw [← hall, ← hslippage]
  simp only [decisionSchema, Bool.and_eq_true] at h ⊢
  obtain ⟨⟨⟨⟨⟨⟨⟨h₁, h₂⟩, h₃⟩, h₄⟩, h₅⟩, h₆⟩, -⟩, -⟩ := h
  have hcompleted : (!d.status == .completed || d.outcome.isSome && d.profit.isSome &&
      d.settledAt.isSome && (some millis).isSome) = true := by
    rw [Bool.or_eq_true] at h₄ ⊢
    refine h₄.imp_right fun h => ?_
    simp only [Bool.and_eq_true] at h ⊢
    exact ⟨h.1, rfl⟩
  constructor
  · rintro ⟨⟨-, hodd⟩, hs⟩
    exact ⟨hodd, hs⟩
  · rintro ⟨hodd, hs⟩
    exact ⟨⟨⟨⟨⟨⟨⟨h₁, h₂⟩, h₃⟩, hcompleted⟩, h₅⟩, h₆⟩, hodd⟩, hs⟩

/-- What `acceptanceViolation` has checked. -/
theorem passed_of_no_violation (hv : acceptanceViolation P o op = none) :
    ∃ hash ref stake, op.receiptHash = some hash ∧ op.externalOrderId = some ref ∧
      op.acceptedStake.bind toCents = some stake ∧ 0 < stake ∧ stake ≤ o.requestedStake := by
  simp only [acceptanceViolation] at hv
  split_ifs at hv with h₁ h₂ h₃ h₄
  obtain ⟨hash, hhash, -⟩ := (Option.any_eq_true _ _).1 h₁
  obtain ⟨stake, hstake, hbounds⟩ := (Option.any_eq_true _ _).1 h₄
  obtain ⟨text, htext, hcents⟩ := Option.bind_eq_some_iff.1 hstake
  rw [decide_eq_true_eq] at hbounds
  cases hext : op.externalOrderId with
  | none => simp [hext] at h₂
  | some ref =>
    refine ⟨hash, ref, stake, hhash, rfl, ?_, hbounds⟩
    rw [htext, Option.bind_some]
    split_ifs at hcents
    exact hcents

theorem acceptedOdd_of_finite {q : ℚ} (h : op.acceptedOdd.bind (·.finite?) = some q) :
    op.acceptedOdd = some (.num q) := by
  obtain ⟨x, hx, hfin⟩ := Option.bind_eq_some_iff.1 h
  cases x with
  | num r => rw [hx, ← Option.some.inj hfin]
  | inf | negInf | nan => cases hfin

end Checks

/-! ## The transaction -/

section Transaction

variable {P : Platform} {env : TxEnv} {db : Database} {o : BetOrder} {op : OperatorOrder}

theorem get!_some {α : Type} {e : ServiceError} {x : Option α} {a : α} (h : x = some a) :
    (DbTx.get! e x : DbTx α) = pure a := by rw [h]; rfl

/-- The last statements: the decision is read, and gets its executed odd. -/
theorem updateExecuted_accepted_iff {q : ℚ} {millis now : Int} {id : String} :
    Tx.Accepted (do
      let _ ← DbTx.get! (.other "Décision introuvable") (← DbTx.read fun db => db.decision? id)
      updateDecisions (fun d => d.id == id) (·.executed q millis now)) db ↔
        ∃ d, db.decision? id = some d ∧ decisionSchema.check (d.executed q millis now) = true := by
  have hread : Tx.Accepted (DbTx.read fun db : Database => db.decision? id) db := ⟨_, rfl⟩
  rw [Tx.accepted_bind_iff (C := ∃ d, db.decision? id = some d ∧
    decisionSchema.check (d.executed q millis now) = true) ?_, and_iff_right hread]
  intro x s hx
  obtain ⟨rfl, rfl⟩ := Prod.mk.inj (DbTx.read_eq_ok.1 hx)
  cases hd : s.decision? id with
  | none =>
    refine ⟨fun hacc => ?_, fun ⟨_, hnone, _⟩ => (nomatch hnone)⟩
    obtain ⟨r, hr⟩ := hacc
    obtain ⟨_, _, hget, -⟩ := Tx.bind_eq_ok.1 hr
    obtain ⟨_, hnone, -⟩ := DbTx.get!_eq_ok.1 hget
    cases hnone
  | some d =>
    have hmem : d ∈ s.decisions := Table.mem_of_find? hd
    have hid : d.id = id := by simpa using Table.of_find? hd
    rw [get!_some rfl, pure_bind, ← hid, updateDecision_accepted_iff hmem ⟨rfl, rfl⟩]
    simp

/-- The receipt is written. -/
theorem insertReceipt_accepted (h : Recorded db) (ho : o ∈ db.orders)
    (hs : o.status ∈ releasableStatuses) {hash : String}
    (hreceipt : ∀ r ∈ db.receipts, r.receiptHash ≠ hash) :
    Tx.Accepted (insertReceipt { orderId := o.id, receiptHash := hash }) db := by
  refine insertReceipt_accepted_iff.2 ⟨by rw [order?_of_mem ho]; rfl, fun r hr => ?_⟩
  have hother : r.orderId ≠ o.id := by
    intro hid
    obtain ⟨x, hx, hxid, ht⟩ := h.receipts r hr
    rw [order_eq_of_id hx ho (hxid.trans hid)] at ht
    exact (not_taken_of_pending (pending_of_releasable hs)).1 ht
  simp [receiptSchema, hother, hreceipt r hr]

/-- The order is updated, if its row fits. -/
theorem accept_accepted_iff {ref : String} {millis stake : Int} (ho : o ∈ db.orders)
    (href : op.externalOrderId = some ref) (hpos : 0 < stake) (hle : stake ≤ o.requestedStake)
    (hreference : ∀ x ∈ db.orders, x.operatorKey = o.operatorKey → x.externalOrderId ≠ some ref) :
    Tx.Accepted (transition o (·.accept op millis stake) env) db ↔ op.acceptedAt.isSome = true ∧
      (op.externalOrderId.all fun ref => decide (ref.length ≤ 128)) = true ∧
      fitsDecimal8 millis = true := by
  have hclash : ∀ x ∈ db.orders, x ≠ o →
      orderSchema.clash x ((o.accept op millis stake).touched env) = false := by
    intro x hx hne
    have hold : orderSchema.clash x o = false :=
      Bool.eq_false_iff.2 fun hc => hne (Table.eq_of_clash hx ho hc)
    have hfree := hreference x hx
    simp only [orderSchema, Bool.or_eq_false_iff] at hold
    simp only [orderSchema, BetOrder.touched, BetOrder.accept, Bool.or_eq_false_iff]
    refine ⟨hold.1, ?_⟩
    simp only [href, Bool.and_eq_false_imp, beq_iff_eq, beq_eq_false_iff_ne, Bool.and_eq_true]
    exact fun hkey => hfree hkey.1
  rw [transition_accepted_iff ho, and_iff_right hclash]
  exact accept_check_iff (db.orders.checked o ho) (by rw [href]; rfl) hpos hle

/-- What was not taken is given back, if the ledger can. -/
theorem giveBack_accepted_iff {s : Database} {a : BankrollAccount} {stake : Int} (h : Recorded db)
    (ho : o ∈ db.orders) (hs : o.status ∈ releasableStatuses) (ha : a ∈ db.accounts)
    (haid : a.id = o.accountId) (hpos : 0 < stake) (haccounts : s.accounts = db.accounts)
    (hentries : s.entries = db.entries) (hrow : (s.order? o.id).isSome = true) :
    Tx.Accepted (releaseUnused o stake env) s ↔
      (stake < o.requestedStake → Returnable o stake a) := by
  have hok := h.consistent.orders o ho
  have hasked : o.requestedStake ≤ maxDecimal14 := by
    have hcheck := db.orders.checked o ho
    simp only [orderSchema, Bool.and_eq_true, fitsDecimal14, decide_eq_true_eq] at hcheck
    exact (le_abs_self _).trans hcheck.1.1.1.1.2
  have hmem : a ∈ s.accounts := haccounts ▸ ha
  refine releaseUnused_accepted_iff ((h.ledgers.congr haccounts hentries).accounts a hmem) hmem haid
    hrow ?_ ?_ hpos hasked (h.consistent.held ha ho haid hs)
  · rw [entry?_congr hentries]
    refine entry?_none_of_not_has fun hhas => ?_
    exact (not_taken_of_pending (pending_of_releasable hs)).1 (hok.unused hhas)
  · obtain ⟨e, he, hkey⟩ := hok.reserved (not_taken_of_pending (pending_of_releasable hs)).2
    exact ⟨e, hentries ▸ he, hkey⟩

/-- The statements together. -/
theorem recordAcceptance_statements {hash ref : String} {q : ℚ} {millis stake : Int}
    {a : BankrollAccount} (h : Recorded db) (ho : o ∈ db.orders) (hs : o.status ∈ releasableStatuses)
    (hhash : op.receiptHash = some hash) (href : op.externalOrderId = some ref)
    (hodd : op.acceptedOdd.bind (·.finite?) = some q) (hmillis : oddMillis? (.num q) = some millis)
    (hstake : op.acceptedStake.bind toCents = some stake) (hpos : 0 < stake)
    (hle : stake ≤ o.requestedStake) (ha : a ∈ db.accounts) (haid : a.id = o.accountId)
    (hreceipt : ∀ r ∈ db.receipts, r.receiptHash ≠ hash)
    (hreference : ∀ x ∈ db.orders, x.operatorKey = o.operatorKey → x.externalOrderId ≠ some ref) :
    Tx.Accepted (recordAcceptance o op env) db ↔ (op.acceptedAt.isSome = true ∧
      (op.externalOrderId.all fun ref => decide (ref.length ≤ 128)) = true ∧
      fitsDecimal8 millis = true) ∧ (stake < o.requestedStake → Returnable o stake a) ∧
        ∃ d, db.decision? o.decisionId = some d ∧
          decisionSchema.check (d.executed q millis env.now) = true := by
  have hdecision : ∀ s : Database, s.decisions = db.decisions → s.decision? o.decisionId =
      db.decision? o.decisionId := fun s hs => by rw [Database.decision?, hs, Database.decision?]
  rw [recordAcceptance, get!_some hhash, pure_bind, get!_some hodd, pure_bind,
    get!_some hmillis, pure_bind, get!_some hstake, pure_bind,
    Tx.accepted_bind_iff ?_, and_iff_right (insertReceipt_accepted h ho hs hreceipt)]
  intro _ s₁ h₁
  obtain ⟨t, ht, rfl⟩ := insertReceipt_spec h₁
  have ho₁ : o ∈ ({ db with receipts := t } : Database).orders := ho
  rw [Tx.accepted_bind_iff ?_, accept_accepted_iff ho₁ href hpos hle hreference]
  intro _ s₂ h₂
  obtain ⟨honly, hrw⟩ := transition_spec ho₁ h₂
  have hfind := order?_of_mem (hrw.mem_of_rewritten (List.mem_singleton_self o))
  have hrow : (s₂.order? o.id).isSome = true := by
    rw [show o.id = ((o.accept op millis stake).touched env).id from rfl, hfind]
    rfl
  rw [Tx.accepted_bind_iff ?_,
    giveBack_accepted_iff h ho hs ha haid hpos (by rw [honly]) (by rw [honly]) hrow]
  intro _ s₃ h₃
  rw [updateExecuted_accepted_iff, hdecision s₃]
  rcases releaseUnused_spec h₃ with ⟨-, rfl⟩ | ⟨-, hledger, -⟩
  · rw [honly]
  · rw [hledger, honly]

/-- **When an acceptance that breaks no rule goes through.** -/
theorem recordAcceptance_accepted_iff (h : Recorded db) (ho : o ∈ db.orders)
    (hs : o.status ∈ releasableStatuses) (hv : acceptanceViolation P o op = none)
    (hreceipt : ∀ r ∈ db.receipts, op.receiptHash ≠ some r.receiptHash)
    (hreference : ∀ x ∈ db.orders, x.operatorKey = o.operatorKey →
      ∀ ref, op.externalOrderId = some ref → x.externalOrderId ≠ some ref) :
    Tx.Accepted (recordAcceptance o op env) db ↔ Fits db o op := by
  obtain ⟨hash, ref, stake, hhash, href, hstake, hpos, hle⟩ := passed_of_no_violation hv
  cases hodd : op.acceptedOdd.bind (·.finite?) with
  | none =>
    refine ⟨fun ⟨r, hr⟩ => ?_, fun hfits => ?_⟩
    · rw [recordAcceptance, get!_some hhash, pure_bind, hodd] at hr
      obtain ⟨_, _, hget, -⟩ := Tx.bind_eq_ok.1 hr
      obtain ⟨_, hnone, -⟩ := DbTx.get!_eq_ok.1 hget
      cases hnone
    · obtain ⟨q, _, hq, -⟩ := hfits.acceptedOdd
      rw [hq] at hodd
      cases hodd
  | some q =>
    have hq := acceptedOdd_of_finite hodd
    obtain ⟨millis, hmillis⟩ : ∃ millis, oddMillis? (.num q) = some millis := ⟨_, rfl⟩
    obtain ⟨a, ha, haid⟩ := (h.consistent.orders o ho).account
    have haccount : db.account? o.accountId = some a := haid ▸ account?_of_mem ha
    rw [recordAcceptance_statements h ho hs hhash href hodd hmillis hstake hpos hle ha haid
      (fun r hr heq => hreceipt r hr (heq ▸ hhash)) fun x hx hkey => hreference x hx hkey ref href]
    constructor
    · rintro ⟨⟨hat, hlength, hmillis'⟩, hreturn, d, hd, hcheck⟩
      obtain ⟨-, hslip⟩ :=
        (executed_check_iff (db.decisions.checked d (Table.mem_of_find? hd))).1 hcheck
      refine ⟨hat, hlength, ⟨q, millis, hq, hmillis, hmillis'⟩, ⟨d, hd, fun q' hq' => ?_⟩, ?_⟩
      · obtain rfl := JsNumber.num.inj (Option.some.inj (hq.symm.trans hq'))
        exact hslip
      · intro a' stake' ha' hstake' hlt
        obtain rfl := Option.some.inj (haccount.symm.trans ha')
        obtain rfl := Option.some.inj (hstake.symm.trans hstake')
        exact hreturn hlt
    · rintro ⟨hat, hlength, ⟨q', millis', hq', hmillis', hfits⟩, ⟨d, hd, hslip⟩, hreturn⟩
      obtain rfl := JsNumber.num.inj (Option.some.inj (hq.symm.trans hq'))
      obtain rfl := Option.some.inj (hmillis.symm.trans hmillis')
      refine ⟨⟨hat, hlength, hfits⟩, hreturn a stake haccount hstake, d, hd, ?_⟩
      exact (executed_check_iff (db.decisions.checked d (Table.mem_of_find? hd))).2
        ⟨hfits, hslip q hq⟩

/-- The validation objects to what the operator says: it breaks the contract, or its receipt or its
reference is that of another order. -/
def Objected (P : Platform) (db : Database) (order : BetOrder) (op : OperatorOrder) : Prop :=
  (acceptanceViolation P order op).isSome = true ∨
    (∃ r ∈ db.receipts, op.receiptHash = some r.receiptHash) ∨
    ∃ x ∈ db.orders, x.operatorKey = order.operatorKey ∧
      ∃ ref, op.externalOrderId = some ref ∧ x.externalOrderId = some ref

theorem violateAcceptance_accepted (reason : String) (taken : Bool) (ho : o ∈ db.orders) :
    Tx.Accepted (violateAcceptance o op reason taken env) db := by
  have htransition : Tx.Accepted (transition o (·.dispute reason env.now) env) db := by
    refine (transition_accepted_iff ho).2 ⟨fun x hx hne => ?_, dispute_check (db.orders.checked o ho)⟩
    exact Bool.eq_false_iff.2 fun hc => hne (Table.eq_of_clash hx ho hc)
  exact (Tx.accepted_bind_iff fun _ _ _ => iff_true_intro Tx.accepted_pure).2
    ⟨htransition, trivial⟩

/-- The transaction, once it has read what the validation asks for. -/
theorem acceptanceTx_eq (P : Platform) (env : TxEnv) (op : OperatorOrder) (ho : o ∈ db.orders)
    (hs : o.status ∈ releasableStatuses) :
    (Objected P db o op → ∃ reason taken,
      acceptanceTx P o.id op env db = violateAcceptance o op reason taken env db) ∧
    (¬ Objected P db o op → acceptanceTx P o.id op env db =
      (do recordAcceptance o op env; return none : DbTx (Option AutoStopRequest)) db) := by
  have hlock : lockOrder o.id db = .ok (o, db) := lockOrder_eq_ok.2 ⟨order?_of_mem ho, rfl⟩
  have hopen : o.status ∈ [OrderStatus.submitting, .unknown, .reserved] := by
    simp only [releasableStatuses, List.mem_cons, List.not_mem_nil, or_false] at hs ⊢
    tauto
  have hreceipt : (op.receiptHash.any fun hash =>
      (db.receipts.find? fun r => r.receiptHash == hash).isSome) = true ↔
        ∃ r ∈ db.receipts, op.receiptHash = some r.receiptHash := by
    simp only [Option.any_eq_true, Table.find?_isSome_iff, beq_iff_eq]
    constructor
    · rintro ⟨hash, hhash, r, hr, rfl⟩
      exact ⟨r, hr, hhash⟩
    · rintro ⟨r, hr, hhash⟩
      exact ⟨_, hhash, r, hr, rfl⟩
  have hreference : (op.externalOrderId.any fun external => (db.orders.find? fun x =>
      x.operatorKey == o.operatorKey && x.externalOrderId == some external).isSome) = true ↔
        ∃ x ∈ db.orders, x.operatorKey = o.operatorKey ∧
          ∃ ref, op.externalOrderId = some ref ∧ x.externalOrderId = some ref := by
    simp only [Option.any_eq_true, Table.find?_isSome_iff, Bool.and_eq_true, beq_iff_eq]
    constructor
    · rintro ⟨ref, href, x, hx, hkey, hxref⟩
      exact ⟨x, hx, hkey, ref, href, hxref⟩
    · rintro ⟨x, hx, hkey, ref, href, hxref⟩
      exact ⟨ref, href, x, hx, hkey, hxref⟩
  have hcond : (acceptanceViolation P o op).isSome = true ∨
      (op.receiptHash.any fun hash =>
        (db.receipts.find? fun r => r.receiptHash == hash).isSome) = true ∨
      (op.externalOrderId.any fun external => (db.orders.find? fun x =>
        x.operatorKey == o.operatorKey && x.externalOrderId == some external).isSome) = true ↔
      Objected P db o op := by rw [hreceipt, hreference, Objected]
  rw [acceptanceTx, Tx.bind_of_ok hlock, if_neg (not_not.2 hopen),
    Tx.bind_of_ok (DbTx.read_eq_ok.2 rfl), Tx.bind_of_ok (DbTx.read_eq_ok.2 rfl)]
  exact ⟨fun hobj => ⟨_, _, congrFun (if_pos (hcond.2 hobj)) db⟩,
    fun hobj => congrFun (if_neg fun h => hobj (hcond.1 h)) db⟩

/-- **When the transaction commits.** -/
theorem acceptanceTx_accepted_iff (P : Platform) (env : TxEnv) (op : OperatorOrder)
    (h : Recorded db) (ho : o ∈ db.orders) (hs : o.status ∈ releasableStatuses) :
    Tx.Accepted (acceptanceTx P o.id op env) db ↔ Objected P db o op ∨ Fits db o op := by
  obtain ⟨hyes, hno⟩ := acceptanceTx_eq P env op ho hs
  by_cases hobj : Objected P db o op
  · obtain ⟨reason, taken, heq⟩ := hyes hobj
    obtain ⟨r, hr⟩ : Tx.Accepted (violateAcceptance o op reason taken env) db :=
      violateAcceptance_accepted reason taken ho
    exact ⟨fun _ => .inl hobj, fun _ => ⟨r, heq.trans hr⟩⟩
  · have hrecord : Tx.Accepted (acceptanceTx P o.id op env) db ↔
        Tx.Accepted (recordAcceptance o op env) db := by
      rw [Tx.Accepted, hno hobj]
      exact (Tx.accepted_bind_iff fun _ _ _ => iff_true_intro Tx.accepted_pure).trans
        (and_iff_left trivial)
    obtain ⟨hvalid, hreceipt, hreference⟩ : ¬ (acceptanceViolation P o op).isSome = true ∧
        (¬ ∃ r ∈ db.receipts, op.receiptHash = some r.receiptHash) ∧
        ¬ ∃ x ∈ db.orders, x.operatorKey = o.operatorKey ∧
          ∃ ref, op.externalOrderId = some ref ∧ x.externalOrderId = some ref := by
      rwa [Objected, not_or, not_or] at hobj
    rw [hrecord, or_iff_right hobj]
    refine recordAcceptance_accepted_iff h ho hs (Option.not_isSome_iff_eq_none.1 hvalid) ?_ ?_
    · exact fun r hr heq => hreceipt ⟨r, hr, heq⟩
    · exact fun x hx hkey ref href hxref => hreference ⟨x, hx, hkey, ref, href, hxref⟩

/-- What the transaction leaves: the order is accepted, or waits for a human and asks for a stop. -/
theorem acceptanceTx_leaves {r : Option AutoStopRequest} {db' : Database} (ho : o ∈ db.orders)
    (hs : o.status ∈ releasableStatuses) (h : acceptanceTx P o.id op env db = .ok (r, db')) :
    ∃ row, db'.order? o.id = some row ∧ (row.status = .accepted ∧ r = none ∨
      row.status = .reconciliationRequired ∧ r.isSome = true) := by
  obtain ⟨hyes, hno⟩ := acceptanceTx_eq P env op ho hs
  by_cases hobj : Objected P db o op
  · obtain ⟨reason, taken, heq⟩ := hyes hobj
    rw [heq, violateAcceptance, Tx.bind_eq_ok] at h
    obtain ⟨_, s, htransition, hpure⟩ := h
    obtain ⟨rfl, rfl⟩ := Prod.mk.inj (Tx.pure_eq_ok.1 hpure)
    obtain ⟨-, hrw⟩ := transition_spec ho htransition
    have hfind := order?_of_mem (hrw.mem_of_rewritten (List.mem_singleton_self o))
    exact ⟨_, hfind, .inr ⟨rfl, rfl⟩⟩
  · rw [hno hobj, Tx.bind_eq_ok] at h
    obtain ⟨_, s, hrecord, hpure⟩ := h
    obtain ⟨rfl, rfl⟩ := Prod.mk.inj (Tx.pure_eq_ok.1 hpure)
    have hvalid : acceptanceViolation P o op = none :=
      Option.not_isSome_iff_eq_none.1 fun hv => hobj (.inl hv)
    obtain ⟨odd, stake, hash, -, hrw, -⟩ := recordAcceptance_spec ho hs hvalid hrecord
    have hfind := order?_of_mem (hrw.mem_of_rewritten (List.mem_singleton_self o))
    exact ⟨_, hfind, .inl ⟨rfl, rfl⟩⟩

end Transaction

/-! ## The call -/

/-- The database fails no statement of itself, and acknowledges what it commits. -/
def Setting.unfaulted (S : Setting) : Setting :=
  { S with allow := fun _ _ input _ => input.fault = none }

/-- The draws of a transaction of call `i`, with everything as it should be. -/
def Setting.envAt (S : Setting) (i : CallId) (w : World) : TxEnv :=
  { TxEnv.at w.clock "" with interlockOpen := S.interlock i }

/-- What a call for this order has to leave: it returns the order, which is accepted, in a row that
the table holds, or waits for a human with the execution stopped. -/
def Landed (orderId : String) (r : Except ServiceError BetOrder) (w : World) : Prop :=
  ∃ o, r = .ok o ∧ w.db.order? orderId = some o ∧ orderSchema.check o = true ∧
    (o.status = .accepted ∨ o.status = .reconciliationRequired ∧
      ∃ control, w.db.control = some control ∧ control.mode = .known .disabled)

section Call

variable {S : Setting} {i : CallId} {w w' : World}

/-- A transaction on a database that answers. -/
theorem unfaulted_commit_iff {t : Transaction} {b : Except TxError t.Result} :
    S.unfaulted.Step i (.commit t) w b w' ↔ (t.locksControl = true → w.permits = []) ∧
      ∃ env : TxEnv, env.now = w.clock ∧ env.interlockOpen = S.interlock i ∧
        match t.body S.platform env w.db with
        | .error e => b = .error e ∧ w' = w
        | .ok (r, db) => b = .ok r ∧ w' = w.committed i db t r := by
  have hexec : ∀ input : Input, input.fault = none → (exec S.platform i (.commit t) input w =
      some (b, w') ↔ (t.locksControl = true → w.permits = []) ∧
        match t.body S.platform input.env w.db with
        | .error e => b = .error e ∧ w' = w
        | .ok (r, db) => b = .ok r ∧ w' = w.committed i db t r) := by
    intro input hfault
    by_cases hlock : t.locksControl = true ∧ w.permits ≠ []
    · simp only [exec, if_pos hlock]
      exact ⟨fun h => (Option.some_ne_none _ h.symm).elim, fun h => (hlock.2 (h.1 hlock.1)).elim⟩
    · simp only [exec, hfault, if_neg hlock]
      rw [not_and, not_not] at hlock
      rw [and_iff_right hlock]
      cases t.body S.platform input.env w.db with
      | error e =>
        simp only [Option.some.injEq, Prod.mk.injEq]
        exact and_congr eq_comm eq_comm
      | ok x =>
        simp only [Option.some.injEq, Prod.mk.injEq]
        exact and_congr eq_comm eq_comm
  constructor
  · rintro ⟨input, hnow, hopen, hfault, h⟩
    obtain ⟨hlock, hbody⟩ := (hexec input hfault).1 h
    exact ⟨hlock, input.env, hnow, hopen, hbody⟩
  · rintro ⟨hlock, env, hnow, hopen, hbody⟩
    exact ⟨{ Input.at w.clock "" with env }, hnow, hopen, rfl, (hexec _ rfl).2 ⟨hlock, hbody⟩⟩

theorem unfaulted_commits {t : Transaction} {r : t.Result} {db : Database}
    (hlock : t.locksControl = true → w.permits = [])
    (hbody : t.body S.platform (S.envAt i w) w.db = .ok (r, db)) :
    S.unfaulted.Step i (.commit t) w (.ok r) (w.committed i db t r) := by
  refine unfaulted_commit_iff.2 ⟨hlock, S.envAt i w, rfl, rfl, ?_⟩
  rw [hbody]
  exact ⟨rfl, rfl⟩

/-- A statement on a database that answers. -/
theorem unfaulted_query_iff {q : Query} {r : q.Result} {b : Except ServiceError q.Result}
    (hr : q.read w.db = some r) : S.unfaulted.Step i (.query q) w b w' ↔
      b = .ok r ∧ w' = w.note (.read i q r) := by
  have hexec : ∀ input : Input, input.fault = none → (exec S.platform i (.query q) input w =
      some (b, w') ↔ b = .ok r ∧ w' = w.note (.read i q r)) := by
    intro input hfault
    simp only [exec, hfault, hr, Option.some.injEq, Prod.mk.injEq, World.note]
    exact and_congr eq_comm eq_comm
  constructor
  · rintro ⟨input, -, -, hfault, h⟩
    exact (hexec input hfault).1 h
  · intro h
    exact ⟨{ Input.at w.clock "" with env := S.envAt i w }, rfl, rfl, rfl, (hexec _ rfl).2 h⟩

variable {orderId : String} {op : OperatorOrder}

/-- The order is read back. -/
theorem unfaulted_order {row : BetOrder} {r : Except ServiceError BetOrder}
    (hrow : w.db.order? orderId = some row) :
    Alone S.unfaulted.system i (query (.order orderId)).run w r w' ↔
      r = .ok row ∧ w' = w.note (.read i (.order orderId) row) := by
  constructor
  · rintro ⟨b, w₁, hs, h⟩
    obtain ⟨rfl, rfl⟩ := (unfaulted_query_iff (q := .order orderId) hrow).1 hs
    obtain ⟨rfl, rfl⟩ := h
    exact ⟨rfl, rfl⟩
  · rintro ⟨rfl, rfl⟩
    exact ⟨.ok row, _, (unfaulted_query_iff (q := .order orderId) hrow).2 ⟨rfl, rfl⟩, rfl, rfl⟩

/-- What is left of the call once its transaction has committed. -/
theorem unfaulted_rest {row : BetOrder} {request : Option AutoStopRequest}
    (hrow : w.db.order? orderId = some row) (hs : row.status = .accepted ∧ request = none ∨
      row.status = .reconciliationRequired ∧ request.isSome = true) :
    (w.permits = [] → ∃ r w', Alone S.unfaulted.system i
      (do applyStop request; query (.order orderId) : Call BetOrder).run w r w') ∧
    ∀ r w', Alone S.unfaulted.system i
      (do applyStop request; query (.order orderId) : Call BetOrder).run w r w' →
        Landed orderId r w' := by
  have hcheck := w.db.orders.checked row (order?_eq_some hrow).1
  rcases hs with ⟨hs, rfl⟩ | ⟨hs, hsome⟩
  · refine ⟨fun _ => ⟨_, _, (unfaulted_order hrow).2 ⟨rfl, rfl⟩⟩, fun r w' h => ?_⟩
    obtain ⟨rfl, rfl⟩ := (unfaulted_order hrow).1 h
    exact ⟨row, rfl, hrow, hcheck, .inl hs⟩
  obtain ⟨request, rfl⟩ := Option.isSome_iff_exists.1 hsome
  have hstopped : ∀ (env : TxEnv) (control : ExecutionControl) (db : Database),
      stopTx request.reason .automatic env w.db = .ok (control, db) →
        db.order? orderId = some row ∧ db.control = some control ∧
          control.mode = .known .disabled := by
    intro env control db hbody
    obtain ⟨rfl, hmode, -⟩ := stopTx_cases hbody
    exact ⟨hrow, rfl, hmode⟩
  constructor
  · intro hpermits
    obtain ⟨⟨control, db⟩, hbody⟩ :=
      stopTx_commits request.reason .automatic (S.envAt i w) w.db
    have hstep := unfaulted_commits (t := .stop request.reason .automatic) (fun _ => hpermits) hbody
    have hrow' : (w.committed i db (.stop request.reason .automatic) control).db.order? orderId =
        some row := (hstopped _ _ _ hbody).1
    exact ⟨_, _, _, _, hstep, (unfaulted_order hrow').2 ⟨rfl, rfl⟩⟩
  · rintro r w' ⟨b, w₁, hstep, h⟩
    obtain ⟨-, env, -, -, hbody⟩ := unfaulted_commit_iff.1 hstep
    obtain ⟨⟨control, db⟩, hok⟩ := stopTx_commits request.reason .automatic env w.db
    obtain ⟨hrow', hcontrol, hmode⟩ := hstopped _ _ _ hok
    simp only [Transaction.body, hok] at hbody
    obtain ⟨-, rfl⟩ := hbody
    have hread : (w.committed i db (.stop request.reason .automatic) control).db.order? orderId =
        some row := hrow'
    obtain ⟨rfl, rfl⟩ := (unfaulted_order hread).1 h
    exact ⟨row, rfl, hrow', hcheck, .inr ⟨hs, control, hcontrol, hmode⟩⟩

end Call

/-! ## A sample -/

namespace Sample

/-- The operator reports the bet as accepted, and does not say when. -/
def undated : OperatorOrder := { acceptance.toOperatorOrder with acceptedAt := none }

/-- The sample, on a database that answers. -/
def answering : Scene := { scene with allow := fun _ _ input _ => input.fault.isNone }

theorem answering_unfaulted {α : Type} {p : Prog Action Action.Result α} {i : CallId} {w w' : World}
    {x : α} (h : Alone answering.setting.system i p w x w') :
    Alone scene.setting.unfaulted.system i p w x w' := by
  refine h.mono fun a s b s' hs => ?_
  obtain ⟨input, hnow, hopen, hallow, hexec⟩ := hs
  exact ⟨input, hnow, hopen, Option.isNone_iff_eq_none.1 hallow, hexec⟩

/-- The order that the operator did not answer for, and the call for it. -/
def applied (op : OperatorOrder) (actions : Nat) :
    Option (Run × BetOrder × Except ServiceError BetOrder × World) := do
  let c ← scene.replay (enabled ++ doubtful) initial
  let order ← c.state.db.order? "order"
  let (r, w) ← answering.alone 5 (applyAcceptance order.id op).run
    (List.replicate actions (.at 1000 "")) c.state
  return (c, order, r, w)

theorem applied_spec {op : OperatorOrder} {actions : Nat} {c : Run} {order : BetOrder}
    {r : Except ServiceError BetOrder} {w : World}
    (h : applied op actions = some (c, order, r, w)) :
    Reachable scene.setting.system initial c ∧ order ∈ c.state.db.orders ∧
      Alone scene.setting.unfaulted.system 5 (applyAcceptance order.id op).run c.state r w := by
  simp only [applied, Option.bind_eq_bind, Option.bind_eq_some_iff] at h
  obtain ⟨c₁, hc, o, ho, ⟨r', w'⟩, hrun, h⟩ := h
  obtain ⟨rfl, rfl, rfl, rfl⟩ : c₁ = c ∧ o = order ∧ r' = r ∧ w' = w := by simpa using h
  exact ⟨Scene.replay_reachable .init hc, (order?_eq_some ho).1,
    answering_unfaulted (Scene.alone_spec hrun)⟩

end Sample

end ApiScore
