import ApiScore.Execution.ReservePhases

/-!
# Reservations and the decisions of others

A reservation reads and writes one decision.  Whatever happens to the other decisions commutes with
each of its steps; the refusal of another decision does.

* `Spares` — a change of the decisions that leaves one of them alone.
* `rejectDecision_eq`, `spares_refuseIn` — a refusal is such a change for every other decision.
* `Phase.next_redecide` — each step of a call commutes with it.
-/

set_option autoImplicit false

namespace ApiScore

open Relational

/-! ## Changing decisions -/

/-- Change the table of decisions. -/
def Database.redecide (h : Table decisionSchema → Table decisionSchema) (db : Database) : Database :=
  { db with decisions := h db.decisions }

/-- The change neither shows in the decision `id`, nor minds what is written there. -/
structure Spares (id : String) (h : Table decisionSchema → Table decisionSchema) : Prop where
  find : ∀ t : Table decisionSchema,
    (h t).find? (fun d => d.id == id) = t.find? fun d => d.id == id
  update : ∀ (t : Table decisionSchema) (p : BetDecision → Bool) (f : BetDecision → BetDecision),
    (∀ d, p d = true → d.id = id) → (∀ d, (f d).id = d.id) →
      (h t).update? p f = (t.update? p f).map h

theorem spares_id (id : String) : Spares id fun t => t where
  find _ := rfl
  update _ _ _ _ _ := Option.map_id'.symm

/-- What a refusal makes of a row. -/
def refuseRow (id : String) (code : RejectionCode) (onlyFrom : Option DecisionStatus)
    (d : BetDecision) : BetDecision :=
  if d.id == id && onlyFrom.all (· == d.status) then
    { d with status := .rejected, rejectionCode := some code }
  else d

section Refusal

variable {id other : String} {code : RejectionCode} {onlyFrom : Option DecisionStatus}

@[simp] theorem refuseRow_id (d : BetDecision) : (refuseRow id code onlyFrom d).id = d.id := by
  rw [refuseRow]
  split_ifs <;> rfl

@[simp] theorem refuseRow_idempotencyKey (d : BetDecision) :
    (refuseRow id code onlyFrom d).idempotencyKey = d.idempotencyKey := by
  rw [refuseRow]
  split_ifs <;> rfl

theorem refuseRow_of_ne {d : BetDecision} (h : d.id ≠ id) : refuseRow id code onlyFrom d = d := by
  simp [refuseRow, h]

/-- A refusal moves no key. -/
theorem clash_refuseRow (a b : BetDecision) :
    decisionSchema.clash (refuseRow id code onlyFrom a) (refuseRow id code onlyFrom b) =
      decisionSchema.clash a b := by
  simp [decisionSchema]

/-- A refused row breaks no rule. -/
theorem check_refuseRow (a : BetDecision) (h : decisionSchema.check a = true) :
    decisionSchema.check (refuseRow id code onlyFrom a) = true := by
  rw [refuseRow]
  split_ifs
  · simp only [decisionSchema, Bool.and_eq_true] at h ⊢
    obtain ⟨⟨⟨⟨⟨⟨⟨hstake, -⟩, -⟩, -⟩, hs⟩, hp⟩, ho⟩, hslip⟩ := h
    exact ⟨⟨⟨⟨⟨⟨⟨hstake, rfl⟩, rfl⟩, rfl⟩, hs⟩, hp⟩, ho⟩, hslip⟩
  · exact h

/-- The decisions after a refusal. -/
def refuseIn (id : String) (code : RejectionCode) (onlyFrom : Option DecisionStatus)
    (t : Table decisionSchema) : Table decisionSchema :=
  t.rewrite (refuseRow id code onlyFrom) clash_refuseRow check_refuseRow

/-- **A refusal always succeeds.** -/
theorem rejectDecision_eq (db : Database) :
    rejectDecision id code onlyFrom db = .ok ((), db.redecide (refuseIn id code onlyFrom)) := by
  rw [rejectDecision, updateDecisions, DbTx.write,
    @Table.update?_eq_some _ _ _ (refuseIn id code onlyFrom db.decisions) _ _ rfl]
  rfl

/-- **A refusal spares every other decision.** -/
theorem spares_refuseIn (h : id ≠ other) : Spares other (refuseIn id code onlyFrom) where
  find t := by
    show (t.rows.map (refuseRow id code onlyFrom)).find? _ = t.rows.find? _
    rw [Table.find?_map_key refuseRow_id]
    cases hf : t.rows.find? fun d => d.id == other with
    | none => rfl
    | some d =>
      have hd : d.id = other := by simpa using List.find?_some hf
      rw [Option.map_some, refuseRow_of_ne (hd ▸ h.symm)]
  update t p f hp hf := by
    have hrows : ((t.rows.map (refuseRow id code onlyFrom)).map fun d => if p d then f d else d) =
        (t.rows.map fun d => if p d then f d else d).map (refuseRow id code onlyFrom) := by
      rw [List.map_map, List.map_map]
      refine List.map_congr_left fun d _ => ?_
      show (if p (refuseRow id code onlyFrom d) then f (refuseRow id code onlyFrom d)
          else refuseRow id code onlyFrom d) =
        refuseRow id code onlyFrom (if p d then f d else d)
      by_cases hd : d.id = id
      · have hpd : ∀ x : BetDecision, x.id = id → ¬ p x = true := fun x hx hpx =>
          h (hx.symm.trans (hp x hpx))
        rw [if_neg (hpd _ (by rw [refuseRow_id, hd])), if_neg (hpd d hd)]
      · rw [refuseRow_of_ne hd]
        split_ifs with hpd
        · rw [refuseRow_of_ne (by rwa [hf d])]
        · rw [refuseRow_of_ne hd]
    show Table.ofRows? decisionSchema
      ((t.rows.map (refuseRow id code onlyFrom)).map fun d => if p d then f d else d) = _
    rw [hrows, Table.ofRows?_map clash_refuseRow check_refuseRow ?_]
    · rfl
    · intro a ha hcheck
      obtain ⟨d, hd, rfl⟩ := List.mem_map.1 ha
      split_ifs at hcheck ⊢ with hpd
      · -- a row this update touches is not the refused one
        rwa [refuseRow_of_ne] at hcheck
        exact fun hid => h (hid.symm.trans ((hf d).trans (hp d hpd)))
      · exact t.checked d hd

end Refusal

/-! ## The statements of a reservation -/

section Statements

variable {h : Table decisionSchema → Table decisionSchema} {id : String} {α : Type}

/-- The statements of `m` commute with the change. -/
abbrev Minds (h : Table decisionSchema → Table decisionSchema) (m : DbTx α) : Prop :=
  Tx.Commutes (Database.redecide h) m

namespace Commuting

theorem read {f : Database → α} (hf : ∀ db : Database, f (db.redecide h) = f db) :
    Minds h (DbTx.read f) := fun db => by
  rw [DbTx.read, DbTx.read, hf]
  rfl

theorem write {f : Database → Option Database}
    (hf : ∀ db : Database, f (db.redecide h) = (f db).map (·.redecide h)) :
    Minds h (DbTx.write f) := fun db => by
  rw [DbTx.write, DbTx.write, hf]
  cases f db <;> rfl

theorem get! {e : ServiceError} {o : Option α} : Minds h (DbTx.get! e o) := .orThrow

theorem liftRule {x : Except ServiceError α} : Minds h (liftRule x) := by
  cases x with
  | ok a => exact .pure
  | error e => exact .throw

theorem withPending {stop : Option AutoStopRequest} {m : DbTx α} (hm : Minds h m) :
    Minds h (withPending stop m) := fun db => by
  rw [ApiScore.withPending, ApiScore.withPending, hm]
  cases m db <;> rfl

theorem lockOrder {orderId : String} : Minds h (lockOrder orderId) :=
  .bind (read fun _ => rfl) fun _ => get!

theorem lockAccount {accountId : String} : Minds h (lockAccount accountId) :=
  .bind (read fun _ => rfl) fun _ => get!

theorem storeCents {n : Int} : Minds h (storeCents n) := .ite .pure .throw

theorem lockForExecution {env : TxEnv} : Minds h (lockForExecution env) :=
  .ite .throw (.bind (read fun _ => rfl) fun _ => liftRule)

theorem updateOrders {p : BetOrder → Bool} {f : BetOrder → BetOrder} :
    Minds h (updateOrders p f) :=
  .bind (read fun _ => rfl) fun _ => .bind (write fun db => by
    rw [Option.map_map]
    rfl) fun _ => .pure

theorem transition {o : BetOrder} {patch : BetOrder → BetOrder} {env : TxEnv} :
    Minds h (transition o patch env) :=
  .bind updateOrders fun _ => .ite .throw .pure

theorem insertEntry {e : BankrollLedgerEntry} : Minds h (insertEntry e) :=
  write fun db => by
    show (if db.entryReferences e then _ else none) = _
    split_ifs
    · rw [Option.map_map]
      rfl
    · rfl

theorem saveAccount {account : BankrollAccount} {balances : Balances} {version : Nat}
    {conflict : String} : Minds h (saveAccount account balances version conflict) :=
  .bind (.bind (read fun _ => rfl) fun _ => .bind (write fun db => by
    rw [Option.map_map]
    rfl) fun _ => .pure) fun _ => .ite (.bind .throw fun _ => .pure) .pure

theorem entryRow {account : BankrollAccount} {input : AppendInput} {planned : PlannedEntry}
    {version : Nat} {dbNow : Int} : Minds h (entryRow account input planned version dbNow) :=
  .bind storeCents fun _ => .bind storeCents fun _ => .bind storeCents fun _ =>
    .bind storeCents fun _ => .pure

theorem append {account : BankrollAccount} {input : AppendInput} {dbNow : Int} :
    Minds h (append account input dbNow) := by
  refine .bind (read fun _ => rfl) fun found => ?_
  cases found with
  | some existing => exact .bind liftRule fun _ => .ite .pure .throw
  | none =>
    exact .bind liftRule fun _ => .bind entryRow fun _ => .bind insertEntry
      fun _ => .bind saveAccount fun _ => .bind (read fun _ => rfl) fun _ => .bind get! fun _ => .pure

theorem reserveWithin {request : ReserveStakeRequest} {env : TxEnv} :
    Minds h (reserveWithin request env) := by
  refine .bind lockForExecution fun control => .bind (read fun _ => rfl) fun found => ?_
  cases found with
  | some entry =>
    exact .bind (.bind lockAccount fun _ => .bind append fun _ => .pure) fun _ => .pure
  | none =>
    refine .ite (withPending .throw) (.bind (read fun _ => rfl) fun policy => ?_)
    cases policy with
    | none => exact .pure
    | some policy =>
      refine .bind lockAccount fun account => .ite .pure (.bind (read fun _ => rfl) fun daily => ?_)
      generalize evaluateRisk _ = verdict
      cases verdict with
      | rejected code limit autoStop => exact .pure
      | ok => exact .bind append fun _ => .pure

variable (hs : Spares id h)
include hs

theorem decision? (db : Database) : (db.redecide h).decision? id = db.decision? id :=
  hs.find db.decisions

theorem updateDecisions {p : BetDecision → Bool} {f : BetDecision → BetDecision}
    (hp : ∀ d, p d = true → d.id = id) (hf : ∀ d, (f d).id = d.id) :
    Minds h (updateDecisions p f) :=
  write fun db => by
    show ((h db.decisions).update? p f).map _ = _
    rw [hs.update _ p f hp hf, Option.map_map, Option.map_map]
    rfl

theorem rejectDecision {code : RejectionCode} {onlyFrom : Option DecisionStatus} :
    Minds h (rejectDecision id code onlyFrom) :=
  updateDecisions hs (fun d hd => by simpa using And.left (by simpa using hd)) fun _ => rfl

theorem insertOrder {o : BetOrder} (ho : o.decisionId = id) : Minds h (insertOrder o) :=
  write fun db => by
    rw [ho, decision? hs]
    show (if (db.decision? id).isSome && (db.account? o.accountId).isSome then _ else none) = _
    split_ifs
    · rw [Option.map_map]
      rfl
    · rfl

theorem insertAndReserve {o : BetOrder} {env : TxEnv} (ho : o.decisionId = id) :
    Minds h (insertAndReserve o env) := by
  subst ho
  refine .bind (insertOrder hs rfl) fun _ => .bind reserveWithin fun r =>
    withPending (.bind ?_ fun _ => .bind lockOrder fun _ => .pure)
  cases r.1 with
  | rejected code limit reason => exact .bind transition fun _ => rejectDecision hs
  | reserved entry replayed =>
    exact updateDecisions hs (fun d hd => by simpa using hd) fun _ => rfl

theorem lookTx {P : Platform} {env : TxEnv} : Minds h (lookTx P id env) := by
  refine .bind (read fun _ => rfl) fun existing => ?_
  cases existing with
  | some order => exact .pure
  | none =>
    refine .bind lockForExecution fun control => .bind liftRule fun port =>
      Tx.Commutes.bind_of (read (decision? hs)) fun db found db' hfound => ?_
    obtain ⟨rfl, rfl⟩ := Prod.mk.inj (DbTx.read_eq_ok.1 hfound)
    refine Tx.Commutes.bind_of get! fun s decision s' hget => ?_
    obtain ⟨d, hd, heq⟩ := DbTx.get!_eq_ok.1 hget
    obtain ⟨rfl, -⟩ := Prod.mk.inj heq
    obtain rfl : decision.id = id := by simpa using Table.of_find? hd
    refine .ite .pure ?_
    cases decision.terms with
    | none => exact .bind (rejectDecision hs) fun _ => .pure
    | some terms =>
      exact .bind (read fun _ => rfl) fun _ => .bind get! fun run => .bind (read fun _ => rfl)
        fun taken => .ite (.bind (rejectDecision hs) fun _ => .pure) .pure

omit hs in
theorem stopTx {reason : String} {source : StopSource} {env : TxEnv} :
    Minds h (stopTx reason source env) := by
  refine .bind (read fun _ => rfl) fun control => ?_
  cases control with
  | none => exact .bind (fun _ => rfl) fun _ => .pure
  | some current => exact .ite .pure (.bind (fun _ => rfl) fun _ => .pure)

end Commuting

/-! ## The steps of a call -/

/-- A call that has looked its key up knows the decision it was given. -/
def Phase.Of (c : ReserveCall) : Phase → Prop
  | .looked p => p.decision.id = c.decisionId
  | _ => True

/-- **Each step of a call commutes with a change that spares its decision.** -/
theorem Phase.next_redecide {P : Platform} {c : ReserveCall} (hs : Spares c.decisionId h)
    {φ : Phase} (hof : φ.Of c) (x : Attempt) (db : Database) :
    φ.next P c x (db.redecide h) = (φ.next P c x db).map fun r => (r.1, r.2.redecide h) := by
  cases φ with
  | idle =>
    simp only [next, Commuting.lookTx hs db]
    cases x.aborted with
    | some e => rfl
    | none =>
      cases lookTx P c.decisionId x.env db with
      | error e => rfl
      | ok r =>
        obtain ⟨found, db'⟩ := r
        cases found <;> rfl
  | looked p =>
    simp only [next, Commuting.insertAndReserve hs (o := p.order c.accountId x.env) hof db]
    cases x.aborted with
    | some e => rfl
    | none => cases insertAndReserve (p.order c.accountId x.env) x.env db <;> rfl
  | refusing code stop =>
    simp only [next, Commuting.rejectDecision hs db]
    cases x.aborted with
    | some e => rfl
    | none => cases rejectDecision c.decisionId code (some .eligible) db <;> rfl
  | stopping stop =>
    cases stop with
    | none => rfl
    | some request =>
      simp only [next, Commuting.stopTx (h := h) db]
      cases x.aborted with
      | some e => rfl
      | none => cases stopTx request.reason .automatic x.env db <;> rfl
  | done => rfl

end Statements

end ApiScore
