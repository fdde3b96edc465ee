import ApiScore.Execution.Replay
import ApiScore.Execution.ReserveSteps

/-!
# Two reservations of one signal

Two decisions of the same signal in the same slot have the same key, and at most one order.  The call
that finds the key taken refuses its decision, and that is all.  The call that is caught by the unique
index instead takes the error for a failure of the database, and stops the execution.

* `Before` — the calls may go to their end one after the other from here.
* `Before.first_step`, `Before.second_step` — one step of a call, seen from either order.
* `reservations_serialisable` — as long as no insertion meets a taken key and no transaction runs
  while the other call has still to stop, two calls end as one after the other.
* `duplicate_stops` — two calls that both look the key up before either inserts.
-/

set_option autoImplicit false

namespace ApiScore

open Relational
open Relation (ReflTransGen)

section Serial

variable {P : Platform}

/-! ## Going to the end -/

/-- The key is free where an order is to be inserted. -/
def Free (c : ReserveCall) (φ : Phase) (db : Database) : Prop :=
  φ.Of c ∧ ∀ p, φ = .looked p → ∀ o ∈ db.orders, o.idempotencyKey ≠ p.idempotencyKey

/-- So it is, and no stop is applied. -/
def Quietly (c : ReserveCall) (φ : Phase) (db : Database) : Prop :=
  Free c φ db ∧ φ.waits = false

section Completes

variable {c : ReserveCall} {ok ok' : Phase → Database → Prop} {φ : Phase}
  {db db' e : Database}

theorem Completes.mono (h : Completes P c ok φ db db') (hok : ∀ φ db, ok φ db → ok' φ db) :
    Completes P c ok' φ db db' := by
  induction h with
  | done db => exact .done db
  | step hx hφ hnext _ ih => exact .step hx (hok _ _ hφ) hnext ih

theorem Completes.eq_of_done (h : Completes P c ok .done db db') : db' = db := by
  cases h with
  | done => rfl
  | step _ _ hnext _ => cases hnext

/-- **A change that spares the decision of a call commutes with all that is left of it.** -/
theorem Completes.redecide_iff {h : Table decisionSchema → Table decisionSchema}
    (hs : Spares c.decisionId h) (hof : ∀ φ db, ok φ db → φ.Of c)
    (hok : ∀ φ db, ok φ (db.redecide h) ↔ ok φ db) :
    Completes P c ok φ (db.redecide h) e ↔ ∃ db', Completes P c ok φ db db' ∧
      e = db'.redecide h := by
  constructor
  · intro hc
    generalize hdb : db.redecide h = s at hc
    induction hc generalizing db with
    | done s => exact ⟨db, .done db, hdb.symm⟩
    | @step x φ φ' s s' s'' hx hφ hnext hrest ih =>
      subst hdb
      have hφ' := (hok φ db).1 hφ
      rw [Phase.next_redecide hs (hof φ db hφ')] at hnext
      obtain ⟨⟨ψ, db'⟩, hn, heq⟩ := Option.map_eq_some_iff.1 hnext
      obtain ⟨rfl, hdb'⟩ := Prod.mk.inj heq
      obtain ⟨db'', hc, he⟩ := ih hdb'
      exact ⟨db'', .step hx hφ' hn hc, he⟩
  · rintro ⟨db', hc, rfl⟩
    induction hc with
    | done db => exact .done _
    | step hx hφ hnext _ ih =>
      refine .step hx ((hok _ _).2 hφ) ?_ ih
      rw [Phase.next_redecide hs (hof _ _ hφ), hnext]
      rfl

theorem free_redecide {h : Table decisionSchema → Table decisionSchema}
    (hs : Spares c.decisionId h) : Completes P c (Free c) φ (db.redecide h) e ↔
      ∃ db', Completes P c (Free c) φ db db' ∧ e = db'.redecide h :=
  Completes.redecide_iff hs (fun _ _ hφ => hφ.1) fun _ _ => Iff.rfl

/-- An attempt that is served. -/
def Attempt.plain : Attempt := ⟨.at 0 "", none⟩

theorem Attempt.plain_served : Attempt.plain.Served := ⟨rfl, rfl⟩

/-- What is left after the transaction, without a stop, is a change that spares the other
decisions. -/
theorem settled_completes (hp : φ.pending = false) (hs : φ.stops = false) :
    ∃ h, (∀ id, id ≠ c.decisionId → Spares id h) ∧
      ∀ db, Completes P c (Quietly c) φ db (db.redecide h) ∧
        ∀ db', Completes P c (Free c) φ db db' → db' = db.redecide h := by
  have hpass : ∀ db, Completes P c (Quietly c) (.stopping none) db db := fun db =>
    .step Attempt.plain_served ⟨⟨trivial, fun _ h => by cases h⟩, rfl⟩ rfl (.done db)
  have hpassed : ∀ db db', Completes P c (Free c) (.stopping none) db db' → db' = db := by
    intro db db' hc
    cases hc with
    | step hx _ hnext hrest =>
      cases Phase.next_went hx hnext with
      | threw e he => cases he
      | passed => exact hrest.eq_of_done
  have hid : ∀ ψ : Phase, (∀ db, Completes P c (Quietly c) ψ db db ∧
      ∀ db', Completes P c (Free c) ψ db db' → db' = db) →
      ∃ h, (∀ id, id ≠ c.decisionId → Spares id h) ∧
        ∀ db, Completes P c (Quietly c) ψ db (db.redecide h) ∧
          ∀ db', Completes P c (Free c) ψ db db' → db' = db.redecide h :=
    fun _ h => ⟨fun t => t, fun id _ => spares_id id, h⟩
  cases φ with
  | idle | looked => cases hp
  | refusing code stop =>
    cases stop with
    | some request => cases hs
    | none =>
      refine ⟨refuseIn c.decisionId code (some .eligible), fun id hne => spares_refuseIn hne.symm,
        fun db => ⟨?_, fun db' hc => ?_⟩⟩
      · refine .step Attempt.plain_served ⟨⟨trivial, fun _ h => by cases h⟩, rfl⟩ ?_ (hpass _)
        simp only [Phase.next, Attempt.plain, rejectDecision_eq]
      · cases hc with
        | step hx _ hnext hrest =>
          cases Phase.next_went hx hnext with
          | threw e he => cases he
          | refused => exact hpassed _ _ hrest
  | stopping stop =>
    cases stop with
    | some request => cases hs
    | none => exact hid _ fun db => ⟨hpass db, hpassed db⟩
  | done => exact hid _ fun db => ⟨.done db, fun _ hc => hc.eq_of_done⟩

/-- What a call that goes to its end leaves of what the other reads. -/
theorem Completes.apart (h : Completes P c ok φ db e) (hof : φ.Of c) : Apart c db e := by
  induction h with
  | done db => exact .refl c db
  | step hx _ hnext _ ih =>
    have hwent := Phase.next_went hx hnext
    exact (hwent.apart hof).trans (ih hwent.of)

theorem Completes.control (h : Completes P c (Quietly c) φ db e) : e.control = db.control := by
  induction h with
  | done db => rfl
  | step hx hφ hnext _ ih => exact ih.trans ((Phase.next_went hx hnext).control hφ.2)

end Completes

/-- The control row is read as it is. -/
theorem lockForExecution_congr {env : TxEnv} {db db' : Database} {control : ExecutionControl}
    (hc : db'.control = db.control) (h : lockForExecution env db = .ok (control, db)) :
    lockForExecution env db' = .ok (control, db') := by
  rw [lockForExecution, Tx.ite_eq_ok] at h ⊢
  rcases h with ⟨-, h⟩ | ⟨hread, h⟩
  · exact (DbTx.fail_eq_ok.1 h).elim
  · rw [Tx.bind_eq_ok] at h
    obtain ⟨found, s, hfound, hrule⟩ := h
    obtain ⟨rfl, rfl⟩ := Prod.mk.inj (DbTx.read_eq_ok.1 hfound)
    refine .inr ⟨hread, Tx.bind_eq_ok.2 ⟨db'.control, db', DbTx.read_eq_ok.2 rfl, ?_⟩⟩
    rw [hc]
    exact liftRule_eq_ok.2 ⟨(liftRule_eq_ok.1 hrule).1, rfl⟩

/-- **A lookup in vain is still in vain** after the other call has gone to its end without a stop, as
long as the key is free. -/
theorem Vain.stable {b : ReserveCall} {ψ : Phase} {id : String} {env : TxEnv} {p : Pending}
    {db e : Database} (hv : Vain P id env db p) (hc : Completes P b (Quietly b) ψ db e)
    (hof : ψ.Of b) (hne : id ≠ b.decisionId)
    (hfree : ∀ o ∈ e.orders, o.idempotencyKey ≠ p.idempotencyKey) : Vain P id env e p := by
  have hapart := hc.apart hof
  obtain ⟨control, port, hlock, hport⟩ := hv.control
  refine ⟨?_, ⟨control, port, lockForExecution_congr hc.control hlock, hport⟩,
    (hapart.decision id hne).trans hv.decision, hv.eligible, hv.terms, ?_, ?_⟩
  · refine List.find?_eq_none.2 fun o ho => ?_
    rcases hapart.new o ho with hold | hnew
    · exact List.find?_eq_none.1 hv.fresh o hold
    · simpa [hnew] using Ne.symm hne
  · rw [hapart.runs]
    exact hv.run
  · exact List.find?_eq_none.2 fun o ho => by simpa using hfree o ho

/-! ## One order or the other -/

/-- **From here call `a` may go to its end, and then call `b`.**  Where `b` has looked its key up
already, `a` stops nothing; where `b` has still to stop, the transaction of `a` is over. -/
def Before (P : Platform) (a b : ReserveCall) (φ ψ : Phase) (db e : Database) : Prop :=
  ∃ m, Completes P a (Free a) φ db m ∧ Completes P b (Free b) ψ m e ∧
    (ψ.holds = true → Completes P a (Quietly a) φ db m) ∧ (ψ.stops = true → φ.pending = false)

/-- A step that is in order: it is served, an insertion finds its key free, a stop waits for the other
transaction, and no transaction runs while the other call has still to stop. -/
structure InOrder (a : ReserveCall) (x : Attempt) (φ ψ : Phase) (db : Database) : Prop where
  served : x.Served
  free : Free a φ db
  waits : φ.waits = true → ψ.holds = false
  unstopped : φ.pending = true → ψ.stops = false

section Steps

variable {a b : ReserveCall} {x : Attempt} {φ φ' ψ : Phase} {db db' e : Database}

/-- A step of the call that goes first. -/
theorem Before.first_step (hx : InOrder a x φ ψ db) (hnext : φ.next P a x db = some (φ', db'))
    (h : Before P a b φ' ψ db' e) : Before P a b φ ψ db e := by
  obtain ⟨m, ha, hb, hquiet, -⟩ := h
  refine ⟨m, .step hx.served hx.free hnext ha, hb, fun hψ => ?_, fun hψ => ?_⟩
  · have hw : φ.waits = false := by
      by_contra hw
      rw [hx.waits (by simpa using hw)] at hψ
      cases hψ
    exact .step hx.served ⟨hx.free, hw⟩ hnext (hquiet hψ)
  · by_contra hp
    rw [hx.unstopped (by simpa using hp)] at hψ
    cases hψ

theorem Phase.pending_of_holds (h : φ.holds = true) : φ.pending = true := by
  cases φ <;> trivial

theorem Completes.of (h : Completes P a (Free a) φ db e) : φ.Of a := by
  cases h with
  | done => trivial
  | step _ hok _ _ => exact hok.1

/-- The call that goes second, after a step that leaves it without a stop: it may go first, since
what is left of it commutes with the other. -/
theorem Before.of_settled (hx : InOrder a x φ ψ db) (hnext : φ.next P a x db = some (φ', db'))
    (hne : a.decisionId ≠ b.decisionId) (hp : φ'.pending = false) (hs : φ'.stops = false)
    (h : Before P b a ψ φ' db' e) : Before P a b φ ψ db e := by
  obtain ⟨m, hb, ha, -, -⟩ := h
  obtain ⟨g, hspares, hrest⟩ := settled_completes (P := P) (c := a) hp hs
  obtain rfl := (hrest m).2 e ha
  refine ⟨db'.redecide g, .step hx.served hx.free hnext ((hrest db').1.mono fun _ _ h => h.1),
    (free_redecide (hspares _ hne.symm)).2 ⟨m, hb, rfl⟩, fun hψ => ?_, fun hψ => ?_⟩
  · have hw : φ.waits = false := by
      by_contra hw
      rw [hx.waits (by simpa using hw)] at hψ
      cases hψ
    exact .step hx.served ⟨hx.free, hw⟩ hnext (hrest db').1
  · by_contra hpending
    rw [hx.unstopped (by simpa using hpending)] at hψ
    cases hψ

/-- The call that goes second, after a transaction that asks for a stop: what is left of the other
commutes with it. -/
theorem Before.of_asking (hx : InOrder a x φ ψ db) (hnext : φ.next P a x db = some (φ', db'))
    (hne : a.decisionId ≠ b.decisionId) (hφ : φ.pending = true) (hs : φ'.stops = true)
    (h : Before P b a ψ φ' db' e) : Before P a b φ ψ db e := by
  obtain ⟨m, hb, ha, -, hover⟩ := h
  have hψ := hover hs
  obtain ⟨g, hspares, hrest⟩ := settled_completes (P := P) (c := b) hψ (hx.unstopped hφ)
  obtain rfl := (hrest db').2 m hb
  obtain ⟨m', ha', rfl⟩ := (free_redecide (hspares _ hne)).1 ha
  refine ⟨m', .step hx.served hx.free hnext ha', (hrest m').1.mono fun _ _ h => h.1,
    fun hholds => ?_, fun hstops => ?_⟩
  · rw [Phase.pending_of_holds hholds] at hψ
    cases hψ
  · rw [hx.unstopped hφ] at hstops
    cases hstops

/-- **A step of the call that goes second.** -/
theorem Before.second_step (hx : InOrder a x φ ψ db) (hnext : φ.next P a x db = some (φ', db'))
    (hne : a.decisionId ≠ b.decisionId) (h : Before P b a ψ φ' db' e) :
    Before P a b φ ψ db e ∨ Before P b a ψ φ db e := by
  cases Phase.next_went hx.served hnext with
  | threw err hφ =>
    obtain ⟨code, stop, herr⟩ := Phase.thrown_eq err
    rw [herr] at hnext h
    cases stop with
    | none => exact .inl (.of_settled hx hnext hne rfl rfl h)
    | some request => exact .inl (.of_asking hx hnext hne hφ rfl h)
  | @vain p hv =>
    -- the other call goes first: it stops nothing, and the key is free where this one inserts
    obtain ⟨m, hb, ha, hquiet, -⟩ := h
    have hfree : Free a (.looked p) m := by
      cases ha with
      | step _ hok _ _ => exact hok
    have hvain := hv.stable (hquiet rfl) hb.of hne (hfree.2 p rfl)
    refine .inr ⟨m, hb, .step (x := x) hx.served ⟨trivial, fun _ h => by cases h⟩ ?_ ha,
      (fun hbad => by cases hbad), fun hbad => by cases hbad⟩
    simp only [Phase.next, hx.served.unaborted, lookTx_inl_iff.2 ⟨rfl, hvain⟩]
  | ended => exact .inl (.of_settled hx hnext hne rfl rfl h)
  | @inserted p r db' =>
    cases hstop : r.2 with
    | none =>
      rw [hstop] at hnext h
      exact .inl (.of_settled hx hnext hne rfl rfl h)
    | some request =>
      rw [hstop] at hnext h
      exact .inl (.of_asking hx hnext hne rfl rfl h)
  | refused code stop =>
    cases stop with
    | none => exact .inl (.of_settled hx hnext hne rfl rfl h)
    | some request =>
      -- the other call goes first still: the refusal commutes with all that is left of it
      obtain ⟨m, hb, ha, -, hover⟩ := h
      obtain ⟨m', hb', rfl⟩ := (free_redecide (spares_refuseIn hne)).1 hb
      refine .inr ⟨m', hb', .step (x := x) hx.served ⟨trivial, fun _ h => by cases h⟩ ?_ ha,
        (fun hbad => by cases hbad), fun _ => hover rfl⟩
      simp only [Phase.next, hx.served.unaborted, rejectDecision_eq]
  | passed => exact .inl (.of_settled hx hnext hne rfl rfl h)
  | stopped => exact .inl (.of_settled hx hnext hne rfl rfl h)

end Steps

/-! ## The key of a decision -/

/-- The key `reserve` computes for a decision that is eligible, while the execution is allowed. -/
def Database.orderKey? (P : Platform) (db : Database) (decisionId : String) : Option String := do
  let control ← db.control
  guard (control.mode ≠ .known .disabled)
  let port ← (P.portFor control.mode).toOption
  let decision ← db.decision? decisionId
  guard (decision.status = .eligible ∧ decision.terms.isSome = true)
  let run ← db.runs.find? fun r => r.id == decision.simulationRunId
  return orderIdempotencyKey P {
    mode := control.mode
    operatorKey := port.operatorKey
    fixtureId := decision.fixtureId
    marketKey := decision.marketKey
    selectionKey := decision.selectionKey
    strategyVersion := run.strategyVersion
    decidedAt := decision.decidedAt }

section Keys

variable {db db' : Database} {id key : String} {env : TxEnv}

theorem orderKey?_congr (hcontrol : db'.control = db.control) (hruns : db'.runs = db.runs)
    (hdecision : db'.decision? id = db.decision? id) :
    db'.orderKey? P id = db.orderKey? P id := by
  rw [Database.orderKey?, Database.orderKey?, hcontrol, hruns, hdecision]

theorem Vain.orderKey {p : Pending} (hv : Vain P id env db p) :
    db.orderKey? P id = some p.idempotencyKey := by
  obtain ⟨control, port, hlock, hport, hmode, hoperator⟩ := hv.control
  obtain ⟨run, hrun, hkey⟩ := hv.run
  obtain ⟨-, hcontrol, mode, hknown, hallowed⟩ := lockForExecution_spec hlock
  have hnot : control.mode ≠ .known .disabled := by
    rw [hknown]
    rintro heq
    obtain rfl := StoredMode.known.inj heq
    cases hallowed
  simp [Database.orderKey?, hcontrol, hnot, hport, hv.decision, hv.eligible, hv.terms, hrun, hkey,
    hmode, hoperator, Except.toOption, guard]

theorem orderKey?_parts (h : db.orderKey? P id = some key) :
    ∃ control mode port decision terms run, db.control = some control ∧
      control.mode = .known mode ∧ executionAllowed mode env.interlockOpen = true ∧
      P.portFor control.mode = .ok port ∧ db.decision? id = some decision ∧
      decision.status = .eligible ∧ decision.terms = some terms ∧
      db.runs.find? (fun r => r.id == decision.simulationRunId) = some run ∧
      key = orderIdempotencyKey P ⟨control.mode, port.operatorKey, decision.fixtureId,
        decision.marketKey, decision.selectionKey, run.strategyVersion, decision.decidedAt⟩ := by
  simp only [Database.orderKey?, Option.bind_eq_bind, Option.bind_eq_some_iff] at h
  obtain ⟨control, hcontrol, _, hmode, port, hport, decision, hdecision, _, hd, run, hrun, hkey⟩ := h
  obtain ⟨hs, hterms⟩ : decision.status = .eligible ∧ decision.terms.isSome = true := by
    by_contra hno
    simp [guard, hno] at hd
  obtain ⟨terms, hterms⟩ := Option.isSome_iff_exists.1 hterms
  have hnot : control.mode ≠ .known .disabled := by
    intro hno
    simp [guard, hno] at hmode
  cases hp : P.portFor control.mode with
  | error err => simp [hp, Except.toOption] at hport
  | ok found =>
    obtain rfl : found = port := by simpa [hp, Except.toOption] using hport
    refine ⟨control, (control.mode.executionMode?).getD .disabled, found, decision, terms, run,
      hcontrol, ?_, ?_, hp, hdecision, hs, hterms, hrun, (Option.some.inj hkey).symm⟩
    · cases hm : control.mode with
      | known mode => rfl
      | unknown text => simp [Platform.portFor, hm] at hp
    · cases hm : control.mode with
      | unknown text => simp [Platform.portFor, hm] at hp
      | known mode => cases mode <;> simp_all [Platform.portFor, executionAllowed,
          StoredMode.executionMode?]

/-- The control row is read where execution is allowed. -/
theorem lockForExecution_known {control : ExecutionControl} {mode : ExecutionMode}
    (hread : env.controlUnreadable = false) (hcontrol : db.control = some control)
    (hmode : control.mode = .known mode) (hallowed : executionAllowed mode env.interlockOpen = true) :
    lockForExecution env db = .ok (control, db) := by
  rw [lockForExecution, if_neg (by simp [hread]), Tx.bind_eq_ok]
  refine ⟨_, db, DbTx.read_eq_ok.2 rfl, liftRule_eq_ok.2 ⟨?_, rfl⟩⟩
  simp [executionControl?, toSnapshot, hcontrol, hmode, hallowed]

/-- The lookup is in vain where the decision has no order and its key is free. -/
theorem vain_of_key (hread : env.controlUnreadable = false) (hk : db.orderKey? P id = some key)
    (hfresh : db.orders.find? (fun o => o.decisionId == id) = none)
    (hfree : db.orders.find? (fun o => o.idempotencyKey == key) = none) :
    ∃ p, Vain P id env db p := by
  obtain ⟨control, mode, port, decision, ⟨odd, stake, observedAt⟩, run, hcontrol, hmode, hallowed,
    hport, hdecision, hs, hterms, hrun, rfl⟩ := @orderKey?_parts _ _ _ _ env hk
  exact ⟨⟨decision, control.mode, port.operatorKey, _, stake, odd, observedAt⟩, hfresh,
    ⟨control, port, lockForExecution_known hread hcontrol hmode hallowed, hport, rfl, rfl⟩, hdecision,
    hs, hterms, ⟨run, hrun, rfl⟩, hfree⟩

/-- An order of the decision ends the transaction at once. -/
theorem lookTx_existing {o : BetOrder}
    (h : db.orders.find? (fun o => o.decisionId == id) = some o) :
    lookTx P id env db = .ok (.inr (some o), db) := by
  rw [lookTx, Tx.bind_eq_ok]
  exact ⟨_, db, DbTx.read_eq_ok.2 rfl, by simp only [h]; rfl⟩

/-- **A decision whose key is taken is refused**, and nothing else changes. -/
theorem lookTx_taken (hread : env.controlUnreadable = false) (hk : db.orderKey? P id = some key)
    (hfresh : db.orders.find? (fun o => o.decisionId == id) = none)
    (htaken : (db.orders.find? fun o => o.idempotencyKey == key).isSome = true) :
    lookTx P id env db = .ok (.inr none, db.redecide (refuseIn id .riskCheckFailed none)) := by
  obtain ⟨control, mode, port, decision, terms, run, hcontrol, hmode, hallowed, hport, hdecision, hs,
    hterms, hrun, rfl⟩ := @orderKey?_parts _ _ _ _ env hk
  have hfound := Table.of_find? hdecision
  have hid : decision.id = id := beq_iff_eq.1 hfound
  rw [lookTx, Tx.bind_eq_ok]
  refine ⟨_, db, DbTx.read_eq_ok.2 rfl, ?_⟩
  simp only [hfresh, Tx.bind_eq_ok]
  refine ⟨control, db, lockForExecution_known hread hcontrol hmode hallowed, port, db,
    liftRule_eq_ok.2 ⟨hport, rfl⟩, _, db, DbTx.read_eq_ok.2 rfl, decision, db,
    DbTx.get!_eq_ok.2 ⟨_, hdecision, rfl⟩, ?_⟩
  rw [if_neg (not_not.2 hs)]
  simp only [hterms, Tx.bind_eq_ok]
  refine ⟨_, db, DbTx.read_eq_ok.2 rfl, run, db, DbTx.get!_eq_ok.2 ⟨_, hrun, rfl⟩, _, db,
    DbTx.read_eq_ok.2 rfl, ?_⟩
  rw [if_pos htaken, Tx.bind_eq_ok]
  exact ⟨(), _, hid ▸ rejectDecision_eq db, Tx.pure_eq_ok.2 rfl⟩

end Keys

/-! ## How a call ends -/

/-- What a stop, if there is one to apply, leaves. -/
inductive Stops (stop : Option AutoStopRequest) (db : Database) : Database → Prop
  | none (h : stop = none) : Stops stop db db
  | some {control : ExecutionControl} (h : stop.isSome = true)
      (hmode : control.mode = .known .disabled) : Stops stop db { db with control := some control }

/-- How a call that is alone ends. -/
inductive AloneEnd (P : Platform) (c : ReserveCall) (db : Database) : Database → Prop
  /-- With the lookup. -/
  | looked {env : TxEnv} {found : Option BetOrder} {e : Database}
      (hread : env.controlUnreadable = false)
      (h : lookTx P c.decisionId env db = .ok (.inr found, e)) : AloneEnd P c db e
  /-- With a refusal: its transaction has thrown. -/
  | refused {code : RejectionCode} {stop : Option AutoStopRequest} {e : Database}
      (hwhy : (∃ env : TxEnv, env.controlUnreadable = false ∧
          ∀ r, lookTx P c.decisionId env db ≠ .ok r) ∨ ∃ env p, Vain P c.decisionId env db p)
      (hstop : Stops stop (db.redecide (refuseIn c.decisionId code (some .eligible))) e) :
      AloneEnd P c db e
  /-- With an order. -/
  | inserted {env env' : TxEnv} {p : Pending} {stop : Option AutoStopRequest} {m e : Database}
      (hv : Vain P c.decisionId env db p)
      (h : NewOrder (p.order c.accountId env') stop db m) (hstop : Stops stop m e) : AloneEnd P c db e

section Ends

variable {c : ReserveCall} {db e : Database} {ok : Phase → Database → Prop}

theorem Completes.stops {stop : Option AutoStopRequest}
    (h : Completes P c ok (.stopping stop) db e) : Stops stop db e := by
  cases h with
  | step hx _ hnext hrest =>
    cases Phase.next_went hx hnext with
    | threw _ hφ => cases hφ
    | passed =>
      rw [hrest.eq_of_done]
      exact .none rfl
    | stopped hstop =>
      obtain ⟨hdb, hmode⟩ := stopTx_spec hstop
      rw [hrest.eq_of_done, hdb]
      exact .some rfl hmode

theorem Completes.refuses {code : RejectionCode} {stop : Option AutoStopRequest}
    (h : Completes P c ok (.refusing code stop) db e) :
    Stops stop (db.redecide (refuseIn c.decisionId code (some .eligible))) e := by
  cases h with
  | step hx _ hnext hrest =>
    cases Phase.next_went hx hnext with
    | threw _ hφ => cases hφ
    | refused => exact hrest.stops

/-- **Every call that is alone ends in one of three ways.** -/
theorem Reserves.aloneEnd (h : Reserves P c db e) : AloneEnd P c db e := by
  obtain ⟨⟩ | ⟨hx, -, hnext, hrest⟩ := h
  rename_i x φ s
  have haborted := hx.unaborted
  simp only [Phase.next, haborted] at hnext
  cases hlook : lookTx P c.decisionId x.env db with
  | error err =>
    simp only [hlook] at hnext
    obtain ⟨rfl, rfl⟩ := Prod.mk.inj (Option.some.inj hnext)
    obtain ⟨code, stop, herr⟩ := Phase.thrown_eq err
    rw [herr] at hrest
    refine .refused (.inl ⟨x.env, hx.readable, fun r hr => ?_⟩) hrest.refuses
    rw [hlook] at hr
    cases hr
  | ok r =>
    obtain ⟨found, s'⟩ := r
    cases found with
    | inr found =>
      simp only [hlook] at hnext
      obtain ⟨rfl, rfl⟩ := Prod.mk.inj (Option.some.inj hnext)
      cases hrest.stops with
      | none => exact .looked hx.readable hlook
      | some hbad => cases hbad
    | inl p =>
      simp only [hlook] at hnext
      obtain ⟨rfl, rfl⟩ := Prod.mk.inj (Option.some.inj hnext)
      obtain ⟨rfl, hv⟩ := lookTx_inl_iff.1 hlook
      cases hrest with
      | step hx' _ hnext' hrest' =>
        cases Phase.next_went hx' hnext' with
        | threw err =>
          obtain ⟨code, stop, herr⟩ := Phase.thrown_eq err
          rw [herr] at hrest'
          exact .refused (.inr ⟨_, p, hv⟩) hrest'.refuses
        | inserted hins => exact .inserted hv (insertAndReserve_new hins) hrest'.stops

/-- A stop leaves the orders. -/
theorem Stops.orders {stop : Option AutoStopRequest} (h : Stops stop db e) :
    e.orders = db.orders := by
  cases h <;> rfl

theorem lookTx_inr_orders {env : TxEnv} {id : String} {found : Option BetOrder}
    (h : lookTx P id env db = .ok (.inr found, e)) :
    e.orders = db.orders ∧ e.control = db.control := by
  rcases lookTx_inr h with rfl | ⟨code, rfl⟩ <;> exact ⟨rfl, rfl⟩

/-- **A call that leaves a new order `RESERVED` stops nothing.** -/
theorem AloneEnd.reserved (h : AloneEnd P c db e) {o : BetOrder} (ho : o ∈ e.orders)
    (hnew : ¬ o ∈ db.orders) (hs : o.status = .reserved) :
    e.control = db.control ∧ o.decisionId = c.decisionId ∧
      ∃ env p, Vain P c.decisionId env db p ∧ o.idempotencyKey = p.idempotencyKey := by
  cases h with
  | looked _ hlook => exact (hnew ((lookTx_inr_orders hlook).1 ▸ ho)).elim
  | refused _ hstop => exact (hnew (hstop.orders ▸ ho)).elim
  | @inserted env env' p stop m e hv hins hstop =>
    rw [hstop.orders] at ho
    obtain ⟨o', hrows, hdecision, hkey, hnone⟩ := hins.row
    rw [Table.mem_def, hrows, List.mem_append, List.mem_singleton] at ho
    obtain rfl := ho.resolve_left hnew
    have hid : p.decision.id = c.decisionId := by
      have hfound := Table.of_find? hv.decision
      exact beq_iff_eq.1 hfound
    refine ⟨?_, hdecision.trans hid, env, p, hv, hkey⟩
    cases hstop with
    | none => exact hins.control
    | some hbad => rw [hnone hs] at hbad; cases hbad

/-- A call leaves the control row, or stopped. -/
theorem AloneEnd.control (h : AloneEnd P c db e) : e.control = db.control ∨
    ∃ control, e.control = some control ∧ control.mode = .known .disabled := by
  have hstops : ∀ {stop m}, m.control = db.control → Stops stop m e → e.control = db.control ∨
      ∃ control, e.control = some control ∧ control.mode = .known .disabled := by
    intro stop m hm hstop
    cases hstop with
    | none => exact .inl hm
    | some _ hmode => exact .inr ⟨_, rfl, hmode⟩
  cases h with
  | looked _ hlook => exact .inl (lookTx_inr_orders hlook).2
  | refused _ hstop => exact hstops (m := db.redecide _) rfl hstop
  | inserted _ hins hstop => exact hstops hins.control hstop

theorem not_vain_of_disabled {id : String} {env : TxEnv} {p : Pending}
    (h : ∃ control, db.control = some control ∧ control.mode = .known .disabled) :
    ¬ Vain P id env db p := by
  rintro hv
  obtain ⟨control, hcontrol, hmode⟩ := h
  obtain ⟨found, port, hlock, -⟩ := hv.control
  obtain ⟨-, hfound, mode, hknown, hallowed⟩ := lockForExecution_spec hlock
  rw [hcontrol] at hfound
  rw [← Option.some.inj hfound, hmode] at hknown
  rw [← StoredMode.known.inj hknown] at hallowed
  cases hallowed

end Ends

/-! ## The duplicate -/

section Duplicates

variable {a b : ReserveCall} {db m e : Database} {key : String}

/-- What has come of the call whose signal has an order already: no order, a refusal, and the control
row as it was. -/
structure Duplicate (c : ReserveCall) (db e : Database) : Prop where
  control : e.control = db.control
  orders : ∀ o ∈ e.orders, o.decisionId = c.decisionId → o ∈ db.orders
  refused : (∀ o ∈ db.orders, o.decisionId ≠ c.decisionId) →
    ∃ d, e.decision? c.decisionId = some d ∧ d.status = .rejected

/-- A refusal shows in the decision. -/
theorem decision?_refuse {id : String} {code : RejectionCode} {onlyFrom : Option DecisionStatus}
    {d : BetDecision} (hd : db.decision? id = some d) (hs : d.status = .eligible)
    (honly : onlyFrom.all (· == .eligible) = true) :
    ∃ d', (db.redecide (refuseIn id code onlyFrom)).decision? id = some d' ∧
      d'.status = .rejected := by
  have hfind : (db.redecide (refuseIn id code onlyFrom)).decision? id =
      (db.decision? id).map (refuseRow id code onlyFrom) :=
    Table.find?_map_key refuseRow_id id db.decisions.rows
  have hfound := Table.of_find? hd
  have hid : (d.id == id) = true := hfound
  refine ⟨refuseRow id code onlyFrom d, by rw [hfind, hd]; rfl, ?_⟩
  rw [refuseRow, hid, hs, honly]
  rfl

theorem isSome_of_key {o : BetOrder} (ho : o ∈ db.orders) (hkey : o.idempotencyKey = key) :
    (db.orders.find? fun o => o.idempotencyKey == key).isSome = true :=
  Table.find?_isSome_iff.2 ⟨o, ho, beq_iff_eq.2 hkey⟩

/-- **The call that finds the key taken is a duplicate**, and nothing else. -/
theorem AloneEnd.duplicate (h : AloneEnd P b m e) (hk : m.orderKey? P b.decisionId = some key)
    {o : BetOrder} (ho : o ∈ m.orders) (hkey : o.idempotencyKey = key) : Duplicate b m e := by
  have htaken := isSome_of_key ho hkey
  cases hfresh : m.orders.find? fun o => o.decisionId == b.decisionId with
  | some existing =>
    have hlook := fun env => @lookTx_existing P _ _ env _ hfresh
    have hexisting : existing ∈ m.orders := Table.mem_of_find? hfresh
    have hid := Table.of_find? hfresh
    have hmem : ∃ x ∈ m.orders, x.decisionId = b.decisionId := ⟨existing, hexisting, beq_iff_eq.1 hid⟩
    cases h with
    | @looked env found e hread h =>
      rw [hlook env] at h
      obtain rfl := (Prod.mk.inj (Except.ok.inj h)).2
      exact ⟨rfl, fun _ hx _ => hx, fun hnone => (hnone _ hmem.choose_spec.1 hmem.choose_spec.2).elim⟩
    | refused hwhy =>
      rcases hwhy with ⟨env, -, hno⟩ | ⟨env, p, hv⟩
      · exact (hno _ (hlook env)).elim
      · rw [hv.fresh] at hfresh
        cases hfresh
    | inserted hv =>
      rw [hv.fresh] at hfresh
      cases hfresh
  | none =>
    have hlook := fun env hread => @lookTx_taken P _ _ _ env hread hk hfresh htaken
    have hvain : ∀ {env p}, ¬ Vain P b.decisionId env m p := by
      intro env p hv
      have hp := hv.orderKey
      rw [hk] at hp
      have hfree := hv.free
      rw [← Option.some.inj hp] at hfree
      rw [hfree] at htaken
      cases htaken
    cases h with
    | @looked env found e hread h =>
      rw [hlook env hread] at h
      obtain rfl := (Prod.mk.inj (Except.ok.inj h)).2
      obtain ⟨_, _, _, d, _, _, -, -, -, -, hd, hs, -⟩ := @orderKey?_parts _ _ _ _ env hk
      exact ⟨rfl, fun _ hx _ => hx, fun _ => decision?_refuse hd hs rfl⟩
    | refused hwhy =>
      rcases hwhy with ⟨env, hread, hno⟩ | ⟨env, p, hv⟩
      · exact (hno _ (hlook env hread)).elim
      · exact (hvain hv).elim
    | inserted hv => exact (hvain hv).elim

/-- **Where two calls of one signal have gone one after the other and an order is `RESERVED`, the
other call is the duplicate.** -/
theorem duplicate_of_turns (hne : a.decisionId ≠ b.decisionId) (ha : Reserves P a db m)
    (hb : Reserves P b m e) (hka : db.orderKey? P a.decisionId = some key)
    (hkb : db.orderKey? P b.decisionId = some key) {o : BetOrder} (ho : o ∈ e.orders)
    (hnew : ¬ o ∈ db.orders) (hs : o.status = .reserved) :
    (o.decisionId = a.decisionId → Duplicate b db e) ∧
      (o.decisionId = b.decisionId → Duplicate a db e) := by
  have hapa : Apart a db m := ha.apart trivial
  have hapb : Apart b m e := hb.apart trivial
  have hkm : m.control = db.control → m.orderKey? P b.decisionId = some key := fun hc =>
    (orderKey?_congr hc hapa.runs (hapa.decision _ hne.symm)).trans hkb
  by_cases hom : o ∈ m.orders
  · -- the first call made it
    obtain ⟨hc, hid, env, p, hv, hkey⟩ := ha.aloneEnd.reserved hom hnew hs
    have hp := hv.orderKey
    rw [hka] at hp
    have hdup := hb.aloneEnd.duplicate (hkm hc) hom (hkey.trans (Option.some.inj hp).symm)
    refine ⟨fun _ => ⟨hdup.control.trans hc, fun x hx hxid => ?_, fun hnone => ?_⟩, fun hbad => ?_⟩
    · exact (hapa.new x (hdup.orders x hx hxid)).resolve_right fun hxa => hne (hxa.symm.trans hxid)
    · refine hdup.refused fun x hx hxid => ?_
      rcases hapa.new x hx with hold | hxa
      · exact hnone x hold hxid
      · exact hne (hxa.symm.trans hxid)
    · exact (hne (hid.symm.trans hbad)).elim
  · -- the second call made it: the first has neither stopped nor made an order
    obtain ⟨hc, hid, env, p, hv, hkey⟩ := hb.aloneEnd.reserved ho hom hs
    have hcm : m.control = db.control := by
      rcases ha.aloneEnd.control with hcm | hdisabled
      · exact hcm
      · exact (not_vain_of_disabled hdisabled hv).elim
    have hp := hv.orderKey
    rw [hkm hcm] at hp
    have hfree : ∀ x ∈ m.orders, x.idempotencyKey ≠ key := fun x hx hxkey => by
      have hno := List.find?_eq_none.1 hv.free x hx
      rw [← Option.some.inj hp] at hno
      exact hno (beq_iff_eq.2 hxkey)
    obtain ⟨hold, hrefused⟩ : (∀ x ∈ m.orders, x ∈ db.orders) ∧
        ((∀ x ∈ db.orders, x.decisionId ≠ a.decisionId) →
          ∃ d, m.decision? a.decisionId = some d ∧ d.status = .rejected) := by
      obtain ⟨_, _, _, d, _, _, -, -, -, -, hd, hds, -⟩ := @orderKey?_parts _ _ _ _ env hka
      cases ha.aloneEnd with
      | @looked env' found m hread hlook =>
        obtain ⟨horders, -⟩ := lookTx_inr_orders hlook
        refine ⟨fun x hx => horders ▸ hx, fun hnone => ?_⟩
        have hfresh : db.orders.find? (fun x => x.decisionId == a.decisionId) = none :=
          List.find?_eq_none.2 fun x hx => by simpa using hnone x hx
        have hkeys : db.orders.find? (fun x => x.idempotencyKey == key) = none :=
          List.find?_eq_none.2 fun x hx => by simpa using hfree x (hapa.stay x hx)
        obtain ⟨p', hv'⟩ := vain_of_key hread hka hfresh hkeys
        rw [lookTx_inl_iff.2 ⟨rfl, hv'⟩] at hlook
        cases Prod.mk.inj (Except.ok.inj hlook) with | intro hbad _ => cases hbad
      | refused _ hstop =>
        refine ⟨fun x hx => hstop.orders ▸ hx, fun _ => ?_⟩
        cases hstop with
        | none => exact decision?_refuse hd hds rfl
        | some => exact decision?_refuse hd hds rfl
      | inserted hva hins hstop =>
        obtain ⟨x, hrows, -, hxkey, -⟩ := hins.row
        have hpa := hva.orderKey
        rw [hka] at hpa
        refine (hfree x ?_ (hxkey.trans (Option.some.inj hpa).symm)).elim
        rw [hstop.orders, Table.mem_def, hrows]
        exact List.mem_append_right _ (List.mem_singleton_self x)
    refine ⟨fun hbad => (hne (hbad.symm.trans hid)).elim, fun _ => ⟨hc.trans hcm, fun x hx hxid => ?_,
      fun hnone => ?_⟩⟩
    · exact hold x ((hapb.new x hx).resolve_right fun hxb => hne (hxid.symm.trans hxb))
    · rw [hapb.decision _ hne]
      exact hrefused hnone

end Duplicates

/-! ## Two calls -/

/-- A step of a pair that is in order: it is served, an insertion finds its key free, and no
transaction runs while the other call has still to stop. -/
def Pair.orderly (i : Bool) (x : Attempt) (s : Pair) : Bool :=
  x.served && !((s.phase i).pending && (s.phase !i).stops) &&
    match s.phase i with
    | .looked p => s.db.orders.rows.all fun o => o.idempotencyKey != p.idempotencyKey
    | _ => true

section Pairs

variable {calls : Bool → ReserveCall} {s s' : Pair} {i : Bool} {x : Attempt}

theorem Pair.next_eq_some (h : s.next P calls i x = some s') :
    ((s.phase i).waits = true → (s.phase !i).holds = false) ∧
      (s.phase i).next P (calls i) x s.db = some (s'.phase i, s'.db) ∧
      (s'.phase !i) = s.phase !i := by
  rw [next] at h
  split_ifs at h with hwait
  obtain ⟨⟨φ, db⟩, hnext, rfl⟩ := Option.map_eq_some_iff.1 h
  refine ⟨fun hw => ?_, by simpa using hnext, Function.update_of_ne (by simp) _ _⟩
  by_contra hholds
  exact hwait (by simp [hw, hholds])

theorem Pair.inOrder (hof : (s.phase i).Of (calls i)) (h : s.orderly i x = true)
    (hwaits : (s.phase i).waits = true → (s.phase !i).holds = false) :
    InOrder (calls i) x (s.phase i) (s.phase !i) s.db := by
  rw [orderly, Bool.and_eq_true, Bool.and_eq_true] at h
  obtain ⟨⟨hserved, hstops⟩, hfree⟩ := h
  refine ⟨Attempt.served_iff.1 hserved, ⟨hof, fun p hp o ho => ?_⟩, hwaits, fun hpending => ?_⟩
  · rw [hp] at hfree
    simpa using List.all_eq_true.1 hfree o ho
  · simpa [hpending] using hstops

/-- The calls go on with their own decisions. -/
theorem Pair.run_of (h : Pair.Run P calls Pair.orderly s s') (hof : ∀ i, (s.phase i).Of (calls i)) :
    ReflTransGen (fun t t' => (∀ i, (t.phase i).Of (calls i)) ∧
      ∃ i x, t.orderly i x = true ∧ t.next P calls i x = some t') s s' ∧
      ∀ i, (s'.phase i).Of (calls i) := by
  induction h with
  | refl => exact ⟨.refl, hof⟩
  | tail _ hstep ih =>
    obtain ⟨i, x, hx, hnext⟩ := hstep
    refine ⟨ih.1.tail ⟨ih.2, i, x, hx, hnext⟩, fun j => ?_⟩
    obtain ⟨hwaits, hi, hj⟩ := Pair.next_eq_some hnext
    by_cases hij : j = i
    · subst hij
      exact (Phase.next_went (Pair.inOrder (ih.2 j) hx hwaits).served hi).of
    · obtain rfl : j = !i := by
        cases i <;> cases j <;> simp_all
      rw [hj]
      exact ih.2 _

/-- Backwards from the end of a run, each step leaves one of the two orders possible. -/
theorem Pair.before (hne : ∀ i, (calls i).decisionId ≠ (calls !i).decisionId)
    (h : ReflTransGen (fun t t' : Pair => (∀ i, (t.phase i).Of (calls i)) ∧
      ∃ i x, t.orderly i x = true ∧ t.next P calls i x = some t') s s')
    (hover : ∀ i, s'.phase i = .done) :
    ∃ i, Before P (calls i) (calls !i) (s.phase i) (s.phase !i) s.db s'.db := by
  induction h using ReflTransGen.head_induction_on with
  | refl =>
    refine ⟨true, s'.db, ?_⟩
    rw [hover, hover]
    exact ⟨.done _, .done _, (fun hbad => nomatch hbad), fun hbad => nomatch hbad⟩
  | head hstep _ ih =>
    obtain ⟨hof, i, x, hx, hnext⟩ := hstep
    obtain ⟨hwaits, hi, hother⟩ := Pair.next_eq_some hnext
    have hin := Pair.inOrder (hof i) hx hwaits
    obtain ⟨j, hj⟩ := ih
    by_cases hij : j = i
    · subst hij
      rw [hother] at hj
      exact ⟨j, hj.first_step hin hi⟩
    · obtain rfl : j = !i := by
        cases i <;> cases j <;> simp_all
      rw [Bool.not_not, hother] at hj
      rcases hj.second_step hin hi (hne i) with hfirst | hsecond
      · exact ⟨i, hfirst⟩
      · exact ⟨!i, by rwa [Bool.not_not]⟩

/-- **Two calls in order end as one after the other.** -/
theorem Pair.serial (hne : ∀ i, (calls i).decisionId ≠ (calls !i).decisionId) {db : Database}
    (h : Pair.Run P calls Pair.orderly (.start db) s) (hover : ∀ i, s.phase i = .done) :
    ∃ i m, Reserves P (calls i) db m ∧ Reserves P (calls !i) m s.db := by
  obtain ⟨i, m, hi, hj, -⟩ := Pair.before hne (Pair.run_of h fun _ => trivial).1 hover
  exact ⟨i, m, hi.mono fun _ _ _ => trivial, hj.mono fun _ _ _ => trivial⟩

/-- What two calls of one signal should come to: the state is that of one call after the other, and
where one of them has left an order `RESERVED`, the other is its duplicate. -/
def Serialised (P : Platform) (calls : Bool → ReserveCall) (db e : Database) : Prop :=
  (∃ i m, Reserves P (calls i) db m ∧ Reserves P (calls !i) m e) ∧
    ∀ i, ∀ o ∈ e.orders, ¬ o ∈ db.orders → o.decisionId = (calls i).decisionId →
      o.status = .reserved → Duplicate (calls !i) db e

/-- **Two concurrent reservations of one signal end as one after the other**, in every interleaving in
which no insertion finds its key taken and no transaction runs while the other call has still to
stop. -/
theorem reservations_serialisable {db : Database} {key : String}
    (hne : (calls true).decisionId ≠ (calls false).decisionId)
    (hkey : ∀ i, db.orderKey? P (calls i).decisionId = some key)
    (h : Pair.Run P calls Pair.orderly (.start db) s) (hover : ∀ i, s.phase i = .done) :
    Serialised P calls db s.db := by
  have hne' : ∀ i, (calls i).decisionId ≠ (calls !i).decisionId := by
    intro i
    cases i
    · exact hne.symm
    · exact hne
  obtain ⟨i, m, hi, hj⟩ := Pair.serial hne' h hover
  refine ⟨⟨i, m, hi, hj⟩, fun j o ho hnew hid hs => ?_⟩
  obtain ⟨hfirst, hsecond⟩ := duplicate_of_turns (hne' i) hi hj (hkey i) (hkey !i) ho hnew hs
  by_cases hij : j = i
  · subst hij
    exact hfirst hid
  · obtain rfl : j = !i := by
      cases i <;> cases j <;> simp_all
    rw [Bool.not_not]
    exact hsecond hid

end Pairs

end Serial

namespace Sample

/-- The execution is enabled in `SANDBOX` for an account of 100.00, and there are two decisions of one
signal. -/
def twins : Database :=
  { seed with
    control := some {
      id := "control", mode := .known .sandbox, version := 4, activeRiskPolicyId := some "policy",
      stopReason := none, stopSource := none }
    policies := table _ [⟨"policy", 1, "EUR", 2000, 5000, 5000, 5000, 60000⟩]
    accounts := table _ [⟨"account", .known .sandbox, "book", "EUR", 10000, 0, 1⟩]
    entries := table _
      [⟨"account", none, "open:account", .adjustment, 10000, 0, 10000, 0, "EUR", 1, 0⟩]
    decisions := table _ [decision, { decision with id := "twin", idempotencyKey := "twin" }] }

def twinCalls (i : Bool) : ReserveCall := ⟨if i then "decision" else "twin", "account"⟩

/-- A step of a call, which draws this id. -/
def attempt (i : Bool) (uuid : String) : Bool × Attempt := (i, ⟨.at 1000 uuid, none⟩)

/-- One reservation after the other. -/
def inTurn : List (Bool × Attempt) :=
  [attempt true "", attempt true "order", attempt true "", attempt false "", attempt false ""]

/-- Both look the key up before either inserts. -/
def crossed : List (Bool × Attempt) :=
  [attempt true "", attempt false "", attempt true "order", attempt false "other", attempt true "",
    attempt false "", attempt false ""]

end Sample

/-- One call after the other: an order, and a duplicate. -/
theorem reservations_serialisable_in_turn : ∃ s : Pair,
    Pair.replay Sample.platform Sample.twinCalls Pair.orderly Sample.inTurn
      (.start Sample.twins) = some s ∧
    (∃ o ∈ s.db.orders, o.decisionId = "decision" ∧ o.status = .reserved) ∧
    Serialised Sample.platform Sample.twinCalls Sample.twins s.db := by
  have hreplay : (Pair.replay Sample.platform Sample.twinCalls Pair.orderly Sample.inTurn
      (.start Sample.twins)).map (fun s => (s.phase true, s.phase false,
        s.db.orders.rows.any fun o => o.decisionId == "decision" && o.status == .reserved)) =
      some (.done, .done, true) := by
    decide +kernel
  obtain ⟨s, hs, hend⟩ := Option.map_eq_some_iff.1 hreplay
  obtain ⟨htrue, hend⟩ := Prod.mk.inj hend
  obtain ⟨hfalse, horder⟩ := Prod.mk.inj hend
  have hkey : ∀ i, Sample.twins.orderKey? Sample.platform (Sample.twinCalls i).decisionId =
      some Sample.key := by
    rintro (_ | _) <;> decide +kernel
  refine ⟨s, hs, ?_, reservations_serialisable (by decide) hkey (Pair.replay_run hs)
    (by rintro (_ | _) <;> assumption)⟩
  obtain ⟨o, ho, hok⟩ := List.any_eq_true.1 horder
  exact ⟨o, ho, by simpa using hok⟩

/-- **The call that is caught by the unique index stops the execution**: two calls that both look the
key up before either inserts end in a state that no order of the two explains. -/
theorem duplicate_stops : ¬ ∀ (P : Platform) (calls : Bool → ReserveCall) (db : Database) (s : Pair)
    (key : String), (calls true).decisionId ≠ (calls false).decisionId →
    (∀ i, db.orderKey? P (calls i).decisionId = some key) →
    Pair.Run P calls (fun _ x _ => x.served) (.start db) s → (∀ i, s.phase i = .done) →
    Serialised P calls db s.db := by
  intro hall
  have hreplay : (Pair.replay Sample.platform Sample.twinCalls (fun _ x _ => x.served)
      Sample.crossed (.start Sample.twins)).map (fun s => (s.phase true, s.phase false,
        s.db.control.map (·.version),
        s.db.orders.rows.any fun o => o.decisionId == "decision" && o.status == .reserved)) =
      some (.done, .done, some 5, true) := by
    decide +kernel
  obtain ⟨s, hs, hend⟩ := Option.map_eq_some_iff.1 hreplay
  obtain ⟨htrue, hend⟩ := Prod.mk.inj hend
  obtain ⟨hfalse, hend⟩ := Prod.mk.inj hend
  obtain ⟨hversion, horder⟩ := Prod.mk.inj hend
  have hserial := hall Sample.platform Sample.twinCalls Sample.twins s Sample.key (by decide)
    (by rintro (_ | _) <;> decide +kernel) (Pair.replay_run hs) (by rintro (_ | _) <;> assumption)
  obtain ⟨o, ho, hok⟩ := List.any_eq_true.1 horder
  rw [Bool.and_eq_true, beq_iff_eq, beq_iff_eq] at hok
  have hdup := hserial.2 true o ho (fun hbad => nomatch hbad) hok.1 hok.2
  rw [hdup.control] at hversion
  cases hversion

end ApiScore
