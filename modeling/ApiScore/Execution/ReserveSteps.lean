import ApiScore.Execution.DecisionMoves
import ApiScore.Execution.ReserveCommutes

/-!
# What a step of a reservation does

* `lookTx_inl_iff` — when the lookup of the key is in vain.
* `lookTx_inr` — what a transaction that ends with the lookup has written.
* `insertAndReserve_new` — what an insertion leaves alone.
-/

set_option autoImplicit false

namespace ApiScore

open Relational

section Steps

variable {P : Platform} {env : TxEnv} {db db' : Database} {id : String}

/-! ## The lookup -/

/-- What a transaction has read when it has looked its key up in vain. -/
structure Vain (P : Platform) (id : String) (env : TxEnv) (db : Database) (p : Pending) : Prop where
  fresh : db.orders.find? (fun o => o.decisionId == id) = none
  control : ∃ control port, lockForExecution env db = .ok (control, db) ∧
    P.portFor control.mode = .ok port ∧ p.mode = control.mode ∧ p.operatorKey = port.operatorKey
  decision : db.decision? id = some p.decision
  eligible : p.decision.status = .eligible
  terms : p.decision.terms = some (p.odd, p.stake, p.observedAt)
  run : ∃ run, db.runs.find? (fun r => r.id == p.decision.simulationRunId) = some run ∧
    p.idempotencyKey = orderIdempotencyKey P {
      mode := p.mode
      operatorKey := p.operatorKey
      fixtureId := p.decision.fixtureId
      marketKey := p.decision.marketKey
      selectionKey := p.decision.selectionKey
      strategyVersion := run.strategyVersion
      decidedAt := p.decision.decidedAt }
  free : db.orders.find? (fun o => o.idempotencyKey == p.idempotencyKey) = none

/-- **When the lookup of the key is in vain.** -/
theorem lookTx_inl_iff {p : Pending} :
    lookTx P id env db = .ok (.inl p, db') ↔ db' = db ∧ Vain P id env db p := by
  constructor
  · intro h
    rw [lookTx, Tx.bind_eq_ok] at h
    obtain ⟨_, s, hexisting, h⟩ := h
    obtain ⟨rfl, rfl⟩ := Prod.mk.inj (DbTx.read_eq_ok.1 hexisting)
    cases hf : s.orders.find? fun o => o.decisionId == id with
    | some existing =>
      simp only [hf] at h
      cases Prod.mk.inj (Tx.pure_eq_ok.1 h) with
      | intro hbad _ => cases hbad
    | none =>
      simp only [hf, Tx.bind_eq_ok] at h
      obtain ⟨control, s₁, hlock, port, s₂, hport, _, s₃, hdecision, decision, s₄, hget, h⟩ := h
      obtain ⟨rfl, -, -⟩ := lockForExecution_spec hlock
      obtain ⟨hport', rfl⟩ := liftRule_eq_ok.1 hport
      obtain ⟨rfl, rfl⟩ := Prod.mk.inj (DbTx.read_eq_ok.1 hdecision)
      obtain ⟨d, hd, heq⟩ := DbTx.get!_eq_ok.1 hget
      obtain ⟨rfl, rfl⟩ := Prod.mk.inj heq
      rw [Tx.ite_eq_ok] at h
      rcases h with ⟨-, h⟩ | ⟨hs, h⟩
      · cases Prod.mk.inj (Tx.pure_eq_ok.1 h) with
        | intro hbad _ => cases hbad
      · cases hterms : decision.terms with
        | none =>
          simp only [hterms, Tx.bind_eq_ok] at h
          obtain ⟨_, s₈, -, h⟩ := h
          cases Prod.mk.inj (Tx.pure_eq_ok.1 h) with
          | intro hbad _ => cases hbad
        | some terms =>
          simp only [hterms, Tx.bind_eq_ok] at h
          obtain ⟨_, s₅, hruns, run, s₆, hrun, taken, s₇, htaken, h⟩ := h
          obtain ⟨rfl, rfl⟩ := Prod.mk.inj (DbTx.read_eq_ok.1 hruns)
          obtain ⟨_, hrun, heq⟩ := DbTx.get!_eq_ok.1 hrun
          obtain ⟨rfl, rfl⟩ := Prod.mk.inj heq
          obtain ⟨rfl, rfl⟩ := Prod.mk.inj (DbTx.read_eq_ok.1 htaken)
          rw [Tx.ite_eq_ok] at h
          rcases h with ⟨-, h⟩ | ⟨hfree, h⟩
          · rw [Tx.bind_eq_ok] at h
            obtain ⟨_, s₈, -, h⟩ := h
            cases Prod.mk.inj (Tx.pure_eq_ok.1 h) with
            | intro hbad _ => cases hbad
          · obtain ⟨hp, rfl⟩ := Prod.mk.inj (Tx.pure_eq_ok.1 h)
            obtain rfl := Sum.inl.inj hp
            exact ⟨rfl, hf, ⟨control, port, hlock, hport', rfl, rfl⟩, hd, not_not.1 hs, hterms,
              ⟨run, hrun, rfl⟩, by simpa using hfree⟩
  · rintro ⟨rfl, hv⟩
    obtain ⟨control, port, hlock, hport, hmode, hoperator⟩ := hv.control
    obtain ⟨run, hrun, hkey⟩ := hv.run
    obtain ⟨decision, mode, operatorKey, key, stake, odd, observedAt⟩ := p
    obtain rfl : mode = control.mode := hmode
    obtain rfl : operatorKey = port.operatorKey := hoperator
    rw [lookTx, Tx.bind_eq_ok]
    refine ⟨_, db', DbTx.read_eq_ok.2 rfl, ?_⟩
    simp only [hv.fresh, Tx.bind_eq_ok]
    refine ⟨control, db', hlock, port, db', liftRule_eq_ok.2 ⟨hport, rfl⟩, _, db',
      DbTx.read_eq_ok.2 rfl, decision, db', DbTx.get!_eq_ok.2 ⟨_, hv.decision, rfl⟩, ?_⟩
    rw [if_neg (not_not.2 hv.eligible)]
    have hterms : decision.terms = some (odd, stake, observedAt) := hv.terms
    simp only [hterms, Tx.bind_eq_ok]
    refine ⟨_, db', DbTx.read_eq_ok.2 rfl, run, db', DbTx.get!_eq_ok.2 ⟨_, hrun, rfl⟩, _, db',
      DbTx.read_eq_ok.2 rfl, ?_⟩
    change key = orderIdempotencyKey P ⟨control.mode, port.operatorKey, decision.fixtureId,
      decision.marketKey, decision.selectionKey, run.strategyVersion, decision.decidedAt⟩ at hkey
    subst hkey
    have hfree := hv.free
    simp only at hfree
    rw [hfree]
    rfl

/-- **What a transaction that ends with the lookup has written**: nothing, or a refusal. -/
theorem lookTx_inr {found : Option BetOrder} (h : lookTx P id env db = .ok (.inr found, db')) :
    db' = db ∨ ∃ code, db' = db.redecide (refuseIn id code none) := by
  rw [lookTx, Tx.bind_eq_ok] at h
  obtain ⟨_, s, hexisting, h⟩ := h
  obtain ⟨rfl, rfl⟩ := Prod.mk.inj (DbTx.read_eq_ok.1 hexisting)
  cases hf : s.orders.find? fun o => o.decisionId == id with
  | some existing =>
    simp only [hf] at h
    exact .inl (Prod.mk.inj (Tx.pure_eq_ok.1 h)).2
  | none =>
    simp only [hf, Tx.bind_eq_ok] at h
    obtain ⟨control, s₁, hlock, port, s₂, hport, _, s₃, hdecision, decision, s₄, hget, h⟩ := h
    obtain ⟨rfl, -, -⟩ := lockForExecution_spec hlock
    obtain ⟨-, rfl⟩ := liftRule_eq_ok.1 hport
    obtain ⟨rfl, rfl⟩ := Prod.mk.inj (DbTx.read_eq_ok.1 hdecision)
    obtain ⟨d, hd, heq⟩ := DbTx.get!_eq_ok.1 hget
    obtain ⟨rfl, rfl⟩ := Prod.mk.inj heq
    obtain rfl : decision.id = id := by simpa using Table.of_find? hd
    have hrefused : ∀ {code} {r : (Pending ⊕ Option BetOrder) × Database},
        (do rejectDecision decision.id code none; return .inr none : DbTx _) s₄ = .ok r →
          ∃ code, r.2 = s₄.redecide (refuseIn decision.id code none) := by
      intro code r hr
      rw [Tx.bind_eq_ok, rejectDecision_eq] at hr
      obtain ⟨_, s₅, hrej, hr⟩ := hr
      rw [Tx.pure_eq_ok.1 hr]
      exact ⟨code, (Prod.mk.inj (Except.ok.inj hrej)).2.symm⟩
    rw [Tx.ite_eq_ok] at h
    rcases h with ⟨-, h⟩ | ⟨hs, h⟩
    · exact .inl (Prod.mk.inj (Tx.pure_eq_ok.1 h)).2
    · cases hterms : decision.terms with
      | none =>
        simp only [hterms] at h
        exact .inr (hrefused h)
      | some terms =>
        simp only [hterms, Tx.bind_eq_ok] at h
        obtain ⟨_, s₅, hruns, run, s₆, hrun, taken, s₇, htaken, h⟩ := h
        obtain ⟨rfl, rfl⟩ := Prod.mk.inj (DbTx.read_eq_ok.1 hruns)
        obtain ⟨_, -, heq⟩ := DbTx.get!_eq_ok.1 hrun
        obtain ⟨rfl, rfl⟩ := Prod.mk.inj heq
        obtain ⟨rfl, rfl⟩ := Prod.mk.inj (DbTx.read_eq_ok.1 htaken)
        rw [Tx.ite_eq_ok] at h
        rcases h with ⟨-, h⟩ | ⟨-, h⟩
        · exact .inr (hrefused h)
        · cases Prod.mk.inj (Tx.pure_eq_ok.1 h) with
          | intro hbad _ => cases hbad

/-! ## The insertion -/

/-- A reservation that is granted asks for no stop. -/
theorem reserveWithin_granted {request : ReserveStakeRequest} {entry : BankrollLedgerEntry}
    {replayed : Bool} {stop : Option AutoStopRequest}
    (h : reserveWithin request env db = .ok ((.reserved entry replayed, stop), db')) :
    stop = none := by
  rw [reserveWithin, Tx.bind_eq_ok] at h
  obtain ⟨control, s, -, h⟩ := h
  rw [Tx.bind_eq_ok] at h
  obtain ⟨found, s₁, -, h⟩ := h
  cases found with
  | some entry =>
    simp only [Tx.bind_eq_ok] at h
    obtain ⟨r, s₂, -, h⟩ := h
    exact (Prod.mk.inj (Prod.mk.inj (Tx.pure_eq_ok.1 h)).1).2
  | none =>
    simp only [Tx.ite_eq_ok] at h
    rcases h with ⟨-, h⟩ | ⟨-, h⟩
    · rw [withPending_eq_ok] at h
      exact (DbTx.fail_eq_ok.1 h).elim
    · rw [Tx.bind_eq_ok] at h
      obtain ⟨policy, s₂, -, h⟩ := h
      cases policy with
      | none => cases Prod.mk.inj (Prod.mk.inj (Tx.pure_eq_ok.1 h)).1 with | intro hbad _ => cases hbad
      | some policy =>
        simp only [reserveUnderPolicy, Tx.bind_eq_ok] at h
        obtain ⟨account, s₃, -, h⟩ := h
        rw [Tx.ite_eq_ok] at h
        rcases h with ⟨-, h⟩ | ⟨-, h⟩
        · cases Prod.mk.inj (Prod.mk.inj (Tx.pure_eq_ok.1 h)).1 with | intro hbad _ => cases hbad
        · rw [Tx.bind_eq_ok] at h
          obtain ⟨daily, s₄, -, h⟩ := h
          generalize evaluateRisk _ = verdict at h
          cases verdict with
          | rejected code limit autoStop =>
            cases Prod.mk.inj (Prod.mk.inj (Tx.pure_eq_ok.1 h)).1 with | intro hbad _ => cases hbad
          | ok =>
            simp only [Tx.bind_eq_ok] at h
            obtain ⟨r, s₅, -, h⟩ := h
            exact (Prod.mk.inj (Prod.mk.inj (Tx.pure_eq_ok.1 h)).1).2

/-- The decisions of other orders are as they were. -/
theorem Redecides.decision? {o : BetOrder} {k : BetDecision → BetDecision}
    (h : Redecides db [o] k db') (hk : ∀ d, (k d).id = d.id) (hne : id ≠ o.decisionId) :
    db'.decision? id = db.decision? id := by
  show db'.decisions.rows.find? _ = db.decisions.rows.find? _
  rw [h, Table.find?_map_key fun d => by split_ifs <;> simp only [hk]]
  cases hf : db.decisions.rows.find? fun d => d.id == id with
  | none => rfl
  | some d =>
    have hd : d.id = id := by simpa using List.find?_some hf
    rw [Option.map_some, if_neg (by simpa [hd] using hne)]

/-- What an insertion has done: the order is there, as it was sent or refused, and only its decision
and its account are concerned. -/
structure NewOrder (o : BetOrder) (stop : Option AutoStopRequest) (db db' : Database) : Prop where
  row : ∃ o', db'.orders.rows = db.orders.rows ++ [o'] ∧ o'.decisionId = o.decisionId ∧
    o'.idempotencyKey = o.idempotencyKey ∧ (o'.status = .reserved → stop = none)
  control : db'.control = db.control
  runs : db'.runs = db.runs
  decision : ∀ id, id ≠ o.decisionId → db'.decision? id = db.decision? id

theorem insertAndReserve_new {o : BetOrder}
    {r : Option BetOrder × Option AutoStopRequest}
    (h : insertAndReserve o env db = .ok (r, db')) : NewOrder o r.2 db db' := by
  obtain ⟨t, result, stop, s, created, -, ht, hres, happly, -, rfl⟩ := insertAndReserve_parts h
  have honly : LedgerOnly { db with orders := t } s := (reserveWithin_spec hres).ledgerOnly
  have hot : o ∈ s.orders := by
    rw [honly.orders]
    exact (Table.mem_insert? ht).2 (.inr rfl)
  have hcontrol : s.control = db.control := by rw [honly]
  have hruns : s.runs = db.runs := by rw [honly]
  cases result with
  | reserved entry replayed =>
    obtain rfl := reserveWithin_granted hres
    have hre : Redecides db [o] (fun d => { d with status := .orderReserved }) db' :=
      (updateDecisions_redecides (fun d => by simp) happly).of_eq honly.decisions
    have hdb := updateDecisions_spec happly
    refine ⟨⟨o, ?_, rfl, rfl, fun _ => rfl⟩, ?_, ?_, fun id hne => hre.decision? (fun _ => rfl) hne⟩
    · rw [hdb]
      show s.orders.rows = _
      rw [honly.orders, Table.rows_insert? ht]
    · rw [hdb]
      exact hcontrol
    · rw [hdb]
      exact hruns
  | rejected code limit reason =>
    rw [applyReservation, Tx.bind_eq_ok] at happly
    obtain ⟨_, s₂, htr, hrej⟩ := happly
    obtain ⟨hor, hrw⟩ := transition_spec hot htr
    have hdb := rejectDecision_spec hrej
    have hre : Redecides db [o] (BetDecision.refuse code) db' :=
      (rejectDecision_redecides hrej).of_eq (hor.decisions.trans honly.decisions)
    refine ⟨⟨(o.refuse code reason).touched env,
      rows_rewrite_last ht honly.orders (hrw.congr rfl (by rw [hdb])), rfl, rfl, fun hs => ?_⟩, ?_, ?_,
      fun id hne => hre.decision? (fun _ => rfl) hne⟩
    · cases hs
    · rw [hdb]
      show s₂.control = _
      rw [hor]
      exact hcontrol
    · rw [hdb]
      show s₂.runs = _
      rw [hor]
      exact hruns

/-! ## One step -/

/-- **What a step can do** when the database serves it. -/
inductive Went (P : Platform) (c : ReserveCall) (env : TxEnv) (db : Database) :
    Phase → Phase → Database → Prop
  | threw {φ : Phase} (e : TxError) (hφ : φ.pending = true) : Went P c env db φ (.thrown e) db
  | vain {p : Pending} (hv : Vain P c.decisionId env db p) : Went P c env db .idle (.looked p) db
  | ended {found : Option BetOrder} {db' : Database}
      (h : lookTx P c.decisionId env db = .ok (.inr found, db')) :
      Went P c env db .idle (.stopping none) db'
  | inserted {p : Pending} {r : Option BetOrder × Option AutoStopRequest} {db' : Database}
      (h : insertAndReserve (p.order c.accountId env) env db = .ok (r, db')) :
      Went P c env db (.looked p) (.stopping r.2) db'
  | refused (code : RejectionCode) (stop : Option AutoStopRequest) :
      Went P c env db (.refusing code stop) (.stopping stop)
        (db.redecide (refuseIn c.decisionId code (some .eligible)))
  | passed : Went P c env db (.stopping none) .done db
  | stopped {request : AutoStopRequest} {control : ExecutionControl} {db' : Database}
      (h : stopTx request.reason .automatic env db = .ok (control, db')) :
      Went P c env db (.stopping (some request)) .done db'

theorem Phase.next_went {c : ReserveCall} {x : Attempt} {φ φ' : Phase} (hx : x.Served)
    (h : φ.next P c x db = some (φ', db')) : Went P c x.env db φ φ' db' := by
  have haborted := hx.unaborted
  cases φ with
  | idle =>
    simp only [next, haborted] at h
    cases hlook : lookTx P c.decisionId x.env db with
    | error e =>
      simp only [hlook] at h
      obtain ⟨rfl, rfl⟩ := Prod.mk.inj (Option.some.inj h)
      exact .threw e rfl
    | ok r =>
      obtain ⟨found, s⟩ := r
      cases found with
      | inl p =>
        simp only [hlook] at h
        obtain ⟨rfl, rfl⟩ := Prod.mk.inj (Option.some.inj h)
        obtain ⟨rfl, hv⟩ := lookTx_inl_iff.1 hlook
        exact .vain hv
      | inr found =>
        simp only [hlook] at h
        obtain ⟨rfl, rfl⟩ := Prod.mk.inj (Option.some.inj h)
        exact .ended hlook
  | looked p =>
    simp only [next, haborted] at h
    cases hins : insertAndReserve (p.order c.accountId x.env) x.env db with
    | error e =>
      simp only [hins] at h
      obtain ⟨rfl, rfl⟩ := Prod.mk.inj (Option.some.inj h)
      exact .threw e rfl
    | ok r =>
      simp only [hins] at h
      obtain ⟨rfl, rfl⟩ := Prod.mk.inj (Option.some.inj h)
      exact .inserted hins
  | refusing code stop =>
    simp only [next, haborted, rejectDecision_eq] at h
    obtain ⟨rfl, rfl⟩ := Prod.mk.inj (Option.some.inj h)
    exact .refused code stop
  | stopping stop =>
    cases stop with
    | none =>
      obtain ⟨rfl, rfl⟩ := Prod.mk.inj (Option.some.inj h)
      exact .passed
    | some request =>
      obtain ⟨⟨control, s⟩, hstop⟩ := stopTx_commits request.reason .automatic x.env db
      simp only [next, haborted, hstop] at h
      obtain ⟨rfl, rfl⟩ := Prod.mk.inj (Option.some.inj h)
      exact .stopped hstop
  | done => cases h

/-- Whatever is thrown, the decision is to be refused. -/
theorem Phase.thrown_eq (e : TxError) : ∃ code stop, Phase.thrown e = .refusing code stop := by
  obtain ⟨error, pendingStop⟩ := e
  cases error <;> exact ⟨_, _, rfl⟩

/-- What a step leaves of what the other call reads. -/
structure Apart (c : ReserveCall) (db db' : Database) : Prop where
  runs : db'.runs = db.runs
  decision : ∀ id, id ≠ c.decisionId → db'.decision? id = db.decision? id
  new : ∀ o ∈ db'.orders, o ∈ db.orders ∨ o.decisionId = c.decisionId
  stay : ∀ o ∈ db.orders, o ∈ db'.orders

theorem Apart.refl (c : ReserveCall) (db : Database) : Apart c db db :=
  ⟨rfl, fun _ _ => rfl, fun _ h => .inl h, fun _ h => h⟩

theorem Apart.trans {c : ReserveCall} {db'' : Database} (h : Apart c db db')
    (h' : Apart c db' db'') : Apart c db db'' where
  runs := h'.runs.trans h.runs
  decision id hne := (h'.decision id hne).trans (h.decision id hne)
  new o ho := (h'.new o ho).elim (h.new o) .inr
  stay o ho := h'.stay o (h.stay o ho)

theorem apart_refuse {c : ReserveCall} {code : RejectionCode}
    {onlyFrom : Option DecisionStatus} :
    Apart c db (db.redecide (refuseIn c.decisionId code onlyFrom)) :=
  ⟨rfl, fun _ hne => (spares_refuseIn (Ne.symm hne)).find db.decisions, fun _ h => .inl h,
    fun _ h => h⟩

theorem NewOrder.apart {c : ReserveCall} {p : Pending} {stop : Option AutoStopRequest}
    (h : NewOrder (p.order c.accountId env) stop db db') (hof : p.decision.id = c.decisionId) :
    Apart c db db' := by
  obtain ⟨o, hrows, hdecision, -⟩ := h.row
  refine ⟨h.runs, fun id hne => h.decision id fun heq => hne (heq.trans hof), fun x hx => ?_,
    fun x hx => ?_⟩
  · rw [Table.mem_def, hrows, List.mem_append, List.mem_singleton] at hx
    exact hx.imp_right fun heq => by rw [heq, hdecision]; exact hof
  · rw [Table.mem_def, hrows]
    exact List.mem_append_left _ hx

/-- **A step leaves what concerns the other call.** -/
theorem Went.apart {c : ReserveCall} {φ φ' : Phase} (h : Went P c env db φ φ' db')
    (hof : φ.Of c) : Apart c db db' := by
  cases h with
  | threw | vain | passed => exact .refl c _
  | ended hlook =>
    rcases lookTx_inr hlook with rfl | ⟨code, rfl⟩
    · exact .refl c _
    · exact apart_refuse
  | inserted hins => exact (insertAndReserve_new hins).apart hof
  | refused code stop => exact apart_refuse
  | stopped hstop =>
    rw [(stopTx_spec hstop).1]
    exact ⟨rfl, fun _ _ => rfl, fun _ h => .inl h, fun _ h => h⟩

/-- Only a stop writes the control row. -/
theorem Went.control {c : ReserveCall} {φ φ' : Phase} (h : Went P c env db φ φ' db')
    (hw : φ.waits = false) : db'.control = db.control := by
  cases h with
  | threw | vain | passed | refused => rfl
  | ended hlook => rcases lookTx_inr hlook with rfl | ⟨code, rfl⟩ <;> rfl
  | inserted hins => exact (insertAndReserve_new hins).control
  | stopped => cases hw

/-- A step goes on with the decision of its call. -/
theorem Went.of {c : ReserveCall} {φ φ' : Phase} (h : Went P c env db φ φ' db') : φ'.Of c := by
  cases h with
  | threw e =>
    obtain ⟨code, stop, he⟩ := Phase.thrown_eq e
    rw [he]
    trivial
  | @vain p hv =>
    have hid := Table.of_find? hv.decision
    exact beq_iff_eq.1 hid
  | ended | inserted | refused | passed | stopped => trivial

end Steps

end ApiScore
