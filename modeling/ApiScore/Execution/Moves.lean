import ApiScore.Execution.LedgerHistory
import ApiScore.Execution.Orders

/-!
# What a transaction does to the pipeline's tables

Every transaction of the pipeline that commits is one `Move` between two databases: which orders
were rewritten, which entries were recorded, which receipt was added.  Nothing else about the
transactions is used later, so an invariant of the pipeline is proved once for each kind of move.

* `OrderStep` — the transitions of one order's row.
* `Rewrites`, `transition_spec` — rewriting rows of the orders table.
* `Move` — the ten kinds of move.
* `reserveTx_spec`, `recheckTx_spec`, `cancelTx_spec`, … — one specification for each transaction.
-/

set_option autoImplicit false

namespace ApiScore

open Relational

/-! ## Transitions of one order -/

/-- The statuses in which an order's stake may be released. -/
def releasableStatuses : List OrderStatus := [.reserved, .submitting, .unknown]

/-- One transition of an order's row. -/
inductive OrderStep (o : BetOrder) : BetOrder → Prop
  | submit (hs : o.status = .reserved) (odd : Int) (env : TxEnv) :
      OrderStep o ((o.submit odd env.now).touched env)
  | doubt (hs : o.status = .submitting) (reason : String) (env : TxEnv) :
      OrderStep o ((o.doubt (some env.now) reason).touched env)
  | recover (hs : o.status = .submitting) (reason : String) (env : TxEnv) :
      OrderStep o ((o.doubt o.submittedAt reason).touched env)
  | refuse (hs : o.status ∈ releasableStatuses) (code : RejectionCode) (reason : String)
      (env : TxEnv) : OrderStep o ((o.refuse code reason).touched env)
  | dispute (hs : o.status ∈ releasableStatuses) (reason : String) (env : TxEnv) :
      OrderStep o ((o.dispute reason env.now).touched env)
  | accept (hs : o.status ∈ releasableStatuses) (accepted : OperatorOrder) (odd stake : Int)
      (env : TxEnv) : OrderStep o ((o.accept accepted odd stake).touched env)
  | settle (hs : o.status = .accepted) (outcome : DecisionOutcome) (payout settledAt : Int)
      (env : TxEnv) : OrderStep o ((o.settle outcome payout settledAt).touched env)

/-- What a transition never changes. -/
structure SameOrder (o o' : BetOrder) : Prop where
  id : o'.id = o.id
  decisionId : o'.decisionId = o.decisionId
  accountId : o'.accountId = o.accountId
  mode : o'.mode = o.mode
  operatorKey : o'.operatorKey = o.operatorKey
  idempotencyKey : o'.idempotencyKey = o.idempotencyKey
  requestedStake : o'.requestedStake = o.requestedStake
  currency : o'.currency = o.currency
  createdAt : o'.createdAt = o.createdAt

theorem SameOrder.refl (o : BetOrder) : SameOrder o o :=
  ⟨rfl, rfl, rfl, rfl, rfl, rfl, rfl, rfl, rfl⟩

theorem SameOrder.trans {o o' o'' : BetOrder} (h : SameOrder o o') (h' : SameOrder o' o'') :
    SameOrder o o'' :=
  ⟨h'.id.trans h.id, h'.decisionId.trans h.decisionId, h'.accountId.trans h.accountId,
    h'.mode.trans h.mode, h'.operatorKey.trans h.operatorKey,
    h'.idempotencyKey.trans h.idempotencyKey, h'.requestedStake.trans h.requestedStake,
    h'.currency.trans h.currency, h'.createdAt.trans h.createdAt⟩

theorem OrderStep.same {o o' : BetOrder} (h : OrderStep o o') : SameOrder o o' := by
  cases h <;> exact ⟨rfl, rfl, rfl, rfl, rfl, rfl, rfl, rfl, rfl⟩

/-! ## Rows of the orders table -/

theorem order_eq_of_id {db : Database} {o x : BetOrder} (ho : o ∈ db.orders) (hx : x ∈ db.orders)
    (h : o.id = x.id) : o = x :=
  Table.eq_of_clash ho hx (by simp [orderSchema, h])

theorem order_eq_of_key {db : Database} {o x : BetOrder} (ho : o ∈ db.orders) (hx : x ∈ db.orders)
    (h : o.idempotencyKey = x.idempotencyKey) : o = x :=
  Table.eq_of_clash ho hx (by simp [orderSchema, h])

theorem order?_of_mem {db : Database} {o : BetOrder} (ho : o ∈ db.orders) :
    db.order? o.id = some o :=
  Table.find?_of_mem ho (by simp) fun x _ hx => by
    simp only [beq_iff_eq] at hx
    simp [orderSchema, hx]

theorem order?_eq_some {db : Database} {id : String} {o : BetOrder} (h : db.order? id = some o) :
    o ∈ db.orders ∧ o.id = id :=
  ⟨Table.mem_of_find? h, by simpa using Table.of_find? h⟩

theorem lockOrder_spec {id : String} {db db' : Database} {o : BetOrder}
    (h : lockOrder id db = .ok (o, db')) : db' = db ∧ o ∈ db.orders ∧ o.id = id := by
  rw [lockOrder, Tx.bind_eq_ok] at h
  obtain ⟨x, s, hread, h⟩ := h
  obtain ⟨rfl, rfl⟩ := Prod.mk.inj (DbTx.read_eq_ok.1 hread)
  obtain ⟨y, hy, heq⟩ := DbTx.get!_eq_ok.1 h
  obtain ⟨rfl, rfl⟩ := Prod.mk.inj heq
  exact ⟨rfl, order?_eq_some hy⟩

/-- Only the orders changed. -/
def OrdersOnly (db db' : Database) : Prop := db' = { db with orders := db'.orders }

/-- The rows of `os`, and no others, were rewritten by `f`. -/
structure Rewrites (db : Database) (os : List BetOrder) (f : BetOrder → BetOrder)
    (db' : Database) : Prop where
  mem : ∀ o ∈ os, o ∈ db.orders
  nodup : os.Nodup
  rows : db'.orders.rows = db.orders.rows.map fun x => if x ∈ os then f x else x

theorem Rewrites.congr {db db' x x' : Database} {os : List BetOrder} {f : BetOrder → BetOrder}
    (h : Rewrites db os f db') (hx : x.orders = db.orders) (hx' : x'.orders = db'.orders) :
    Rewrites x os f x' := by
  obtain ⟨h₁, h₂, h₃⟩ := h
  refine ⟨fun o ho => ?_, h₂, ?_⟩
  · rw [hx]
    exact h₁ o ho
  · rw [hx', hx, h₃]

theorem Rewrites.mem_iff {db db' : Database} {os : List BetOrder} {f : BetOrder → BetOrder}
    (h : Rewrites db os f db') {x : BetOrder} :
    x ∈ db'.orders ↔ ∃ o ∈ db.orders, (if o ∈ os then f o else o) = x := by
  rw [Table.mem_def, h.rows, List.mem_map]
  rfl

theorem Rewrites.mem_of_rewritten {db db' : Database} {os : List BetOrder}
    {f : BetOrder → BetOrder} (h : Rewrites db os f db') {o : BetOrder} (ho : o ∈ os) :
    f o ∈ db'.orders :=
  h.mem_iff.2 ⟨o, h.mem o ho, if_pos ho⟩

/-- The list of rewritten rows may be put in another order. -/
theorem Rewrites.of_perm {db db' : Database} {os os' : List BetOrder} {f : BetOrder → BetOrder}
    (h : Rewrites db os f db') (hmem : ∀ o, o ∈ os' ↔ o ∈ os) (hnodup : os'.Nodup) :
    Rewrites db os' f db' := by
  refine ⟨fun o ho => h.mem o ((hmem o).1 ho), hnodup, ?_⟩
  rw [h.rows]
  exact List.map_congr_left fun x _ => by simp only [hmem]

/-- Where no row changes, any one of them may be called rewritten. -/
theorem Rewrites.self {db db' : Database} {o : BetOrder} (h : db'.orders = db.orders)
    (ho : o ∈ db.orders) : Rewrites db [o] id db' := by
  refine ⟨List.forall_mem_singleton.2 ho, List.nodup_singleton o, ?_⟩
  rw [h]
  exact ((List.map_congr_left fun x _ => by simp).trans (List.map_id _)).symm

/-- Rewriting no row at all. -/
theorem Rewrites.nil {db db' : Database} (h : db'.orders = db.orders) (f : BetOrder → BetOrder) :
    Rewrites db [] f db' := by
  refine ⟨by simp, List.nodup_nil, ?_⟩
  rw [h]
  exact ((List.map_congr_left fun x _ => by simp).trans (List.map_id _)).symm

theorem updateOrders_spec {p : BetOrder → Bool} {f : BetOrder → BetOrder} {db db' : Database}
    {n : Nat} (h : updateOrders p f db = .ok (n, db')) :
    n = (db.orders.select p).length ∧ OrdersOnly db db' ∧
      Rewrites db (db.orders.select p) f db' := by
  simp only [updateOrders, Tx.bind_eq_ok, DbTx.write_eq_ok, Tx.pure_eq_ok] at h
  obtain ⟨_, _, hread, _, s, hw, heq⟩ := h
  obtain ⟨rfl, rfl⟩ := Prod.mk.inj (DbTx.read_eq_ok.1 hread)
  obtain ⟨rfl, rfl⟩ := Prod.mk.inj heq
  obtain ⟨t, ht, rfl⟩ := Option.map_eq_some_iff.1 hw
  refine ⟨rfl, rfl, fun o ho => (Table.mem_select.1 ho).1, ?_, ?_⟩
  · exact Table.nodup_select fun o => by simp [orderSchema]
  · rw [Table.rows_update? ht]
    refine List.map_congr_left fun x hx => ?_
    by_cases hp : p x = true
    · rw [if_pos hp, if_pos (Table.mem_select.2 ⟨hx, hp⟩)]
    · rw [if_neg hp, if_neg fun hmem => hp (Table.mem_select.1 hmem).2]

/-- A transition of a locked order rewrites its row and no other. -/
theorem transition_spec {o : BetOrder} {patch : BetOrder → BetOrder} {env : TxEnv}
    {db db' : Database} {u : Unit} (ho : o ∈ db.orders)
    (h : transition o patch env db = .ok (u, db')) :
    OrdersOnly db db' ∧ Rewrites db [o] (fun x => (patch x).touched env) db' := by
  rw [transition, Tx.bind_eq_ok] at h
  obtain ⟨n, s, hupd, h⟩ := h
  rw [Tx.ite_eq_ok] at h
  rcases h with ⟨-, h⟩ | ⟨-, h⟩
  · exact (DbTx.fail_eq_ok.1 h).elim
  · obtain ⟨-, rfl⟩ := Prod.mk.inj (Tx.pure_eq_ok.1 h)
    obtain ⟨-, honly, hrw⟩ := updateOrders_spec hupd
    have hsel : (db.orders.select fun x => x.id == o.id && x.version == o.version) = [o] :=
      Table.select_of_mem ho (by simp) fun x _ hx => by
        simp only [Bool.and_eq_true, beq_iff_eq] at hx
        simp [orderSchema, hx.1]
    rw [hsel] at hrw
    exact ⟨honly, hrw⟩

theorem updateDecisions_spec {p : BetDecision → Bool} {f : BetDecision → BetDecision}
    {db db' : Database} {u : Unit} (h : updateDecisions p f db = .ok (u, db')) :
    db' = { db with decisions := db'.decisions } := by
  rw [updateDecisions, DbTx.write_eq_ok] at h
  obtain ⟨t, -, heq⟩ := Option.map_eq_some_iff.1 h
  cases heq
  rfl

theorem rejectDecision_spec {id : String} {code : RejectionCode}
    {onlyFrom : Option DecisionStatus} {db db' : Database} {u : Unit}
    (h : rejectDecision id code onlyFrom db = .ok (u, db')) :
    db' = { db with decisions := db'.decisions } :=
  updateDecisions_spec h

theorem insertOrder_spec {o : BetOrder} {db db' : Database} {u : Unit}
    (h : insertOrder o db = .ok (u, db')) :
    (∃ a ∈ db.accounts, a.id = o.accountId) ∧
      ∃ t, db.orders.insert? o = some t ∧ db' = { db with orders := t } := by
  rw [insertOrder, DbTx.write_eq_ok] at h
  split at h
  · rename_i hr
    obtain ⟨t, ht, heq⟩ := Option.map_eq_some_iff.1 h
    rw [Bool.and_eq_true] at hr
    obtain ⟨a, ha⟩ := Option.isSome_iff_exists.1 hr.2
    exact ⟨⟨a, account?_eq_some ha⟩, t, ht, heq.symm⟩
  · cases h

theorem insertReceipt_spec {r : BetReceipt} {db db' : Database} {u : Unit}
    (h : insertReceipt r db = .ok (u, db')) :
    ∃ t, db.receipts.insert? r = some t ∧ db' = { db with receipts := t } := by
  rw [insertReceipt, DbTx.write_eq_ok] at h
  split at h
  · obtain ⟨t, ht, heq⟩ := Option.map_eq_some_iff.1 h
    exact ⟨t, ht, heq.symm⟩
  · cases h

/-! ## The moves -/

/-- The ledger holds an entry of this kind for this key. -/
def Database.Has (db : Database) (κ : KeyKind) (key : String) : Prop :=
  ∃ e ∈ db.entries, e.entryKey = κ.key key

/-- Neither the accounts nor the entries changed. -/
structure LedgerSame (db db' : Database) : Prop where
  accounts : db'.accounts = db.accounts
  entries : db'.entries = db.entries

/-- A request whose entry was there already is recorded where nothing changes. -/
theorem Posted.of_recorded {db db' : Database} {input : AppendInput} {e : BankrollLedgerEntry}
    (account : BankrollAccount) (dbNow : Int) (h : LedgerSame db db')
    (hkey : db.entry? input.entryKey = some e) : Posted db account [input] account db' := by
  refine ⟨[], dbNow, (Records.refl db account).congr rfl rfl h.accounts h.entries, ?_⟩
  rw [List.filter_cons_of_neg (by simp [hkey])]
  exact .nil

/-- The operator's view of an acceptance that honours the contract of the order, with the odd and
the stake that are stored. -/
structure Honours (o : BetOrder) (accepted : OperatorOrder) (odd stake : Int) (hash : String) :
    Prop where
  receiptHash : accepted.receiptHash = some hash ∧ isHashText hash = true
  externalOrderId : ∃ ref, accepted.externalOrderId = some ref ∧ ref ≠ ""
  acceptedOdd : ∃ q, accepted.acceptedOdd = some (.num q) ∧ oddMillis? (.num q) = some odd ∧
    oddValue o.minimumOdd ≤ q
  acceptedStake : ∃ text, accepted.acceptedStake = some text ∧ isAmountText text = true ∧
    toCents text = some stake
  pos : 0 < stake
  le : stake ≤ o.requestedStake

/-- The entry that reserves the stake of an order. -/
def BetOrder.reserveInput (order : BetOrder) : AppendInput := order.reserveRequest.entry

/-- The statuses of an order the operator has taken. -/
def takenStatuses : List OrderStatus := [.accepted, .settled, .voided]

/-- What a committed transaction of the pipeline does to the accounts, the entries, the orders and
the receipts. -/
inductive Move (db db' : Database) : Prop
  /-- None of them changed. -/
  | aside (hledger : LedgerSame db db') (horders : db'.orders = db.orders)
      (hreceipts : db'.receipts = db.receipts)
  /-- An account was created. -/
  | account {a : BankrollAccount} (ht : db.accounts.insert? a = some db'.accounts)
      (hb : a.totals = (0, 0)) (hv : a.version = 1) (hentries : db'.entries = db.entries)
      (horders : db'.orders = db.orders) (hreceipts : db'.receipts = db.receipts)
  /-- Its opening balance was credited. -/
  | credit {a a' : BankrollAccount} {input : AppendInput} (ha : a ∈ db.accounts)
      (hposted : Posted db a [input] a' db') (hkey : input.entryKey = KeyKind.key .opening a.id)
      (htype : input.type = .adjustment) (horders : db'.orders = db.orders)
      (hreceipts : db'.receipts = db.receipts)
  /-- An order was inserted and its stake reserved. -/
  | reserve {o : BetOrder} {a a' : BankrollAccount}
      (hrows : db'.orders.rows = db.orders.rows ++ [o]) (hs : o.status = .reserved)
      (ha : a ∈ db.accounts) (hid : a.id = o.accountId)
      (hposted : Posted db a [o.reserveInput] a' db') (hreceipts : db'.receipts = db.receipts)
  /-- An order was inserted and refused at once. -/
  | refuseNew {o : BetOrder} (hrows : db'.orders.rows = db.orders.rows ++ [o])
      (hs : o.status = .rejected) (ha : ∃ a ∈ db.accounts, a.id = o.accountId)
      (hledger : LedgerSame db db') (hreceipts : db'.receipts = db.receipts)
  /-- Orders changed their status without a word to the ledger. -/
  | quiet {os : List BetOrder} {f : BetOrder → BetOrder} (hrw : Rewrites db os f db')
      (hsteps : ∀ o ∈ os, OrderStep o (f o))
      (hquiet : ∀ o ∈ os, (f o).status ∈ [.submitting, .unknown, .reconciliationRequired] ∨
        o.status = .accepted ∧ db.Has .settle o.idempotencyKey)
      (hledger : LedgerSame db db') (hreceipts : db'.receipts = db.receipts)
  /-- Orders of one account were refused and their stakes released. -/
  | release {os : List BetOrder} {f : BetOrder → BetOrder} {a a' : BankrollAccount}
      (hrw : Rewrites db os f db')
      (hsteps : ∀ o ∈ os, OrderStep o (f o) ∧ (f o).status = .rejected)
      (hfrom : ∀ o ∈ os, o.status ∈ releasableStatuses)
      (hreserved : ∀ o ∈ os, db.Has .reserve o.idempotencyKey)
      (ha : a ∈ db.accounts) (hid : ∀ o ∈ os, a.id = o.accountId)
      (hposted : Posted db a (os.map (·.releaseInput)) a' db')
      (hreceipts : db'.receipts = db.receipts)
  /-- An order whose stake had never been reserved was refused. -/
  | refuse {o : BetOrder} {f : BetOrder → BetOrder} (hrw : Rewrites db [o] f db')
      (hstep : OrderStep o (f o)) (hs : (f o).status = .rejected)
      (hfrom : o.status ∈ releasableStatuses) (hnone : ¬ db.Has .reserve o.idempotencyKey)
      (hledger : LedgerSame db db') (hreceipts : db'.receipts = db.receipts)
  /-- An order was accepted, and the part of its stake that was not taken released. -/
  | accept {o : BetOrder} {f : BetOrder → BetOrder} {accepted : OperatorOrder} {odd stake : Int}
      {hash : String} {env : TxEnv} (hrw : Rewrites db [o] f db')
      (hf : f o = (o.accept accepted odd stake).touched env)
      (hfrom : o.status ∈ releasableStatuses) (hhonours : Honours o accepted odd stake hash)
      (hpart : stake = o.requestedStake ∧ LedgerSame db db' ∨
        stake < o.requestedStake ∧ ∃ a a', a ∈ db.accounts ∧ a.id = o.accountId ∧
          Posted db a [o.releasePartialInput stake] a' db')
      (hreceipts : db'.receipts.rows = db.receipts.rows ++ [⟨o.id, hash⟩])
  /-- The stake of an order the operator has taken was settled. -/
  | settleStake {o : BetOrder} {a a' : BankrollAccount} {stake payout : Int}
      (ho : o ∈ db.orders) (hs : o.status ∈ takenStatuses) (hstake : o.acceptedStake = some stake)
      (ha : a ∈ db.accounts) (hid : a.id = o.accountId)
      (hposted : Posted db a [(o.settleInput stake payout).entry] a' db')
      (horders : db'.orders = db.orders) (hreceipts : db'.receipts = db.receipts)

theorem Move.refl (db : Database) : Move db db := .aside ⟨rfl, rfl⟩ rfl rfl

/-! ## Reservation -/

section Specs

variable {P : Platform} {env : TxEnv} {db db' : Database}

theorem applyReservation_spec {o : BetOrder} {result : ReservationResult} {u : Unit}
    (ho : o ∈ db.orders) (h : applyReservation o result env db = .ok (u, db')) :
    LedgerSame db db' ∧ db'.receipts = db.receipts ∧
      ((∃ entry replayed, result = .reserved entry replayed ∧ db'.orders = db.orders) ∨
        ∃ code limit reason, result = .rejected code limit reason ∧
          Rewrites db [o] (fun x => (x.refuse code reason).touched env) db') := by
  cases result with
  | reserved entry replayed =>
    have hd := updateDecisions_spec h
    exact ⟨⟨by rw [hd], by rw [hd]⟩, by rw [hd], .inl ⟨entry, replayed, rfl, by rw [hd]⟩⟩
  | rejected code limit reason =>
    rw [applyReservation, Tx.bind_eq_ok] at h
    obtain ⟨_, s, htr, h⟩ := h
    obtain ⟨honly, hrw⟩ := transition_spec ho htr
    have hd := rejectDecision_spec h
    refine ⟨⟨by rw [hd, honly], by rw [hd, honly]⟩, by rw [hd, honly], .inr
      ⟨code, limit, reason, rfl, hrw.congr rfl (by rw [hd])⟩⟩

/-- A row that was just inserted was not there before. -/
theorem not_mem_of_insert {t : Table orderSchema} {o : BetOrder}
    (ht : db.orders.insert? o = some t) : ¬ o ∈ db.orders := by
  intro ho
  have hd := t.distinct
  rw [Table.rows_insert? ht, List.pairwise_append] at hd
  have hc := hd.2.2 o ho o (List.mem_singleton_self o)
  simp [orderSchema] at hc

/-- Rewriting the row that was just inserted. -/
theorem rows_rewrite_last {t : Table orderSchema} {o : BetOrder} {f : BetOrder → BetOrder}
    {db₁ : Database} (ht : db.orders.insert? o = some t) (ho : db₁.orders = t)
    (hrw : Rewrites db₁ [o] f db') : db'.orders.rows = db.orders.rows ++ [f o] := by
  rw [hrw.rows, ho, Table.rows_insert? ht, List.map_append, List.map_singleton,
    if_pos (List.mem_singleton_self o)]
  congr 1
  refine (List.map_congr_left fun x hx => ?_).trans (List.map_id _)
  have hne : x ≠ o := fun heq => not_mem_of_insert ht (heq ▸ hx)
  simp [hne]

/-- The parts of an insertion with its reservation: the row goes in, the stake is reserved or
refused, and what came of it is recorded. -/
theorem insertAndReserve_parts {o : BetOrder} {r : Option BetOrder × Option AutoStopRequest}
    (h : insertAndReserve o env db = .ok (r, db')) :
    ∃ t result stop s created, (∃ a ∈ db.accounts, a.id = o.accountId) ∧
      db.orders.insert? o = some t ∧
      reserveWithin o.reserveRequest env { db with orders := t } = .ok ((result, stop), s) ∧
      applyReservation o result env s = .ok ((), db') ∧ created ∈ db'.orders ∧
      r = (some created, stop) := by
  rw [insertAndReserve, Tx.bind_eq_ok] at h
  obtain ⟨_, s, hins, h⟩ := h
  obtain ⟨haccount, t, ht, rfl⟩ := insertOrder_spec hins
  rw [Tx.bind_eq_ok] at h
  obtain ⟨⟨result, stop⟩, s₁, hres, h⟩ := h
  simp only [withPending_eq_ok, Tx.bind_eq_ok] at h
  obtain ⟨_, s₂, happly, created, s₃, hlock, h⟩ := h
  obtain ⟨rfl, hcreated, -⟩ := lockOrder_spec hlock
  obtain ⟨rfl, rfl⟩ := Prod.mk.inj (Tx.pure_eq_ok.1 h)
  exact ⟨t, result, stop, s₁, created, haccount, ht, hres, happly, hcreated, rfl⟩

theorem insertAndReserve_spec {o : BetOrder} {r : Option BetOrder × Option AutoStopRequest}
    (hs : o.status = .reserved) (h : insertAndReserve o env db = .ok (r, db')) :
    Move db db' ∧ ∀ x, r.1 = some x → x ∈ db'.orders := by
  obtain ⟨t, result, stop, s₁, created, ⟨a, ha, hid⟩, ht, hres, happly, hcreated, rfl⟩ :=
    insertAndReserve_parts h
  refine ⟨?_, fun x hx => by rw [← Option.some.inj hx]; exact hcreated⟩
  have hot : o ∈ t := (Table.mem_insert? ht).2 (.inr rfl)
  cases reserveWithin_spec hres with
  | refused code limit reason =>
    obtain ⟨hl, hrec, ⟨_, _, hbad, -⟩ | ⟨code', limit', reason', -, hrw⟩⟩ :=
      applyReservation_spec hot happly
    · cases hbad
    · exact .refuseNew (rows_rewrite_last ht rfl hrw) rfl ⟨a, ha, hid⟩
        ⟨hl.accounts, hl.entries⟩ hrec
  | replayed hkey =>
    obtain ⟨hl, hrec, ⟨_, _, -, hord⟩ | ⟨_, _, _, hbad, -⟩⟩ := applyReservation_spec hot happly
    · have hposted : Posted db a [o.reserveInput] a db' :=
        .of_recorded a env.dbNow ⟨hl.accounts, hl.entries⟩ hkey
      exact .reserve (by rw [hord, Table.rows_insert? ht]) hs ha hid hposted hrec
    · cases hbad
  | @appended a₁ a' control policy res db₂ ha₁ hid₁ hkey hcleared happ =>
    obtain ⟨hposted, honly⟩ := (append_spec ha₁ happ).posted
    have hot₁ : o ∈ s₁.orders := by
      rw [honly.orders]
      exact hot
    obtain ⟨hl, hrec, ⟨_, _, -, hord⟩ | ⟨_, _, _, hbad, -⟩⟩ := applyReservation_spec hot₁ happly
    · refine .reserve ?_ hs ha₁ hid₁ (hposted.congr rfl rfl hl.accounts hl.entries) ?_
      · rw [hord, honly.orders, Table.rows_insert? ht]
      · rw [hrec, honly.receipts]
    · cases hbad

/-- Only decisions changed. -/
theorem Move.of_decisions (h : db' = { db with decisions := db'.decisions }) : Move db db' :=
  .aside ⟨by rw [h], by rw [h]⟩ (by rw [h]) (by rw [h])

/-- **Reserving is one move, and hands back a row of the table.** -/
theorem reserveTx_spec {decisionId accountId : String}
    {r : Option BetOrder × Option AutoStopRequest}
    (h : reserveTx P decisionId accountId env db = .ok (r, db')) :
    Move db db' ∧ ∀ x, r.1 = some x → x ∈ db'.orders := by
  rw [reserveTx, Tx.bind_eq_ok] at h
  obtain ⟨_, s, hexisting, h⟩ := h
  obtain ⟨rfl, rfl⟩ := Prod.mk.inj (DbTx.read_eq_ok.1 hexisting)
  cases hf : s.orders.find? fun o => o.decisionId == decisionId with
  | some existing =>
    simp only [hf] at h
    obtain ⟨rfl, rfl⟩ := Prod.mk.inj (Tx.pure_eq_ok.1 h)
    refine ⟨.refl _, fun x hx => ?_⟩
    rw [← Option.some.inj hx]
    exact Table.mem_of_find? hf
  | none =>
    simp only [hf, Tx.bind_eq_ok] at h
    obtain ⟨control, s₁, hlock, port, s₂, hport, _, s₃, hdecision, decision, s₄, hget, h⟩ := h
    obtain ⟨rfl, -, -⟩ := lockForExecution_spec hlock
    obtain ⟨-, rfl⟩ := liftRule_eq_ok.1 hport
    obtain ⟨rfl, rfl⟩ := Prod.mk.inj (DbTx.read_eq_ok.1 hdecision)
    obtain ⟨d, hd, heq⟩ := DbTx.get!_eq_ok.1 hget
    obtain ⟨rfl, rfl⟩ := Prod.mk.inj heq
    rw [Tx.ite_eq_ok] at h
    rcases h with ⟨-, h⟩ | ⟨-, h⟩
    · obtain ⟨rfl, rfl⟩ := Prod.mk.inj (Tx.pure_eq_ok.1 h)
      exact ⟨.refl _, fun x hx => by cases hx⟩
    · cases hterms : decision.terms with
      | none =>
        simp only [hterms, Tx.bind_eq_ok] at h
        obtain ⟨_, s₈, hrej, h⟩ := h
        obtain ⟨rfl, rfl⟩ := Prod.mk.inj (Tx.pure_eq_ok.1 h)
        exact ⟨.of_decisions (rejectDecision_spec hrej), fun x hx => by cases hx⟩
      | some terms =>
        simp only [hterms, Tx.bind_eq_ok] at h
        obtain ⟨_, s₅, hruns, run, s₆, hrun, taken, s₇, htaken, h⟩ := h
        obtain ⟨rfl, rfl⟩ := Prod.mk.inj (DbTx.read_eq_ok.1 hruns)
        obtain ⟨_, -, heq⟩ := DbTx.get!_eq_ok.1 hrun
        obtain ⟨rfl, rfl⟩ := Prod.mk.inj heq
        obtain ⟨rfl, rfl⟩ := Prod.mk.inj (DbTx.read_eq_ok.1 htaken)
        rw [Tx.ite_eq_ok] at h
        rcases h with ⟨-, h⟩ | ⟨-, h⟩
        · rw [Tx.bind_eq_ok] at h
          obtain ⟨_, s₈, hrej, h⟩ := h
          obtain ⟨rfl, rfl⟩ := Prod.mk.inj (Tx.pure_eq_ok.1 h)
          exact ⟨.of_decisions (rejectDecision_spec hrej), fun x hx => by cases hx⟩
        · exact insertAndReserve_spec rfl h

/-! ## Re-check and placement results -/

/-- What the re-check does when it returns: it asks for a cancellation, it hands an order back that
is not `RESERVED` any more, or it moves the order to `SUBMITTING`. -/
inductive RecheckOutcome (orderId : String) (env : TxEnv) (db : Database) (r : Recheck)
    (db' : Database) : Prop
  | cancel (hcancel : r.cancel.isSome = true) (hdb : db' = db) (hmem : r.order ∈ db.orders)
      (hid : r.order.id = orderId)
  | found (hcancel : r.cancel = none) (hdb : db' = db) (hmem : r.order ∈ db.orders)
      (hid : r.order.id = orderId) (hs : r.order.status ≠ .reserved)
  | moved {o : BetOrder} {odd : Int} (hcancel : r.cancel = none) (ho : o ∈ db.orders)
      (hid : o.id = orderId) (hs : o.status = .reserved)
      (horder : r.order = (o.submit odd env.now).touched env)
      (hrw : Rewrites db [o] (fun x => (x.submit odd env.now).touched env) db')
      (honly : OrdersOnly db db')

theorem recheckTx_spec {orderId : String} {quote : Option OperatorQuote} {r : Recheck}
    (h : recheckTx P orderId quote env db = .ok (r, db')) :
    RecheckOutcome orderId env db r db' := by
  simp only [recheckTx, Tx.bind_eq_ok] at h
  obtain ⟨control, s, hlock, current, s₁, horder, h⟩ := h
  obtain ⟨rfl, -, -⟩ := lockForExecution_spec hlock
  obtain ⟨rfl, ho, hid⟩ := lockOrder_spec horder
  rw [Tx.ite_eq_ok] at h
  rcases h with ⟨hs, h⟩ | ⟨hs, h⟩
  · obtain ⟨rfl, rfl⟩ := Prod.mk.inj (Tx.pure_eq_ok.1 h)
    exact .found rfl rfl ho hid hs
  · rw [Tx.bind_eq_ok] at h
    obtain ⟨policy, s₂, hpolicy, h⟩ := h
    obtain ⟨rfl, rfl⟩ := Prod.mk.inj (DbTx.read_eq_ok.1 hpolicy)
    cases hv : recheckVerdict P current control (control.activeRiskPolicyId.bind s₂.policy?) quote
        env.now with
    | some verdict =>
      simp only [hv] at h
      obtain ⟨rfl, rfl⟩ := Prod.mk.inj (Tx.pure_eq_ok.1 h)
      exact .cancel rfl rfl ho hid
    | none =>
      simp only [hv, Tx.bind_eq_ok] at h
      obtain ⟨odd, s₃, hodd, _, s₄, htr, order, s₅, hagain, h⟩ := h
      obtain ⟨_, -, heq⟩ := DbTx.get!_eq_ok.1 hodd
      obtain ⟨rfl, rfl⟩ := Prod.mk.inj heq
      obtain ⟨honly, hrw⟩ := transition_spec ho htr
      obtain ⟨rfl, hmem, hid'⟩ := lockOrder_spec hagain
      obtain ⟨rfl, rfl⟩ := Prod.mk.inj (Tx.pure_eq_ok.1 h)
      have hsub := hrw.mem_of_rewritten (List.mem_singleton_self current)
      exact .moved rfl ho hid (not_not.1 hs) (order_eq_of_id hmem hsub (hid'.trans hid.symm)) hrw
        honly

theorem releaseIfReserved_spec {o : BetOrder} {u : Unit}
    (h : releaseIfReserved o env db = .ok (u, db')) :
    (db.entry? (KeyKind.key .reserve o.idempotencyKey) = none ∧ db' = db) ∨
    ∃ a a', a ∈ db.accounts ∧ a.id = o.accountId ∧
      (db.entry? (KeyKind.key .reserve o.idempotencyKey)).isSome = true ∧
      Posted db a [o.releaseInput] a' db' ∧ LedgerOnly db db' := by
  rw [releaseIfReserved, Tx.bind_eq_ok] at h
  obtain ⟨e, s, hfind, h⟩ := h
  obtain ⟨rfl, rfl⟩ := Prod.mk.inj (findEntry_eq_ok.1 hfind)
  cases hk : s.entry? (KeyKind.key .reserve o.idempotencyKey) with
  | none =>
    simp only [hk] at h
    exact .inl ⟨rfl, (Prod.mk.inj (Tx.pure_eq_ok.1 h)).2⟩
  | some e =>
    simp only [hk, Tx.bind_eq_ok] at h
    obtain ⟨a, s₁, hlock, ⟨res, a'⟩, s₂, happ, h⟩ := h
    obtain ⟨rfl, ha, hid⟩ := lockAccount_spec hlock
    obtain ⟨-, rfl⟩ := Prod.mk.inj (Tx.pure_eq_ok.1 h)
    obtain ⟨hposted, honly⟩ := (append_spec ha happ).posted
    exact .inr ⟨a, a', ha, hid, rfl, hposted, honly⟩

theorem has_of_entry {κ : KeyKind} {key : String}
    (h : (db.entry? (κ.key key)).isSome = true) : db.Has κ key := by
  obtain ⟨e, he⟩ := Option.isSome_iff_exists.1 h
  obtain ⟨hmem, hkey⟩ := entry?_eq_some he
  exact ⟨e, hmem, hkey⟩

theorem not_has_of_entry {κ : KeyKind} {key : String} (h : db.entry? (κ.key key) = none) :
    ¬ db.Has κ key := by
  rintro ⟨e, he, hkey⟩
  exact entry?_eq_none h he hkey

/-- **Cancelling touches only its own order, in one of the statuses it is asked for.** -/
theorem cancelTx_spec {orderId : String} {source : List OrderStatus} {cancel : Cancellation}
    {u : Unit} (hsource : ∀ s ∈ source, s ∈ releasableStatuses)
    (h : cancelTx orderId source cancel env db = .ok (u, db')) :
    (db' = db ∧ ∃ o ∈ db.orders, o.id = orderId ∧ o.status ∉ source) ∨
    ∃ o ∈ db.orders, o.id = orderId ∧ o.status ∈ source ∧
      Rewrites db [o] (fun x => (x.refuse cancel.code cancel.reason).touched env) db' ∧
      Move db db' := by
  rw [cancelTx, Tx.bind_eq_ok] at h
  obtain ⟨o, s, hlock, h⟩ := h
  obtain ⟨rfl, ho, hid⟩ := lockOrder_spec hlock
  rw [Tx.ite_eq_ok] at h
  rcases h with ⟨hs, h⟩ | ⟨hs, h⟩
  · exact .inl ⟨(Prod.mk.inj (Tx.pure_eq_ok.1 h)).2, o, ho, hid, hs⟩
  · simp only [Tx.bind_eq_ok] at h
    obtain ⟨_, s₁, hrel, _, s₂, htr, hrej⟩ := h
    have hs' := not_not.1 hs
    have hd := rejectDecision_spec hrej
    refine .inr ⟨o, ho, hid, hs', ?_⟩
    rcases releaseIfReserved_spec hrel with ⟨hk, rfl⟩ | ⟨a, a', ha, haid, hk, hposted, honly⟩
    · obtain ⟨hor, hrw⟩ := transition_spec ho htr
      have hrw' := hrw.congr rfl (show db'.orders = s₂.orders by rw [hd])
      refine ⟨hrw', .refuse hrw' (.refuse (hsource _ hs') _ _ _) rfl (hsource _ hs')
        (not_has_of_entry hk) ⟨?_, ?_⟩ ?_⟩
      · rw [hd, hor]
      · rw [hd, hor]
      · rw [hd, hor]
    · have ho₁ : o ∈ s₁.orders := by
        rw [honly.orders]
        exact ho
      obtain ⟨hor, hrw⟩ := transition_spec ho₁ htr
      have hrw' := hrw.congr honly.orders.symm (show db'.orders = s₂.orders by rw [hd])
      refine ⟨hrw', Move.release hrw' ?_ ?_ ?_ ha ?_
        (hposted.congr rfl rfl ?_ ?_) ?_⟩
      · simpa using ⟨OrderStep.refuse (hsource _ hs') _ _ _, rfl⟩
      · simpa using hsource _ hs'
      · simpa using has_of_entry hk
      · simpa using haid
      · rw [hd, hor]
      · rw [hd, hor]
      · rw [hd, hor, honly.receipts]

theorem unknownTx_spec {orderId reason : String} {u : Unit}
    (h : unknownTx orderId reason env db = .ok (u, db')) :
    db' = db ∨ ∃ o ∈ db.orders, o.id = orderId ∧ o.status = .submitting ∧
      Rewrites db [o] (fun x => (x.doubt (some env.now) reason).touched env) db' ∧
      Move db db' := by
  rw [unknownTx, Tx.bind_eq_ok] at h
  obtain ⟨o, s, hlock, h⟩ := h
  obtain ⟨rfl, ho, hid⟩ := lockOrder_spec hlock
  rw [Tx.ite_eq_ok] at h
  rcases h with ⟨-, h⟩ | ⟨hs, h⟩
  · exact .inl (Prod.mk.inj (Tx.pure_eq_ok.1 h)).2
  · obtain ⟨honly, hrw⟩ := transition_spec ho h
    have hs' := not_not.1 hs
    refine .inr ⟨o, ho, hid, hs', hrw, .quiet hrw ?_ ?_ ⟨?_, ?_⟩ ?_⟩
    · simpa using OrderStep.doubt hs' reason env
    · simp [BetOrder.touched, BetOrder.doubt]
    · rw [honly]
    · rw [honly]
    · rw [honly]

/-! ## Acceptance -/

/-- An acceptance without a violation honours the contract, once its fields are stored. -/
theorem honours_of_no_violation {o : BetOrder} {accepted : OperatorOrder} {hash : String}
    {q : ℚ} {odd stake : Int} (hv : acceptanceViolation P o accepted = none)
    (hhash : accepted.receiptHash = some hash)
    (hq : accepted.acceptedOdd.bind (·.finite?) = some q)
    (hodd : oddMillis? (.num q) = some odd)
    (hstake : accepted.acceptedStake.bind toCents = some stake) :
    Honours o accepted odd stake hash := by
  simp only [acceptanceViolation] at hv
  split_ifs at hv with h₁ h₂ h₃ h₄
  obtain ⟨x, hx, hfin⟩ := Option.bind_eq_some_iff.1 hq
  obtain ⟨text, htext, hcents⟩ := Option.bind_eq_some_iff.1 hstake
  have hxq : x = .num q := by
    cases x with
    | num r =>
      rw [JsNumber.finite?, Option.some.injEq] at hfin
      rw [hfin]
    | inf | negInf | nan => cases hfin
  subst hxq
  have hamount : isAmountText text = true := by
    by_contra hbad
    rw [htext, Option.bind_some, if_neg hbad] at h₄
    simp at h₄
  rw [htext, Option.bind_some, if_pos hamount, hcents] at h₄
  refine ⟨⟨hhash, ?_⟩, ?_, ⟨q, hx, hodd, ?_⟩, ⟨text, htext, hamount, hcents⟩, ?_, ?_⟩
  · rw [hhash] at h₁
    simpa using h₁
  · cases hext : accepted.externalOrderId with
    | none => simp [hext] at h₂
    | some ref => exact ⟨ref, rfl, by simpa [hext] using h₂⟩
  · rw [hx] at h₃
    simpa [JsNumber.geRat] using h₃
  · simp at h₄
    exact h₄.1
  · simp at h₄
    exact h₄.2

theorem releaseUnused_spec {o : BetOrder} {stake : Int} {u : Unit}
    (h : releaseUnused o stake env db = .ok (u, db')) :
    (o.requestedStake ≤ stake ∧ db' = db) ∨
    stake < o.requestedStake ∧ LedgerOnly db db' ∧ ∃ a a', a ∈ db.accounts ∧ a.id = o.accountId ∧
      Posted db a [o.releasePartialInput stake] a' db' := by
  rw [releaseUnused, Tx.ite_eq_ok] at h
  rcases h with ⟨hlt, h⟩ | ⟨hge, h⟩
  · simp only [Tx.bind_eq_ok] at h
    obtain ⟨a, s, hlock, ⟨res, a'⟩, s₁, happ, h⟩ := h
    obtain ⟨rfl, ha, hid⟩ := lockAccount_spec hlock
    obtain ⟨-, rfl⟩ := Prod.mk.inj (Tx.pure_eq_ok.1 h)
    obtain ⟨hposted, honly⟩ := (append_spec ha happ).posted
    exact .inr ⟨by omega, honly, a, a', ha, hid, hposted⟩
  · exact .inl ⟨by omega, (Prod.mk.inj (Tx.pure_eq_ok.1 h)).2⟩

theorem recordAcceptance_spec {o : BetOrder} {accepted : OperatorOrder} {u : Unit}
    (ho : o ∈ db.orders) (hs : o.status ∈ releasableStatuses)
    (hv : acceptanceViolation P o accepted = none)
    (h : recordAcceptance o accepted env db = .ok (u, db')) :
    ∃ odd stake hash, Honours o accepted odd stake hash ∧
      Rewrites db [o] (fun x => (x.accept accepted odd stake).touched env) db' ∧
      Move db db' := by
  simp only [recordAcceptance, Tx.bind_eq_ok] at h
  obtain ⟨hash, s, hhash, q, s₁, hq, odd, s₂, hodd, stake, s₃, hstake, _, s₄, hins, _, s₅, htr,
    _, s₆, hrel, _, s₇, hread, _, s₈, hget, hdec⟩ := h
  obtain ⟨hash, hhash', heq⟩ := DbTx.get!_eq_ok.1 hhash
  obtain ⟨rfl, rfl⟩ := Prod.mk.inj heq
  obtain ⟨q, hq', heq⟩ := DbTx.get!_eq_ok.1 hq
  obtain ⟨rfl, rfl⟩ := Prod.mk.inj heq
  obtain ⟨odd, hodd', heq⟩ := DbTx.get!_eq_ok.1 hodd
  obtain ⟨rfl, rfl⟩ := Prod.mk.inj heq
  obtain ⟨stake, hstake', heq⟩ := DbTx.get!_eq_ok.1 hstake
  obtain ⟨rfl, rfl⟩ := Prod.mk.inj heq
  obtain ⟨t, ht, rfl⟩ := insertReceipt_spec hins
  have ho₁ : o ∈ ({ s₃ with receipts := t } : Database).orders := ho
  obtain ⟨hor, hrw⟩ := transition_spec ho₁ htr
  obtain ⟨-, rfl⟩ := Prod.mk.inj (DbTx.read_eq_ok.1 hread)
  obtain ⟨_, -, heq⟩ := DbTx.get!_eq_ok.1 hget
  obtain ⟨-, rfl⟩ := Prod.mk.inj heq
  have hd := updateDecisions_spec hdec
  have hh := honours_of_no_violation hv hhash' hq' hodd' hstake'
  rcases releaseUnused_spec hrel with ⟨hfull, rfl⟩ | ⟨hlt, honly, a, a', ha, haid, hposted⟩
  · have hrw' := hrw.congr (x := s₃) rfl (show db'.orders = s₈.orders by rw [hd])
    refine ⟨_, _, _, hh, hrw', .accept hrw' rfl hs hh (.inl ⟨?_, ⟨?_, ?_⟩⟩) ?_⟩
    · have hle := hh.le
      omega
    · rw [hd, hor]
    · rw [hd, hor]
    · rw [hd, hor, Table.rows_insert? ht]
  · have hrw' := hrw.congr (x := s₃) rfl (show db'.orders = s₅.orders by rw [hd, honly.orders])
    have haccs : s₅.accounts = s₃.accounts := by rw [hor]
    have hents : s₅.entries = s₃.entries := by rw [hor]
    refine ⟨_, _, _, hh, hrw', .accept hrw' rfl hs hh
      (.inr ⟨hlt, a, a', haccs ▸ ha, haid, hposted.congr haccs.symm hents.symm ?_ ?_⟩) ?_⟩
    · rw [hd]
    · rw [hd]
    · rw [hd, honly.receipts, hor, Table.rows_insert? ht]

theorem violateAcceptance_spec {o : BetOrder} {accepted : OperatorOrder} {reason : String}
    {taken : Bool} {r : Option AutoStopRequest} (ho : o ∈ db.orders)
    (hs : o.status ∈ releasableStatuses)
    (h : violateAcceptance o accepted reason taken env db = .ok (r, db')) :
    Rewrites db [o] (fun x => (x.dispute reason env.now).touched env) db' ∧ Move db db' := by
  rw [violateAcceptance, Tx.bind_eq_ok] at h
  obtain ⟨_, s, htr, h⟩ := h
  obtain ⟨-, rfl⟩ := Prod.mk.inj (Tx.pure_eq_ok.1 h)
  obtain ⟨honly, hrw⟩ := transition_spec ho htr
  refine ⟨hrw, .quiet hrw ?_ ?_ ⟨?_, ?_⟩ ?_⟩
  · simpa using OrderStep.dispute hs reason env
  · simp [BetOrder.touched, BetOrder.dispute]
  · rw [honly]
  · rw [honly]
  · rw [honly]

/-- **An acceptance changes only its own order, while it is not yet decided**: it is recorded as the
operator reports it, or the order waits for a human. -/
theorem acceptanceTx_spec {orderId : String} {accepted : OperatorOrder}
    {r : Option AutoStopRequest} (h : acceptanceTx P orderId accepted env db = .ok (r, db')) :
    (db' = db ∧ ∃ o ∈ db.orders, o.id = orderId ∧ o.status ∉ releasableStatuses) ∨
    ∃ o ∈ db.orders, o.id = orderId ∧ o.status ∈ releasableStatuses ∧ Move db db' ∧
      ((∃ reason, Rewrites db [o] (fun x => (x.dispute reason env.now).touched env) db') ∨
        ∃ odd stake hash, Honours o accepted odd stake hash ∧
          Rewrites db [o] (fun x => (x.accept accepted odd stake).touched env) db') := by
  rw [acceptanceTx, Tx.bind_eq_ok] at h
  obtain ⟨o, s, hlock, h⟩ := h
  obtain ⟨rfl, ho, hid⟩ := lockOrder_spec hlock
  have hmem : o.status ∈ [OrderStatus.submitting, .unknown, .reserved] ↔
      o.status ∈ releasableStatuses := by
    cases o.status <;> simp [releasableStatuses]
  rw [Tx.ite_eq_ok] at h
  rcases h with ⟨hs, h⟩ | ⟨hs, h⟩
  · exact .inl ⟨(Prod.mk.inj (Tx.pure_eq_ok.1 h)).2, o, ho, hid, fun hr => hs (hmem.2 hr)⟩
  · have hs' := hmem.1 (not_not.1 hs)
    simp only [Tx.bind_eq_ok] at h
    obtain ⟨taken, s₁, hreceipt, external, s₂, hexternal, h⟩ := h
    obtain ⟨-, rfl⟩ := Prod.mk.inj (DbTx.read_eq_ok.1 hreceipt)
    obtain ⟨-, rfl⟩ := Prod.mk.inj (DbTx.read_eq_ok.1 hexternal)
    refine .inr ⟨o, ho, hid, hs', ?_⟩
    rw [Tx.ite_eq_ok] at h
    rcases h with ⟨-, h⟩ | ⟨hok, h⟩
    · obtain ⟨hrw, hmove⟩ := violateAcceptance_spec ho hs' h
      exact ⟨hmove, .inl ⟨_, hrw⟩⟩
    · rw [not_or, Option.isSome_iff_ne_none, not_not] at hok
      rw [Tx.bind_eq_ok] at h
      obtain ⟨_, s₃, hrec, h⟩ := h
      obtain ⟨-, rfl⟩ := Prod.mk.inj (Tx.pure_eq_ok.1 h)
      obtain ⟨odd, stake, hash, hh, hrw, hmove⟩ := recordAcceptance_spec ho hs' hok.1 hrec
      exact ⟨hmove, .inr ⟨odd, stake, hash, hh, hrw⟩⟩

/-! ## Settlement -/

/-- **Settling a stake records one entry for the order it is asked for.** -/
theorem settleStakeTx_move {o : BetOrder} {stake payout : Int} {r : BankrollLedgerEntry × Bool}
    (ho : o ∈ db.orders) (hs : o.status ∈ takenStatuses) (hstake : o.acceptedStake = some stake)
    (h : settleStakeTx (o.settleInput stake payout) env db = .ok (r, db')) :
    Move db db' ∧ db'.Has .settle o.idempotencyKey ∧ db'.orders = db.orders := by
  obtain ⟨a, a', res, ha, hid, hout⟩ := settleStakeTx_spec h
  obtain ⟨hposted, honly⟩ := hout.posted
  obtain ⟨hmem, hkey⟩ := hout.mem_entry
  exact ⟨.settleStake ho hs hstake ha hid hposted honly.orders honly.receipts,
    ⟨res.entry, hmem, hkey⟩, honly.orders⟩

/-- **Closing an order writes its outcome, once its stake is settled.** -/
theorem settleOrderTx_spec {orderId : String} {outcome : DecisionOutcome} {profit payout : Int}
    {settledAt : Option Int} {u : Unit}
    (h : settleOrderTx orderId outcome profit payout settledAt env db = .ok (u, db')) :
    (db' = db ∧ ∃ o ∈ db.orders, o.id = orderId ∧ o.status ≠ .accepted) ∨
    ∃ o ∈ db.orders, o.id = orderId ∧ o.status = .accepted ∧ LedgerSame db db' ∧
      db'.receipts = db.receipts ∧
      Rewrites db [o] (fun x => (x.settle outcome payout (settledAt.getD env.now)).touched env)
        db' := by
  rw [settleOrderTx, Tx.bind_eq_ok] at h
  obtain ⟨o, s, hlock, h⟩ := h
  obtain ⟨rfl, ho, hid⟩ := lockOrder_spec hlock
  rw [Tx.ite_eq_ok] at h
  rcases h with ⟨hs, h⟩ | ⟨hs, h⟩
  · exact .inl ⟨(Prod.mk.inj (Tx.pure_eq_ok.1 h)).2, o, ho, hid, hs⟩
  · simp only [Tx.bind_eq_ok] at h
    obtain ⟨_, s₁, htr, profit', s₂, hprofit, hdec⟩ := h
    obtain ⟨honly, hrw⟩ := transition_spec ho htr
    obtain ⟨-, rfl, -⟩ := storeCents_spec hprofit
    have hd := updateDecisions_spec hdec
    refine .inr ⟨o, ho, hid, not_not.1 hs, ⟨?_, ?_⟩, ?_, hrw.congr rfl ?_⟩
    · rw [hd, honly]
    · rw [hd, honly]
    · rw [hd, honly]
    · rw [hd]

theorem settleOrderTx_move {orderId : String} {outcome : DecisionOutcome} {profit payout : Int}
    {settledAt : Option Int} {u : Unit}
    (hsettled : ∀ o ∈ db.orders, o.id = orderId → db.Has .settle o.idempotencyKey)
    (h : settleOrderTx orderId outcome profit payout settledAt env db = .ok (u, db')) :
    Move db db' := by
  rcases settleOrderTx_spec h with ⟨rfl, -⟩ | ⟨o, ho, hid, hs, hledger, hreceipts, hrw⟩
  · exact .refl _
  · refine .quiet hrw ?_ ?_ hledger hreceipts
    · exact List.forall_mem_singleton.2 (.settle hs outcome payout _ env)
    · exact List.forall_mem_singleton.2 (.inr ⟨hs, hsettled o ho hid⟩)

/-! ## Sweeps -/

theorem recoverStaleTx_spec {ids : List String} {n : Nat}
    (h : recoverStaleTx ids env db = .ok (n, db')) :
    ∃ os, (∀ o ∈ os, o ∈ db.orders ∧ o.status = .submitting) ∧
      Rewrites db os (fun x => (x.doubt x.submittedAt
        "Soumission interrompue : résultat inconnu").touched env) db' ∧ Move db db' := by
  obtain ⟨-, honly, hrw⟩ := updateOrders_spec h
  have hsel : ∀ o ∈ db.orders.select fun o => ids.contains o.id && o.status == .submitting,
      o ∈ db.orders ∧ o.status = .submitting := by
    intro o ho
    obtain ⟨hmem, hp⟩ := Table.mem_select.1 ho
    rw [Bool.and_eq_true, beq_iff_eq] at hp
    exact ⟨hmem, hp.2⟩
  refine ⟨_, hsel, hrw, .quiet hrw ?_ ?_ ⟨?_, ?_⟩ ?_⟩
  · exact fun o ho => .recover (hsel o ho).2 _ env
  · exact fun o ho => .inl (by simp [BetOrder.touched, BetOrder.doubt])
  · rw [honly]
  · rw [honly]
  · rw [honly]

theorem lockReserved_spec {ids : List String} {os : List BetOrder}
    (h : lockReserved ids db = .ok (os, db')) :
    db' = db ∧ os.Nodup ∧ ∀ o ∈ os, o ∈ db.orders ∧ o.id ∈ ids ∧ o.status = .reserved := by
  obtain ⟨rfl, rfl⟩ := Prod.mk.inj (DbTx.read_eq_ok.1 h)
  refine ⟨rfl, ?_, fun o ho => ?_⟩
  · rw [(List.mergeSort_perm _ _).nodup_iff]
    exact Table.nodup_select fun o => by simp [orderSchema]
  · obtain ⟨hmem, hp⟩ := Table.mem_select.1 ((List.mergeSort_perm _ _).mem_iff.1 ho)
    rw [Bool.and_eq_true, beq_iff_eq, List.contains_iff_mem] at hp
    exact ⟨hmem, hp⟩

/-- What the sweep of abandoned reservations writes on an order. -/
def BetOrder.abandon (o : BetOrder) : BetOrder :=
  o.refuse .operatorUnavailable "Réservation abandonnée avant soumission"

theorem cancelReservedOrders_spec {os : List BetOrder} {accountId : String} {ids : List String}
    (hnodup : os.Nodup) (hmem : ∀ o ∈ os, o ∈ db.orders ∧ o.status = .reserved)
    (hacc : ∀ o ∈ os, o.accountId = accountId)
    (h : cancelReservedOrders os accountId env db = .ok (ids, db')) :
    ∃ os', (∀ o ∈ os', o ∈ os) ∧ ids = os'.map (·.id) ∧
      Rewrites db os' (fun x => x.abandon.touched env) db' ∧ Move db db' := by
  simp only [cancelReservedOrders, Tx.bind_eq_ok] at h
  obtain ⟨a, s, hlock, reserves, s₁, hread, ⟨res, a'⟩, s₂, hbatch, h⟩ := h
  obtain ⟨rfl, ha, hid⟩ := lockAccount_spec hlock
  obtain ⟨rfl, rfl⟩ := Prod.mk.inj (DbTx.read_eq_ok.1 hread)
  generalize hrel : List.filter _ os = os' at h hbatch
  have hsub : ∀ o ∈ os', o ∈ os ∧ s₁.Has .reserve o.idempotencyKey := by
    intro o ho
    rw [← hrel, List.mem_filter, List.any_eq_true] at ho
    obtain ⟨ho, e, he, hkey⟩ := ho
    exact ⟨ho, e, (Table.mem_select.1 he).1, by simpa using hkey⟩
  have hnodup' : os'.Nodup := hrel ▸ hnodup.filter _
  have hid' : ∀ o ∈ os', a.id = o.accountId := fun o ho => hid.trans (hacc o (hsub o ho).1).symm
  have hfrom : ∀ o ∈ os', o.status ∈ releasableStatuses := by
    intro o ho
    rw [(hmem o (hsub o ho).1).2]
    exact List.mem_cons_self
  have hsteps : ∀ o ∈ os', OrderStep o (o.abandon.touched env) ∧
      (o.abandon.touched env).status = .rejected :=
    fun o ho => ⟨.refuse (hfrom o ho) _ _ env, rfl⟩
  obtain ⟨hposted, honly⟩ := appendBatch_posted ha hbatch
  rw [Tx.ite_eq_ok] at h
  rcases h with ⟨hnil, h⟩ | ⟨-, h⟩
  · obtain ⟨rfl, rfl⟩ := Prod.mk.inj (Tx.pure_eq_ok.1 h)
    subst hnil
    have hrw := Rewrites.nil honly.orders fun x => x.abandon.touched env
    exact ⟨[], by simp, rfl, hrw,
      .release hrw hsteps hfrom (by simp) ha hid' hposted honly.receipts⟩
  · simp only [Tx.bind_eq_ok] at h
    obtain ⟨n, s₃, hupd, _, s₄, hdec, h⟩ := h
    obtain ⟨rfl, rfl⟩ := Prod.mk.inj (Tx.pure_eq_ok.1 h)
    obtain ⟨-, hor, hrw⟩ := updateOrders_spec hupd
    have hd := updateDecisions_spec hdec
    have hrw' : Rewrites s₁ os' (fun x => x.abandon.touched env) db' := by
      refine Rewrites.of_perm (hrw.congr honly.orders.symm (by rw [hd])) (fun o => ?_) hnodup'
      rw [Table.mem_select, Bool.and_eq_true, List.contains_iff_mem, List.mem_map, beq_iff_eq,
        honly.orders]
      constructor
      · exact fun ho => ⟨(hmem o (hsub o ho).1).1, ⟨o, ho, rfl⟩, (hmem o (hsub o ho).1).2⟩
      · rintro ⟨hox, ⟨x, hx, hxid⟩, -⟩
        rw [← order_eq_of_id (hmem x (hsub x hx).1).1 hox hxid]
        exact hx
    refine ⟨os', fun o ho => (hsub o ho).1, rfl, hrw',
      .release hrw' hsteps hfrom (fun o ho => (hsub o ho).2) ha hid'
        (hposted.congr rfl rfl ?_ ?_) ?_⟩
    · rw [hd, hor]
    · rw [hd, hor]
    · rw [hd, hor, honly.receipts]

/-- **The sweep of abandoned reservations refuses only orders that are still `RESERVED`.** -/
theorem cancelAbandonedTx_spec {orderIds ids : List String}
    (h : cancelAbandonedTx orderIds env db = .ok (ids, db')) :
    ∃ os, (∀ o ∈ os, o ∈ db.orders ∧ o.status = .reserved ∧ o.id ∈ orderIds) ∧
      ids = os.map (·.id) ∧ Rewrites db os (fun x => x.abandon.touched env) db' ∧ Move db db' := by
  rw [cancelAbandonedTx, Tx.bind_eq_ok] at h
  obtain ⟨os, s, hlock, h⟩ := h
  obtain ⟨rfl, hnodup, hmem⟩ := lockReserved_spec hlock
  have hmem' : ∀ o ∈ os, o ∈ s.orders ∧ o.status = .reserved ∧ o.id ∈ orderIds :=
    fun o ho => ⟨(hmem o ho).1, (hmem o ho).2.2, List.mem_dedup.1 (hmem o ho).2.1⟩
  cases os with
  | nil =>
    obtain ⟨rfl, rfl⟩ := Prod.mk.inj (Tx.pure_eq_ok.1 h)
    exact ⟨[], by simp, rfl, .nil rfl _, .refl _⟩
  | cons first rest =>
    simp only [Tx.ite_eq_ok] at h
    rcases h with ⟨-, h⟩ | ⟨hsame, h⟩
    · exact (DbTx.fail_eq_ok.1 h).elim
    · have hacc : ∀ o ∈ first :: rest, o.accountId = first.accountId := by
        intro o ho
        rcases List.mem_cons.1 ho with rfl | ho
        · rfl
        · by_contra hne
          exact hsame (List.any_eq_true.2 ⟨o, ho, by simpa using hne⟩)
      obtain ⟨os', hsub, hids, hrw, hmove⟩ := cancelReservedOrders_spec hnodup
        (fun o ho => ⟨(hmem' o ho).1, (hmem' o ho).2.1⟩) hacc h
      exact ⟨os', fun o ho => hmem' o (hsub o ho), hids, hrw, hmove⟩

end Specs

end ApiScore
