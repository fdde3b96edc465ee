import ApiScore.Execution.Commits
import ApiScore.Execution.SettlementAgreement

/-!
# The stages of a settlement

`settleFromOperator` settles an order in two transactions: the first records the settle entry, the
second closes the order and completes its decision.  Here is what each of them leaves, whatever stage
the tables are at, and that each can be taken again.

* `SettleStage` — nothing done, the entry booked, or the order closed too, relative to the tables
  before.
* `SettleStage.settleStake`, `SettleStage.settleOrder` — what the two transactions make of a stage.
* `Due.settleStake_commits`, `Due.settleOrder_commits` — neither is refused at any stage, if it was
  accepted once.
* `Closed.alike` — two settlements that went through differ in their timestamps only.
-/

set_option autoImplicit false

namespace ApiScore

open Relational

/-! ## Stages -/

/-- An accepted order whose settlement for this payout has not begun. -/
structure Due (db : Database) (order : BetOrder) (stake payout : Int) : Prop where
  mem : order ∈ db.orders
  accepted : order.status = .accepted
  hasStake : order.acceptedStake = some stake
  isAmount : 0 ≤ payout ∧ payout < 10 ^ 14
  unrecorded : db.entry? (KeyKind.key .settle order.idempotencyKey) = none

/-- The settle entry is recorded, and its account was given the balances that come of it. -/
inductive Booked (db₀ : Database) (order : BetOrder) (stake payout : Int) (db : Database) : Prop
  | intro {account : BankrollAccount} {planned : PlannedEntry} {t : Int}
      (haccount : db₀.account? order.accountId = some account)
      (hplan : planEntry .settle account.balances (order.settleInput stake payout).entry.movement =
        .ok planned)
      (hstorable : planned.storable = true)
      (hentries : db.entries.rows = db₀.entries.rows ++ [planned.row account.id account.currency
        (order.settleInput stake payout).entry (account.version + 1) t])
      (haccounts : db.accounts.rows = db₀.accounts.rows.map fun a =>
        if a = account then account.withBalances planned.balancesAfter (account.version + 1) else a)

/-- The order is closed with the outcome of the payout, and its decision is completed. -/
inductive Closed (db₀ : Database) (order : BetOrder) (stake payout : Int) (db : Database) : Prop
  | intro {t : Int} {env : TxEnv}
      (horder : Rewrites db₀ [order]
        (fun x => (x.settle (settlementOutcome stake payout).1 payout t).touched env) db)
      (hdecision : Redecides db₀ [order]
        (BetDecision.complete (settlementOutcome stake payout).1 (settlementOutcome stake payout).2 t)
        db)

/-- How far the settlement has come since `db₀`. -/
inductive SettleStage (db₀ : Database) (order : BetOrder) (stake payout : Int) (db : Database) : Prop
  | due (hledger : LedgerSame db₀ db) (horders : db.orders = db₀.orders)
      (hdecisions : db.decisions = db₀.decisions)
  | booked (hbooked : Booked db₀ order stake payout db) (horders : db.orders = db₀.orders)
      (hdecisions : db.decisions = db₀.decisions)
  | closed (hbooked : Booked db₀ order stake payout db)
      (hclosed : Closed db₀ order stake payout db)

section

variable {db₀ db db' : Database} {order : BetOrder} {stake payout : Int} {env : TxEnv}

theorem Booked.congr (h : Booked db₀ order stake payout db) (hledger : LedgerSame db db') :
    Booked db₀ order stake payout db' := by
  obtain ⟨haccount, hplan, hstorable, hentries, haccounts⟩ := h
  exact ⟨haccount, hplan, hstorable, by rw [hledger.entries, hentries],
    by rw [hledger.accounts, haccounts]⟩

theorem Closed.congr (h : Closed db₀ order stake payout db) (horders : db'.orders = db.orders)
    (hdecisions : db'.decisions = db.decisions) : Closed db₀ order stake payout db' := by
  obtain ⟨horder, hdecision⟩ := h
  refine ⟨horder.congr rfl horders, ?_⟩
  rw [Redecides, hdecisions, hdecision]

theorem SettleStage.congr (h : SettleStage db₀ order stake payout db) (hledger : LedgerSame db db')
    (horders : db'.orders = db.orders) (hdecisions : db'.decisions = db.decisions) :
    SettleStage db₀ order stake payout db' := by
  cases h with
  | due h horders₀ hdecisions₀ =>
    exact .due ⟨hledger.accounts.trans h.accounts, hledger.entries.trans h.entries⟩
      (horders.trans horders₀) (hdecisions.trans hdecisions₀)
  | booked h horders₀ hdecisions₀ =>
    exact .booked (h.congr hledger) (horders.trans horders₀) (hdecisions.trans hdecisions₀)
  | closed h h' => exact .closed (h.congr hledger) (h'.congr horders hdecisions)

/-! ## What the stages say -/

/-- The entry that a booking records. -/
theorem Booked.recorded (h : Booked db₀ order stake payout db) :
    ∃ e ∈ db.entries, db.entries.rows = db₀.entries.rows ++ [e] ∧
      db.entry? (KeyKind.key .settle order.idempotencyKey) = some e ∧
      e.accountId = order.accountId ∧ e.entryType = .settle ∧ e.orderId = some order.id ∧
      e.entryKey = KeyKind.key .settle order.idempotencyKey ∧
      movementEffect .settle (order.settleInput stake payout).entry.movement =
        .ok ⟨e.amount, e.reservedDelta⟩ := by
  obtain ⟨haccount, hplan, hstorable, hentries, haccounts⟩ := h
  have hmem : ∀ {e}, db.entries.rows = db₀.entries.rows ++ [e] → e ∈ db.entries := by
    intro e he
    rw [Table.mem_def, he]
    exact List.mem_append_right _ List.mem_cons_self
  refine ⟨_, hmem hentries, hentries, entry?_of_mem (hmem hentries), ?_, rfl, rfl, rfl, ?_⟩
  · exact (account?_eq_some haccount).2
  · exact (planEntry_spec hplan).1

/-- What a settlement moves. -/
theorem settle_effect {amount reservedDelta : Int}
    (h : movementEffect .settle (order.settleInput stake payout).entry.movement =
      .ok ⟨amount, reservedDelta⟩) : amount = payout ∧ reservedDelta = -stake := by
  simp only [SettleStakeInput.entry, BetOrder.settleInput, movementEffect, positiveInteger?,
    Option.bind_some] at h
  cases hs : (JsNumber.int stake).safeInteger? with
  | none => simp [hs] at h
  | some s =>
    cases hp : (JsNumber.int payout).safeInteger? with
    | none =>
      simp only [hs, hp] at h
      split at h <;> cases h
    | some p =>
      have hvalue : ∀ {n m : Int}, (JsNumber.int n).safeInteger? = some m → m = n := by
        intro n m hnm
        simp only [JsNumber.int, JsNumber.safeInteger?] at hnm
        split_ifs at hnm
        simpa using hnm.symm
      simp only [hs, hp] at h
      split at h
      · rename_i n hn
        obtain rfl : s = n := by
          rw [Option.filter_some] at hn
          split_ifs at hn
          exact Option.some.inj hn
        split_ifs at h
        cases h
        exact ⟨hvalue hp, by rw [hvalue hs]⟩
      · cases h

/-- The row of the order once it is closed. -/
theorem Closed.order? (h : Closed db₀ order stake payout db) : ∃ t env',
    db.order? order.id =
      some ((order.settle (settlementOutcome stake payout).1 payout t).touched env') := by
  obtain ⟨horder, -⟩ := h
  exact ⟨_, _, order?_of_mem (horder.mem_of_rewritten (List.mem_singleton_self order))⟩

theorem settle_status_ne (o : BetOrder) (outcome : DecisionOutcome) (p t : Int) (env' : TxEnv) :
    ((o.settle outcome p t).touched env').status ≠ .accepted := by
  simp only [BetOrder.touched, BetOrder.settle]
  split_ifs <;> simp

/-- The order is accepted until it is closed. -/
theorem SettleStage.row (hd : Due db₀ order stake payout) (h : SettleStage db₀ order stake payout db)
    {o : BetOrder} (ho : db.order? order.id = some o) :
    (o = order ∧ db.orders = db₀.orders ∧ db.decisions = db₀.decisions) ∨
      (o.status ≠ .accepted ∧ Booked db₀ order stake payout db ∧
        Closed db₀ order stake payout db) := by
  have hsame : db.orders = db₀.orders → o = order := by
    intro horders
    rw [Database.order?, horders] at ho
    exact Option.some.inj (ho.symm.trans (order?_of_mem hd.mem))
  cases h with
  | due _ horders hdecisions => exact .inl ⟨hsame horders, horders, hdecisions⟩
  | booked _ horders hdecisions => exact .inl ⟨hsame horders, horders, hdecisions⟩
  | closed hbooked hclosed =>
    obtain ⟨t, env', hrow⟩ := hclosed.order?
    obtain rfl := Option.some.inj (ho.symm.trans hrow)
    exact .inr ⟨settle_status_ne _ _ _ _ _, hbooked, hclosed⟩

/-! ## The transactions -/

/-- The transaction of `settleStake`, both ways: it is its entry's `append`. -/
theorem settleStakeTx_eq_ok {input : SettleStakeInput} {r : BankrollLedgerEntry × Bool} :
    settleStakeTx input env db = .ok (r, db') ↔ ∃ account account' res,
      db.account? input.accountId = some account ∧
      append account input.entry env.dbNow db = .ok ((res, account'), db') ∧
      r = (res.entry,
        ((toSnapshot (if env.controlUnreadable then none else db'.control)
          env.interlockOpen).activeRiskPolicyId.bind db'.policy?).any fun p =>
            p.maxDailyLoss ≤ max 0
              (-(db'.dailyAggregates account.id (utcDayStart env.now)).settledPnlCents)) := by
  simp only [settleStakeTx, lockAccount, Tx.bind_eq_ok, DbTx.read_eq_ok, DbTx.get!_eq_ok,
    Tx.pure_eq_ok]
  constructor
  · rintro ⟨account, _, ⟨_, _, heq, a, ha, haeq⟩, ⟨res, account'⟩, _, happ, _, _, h₁, _, _, h₂, _, _,
      h₃, h⟩
    cases heq
    cases haeq
    cases h₁
    cases h₂
    cases h₃
    cases h
    exact ⟨account, account', res, ha, happ, rfl⟩
  · rintro ⟨account, account', res, ha, happ, rfl⟩
    exact ⟨account, db, ⟨_, _, rfl, account, ha, rfl⟩, (res, account'), db', happ, _, _, rfl, _, _,
      rfl, _, _, rfl, rfl⟩

/-- **Settling the stake books the entry**, unless it was booked before. -/
theorem SettleStage.settleStake (hd : Due db₀ order stake payout)
    (h : SettleStage db₀ order stake payout db) {r : BankrollLedgerEntry × Bool}
    (hbody : settleStakeTx (order.settleInput stake payout) env db = .ok (r, db')) :
    SettleStage db₀ order stake payout db' ∧ Booked db₀ order stake payout db' ∧
      (Closed db₀ order stake payout db → Closed db₀ order stake payout db') := by
  obtain ⟨account, account', res, haccount, happ, -⟩ := settleStakeTx_eq_ok.1 hbody
  -- a booked entry is found under its key, and nothing is written
  have hreplay : Booked db₀ order stake payout db → db' = db := by
    intro hb
    obtain ⟨e, -, -, hkey, -⟩ := hb.recorded
    obtain ⟨effect, -, -, heq⟩ := (append_recorded hkey).1 happ
    exact (Prod.mk.inj heq).2
  cases h with
  | due hledger horders hdecisions =>
    have hkey : db.entry? (order.settleInput stake payout).entry.entryKey = none :=
      (entry?_congr hledger.entries _).trans hd.unrecorded
    obtain ⟨planned, hplan, hstorable, hsaved, -⟩ :=
      (append_unrecorded (account?_eq_some haccount).1 hkey).1 happ
    have hbooked : Booked db₀ order stake payout db' := by
      refine Booked.intro (t := env.dbNow) ?_ hplan hstorable ?_ ?_
      · rw [Database.account?, ← hledger.accounts]
        exact haccount
      · rw [hsaved.entries, hledger.entries]
      · rw [hsaved.accounts, hledger.accounts, hsaved.saved]
    refine ⟨.booked hbooked (hsaved.only.orders.trans horders)
      (hsaved.only.decisions.trans hdecisions), hbooked, fun hc => ?_⟩
    exact hc.congr hsaved.only.orders hsaved.only.decisions
  | booked hb horders hdecisions =>
    obtain rfl := hreplay hb
    exact ⟨.booked hb horders hdecisions, hb, id⟩
  | closed hb hc =>
    obtain rfl := hreplay hb
    exact ⟨.closed hb hc, hb, id⟩

/-- **Closing the order**, once the entry is booked. -/
theorem SettleStage.settleOrder (hd : Due db₀ order stake payout)
    (h : SettleStage db₀ order stake payout db)
    (hb : Booked db₀ order stake payout db) {settledAt : Option Int} {u : Unit}
    (hbody : settleOrderTx order.id (settlementOutcome stake payout).1
      (settlementOutcome stake payout).2 payout settledAt env db = .ok (u, db')) :
    Booked db₀ order stake payout db' ∧ Closed db₀ order stake payout db' := by
  have hrow : ∀ {o}, o ∈ db.orders → o.id = order.id → db.order? order.id = some o := by
    intro o ho hid
    rw [← hid]
    exact order?_of_mem ho
  rcases settleOrderTx_spec hbody with ⟨rfl, o, ho, hid, hs⟩ | ⟨o, ho, hid, hs, hledger, -, -⟩
  · rcases h.row hd (hrow ho hid) with ⟨rfl, -⟩ | ⟨-, hb, hc⟩
    · exact (hs hd.accepted).elim
    · exact ⟨hb, hc⟩
  · rcases h.row hd (hrow ho hid) with ⟨rfl, horders, hdecisions⟩ | ⟨hne, -⟩
    · rcases settleOrderTx_decisions hbody with ⟨-, x, hx, hxid, hxs⟩ | ⟨x, hx, hxid, hrw, hre⟩
      · rw [order_eq_of_id hx ho hxid] at hxs
        exact (hxs hs).elim
      · rw [order_eq_of_id hx ho hxid] at hrw hre
        exact ⟨hb.congr hledger, hrw.congr horders.symm rfl, hre.of_eq hdecisions⟩
    · exact (hne hs).elim

/-! ## Neither is refused -/

/-- An entry that could be written at one instant can be written at another. -/
theorem exists_entries {db₁ : Database} {planned : PlannedEntry} {account : BankrollAccount}
    {input : AppendInput} {v : Nat} {t : Int} (t' : Int)
    (h : db₁.entries.rows = db.entries.rows ++
      [planned.row account.id account.currency input v t]) :
    ∃ u : Table entrySchema, u.rows = db.entries.rows ++
      [planned.row account.id account.currency input v t'] := by
  let g (t : Int) (e : Option BankrollLedgerEntry) : BankrollLedgerEntry :=
    e.getD (planned.row account.id account.currency input v t)
  have hrows : ∀ t, db.entries.rows ++ [planned.row account.id account.currency input v t] =
      (db.entries.rows.map some ++ [none]).map (g t) := by
    intro t
    rw [List.map_append, List.map_map, List.map_singleton]
    exact congrArg (· ++ _) (List.map_id _).symm
  rw [hrows] at h ⊢
  refine Table.exists_map h (fun a b => ?_) fun a => ?_
  · cases a <;> cases b <;> rfl
  · cases a <;> exact id

/-- **Settling the stake is not refused** at any stage. -/
theorem Due.settleStake_commits {db₁ : Database} (hd : Due db₀ order stake payout)
    (hfits : Booked db₀ order stake payout db₁) (h : SettleStage db₀ order stake payout db)
    (env : TxEnv) : ∃ r db', settleStakeTx (order.settleInput stake payout) env db = .ok (r, db') := by
  have hreplay : Booked db₀ order stake payout db →
      ∃ r db', settleStakeTx (order.settleInput stake payout) env db = .ok (r, db') := by
    intro hb
    obtain ⟨e, -, -, hkey, hid, htype, -, -, heffect⟩ := hb.recorded
    obtain ⟨haccount, -, -, -, haccounts⟩ := hb
    rename_i account planned _
    have hfound : db.account? order.accountId =
        some (account.withBalances planned.balancesAfter (account.version + 1)) := by
      rw [Database.account?, Table.find?, haccounts,
        Table.find?_map_key (g := BankrollAccount.id) fun a => by split_ifs with ha <;> simp [ha]]
      refine (congrArg _ haccount).trans ?_
      rw [Option.map_some, if_pos rfl]
    refine ⟨_, _, settleStakeTx_eq_ok.2 ⟨_, _, _, hfound, (append_recorded hkey).2
      ⟨_, heffect, ?_, rfl⟩, rfl⟩⟩
    have hacc : e.accountId = account.id := hid.trans (account?_eq_some haccount).2.symm
    simp [AppendInput.sameAs, htype, SettleStakeInput.entry, hacc]
  cases h with
  | due hledger horders hdecisions =>
    obtain ⟨haccount, hplan, hstorable, hentries, haccounts⟩ := hfits
    rename_i account planned t
    have hfound : db.account? order.accountId = some account := by
      rw [Database.account?, hledger.accounts]
      exact haccount
    rw [← hledger.entries] at hentries
    rw [← hledger.accounts] at haccounts
    obtain ⟨u, hu⟩ := exists_entries env.dbNow hentries
    have hkey : db.entry? (order.settleInput stake payout).entry.entryKey = none :=
      (entry?_congr hledger.entries _).trans hd.unrecorded
    refine ⟨_, { db with accounts := db₁.accounts, entries := u }, settleStakeTx_eq_ok.2
      ⟨account, _, _, hfound, (append_unrecorded (account?_eq_some hfound).1 hkey).2
        ⟨planned, hplan, hstorable, ⟨?_, rfl, rfl, hu, haccounts⟩, rfl⟩, rfl⟩⟩
    refine List.forall_mem_singleton.2 ?_
    have horder : db.order? order.id = some order := by
      rw [Database.order?, horders]
      exact order?_of_mem hd.mem
    have hself : db.account? account.id = some account := by
      rw [(account?_eq_some hfound).2]
      exact hfound
    simp [Database.entryReferences, PlannedEntry.row, SettleStakeInput.entry, BetOrder.settleInput,
      hself, horder]
  | booked hb => exact hreplay hb
  | closed hb => exact hreplay hb

theorem SettleStage.order? (hd : Due db₀ order stake payout)
    (h : SettleStage db₀ order stake payout db) :
    ∃ o, db.order? order.id = some o := by
  have hsame : db.orders = db₀.orders → db.order? order.id = some order := by
    intro horders
    rw [Database.order?, horders]
    exact order?_of_mem hd.mem
  cases h with
  | due _ horders => exact ⟨order, hsame horders⟩
  | booked _ horders => exact ⟨order, hsame horders⟩
  | closed _ hclosed =>
    obtain ⟨_, _, hrow⟩ := hclosed.order?
    exact ⟨_, hrow⟩

/-- An order that could be closed at one instant can be closed at another. -/
theorem Closed.exists_tables {db₁ : Database} (h : Closed db₀ order stake payout db₁) (t : Int)
    (env : TxEnv) : (∃ orders : Table orderSchema, orders.rows = db₀.orders.rows.map fun x =>
        if x ∈ [order] then (x.settle (settlementOutcome stake payout).1 payout t).touched env
        else x) ∧
      ∃ decisions : Table decisionSchema, decisions.rows = db₀.decisions.rows.map fun d =>
        if d.id ∈ [order].map BetOrder.decisionId then
          d.complete (settlementOutcome stake payout).1 (settlementOutcome stake payout).2 t
        else d := by
  obtain ⟨horder, hdecision⟩ := h
  constructor
  · refine Table.exists_map horder.rows (fun a b => ?_) fun a => ?_
    · by_cases ha : a ∈ [order] <;> by_cases hb : b ∈ [order] <;> simp only [ha, hb] <;> rfl
    · by_cases ha : a ∈ [order] <;> simp only [ha] <;> exact id
  · refine Table.exists_map hdecision (fun a b => ?_) fun a => ?_
    · by_cases ha : a.id ∈ [order].map BetOrder.decisionId <;>
        by_cases hb : b.id ∈ [order].map BetOrder.decisionId <;> simp only [ha, hb] <;> rfl
    · by_cases ha : a.id ∈ [order].map BetOrder.decisionId <;> simp only [ha] <;> exact id

/-- The profit of a settlement is an amount. -/
theorem Due.safe_profit (hd : Due db₀ order stake payout) :
    isSafeInteger (settlementOutcome stake payout).2 = true := by
  obtain ⟨hpos, hfits⟩ := acceptedStake_fits hd.mem hd.hasStake
  have hamount := hd.isAmount
  have hbounds : -10 ^ 14 < (settlementOutcome stake payout).2 ∧
      (settlementOutcome stake payout).2 < 10 ^ 14 := by
    rw [settlementOutcome]
    split_ifs <;> simp only <;> omega
  exact isSafeInteger_of_lt hbounds.1 hbounds.2

/-- **Closing the order is not refused** at any stage. -/
theorem Due.settleOrder_commits {db₁ : Database} (hd : Due db₀ order stake payout)
    (hfits : Closed db₀ order stake payout db₁) (h : SettleStage db₀ order stake payout db)
    (settledAt : Option Int) (env : TxEnv) :
    ∃ db', settleOrderTx order.id (settlementOutcome stake payout).1
      (settlementOutcome stake payout).2 payout settledAt env db = .ok ((), db') := by
  obtain ⟨o, hrow⟩ := h.order? hd
  have hlock : lockOrder order.id db = .ok (o, db) := lockOrder_eq_ok.2 ⟨hrow, rfl⟩
  rcases h.row hd hrow with ⟨rfl, horders, hdecisions⟩ | ⟨hne, -⟩
  · obtain ⟨⟨t, ht⟩, u, hu⟩ := hfits.exists_tables (settledAt.getD env.now) env
    have hmem : o ∈ db.orders := (order?_eq_some hrow).1
    refine ⟨{ db with orders := t, decisions := u }, ?_⟩
    rw [settleOrderTx, Tx.bind_eq_ok]
    refine ⟨o, db, hlock, ?_⟩
    rw [if_neg (not_not.2 hd.accepted)]
    simp only [Tx.bind_eq_ok, transition_eq_ok hmem, storeCents_eq_ok, updateDecisions_eq_ok]
    refine ⟨(), { db with orders := t }, ⟨rfl, List.forall_mem_singleton.2 hmem,
      List.nodup_singleton o, ?_⟩, _, _, ⟨hd.safe_profit, rfl, rfl⟩, rfl, ?_⟩
    · rw [ht, horders]
    · rw [hu, hdecisions]
      refine List.map_congr_left fun d _ => ?_
      simp [BetDecision.complete]
  · refine ⟨db, ?_⟩
    rw [settleOrderTx, Tx.bind_eq_ok]
    refine ⟨o, db, hlock, ?_⟩
    rw [if_pos hne]
    rfl

/-! ## The end -/

/-- The settle entry of the order, without the instant it was written at. -/
def BankrollLedgerEntry.undated (order : BetOrder) (e : BankrollLedgerEntry) : BankrollLedgerEntry :=
  if e.entryKey = KeyKind.key .settle order.idempotencyKey then { e with createdAt := 0 } else e

/-- The row of the order, without the instants of its settlement. -/
def BetOrder.undated (order o : BetOrder) : BetOrder :=
  if o.id = order.id then { o with settledAt := none, updatedAt := 0 } else o

/-- Its decision, likewise. -/
def BetDecision.undated (order : BetOrder) (d : BetDecision) : BetDecision :=
  if d.id = order.decisionId then { d with settledAt := none } else d

/-- The same accounts, entries, orders and decisions, up to the instants of the settlement. -/
structure SameSettlement (order : BetOrder) (db db' : Database) : Prop where
  accounts : db.accounts.rows = db'.accounts.rows
  entries : db.entries.rows.map (BankrollLedgerEntry.undated order) =
    db'.entries.rows.map (BankrollLedgerEntry.undated order)
  orders : db.orders.rows.map order.undated = db'.orders.rows.map order.undated
  decisions : db.decisions.rows.map (BetDecision.undated order) =
    db'.decisions.rows.map (BetDecision.undated order)

/-- The order is closed, with one settle entry; the profit of its decision is what that entry moved. -/
structure SettledOnce (order : BetOrder) (db : Database) : Prop where
  once : ∃ e, (db.entries.select fun e => e.entryType == .settle && e.orderId == some order.id) = [e] ∧
    e.entryKey = KeyKind.key .settle order.idempotencyKey ∧
    ∀ d, db.decision? order.decisionId = some d →
      d.status = .completed ∧ d.profit = some (e.amount + e.reservedDelta)
  closed : ∃ o, db.order? order.id = some o ∧ (o.status = .settled ∨ o.status = .voided)

/-- No settle entry names the order. -/
def Unsettled (db : Database) (order : BetOrder) : Prop :=
  ∀ e ∈ db.entries, e.entryKey ≠ KeyKind.key .settle order.idempotencyKey ∧
    ¬ (e.entryType = .settle ∧ e.orderId = some order.id)

theorem settlementOutcome_snd (stake payout : Int) :
    (settlementOutcome stake payout).2 = payout - stake := by
  rw [settlementOutcome]
  split_ifs with hvoid
  · rw [hvoid, sub_self]
  · rfl
  · rfl

/-- **A settlement that has gone through has settled the order once.** -/
theorem Closed.once (hnone : Unsettled db₀ order) (hb : Booked db₀ order stake payout db)
    (hc : Closed db₀ order stake payout db) : SettledOnce order db := by
  obtain ⟨e, -, hentries, -, -, htype, hid, hkey, heffect⟩ := hb.recorded
  refine ⟨⟨e, ?_, hkey, fun d hdec => ?_⟩, ?_⟩
  · have hold : (db₀.entries.rows.filter fun e => e.entryType == .settle &&
        e.orderId == some order.id) = [] := by
      refine List.filter_eq_nil_iff.2 fun x hx => ?_
      rw [Bool.and_eq_true, beq_iff_eq, beq_iff_eq]
      exact (hnone x hx).2
    rw [Table.select, hentries, List.filter_append, hold, List.nil_append]
    exact List.filter_cons_of_pos (by simp [htype, hid])
  · obtain ⟨-, hdecision⟩ := hc
    rw [hdecision.decision?_self fun _ => rfl] at hdec
    obtain ⟨d₀, -, rfl⟩ := Option.map_eq_some_iff.1 hdec
    obtain ⟨hamount, hdelta⟩ := settle_effect heffect
    refine ⟨rfl, ?_⟩
    rw [BetDecision.complete, hamount, hdelta, settlementOutcome_snd]
    rfl
  · obtain ⟨t, env', hrow⟩ := hc.order?
    refine ⟨_, hrow, ?_⟩
    simp only [BetOrder.touched, BetOrder.settle]
    split_ifs
    · exact .inr rfl
    · exact .inl rfl

/-- **Two settlements that have gone through differ in their timestamps only.** -/
theorem Closed.alike (hb : Booked db₀ order stake payout db)
    (hc : Closed db₀ order stake payout db) (hb' : Booked db₀ order stake payout db')
    (hc' : Closed db₀ order stake payout db') : SameSettlement order db db' := by
  obtain ⟨haccount, hplan, -, hentries, haccounts⟩ := hb
  obtain ⟨haccount', hplan', -, hentries', haccounts'⟩ := hb'
  obtain ⟨horder, hdecision⟩ := hc
  obtain ⟨horder', hdecision'⟩ := hc'
  obtain rfl := Option.some.inj (haccount.symm.trans haccount')
  obtain rfl := Except.ok.inj (hplan.symm.trans hplan')
  refine ⟨haccounts.trans haccounts'.symm, ?_, ?_, ?_⟩
  · rw [hentries, hentries', List.map_append, List.map_append]
    simp [BankrollLedgerEntry.undated, PlannedEntry.row, SettleStakeInput.entry,
      BetOrder.settleInput]
  · rw [horder.rows, horder'.rows, List.map_map, List.map_map]
    refine List.map_congr_left fun x hx => ?_
    by_cases h : x = order
    · simp [h, BetOrder.undated, BetOrder.touched, BetOrder.settle]
    · simp [h]
  · rw [hdecision, hdecision', List.map_map, List.map_map]
    refine List.map_congr_left fun d _ => ?_
    by_cases h : d.id = order.decisionId <;> simp [h, BetDecision.undated, BetDecision.complete]

end

end ApiScore
