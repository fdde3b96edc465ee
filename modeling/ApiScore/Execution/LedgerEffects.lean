import ApiScore.Execution.Calls
import ApiScore.Execution.Moves

/-!
# What a transaction adds to one account

Seen from one account, a transaction adds rows to its history and moves its reserved balance by
their sum; it writes a new version of the account's row with each of them.  Apart from a reservation,
none of the rows commits a stake.

* `Extends`, `Frees` — what is added to an account, and that it commits nothing.
* `KeepsLedger`, `FreesLedger` — the statements that add nothing, and those that commit nothing.
* `Transaction.frees` — every transaction but a reservation.
-/

set_option autoImplicit false

namespace ApiScore

open Relational

/-! ## One account -/

/-- The reserved balance of an account, 0 where there is none. -/
def Database.reservedOf (db : Database) (accountId : String) : Int :=
  (db.account? accountId).elim 0 (·.reservedBalance)

/-- The version of an account's row, 0 where there is none. -/
def Database.versionOf (db : Database) (accountId : String) : Nat :=
  (db.account? accountId).elim 0 (·.version)

theorem reservedOf_of_mem {db : Database} {a : BankrollAccount} (ha : a ∈ db.accounts) :
    db.reservedOf a.id = a.reservedBalance := by
  rw [Database.reservedOf, account?_of_mem ha, Option.elim_some]

theorem versionOf_of_mem {db : Database} {a : BankrollAccount} (ha : a ∈ db.accounts) :
    db.versionOf a.id = a.version := by
  rw [Database.versionOf, account?_of_mem ha, Option.elim_some]

/-- `rows` were added to the history of the account at the instant `dbNow`, each with a new version
of its row. -/
structure Extends (accountId : String) (dbNow : Int) (db db' : Database)
    (rows : List BankrollLedgerEntry) : Prop where
  entries : db'.entriesOf accountId = db.entriesOf accountId ++ rows
  reserved : db'.reservedOf accountId =
    db.reservedOf accountId + (rows.map (·.reservedDelta)).sum
  version : db.versionOf accountId + rows.length ≤ db'.versionOf accountId
  createdAt : ∀ e ∈ rows, e.createdAt = dbNow

/-- The entry commits no stake, and a settlement pays nothing negative. -/
structure BankrollLedgerEntry.Unbinds (e : BankrollLedgerEntry) : Prop where
  type : e.entryType ≠ .reserve
  reservedDelta : e.reservedDelta ≤ 0
  amount : e.entryType = .settle → 0 ≤ e.amount

/-- What was added to the account commits nothing. -/
def Frees (accountId : String) (dbNow : Int) (db db' : Database) : Prop :=
  ∃ rows, Extends accountId dbNow db db' rows ∧ ∀ e ∈ rows, e.Unbinds

section Extends

variable {accountId : String} {dbNow : Int} {db db' db'' : Database}
  {rows rows' : List BankrollLedgerEntry}

theorem LedgerSame.account? (h : LedgerSame db db') (accountId : String) :
    db'.account? accountId = db.account? accountId := by
  rw [Database.account?, Database.account?, h.accounts]

theorem LedgerSame.entriesOf (h : LedgerSame db db') (accountId : String) :
    db'.entriesOf accountId = db.entriesOf accountId := by
  rw [Database.entriesOf, Database.entriesOf, h.entries]

theorem LedgerSame.trans (h : LedgerSame db db') (h' : LedgerSame db' db'') :
    LedgerSame db db'' :=
  ⟨h'.accounts.trans h.accounts, h'.entries.trans h.entries⟩

theorem Extends.of_same (h : LedgerSame db db') : Extends accountId dbNow db db' [] where
  entries := by rw [h.entriesOf, List.append_nil]
  reserved := by
    rw [Database.reservedOf, h.account?]
    exact (Int.add_zero _).symm
  version := by
    rw [Database.versionOf, Database.versionOf, h.account?]
    exact le_refl _
  createdAt _ he := nomatch he

theorem Extends.trans (h : Extends accountId dbNow db db' rows)
    (h' : Extends accountId dbNow db' db'' rows') :
    Extends accountId dbNow db db'' (rows ++ rows') where
  entries := by rw [h'.entries, h.entries, List.append_assoc]
  reserved := by rw [h'.reserved, h.reserved, List.map_append, List.sum_append, add_assoc]
  version := by
    have hfirst := h.version
    have hthen := h'.version
    rw [List.length_append]
    omega
  createdAt e he := (List.mem_append.1 he).elim (h.createdAt e) (h'.createdAt e)

/-- **Where the row of an account is as it was, so is its history.** -/
theorem Extends.rows_eq_nil (h : Extends accountId dbNow db db' rows)
    (hrow : db'.account? accountId = db.account? accountId) : rows = [] := by
  have hversion := h.version
  rw [Database.versionOf, Database.versionOf, hrow] at hversion
  exact List.length_eq_zero_iff.1 (by omega)

theorem Frees.of_same (h : LedgerSame db db') : Frees accountId dbNow db db' :=
  ⟨[], .of_same h, fun _ he => nomatch he⟩

theorem Frees.trans (h : Frees accountId dbNow db db') (h' : Frees accountId dbNow db' db'') :
    Frees accountId dbNow db db'' := by
  obtain ⟨rows, hext, hrows⟩ := h
  obtain ⟨rows', hext', hrows'⟩ := h'
  exact ⟨rows ++ rows', hext.trans hext', fun e he =>
    (List.mem_append.1 he).elim (hrows e) (hrows' e)⟩

end Extends

/-! ## What is recorded -/

section Records

variable {db db' : Database} {account account' : BankrollAccount} {dbNow : Int}
  {rows : List BankrollLedgerEntry}

/-- The rows of the other accounts are as they were. -/
theorem Records.account?_other (h : Records db account rows account' db') {accountId : String}
    (hid : accountId ≠ account.id) : db'.account? accountId = db.account? accountId := by
  cases hold : db.account? accountId with
  | some x =>
    obtain ⟨hx, rfl⟩ := account?_eq_some hold
    have hne : x ≠ account := fun heq => hid (congrArg _ heq)
    exact account?_of_mem (h.mem_accounts.2 ⟨x, hx, if_neg hne⟩)
  | none =>
    refine Option.eq_none_iff_forall_not_mem.2 fun y hy => ?_
    obtain ⟨hy, hyid⟩ := account?_eq_some hy
    obtain ⟨x, hx, rfl⟩ := h.mem_accounts.1 hy
    by_cases hxa : x = account
    · rw [if_pos hxa] at hyid
      exact hid (hyid.symm.trans h.id_eq)
    · rw [if_neg hxa] at hyid
      have hfound := account?_of_mem hx
      rw [hyid, hold] at hfound
      cases hfound

/-- **What a recording adds to each account**: its rows to its own, and nothing to the others. -/
theorem Records.extends (h : Records db account rows account' db') (ha : account ∈ db.accounts)
    (hrows : ∀ e ∈ rows, e.createdAt = dbNow) (accountId : String) :
    Extends accountId dbNow db db' (if accountId = account.id then rows else []) := by
  by_cases hid : accountId = account.id
  · subst hid
    have hmem := h.mem_self ha
    have hreserved := congrArg Prod.snd h.totals
    rw [total_ledgerJournal] at hreserved
    have hid' := h.id_eq
    rw [if_pos rfl]
    refine ⟨h.entriesOf_self, ?_, ?_, hrows⟩
    · rw [reservedOf_of_mem ha, ← hid', reservedOf_of_mem hmem]
      exact hreserved
    · rw [versionOf_of_mem ha, ← hid', versionOf_of_mem hmem, h.version]
  · have hrow := h.account?_other hid
    rw [if_neg hid]
    refine ⟨?_, ?_, ?_, fun _ he => nomatch he⟩
    · rw [h.entriesOf_other hid, List.append_nil]
    · rw [Database.reservedOf, hrow]
      exact (Int.add_zero _).symm
    · rw [Database.versionOf, Database.versionOf, hrow]
      exact le_refl _

theorem Records.frees (h : Records db account rows account' db') (ha : account ∈ db.accounts)
    (hrows : ∀ e ∈ rows, e.createdAt = dbNow ∧ e.Unbinds) (accountId : String) :
    Frees accountId dbNow db db' := by
  refine ⟨_, h.extends ha (fun e he => (hrows e he).1) accountId, fun e he => ?_⟩
  split_ifs at he
  · exact (hrows e he).2
  · cases he

theorem positiveInteger?_pos {value : Option JsNumber} {n : Int}
    (h : positiveInteger? value = some n) : 0 < n := by
  obtain ⟨-, hpos⟩ := Option.filter_eq_some_iff.1 h
  exact of_decide_eq_true hpos

/-- **A movement of another type than `RESERVE` commits nothing.** -/
theorem AppendInput.Wrote.unbinds {input : AppendInput} {e : BankrollLedgerEntry}
    (h : input.Wrote dbNow e) (htype : input.type ≠ .reserve) : e.Unbinds := by
  have heffect := h.effect
  have hsame := h.entryType
  unfold movementEffect at heffect
  cases hkind : input.type with
  | reserve => exact (htype hkind).elim
  | adjustment =>
    rw [hkind] at heffect hsame
    cases hn : input.movement.adjustmentCents.bind JsNumber.safeInteger? with
    | none => simp [hn] at heffect
    | some n =>
      simp only [hn] at heffect
      split_ifs at heffect
      simp only [Except.ok.injEq, MovementEffect.mk.injEq] at heffect
      exact ⟨by simp [hsame], by omega, by simp [hsame]⟩
  | release =>
    rw [hkind] at heffect hsame
    cases hn : positiveInteger? input.movement.stakeCents with
    | none => simp [hn] at heffect
    | some stake =>
      have hpos := positiveInteger?_pos hn
      simp only [hn, Except.ok.injEq, MovementEffect.mk.injEq] at heffect
      exact ⟨by simp [hsame], by omega, by simp [hsame]⟩
  | settle =>
    rw [hkind] at heffect hsame
    cases hn : positiveInteger? input.movement.stakeCents with
    | none => simp [hn] at heffect
    | some stake =>
      have hpos := positiveInteger?_pos hn
      cases hp : input.movement.payoutCents.bind JsNumber.safeInteger? with
      | none => simp [hn, hp] at heffect
      | some payout =>
        simp only [hn, hp] at heffect
        split_ifs at heffect with hneg
        simp only [Except.ok.injEq, MovementEffect.mk.injEq] at heffect
        exact ⟨by simp [hsame], by omega, fun _ => by omega⟩

theorem AppendOutcome.frees {input : AppendInput} {res : AppendResult}
    (h : AppendOutcome db account input dbNow res account' db') (ha : account ∈ db.accounts)
    (htype : input.type ≠ .reserve) (accountId : String) : Frees accountId dbNow db db' := by
  rcases h with ⟨_, -, -, -, -, -, rfl⟩ | ⟨-, hwrote, -, hrec, -⟩
  · exact .of_same ⟨rfl, rfl⟩
  · exact hrec.frees ha
      (List.forall_mem_singleton.2 ⟨hwrote.createdAt, hwrote.unbinds htype⟩) accountId

end Records

/-! ## Statements -/

/-- The statements of `m` leave the accounts and the entries as they were. -/
def KeepsLedger {α : Type} (m : DbTx α) : Prop := Tx.Moves LedgerSame m

/-- What the statements of `m` add to any account commits nothing. -/
def FreesLedger {α : Type} (dbNow : Int) (m : DbTx α) : Prop :=
  ∀ accountId, Tx.Moves (Frees accountId dbNow) m

namespace KeepsLedger

variable {α β : Type}

theorem pure {a : α} : KeepsLedger (pure a : DbTx α) := fun _ _ _ h => by
  rw [(Prod.mk.inj (Tx.pure_eq_ok.1 h)).2]
  exact ⟨rfl, rfl⟩

theorem bind {m : DbTx α} {k : α → DbTx β} (hm : KeepsLedger m) (hk : ∀ a, KeepsLedger (k a)) :
    KeepsLedger (m >>= k) :=
  Tx.Moves.bind (fun _ _ _ h h' => h.trans h') hm hk

theorem ite {c : Prop} [Decidable c] {m n : DbTx α} (hm : KeepsLedger m) (hn : KeepsLedger n) :
    KeepsLedger (if c then m else n) := Tx.Moves.ite hm hn

theorem read {f : Database → α} : KeepsLedger (DbTx.read f) := fun _ _ _ h => by
  rw [(Prod.mk.inj (DbTx.read_eq_ok.1 h)).2]
  exact ⟨rfl, rfl⟩

theorem fail {e : ServiceError} : KeepsLedger (DbTx.fail e : DbTx α) := Tx.Moves.throw

theorem get! {e : ServiceError} {o : Option α} : KeepsLedger (DbTx.get! e o) := fun _ _ _ h => by
  obtain ⟨_, -, heq⟩ := DbTx.get!_eq_ok.1 h
  rw [(Prod.mk.inj heq).2]
  exact ⟨rfl, rfl⟩

theorem storeCents {n : Int} : KeepsLedger (storeCents n) := .ite pure fail

theorem lockOrder {id : String} : KeepsLedger (lockOrder id) := bind read fun _ => get!

theorem updateOrders {p : BetOrder → Bool} {f : BetOrder → BetOrder} :
    KeepsLedger (updateOrders p f) := fun _ _ _ h => by
  rw [(updateOrders_spec h).2.1]
  exact ⟨rfl, rfl⟩

theorem updateDecisions {p : BetDecision → Bool} {f : BetDecision → BetDecision} :
    KeepsLedger (updateDecisions p f) := fun _ _ _ h => by
  rw [updateDecisions_spec h]
  exact ⟨rfl, rfl⟩

theorem rejectDecision {id : String} {code : RejectionCode} {onlyFrom : Option DecisionStatus} :
    KeepsLedger (rejectDecision id code onlyFrom) := updateDecisions

theorem insertOrder {o : BetOrder} : KeepsLedger (insertOrder o) := fun _ _ _ h => by
  obtain ⟨-, _, -, rfl⟩ := insertOrder_spec h
  exact ⟨rfl, rfl⟩

theorem insertReceipt {r : BetReceipt} : KeepsLedger (insertReceipt r) := fun _ _ _ h => by
  obtain ⟨_, -, rfl⟩ := insertReceipt_spec h
  exact ⟨rfl, rfl⟩

theorem transition {o : BetOrder} {patch : BetOrder → BetOrder} {env : TxEnv} :
    KeepsLedger (transition o patch env) :=
  bind updateOrders fun _ => .ite fail pure

theorem applyReservation {o : BetOrder} {result : ReservationResult} {env : TxEnv} :
    KeepsLedger (applyReservation o result env) := by
  cases result with
  | reserved => exact updateDecisions
  | rejected => exact bind transition fun _ => rejectDecision

theorem frees {dbNow : Int} {m : DbTx α} (hm : KeepsLedger m) : FreesLedger dbNow m :=
  fun _ db a db' h => .of_same (hm db a db' h)

end KeepsLedger

namespace FreesLedger

variable {α β : Type} {dbNow : Int}

theorem bind {m : DbTx α} {k : α → DbTx β} (hm : FreesLedger dbNow m)
    (hk : ∀ a, FreesLedger dbNow (k a)) : FreesLedger dbNow (m >>= k) := fun accountId =>
  Tx.Moves.bind (fun _ _ _ h h' => h.trans h') (hm accountId) fun a => hk a accountId

theorem ite {c : Prop} [Decidable c] {m n : DbTx α} (hm : FreesLedger dbNow m)
    (hn : FreesLedger dbNow n) : FreesLedger dbNow (if c then m else n) := fun accountId =>
  (hm accountId).ite (hn accountId)

/-- An entry on an account whose row was locked first. -/
theorem lockAppend {id : String} {input : AppendInput} (htype : input.type ≠ .reserve)
    {k : AppendResult × BankrollAccount → DbTx β} (hk : ∀ r, FreesLedger dbNow (k r)) :
    FreesLedger dbNow (do
      let account ← lockAccount id
      let r ← append account input dbNow
      k r) := by
  intro accountId db b db' h
  simp only [Tx.bind_eq_ok] at h
  obtain ⟨account, s, hlock, ⟨res, account'⟩, s₁, happ, h⟩ := h
  obtain ⟨rfl, ha, -⟩ := lockAccount_spec hlock
  exact ((append_spec ha happ).frees ha htype accountId).trans (hk _ accountId s₁ b db' h)

/-! ## Every transaction -/

variable {P : Platform} {env : TxEnv}

theorem releaseIfReserved {o : BetOrder} : FreesLedger env.dbNow (releaseIfReserved o env) := by
  refine bind KeepsLedger.read.frees fun existing => ?_
  cases existing with
  | none => exact KeepsLedger.pure.frees
  | some _ => exact lockAppend (by simp [BetOrder.releaseInput]) fun _ => KeepsLedger.pure.frees

theorem cancelTx {orderId : String} {source : List OrderStatus} {c : Cancellation} :
    FreesLedger env.dbNow (cancelTx orderId source c env) :=
  bind KeepsLedger.lockOrder.frees fun _ => ite KeepsLedger.pure.frees <|
    bind releaseIfReserved fun _ =>
      (KeepsLedger.transition.bind fun _ => KeepsLedger.rejectDecision).frees

theorem releaseUnused {o : BetOrder} {stake : Int} :
    FreesLedger env.dbNow (releaseUnused o stake env) :=
  ite (lockAppend (by simp [BetOrder.releasePartialInput]) fun _ => KeepsLedger.pure.frees)
    KeepsLedger.pure.frees

theorem recordAcceptance {o : BetOrder} {accepted : OperatorOrder} :
    FreesLedger env.dbNow (recordAcceptance o accepted env) :=
  bind KeepsLedger.get!.frees fun _ => bind KeepsLedger.get!.frees fun _ =>
    bind KeepsLedger.get!.frees fun _ => bind KeepsLedger.get!.frees fun _ =>
    bind KeepsLedger.insertReceipt.frees fun _ => bind KeepsLedger.transition.frees fun _ =>
    bind releaseUnused fun _ => (KeepsLedger.read.bind fun _ => KeepsLedger.get!.bind fun _ =>
      KeepsLedger.updateDecisions).frees

theorem acceptanceTx {orderId : String} {accepted : OperatorOrder} :
    FreesLedger env.dbNow (acceptanceTx P orderId accepted env) :=
  bind KeepsLedger.lockOrder.frees fun _ => ite KeepsLedger.pure.frees <|
    bind KeepsLedger.read.frees fun _ => bind KeepsLedger.read.frees fun _ =>
      ite (KeepsLedger.transition.bind fun _ => KeepsLedger.pure).frees <|
        bind recordAcceptance fun _ => KeepsLedger.pure.frees

theorem settleStakeTx {input : SettleStakeInput} :
    FreesLedger env.dbNow (settleStakeTx input env) := fun accountId db r db' h => by
  obtain ⟨a, a', res, ha, -, hout⟩ := settleStakeTx_spec h
  exact hout.frees ha (by simp [SettleStakeInput.entry]) accountId

theorem settleOrderTx {orderId : String} {outcome : DecisionOutcome} {profit payout : Int}
    {settledAt : Option Int} :
    KeepsLedger (settleOrderTx orderId outcome profit payout settledAt env) :=
  KeepsLedger.lockOrder.bind fun _ => .ite .pure <| KeepsLedger.transition.bind fun _ =>
    KeepsLedger.storeCents.bind fun _ => .updateDecisions

theorem cancelReservedOrders {os : List BetOrder} {id : String} :
    FreesLedger env.dbNow (cancelReservedOrders os id env) := by
  intro accountId db ids db' h
  simp only [ApiScore.cancelReservedOrders, Tx.bind_eq_ok] at h
  obtain ⟨a, s, hlock, reserves, s₁, hread, ⟨res, a'⟩, s₂, hbatch, h⟩ := h
  obtain ⟨rfl, ha, -⟩ := lockAccount_spec hlock
  obtain ⟨rfl, rfl⟩ := Prod.mk.inj (DbTx.read_eq_ok.1 hread)
  obtain ⟨rows, hrec, -, hwrote⟩ := appendBatch_records ha hbatch
  have hfirst : Frees accountId env.dbNow s₁ s₂ := by
    refine hrec.frees ha (fun e he => ?_) accountId
    obtain ⟨input, hin, hw⟩ := wrote_by hwrote he
    obtain ⟨o, -, rfl⟩ := List.mem_map.1 (List.mem_filter.1 hin).1
    exact ⟨hw.createdAt, hw.unbinds fun hbad => by cases hbad⟩
  refine hfirst.trans (KeepsLedger.frees ?_ accountId s₂ ids db' h)
  exact .ite .pure (KeepsLedger.updateOrders.bind fun _ =>
    KeepsLedger.updateDecisions.bind fun _ => .pure)

theorem cancelAbandonedTx {orderIds : List String} :
    FreesLedger env.dbNow (cancelAbandonedTx orderIds env) := by
  refine bind KeepsLedger.read.frees fun os => ?_
  cases os with
  | nil => exact KeepsLedger.pure.frees
  | cons first rest => exact ite KeepsLedger.fail.frees cancelReservedOrders

/-- A new account has nothing reserved. -/
theorem frees_insertAccount {db : Database} {t : Table accountSchema} {new : BankrollAccount}
    (ht : db.accounts.insert? new = some t) (hb : new.totals = (0, 0)) (accountId : String) :
    Frees accountId dbNow db { db with accounts := t } := by
  have hfind : Database.account? { db with accounts := t } accountId =
      (db.account? accountId).or ([new].find? fun a => a.id == accountId) := by
    show t.rows.find? _ = (db.accounts.rows.find? _).or _
    rw [Table.rows_insert? ht, List.find?_append]
  have hreserved : new.reservedBalance = 0 := congrArg Prod.snd hb
  refine ⟨[], ⟨(List.append_nil _).symm, ?_, ?_, fun _ he => nomatch he⟩, fun _ he => nomatch he⟩
  · rw [Database.reservedOf, Database.reservedOf, hfind, List.map_nil, List.sum_nil, add_zero]
    cases db.account? accountId with
    | some x => rfl
    | none =>
      rw [Option.none_or, List.find?_singleton]
      split_ifs
      · exact hreserved
      · rfl
  · rw [Database.versionOf, Database.versionOf, hfind]
    cases db.account? accountId with
    | some x => exact le_refl _
    | none => exact Nat.zero_le _

theorem openAccount {input : OpenAccountInput} {id : String} :
    FreesLedger dbNow (openAccount input id dbNow) := fun accountId db a db' h => by
  obtain ⟨new, t, created, res, account', ht, hb, hv, hmem, happ⟩ := openAccount_spec h
  exact (frees_insertAccount ht hb accountId).trans
    (happ.frees hmem (fun hbad => nomatch hbad) accountId)

end FreesLedger

/-- **No transaction but a reservation commits a stake**, whatever account it is on. -/
theorem Transaction.frees {P : Platform} {env : TxEnv} {t : Transaction}
    (ht : ∀ decisionId accountId, t ≠ .reserve decisionId accountId) :
    FreesLedger env.dbNow (t.body P env) := by
  cases t with
  | openAccount input => exact FreesLedger.openAccount
  | reserve decisionId accountId => exact (ht decisionId accountId rfl).elim
  | rejectEligible decisionId code => exact KeepsLedger.rejectDecision.frees
  | recheck orderId quote =>
    refine KeepsLedger.frees fun db r db' h => ?_
    cases recheckTx_spec h with
    | cancel _ hdb => exact hdb ▸ ⟨rfl, rfl⟩
    | found _ hdb => exact hdb ▸ ⟨rfl, rfl⟩
    | moved _ _ _ _ _ _ honly =>
      rw [honly]
      exact ⟨rfl, rfl⟩
  | cancel orderId source c => exact FreesLedger.cancelTx
  | unknown orderId reason =>
    exact (KeepsLedger.lockOrder.bind fun _ => .ite .pure .transition).frees
  | acceptance orderId accepted => exact FreesLedger.acceptanceTx
  | settleStake input => exact FreesLedger.settleStakeTx
  | settleOrder orderId outcome profitCents payout settledAt =>
    exact FreesLedger.settleOrderTx.frees
  | recoverStale ids => exact KeepsLedger.updateOrders.frees
  | cancelAbandoned orderIds => exact FreesLedger.cancelAbandonedTx
  | stop reason source =>
    refine KeepsLedger.frees fun db r db' h => ?_
    rw [(stopTx_spec h).1]
    exact ⟨rfl, rfl⟩
  | changeMode input =>
    refine KeepsLedger.frees fun db r db' h => ?_
    rw [(changeModeTx_spec h).1]
    exact ⟨rfl, rfl⟩
  | createRiskPolicy input =>
    refine KeepsLedger.frees fun db r db' h => ?_
    rw [(createRiskPolicyTx_spec h).1]
    exact ⟨rfl, rfl⟩
  | completeRun runId drafts =>
    refine KeepsLedger.frees fun db r db' h => ?_
    rw [completeRunTx_spec h]
    exact ⟨rfl, rfl⟩
  | failRun runId =>
    refine KeepsLedger.frees fun db r db' h => ?_
    rw [failRunTx_spec h]
    exact ⟨rfl, rfl⟩

end ApiScore
