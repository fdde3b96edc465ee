import ApiScore.Execution.DecisionMoves
import ApiScore.Execution.LedgerBatch

/-!
# When the statements of a transaction go through

The specifications in `Moves` say what a statement has done if it was accepted.  Here are the
statements both ways: each is accepted exactly where a table with the new rows exists.

* `transition_eq_ok`, `updateDecisions_eq_ok` — a statement with the database it leaves.
* `transition_accepted_iff`, `insertReceipt_accepted_iff`, `updateDecision_accepted_iff` — when it is
  accepted, in terms of the row it writes.
* `releaseUnused_accepted_iff` — when the ledger gives back what was not taken.
-/

set_option autoImplicit false

namespace ApiScore

open Relational

section

variable {db db' : Database} {env : TxEnv}

theorem lockOrder_eq_ok {id : String} {o : BetOrder} :
    lockOrder id db = .ok (o, db') ↔ db.order? id = some o ∧ db' = db := by
  simp only [lockOrder, Tx.bind_eq_ok, DbTx.read_eq_ok, DbTx.get!_eq_ok]
  constructor
  · rintro ⟨_, _, heq, x, hx, h⟩
    cases heq
    cases h
    exact ⟨hx, rfl⟩
  · rintro ⟨ho, rfl⟩
    exact ⟨_, _, rfl, o, ho, rfl⟩

theorem lockAccount_eq_ok {id : String} {a : BankrollAccount} :
    lockAccount id db = .ok (a, db') ↔ db.account? id = some a ∧ db' = db := by
  simp only [lockAccount, Tx.bind_eq_ok, DbTx.read_eq_ok, DbTx.get!_eq_ok]
  constructor
  · rintro ⟨_, _, heq, x, hx, h⟩
    cases heq
    cases h
    exact ⟨hx, rfl⟩
  · rintro ⟨ha, rfl⟩
    exact ⟨_, _, rfl, a, ha, rfl⟩

/-- A transition is accepted where there is a table with the new row. -/
theorem transition_eq_ok {o : BetOrder} {patch : BetOrder → BetOrder} {u : Unit}
    (ho : o ∈ db.orders) : transition o patch env db = .ok (u, db') ↔
      OrdersOnly db db' ∧ Rewrites db [o] (fun x => (patch x).touched env) db' := by
  constructor
  · exact transition_spec ho
  · rintro ⟨honly, -, -, hrows⟩
    have hversion : ∀ x ∈ db.orders, (x.id == o.id && x.version == o.version) = true ↔ x = o := by
      intro x hx
      simp only [Bool.and_eq_true, beq_iff_eq]
      exact ⟨fun h => order_eq_of_id hx ho h.1, fun h => by simp [h]⟩
    have hselect : (db.orders.select fun x => x.id == o.id && x.version == o.version) = [o] := by
      refine Table.select_of_mem ho (by simp) fun x hx hp => ?_
      rw [(hversion x hx).1 hp]
      simp [orderSchema]
    have hupdate : db.orders.update? (fun x => x.id == o.id && x.version == o.version)
        (fun x => (patch x).touched env) = some db'.orders := by
      refine Table.update?_eq_some (hrows.trans (List.map_congr_left fun x hx => ?_))
      simp only [List.mem_singleton, hversion x hx]
    have hwrite : (db.orders.update? (fun x => x.id == o.id && x.version == o.version)
        (fun x => (patch x).touched env)).map (fun t => { db with orders := t }) = some db' := by
      rw [hupdate, Option.map_some, ← honly]
    simp only [transition, updateOrders, Tx.bind_eq_ok, DbTx.read_eq_ok, DbTx.write_eq_ok,
      Tx.pure_eq_ok, hselect]
    refine ⟨1, db', ⟨_, _, rfl, (), db', hwrite, rfl⟩, ?_⟩
    rw [if_neg (by simp)]
    rfl

theorem updateDecisions_eq_ok {p : BetDecision → Bool} {f : BetDecision → BetDecision} {u : Unit} :
    updateDecisions p f db = .ok (u, db') ↔ db' = { db with decisions := db'.decisions } ∧
      db'.decisions.rows = db.decisions.rows.map fun d => if p d then f d else d := by
  constructor
  · intro h
    exact ⟨updateDecisions_spec h, updateDecisions_rows h⟩
  · rintro ⟨hdb, hrows⟩
    rw [updateDecisions, DbTx.write_eq_ok, Table.update?_eq_some hrows, Option.map_some,
      Option.some.injEq]
    exact hdb.symm

/-! ## When they are accepted -/

theorem clash_self_order (o : BetOrder) : orderSchema.clash o o = true := by simp [orderSchema]

theorem transition_accepted_iff {o : BetOrder} {patch : BetOrder → BetOrder}
    (ho : o ∈ db.orders) : Tx.Accepted (transition o patch env) db ↔
      (∀ x ∈ db.orders, x ≠ o → orderSchema.clash x ((patch o).touched env) = false) ∧
        orderSchema.check ((patch o).touched env) = true := by
  rw [← Table.exists_replace_iff clash_self_order ho]
  have hmap : (fun x => if x ∈ [o] then (patch x).touched env else x) =
      fun x => if x = o then (patch o).touched env else x := by
    funext x
    by_cases hx : x = o
    · simp [hx]
    · simp [hx]
  constructor
  · rintro ⟨⟨_, db'⟩, h⟩
    obtain ⟨-, hrw⟩ := (transition_eq_ok ho).1 h
    exact ⟨db'.orders, hmap ▸ hrw.rows⟩
  · rintro ⟨t, ht⟩
    refine ⟨((), { db with orders := t }), (transition_eq_ok ho).2 ⟨rfl, ?_⟩⟩
    exact ⟨List.forall_mem_singleton.2 ho, List.nodup_singleton o, hmap ▸ ht⟩

theorem insertReceipt_accepted_iff {r : BetReceipt} :
    Tx.Accepted (insertReceipt r) db ↔ (db.order? r.orderId).isSome = true ∧
      ∀ x ∈ db.receipts, receiptSchema.clash x r = false := by
  have hinsert : (∃ t, db.receipts.insert? r = some t) ↔
      ∀ x ∈ db.receipts, receiptSchema.clash x r = false := by
    rw [Table.exists_insert_iff]
    exact and_iff_left rfl
  rw [← hinsert]
  simp only [Tx.Accepted, Prod.exists, insertReceipt, DbTx.write_eq_ok,
    Option.ite_none_right_eq_some, Option.map_eq_some_iff]
  constructor
  · rintro ⟨-, db', href, t, ht, -⟩
    exact ⟨href, t, ht⟩
  · rintro ⟨href, t, ht⟩
    exact ⟨(), _, href, t, ht, rfl⟩

/-- An update of one decision that leaves its keys alone. -/
theorem updateDecision_accepted_iff {d : BetDecision} {f : BetDecision → BetDecision}
    (hd : d ∈ db.decisions) (hkeys : (f d).id = d.id ∧ (f d).idempotencyKey = d.idempotencyKey) :
    Tx.Accepted (updateDecisions (fun x => x.id == d.id) f) db ↔
      decisionSchema.check (f d) = true := by
  have hself : ∀ x, decisionSchema.clash x x = true := fun x => by simp [decisionSchema]
  have hone : ∀ x ∈ db.decisions, x.id = d.id → x = d := fun x hx hid =>
    Table.eq_of_clash hx hd (by simp [decisionSchema, hid])
  have hclash : ∀ x ∈ db.decisions, x ≠ d → decisionSchema.clash x (f d) = false := by
    intro x hx hne
    have hxd : decisionSchema.clash x (f d) = decisionSchema.clash x d := by
      simp only [decisionSchema, hkeys.1, hkeys.2]
    rw [hxd, Bool.eq_false_iff]
    exact fun h => hne (Table.eq_of_clash hx hd h)
  have hrows : db.decisions.rows.map (fun x => if x.id == d.id then f x else x) =
      db.decisions.rows.map fun x => if x = d then f d else x := by
    refine List.map_congr_left fun x hx => ?_
    by_cases hxd : x = d
    · simp [hxd]
    · have hid : x.id ≠ d.id := fun hid => hxd (hone x hx hid)
      simp [hxd, hid]
  rw [← and_iff_right (b := decisionSchema.check (f d) = true) hclash,
    ← Table.exists_replace_iff hself hd]
  constructor
  · rintro ⟨⟨_, db'⟩, h⟩
    exact ⟨db'.decisions, (updateDecisions_eq_ok.1 h).2.trans hrows⟩
  · rintro ⟨t, ht⟩
    exact ⟨((), { db with decisions := t }), updateDecisions_eq_ok.2 ⟨rfl, ht.trans hrows.symm⟩⟩

/-! ## Giving back what was not taken -/

/-- What the ledger must be able to store, so that a part of the stake goes back. -/
structure Returnable (o : BetOrder) (stake : Int) (a : BankrollAccount) : Prop where
  /-- The available balance fits its column. -/
  balance : fitsDecimal14 (a.availableBalance + (o.requestedStake - stake)) = true
  /-- So does the key of the entry, `release-partial:` and the order's own key. -/
  key : o.idempotencyKey.length ≤ 112

/-- The entry that gives it back. -/
def BetOrder.unusedEntry (o : BetOrder) (stake : Int) (a : BankrollAccount) : PlannedEntry where
  amountCents := o.requestedStake - stake
  reservedDeltaCents := -(o.requestedStake - stake)
  availableAfterCents := a.availableBalance + (o.requestedStake - stake)
  reservedAfterCents := a.reservedBalance + -(o.requestedStake - stake)

/-- Sums of two amounts that a column holds are safe integers. -/
theorem isSafeInteger_of_le {n : Int} (h : |n| ≤ 2 * maxDecimal14) : isSafeInteger n = true := by
  rw [isSafeInteger, decide_eq_true_eq]
  exact h.trans (by decide)

section Release

variable {o : BetOrder} {stake : Int} {a : BankrollAccount}

/-- The amounts of a release are within bounds where the order is held by the account. -/
theorem planEntry_unused (hlt : stake < o.requestedStake) (hstake : 0 < stake)
    (hasked : o.requestedStake ≤ maxDecimal14) (hheld : o.requestedStake ≤ a.reservedBalance)
    (havailable : 0 ≤ a.availableBalance) :
    planEntry .release a.balances (o.releasePartialInput stake).movement =
      .ok (o.unusedEntry stake a) := by
  have hsafe : |o.requestedStake - stake| ≤ JsNumber.maxSafeInteger := by
    have hle := isSafeInteger_of_le (n := o.requestedStake - stake)
      (abs_le.2 ⟨by simp only [maxDecimal14] at *; omega, by simp only [maxDecimal14] at *; omega⟩)
    exact of_decide_eq_true hle
  have hpositive : positiveInteger? (some (.int (o.requestedStake - stake))) =
      some (o.requestedStake - stake) := by
    rw [positiveInteger?, Option.bind_some, JsNumber.safeInteger?_int hsafe, Option.filter_some,
      if_pos (by simpa using hlt)]
  have hreserved : a.balances.reservedCents = a.reservedBalance := rfl
  have havailable' : a.balances.availableCents = a.availableBalance := rfl
  simp only [planEntry, movementEffect, BetOrder.releasePartialInput, hpositive]
  rw [if_neg (by simp), if_neg (by omega), if_neg (by omega)]
  rfl

/-- An entry with a new key, of the next version of its account, clashes with none. -/
theorem AccountSound.next_clash {e : BankrollLedgerEntry} (hs : AccountSound db a)
    (hkey : db.entry? e.entryKey = none) (hid : e.accountId = a.id)
    (hversion : e.accountVersion = a.version + 1) :
    ∀ x ∈ db.entries, entrySchema.clash x e = false := by
  intro x hx
  have hne : x.entryKey ≠ e.entryKey := entry?_eq_none hkey hx
  have hold : x.accountId = e.accountId → x.accountVersion ≠ e.accountVersion := by
    intro hxid heq
    have hle := (hs.chain.version_of_mem (mem_entriesOf.2 ⟨hx, hxid.trans hid⟩)).2
    have hxv : ledgerJournal.version x = x.accountVersion := rfl
    have hlast := hs.version
    omega
  simp only [entrySchema, Bool.or_eq_false_iff, beq_eq_false_iff_ne, Bool.and_eq_false_imp,
    beq_iff_eq]
  exact ⟨hne, hold⟩

/-- The key of an entry for an order is in the characters of the order's own key. -/
theorem Database.Has.ascii {κ : KeyKind} {key : String} (h : db.Has κ key) :
    (key.toList.all fun c => decide (c.toNat < 128)) = true := by
  obtain ⟨x, hx, hkey⟩ := h
  have hcheck := db.entries.checked x hx
  simp only [entrySchema, Bool.and_eq_true, hkey] at hcheck
  have hall := hcheck.2
  cases κ <;>
    · simp only [KeyKind.key, String.toList_append, List.all_append, Bool.and_eq_true] at hall
      exact hall.2

/-- **When the part of a stake that was not taken goes back.** -/
theorem releaseUnused_accepted_iff (hs : AccountSound db a) (ha : a ∈ db.accounts)
    (haid : a.id = o.accountId) (ho : (db.order? o.id).isSome = true)
    (hnone : db.entry? (KeyKind.key .releasePartial o.idempotencyKey) = none)
    (hhas : db.Has .reserve o.idempotencyKey) (hstake : 0 < stake)
    (hasked : o.requestedStake ≤ maxDecimal14) (hheld : o.requestedStake ≤ a.reservedBalance) :
    Tx.Accepted (releaseUnused o stake env) db ↔
      (stake < o.requestedStake → Returnable o stake a) := by
  by_cases hlt : stake < o.requestedStake
  swap
  · have hpure : releaseUnused o stake env = pure () := by
      rw [releaseUnused, if_neg (by omega)]
    rw [hpure]
    exact ⟨fun _ h => (hlt h).elim, fun _ => Tx.accepted_pure⟩
  have hcheck := db.accounts.checked a ha
  simp only [accountSchema, Bool.and_eq_true, decide_eq_true_eq] at hcheck
  obtain ⟨⟨⟨havailable, hreserved⟩, hfits⟩, hfits'⟩ := hcheck
  have hplan := planEntry_unused hlt hstake hasked hheld havailable
  have haccount : db.account? o.accountId = some a := haid ▸ account?_of_mem ha
  have happend : Tx.Accepted (releaseUnused o stake env) db ↔
      ∃ res a' db', append a (o.releasePartialInput stake) env.dbNow db = .ok ((res, a'), db') := by
    rw [releaseUnused, if_pos (by omega)]
    simp only [Tx.Accepted, Tx.bind_eq_ok, lockAccount_eq_ok, haccount, Tx.pure_eq_ok,
      Option.some.injEq]
    constructor
    · rintro ⟨_, _, _, ⟨rfl, rfl⟩, ⟨res, a'⟩, s, h, -⟩
      exact ⟨res, a', s, h⟩
    · rintro ⟨res, a', s, h⟩
      exact ⟨((), s), a, db, ⟨rfl, rfl⟩, (res, a'), s, h, rfl⟩
  have hkey : db.entry? (o.releasePartialInput stake).entryKey = none := hnone
  rw [happend]
  simp only [append_unrecorded ha hkey]
  let e := (o.unusedEntry stake a).row a.id a.currency (o.releasePartialInput stake)
    (a.version + 1) env.dbNow
  have hkey' : e.entryKey.length = 16 + o.idempotencyKey.length := by
    show ("release-partial:" ++ o.idempotencyKey).length = _
    rw [String.length_append]
    rfl
  constructor
  · rintro ⟨res, a', db', planned, hplanned, -, hsaved, -⟩ -
    obtain rfl : planned = o.unusedEntry stake a := Except.ok.inj (hplanned.symm.trans hplan)
    have hmem : e ∈ db'.entries.rows := by
      rw [hsaved.entries]
      exact List.mem_append_right _ (List.mem_singleton_self e)
    have hrow := db'.entries.checked e hmem
    simp only [entrySchema, Bool.and_eq_true, decide_eq_true_eq] at hrow
    obtain ⟨⟨⟨⟨-, hafter⟩, -⟩, hlength⟩, -⟩ := hrow
    exact ⟨hafter, by omega⟩
  · intro hret
    obtain ⟨hbalance, hlength⟩ := hret hlt
    simp only [fitsDecimal14, decide_eq_true_eq, abs_le, maxDecimal14]
      at hbalance hfits hfits' hasked
    have hstorable : (o.unusedEntry stake a).storable = true := by
      simp only [PlannedEntry.storable, BetOrder.unusedEntry, Bool.and_eq_true]
      refine ⟨⟨⟨?_, ?_⟩, ?_⟩, ?_⟩ <;> refine isSafeInteger_of_le (abs_le.2 ?_) <;>
        simp only [maxDecimal14] <;> omega
    have hcheck : entrySchema.check e = true := by
      have hascii : (e.entryKey.toList.all fun c => decide (c.toNat < 128)) = true := by
        show (("release-partial:" ++ o.idempotencyKey).toList.all _) = true
        rw [String.toList_append, List.all_append, hhas.ascii]
        rfl
      simp only [entrySchema, Bool.and_eq_true, decide_eq_true_eq, hascii, hkey', and_true]
      simp only [e, PlannedEntry.row, BetOrder.unusedEntry, fitsDecimal14, decide_eq_true_eq, abs_le,
        maxDecimal14]
      omega
    obtain ⟨entries, hentries⟩ : ∃ t, db.entries.insert? e = some t :=
      Table.exists_insert_iff.2 ⟨hs.next_clash hkey rfl rfl, hcheck⟩
    obtain ⟨accounts, haccounts⟩ : ∃ t : Table accountSchema, t.rows = db.accounts.rows.map fun x =>
        if x = a then a.withBalances (o.unusedEntry stake a).balancesAfter (a.version + 1) else x := by
      refine exists_rewritten ?_
      simp only [accountSchema, BankrollAccount.withBalances, PlannedEntry.balancesAfter,
        BetOrder.unusedEntry, Bool.and_eq_true, fitsDecimal14, decide_eq_true_eq, abs_le,
        maxDecimal14]
      omega
    refine ⟨_, _, { db with entries := entries, accounts := accounts }, _, hplan, hstorable,
      ⟨List.forall_mem_singleton.2 ?_, rfl, rfl, Table.rows_insert? hentries, haccounts⟩, rfl⟩
    simp only [Database.entryReferences, Bool.and_eq_true]
    exact ⟨by rw [show e.accountId = o.accountId from haid, haccount]; rfl, ho⟩

end Release

end

end ApiScore
