import ApiScore.Execution.Moves

/-!
# What an account has on open orders

Every order holds a part of its account's reserved balance, from its reservation to its release or
its settlement.  The reserved balance is the sum of what the orders of the account hold, and every
`Move` keeps it so.

* `Database.exposure` — what one order holds.
* `Consistent` — the entries of every order agree with its status, and the reserved balances with
  the orders.
* `Consistent.move` — every move keeps a consistent database consistent.
-/

set_option autoImplicit false

namespace ApiScore

open Relational Relation

/-! ## Exposure -/

/-- What an order holds of its account's reserved balance. -/
def Database.exposure (db : Database) (o : BetOrder) : Int :=
  match o.status with
  | .reserved | .submitting | .unknown | .reconciliationRequired => o.requestedStake
  | .accepted =>
    if (db.entry? (KeyKind.key .settle o.idempotencyKey)).isSome then 0
    else o.acceptedStake.getD 0
  | .rejected | .settled | .voided => 0

/-- What the orders of an account hold together. -/
def Database.exposureOf (db : Database) (accountId : String) : Int :=
  db.orders.sumBy fun o => if o.accountId = accountId then db.exposure o else 0

/-- The statuses in which an order holds all it asked for. -/
def pendingStatuses : List OrderStatus :=
  [.reserved, .submitting, .unknown, .reconciliationRequired]

theorem exposure_of_pending {db : Database} {o : BetOrder} (h : o.status ∈ pendingStatuses) :
    db.exposure o = o.requestedStake := by
  rw [Database.exposure]
  cases hs : o.status <;> simp_all [pendingStatuses]

theorem exposure_of_closed {db : Database} {o : BetOrder}
    (h : o.status ∈ [OrderStatus.rejected, .settled, .voided]) : db.exposure o = 0 := by
  rw [Database.exposure]
  cases hs : o.status <;> simp_all

theorem exposure_of_accepted {db : Database} {o : BetOrder} (h : o.status = .accepted)
    (hnone : ¬ db.Has .settle o.idempotencyKey) : db.exposure o = o.acceptedStake.getD 0 := by
  rw [Database.exposure]
  rw [h]
  exact if_neg fun hs => hnone (has_of_entry hs)

/-- An order whose stake is settled holds nothing, whether or not its row says so yet. -/
theorem exposure_of_settled {db : Database} {o : BetOrder} (h : o.status ∈ takenStatuses)
    (hhas : db.Has .settle o.idempotencyKey) : db.exposure o = 0 := by
  rw [Database.exposure]
  obtain ⟨e, he, hkey⟩ := hhas
  have hentry : db.entry? (KeyKind.key .settle o.idempotencyKey) = some e :=
    hkey ▸ entry?_of_mem he
  cases hs : o.status <;> simp_all [takenStatuses]

theorem pending_of_releasable {s : OrderStatus} (h : s ∈ releasableStatuses) :
    s ∈ pendingStatuses := by
  cases s <;> simp_all [releasableStatuses, pendingStatuses]

theorem not_taken_of_pending {s : OrderStatus} (h : s ∈ pendingStatuses) :
    s ∉ takenStatuses ∧ s ≠ .rejected := by
  cases s <;> simp_all [pendingStatuses, takenStatuses]

/-! ## Consistency -/

/-- The entries and the receipt of an order are those its status asks for. -/
structure OrderOk (db : Database) (o : BetOrder) : Prop where
  account : ∃ a ∈ db.accounts, a.id = o.accountId
  reserved : o.status ≠ .rejected → db.Has .reserve o.idempotencyKey
  released : db.Has .release o.idempotencyKey → o.status = .rejected
  refunded : o.status = .rejected → db.Has .reserve o.idempotencyKey →
    db.Has .release o.idempotencyKey
  unused : db.Has .releasePartial o.idempotencyKey → o.status ∈ takenStatuses
  settled : db.Has .settle o.idempotencyKey → o.status ∈ takenStatuses
  closed : o.status ∈ [OrderStatus.settled, .voided] → db.Has .settle o.idempotencyKey
  receipt : o.status ∈ takenStatuses → ∃ r ∈ db.receipts, r.orderId = o.id
  accepted : o.status ∈ takenStatuses → o.acceptedStake.isSome = true

/-- The entry is of this order. -/
structure OfOrder (e : BankrollLedgerEntry) (o : BetOrder) : Prop where
  entryKey : ∃ κ : KeyKind, κ ≠ .opening ∧ e.entryKey = κ.key o.idempotencyKey
  orderId : e.orderId = some o.id
  accountId : e.accountId = o.accountId

/-- Everything that is recorded of the orders agrees, and no account holds more or less than its
orders. -/
structure Consistent (db : Database) : Prop where
  orders : ∀ o ∈ db.orders, OrderOk db o
  entries : ∀ e ∈ db.entries,
    (∃ a ∈ db.accounts, e.entryKey = KeyKind.key .opening a.id) ∨ ∃ o ∈ db.orders, OfOrder e o
  balanced : ∀ a ∈ db.accounts, a.reservedBalance = db.exposureOf a.id

/-- Consistency is about the accounts, the entries, the orders and the receipts only. -/
theorem Consistent.congr {db db' : Database} (h : Consistent db) (hl : LedgerSame db db')
    (ho : db'.orders = db.orders) (hr : db'.receipts = db.receipts) : Consistent db' := by
  have hhas : ∀ κ key, db'.Has κ key ↔ db.Has κ key := fun κ key => by
    rw [Database.Has, Database.Has, hl.entries]
  have hexp : ∀ o, db'.exposure o = db.exposure o := fun o => by
    simp only [Database.exposure]
    rw [entry?_congr hl.entries]
  obtain ⟨h₁, h₂, h₃⟩ := h
  refine ⟨fun o hmem => ?_, fun e hmem => ?_, fun a hmem => ?_⟩
  · obtain ⟨k₁, k₂, k₃, k₄, k₅, k₆, k₇, k₈, k₉⟩ := h₁ o (ho ▸ hmem)
    refine ⟨by rwa [hl.accounts], ?_, ?_, ?_, ?_, ?_, ?_, by rwa [hr], k₉⟩
    all_goals simpa only [hhas]
  · rw [hl.accounts, ho]
    exact h₂ e (hl.entries ▸ hmem)
  · rw [h₃ a (hl.accounts ▸ hmem), Database.exposureOf, Database.exposureOf, ho]
    exact Table.sumBy_congr fun o _ => by rw [hexp]

/-! ## What a posting records -/

/-- The entry of this request, if it is written at all, moves the reserved balance by `δ`. -/
def AppendInput.Reserves (input : AppendInput) (δ : Int) : Prop :=
  ∀ amount delta, movementEffect input.type input.movement = .ok ⟨amount, delta⟩ → delta = δ

theorem positiveInteger?_int {n m : Int} (h : positiveInteger? (some (.int n)) = some m) :
    m = n := by
  obtain ⟨hm, -⟩ := Option.filter_eq_some_iff.1 h
  rw [Option.bind_some, JsNumber.int, JsNumber.safeInteger?] at hm
  split_ifs at hm
  exact (Option.some.inj hm).symm

theorem reserves_adjustment {input : AppendInput} (h : input.type = .adjustment) :
    input.Reserves 0 := by
  intro amount delta heff
  rw [h] at heff
  unfold movementEffect at heff
  cases hn : input.movement.adjustmentCents.bind JsNumber.safeInteger? with
  | none => simp [hn] at heff
  | some n =>
    simp only [hn] at heff
    split_ifs at heff
    cases heff
    rfl

theorem reserves_reserve {input : AppendInput} {n : Int} (h : input.type = .reserve)
    (hn : input.movement.stakeCents = some (.int n)) : input.Reserves n := by
  intro amount delta heff
  rw [h] at heff
  unfold movementEffect at heff
  cases hs : positiveInteger? input.movement.stakeCents with
  | none => simp [hs] at heff
  | some stake =>
    simp only [hs] at heff
    cases heff
    exact positiveInteger?_int (hn ▸ hs)

theorem reserves_release {input : AppendInput} {n : Int} (h : input.type = .release)
    (hn : input.movement.stakeCents = some (.int n)) : input.Reserves (-n) := by
  intro amount delta heff
  rw [h] at heff
  unfold movementEffect at heff
  cases hs : positiveInteger? input.movement.stakeCents with
  | none => simp [hs] at heff
  | some stake =>
    simp only [hs] at heff
    cases heff
    have hm : amount = n := positiveInteger?_int (hn ▸ hs)
    rw [hm]

theorem reserves_settle {input : AppendInput} {n : Int} (h : input.type = .settle)
    (hn : input.movement.stakeCents = some (.int n)) : input.Reserves (-n) := by
  intro amount delta heff
  rw [h] at heff
  unfold movementEffect at heff
  cases hs : positiveInteger? input.movement.stakeCents with
  | none => simp [hs] at heff
  | some stake =>
    simp only [hs] at heff
    cases hp : input.movement.payoutCents.bind JsNumber.safeInteger? with
    | none => simp [hp] at heff
    | some payout =>
      simp only [hp] at heff
      split_ifs at heff
      cases heff
      have hm : stake = n := positiveInteger?_int (hn ▸ hs)
      rw [hm]

section Posted

variable {db db' : Database} {a a' : BankrollAccount} {inputs : List AppendInput}

/-- **Every request of a posting is recorded, and nothing else is.** -/
theorem Posted.has_iff (h : Posted db a inputs a' db') {κ : KeyKind} {key : String} :
    db'.Has κ key ↔ db.Has κ key ∨ ∃ input ∈ inputs, input.entryKey = κ.key key := by
  obtain ⟨rows, dbNow, hrec, hwrote⟩ := h
  constructor
  · rintro ⟨e, he, hkey⟩
    rcases hrec.mem_entries.1 he with he | he
    · exact .inl ⟨e, he, hkey⟩
    · obtain ⟨input, hin, hw⟩ := wrote_by hwrote he
      exact .inr ⟨input, (List.mem_filter.1 hin).1, by rw [← hw.entryKey, hkey]⟩
  · rintro (⟨e, he, hkey⟩ | ⟨input, hin, hkey⟩)
    · exact ⟨e, hrec.mem_entries.2 (.inl he), hkey⟩
    · cases hf : db.entry? input.entryKey with
      | some e =>
        obtain ⟨he, hek⟩ := entry?_eq_some hf
        exact ⟨e, hrec.mem_entries.2 (.inl he), hek.trans hkey⟩
      | none =>
        have hnew : input ∈ inputs.filter fun input => (db.entry? input.entryKey).isNone :=
          List.mem_filter.2 ⟨hin, by simp [hf]⟩
        obtain ⟨e, he, hw⟩ := exists_wrote hwrote hnew
        exact ⟨e, hrec.mem_entries.2 (.inr he), hw.entryKey.trans hkey⟩

/-- A posting of one kind of entry says nothing of the other kinds. -/
theorem Posted.has_other (h : Posted db a inputs a' db') (κ₀ : KeyKind)
    (hin : ∀ input ∈ inputs, ∃ key, input.entryKey = κ₀.key key) {κ : KeyKind} (hκ : κ ≠ κ₀)
    {key : String} : db'.Has κ key ↔ db.Has κ key := by
  rw [h.has_iff, or_iff_left]
  rintro ⟨input, hi, hkey⟩
  obtain ⟨key', hkey'⟩ := hin input hi
  exact hκ (KeyKind.key_inj.1 (hkey.symm.trans hkey')).1

/-- An entry that a posting added is what one of its requests writes, on its account. -/
theorem Posted.mem_entries (h : Posted db a inputs a' db') {e : BankrollLedgerEntry}
    (he : e ∈ db'.entries) :
    e ∈ db.entries ∨ e.accountId = a.id ∧ ∃ input ∈ inputs, e.entryKey = input.entryKey ∧
      e.orderId = input.orderId := by
  obtain ⟨rows, dbNow, hrec, hwrote⟩ := h
  rcases hrec.mem_entries.1 he with he | he
  · exact .inl he
  · obtain ⟨input, hin, hw⟩ := wrote_by hwrote he
    exact .inr ⟨hrec.owner e he, input, (List.mem_filter.1 hin).1, hw.entryKey, hw.orderId⟩

theorem Posted.account_kept (h : Posted db a inputs a' db') {x : BankrollAccount}
    (hx : x ∈ db.accounts) : ∃ y ∈ db'.accounts, y.id = x.id := by
  obtain ⟨rows, dbNow, hrec, -⟩ := h
  refine ⟨_, hrec.mem_accounts.2 ⟨x, hx, rfl⟩, ?_⟩
  by_cases hxa : x = a
  · rw [if_pos hxa, hrec.id_eq, hxa]
  · rw [if_neg hxa]

/-- A posting whose requests are all new moves the reserved balance by all of them. -/
theorem Posted.reservedBalance {α : Type} (xs : List α) (input : α → AppendInput) (δ : α → Int)
    (h : Posted db a (xs.map input) a' db') (hδ : ∀ x ∈ xs, (input x).Reserves (δ x))
    (hnew : ∀ x ∈ xs, db.entry? (input x).entryKey = none) :
    a'.reservedBalance = a.reservedBalance + (xs.map δ).sum := by
  obtain ⟨rows, dbNow, hrec, hwrote⟩ := h
  have hall : (xs.map input).filter (fun input => (db.entry? input.entryKey).isNone) =
      xs.map input := by
    rw [List.filter_eq_self]
    intro y hy
    obtain ⟨x, hx, rfl⟩ := List.mem_map.1 hy
    simp [hnew x hx]
  rw [hall] at hwrote
  have hsum : ∀ {xs : List α} {rows : List BankrollLedgerEntry},
      (∀ x ∈ xs, (input x).Reserves (δ x)) →
      List.Forall₂ (fun input e => AppendInput.Wrote input dbNow e) (xs.map input) rows →
      (rows.map (·.reservedDelta)).sum = (xs.map δ).sum := by
    intro xs
    induction xs with
    | nil =>
      intro rows _ hw
      cases hw
      rfl
    | cons x xs ih =>
      intro rows hx hw
      rw [List.map_cons, List.forall₂_cons_left_iff] at hw
      obtain ⟨e, rest, hwx, hrest, rfl⟩ := hw
      have hd := hx x List.mem_cons_self e.amount e.reservedDelta hwx.effect
      rw [List.map_cons, List.map_cons, List.sum_cons, List.sum_cons, hd,
        ih (fun y hy => hx y (List.mem_cons_of_mem _ hy)) hrest]
  have ht := congrArg Prod.snd hrec.totals
  rw [total_ledgerJournal] at ht
  rw [← hsum hδ hwrote]
  exact ht

/-- A posting of one request that was recorded before, or of an adjustment, leaves the reserved
balance alone. -/
theorem Posted.reservedBalance_eq {input : AppendInput} (h : Posted db a [input] a' db')
    (hδ : db.entry? input.entryKey ≠ none ∨ input.Reserves 0) :
    a'.reservedBalance = a.reservedBalance := by
  by_cases hk : db.entry? input.entryKey = none
  · have hr : input.Reserves 0 := hδ.resolve_left fun hne => hne hk
    have hsum := Posted.reservedBalance [input] id (fun _ => 0) h
      (by simpa using hr) (by simpa using hk)
    simpa using hsum
  · obtain ⟨rows, dbNow, hrec, hwrote⟩ := h
    rw [List.filter_cons_of_neg (by simpa using hk), List.filter_nil,
      List.forall₂_nil_left_iff] at hwrote
    subst hwrote
    have ht := congrArg Prod.snd hrec.totals
    rw [total_ledgerJournal] at ht
    simpa [BankrollAccount.totals] using ht

/-- The accounts after a posting: the others are as they were. -/
theorem Posted.mem_accounts (h : Posted db a inputs a' db') (ha : a ∈ db.accounts)
    {y : BankrollAccount} (hy : y ∈ db'.accounts) :
    y = a' ∧ a'.id = a.id ∨ y ∈ db.accounts ∧ y.id ≠ a.id := by
  obtain ⟨rows, dbNow, hrec, -⟩ := h
  obtain ⟨x, hx, rfl⟩ := hrec.mem_accounts.1 hy
  by_cases hxa : x = a
  · rw [if_pos hxa]
    exact .inl ⟨rfl, hrec.id_eq⟩
  · rw [if_neg hxa]
    exact .inr ⟨hx, fun hid => hxa (account_eq_of_id hx ha hid)⟩

end Posted

theorem entry?_none_of_not_has {db : Database} {κ : KeyKind} {key : String}
    (h : ¬ db.Has κ key) : db.entry? (κ.key key) = none := by
  by_contra hne
  exact h (has_of_entry (Option.isSome_iff_ne_none.2 hne))

/-! ## Rewriting some orders -/

/-- The orders `os` were rewritten by `f`, and every entry that was added is of one of them; each
account moved by what its orders among them gave up or took. -/
structure Concerns (db : Database) (os : List BetOrder) (f : BetOrder → BetOrder)
    (db' : Database) : Prop where
  rewrites : Rewrites db os f db'
  same : ∀ o ∈ os, SameOrder o (f o)
  accounts : ∀ a ∈ db.accounts, ∃ y ∈ db'.accounts, y.id = a.id
  receipts : ∀ r ∈ db.receipts, r ∈ db'.receipts
  others : ∀ x ∈ db.orders, x ∉ os → ∀ κ : KeyKind,
    db'.Has κ x.idempotencyKey ↔ db.Has κ x.idempotencyKey
  entries : ∀ e ∈ db'.entries, e ∈ db.entries ∨ ∃ o ∈ os, OfOrder e o
  balances : ∀ y ∈ db'.accounts, ∃ a ∈ db.accounts, a.id = y.id ∧
    y.reservedBalance = a.reservedBalance +
      (os.map fun o => if o.accountId = a.id then db'.exposure (f o) - db.exposure o else 0).sum

theorem exposure_eq_of_has {db db' : Database} {o : BetOrder}
    (h : db'.Has .settle o.idempotencyKey ↔ db.Has .settle o.idempotencyKey) :
    db'.exposure o = db.exposure o := by
  have hs : (db'.entry? (KeyKind.key .settle o.idempotencyKey)).isSome =
      (db.entry? (KeyKind.key .settle o.idempotencyKey)).isSome := by
    rw [Bool.eq_iff_iff]
    constructor
    · intro hx
      exact Option.isSome_iff_ne_none.2 fun hn => not_has_of_entry hn (h.1 (has_of_entry hx))
    · intro hx
      exact Option.isSome_iff_ne_none.2 fun hn => not_has_of_entry hn (h.2 (has_of_entry hx))
  simp only [Database.exposure]
  rw [hs]

theorem OfOrder.same {e : BankrollLedgerEntry} {o o' : BetOrder} (h : OfOrder e o)
    (hs : SameOrder o o') : OfOrder e o' :=
  ⟨hs.idempotencyKey ▸ h.entryKey, hs.id ▸ h.orderId, hs.accountId ▸ h.accountId⟩

/-- An order that is not concerned is as well recorded as it was. -/
theorem OrderOk.kept {db db' : Database} {o : BetOrder} (h : OrderOk db o)
    (haccounts : ∀ a ∈ db.accounts, ∃ y ∈ db'.accounts, y.id = a.id)
    (hreceipts : ∀ r ∈ db.receipts, r ∈ db'.receipts)
    (hhas : ∀ κ : KeyKind, db'.Has κ o.idempotencyKey ↔ db.Has κ o.idempotencyKey) :
    OrderOk db' o := by
  obtain ⟨⟨a, ha, hid⟩, k₂, k₃, k₄, k₅, k₆, k₇, k₈, k₉⟩ := h
  obtain ⟨y, hy, hyid⟩ := haccounts a ha
  refine ⟨⟨y, hy, hyid.trans hid⟩, ?_, ?_, ?_, ?_, ?_, ?_, ?_, k₉⟩
  · simpa only [hhas]
  · simpa only [hhas]
  · simpa only [hhas]
  · simpa only [hhas]
  · simpa only [hhas]
  · simpa only [hhas]
  · intro ht
    obtain ⟨r, hr, hro⟩ := k₈ ht
    exact ⟨r, hreceipts r hr, hro⟩

/-- **Rewriting some orders keeps a database consistent, if their new rows are well recorded.** -/
theorem Consistent.rewrite {db db' : Database} {os : List BetOrder} {f : BetOrder → BetOrder}
    (h : Consistent db) (hc : Concerns db os f db') (hok : ∀ o ∈ os, OrderOk db' (f o)) :
    Consistent db' := by
  refine ⟨fun x hx => ?_, fun e he => ?_, fun y hy => ?_⟩
  · obtain ⟨o, ho, rfl⟩ := hc.rewrites.mem_iff.1 hx
    by_cases hos : o ∈ os
    · rw [if_pos hos]
      exact hok o hos
    · rw [if_neg hos]
      exact (h.orders o ho).kept hc.accounts hc.receipts (hc.others o ho hos)
  · rcases hc.entries e he with he | ⟨o, ho, hof⟩
    · rcases h.entries e he with ⟨a, ha, hkey⟩ | ⟨o, ho, hof⟩
      · obtain ⟨y, hy, hid⟩ := hc.accounts a ha
        exact .inl ⟨y, hy, by rw [hkey, hid]⟩
      · by_cases hos : o ∈ os
        · exact .inr ⟨f o, hc.rewrites.mem_of_rewritten hos, hof.same (hc.same o hos)⟩
        · exact .inr ⟨o, hc.rewrites.mem_iff.2 ⟨o, ho, if_neg hos⟩, hof⟩
    · exact .inr ⟨f o, hc.rewrites.mem_of_rewritten ho, hof.same (hc.same o ho)⟩
  · obtain ⟨a, ha, hid, hbal⟩ := hc.balances y hy
    rw [hbal, h.balanced a ha, ← hid]
    -- both sides are sums over the orders as they were
    have hsum : db'.exposureOf a.id = db.orders.sumBy fun o =>
        if o.accountId = a.id then db'.exposure (if o ∈ os then f o else o) else 0 := by
      rw [Database.exposureOf, Table.sumBy, hc.rewrites.rows, List.map_map, Table.sumBy]
      refine congrArg List.sum (List.map_congr_left fun o _ => ?_)
      by_cases hos : o ∈ os
      · simp only [Function.comp, if_pos hos, (hc.same o hos).accountId]
      · simp only [Function.comp, if_neg hos]
    rw [hsum, Table.sumBy_eq_add (fun o => by simp [orderSchema]) hc.rewrites.mem
      hc.rewrites.nodup (g := fun o => if o.accountId = a.id then db.exposure o else 0)]
    · rw [Database.exposureOf, add_right_inj]
      refine congrArg List.sum (List.map_congr_left fun o ho => ?_)
      by_cases hacc : o.accountId = a.id
      · simp only [if_pos hacc, if_pos ho]
      · simp only [if_neg hacc, sub_zero]
    · intro o ho hos
      simp only [if_neg hos, exposure_eq_of_has (hc.others o ho hos .settle)]

/-! ## The moves -/

/-- A rewrite that the ledger does not see. -/
theorem Concerns.of_ledgerSame {db db' : Database} {os : List BetOrder} {f : BetOrder → BetOrder}
    (hrw : Rewrites db os f db') (hsame : ∀ o ∈ os, SameOrder o (f o)) (hl : LedgerSame db db')
    (hreceipts : ∀ r ∈ db.receipts, r ∈ db'.receipts)
    (hexp : ∀ o ∈ os, db'.exposure (f o) = db.exposure o) : Concerns db os f db' := by
  refine ⟨hrw, hsame, ?_, hreceipts, ?_, ?_, ?_⟩
  · intro a ha
    rw [hl.accounts]
    exact ⟨a, ha, rfl⟩
  · intro x _ _ κ
    rw [Database.Has, Database.Has, hl.entries]
  · intro e he
    exact .inl (hl.entries ▸ he)
  · intro y hy
    refine ⟨y, hl.accounts ▸ hy, rfl, ?_⟩
    rw [List.map_congr_left fun o ho => by rw [hexp o ho, sub_self, ite_self]]
    simp

/-- A rewrite of orders of one account, with what was posted for them. -/
theorem Concerns.of_posted {db db' : Database} {os : List BetOrder} {f : BetOrder → BetOrder}
    {a a' : BankrollAccount} {inputs : List AppendInput} (hrw : Rewrites db os f db')
    (hsame : ∀ o ∈ os, SameOrder o (f o)) (ha : a ∈ db.accounts)
    (hid : ∀ o ∈ os, a.id = o.accountId) (hposted : Posted db a inputs a' db')
    (hreceipts : ∀ r ∈ db.receipts, r ∈ db'.receipts)
    (hinputs : ∀ input ∈ inputs, ∃ o ∈ os, input.orderId = some o.id ∧
      ∃ κ : KeyKind, κ ≠ .opening ∧ input.entryKey = κ.key o.idempotencyKey)
    (hbalance : a'.reservedBalance = a.reservedBalance +
      (os.map fun o => db'.exposure (f o) - db.exposure o).sum) : Concerns db os f db' := by
  refine ⟨hrw, hsame, fun x hx => hposted.account_kept hx, hreceipts, ?_, ?_, ?_⟩
  · intro x hx hos κ
    rw [hposted.has_iff, or_iff_left]
    rintro ⟨input, hin, hkey⟩
    obtain ⟨o, ho, -, κ', -, hkey'⟩ := hinputs input hin
    obtain ⟨-, heq⟩ := KeyKind.key_inj.1 (hkey'.symm.trans hkey)
    rw [order_eq_of_key (hrw.mem o ho) hx heq] at ho
    exact hos ho
  · intro e he
    rcases hposted.mem_entries he with he | ⟨hacc, input, hin, hkey, horder⟩
    · exact .inl he
    · obtain ⟨o, ho, hoid, κ, hκ, hkey'⟩ := hinputs input hin
      exact .inr ⟨o, ho, ⟨κ, hκ, hkey.trans hkey'⟩, horder.trans hoid, hacc.trans (hid o ho)⟩
  · intro y hy
    rcases hposted.mem_accounts ha hy with ⟨rfl, hyid⟩ | ⟨hy, hne⟩
    · refine ⟨a, ha, hyid.symm, ?_⟩
      rw [hbalance]
      congr 2
      exact List.map_congr_left fun o ho => (if_pos (hid o ho).symm).symm
    · refine ⟨y, hy, rfl, ?_⟩
      rw [List.map_congr_left fun o ho => if_neg fun hacc => hne (by rw [← hacc, hid o ho])]
      simp

section Moves

variable {db db' : Database} {os : List BetOrder} {f : BetOrder → BetOrder}

/-- What an order that is still pending owes to the ledger: its reservation, and nothing else. -/
theorem OrderOk.pending {o : BetOrder} (h : OrderOk db o) (hs : o.status ∈ pendingStatuses) :
    db.Has .reserve o.idempotencyKey ∧
      ∀ κ : KeyKind, κ ∈ [KeyKind.release, .releasePartial, .settle] →
        ¬ db.Has κ o.idempotencyKey := by
  obtain ⟨hnt, hnr⟩ := not_taken_of_pending hs
  refine ⟨h.reserved hnr, fun κ hκ hhas => ?_⟩
  simp only [List.mem_cons, List.not_mem_nil, or_false] at hκ
  rcases hκ with rfl | rfl | rfl
  · exact hnr (h.released hhas)
  · exact hnt (h.unused hhas)
  · exact hnt (h.settled hhas)

/-- A row that is pending again, where the ledger has the same entries for it. -/
theorem OrderOk.still_pending {o o' : BetOrder} (h : OrderOk db o) (hsame : SameOrder o o')
    (hs : o.status ∈ pendingStatuses) (hs' : o'.status ∈ pendingStatuses)
    (hl : LedgerSame db db') : OrderOk db' o' := by
  obtain ⟨hreserve, hnone⟩ := h.pending hs
  obtain ⟨hnt, hnr⟩ := not_taken_of_pending hs'
  have hhas : ∀ κ : KeyKind, db'.Has κ o'.idempotencyKey ↔ db.Has κ o.idempotencyKey := fun κ => by
    rw [Database.Has, Database.Has, hl.entries, hsame.idempotencyKey]
  refine ⟨?_, ?_, ?_, ?_, ?_, ?_, ?_, ?_, ?_⟩
  · rw [hl.accounts, hsame.accountId]
    exact h.account
  · exact fun _ => (hhas _).2 hreserve
  · exact fun hx => (hnone _ (by simp) ((hhas _).1 hx)).elim
  · exact fun hr => (hnr hr).elim
  · exact fun hx => (hnone _ (by simp) ((hhas _).1 hx)).elim
  · exact fun hx => (hnone _ (by simp) ((hhas _).1 hx)).elim
  · intro hc
    simp only [takenStatuses, List.mem_cons, List.not_mem_nil, or_false, not_or] at hnt hc
    exact (hc.elim hnt.2.1 hnt.2.2).elim
  · exact fun ht => (hnt ht).elim
  · exact fun ht => (hnt ht).elim

/-- A row that is closed, once its stake is settled. -/
theorem OrderOk.closes {o o' : BetOrder} (h : OrderOk db o) (hsame : SameOrder o o')
    (hs : o.status ∈ takenStatuses) (hs' : o'.status ∈ takenStatuses)
    (hstake : o'.acceptedStake = o.acceptedStake) (hsettle : db'.Has .settle o.idempotencyKey)
    (haccounts : ∀ a ∈ db.accounts, ∃ y ∈ db'.accounts, y.id = a.id)
    (hreceipts : ∀ r ∈ db.receipts, r ∈ db'.receipts)
    (hhas : ∀ κ : KeyKind, κ ≠ .settle →
      (db'.Has κ o.idempotencyKey ↔ db.Has κ o.idempotencyKey)) : OrderOk db' o' := by
  have hnr : ∀ {s : OrderStatus}, s ∈ takenStatuses → s ≠ .rejected := by
    intro s hx
    cases s <;> simp_all [takenStatuses]
  obtain ⟨⟨a, ha, hid⟩, k₂, k₃, k₄, k₅, k₆, k₇, k₈, k₉⟩ := h
  refine ⟨?_, ?_, ?_, ?_, ?_, ?_, ?_, ?_, ?_⟩
  · obtain ⟨y, hy, hyid⟩ := haccounts a ha
    exact ⟨y, hy, by rw [hyid, hid, hsame.accountId]⟩
  · rw [hsame.idempotencyKey, hhas _ (by decide)]
    exact fun _ => k₂ (hnr hs)
  · rw [hsame.idempotencyKey, hhas _ (by decide)]
    exact fun hx => (hnr hs (k₃ hx)).elim
  · exact fun hr => (hnr hs' hr).elim
  · exact fun _ => hs'
  · exact fun _ => hs'
  · rw [hsame.idempotencyKey]
    exact fun _ => hsettle
  · intro _
    obtain ⟨r, hr, hro⟩ := k₈ hs
    exact ⟨r, hreceipts r hr, hro.trans hsame.id.symm⟩
  · rw [hstake]
    exact fun _ => k₉ hs

/-- The rows a step can leave, by the status it leaves them in. -/
theorem OrderStep.pending {o o' : BetOrder} (h : OrderStep o o')
    (hs' : o'.status ∈ [.submitting, .unknown, .reconciliationRequired]) :
    o.status ∈ pendingStatuses ∧ o'.status ∈ pendingStatuses := by
  refine ⟨?_, ?_⟩
  · cases h with
    | submit hs => simp [hs, pendingStatuses]
    | doubt hs => simp [hs, pendingStatuses]
    | recover hs => simp [hs, pendingStatuses]
    | dispute hs => exact pending_of_releasable hs
    | refuse => simp [BetOrder.touched, BetOrder.refuse] at hs'
    | accept => simp [BetOrder.touched, BetOrder.accept] at hs'
    | settle _ outcome =>
      simp only [BetOrder.touched, BetOrder.settle] at hs'
      split_ifs at hs' <;> simp at hs'
  · simp only [List.mem_cons, List.not_mem_nil, or_false] at hs'
    rcases hs' with hs | hs | hs
    · simp [hs, pendingStatuses]
    · simp [hs, pendingStatuses]
    · simp [hs, pendingStatuses]

theorem OrderStep.of_accepted {o o' : BetOrder} (h : OrderStep o o') (hs : o.status = .accepted) :
    o'.status ∈ takenStatuses ∧ o'.acceptedStake = o.acceptedStake ∧ o'.status ≠ .accepted := by
  have hnr : o.status ∉ releasableStatuses := by
    rw [hs]
    decide
  cases h with
  | submit hx => simp [hs] at hx
  | doubt hx => simp [hs] at hx
  | recover hx => simp [hs] at hx
  | refuse hx => exact (hnr hx).elim
  | dispute hx => exact (hnr hx).elim
  | accept hx => exact (hnr hx).elim
  | settle _ outcome payout settledAt env =>
    refine ⟨?_, rfl, ?_⟩
    · simp only [BetOrder.touched, BetOrder.settle]
      split_ifs <;> simp [takenStatuses]
    · simp only [BetOrder.touched, BetOrder.settle]
      split_ifs <;> simp

theorem Consistent.quiet (h : Consistent db) (hrw : Rewrites db os f db')
    (hsteps : ∀ o ∈ os, OrderStep o (f o))
    (hquiet : ∀ o ∈ os, (f o).status ∈ [.submitting, .unknown, .reconciliationRequired] ∨
      o.status = .accepted ∧ db.Has .settle o.idempotencyKey)
    (hl : LedgerSame db db') (hreceipts : db'.receipts = db.receipts) : Consistent db' := by
  have hhas : ∀ (κ : KeyKind) (key : String), db'.Has κ key ↔ db.Has κ key := fun κ key => by
    rw [Database.Has, Database.Has, hl.entries]
  have hrec : ∀ r ∈ db.receipts, r ∈ db'.receipts := fun r hr => hreceipts ▸ hr
  refine h.rewrite (.of_ledgerSame hrw (fun o ho => (hsteps o ho).same) hl hrec ?_) ?_
  · intro o ho
    have hsame := (hsteps o ho).same
    rcases hquiet o ho with hs | ⟨hs, hsettle⟩
    · obtain ⟨hp, hp'⟩ := (hsteps o ho).pending hs
      rw [exposure_of_pending hp, exposure_of_pending hp', hsame.requestedStake]
    · obtain ⟨ht, -, -⟩ := (hsteps o ho).of_accepted hs
      rw [exposure_of_settled ht (by rw [hhas, hsame.idempotencyKey]; exact hsettle),
        exposure_of_settled (by simp [hs, takenStatuses]) hsettle]
  · intro o ho
    have hok := h.orders o (hrw.mem o ho)
    rcases hquiet o ho with hs | ⟨hs, hsettle⟩
    · obtain ⟨hp, hp'⟩ := (hsteps o ho).pending hs
      exact hok.still_pending (hsteps o ho).same hp hp' hl
    · obtain ⟨ht, hstake, -⟩ := (hsteps o ho).of_accepted hs
      refine hok.closes (hsteps o ho).same (by simp [hs, takenStatuses]) ht hstake
        ((hhas _ _).2 hsettle) ?_ hrec fun κ _ => hhas κ _
      rw [hl.accounts]
      exact fun a ha => ⟨a, ha, rfl⟩

theorem Consistent.release (h : Consistent db) {a a' : BankrollAccount}
    (hrw : Rewrites db os f db')
    (hsteps : ∀ o ∈ os, OrderStep o (f o) ∧ (f o).status = .rejected)
    (hfrom : ∀ o ∈ os, o.status ∈ releasableStatuses)
    (ha : a ∈ db.accounts) (hid : ∀ o ∈ os, a.id = o.accountId)
    (hposted : Posted db a (os.map (·.releaseInput)) a' db')
    (hreceipts : db'.receipts = db.receipts) : Consistent db' := by
  have hrec : ∀ r ∈ db.receipts, r ∈ db'.receipts := fun r hr => hreceipts ▸ hr
  have hpending : ∀ o ∈ os, o.status ∈ pendingStatuses :=
    fun o ho => pending_of_releasable (hfrom o ho)
  have hok : ∀ o ∈ os, OrderOk db o := fun o ho => h.orders o (hrw.mem o ho)
  have hexp : ∀ o ∈ os, db'.exposure (f o) - db.exposure o = -o.requestedStake := by
    intro o ho
    rw [exposure_of_pending (hpending o ho), exposure_of_closed (by simp [(hsteps o ho).2])]
    omega
  have hbalance : a'.reservedBalance = a.reservedBalance +
      (os.map fun o => db'.exposure (f o) - db.exposure o).sum := by
    rw [List.map_congr_left hexp]
    exact hposted.reservedBalance _ _ _ (fun o _ => reserves_release rfl rfl) fun o ho =>
      entry?_none_of_not_has (((hok o ho).pending (hpending o ho)).2 .release (by simp))
  refine h.rewrite (.of_posted hrw (fun o ho => (hsteps o ho).1.same) ha hid hposted hrec ?_
    hbalance) ?_
  · intro input hin
    obtain ⟨o, ho, rfl⟩ := List.mem_map.1 hin
    exact ⟨o, ho, rfl, .release, by decide, rfl⟩
  · intro o ho
    have hsame := (hsteps o ho).1.same
    obtain ⟨hreserve, hnone⟩ := (hok o ho).pending (hpending o ho)
    have hhas : ∀ κ : KeyKind, κ ≠ .release →
        (db'.Has κ o.idempotencyKey ↔ db.Has κ o.idempotencyKey) := by
      intro κ hκ
      refine hposted.has_other .release (fun input hin => ?_) hκ
      obtain ⟨x, -, rfl⟩ := List.mem_map.1 hin
      exact ⟨x.idempotencyKey, rfl⟩
    have hrelease : db'.Has .release o.idempotencyKey :=
      hposted.has_iff.2 (.inr ⟨_, List.mem_map_of_mem ho, rfl⟩)
    have hs := (hsteps o ho).2
    have hnt : (f o).status ∉ takenStatuses := by
      rw [hs]
      decide
    obtain ⟨x, hx, hxid⟩ := (hok o ho).account
    obtain ⟨y, hy, hyid⟩ := hposted.account_kept hx
    refine ⟨⟨y, hy, by rw [hyid, hxid, hsame.accountId]⟩, fun hne => (hne hs).elim, fun _ => hs,
      fun _ _ => hsame.idempotencyKey ▸ hrelease, ?_, ?_, ?_, fun ht => (hnt ht).elim,
      fun ht => (hnt ht).elim⟩
    · rw [hsame.idempotencyKey, hhas _ (by decide)]
      exact fun hx => (hnone .releasePartial (by simp) hx).elim
    · rw [hsame.idempotencyKey, hhas _ (by decide)]
      exact fun hx => (hnone .settle (by simp) hx).elim
    · rw [hs]
      simp

/-- A row that is accepted, where the ledger gains at most the release of what was not taken. -/
theorem OrderOk.accepts {o o' : BetOrder} (h : OrderOk db o) (hsame : SameOrder o o')
    (hs : o.status ∈ pendingStatuses) (hs' : o'.status = .accepted)
    (hstake : o'.acceptedStake.isSome = true)
    (haccounts : ∀ a ∈ db.accounts, ∃ y ∈ db'.accounts, y.id = a.id)
    (hreceipt : ∃ r ∈ db'.receipts, r.orderId = o.id)
    (hhas : ∀ κ : KeyKind, κ ≠ .releasePartial →
      (db'.Has κ o.idempotencyKey ↔ db.Has κ o.idempotencyKey)) : OrderOk db' o' := by
  obtain ⟨hreserve, hnone⟩ := h.pending hs
  have ht : o'.status ∈ takenStatuses := by simp [hs', takenStatuses]
  obtain ⟨a, ha, hid⟩ := h.account
  obtain ⟨y, hy, hyid⟩ := haccounts a ha
  refine ⟨⟨y, hy, by rw [hyid, hid, hsame.accountId]⟩, ?_, ?_, ?_, fun _ => ht, fun _ => ht, ?_,
    fun _ => hsame.id ▸ hreceipt, fun _ => hstake⟩
  · rw [hsame.idempotencyKey, hhas _ (by decide)]
    exact fun _ => hreserve
  · rw [hsame.idempotencyKey, hhas _ (by decide)]
    exact fun hx => (hnone .release (by simp) hx).elim
  · rw [hs']
    simp
  · rw [hs']
    simp

theorem Consistent.accept (h : Consistent db) {o : BetOrder} {accepted : OperatorOrder}
    {odd stake : Int} {hash : String} {env : TxEnv} (hrw : Rewrites db [o] f db')
    (hf : f o = (o.accept accepted odd stake).touched env)
    (hfrom : o.status ∈ releasableStatuses)
    (hpart : stake = o.requestedStake ∧ LedgerSame db db' ∨
      stake < o.requestedStake ∧ ∃ a a', a ∈ db.accounts ∧ a.id = o.accountId ∧
        Posted db a [o.releasePartialInput stake] a' db')
    (hreceipts : db'.receipts.rows = db.receipts.rows ++ [⟨o.id, hash⟩]) : Consistent db' := by
  have ho := hrw.mem o (List.mem_singleton_self o)
  have hok := h.orders o ho
  have hp := pending_of_releasable hfrom
  obtain ⟨-, hnone⟩ := hok.pending hp
  have hsame : SameOrder o (f o) := hf ▸ (OrderStep.accept hfrom accepted odd stake env).same
  have hs : (f o).status = .accepted := by
    rw [hf]
    rfl
  have hstake : (f o).acceptedStake = some stake := by
    rw [hf]
    rfl
  have hrec : ∀ r ∈ db.receipts, r ∈ db'.receipts := by
    intro r hr
    rw [Table.mem_def, hreceipts]
    exact List.mem_append_left _ hr
  have hreceipt : ∃ r ∈ db'.receipts, r.orderId = o.id := by
    refine ⟨⟨o.id, hash⟩, ?_, rfl⟩
    rw [Table.mem_def, hreceipts]
    exact List.mem_append_right _ (List.mem_singleton_self _)
  rcases hpart with ⟨hfull, hl⟩ | ⟨-, a, a', ha, hid, hposted⟩
  · have hhas : ∀ κ : KeyKind, db'.Has κ o.idempotencyKey ↔ db.Has κ o.idempotencyKey :=
      fun κ => by rw [Database.Has, Database.Has, hl.entries]
    refine h.rewrite (.of_ledgerSame hrw (List.forall_mem_singleton.2 hsame) hl hrec ?_) ?_
    · refine List.forall_mem_singleton.2 ?_
      rw [exposure_of_pending hp, exposure_of_accepted hs ?_, hstake, Option.getD_some, hfull]
      rw [hsame.idempotencyKey, hhas]
      exact hnone .settle (by simp)
    · refine List.forall_mem_singleton.2 (hok.accepts hsame hp hs (by simp [hstake]) ?_ hreceipt
        fun κ _ => hhas κ)
      rw [hl.accounts]
      exact fun a ha => ⟨a, ha, rfl⟩
  · have hhas : ∀ κ : KeyKind, κ ≠ .releasePartial →
        (db'.Has κ o.idempotencyKey ↔ db.Has κ o.idempotencyKey) := fun κ hκ =>
      hposted.has_other .releasePartial
        (List.forall_mem_singleton.2 ⟨o.idempotencyKey, rfl⟩) hκ
    have hbalance : a'.reservedBalance = a.reservedBalance +
        ([o].map fun o => db'.exposure (f o) - db.exposure o).sum := by
      have hδ : (o.releasePartialInput stake).Reserves (-(o.requestedStake - stake)) :=
        reserves_release rfl rfl
      have hnew := entry?_none_of_not_has (hnone .releasePartial (by simp))
      have hbal := Posted.reservedBalance [o] (·.releasePartialInput stake)
        (fun o => -(o.requestedStake - stake)) hposted (List.forall_mem_singleton.2 hδ)
        (List.forall_mem_singleton.2 hnew)
      have hexp : db'.exposure (f o) = stake := by
        rw [exposure_of_accepted hs ?_, hstake, Option.getD_some]
        rw [hsame.idempotencyKey, hhas _ (by decide)]
        exact hnone .settle (by simp)
      rw [hbal, List.map_singleton, List.map_singleton, List.sum_singleton, List.sum_singleton,
        hexp, exposure_of_pending hp]
      omega
    refine h.rewrite (.of_posted hrw (List.forall_mem_singleton.2 hsame) ha
      (List.forall_mem_singleton.2 hid) hposted hrec ?_ hbalance) ?_
    · exact List.forall_mem_singleton.2
        ⟨o, List.mem_singleton_self o, rfl, .releasePartial, by decide, rfl⟩
    · exact List.forall_mem_singleton.2 (hok.accepts hsame hp hs (by simp [hstake])
        (fun x hx => hposted.account_kept hx) hreceipt hhas)

theorem Consistent.settleStake (h : Consistent db) {o : BetOrder} {a a' : BankrollAccount}
    {stake payout : Int} (ho : o ∈ db.orders) (hs : o.status ∈ takenStatuses)
    (hstake : o.acceptedStake = some stake) (ha : a ∈ db.accounts) (hid : a.id = o.accountId)
    (hposted : Posted db a [(o.settleInput stake payout).entry] a' db')
    (horders : db'.orders = db.orders) (hreceipts : db'.receipts = db.receipts) :
    Consistent db' := by
  have hok := h.orders o ho
  have hrec : ∀ r ∈ db.receipts, r ∈ db'.receipts := fun r hr => hreceipts ▸ hr
  have hsettle : db'.Has .settle o.idempotencyKey :=
    hposted.has_iff.2 (.inr ⟨_, List.mem_singleton_self _, rfl⟩)
  have hhas : ∀ κ : KeyKind, κ ≠ .settle →
      (db'.Has κ o.idempotencyKey ↔ db.Has κ o.idempotencyKey) := fun κ hκ =>
    hposted.has_other .settle (List.forall_mem_singleton.2 ⟨o.idempotencyKey, rfl⟩) hκ
  have hbalance : a'.reservedBalance = a.reservedBalance +
      ([o].map fun o => db'.exposure (id o) - db.exposure o).sum := by
    rw [List.map_singleton, List.sum_singleton, id, exposure_of_settled hs hsettle]
    by_cases hdone : db.Has .settle o.idempotencyKey
    · -- the entry was there: nothing is written again
      rw [exposure_of_settled hs hdone, sub_self, add_zero]
      refine hposted.reservedBalance_eq (.inl fun hnone => ?_)
      exact not_has_of_entry hnone hdone
    · have hacc : o.status = .accepted := by
        have hc := fun hx => hdone (hok.closed hx)
        simp only [takenStatuses, List.mem_cons, List.not_mem_nil, or_false] at hs hc
        tauto
      have hδ : (o.settleInput stake payout).entry.Reserves (-stake) := reserves_settle rfl rfl
      have hbal := Posted.reservedBalance [o]
        (fun o => (o.settleInput stake payout).entry) (fun _ => -stake) hposted
        (List.forall_mem_singleton.2 hδ)
        (List.forall_mem_singleton.2 (entry?_none_of_not_has hdone))
      rw [hbal, exposure_of_accepted hacc hdone, hstake, List.map_singleton, List.sum_singleton,
        Option.getD_some]
      omega
  refine h.rewrite (.of_posted (.self horders ho) (List.forall_mem_singleton.2 (.refl o)) ha
    (List.forall_mem_singleton.2 hid) hposted hrec ?_ hbalance) ?_
  · exact List.forall_mem_singleton.2
      ⟨o, List.mem_singleton_self o, rfl, .settle, by decide, rfl⟩
  · exact List.forall_mem_singleton.2 (hok.closes (.refl o) hs hs rfl hsettle
      (fun x hx => hposted.account_kept hx) hrec hhas)

/-! ### New orders -/

/-- An order that is added has a key of its own. -/
theorem key_ne_of_added {o : BetOrder} (hrows : db'.orders.rows = db.orders.rows ++ [o])
    {x : BetOrder} (hx : x ∈ db.orders) : x.idempotencyKey ≠ o.idempotencyKey ∧ x.id ≠ o.id := by
  have hd := db'.orders.distinct
  rw [hrows, List.pairwise_append] at hd
  have hc := hd.2.2 x hx o (List.mem_singleton_self o)
  simp only [orderSchema, Bool.or_eq_false_iff, beq_eq_false_iff_ne] at hc
  exact ⟨hc.1.2, hc.1.1.1⟩

theorem mem_of_added {o x : BetOrder} (hrows : db'.orders.rows = db.orders.rows ++ [o]) :
    x ∈ db'.orders ↔ x ∈ db.orders ∨ x = o := by
  rw [Table.mem_def, hrows, List.mem_append, List.mem_singleton]
  rfl

/-- The ledger of a consistent database knows nothing of an order that is to come. -/
theorem Consistent.not_has_of_added (h : Consistent db) {o : BetOrder}
    (hrows : db'.orders.rows = db.orders.rows ++ [o]) {κ : KeyKind} (hκ : κ ≠ .opening) :
    ¬ db.Has κ o.idempotencyKey := by
  rintro ⟨e, he, hkey⟩
  rcases h.entries e he with ⟨a, -, hkey'⟩ | ⟨x, hx, hof⟩
  · exact hκ (KeyKind.key_inj.1 (hkey.symm.trans hkey')).1
  · obtain ⟨κ', -, hkey'⟩ := hof.entryKey
    exact (key_ne_of_added hrows hx).1 (KeyKind.key_inj.1 (hkey'.symm.trans hkey)).2

/-- **Adding an order keeps a database consistent, if it is well recorded.** -/
theorem Consistent.add (h : Consistent db) {o : BetOrder}
    (hrows : db'.orders.rows = db.orders.rows ++ [o])
    (haccounts : ∀ a ∈ db.accounts, ∃ y ∈ db'.accounts, y.id = a.id)
    (hreceipts : db'.receipts = db.receipts)
    (hothers : ∀ x ∈ db.orders, ∀ κ : KeyKind,
      db'.Has κ x.idempotencyKey ↔ db.Has κ x.idempotencyKey)
    (hentries : ∀ e ∈ db'.entries, e ∈ db.entries ∨ OfOrder e o)
    (hbalances : ∀ y ∈ db'.accounts, ∃ a ∈ db.accounts, a.id = y.id ∧
      y.reservedBalance = a.reservedBalance + if o.accountId = a.id then db'.exposure o else 0)
    (hok : OrderOk db' o) : Consistent db' := by
  refine ⟨fun x hx => ?_, fun e he => ?_, fun y hy => ?_⟩
  · rcases (mem_of_added hrows).1 hx with hx | rfl
    · exact (h.orders x hx).kept haccounts (fun r hr => hreceipts ▸ hr) (hothers x hx)
    · exact hok
  · rcases hentries e he with he | hof
    · rcases h.entries e he with ⟨a, ha, hkey⟩ | ⟨x, hx, hof⟩
      · obtain ⟨y, hy, hid⟩ := haccounts a ha
        exact .inl ⟨y, hy, by rw [hkey, hid]⟩
      · exact .inr ⟨x, (mem_of_added hrows).2 (.inl hx), hof⟩
    · exact .inr ⟨o, (mem_of_added hrows).2 (.inr rfl), hof⟩
  · obtain ⟨a, ha, hid, hbal⟩ := hbalances y hy
    rw [hbal, h.balanced a ha, ← hid, Database.exposureOf, Database.exposureOf, Table.sumBy,
      Table.sumBy, hrows, List.map_append, List.sum_append, List.map_singleton, List.sum_singleton]
    congr 2
    refine List.map_congr_left fun x hx => ?_
    rw [exposure_eq_of_has (hothers x hx .settle)]

theorem Consistent.reserve (h : Consistent db) {o : BetOrder} {a a' : BankrollAccount}
    (hrows : db'.orders.rows = db.orders.rows ++ [o]) (hs : o.status = .reserved)
    (ha : a ∈ db.accounts) (hid : a.id = o.accountId)
    (hposted : Posted db a [o.reserveInput] a' db') (hreceipts : db'.receipts = db.receipts) :
    Consistent db' := by
  have hp : o.status ∈ pendingStatuses := by simp [hs, pendingStatuses]
  have hnone : ∀ κ : KeyKind, κ ≠ .opening → κ ≠ .reserve → ¬ db'.Has κ o.idempotencyKey := by
    intro κ hκ hκ'
    rw [hposted.has_other .reserve (List.forall_mem_singleton.2 ⟨o.idempotencyKey, rfl⟩) hκ']
    exact h.not_has_of_added hrows hκ
  have hbal := Posted.reservedBalance [o] (·.reserveInput)
    (·.requestedStake) hposted (List.forall_mem_singleton.2 (reserves_reserve rfl rfl))
    (List.forall_mem_singleton.2 (entry?_none_of_not_has
      (@Consistent.not_has_of_added _ _ h _ hrows .reserve (by decide))))
  refine h.add hrows (fun x hx => hposted.account_kept hx) hreceipts ?_ ?_ ?_ ?_
  · intro x hx κ
    rw [hposted.has_iff, or_iff_left]
    rintro ⟨input, hin, hkey⟩
    rw [List.mem_singleton.1 hin] at hkey
    have hkey' : KeyKind.key .reserve o.idempotencyKey = κ.key x.idempotencyKey := hkey
    exact (key_ne_of_added hrows hx).1 (KeyKind.key_inj.1 hkey').2.symm
  · intro e he
    rcases hposted.mem_entries he with he | ⟨hacc, input, hin, hkey, horder⟩
    · exact .inl he
    · rw [List.mem_singleton.1 hin] at hkey horder
      exact .inr ⟨⟨.reserve, by decide, hkey⟩, horder, hacc.trans hid⟩
  · intro y hy
    rcases hposted.mem_accounts ha hy with ⟨rfl, hyid⟩ | ⟨hy, hne⟩
    · refine ⟨a, ha, hyid.symm, ?_⟩
      rw [hbal, if_pos hid.symm, exposure_of_pending hp, List.map_singleton, List.sum_singleton]
    · refine ⟨y, hy, rfl, ?_⟩
      rw [if_neg fun hacc => hne (by rw [← hacc, hid]), add_zero]
  · obtain ⟨y, hy, hyid⟩ := hposted.account_kept ha
    obtain ⟨hnt, hnr⟩ := not_taken_of_pending hp
    exact ⟨⟨y, hy, hyid.trans hid⟩,
      fun _ => hposted.has_iff.2 (.inr ⟨_, List.mem_singleton_self _, rfl⟩),
      fun hx => (hnone .release (by decide) (by decide) hx).elim, fun hr => (hnr hr).elim,
      fun hx => (hnone .releasePartial (by decide) (by decide) hx).elim,
      fun hx => (hnone .settle (by decide) (by decide) hx).elim, by simp [hs],
      fun ht => (hnt ht).elim, fun ht => (hnt ht).elim⟩

theorem Consistent.refuseNew (h : Consistent db) {o : BetOrder}
    (hrows : db'.orders.rows = db.orders.rows ++ [o]) (hs : o.status = .rejected)
    (ha : ∃ a ∈ db.accounts, a.id = o.accountId) (hl : LedgerSame db db')
    (hreceipts : db'.receipts = db.receipts) : Consistent db' := by
  have hhas : ∀ (κ : KeyKind) (key : String), db'.Has κ key ↔ db.Has κ key := fun κ key => by
    rw [Database.Has, Database.Has, hl.entries]
  have hnone : ∀ κ : KeyKind, κ ≠ .opening → ¬ db'.Has κ o.idempotencyKey := fun κ hκ => by
    rw [hhas]
    exact h.not_has_of_added hrows hκ
  have hnt : o.status ∉ takenStatuses := by
    rw [hs]
    decide
  refine h.add hrows ?_ hreceipts (fun x _ κ => hhas κ _) ?_ ?_ ?_
  · rw [hl.accounts]
    exact fun a ha => ⟨a, ha, rfl⟩
  · intro e he
    exact .inl (hl.entries ▸ he)
  · intro y hy
    refine ⟨y, hl.accounts ▸ hy, rfl, ?_⟩
    rw [exposure_of_closed (by simp [hs]), ite_self, add_zero]
  · exact ⟨by rwa [hl.accounts], fun hne => (hne hs).elim, fun _ => hs,
      fun _ hx => (hnone .reserve (by decide) hx).elim,
      fun hx => (hnone .releasePartial (by decide) hx).elim,
      fun hx => (hnone .settle (by decide) hx).elim, by simp [hs], fun ht => (hnt ht).elim,
      fun ht => (hnt ht).elim⟩

/-! ### Accounts -/

theorem Consistent.account (h : Consistent db) {a : BankrollAccount}
    (ht : db.accounts.insert? a = some db'.accounts) (hb : a.totals = (0, 0))
    (hentries : db'.entries = db.entries) (horders : db'.orders = db.orders)
    (hreceipts : db'.receipts = db.receipts) : Consistent db' := by
  have hkept : ∀ x ∈ db.accounts, ∃ y ∈ db'.accounts, y.id = x.id :=
    fun x hx => ⟨x, (Table.mem_insert? ht).2 (.inl hx), rfl⟩
  have hhas : ∀ (κ : KeyKind) (key : String), db'.Has κ key ↔ db.Has κ key := fun κ key => by
    rw [Database.Has, Database.Has, hentries]
  have hexp : ∀ id, db'.exposureOf id = db.exposureOf id := fun id => by
    rw [Database.exposureOf, Database.exposureOf, horders]
    exact Table.sumBy_congr fun o _ => by rw [exposure_eq_of_has (hhas .settle _)]
  refine ⟨fun o ho => ?_, fun e he => ?_, fun y hy => ?_⟩
  · exact (h.orders o (horders ▸ ho)).kept hkept (fun r hr => hreceipts ▸ hr) fun κ => hhas κ _
  · rcases h.entries e (hentries ▸ he) with ⟨x, hx, hkey⟩ | ⟨o, ho, hof⟩
    · obtain ⟨y, hy, hid⟩ := hkept x hx
      exact .inl ⟨y, hy, by rw [hkey, hid]⟩
    · exact .inr ⟨o, horders ▸ ho, hof⟩
  · rcases (Table.mem_insert? ht).1 hy with hy | rfl
    · rw [hexp, h.balanced y hy]
    · -- no order is of an account that did not exist
      have hzero : db.exposureOf y.id = db.orders.sumBy fun _ => 0 := by
        refine Table.sumBy_congr fun o ho => if_neg fun hacc => ?_
        obtain ⟨x, hx, hxid⟩ := (h.orders o ho).account
        have hd := db'.accounts.distinct
        rw [Table.rows_insert? ht, List.pairwise_append] at hd
        have hc := hd.2.2 x hx y (List.mem_singleton_self y)
        simp [accountSchema, hxid, hacc] at hc
      have hres : y.reservedBalance = 0 := congrArg Prod.snd hb
      rw [hexp, hzero, hres]
      simp [Table.sumBy]

theorem Consistent.credit (h : Consistent db) {a a' : BankrollAccount} {input : AppendInput}
    (ha : a ∈ db.accounts) (hposted : Posted db a [input] a' db')
    (hkey : input.entryKey = KeyKind.key .opening a.id) (htype : input.type = .adjustment)
    (horders : db'.orders = db.orders) (hreceipts : db'.receipts = db.receipts) :
    Consistent db' := by
  have hbal := hposted.reservedBalance_eq (.inr (reserves_adjustment htype))
  have hhas : ∀ κ : KeyKind, κ ≠ .opening → ∀ key, db'.Has κ key ↔ db.Has κ key := fun κ hκ key =>
    hposted.has_other .opening (List.forall_mem_singleton.2 ⟨a.id, hkey⟩) hκ
  have hexp : ∀ id, db'.exposureOf id = db.exposureOf id := fun id => by
    rw [Database.exposureOf, Database.exposureOf, horders]
    exact Table.sumBy_congr fun o _ => by
      rw [exposure_eq_of_has (hhas .settle (by decide) _)]
  refine ⟨fun o ho => ?_, fun e he => ?_, fun y hy => ?_⟩
  · obtain ⟨⟨x, hx, hxid⟩, k₂, k₃, k₄, k₅, k₆, k₇, k₈, k₉⟩ := h.orders o (horders ▸ ho)
    obtain ⟨y, hy, hyid⟩ := hposted.account_kept hx
    refine ⟨⟨y, hy, hyid.trans hxid⟩, ?_, ?_, ?_, ?_, ?_, ?_, by rwa [hreceipts], k₉⟩
    · rwa [hhas _ (by decide)]
    · rwa [hhas _ (by decide)]
    · rwa [hhas _ (by decide), hhas _ (by decide)]
    · rwa [hhas _ (by decide)]
    · rwa [hhas _ (by decide)]
    · rwa [hhas _ (by decide)]
  · rcases hposted.mem_entries he with he | ⟨-, input', hin, hek, -⟩
    · rcases h.entries e he with ⟨x, hx, hxkey⟩ | ⟨o, ho, hof⟩
      · obtain ⟨y, hy, hid⟩ := hposted.account_kept hx
        exact .inl ⟨y, hy, by rw [hxkey, hid]⟩
      · exact .inr ⟨o, horders ▸ ho, hof⟩
    · rw [List.mem_singleton.1 hin] at hek
      obtain ⟨y, hy, hid⟩ := hposted.account_kept ha
      exact .inl ⟨y, hy, by rw [hek, hkey, hid]⟩
  · rw [hexp]
    rcases hposted.mem_accounts ha hy with ⟨rfl, hyid⟩ | ⟨hy, -⟩
    · rw [hyid, hbal, h.balanced a ha]
    · exact h.balanced y hy

/-- **Every move keeps a consistent database consistent.** -/
theorem Consistent.move (h : Consistent db) (hm : Move db db') : Consistent db' := by
  cases hm with
  | aside hl ho hr => exact h.congr hl ho hr
  | account ht hb _ he ho hr => exact h.account ht hb he ho hr
  | credit ha hposted hkey htype ho hr => exact h.credit ha hposted hkey htype ho hr
  | reserve hrows hs ha hid hposted hr => exact h.reserve hrows hs ha hid hposted hr
  | refuseNew hrows hs ha hl hr => exact h.refuseNew hrows hs ha hl hr
  | quiet hrw hsteps hquiet hl hr => exact h.quiet hrw hsteps hquiet hl hr
  | release hrw hsteps hfrom _ ha hid hposted hr =>
    exact h.release hrw hsteps hfrom ha hid hposted hr
  | @refuse o f hrw _ _ hfrom hnone =>
    -- an order that may be refused has its reservation in the ledger
    have hok := h.orders o (hrw.mem o (List.mem_singleton_self o))
    exact (hnone (hok.pending (pending_of_releasable hfrom)).1).elim
  | accept hrw hf hfrom _ hpart hr => exact h.accept hrw hf hfrom hpart hr
  | settleStake ho hs hstake ha hid hposted hor hr =>
    exact h.settleStake ho hs hstake ha hid hposted hor hr

end Moves

end ApiScore
