import Mathlib.Algebra.Group.Int.Defs
import Mathlib.Algebra.Group.Prod
import Mathlib.Algebra.Order.Group.Int
import Mathlib.Data.Int.ConditionallyCompleteOrder
import ApiScore.Lib.Journal
import ApiScore.Execution.Ledger

/-!
# What a ledger write does

One specification for each writing function of the ledger.  A write on a locked account *records* a
list of rows: they are added at the end of the journal, they continue the account's own history, and
the account row becomes the state after the last of them (`Records`).  `append` records one row or
none (`append_spec`), `appendBatch` records the rows of its new keys (`appendBatch_records`).
-/

set_option autoImplicit false

namespace ApiScore

open Relational

/-- The entries of an account as a journal over the pair (available, reserved). -/
def ledgerJournal : Journal.Reading BankrollLedgerEntry (Int × Int) where
  delta e := (e.amount, e.reservedDelta)
  after e := (e.availableAfter, e.reservedAfter)
  version e := e.accountVersion

@[simp] theorem ledgerJournal_delta (e : BankrollLedgerEntry) :
    ledgerJournal.delta e = (e.amount, e.reservedDelta) := rfl

@[simp] theorem ledgerJournal_after (e : BankrollLedgerEntry) :
    ledgerJournal.after e = (e.availableAfter, e.reservedAfter) := rfl

@[simp] theorem ledgerJournal_version (e : BankrollLedgerEntry) :
    ledgerJournal.version e = e.accountVersion := rfl

/-- The two balances of an account as a total. -/
def BankrollAccount.totals (account : BankrollAccount) : Int × Int :=
  (account.availableBalance, account.reservedBalance)

theorem total_ledgerJournal (b : Int × Int) (es : List BankrollLedgerEntry) :
    Journal.total ledgerJournal b es
      = (b.1 + (es.map (·.amount)).sum, b.2 + (es.map (·.reservedDelta)).sum) := by
  induction es generalizing b with
  | nil => simp
  | cons e es ih =>
    rw [Journal.total_cons, ih]
    simp [add_assoc]

/-! ## Rows of the accounts table -/

theorem account_eq_of_id {db : Database} {a b : BankrollAccount} (ha : a ∈ db.accounts)
    (hb : b ∈ db.accounts) (h : a.id = b.id) : a = b :=
  Table.eq_of_clash ha hb (by simp [accountSchema, h])

theorem account?_of_mem {db : Database} {a : BankrollAccount} (ha : a ∈ db.accounts) :
    db.account? a.id = some a :=
  Table.find?_of_mem ha (by simp) fun x _ hx => by
    simp only [beq_iff_eq] at hx
    simp [accountSchema, hx]

theorem account?_eq_some {db : Database} {id : String} {a : BankrollAccount}
    (h : db.account? id = some a) : a ∈ db.accounts ∧ a.id = id :=
  ⟨Table.mem_of_find? h, by simpa using Table.of_find? h⟩

theorem entry?_of_mem {db : Database} {e : BankrollLedgerEntry} (he : e ∈ db.entries) :
    db.entry? e.entryKey = some e :=
  Table.find?_of_mem he (by simp) fun x _ hx => by
    simp only [beq_iff_eq] at hx
    simp [entrySchema, hx]

theorem entry?_eq_some {db : Database} {key : String} {e : BankrollLedgerEntry}
    (h : db.entry? key = some e) : e ∈ db.entries ∧ e.entryKey = key :=
  ⟨Table.mem_of_find? h, by simpa using Table.of_find? h⟩

theorem entry?_eq_none {db : Database} {key : String} (h : db.entry? key = none)
    {e : BankrollLedgerEntry} (he : e ∈ db.entries) : e.entryKey ≠ key := by
  simpa using Table.find?_none h he

theorem mem_entriesOf {db : Database} {id : String} {e : BankrollLedgerEntry} :
    e ∈ db.entriesOf id ↔ e ∈ db.entries ∧ e.accountId = id := by
  rw [Database.entriesOf, Table.mem_select, beq_iff_eq]

/-! ## Statements -/

theorem findEntry_eq_ok {key : String} {db : Database}
    {r : Option BankrollLedgerEntry × Database} :
    findEntry key db = .ok r ↔ r = (db.entry? key, db) := by
  rw [findEntry, DbTx.read_eq_ok]

theorem lockAccount_spec {id : String} {db db' : Database} {a : BankrollAccount}
    (h : lockAccount id db = .ok (a, db')) : db' = db ∧ a ∈ db.accounts ∧ a.id = id := by
  rw [lockAccount, Tx.bind_eq_ok] at h
  obtain ⟨o, s, ho, h⟩ := h
  rw [DbTx.read_eq_ok] at ho
  cases ho
  obtain ⟨x, hx, heq⟩ := DbTx.get!_eq_ok.1 h
  cases heq
  exact ⟨rfl, account?_eq_some hx⟩

theorem insertEntry_spec {e : BankrollLedgerEntry} {db db' : Database} {u : Unit}
    (h : insertEntry e db = .ok (u, db')) :
    db.entryReferences e = true ∧
      ∃ t, db.entries.insert? e = some t ∧ db' = { db with entries := t } := by
  rw [insertEntry, DbTx.write_eq_ok] at h
  split at h
  · rename_i hr
    obtain ⟨t, ht, heq⟩ := Option.map_eq_some_iff.1 h
    exact ⟨hr, t, ht, heq.symm⟩
  · cases h

theorem storeCents_spec {n m : Int} {db db' : Database} (h : storeCents n db = .ok (m, db')) :
    m = n ∧ db' = db := by
  unfold storeCents at h
  split at h
  · cases Tx.pure_eq_ok.1 h
    exact ⟨rfl, rfl⟩
  · exact absurd h (by simp)

theorem entryRow_spec {account : BankrollAccount} {input : AppendInput} {planned : PlannedEntry}
    {version : Nat} {dbNow : Int} {db db' : Database} {e : BankrollLedgerEntry}
    (h : entryRow account input planned version dbNow db = .ok (e, db')) :
    db' = db ∧ e = {
      accountId := account.id, orderId := input.orderId, entryKey := input.entryKey
      entryType := input.type, amount := planned.amountCents
      reservedDelta := planned.reservedDeltaCents
      availableAfter := planned.availableAfterCents, reservedAfter := planned.reservedAfterCents
      currency := account.currency, accountVersion := version, createdAt := dbNow } := by
  simp only [entryRow, Tx.bind_eq_ok] at h
  obtain ⟨_, _, h₁, _, _, h₂, _, _, h₃, _, _, h₄, h⟩ := h
  obtain ⟨rfl, rfl⟩ := storeCents_spec h₁
  obtain ⟨rfl, rfl⟩ := storeCents_spec h₂
  obtain ⟨rfl, rfl⟩ := storeCents_spec h₃
  obtain ⟨rfl, rfl⟩ := storeCents_spec h₄
  cases Tx.pure_eq_ok.1 h
  exact ⟨rfl, rfl⟩

@[simp] theorem BankrollAccount.withBalances_id (account : BankrollAccount) (b : Balances)
    (v : Nat) : (account.withBalances b v).id = account.id := rfl

/-- Saving an account that is in the table rewrites its row and no other. -/
theorem saveAccount_spec {account a' : BankrollAccount} {balances : Balances} {version : Nat}
    {conflict : String} {db db' : Database} (ha : account ∈ db.accounts)
    (h : saveAccount account balances version conflict db = .ok (a', db')) :
    a' = account.withBalances balances version ∧
      db' = { db with accounts := db'.accounts } ∧
      db'.accounts.rows = db.accounts.rows.map fun a => if a = account then a' else a := by
  simp only [saveAccount, updateAccounts, Tx.bind_eq_ok] at h
  obtain ⟨_, _, ⟨_, _, hread, _, s, hw, hn⟩, h⟩ := h
  cases DbTx.read_eq_ok.1 hread
  rw [DbTx.write_eq_ok] at hw
  obtain ⟨t, ht, rfl⟩ := Option.map_eq_some_iff.1 hw
  cases Tx.pure_eq_ok.1 hn
  rw [Tx.ite_eq_ok] at h
  rcases h with ⟨_, h⟩ | ⟨_, h⟩
  · exact (DbTx.fail_bind_eq_ok.1 h).elim
  · cases Tx.pure_eq_ok.1 h
    refine ⟨rfl, rfl, ?_⟩
    rw [Table.rows_update? ht]
    refine List.map_congr_left fun a hmem => ?_
    by_cases hid : a = account
    · subst hid
      simp
    · have hne : ¬ a.id = account.id := fun hid' => hid (account_eq_of_id hmem ha hid')
      simp [hid, hne]

/-! ## Planned entries -/

/-- A plan continues the balances it starts from and does not turn them negative. -/
theorem planEntry_spec {type : LedgerEntryType} {b : Balances} {movement : EntryMovement}
    {p : PlannedEntry} (h : planEntry type b movement = .ok p) :
    movementEffect type movement = .ok ⟨p.amountCents, p.reservedDeltaCents⟩ ∧
      p.availableAfterCents = b.availableCents + p.amountCents ∧
      p.reservedAfterCents = b.reservedCents + p.reservedDeltaCents ∧
      0 ≤ p.availableAfterCents ∧ 0 ≤ p.reservedAfterCents := by
  unfold planEntry at h
  cases he : movementEffect type movement with
  | error e =>
    rw [he] at h
    cases h
  | ok effect =>
    rw [he] at h
    simp only at h
    split_ifs at h
    cases h
    refine ⟨rfl, rfl, rfl, ?_, ?_⟩
    · show 0 ≤ b.availableCents + effect.amountCents
      omega
    · show 0 ≤ b.reservedCents + effect.reservedDeltaCents
      omega

/-- The entry `e` is what the request `input` writes. -/
structure AppendInput.Wrote (input : AppendInput) (dbNow : Int) (e : BankrollLedgerEntry) :
    Prop where
  entryKey : e.entryKey = input.entryKey
  entryType : e.entryType = input.type
  orderId : e.orderId = input.orderId
  effect : movementEffect input.type input.movement = .ok ⟨e.amount, e.reservedDelta⟩
  createdAt : e.createdAt = dbNow

/-- Every request that was answered by a list of entries has its own. -/
theorem exists_wrote {dbNow : Int} {inputs : List AppendInput} {rows : List BankrollLedgerEntry}
    (h : List.Forall₂ (fun input e => input.Wrote dbNow e) inputs rows) {input : AppendInput}
    (hi : input ∈ inputs) : ∃ e ∈ rows, input.Wrote dbNow e := by
  induction h with
  | nil => cases hi
  | @cons x e inputs rows hx _ ih =>
    rcases List.mem_cons.1 hi with rfl | hi
    · exact ⟨e, List.mem_cons_self, hx⟩
    · obtain ⟨f, hf, hw⟩ := ih hi
      exact ⟨f, List.mem_cons_of_mem _ hf, hw⟩

/-- Every entry of the answer is what one of the requests writes. -/
theorem wrote_by {dbNow : Int} {inputs : List AppendInput} {rows : List BankrollLedgerEntry}
    (h : List.Forall₂ (fun input e => input.Wrote dbNow e) inputs rows) {e : BankrollLedgerEntry}
    (he : e ∈ rows) : ∃ input ∈ inputs, input.Wrote dbNow e := by
  induction h with
  | nil => cases he
  | @cons x f inputs rows hx _ ih =>
    rcases List.mem_cons.1 he with rfl | he
    · exact ⟨x, List.mem_cons_self, hx⟩
    · obtain ⟨input, hi, hw⟩ := ih he
      exact ⟨input, List.mem_cons_of_mem _ hi, hw⟩

/-- The row of a plan made from the balances `b` and the version `v` continues them. -/
theorem planned_row {account : BankrollAccount} {input : AppendInput} {b : Balances} {v : Nat}
    {planned : PlannedEntry} {dbNow : Int} {db db' : Database} {e : BankrollLedgerEntry}
    (hp : planEntry input.type b input.movement = .ok planned)
    (he : entryRow account input planned (v + 1) dbNow db = .ok (e, db')) :
    db' = db ∧ (e.accountId = account.id ∧ e.currency = account.currency) ∧
      input.Wrote dbNow e ∧ e.accountVersion = v + 1 ∧
      (e.availableAfter = b.availableCents + e.amount ∧
        e.reservedAfter = b.reservedCents + e.reservedDelta) ∧
      (0 ≤ e.availableAfter ∧ 0 ≤ e.reservedAfter) ∧
      planned.availableAfterCents = e.availableAfter ∧
      planned.reservedAfterCents = e.reservedAfter := by
  obtain ⟨hdb, rfl⟩ := entryRow_spec he
  obtain ⟨heff, hav, hrs, hav0, hrs0⟩ := planEntry_spec hp
  exact ⟨hdb, ⟨rfl, rfl⟩, ⟨rfl, rfl, rfl, heff, rfl⟩, rfl, ⟨hav, hrs⟩, ⟨hav0, hrs0⟩, rfl, rfl⟩

/-! ## Recording rows -/

/-- Only the accounts and the entries changed. -/
def LedgerOnly (db db' : Database) : Prop :=
  db' = { db with accounts := db'.accounts, entries := db'.entries }

theorem LedgerOnly.refl (db : Database) : LedgerOnly db db := rfl

theorem LedgerOnly.orders {db db' : Database} (h : LedgerOnly db db') : db'.orders = db.orders := by
  rw [h]

theorem LedgerOnly.receipts {db db' : Database} (h : LedgerOnly db db') :
    db'.receipts = db.receipts := by
  rw [h]

/-- From `db` to `db'` the rows were added at the end of the history of `account`, whose row became
`account'`; no other account or entry changed. -/
structure Records (db : Database) (account : BankrollAccount) (rows : List BankrollLedgerEntry)
    (account' : BankrollAccount) (db' : Database) : Prop where
  entries : db'.entries.rows = db.entries.rows ++ rows
  accounts : db'.accounts.rows = db.accounts.rows.map fun a => if a = account then account' else a
  identity : ∃ b v, account' = account.withBalances b v
  owner : ∀ e ∈ rows, e.accountId = account.id
  currency : ∀ e ∈ rows, e.currency = account.currency
  chain : Journal.Chain ledgerJournal account.totals account.version rows
  totals : account'.totals = Journal.total ledgerJournal account.totals rows
  version : account'.version = account.version + rows.length

theorem BankrollAccount.withBalances_self (account : BankrollAccount) :
    account.withBalances account.balances account.version = account := rfl

/-- Recording nothing. -/
theorem Records.refl (db : Database) (account : BankrollAccount) :
    Records db account [] account db where
  entries := by rw [List.append_nil]
  accounts := by
    refine ((List.map_congr_left fun a _ => ?_).trans (List.map_id _)).symm
    by_cases h : a = account
    · simp [h]
    · simp [h]
  identity := ⟨_, _, account.withBalances_self.symm⟩
  owner := by simp
  currency := by simp
  chain := trivial
  totals := (Journal.total_nil _ _).symm
  version := rfl

theorem insertEntries_spec {rows : List BankrollLedgerEntry} {db db' : Database} {u : Unit}
    (h : insertEntries rows db = .ok (u, db')) :
    db' = { db with entries := db'.entries } ∧
      db'.entries.rows = db.entries.rows ++ rows := by
  induction rows generalizing db with
  | nil =>
    cases Tx.pure_eq_ok.1 h
    exact ⟨rfl, by rw [List.append_nil]⟩
  | cons row rows ih =>
    rw [insertEntries, Tx.bind_eq_ok] at h
    obtain ⟨_, s, hs, h⟩ := h
    obtain ⟨-, t, ht, rfl⟩ := insertEntry_spec hs
    obtain ⟨hframe, hrows⟩ := ih h
    refine ⟨hframe, ?_⟩
    rw [hrows, Table.rows_insert? ht, List.append_assoc, List.singleton_append]

/-- Inserting rows that continue the account, then saving what they lead to, records them. -/
theorem Records.of_writes {account account' : BankrollAccount} {rows : List BankrollLedgerEntry}
    {b : Balances} {v : Nat} {conflict : String} {db db₁ db' : Database} {u : Unit}
    (ha : account ∈ db.accounts) (hi : insertEntries rows db = .ok (u, db₁))
    (hs : saveAccount account b v conflict db₁ = .ok (account', db'))
    (howner : ∀ e ∈ rows, e.accountId = account.id)
    (hcurrency : ∀ e ∈ rows, e.currency = account.currency)
    (hchain : Journal.Chain ledgerJournal account.totals account.version rows)
    (htotal : (b.availableCents, b.reservedCents)
      = Journal.total ledgerJournal account.totals rows)
    (hversion : v = account.version + rows.length) :
    Records db account rows account' db' ∧ LedgerOnly db db' := by
  obtain ⟨hf₁, hrows⟩ := insertEntries_spec hi
  have hacc : db₁.accounts = db.accounts := by rw [hf₁]
  obtain ⟨rfl, hf₂, hacc'⟩ := saveAccount_spec (hacc.symm ▸ ha) hs
  have hent : db'.entries = db₁.entries := by rw [hf₂]
  refine ⟨⟨?_, ?_, ⟨b, v, rfl⟩, howner, hcurrency, hchain, htotal, hversion⟩, ?_⟩
  · rw [hent, hrows]
  · rw [hacc', hacc]
  · rw [LedgerOnly, hf₂, hf₁]

/-! ## `append` -/

/-- What `append` does when it returns: nothing if the key is recorded with the same effect, else
one new entry. -/
inductive AppendOutcome (db : Database) (account : BankrollAccount) (input : AppendInput)
    (dbNow : Int) (res : AppendResult) (account' : BankrollAccount) (db' : Database) : Prop
  | replay (effect : MovementEffect) (hkey : db.entry? input.entryKey = some res.entry)
      (heffect : movementEffect input.type input.movement = .ok effect)
      (hsame : input.sameAs account.id effect res.entry = true) (hreplayed : res.replayed = true)
      (haccount : account' = account) (hdb : db' = db)
  | write (hkey : db.entry? input.entryKey = none) (hwrote : input.Wrote dbNow res.entry)
      (hreplayed : res.replayed = false)
      (hrecords : Records db account [res.entry] account' db') (honly : LedgerOnly db db')

theorem append_spec {account account' : BankrollAccount} {input : AppendInput} {dbNow : Int}
    {db db' : Database} {res : AppendResult} (ha : account ∈ db.accounts)
    (h : append account input dbNow db = .ok ((res, account'), db')) :
    AppendOutcome db account input dbNow res account' db' := by
  rw [append, Tx.bind_eq_ok] at h
  obtain ⟨o, s, ho, h⟩ := h
  cases findEntry_eq_ok.1 ho
  cases hk : db.entry? input.entryKey with
  | some existing =>
    simp only [hk, Tx.bind_eq_ok, liftRule_eq_ok] at h
    obtain ⟨effect, _, ⟨heffect, rfl⟩, h⟩ := h
    rw [Tx.ite_eq_ok] at h
    rcases h with ⟨hsame, h⟩ | ⟨_, h⟩
    · cases Tx.pure_eq_ok.1 h
      exact .replay effect hk heffect hsame rfl rfl rfl
    · exact (DbTx.fail_eq_ok.1 h).elim
  | none =>
    simp only [hk, Tx.bind_eq_ok, liftRule_eq_ok] at h
    obtain ⟨planned, _, ⟨hplan, rfl⟩, row, s₁, hrow, _, s₂, hins, saved, s₃, hsave,
      o, s₄, hfind, entry, s₅, hget, h⟩ := h
    obtain ⟨rfl, hid, hwrote, hver, hafter, hnonneg, hav, hrs⟩ := planned_row hplan hrow
    have hi : insertEntries [row] s₁ = .ok ((), s₂) := by
      rw [insertEntries, Tx.bind_eq_ok]
      exact ⟨_, _, hins, rfl⟩
    have hrec : Records s₁ account [row] saved s₃ ∧ LedgerOnly s₁ s₃ := by
      refine Records.of_writes ha hi hsave (by simpa using hid.1) (by simpa using hid.2)
        ⟨hver, ?_, ?_, trivial⟩ ?_ rfl
      · exact Prod.ext hafter.1 hafter.2
      · exact hnonneg
      · rw [total_ledgerJournal, hav, hrs, hafter.1, hafter.2]
        simp [BankrollAccount.totals, BankrollAccount.balances]
    -- the final read finds the row just inserted: its key is unique
    obtain ⟨rfl, rfl⟩ := Prod.mk.inj (findEntry_eq_ok.1 hfind)
    obtain ⟨e, he, heq⟩ := DbTx.get!_eq_ok.1 hget
    obtain ⟨rfl, rfl⟩ := Prod.mk.inj heq
    cases Tx.pure_eq_ok.1 h
    have hmem : row ∈ db'.entries := by
      rw [Table.mem_def, hrec.1.entries]
      simp
    rw [← hwrote.entryKey, entry?_of_mem hmem, Option.some.injEq] at he
    subst he
    exact .write hk hwrote rfl hrec.1 hrec.2

/-! ## `appendBatch` -/

/-- What a plan for a batch consists of: one row for each key that is not recorded, in order. -/
structure BatchPlan (account : BankrollAccount) (existing : List BankrollLedgerEntry)
    (dbNow : Int) (inputs : List AppendInput) (b : Balances) (v : Nat)
    (rows : List BankrollLedgerEntry) (b' : Balances) (v' : Nat) : Prop where
  wrote : List.Forall₂ (fun input e => input.Wrote dbNow e)
    (inputs.filter fun input => (existing.find? fun e => e.entryKey == input.entryKey).isNone) rows
  owner : ∀ e ∈ rows, e.accountId = account.id
  currency : ∀ e ∈ rows, e.currency = account.currency
  chain : Journal.Chain ledgerJournal (b.availableCents, b.reservedCents) v rows
  total : (b'.availableCents, b'.reservedCents)
    = Journal.total ledgerJournal (b.availableCents, b.reservedCents) rows
  version : v' = v + rows.length

theorem planBatch_spec {account : BankrollAccount} {existing : List BankrollLedgerEntry}
    {dbNow : Int} {inputs : List AppendInput} {b b' : Balances} {v v' : Nat}
    {rows : List BankrollLedgerEntry} {db db' : Database}
    (h : planBatch account existing dbNow inputs b v db = .ok ((rows, b', v'), db')) :
    db' = db ∧ BatchPlan account existing dbNow inputs b v rows b' v' := by
  induction inputs generalizing b v rows db with
  | nil =>
    cases Tx.pure_eq_ok.1 h
    exact ⟨rfl, .nil, by simp, by simp, trivial, (Journal.total_nil _ _).symm, rfl⟩
  | cons input inputs ih =>
    rw [planBatch] at h
    cases hf : existing.find? fun e => e.entryKey == input.entryKey with
    | some replay =>
      simp only [hf, Tx.bind_eq_ok, liftRule_eq_ok] at h
      obtain ⟨effect, _, ⟨-, rfl⟩, h⟩ := h
      rw [Tx.ite_eq_ok] at h
      rcases h with ⟨-, h⟩ | ⟨-, h⟩
      · obtain ⟨hdb, hp⟩ := ih h
        refine ⟨hdb, ?_, hp.owner, hp.currency, hp.chain, hp.total, hp.version⟩
        rw [List.filter_cons_of_neg (by simp [hf])]
        exact hp.wrote
      · exact (DbTx.fail_eq_ok.1 h).elim
    | none =>
      simp only [hf, Tx.bind_eq_ok, liftRule_eq_ok] at h
      obtain ⟨planned, _, ⟨hplan, rfl⟩, row, s₁, hrow, ⟨rest, b₁, v₁⟩, s₂, hrest, h⟩ := h
      obtain ⟨rfl, hid, hwrote, hver, hafter, hnonneg, hav, hrs⟩ := planned_row hplan hrow
      cases Tx.pure_eq_ok.1 h
      obtain ⟨rfl, hp⟩ := ih hrest
      have hda : ledgerJournal.after row = (planned.availableAfterCents, planned.reservedAfterCents) :=
        Prod.ext hav.symm hrs.symm
      have hdelta : (b.availableCents, b.reservedCents) + ledgerJournal.delta row
          = ledgerJournal.after row := Prod.ext hafter.1.symm hafter.2.symm
      refine ⟨rfl, ?_, ?_, ?_, ⟨hver, hdelta.symm, hnonneg, ?_⟩, ?_, ?_⟩
      · rw [List.filter_cons_of_pos (by simp [hf])]
        exact .cons hwrote hp.wrote
      · exact List.forall_mem_cons.2 ⟨hid.1, hp.owner⟩
      · exact List.forall_mem_cons.2 ⟨hid.2, hp.currency⟩
      · rw [hda]
        exact hp.chain
      · rw [hp.total, Journal.total_cons, hdelta, hda]
      · rw [hp.version, List.length_cons, add_assoc, add_comm 1]

/-- Among the entries read for a batch, the one with the key of a request is the one recorded. -/
theorem find?_existing {db : Database} {inputs : List AppendInput} {input : AppendInput}
    (hi : input ∈ inputs) :
    ((db.entries.select fun e => (inputs.map (·.entryKey)).contains e.entryKey).find? fun e =>
      e.entryKey == input.entryKey) = db.entry? input.entryKey := by
  rw [Table.select, List.find?_filter, Database.entry?, Table.find?]
  congr 1
  funext e
  by_cases he : e.entryKey = input.entryKey
  · have hmem : ∃ a ∈ inputs, a.entryKey = input.entryKey := ⟨input, hi, rfl⟩
    simp [he, hmem]
  · simp [he]

/-- What `appendBatch` does when it returns: one new entry for each key that is not recorded. -/
theorem appendBatch_records {account account' : BankrollAccount} {inputs : List AppendInput}
    {dbNow : Int} {db db' : Database} {res : List AppendResult} (ha : account ∈ db.accounts)
    (h : appendBatch account inputs dbNow db = .ok ((res, account'), db')) :
    ∃ rows, Records db account rows account' db' ∧ LedgerOnly db db' ∧
      List.Forall₂ (fun input e => input.Wrote dbNow e)
        (inputs.filter fun input => (db.entry? input.entryKey).isNone) rows := by
  rw [appendBatch] at h
  rw [Tx.ite_eq_ok] at h
  rcases h with ⟨rfl, h⟩ | ⟨-, h⟩
  · cases Tx.pure_eq_ok.1 h
    exact ⟨[], .refl _ _, .refl _, .nil⟩
  rw [Tx.ite_eq_ok] at h
  rcases h with ⟨-, h⟩ | ⟨-, h⟩
  · exact (DbTx.fail_bind_eq_ok.1 h).elim
  simp only [Tx.bind_eq_ok, DbTx.read_eq_ok] at h
  obtain ⟨existing, _, heq, ⟨rows, b, v⟩, s₁, hplan, saved, s₂, hsave, all, s₃, hall, results, s₄,
    hres, h⟩ := h
  obtain ⟨rfl, rfl⟩ := Prod.mk.inj heq
  obtain ⟨rfl, rfl⟩ := Prod.mk.inj hall
  cases Tx.pure_eq_ok.1 h
  obtain rfl := Tx.mapM_frame (fun input s r s' hr => by
    obtain ⟨e, s₅, he, hr⟩ := Tx.bind_eq_ok.1 hr
    obtain ⟨_, -, heq⟩ := DbTx.get!_eq_ok.1 he
    rw [(Prod.mk.inj (Tx.pure_eq_ok.1 hr)).2, (Prod.mk.inj heq).2]) hres
  obtain ⟨rfl, hp⟩ := planBatch_spec hplan
  have hwrote := hp.wrote
  rw [List.filter_congr fun input hi => by rw [find?_existing hi]] at hwrote
  rw [saveBatch, Tx.ite_eq_ok] at hsave
  rcases hsave with ⟨rfl, hsave⟩ | ⟨-, hsave⟩
  · cases Tx.pure_eq_ok.1 hsave
    exact ⟨[], .refl _ _, .refl _, hwrote⟩
  · obtain ⟨_, s₅, hins, hsave⟩ := Tx.bind_eq_ok.1 hsave
    obtain ⟨hrec, honly⟩ :=
      Records.of_writes ha hins hsave hp.owner hp.currency hp.chain hp.total hp.version
    exact ⟨rows, hrec, honly, hwrote⟩

/-! ## Recording, seen from the accounts and the entries alone -/

/-- The entries of the requests are recorded: each was there, or was added to the account. -/
def Posted (db : Database) (account : BankrollAccount) (inputs : List AppendInput)
    (account' : BankrollAccount) (db' : Database) : Prop :=
  ∃ rows dbNow, Records db account rows account' db' ∧
    List.Forall₂ (fun input e => input.Wrote dbNow e)
      (inputs.filter fun input => (db.entry? input.entryKey).isNone) rows

theorem AppendOutcome.posted {db db' : Database} {account account' : BankrollAccount}
    {input : AppendInput} {dbNow : Int} {res : AppendResult}
    (h : AppendOutcome db account input dbNow res account' db') :
    Posted db account [input] account' db' ∧ LedgerOnly db db' := by
  rcases h with ⟨_, hkey, -, -, -, rfl, rfl⟩ | ⟨hkey, hwrote, -, hrec, honly⟩
  · refine ⟨⟨[], dbNow, .refl _ _, ?_⟩, .refl _⟩
    rw [List.filter_cons_of_neg (by simp [hkey])]
    exact .nil
  · refine ⟨⟨[res.entry], dbNow, hrec, ?_⟩, honly⟩
    rw [List.filter_cons_of_pos (by simp [hkey])]
    exact .cons hwrote .nil

theorem appendBatch_posted {account account' : BankrollAccount} {inputs : List AppendInput}
    {dbNow : Int} {db db' : Database} {res : List AppendResult} (ha : account ∈ db.accounts)
    (h : appendBatch account inputs dbNow db = .ok ((res, account'), db')) :
    Posted db account inputs account' db' ∧ LedgerOnly db db' := by
  obtain ⟨rows, hrec, honly, hwrote⟩ := appendBatch_records ha h
  exact ⟨⟨rows, dbNow, hrec, hwrote⟩, honly⟩

theorem Records.congr {db db' x x' : Database} {account account' : BankrollAccount}
    {rows : List BankrollLedgerEntry} (h : Records db account rows account' db')
    (ha : x.accounts = db.accounts) (he : x.entries = db.entries)
    (ha' : x'.accounts = db'.accounts) (he' : x'.entries = db'.entries) :
    Records x account rows account' x' := by
  obtain ⟨h₁, h₂, h₃, h₄, h₅, h₆, h₇, h₈⟩ := h
  refine ⟨?_, ?_, h₃, h₄, h₅, h₆, h₇, h₈⟩
  · rw [he', he, h₁]
  · rw [ha', ha, h₂]

theorem entry?_congr {db x : Database} (he : x.entries = db.entries) (key : String) :
    x.entry? key = db.entry? key := by
  rw [Database.entry?, Database.entry?, he]

theorem Posted.congr {db db' x x' : Database} {account account' : BankrollAccount}
    {inputs : List AppendInput} (h : Posted db account inputs account' db')
    (ha : x.accounts = db.accounts) (he : x.entries = db.entries)
    (ha' : x'.accounts = db'.accounts) (he' : x'.entries = db'.entries) :
    Posted x account inputs account' x' := by
  obtain ⟨rows, dbNow, hrec, hwrote⟩ := h
  refine ⟨rows, dbNow, hrec.congr ha he ha' he', ?_⟩
  rw [List.filter_congr fun input _ => by rw [entry?_congr he]]
  exact hwrote

end ApiScore
