import ApiScore.Execution.LedgerWrites

/-!
# The history of an account

Any sequence of ledger calls, each in its own transaction: accounts are opened, entries are appended
one at a time or in batches, requests are replayed, refused or in conflict.  Between two calls the
other tables may change in any way.

* `AccountSound`, `LedgersSound` — what the ledger keeps true of an account and of all of them.
* `LedgerMove` — the three things a ledger call is made of; `LedgerRun.moves` breaks a run into them.
* `LedgersSound.move` — each of them keeps every account sound.
* `ledger_history` — what a reader of an account sees after any sequence of calls.
-/

set_option autoImplicit false

namespace ApiScore

open Relational

/-! ## Sound accounts -/

/-- The account is the state after the last of its entries, which form a chain from nothing.
An account is created with version 1. -/
structure AccountSound (db : Database) (account : BankrollAccount) : Prop where
  chain : Journal.Chain ledgerJournal (0, 0) 1 (db.entriesOf account.id)
  totals : account.totals = Journal.total ledgerJournal (0, 0) (db.entriesOf account.id)
  version : account.version = 1 + (db.entriesOf account.id).length

structure LedgersSound (db : Database) : Prop where
  accounts : ∀ account ∈ db.accounts, AccountSound db account
  /-- Every entry is of an account. -/
  owned : ∀ e ∈ db.entries, ∃ account ∈ db.accounts, account.id = e.accountId

/-- Soundness is about the accounts and the entries only. -/
theorem LedgersSound.congr {db db' : Database} (h : LedgersSound db)
    (ha : db'.accounts = db.accounts) (he : db'.entries = db.entries) : LedgersSound db' := by
  have hes : ∀ id, db'.entriesOf id = db.entriesOf id := fun id => by
    rw [Database.entriesOf, Database.entriesOf, he]
  refine ⟨fun account hmem => ?_, fun e hmem => ?_⟩
  · rw [ha] at hmem
    obtain ⟨h₁, h₂, h₃⟩ := h.accounts account hmem
    exact ⟨hes account.id ▸ h₁, hes account.id ▸ h₂, hes account.id ▸ h₃⟩
  · rw [he] at hmem
    rw [ha]
    exact h.owned e hmem

theorem LedgersSound.of_empty {db : Database} (ha : db.accounts = .empty)
    (he : db.entries = .empty) : LedgersSound db where
  accounts := by simp [ha]
  owned := by simp [he]

/-! ## Rows after a recording -/

section Records

variable {db db' : Database} {account account' : BankrollAccount}
  {rows : List BankrollLedgerEntry}

theorem Records.id_eq (h : Records db account rows account' db') : account'.id = account.id := by
  obtain ⟨b, v, hb⟩ := h.identity
  rw [hb, BankrollAccount.withBalances_id]

theorem Records.entriesOf_self (h : Records db account rows account' db') :
    db'.entriesOf account.id = db.entriesOf account.id ++ rows := by
  rw [Database.entriesOf, Table.select, h.entries, List.filter_append, Database.entriesOf,
    Table.select]
  congr 1
  rw [List.filter_eq_self]
  intro e he
  rw [h.owner e he, beq_self_eq_true]

theorem Records.entriesOf_other (h : Records db account rows account' db') {id : String}
    (hid : id ≠ account.id) : db'.entriesOf id = db.entriesOf id := by
  rw [Database.entriesOf, Table.select, h.entries, List.filter_append, Database.entriesOf,
    Table.select, List.append_right_eq_self, List.filter_eq_nil_iff]
  intro e he
  rw [h.owner e he, beq_iff_eq]
  exact Ne.symm hid

theorem Records.mem_accounts (h : Records db account rows account' db') {a : BankrollAccount} :
    a ∈ db'.accounts ↔ ∃ x ∈ db.accounts, (if x = account then account' else x) = a := by
  rw [Table.mem_def, h.accounts, List.mem_map]
  rfl

theorem Records.mem_entries (h : Records db account rows account' db') {e : BankrollLedgerEntry} :
    e ∈ db'.entries ↔ e ∈ db.entries ∨ e ∈ rows := by
  rw [Table.mem_def, h.entries, List.mem_append]
  rfl

/-- The account is in the table after a recording, in its new state. -/
theorem Records.mem_self (h : Records db account rows account' db') (ha : account ∈ db.accounts) :
    account' ∈ db'.accounts :=
  h.mem_accounts.2 ⟨account, ha, if_pos rfl⟩

theorem AccountSound.records (hs : AccountSound db account)
    (h : Records db account rows account' db') : AccountSound db' account' := by
  have hid := h.id_eq
  refine ⟨?_, ?_, ?_⟩
  · rw [hid, h.entriesOf_self, Journal.Chain.append_iff, ← hs.totals, ← hs.version]
    exact ⟨hs.chain, h.chain⟩
  · rw [hid, h.entriesOf_self, Journal.total_append, ← hs.totals, h.totals]
  · rw [hid, h.entriesOf_self, List.length_append, h.version, hs.version, add_assoc]

/-- **Recording rows keeps every account sound.** -/
theorem LedgersSound.records (hs : LedgersSound db) (ha : account ∈ db.accounts)
    (h : Records db account rows account' db') : LedgersSound db' := by
  refine ⟨fun a hmem => ?_, fun e hmem => ?_⟩
  · obtain ⟨x, hx, rfl⟩ := h.mem_accounts.1 hmem
    by_cases hxa : x = account
    · rw [if_pos hxa]
      exact (hs.accounts account ha).records h
    · rw [if_neg hxa]
      have hne : x.id ≠ account.id := fun hid => hxa (account_eq_of_id hx ha hid)
      obtain ⟨h₁, h₂, h₃⟩ := hs.accounts x hx
      have hes := h.entriesOf_other hne
      exact ⟨hes ▸ h₁, hes ▸ h₂, hes ▸ h₃⟩
  · rcases h.mem_entries.1 hmem with he | he
    · obtain ⟨x, hx, hid⟩ := hs.owned e he
      by_cases hxa : x = account
      · exact ⟨account', h.mem_self ha, by rw [h.id_eq, ← hid, hxa]⟩
      · exact ⟨x, h.mem_accounts.2 ⟨x, hx, if_neg hxa⟩, hid⟩
    · exact ⟨account', h.mem_self ha, by rw [h.id_eq, h.owner e he]⟩

end Records

/-! ## Calls -/

/-- One write on a locked account. -/
inductive LedgerWrite
  | append (input : AppendInput)
  | appendBatch (inputs : List AppendInput)

def LedgerWrite.run (account : BankrollAccount) (dbNow : Int) :
    LedgerWrite → DbTx BankrollAccount
  | .append input => do
    let (_, account) ← ApiScore.append account input dbNow
    return account
  | .appendBatch inputs => do
    let (_, account) ← ApiScore.appendBatch account inputs dbNow
    return account

/-- The writes of one transaction, on the account it has locked. -/
def runWrites (dbNow : Int) : BankrollAccount → List LedgerWrite → DbTx Unit
  | _, [] => return ()
  | account, w :: ws => do
    let account ← w.run account dbNow
    runWrites dbNow account ws

/-- A call of the ledger by a caller that gives it a transaction of its own. -/
inductive LedgerCall
  | openAccount (input : OpenAccountInput) (id : String)
  | transaction (accountId : String) (writes : List LedgerWrite)

def LedgerCall.body (dbNow : Int) : LedgerCall → DbTx Unit
  | .openAccount input id => do
    let _ ← ApiScore.openAccount input id dbNow
  | .transaction accountId writes => do
    let account ← lockAccount accountId
    runWrites dbNow account writes

/-- The outcome of a call and the database it leaves. -/
def LedgerCall.run (call : LedgerCall) (dbNow : Int) (db : Database) :
    Except TxError Unit × Database :=
  Tx.commit (call.body dbNow) db

/-- A sequence of ledger calls leads from one database to the other. -/
inductive LedgerRun : Database → Database → Prop
  | refl (db : Database) : LedgerRun db db
  | call {db db' : Database} (call : LedgerCall) (dbNow : Int) (h : LedgerRun db db') :
      LedgerRun db (call.run dbNow db').2
  | other {db db' db'' : Database} (ha : db''.accounts = db'.accounts)
      (he : db''.entries = db'.entries) (h : LedgerRun db db') : LedgerRun db db''

/-- What a sequence of ledger calls leads to from a database without accounts and entries. -/
def LedgerHistory (db : Database) : Prop :=
  ∃ db₀, db₀.accounts = .empty ∧ db₀.entries = .empty ∧ LedgerRun db₀ db

/-! ## What a call is made of -/

/-- A new account without entries, rows recorded on an account, or a change to other tables. -/
inductive LedgerMove : Database → Database → Prop
  | insertAccount {db : Database} {t : Table accountSchema} {a : BankrollAccount}
      (ht : db.accounts.insert? a = some t) (hb : a.totals = (0, 0)) (hv : a.version = 1) :
      LedgerMove db { db with accounts := t }
  | records {db db' : Database} {account account' : BankrollAccount}
      {rows : List BankrollLedgerEntry} (ha : account ∈ db.accounts)
      (h : Records db account rows account' db') : LedgerMove db db'
  | other {db db' : Database} (ha : db'.accounts = db.accounts) (he : db'.entries = db.entries) :
      LedgerMove db db'

open Relation (ReflTransGen)

theorem AppendOutcome.records {db db' : Database} {account account' : BankrollAccount}
    {input : AppendInput} {dbNow : Int} {res : AppendResult}
    (h : AppendOutcome db account input dbNow res account' db') :
    ∃ rows, Records db account rows account' db' := by
  rcases h with ⟨effect, hkey, heffect, hsame, hreplayed, rfl, rfl⟩ | ⟨hkey, hwrote, hrep, hrec, -⟩
  · exact ⟨[], .refl _ _⟩
  · exact ⟨_, hrec⟩

theorem LedgerWrite.run_records {account account' : BankrollAccount} {dbNow : Int}
    {w : LedgerWrite} {db db' : Database} (ha : account ∈ db.accounts)
    (h : w.run account dbNow db = .ok (account', db')) :
    ∃ rows, Records db account rows account' db' := by
  cases w with
  | append input =>
    rw [LedgerWrite.run, Tx.bind_eq_ok] at h
    obtain ⟨⟨res, a⟩, s, happ, h⟩ := h
    cases Tx.pure_eq_ok.1 h
    exact (append_spec ha happ).records
  | appendBatch inputs =>
    rw [LedgerWrite.run, Tx.bind_eq_ok] at h
    obtain ⟨⟨res, a⟩, s, happ, h⟩ := h
    cases Tx.pure_eq_ok.1 h
    obtain ⟨rows, hrec, -, -⟩ := appendBatch_records ha happ
    exact ⟨rows, hrec⟩

theorem runWrites_moves {dbNow : Int} {ws : List LedgerWrite} {account : BankrollAccount}
    {db db' : Database} {u : Unit} (ha : account ∈ db.accounts)
    (h : runWrites dbNow account ws db = .ok (u, db')) : ReflTransGen LedgerMove db db' := by
  induction ws generalizing account db with
  | nil =>
    cases Tx.pure_eq_ok.1 h
    exact .refl
  | cons w ws ih =>
    rw [runWrites, Tx.bind_eq_ok] at h
    obtain ⟨a, s, hw, h⟩ := h
    obtain ⟨rows, hrec⟩ := w.run_records ha hw
    exact .head (.records ha hrec) (ih (hrec.mem_self ha) h)

/-- What `openAccount` does when it returns: a new account, and its first entry. -/
theorem openAccount_spec {input : OpenAccountInput} {id : String} {dbNow : Int}
    {db db' : Database} {a : BankrollAccount}
    (h : openAccount input id dbNow db = .ok (a, db')) :
    ∃ new t created res account',
      db.accounts.insert? new = some t ∧ new.totals = (0, 0) ∧ new.version = 1 ∧
      created ∈ t ∧
      AppendOutcome { db with accounts := t } created
        { type := .adjustment, entryKey := "open:" ++ created.id,
          movement := { adjustmentCents := (toCents input.initialBalance).map JsNumber.int } }
        dbNow res account' db' := by
  rw [openAccount, Tx.bind_eq_ok] at h
  obtain ⟨cents, s, hcents, h⟩ := h
  obtain ⟨c, hc, heq⟩ := DbTx.get!_eq_ok.1 hcents
  obtain ⟨rfl, rfl⟩ := Prod.mk.inj heq
  rw [Tx.ite_eq_ok] at h
  rcases h with ⟨-, h⟩ | ⟨-, h⟩
  · exact (DbTx.fail_bind_eq_ok.1 h).elim
  rw [Tx.bind_eq_ok] at h
  obtain ⟨existing, s, hread, h⟩ := h
  obtain ⟨rfl, rfl⟩ := Prod.mk.inj (DbTx.read_eq_ok.1 hread)
  rw [Tx.ite_eq_ok] at h
  rcases h with ⟨-, h⟩ | ⟨-, h⟩
  · exact (DbTx.fail_bind_eq_ok.1 h).elim
  simp only [Tx.bind_eq_ok, DbTx.write_eq_ok, DbTx.read_eq_ok] at h
  obtain ⟨_, s₁, hins, o, s₂, hread, created, s₃, hget, ⟨res, account'⟩, s₄, happ, o', s₅, hread',
    h⟩ := h
  obtain ⟨t, ht, rfl⟩ := Option.map_eq_some_iff.1 hins
  obtain ⟨rfl, rfl⟩ := Prod.mk.inj hread
  obtain ⟨x, hx, heq⟩ := DbTx.get!_eq_ok.1 hget
  obtain ⟨rfl, rfl⟩ := Prod.mk.inj heq
  have hmem := Table.mem_of_find? hx
  obtain ⟨rfl, rfl⟩ := Prod.mk.inj hread'
  obtain ⟨y, -, heq⟩ := DbTx.get!_eq_ok.1 h
  obtain ⟨rfl, rfl⟩ := Prod.mk.inj heq
  refine ⟨_, t, created, res, account', ht, rfl, rfl, hmem, ?_⟩
  rw [hc]
  exact append_spec hmem happ

theorem LedgerCall.run_moves (call : LedgerCall) (dbNow : Int) (db : Database) :
    ReflTransGen LedgerMove db (call.run dbNow db).2 := by
  rcases Tx.commit_cases (m := call.body dbNow) (s := db) rfl with ⟨u, -, h⟩ | ⟨e, -, h⟩
  · change call.body dbNow db = .ok (u, (call.run dbNow db).2) at h
    cases call with
    | openAccount input id =>
      rw [LedgerCall.body, Tx.bind_eq_ok] at h
      obtain ⟨a, s, hopen, h⟩ := h
      obtain ⟨-, hdb⟩ := Prod.mk.inj (Tx.pure_eq_ok.1 h)
      rw [hdb]
      obtain ⟨new, t, created, res, account', ht, hb, hv, hmem, happ⟩ := openAccount_spec hopen
      obtain ⟨rows, hrec⟩ := happ.records
      exact .head (.insertAccount ht hb hv) (.single (.records hmem hrec))
    | transaction accountId writes =>
      rw [LedgerCall.body, Tx.bind_eq_ok] at h
      obtain ⟨account, s, hlock, h⟩ := h
      obtain ⟨rfl, ha, -⟩ := lockAccount_spec hlock
      exact runWrites_moves ha h
  · rw [LedgerCall.run]
    exact h.symm ▸ .refl

/-- **A run of ledger calls is a run of moves.** -/
theorem LedgerRun.moves {db db' : Database} (h : LedgerRun db db') :
    ReflTransGen LedgerMove db db' := by
  induction h with
  | refl => exact .refl
  | call c dbNow _ ih => exact ih.trans (c.run_moves dbNow _)
  | other ha he _ ih => exact ih.tail (.other ha he)

/-! ## Moves keep every account sound -/

/-- A new account without entries is sound. -/
theorem LedgersSound.insertAccount {db : Database} {t : Table accountSchema}
    {a : BankrollAccount} (hs : LedgersSound db) (ht : db.accounts.insert? a = some t)
    (hb : a.totals = (0, 0)) (hv : a.version = 1) : LedgersSound { db with accounts := t } := by
  have hnone : db.entriesOf a.id = [] := by
    -- an entry of this account would be of an account that was there before
    rw [List.eq_nil_iff_forall_not_mem]
    intro e he
    obtain ⟨hmem, hid⟩ := mem_entriesOf.1 he
    obtain ⟨x, hx, hxid⟩ := hs.owned e hmem
    have hd := t.distinct
    rw [Table.rows_insert? ht, List.pairwise_append] at hd
    have hc := hd.2.2 x hx a (List.mem_singleton_self a)
    rw [hid] at hxid
    simp [accountSchema, hxid] at hc
  refine ⟨fun x hx => ?_, fun e he => ?_⟩
  · rcases (Table.mem_insert? ht).1 hx with hx | rfl
    · obtain ⟨h₁, h₂, h₃⟩ := hs.accounts x hx
      exact ⟨h₁, h₂, h₃⟩
    · refine ⟨?_, ?_, ?_⟩
      · rw [show Database.entriesOf { db with accounts := t } x.id = [] from hnone]
        trivial
      · rw [show Database.entriesOf { db with accounts := t } x.id = [] from hnone, hb,
          Journal.total_nil]
      · rw [show Database.entriesOf { db with accounts := t } x.id = [] from hnone, hv]
        rfl
  · obtain ⟨x, hx, hid⟩ := hs.owned e he
    exact ⟨x, (Table.mem_insert? ht).2 (.inl hx), hid⟩

theorem LedgersSound.move {db db' : Database} (hs : LedgersSound db) (h : LedgerMove db db') :
    LedgersSound db' := by
  rcases h with ⟨ht, hb, hv⟩ | ⟨ha, hrec⟩ | ⟨ha, he⟩
  · exact hs.insertAccount ht hb hv
  · exact hs.records ha hrec
  · exact hs.congr ha he

theorem LedgersSound.moves {db db' : Database} (hs : LedgersSound db)
    (h : ReflTransGen LedgerMove db db') : LedgersSound db' := by
  induction h with
  | refl => exact hs
  | tail _ hmove ih => exact ih.move hmove

theorem LedgerHistory.sound {db : Database} (h : LedgerHistory db) : LedgersSound db := by
  obtain ⟨db₀, ha, he, hrun⟩ := h
  exact (LedgersSound.of_empty ha he).moves hrun.moves

/-! ## What a sound account shows -/

section Sound

variable {db : Database} {account : BankrollAccount}

theorem AccountSound.balances_eq_sum (h : AccountSound db account) :
    account.balances = db.ledgerSum account.id := by
  have ht := h.totals
  rw [total_ledgerJournal] at ht
  obtain ⟨h₁, h₂⟩ := Prod.mk.inj ht
  rw [BankrollAccount.balances, h₁, h₂, Database.ledgerSum, zero_add, zero_add]

theorem AccountSound.balances_eq_last (h : AccountSound db account) {e : BankrollLedgerEntry}
    (he : (db.entriesOf account.id).getLast? = some e) :
    account.balances = e.balancesAfter ∧ e.accountVersion = account.version := by
  obtain ⟨ha, hv⟩ := h.chain.after_last he
  rw [← h.totals] at ha
  obtain ⟨h₁, h₂⟩ := Prod.mk.inj ha
  refine ⟨?_, ?_⟩
  · rw [BankrollLedgerEntry.balancesAfter, h₁, h₂, BankrollAccount.balances]
  · rw [h.version]
    exact hv

/-- **The reads of `verifyInvariant` agree on a sound account.** -/
theorem AccountSound.verifyInvariant (h : AccountSound db account) (ha : account ∈ db.accounts) :
    ∃ report, verifyInvariant db account.id = some report ∧ report.ok = true := by
  rw [ApiScore.verifyInvariant, verifyInvariantAt, account?_of_mem ha]
  refine ⟨_, rfl, ?_⟩
  have hlast : db.lastEntry? account.id = (db.entriesOf account.id).getLast? :=
    h.chain.argmax_version
  rw [hlast, ← h.balances_eq_sum]
  simp only [invariantReport]
  cases hl : (db.entriesOf account.id).getLast? with
  | none => simp
  | some e =>
    obtain ⟨h₁, h₂⟩ := h.balances_eq_last hl
    simp [h₁, h₂]

end Sound

/-- A key of the table selects exactly the entry that has it. -/
theorem select_entryKey {db : Database} {e : BankrollLedgerEntry} (he : e ∈ db.entries) :
    db.entries.select (fun x => x.entryKey == e.entryKey) = [e] :=
  Table.select_of_mem he (by simp) fun x _ hx => by
    simp only [beq_iff_eq] at hx
    simp [entrySchema, hx]

theorem select_entryKey_of_eq {db : Database} {e : BankrollLedgerEntry} {key : String}
    (he : e ∈ db.entries) (hkey : e.entryKey = key) :
    db.entries.select (fun x => x.entryKey == key) = [e] := by
  rw [← hkey]
  exact select_entryKey he

/-- The entry an accepted request is answered with is in the table. -/
theorem AppendOutcome.mem_entry {db db' : Database} {account account' : BankrollAccount}
    {input : AppendInput} {dbNow : Int} {res : AppendResult}
    (h : AppendOutcome db account input dbNow res account' db') :
    res.entry ∈ db'.entries ∧ res.entry.entryKey = input.entryKey := by
  rcases h with ⟨effect, hkey, heffect, hsame, hreplayed, rfl, rfl⟩ | ⟨hkey, hwrote, hrep, hrec, -⟩
  · exact entry?_eq_some hkey
  · exact ⟨hrec.mem_entries.2 (.inr (List.mem_singleton_self _)), hwrote.entryKey⟩

theorem appendBatch_mem_entry {account account' : BankrollAccount} {inputs : List AppendInput}
    {dbNow : Int} {db db' : Database} {res : List AppendResult} (ha : account ∈ db.accounts)
    (h : appendBatch account inputs dbNow db = .ok ((res, account'), db')) {input : AppendInput}
    (hi : input ∈ inputs) : ∃ e ∈ db'.entries, e.entryKey = input.entryKey := by
  obtain ⟨rows, hrec, -, hwrote⟩ := appendBatch_records ha h
  cases hk : db.entry? input.entryKey with
  | some e =>
    obtain ⟨he, hkey⟩ := entry?_eq_some hk
    exact ⟨e, hrec.mem_entries.2 (.inl he), hkey⟩
  | none =>
    have hnew : input ∈ inputs.filter fun input => (db.entry? input.entryKey).isNone := by
      rw [List.mem_filter]
      exact ⟨hi, by rw [hk, Option.isNone_none]⟩
    obtain ⟨e, he, hw⟩ := exists_wrote hwrote hnew
    exact ⟨e, hrec.mem_entries.2 (.inr he), hw.entryKey⟩

/-- **The history of an account.**  After any sequence of ledger calls: the balances of an account
are the sums of its entries and the balances recorded by the last of them; its entries carry the
versions from 2 to its own; no prefix of its history is negative; every key has one entry, and a
request that was accepted has left one; `verifyInvariant` reports no mismatch; and a call that
fails changes nothing. -/
theorem ledger_history {db : Database} (h : LedgerHistory db) :
    (∀ account ∈ db.accounts,
      account.balances = db.ledgerSum account.id ∧
      (∀ e, (db.entriesOf account.id).getLast? = some e → account.balances = e.balancesAfter) ∧
      ((db.entriesOf account.id).map (·.accountVersion)
          = List.range' 2 (db.entriesOf account.id).length ∧
        account.version = (db.entriesOf account.id).length + 1) ∧
      (∀ prior, prior <+: db.entriesOf account.id →
        0 ≤ (prior.map (·.amount)).sum ∧ 0 ≤ (prior.map (·.reservedDelta)).sum) ∧
      (∃ report, verifyInvariant db account.id = some report ∧ report.ok = true)) ∧
    (∀ e ∈ db.entries, db.entries.select (fun x => x.entryKey == e.entryKey) = [e]) ∧
    (∀ account ∈ db.accounts, ∀ input dbNow res account' db',
      append account input dbNow db = .ok ((res, account'), db') →
        db'.entries.select (fun x => x.entryKey == input.entryKey) = [res.entry]) ∧
    (∀ account ∈ db.accounts, ∀ inputs dbNow res account' db',
      appendBatch account inputs dbNow db = .ok ((res, account'), db') →
        ∀ input ∈ inputs, ∃ e,
          db'.entries.select (fun x => x.entryKey == input.entryKey) = [e]) ∧
    (∀ (call : LedgerCall) dbNow error db', call.run dbNow db = (.error error, db') → db' = db) := by
  have hs := h.sound
  refine ⟨fun account ha => ?_, fun e he => select_entryKey he, ?_, ?_, ?_⟩
  · have hsound := hs.accounts account ha
    refine ⟨hsound.balances_eq_sum, fun e he => (hsound.balances_eq_last he).1,
      ⟨hsound.chain.versions, ?_⟩, fun prior hp => ?_, hsound.verifyInvariant ha⟩
    · rw [hsound.version, add_comm]
    · have hn := hsound.chain.nonneg_prefix le_rfl hp
      rw [total_ledgerJournal] at hn
      exact ⟨by simpa using hn.1, by simpa using hn.2⟩
  · intro account ha input dbNow res account' db' happ
    obtain ⟨hmem, hkey⟩ := (append_spec ha happ).mem_entry
    exact select_entryKey_of_eq hmem hkey
  · intro account ha inputs dbNow res account' db' happ input hi
    obtain ⟨e, hmem, hkey⟩ := appendBatch_mem_entry ha happ hi
    exact ⟨e, select_entryKey_of_eq hmem hkey⟩
  · intro call dbNow error db' hrun
    exact Tx.commit_error hrun

/-- The database after an account has been opened with 100.00. -/
def openedAccount : Database :=
  ((LedgerCall.openAccount ⟨.sandbox, "book", "EUR", "100.00"⟩ "A").run 0
    (Database.migrated "C")).2

theorem ledger_history_openedAccount :
    (openedAccount.accounts.rows.map fun a => (a.id, a.availableBalance, a.version))
      = [("A", 10000, 2)] ∧
    ∃ report, verifyInvariant openedAccount "A" = some report ∧ report.ok = true := by
  have hrows : (openedAccount.accounts.rows.map fun a => (a.id, a.availableBalance, a.version))
      = [("A", 10000, 2)] := by decide +kernel
  have hids : "A" ∈ openedAccount.accounts.rows.map (·.id) := by decide +kernel
  obtain ⟨a, ha, hid⟩ := List.mem_map.1 hids
  refine ⟨hrows, ?_⟩
  have h := (ledger_history ⟨Database.migrated "C", rfl, rfl,
    .call (.openAccount ⟨.sandbox, "book", "EUR", "100.00"⟩ "A") 0 (.refl _)⟩).1 a ha
  rw [← hid]
  exact h.2.2.2.2

end ApiScore
