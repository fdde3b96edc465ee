import ApiScore.Execution.LedgerHistory

/-!
# A batch of movements is their sequence

`appendBatch` looks all keys up at once, threads the balances and the version through the list in
memory, and writes the new entries and the account in one statement each.  `append`, called for
each request in turn, does all of that one entry at a time.

Both come down to the same two facts: which entries are planned (`Planned`), and what writing them
does to the tables (`Saved`).

* `appendBatch_eq_ok`, `appendEach_eq_ok` — each way of writing, as a plan and its writing.
* `appendBatch_eq_appendEach` — a batch does what the sequence does, and fails when it fails.
-/

set_option autoImplicit false

namespace ApiScore

open Relational

/-- The requests appended one by one, in one transaction, while the clock stands still. -/
def appendEach (account : BankrollAccount) (dbNow : Int) :
    List AppendInput → DbTx (List AppendResult × BankrollAccount)
  | [] => return ([], account)
  | input :: inputs => do
    let (res, account) ← append account input dbNow
    let (rest, account) ← appendEach account dbNow inputs
    return (res :: rest, account)

/-! ## Plans -/

/-- Every amount of the plan is a safe integer. -/
def PlannedEntry.storable (p : PlannedEntry) : Bool :=
  isSafeInteger p.amountCents && isSafeInteger p.reservedDeltaCents &&
    isSafeInteger p.availableAfterCents && isSafeInteger p.reservedAfterCents

/-- The row of a planned entry. -/
def PlannedEntry.row (p : PlannedEntry) (accountId currency : String) (input : AppendInput)
    (version : Nat) (dbNow : Int) : BankrollLedgerEntry where
  accountId := accountId
  orderId := input.orderId
  entryKey := input.entryKey
  entryType := input.type
  amount := p.amountCents
  reservedDelta := p.reservedDeltaCents
  availableAfter := p.availableAfterCents
  reservedAfter := p.reservedAfterCents
  currency := currency
  accountVersion := version
  createdAt := dbNow

def PlannedEntry.balancesAfter (p : PlannedEntry) : Balances :=
  ⟨p.availableAfterCents, p.reservedAfterCents⟩

theorem storeCents_eq_ok {n m : Int} {db db' : Database} :
    storeCents n db = .ok (m, db') ↔ isSafeInteger n = true ∧ m = n ∧ db' = db := by
  rw [storeCents, Tx.ite_eq_ok, Tx.pure_eq_ok, DbTx.fail_eq_ok, Prod.mk.injEq]
  simp

theorem entryRow_eq_ok {account : BankrollAccount} {input : AppendInput} {planned : PlannedEntry}
    {version : Nat} {dbNow : Int} {db db' : Database} {e : BankrollLedgerEntry} :
    entryRow account input planned version dbNow db = .ok (e, db') ↔
      planned.storable = true ∧ e = planned.row account.id account.currency input version dbNow ∧
        db' = db := by
  simp only [entryRow, Tx.bind_eq_ok, storeCents_eq_ok, Tx.pure_eq_ok, Prod.mk.injEq,
    PlannedEntry.storable, Bool.and_eq_true]
  constructor
  · rintro ⟨_, _, ⟨h₁, rfl, rfl⟩, _, _, ⟨h₂, rfl, rfl⟩, _, _, ⟨h₃, rfl, rfl⟩, _, _,
      ⟨h₄, rfl, rfl⟩, rfl, rfl⟩
    exact ⟨⟨⟨⟨h₁, h₂⟩, h₃⟩, h₄⟩, rfl, rfl⟩
  · rintro ⟨⟨⟨⟨h₁, h₂⟩, h₃⟩, h₄⟩, rfl, rfl⟩
    exact ⟨_, _, ⟨h₁, rfl, rfl⟩, _, _, ⟨h₂, rfl, rfl⟩, _, _, ⟨h₃, rfl, rfl⟩, _, _,
      ⟨h₄, rfl, rfl⟩, rfl, rfl⟩

/-- The entries that the requests make from the balances `b` and the version `v`, with the balances
and the version after them: a recorded key has the effect that is asked for and makes none. -/
inductive Planned (accountId currency : String) (recorded : String → Option BankrollLedgerEntry)
    (dbNow : Int) : List AppendInput → Balances → Nat → List BankrollLedgerEntry → Balances → Nat →
      Prop
  | nil {b : Balances} {v : Nat} : Planned accountId currency recorded dbNow [] b v [] b v
  | replay {input : AppendInput} {inputs : List AppendInput} {b b' : Balances} {v v' : Nat}
      {rows : List BankrollLedgerEntry} {e : BankrollLedgerEntry} {effect : MovementEffect}
      (hkey : recorded input.entryKey = some e)
      (heffect : movementEffect input.type input.movement = .ok effect)
      (hsame : input.sameAs accountId effect e = true)
      (hrest : Planned accountId currency recorded dbNow inputs b v rows b' v') :
      Planned accountId currency recorded dbNow (input :: inputs) b v rows b' v'
  | write {input : AppendInput} {inputs : List AppendInput} {b b' : Balances} {v v' : Nat}
      {rows : List BankrollLedgerEntry} {planned : PlannedEntry}
      (hkey : recorded input.entryKey = none)
      (hplan : planEntry input.type b input.movement = .ok planned)
      (hstorable : planned.storable = true)
      (hrest : Planned accountId currency recorded dbNow inputs planned.balancesAfter (v + 1) rows
        b' v') :
      Planned accountId currency recorded dbNow (input :: inputs) b v
        (planned.row accountId currency input (v + 1) dbNow :: rows) b' v'

/-- A plan depends only on what is recorded under the keys of its requests. -/
theorem Planned.congr {accountId currency : String}
    {recorded recorded' : String → Option BankrollLedgerEntry} {dbNow : Int}
    {inputs : List AppendInput} {b b' : Balances} {v v' : Nat} {rows : List BankrollLedgerEntry}
    (h : Planned accountId currency recorded dbNow inputs b v rows b' v')
    (heq : ∀ input ∈ inputs, recorded' input.entryKey = recorded input.entryKey) :
    Planned accountId currency recorded' dbNow inputs b v rows b' v' := by
  induction h with
  | nil => exact .nil
  | replay hkey heffect hsame _ ih =>
    exact .replay ((heq _ List.mem_cons_self).trans hkey) heffect hsame
      (ih fun x hx => heq x (List.mem_cons_of_mem _ hx))
  | write hkey hplan hstorable _ ih =>
    exact .write ((heq _ List.mem_cons_self).trans hkey) hplan hstorable
      (ih fun x hx => heq x (List.mem_cons_of_mem _ hx))

/-- A plan without entries leaves the balances and the version as they were. -/
theorem Planned.of_nil {accountId currency : String}
    {recorded : String → Option BankrollLedgerEntry} {dbNow : Int} {inputs : List AppendInput}
    {b b' : Balances} {v v' : Nat} {rows : List BankrollLedgerEntry}
    (h : Planned accountId currency recorded dbNow inputs b v rows b' v') (hrows : rows = []) :
    b' = b ∧ v' = v := by
  induction h with
  | nil => exact ⟨rfl, rfl⟩
  | replay _ _ _ _ ih => exact ih hrows
  | write => cases hrows

/-- **The plan of a batch**: nothing is read or written on the way. -/
theorem planBatch_eq_ok {account : BankrollAccount} {existing : List BankrollLedgerEntry}
    {dbNow : Int} {inputs : List AppendInput} {b b' : Balances} {v v' : Nat}
    {rows : List BankrollLedgerEntry} {db db' : Database} :
    planBatch account existing dbNow inputs b v db = .ok ((rows, b', v'), db') ↔
      Planned account.id account.currency (fun key => existing.find? fun e => e.entryKey == key)
        dbNow inputs b v rows b' v' ∧ db' = db := by
  induction inputs generalizing b v rows with
  | nil =>
    rw [planBatch, Tx.pure_eq_ok]
    constructor
    · intro h
      cases h
      exact ⟨.nil, rfl⟩
    · rintro ⟨hp, rfl⟩
      cases hp
      rfl
  | cons input inputs ih =>
    rw [planBatch]
    cases hf : existing.find? fun e => e.entryKey == input.entryKey with
    | some replay =>
      simp only [Tx.bind_eq_ok, liftRule_eq_ok, Tx.ite_eq_ok, DbTx.fail_eq_ok, and_false, or_false]
      constructor
      · rintro ⟨effect, _, ⟨heffect, rfl⟩, hsame, h⟩
        obtain ⟨hp, hdb⟩ := ih.1 h
        exact ⟨.replay hf heffect hsame hp, hdb⟩
      · rintro ⟨hp, rfl⟩
        cases hp with
        | replay hkey heffect hsame hrest =>
          rw [hf, Option.some.injEq] at hkey
          subst hkey
          exact ⟨_, _, ⟨heffect, rfl⟩, hsame, ih.2 ⟨hrest, rfl⟩⟩
        | write hkey =>
          rw [hf] at hkey
          cases hkey
    | none =>
      simp only [Tx.bind_eq_ok, liftRule_eq_ok, entryRow_eq_ok, Tx.pure_eq_ok]
      constructor
      · rintro ⟨planned, _, ⟨hplan, rfl⟩, row, _, ⟨hstorable, rfl, rfl⟩, ⟨rest, b₁, v₁⟩, s, h, heq⟩
        cases heq
        obtain ⟨hp, hdb⟩ := ih.1 h
        exact ⟨.write hf hplan hstorable hp, hdb⟩
      · rintro ⟨hp, rfl⟩
        cases hp with
        | replay hkey =>
          rw [hf] at hkey
          cases hkey
        | write hkey hplan hstorable hrest =>
          exact ⟨_, _, ⟨hplan, rfl⟩, _, _, ⟨hstorable, rfl, rfl⟩, (_, _, _), _, ih.2 ⟨hrest, rfl⟩, rfl⟩

/-! ## Writing a plan -/

/-- From `db` to `db'` the rows were added to the entries, and the row of `account` was given the
balances `b` and the version `v`. -/
structure Saved (db : Database) (account : BankrollAccount) (rows : List BankrollLedgerEntry)
    (b : Balances) (v : Nat) (account' : BankrollAccount) (db' : Database) : Prop where
  references : ∀ e ∈ rows, db.entryReferences e = true
  saved : account' = account.withBalances b v
  only : LedgerOnly db db'
  entries : db'.entries.rows = db.entries.rows ++ rows
  accounts : db'.accounts.rows = db.accounts.rows.map fun a => if a = account then account' else a

theorem LedgerOnly.trans {db db' db'' : Database} (h : LedgerOnly db db')
    (h' : LedgerOnly db' db'') : LedgerOnly db db'' := by
  rw [LedgerOnly] at h h' ⊢
  rw [h', h]

/-- Two databases that differ in their ledgers only are the same where these agree. -/
theorem LedgerOnly.eq {db x y : Database} (hx : LedgerOnly db x) (hy : LedgerOnly db y)
    (haccounts : x.accounts.rows = y.accounts.rows) (hentries : x.entries.rows = y.entries.rows) :
    x = y := by
  rw [LedgerOnly] at hx hy
  rw [hx, hy, Table.ext haccounts, Table.ext hentries]

/-- The rows of an entry refer to the same rows while accounts only change their balances. -/
theorem entryReferences_congr {db x : Database} (horders : x.orders = db.orders)
    (hids : x.accounts.rows.map (·.id) = db.accounts.rows.map (·.id)) (e : BankrollLedgerEntry) :
    x.entryReferences e = db.entryReferences e := by
  have hiff : ∀ y : Database, (y.account? e.accountId).isSome = true ↔
      e.accountId ∈ y.accounts.rows.map (·.id) := by
    intro y
    rw [Database.account?, Table.find?_isSome_iff, List.mem_map]
    constructor
    · rintro ⟨a, ha, hid⟩
      exact ⟨a, ha, beq_iff_eq.1 hid⟩
    · rintro ⟨a, ha, hid⟩
      exact ⟨a, ha, beq_iff_eq.2 hid⟩
  have haccount : (x.account? e.accountId).isSome = (db.account? e.accountId).isSome :=
    Bool.eq_iff_iff.2 (by rw [hiff, hiff, hids])
  rw [Database.entryReferences, Database.entryReferences, haccount]
  simp only [Database.order?, horders]

theorem ids_rewrite {rows : List BankrollAccount} {account account' : BankrollAccount}
    (hid : account'.id = account.id) :
    (rows.map fun a => if a = account then account' else a).map (·.id) = rows.map (·.id) := by
  rw [List.map_map]
  refine List.map_congr_left fun a _ => ?_
  by_cases ha : a = account
  · simp [ha, hid]
  · simp [ha]

theorem insertEntry_eq_ok {e : BankrollLedgerEntry} {db db' : Database} {u : Unit} :
    insertEntry e db = .ok (u, db') ↔ db.entryReferences e = true ∧
      db' = { db with entries := db'.entries } ∧ db'.entries.rows = db.entries.rows ++ [e] := by
  constructor
  · intro h
    obtain ⟨href, t, ht, rfl⟩ := insertEntry_spec h
    exact ⟨href, rfl, Table.rows_insert? ht⟩
  · rintro ⟨href, hdb, hrows⟩
    rw [insertEntry, DbTx.write_eq_ok, if_pos href, Table.insert?_eq_some hrows, Option.map_some,
      Option.some.injEq]
    exact hdb.symm

theorem insertEntries_eq_ok {rows : List BankrollLedgerEntry} {db db' : Database} {u : Unit} :
    insertEntries rows db = .ok (u, db') ↔ (∀ e ∈ rows, db.entryReferences e = true) ∧
      db' = { db with entries := db'.entries } ∧ db'.entries.rows = db.entries.rows ++ rows := by
  induction rows generalizing db with
  | nil =>
    rw [insertEntries, Tx.pure_eq_ok]
    constructor
    · intro h
      cases h
      exact ⟨fun _ he => (List.not_mem_nil he).elim, rfl, (List.append_nil _).symm⟩
    · rintro ⟨-, hdb, hrows⟩
      rw [List.append_nil] at hrows
      rw [hdb, Table.ext hrows]
  | cons row rows ih =>
    rw [insertEntries, Tx.bind_eq_ok]
    constructor
    · rintro ⟨_, s, hrow, h⟩
      obtain ⟨href, hs, hsrows⟩ := insertEntry_eq_ok.1 hrow
      obtain ⟨hrefs, hdb, hrows⟩ := ih.1 h
      have hcongr : ∀ e, s.entryReferences e = db.entryReferences e := by
        intro e
        rw [hs]
        rfl
      refine ⟨fun e he => ?_, ?_, ?_⟩
      · rcases List.mem_cons.1 he with rfl | he
        · exact href
        · rw [← hcongr]
          exact hrefs e he
      · rw [hdb, hs]
      · rw [hrows, hsrows, List.append_assoc, List.singleton_append]
    · rintro ⟨hrefs, hdb, hrows⟩
      -- the rows up to the first new one are a table: they are the beginning of one
      obtain ⟨t, ht⟩ := @Table.exists_of_append _ _ _ (db.entries.rows ++ [row]) rows
        (by rw [hrows, List.append_assoc, List.singleton_append])
      refine ⟨(), { db with entries := t }, insertEntry_eq_ok.2
        ⟨hrefs row List.mem_cons_self, rfl, ht⟩, ih.2 ⟨fun e he => ?_, hdb, ?_⟩⟩
      · exact hrefs e (List.mem_cons_of_mem _ he)
      · rw [hrows, ht, List.append_assoc, List.singleton_append]

theorem saveAccount_eq_ok {account account' : BankrollAccount} {b : Balances} {v : Nat}
    {conflict : String} {db db' : Database} (ha : account ∈ db.accounts) :
    saveAccount account b v conflict db = .ok (account', db') ↔
      account' = account.withBalances b v ∧ db' = { db with accounts := db'.accounts } ∧
        db'.accounts.rows = db.accounts.rows.map fun a => if a = account then account' else a := by
  constructor
  · exact saveAccount_spec ha
  · rintro ⟨rfl, hdb, hrows⟩
    have hselect : (db.accounts.select fun a => a.id == account.id && a.version == account.version)
        = [account] := by
      refine Table.select_of_mem ha (by simp) fun x _ hx => ?_
      rw [Bool.and_eq_true] at hx
      simp [accountSchema, hx.1]
    have hupdate : db.accounts.update? (fun a => a.id == account.id && a.version == account.version)
        (fun a => a.withBalances b v) = some db'.accounts := by
      refine Table.update?_eq_some (hrows.trans (List.map_congr_left fun a hmem => ?_))
      by_cases hid : a = account
      · simp [hid]
      · have hne : ¬ a.id = account.id := fun hid' => hid (account_eq_of_id hmem ha hid')
        simp [hid, hne]
    have hwrite : (db.accounts.update? (fun a => a.id == account.id && a.version == account.version)
        (fun a => a.withBalances b v)).map (fun t => { db with accounts := t }) = some db' := by
      rw [hupdate, Option.map_some, ← hdb]
    simp only [saveAccount, updateAccounts, Tx.bind_eq_ok, DbTx.read_eq_ok, DbTx.write_eq_ok,
      Tx.pure_eq_ok, hselect]
    refine ⟨1, db', ⟨_, _, rfl, (), db', hwrite, rfl⟩, ?_⟩
    rw [if_neg (by simp)]
    rfl

/-- **Writing a plan.** -/
theorem saveBatch_eq_ok {account account' : BankrollAccount} {rows : List BankrollLedgerEntry}
    {b : Balances} {v : Nat} {db db' : Database} (ha : account ∈ db.accounts)
    (hnil : rows = [] → b = account.balances ∧ v = account.version) :
    saveBatch account rows b v db = .ok (account', db') ↔ Saved db account rows b v account' db' := by
  rw [saveBatch, Tx.ite_eq_ok]
  by_cases hrows : rows = []
  · obtain ⟨rfl, rfl⟩ := hnil hrows
    subst hrows
    simp only [true_and, not_true_eq_false, false_and, or_false, Tx.pure_eq_ok, Prod.mk.injEq]
    constructor
    · rintro ⟨rfl, rfl⟩
      refine ⟨fun _ he => (List.not_mem_nil he).elim, account'.withBalances_self.symm, .refl _,
        (List.append_nil _).symm, ?_⟩
      exact (Records.refl db' account').accounts
    · rintro ⟨-, hacc, honly, hentries, haccounts⟩
      rw [account.withBalances_self] at hacc
      subst hacc
      refine ⟨rfl, honly.eq (.refl _) ?_ ?_⟩
      · exact haccounts.trans (Records.refl db account').accounts.symm
      · rw [hentries, List.append_nil]
  · simp only [hrows, false_and, not_false_eq_true, true_and, false_or, Tx.bind_eq_ok]
    constructor
    · rintro ⟨_, s, hins, hsave⟩
      obtain ⟨hrefs, hs, hsrows⟩ := insertEntries_eq_ok.1 hins
      have hsacc : s.accounts = db.accounts := by rw [hs]
      obtain ⟨hacc, hdb, haccounts⟩ := (saveAccount_eq_ok (hsacc ▸ ha)).1 hsave
      refine ⟨hrefs, hacc, ?_, ?_, ?_⟩
      · rw [LedgerOnly, hdb, hs]
      · rw [hdb, ← hsrows]
      · rw [haccounts, hsacc]
    · rintro ⟨hrefs, hacc, honly, hentries, haccounts⟩
      refine ⟨(), { db with entries := db'.entries }, insertEntries_eq_ok.2 ⟨hrefs, rfl, hentries⟩,
        (@saveAccount_eq_ok _ _ _ _ _ { db with entries := db'.entries } _ ha).2
          ⟨hacc, honly, haccounts⟩⟩

/-! ## One entry after the other -/

section Saved

variable {db db₁ db' : Database} {account account₁ account' : BankrollAccount}
  {rows rows₁ rows₂ : List BankrollLedgerEntry} {b b₁ : Balances} {v v₁ : Nat}

theorem Saved.mem (ha : account ∈ db.accounts) (h : Saved db account rows b v account' db') :
    account' ∈ db'.accounts := by
  rw [Table.mem_def, h.accounts]
  exact List.mem_map.2 ⟨account, ha, if_pos rfl⟩

/-- Rewriting one row, and then the row it became. -/
theorem map_rewrite_rewrite (ha : account ∈ db.accounts) (hid : account₁.id = account.id) :
    (db.accounts.rows.map fun a => if a = account then account₁ else a).map
        (fun a => if a = account₁ then account' else a)
      = db.accounts.rows.map fun a => if a = account then account' else a := by
  rw [List.map_map]
  refine List.map_congr_left fun a hmem => ?_
  by_cases h : a = account
  · simp [h]
  · have hne : a ≠ account₁ := fun heq => h (account_eq_of_id hmem ha (by rw [heq, hid]))
    simp [h, hne]

theorem Saved.trans (ha : account ∈ db.accounts) (h : Saved db account rows₁ b₁ v₁ account₁ db₁)
    (h' : Saved db₁ account₁ rows₂ b v account' db') :
    Saved db account (rows₁ ++ rows₂) b v account' db' where
  references e he := by
    rcases List.mem_append.1 he with he | he
    · exact h.references e he
    · rw [← entryReferences_congr (x := db₁) (by rw [h.only])
        (by rw [h.accounts]; exact ids_rewrite (by rw [h.saved]; rfl))]
      exact h'.references e he
  saved := by
    rw [h'.saved, h.saved]
    rfl
  only := h.only.trans h'.only
  entries := by rw [h'.entries, h.entries, List.append_assoc]
  accounts := by rw [h'.accounts, h.accounts, map_rewrite_rewrite ha (by rw [h.saved]; rfl)]

/-- An account can be given any balances that its columns can hold. -/
theorem exists_rewritten (hcheck : accountSchema.check (account.withBalances b v) = true) :
    ∃ t : Table accountSchema,
      t.rows = db.accounts.rows.map fun a => if a = account then account.withBalances b v else a := by
  have hclash : ∀ x y : BankrollAccount,
      accountSchema.clash (if x = account then account.withBalances b v else x)
        (if y = account then account.withBalances b v else y) = accountSchema.clash x y := by
    intro x y
    by_cases hx : x = account <;> by_cases hy : y = account <;>
      simp [accountSchema, BankrollAccount.withBalances, hx, hy]
  refine ⟨⟨_, List.pairwise_map.2 (db.accounts.distinct.imp fun h => ?_), fun a ha => ?_⟩, rfl⟩
  · rw [hclash]
    exact h
  · obtain ⟨x, hx, rfl⟩ := List.mem_map.1 ha
    by_cases h : x = account
    · rw [if_pos h]
      exact hcheck
    · rw [if_neg h]
      exact db.accounts.checked x hx

/-- **Rows written together can be written in two parts**, where the account can hold the balances
in between. -/
theorem Saved.split (ha : account ∈ db.accounts)
    (hcheck : accountSchema.check (account.withBalances b₁ v₁) = true)
    (h : Saved db account (rows₁ ++ rows₂) b v account' db') :
    ∃ db₁, Saved db account rows₁ b₁ v₁ (account.withBalances b₁ v₁) db₁ ∧
      Saved db₁ (account.withBalances b₁ v₁) rows₂ b v account' db' := by
  obtain ⟨t, ht⟩ := @exists_rewritten db _ _ _ hcheck
  obtain ⟨u, hu⟩ := @Table.exists_of_append _ _ _ (db.entries.rows ++ rows₁) rows₂
    (by rw [h.entries, List.append_assoc])
  have hids : t.rows.map (·.id) = db.accounts.rows.map (·.id) := by
    rw [ht]
    exact ids_rewrite rfl
  refine ⟨{ db with accounts := t, entries := u }, ⟨fun e he => ?_, rfl, rfl, hu, ht⟩,
    ⟨fun e he => ?_, ?_, ?_, ?_, ?_⟩⟩
  · exact h.references e (List.mem_append_left rows₂ he)
  · refine (@entryReferences_congr db { db with accounts := t, entries := u } rfl hids e).trans ?_
    exact h.references e (List.mem_append_right rows₁ he)
  · rw [h.saved]
    rfl
  · rw [LedgerOnly, h.only]
  · rw [h.entries, hu, List.append_assoc]
  · rw [h.accounts, ht]
    exact (map_rewrite_rewrite ha (account.withBalances_id b₁ v₁)).symm

end Saved

/-- The answer to a request: the entry recorded under its key, and whether it was recorded before. -/
def Answered (db db' : Database) (input : AppendInput) (res : AppendResult) : Prop :=
  db'.entry? input.entryKey = some res.entry ∧
    res.replayed = (db.entry? input.entryKey).isSome

section

variable {db db' : Database} {account account' : BankrollAccount} {dbNow : Int}

/-- The plan of a list is that of its first request, and then that of the others. -/
theorem planned_cons {accountId currency : String}
    {recorded : String → Option BankrollLedgerEntry} {input : AppendInput}
    {inputs : List AppendInput} {b b' : Balances} {v v' : Nat} {rows : List BankrollLedgerEntry} :
    Planned accountId currency recorded dbNow (input :: inputs) b v rows b' v' ↔
      ∃ rows₁ b₁ v₁ rows₂, Planned accountId currency recorded dbNow [input] b v rows₁ b₁ v₁ ∧
        Planned accountId currency recorded dbNow inputs b₁ v₁ rows₂ b' v' ∧
          rows = rows₁ ++ rows₂ := by
  constructor
  · intro h
    cases h with
    | replay hkey heffect hsame hrest =>
      exact ⟨[], b, v, rows, .replay hkey heffect hsame .nil, hrest, rfl⟩
    | @write _ _ _ _ _ _ rows planned hkey hplan hstorable hrest =>
      exact ⟨[_], _, _, rows, .write hkey hplan hstorable .nil, hrest, rfl⟩
  · rintro ⟨rows₁, b₁, v₁, rows₂, h, hrest, rfl⟩
    cases h with
    | replay hkey heffect hsame hnil =>
      cases hnil
      exact .replay hkey heffect hsame hrest
    | write hkey hplan hstorable hnil =>
      cases hnil
      exact .write hkey hplan hstorable hrest

/-- The account can hold the balances after a plan whose entries are in a table. -/
theorem Planned.check {recorded : String → Option BankrollLedgerEntry} {input : AppendInput}
    {rows : List BankrollLedgerEntry} {b : Balances} {v : Nat} {t : Table entrySchema}
    (ha : account ∈ db.accounts)
    (h : Planned account.id account.currency recorded dbNow [input] account.balances account.version
      rows b v) (hrows : ∀ e ∈ rows, e ∈ t) :
    accountSchema.check (account.withBalances b v) = true := by
  cases h with
  | replay _ _ _ hnil =>
    cases hnil
    exact db.accounts.checked account ha
  | write _ _ _ hnil =>
    cases hnil
    have hcheck := t.checked _ (hrows _ List.mem_cons_self)
    simp only [entrySchema, PlannedEntry.row, Bool.and_eq_true] at hcheck
    simp only [accountSchema, BankrollAccount.withBalances, PlannedEntry.balancesAfter,
      Bool.and_eq_true]
    tauto

theorem append_recorded {input : AppendInput} {existing : BankrollLedgerEntry}
    {r : (AppendResult × BankrollAccount) × Database}
    (hkey : db.entry? input.entryKey = some existing) :
    append account input dbNow db = .ok r ↔
      ∃ effect, movementEffect input.type input.movement = .ok effect ∧
        input.sameAs account.id effect existing = true ∧ r = ((⟨existing, true⟩, account), db) := by
  rw [append, Tx.bind_eq_ok]
  constructor
  · rintro ⟨_, _, hfind, h⟩
    obtain ⟨rfl, rfl⟩ := Prod.mk.inj (findEntry_eq_ok.1 hfind)
    simp only [hkey, Tx.bind_eq_ok, liftRule_eq_ok, Tx.ite_eq_ok, DbTx.fail_eq_ok, and_false,
      or_false, Tx.pure_eq_ok] at h
    obtain ⟨effect, _, ⟨heffect, rfl⟩, hsame, heq⟩ := h
    exact ⟨effect, heffect, hsame, heq⟩
  · rintro ⟨effect, heffect, hsame, rfl⟩
    refine ⟨_, _, findEntry_eq_ok.2 rfl, ?_⟩
    simp only [hkey, Tx.bind_eq_ok, liftRule_eq_ok, Tx.ite_eq_ok, DbTx.fail_eq_ok, and_false,
      or_false, Tx.pure_eq_ok]
    exact ⟨effect, db, ⟨heffect, rfl⟩, hsame, rfl⟩

theorem append_unrecorded {input : AppendInput} {res : AppendResult} (ha : account ∈ db.accounts)
    (hkey : db.entry? input.entryKey = none) :
    append account input dbNow db = .ok ((res, account'), db') ↔
      ∃ planned, planEntry input.type account.balances input.movement = .ok planned ∧
        planned.storable = true ∧
        Saved db account [planned.row account.id account.currency input (account.version + 1) dbNow]
          planned.balancesAfter (account.version + 1) account' db' ∧
        res = ⟨planned.row account.id account.currency input (account.version + 1) dbNow, false⟩ := by
  have hone : ∀ {x y : Database} {row : BankrollLedgerEntry} {u : Unit},
      insertEntry row x = .ok (u, y) ↔ insertEntries [row] x = .ok (u, y) := by
    intro x y row u
    rw [insertEntry_eq_ok, insertEntries_eq_ok, List.forall_mem_singleton]
  have hsaved : ∀ {row : BankrollLedgerEntry} {b : Balances} {v : Nat} {conflict : String},
      (∃ u s, insertEntry row db = .ok (u, s) ∧
        saveAccount account b v conflict s = .ok (account', db')) ↔
        Saved db account [row] b v account' db' := by
    intro row b v conflict
    rw [← saveBatch_eq_ok ha (fun h => by cases h), saveBatch, if_neg (List.cons_ne_nil _ _),
      Tx.bind_eq_ok]
    constructor
    · rintro ⟨u, s, hins, hsave⟩
      have hs : s.accounts = db.accounts := by rw [(insertEntry_eq_ok.1 hins).2.1]
      exact ⟨u, s, hone.1 hins,
        (saveAccount_eq_ok (hs ▸ ha)).2 ((saveAccount_eq_ok (hs ▸ ha)).1 hsave)⟩
    · rintro ⟨u, s, hins, hsave⟩
      have hs : s.accounts = db.accounts := by rw [(insertEntries_eq_ok.1 hins).2.1]
      exact ⟨u, s, hone.2 hins,
        (saveAccount_eq_ok (hs ▸ ha)).2 ((saveAccount_eq_ok (hs ▸ ha)).1 hsave)⟩
  -- the entry that is read back is the one that was written
  have hread : ∀ {row : BankrollLedgerEntry} {b : Balances} {v : Nat},
      Saved db account [row] b v account' db' → db'.entry? row.entryKey = some row := by
    intro row b v h
    refine entry?_of_mem ?_
    rw [Table.mem_def, h.entries]
    exact List.mem_append_right _ List.mem_cons_self
  rw [append, Tx.bind_eq_ok]
  constructor
  · rintro ⟨_, _, hfind, h⟩
    obtain ⟨rfl, rfl⟩ := Prod.mk.inj (findEntry_eq_ok.1 hfind)
    simp only [hkey, Tx.bind_eq_ok, liftRule_eq_ok, entryRow_eq_ok] at h
    obtain ⟨planned, _, ⟨hplan, rfl⟩, _, _, ⟨hstorable, rfl, rfl⟩, u, s, hins, saved, s', hsave,
      _, _, hfound, entry, _, hget, hpure⟩ := h
    obtain ⟨rfl, rfl⟩ := Prod.mk.inj (findEntry_eq_ok.1 hfound)
    obtain ⟨e, he, heq⟩ := DbTx.get!_eq_ok.1 hget
    obtain ⟨rfl, rfl⟩ := Prod.mk.inj heq
    cases Tx.pure_eq_ok.1 hpure
    have h := hsaved.1 ⟨u, s, hins, hsave⟩
    refine ⟨planned, hplan, hstorable, h, ?_⟩
    rw [← Option.some.inj ((hread h).symm.trans he)]
  · rintro ⟨planned, hplan, hstorable, h, rfl⟩
    obtain ⟨u, s, hins, hsave⟩ := hsaved.2 h
    refine ⟨_, _, findEntry_eq_ok.2 rfl, ?_⟩
    simp only [hkey, Tx.bind_eq_ok, liftRule_eq_ok, entryRow_eq_ok]
    exact ⟨planned, _, ⟨hplan, rfl⟩, _, _, ⟨hstorable, rfl, rfl⟩, u, s, hins, _, _, hsave, _, _,
      findEntry_eq_ok.2 rfl, _, _, DbTx.get!_eq_ok.2 ⟨_, hread h, rfl⟩, Tx.pure_eq_ok.2 rfl⟩

/-- **`append` is the plan of one request, and its writing.** -/
theorem append_eq_ok {input : AppendInput} {res : AppendResult} (ha : account ∈ db.accounts) :
    append account input dbNow db = .ok ((res, account'), db') ↔
      ∃ rows b v, Planned account.id account.currency db.entry? dbNow [input] account.balances
          account.version rows b v ∧
        Saved db account rows b v account' db' ∧ Answered db db' input res := by
  cases hkey : db.entry? input.entryKey with
  | some existing =>
    rw [append_recorded hkey]
    constructor
    · rintro ⟨effect, heffect, hsame, heq⟩
      cases heq
      refine ⟨[], _, _, .replay hkey heffect hsame .nil, ?_, hkey, by rw [hkey]; rfl⟩
      exact (saveBatch_eq_ok ha fun _ => ⟨rfl, rfl⟩).1 rfl
    · rintro ⟨rows, b, v, hplan, hsaved, hentry, hreplayed⟩
      cases hplan with
      | write hnone =>
        rw [hkey] at hnone
        cases hnone
      | replay hsome heffect hsame hnil =>
        cases hnil
        cases (saveBatch_eq_ok ha fun _ => ⟨rfl, rfl⟩).2 hsaved
        rw [hkey, Option.some.injEq] at hsome hentry
        subst hsome
        rw [hkey, Option.isSome_some] at hreplayed
        exact ⟨_, heffect, hsame, by rw [hentry, ← hreplayed]⟩
  | none =>
    rw [append_unrecorded ha hkey]
    constructor
    · rintro ⟨planned, hplan, hstorable, hsaved, rfl⟩
      refine ⟨_, _, _, .write hkey hplan hstorable .nil, hsaved, ?_, by rw [hkey]; rfl⟩
      refine entry?_of_mem (e := planned.row account.id account.currency input (account.version + 1)
        dbNow) ?_
      rw [Table.mem_def, hsaved.entries]
      exact List.mem_append_right _ List.mem_cons_self
    · rintro ⟨rows, b, v, hplan, hsaved, hentry, hreplayed⟩
      cases hplan with
      | replay hsome =>
        rw [hkey] at hsome
        cases hsome
      | @write _ _ _ _ _ _ _ planned _ hplan hstorable hnil =>
        cases hnil
        refine ⟨planned, hplan, hstorable, hsaved, ?_⟩
        have hread : db'.entry? input.entryKey = some (planned.row account.id account.currency input
            (account.version + 1) dbNow) := by
          refine entry?_of_mem (e := planned.row account.id account.currency input
            (account.version + 1) dbNow) ?_
          rw [Table.mem_def, hsaved.entries]
          exact List.mem_append_right _ List.mem_cons_self
        rw [hkey, Option.isSome_none] at hreplayed
        rw [← Option.some.inj (hentry.symm.trans hread), ← hreplayed]

/-! ## The list -/

/-- Entries under other keys do not change what is recorded under this one. -/
theorem entry?_of_append {rows : List BankrollLedgerEntry}
    (hrows : db'.entries.rows = db.entries.rows ++ rows) {key : String}
    (hne : ∀ e ∈ rows, e.entryKey ≠ key) : db'.entry? key = db.entry? key := by
  have hnone : rows.find? (fun e => e.entryKey == key) = none :=
    List.find?_eq_none.2 fun e he => by simpa using hne e he
  rw [Database.entry?, Table.find?, hrows, List.find?_append, hnone, Option.or_none]
  rfl

/-- What is recorded stays recorded. -/
theorem entry?_kept {rows : List BankrollLedgerEntry}
    (hrows : db'.entries.rows = db.entries.rows ++ rows) {key : String} {e : BankrollLedgerEntry}
    (h : db.entry? key = some e) : db'.entry? key = some e := by
  obtain ⟨hmem, rfl⟩ := entry?_eq_some h
  refine entry?_of_mem ?_
  rw [Table.mem_def, hrows]
  exact List.mem_append_left rows hmem

/-- The entries of a plan for one request have its key. -/
theorem Planned.key {recorded : String → Option BankrollLedgerEntry} {input : AppendInput}
    {accountId currency : String} {rows : List BankrollLedgerEntry} {b b' : Balances} {v v' : Nat}
    (h : Planned accountId currency recorded dbNow [input] b v rows b' v') :
    ∀ e ∈ rows, e.entryKey = input.entryKey := by
  intro e he
  cases h with
  | replay _ _ _ hnil =>
    cases hnil
    cases he
  | write _ _ _ hnil =>
    cases hnil
    rw [List.mem_singleton.1 he]
    rfl

/-- Once its plan is written, the request has its entry. -/
theorem Planned.recorded {accountId currency : String} {input : AppendInput}
    {rows : List BankrollLedgerEntry} {b b' : Balances} {v v' : Nat}
    (h : Planned accountId currency db.entry? dbNow [input] b v rows b' v')
    (hrows : db'.entries.rows = db.entries.rows ++ rows) :
    ∃ e, db'.entry? input.entryKey = some e := by
  cases h with
  | replay hkey => exact ⟨_, entry?_kept hrows hkey⟩
  | write _ _ _ hnil =>
    cases hnil
    have hmem : ∀ e, e ∈ [e] → db'.entries.rows = db.entries.rows ++ [e] → e ∈ db'.entries := by
      intro e he hrows
      rw [Table.mem_def, hrows]
      exact List.mem_append_right _ he
    exact ⟨_, entry?_of_mem (hmem _ List.mem_cons_self hrows)⟩

theorem answers_congr {db₁ : Database} {inputs : List AppendInput} {results : List AppendResult}
    (h : List.Forall₂ (Answered db₁ db') inputs results)
    (heq : ∀ x ∈ inputs, db.entry? x.entryKey = db₁.entry? x.entryKey) :
    List.Forall₂ (Answered db db') inputs results := by
  induction h with
  | nil => exact .nil
  | cons hanswer _ ih =>
    refine .cons ⟨hanswer.1, ?_⟩ (ih fun x hx => heq x (List.mem_cons_of_mem _ hx))
    rw [hanswer.2, heq _ List.mem_cons_self]

/-- **`append`, called for each request in turn, is the plan of the list and its writing.** -/
theorem appendEach_eq_ok {inputs : List AppendInput} {results : List AppendResult}
    (ha : account ∈ db.accounts) (hkeys : (inputs.map (·.entryKey)).Nodup) :
    appendEach account dbNow inputs db = .ok ((results, account'), db') ↔
      ∃ rows b v, Planned account.id account.currency db.entry? dbNow inputs account.balances
          account.version rows b v ∧
        Saved db account rows b v account' db' ∧ List.Forall₂ (Answered db db') inputs results := by
  induction inputs generalizing db account results with
  | nil =>
    rw [appendEach, Tx.pure_eq_ok]
    constructor
    · intro h
      cases h
      exact ⟨[], _, _, .nil, (saveBatch_eq_ok ha fun _ => ⟨rfl, rfl⟩).1 rfl, .nil⟩
    · rintro ⟨rows, b, v, hplan, hsaved, hanswers⟩
      cases hplan
      cases hanswers
      cases (saveBatch_eq_ok ha fun _ => ⟨rfl, rfl⟩).2 hsaved
      rfl
  | cons input inputs ih =>
    rw [List.map_cons, List.nodup_cons] at hkeys
    obtain ⟨hhead, htail⟩ := hkeys
    -- the first request changes nothing that is recorded for the others
    have hother : ∀ {rows₁ : List BankrollLedgerEntry} {b₁ : Balances} {v₁ : Nat} {db₁ : Database},
        Planned account.id account.currency db.entry? dbNow [input] account.balances
          account.version rows₁ b₁ v₁ → db₁.entries.rows = db.entries.rows ++ rows₁ →
        ∀ x ∈ inputs, db₁.entry? x.entryKey = db.entry? x.entryKey := by
      intro rows₁ b₁ v₁ db₁ hplan hrows x hx
      refine entry?_of_append hrows fun e he heq => hhead ?_
      rw [← hplan.key e he, heq]
      exact List.mem_map_of_mem hx
    rw [appendEach, Tx.bind_eq_ok]
    constructor
    · rintro ⟨⟨res, account₁⟩, db₁, happend, h⟩
      obtain ⟨⟨rest, account₂⟩, db₂, hrest, hpure⟩ := Tx.bind_eq_ok.1 h
      cases Tx.pure_eq_ok.1 hpure
      obtain ⟨rows₁, b₁, v₁, hplan₁, hsaved₁, hanswer⟩ := (append_eq_ok ha).1 happend
      obtain ⟨rows₂, b, v, hplan₂, hsaved₂, hanswers⟩ := (ih (hsaved₁.mem ha) htail).1 hrest
      have hrec := hother hplan₁ hsaved₁.entries
      refine ⟨rows₁ ++ rows₂, b, v, planned_cons.2 ⟨rows₁, b₁, v₁, rows₂, hplan₁, ?_, rfl⟩,
        hsaved₁.trans ha hsaved₂, .cons ⟨entry?_kept hsaved₂.entries hanswer.1, hanswer.2⟩ ?_⟩
      · rw [hsaved₁.saved] at hplan₂
        exact hplan₂.congr fun x hx => (hrec x hx).symm
      · exact answers_congr hanswers fun x hx => (hrec x hx).symm
    · rintro ⟨rows, b, v, hplan, hsaved, hanswers⟩
      obtain ⟨rows₁, b₁, v₁, rows₂, hplan₁, hplan₂, rfl⟩ := planned_cons.1 hplan
      cases hanswers with
      | @cons _ res _ rest hanswer hanswers =>
        have hmem : ∀ e ∈ rows₁, e ∈ db'.entries := by
          intro e he
          rw [Table.mem_def, hsaved.entries]
          exact List.mem_append_right _ (List.mem_append_left rows₂ he)
        obtain ⟨db₁, hsaved₁, hsaved₂⟩ := hsaved.split ha (hplan₁.check ha hmem)
        have hrec := hother hplan₁ hsaved₁.entries
        obtain ⟨e, he⟩ := hplan₁.recorded hsaved₁.entries
        have hres : res.entry = e :=
          Option.some.inj (hanswer.1.symm.trans (entry?_kept hsaved₂.entries he))
        refine ⟨(res, _), db₁, (append_eq_ok ha).2 ⟨rows₁, b₁, v₁, hplan₁, hsaved₁, ?_, hanswer.2⟩,
          Tx.bind_eq_ok.2 ⟨(rest, account'), db', (ih (hsaved₁.mem ha) htail).2
            ⟨rows₂, b, v, ?_, hsaved₂, ?_⟩, Tx.pure_eq_ok.2 rfl⟩⟩
        · rw [he, hres]
        · exact hplan₂.congr hrec
        · exact answers_congr hanswers hrec

/-- The last read of a batch finds the entry of each request. -/
theorem readAnswers_eq_ok {inputs : List AppendInput} {results : List AppendResult}
    {x s : Database} :
    (inputs.mapM fun input : AppendInput => (do
      let entry ← DbTx.get! (.other "Écriture introuvable")
        ((db'.entries.select fun e => (inputs.map (·.entryKey)).contains e.entryKey).find?
          fun e => e.entryKey == input.entryKey)
      return { entry, replayed := (db.entries.select fun e =>
        (inputs.map (·.entryKey)).contains e.entryKey).any fun e =>
          e.entryKey == input.entryKey } : DbTx AppendResult)) x = .ok (results, s) ↔
      List.Forall₂ (Answered db db') inputs results ∧ s = x := by
  refine Tx.mapM_eq_ok fun input hi res t => ?_
  have hany : ((db.entries.select fun e => (inputs.map (·.entryKey)).contains e.entryKey).any
      fun e => e.entryKey == input.entryKey) = (db.entry? input.entryKey).isSome := by
    rw [← find?_existing hi, Bool.eq_iff_iff, List.any_eq_true, List.find?_isSome]
  rw [find?_existing hi, hany, Tx.bind_eq_ok]
  constructor
  · rintro ⟨e, _, he, hpure⟩
    obtain ⟨_, hentry, heq⟩ := DbTx.get!_eq_ok.1 he
    obtain ⟨rfl, rfl⟩ := Prod.mk.inj heq
    obtain ⟨rfl, rfl⟩ := Prod.mk.inj (Tx.pure_eq_ok.1 hpure)
    exact ⟨⟨hentry, rfl⟩, rfl⟩
  · rintro ⟨⟨hentry, hreplayed⟩, rfl⟩
    refine ⟨res.entry, t, DbTx.get!_eq_ok.2 ⟨_, hentry, rfl⟩, Tx.pure_eq_ok.2 ?_⟩
    rw [← hreplayed]

/-- **`appendBatch` is the same plan, and the same writing.** -/
theorem appendBatch_eq_ok {inputs : List AppendInput} {results : List AppendResult}
    (ha : account ∈ db.accounts) (hkeys : (inputs.map (·.entryKey)).Nodup) :
    appendBatch account inputs dbNow db = .ok ((results, account'), db') ↔
      ∃ rows b v, Planned account.id account.currency db.entry? dbNow inputs account.balances
          account.version rows b v ∧
        Saved db account rows b v account' db' ∧ List.Forall₂ (Answered db db') inputs results := by
  rw [appendBatch]
  by_cases hinputs : inputs = []
  · subst hinputs
    rw [if_pos rfl, Tx.pure_eq_ok]
    constructor
    · intro h
      cases h
      exact ⟨[], _, _, .nil, (saveBatch_eq_ok ha fun _ => ⟨rfl, rfl⟩).1 rfl, .nil⟩
    · rintro ⟨rows, b, v, hplan, hsaved, hanswers⟩
      cases hplan
      cases hanswers
      cases (saveBatch_eq_ok ha fun _ => ⟨rfl, rfl⟩).2 hsaved
      rfl
  · rw [if_neg hinputs, if_neg (not_not.2 hkeys)]
    have hfind : ∀ (x : Database), ∀ input ∈ inputs,
        ((x.entries.select fun e => (inputs.map (·.entryKey)).contains e.entryKey).find? fun e =>
          e.entryKey == input.entryKey) = x.entry? input.entryKey := fun x input hi =>
      find?_existing hi
    simp only [Tx.bind_eq_ok, DbTx.read_eq_ok]
    constructor
    · rintro ⟨existing, _, heq, ⟨rows, b, v⟩, s₁, hplan, saved, s₂, hsave, all, s₃, hall, res, s₄,
        hres, h⟩
      obtain ⟨rfl, rfl⟩ := Prod.mk.inj heq
      obtain ⟨rfl, rfl⟩ := Prod.mk.inj hall
      cases Tx.pure_eq_ok.1 h
      obtain ⟨hplanned, rfl⟩ := planBatch_eq_ok.1 hplan
      have hs : db' = s₃ := (Tx.mapM_frame (fun input s r s' hr => by
        obtain ⟨e, s₅, he, hr⟩ := Tx.bind_eq_ok.1 hr
        obtain ⟨_, -, heq⟩ := DbTx.get!_eq_ok.1 he
        rw [(Prod.mk.inj (Tx.pure_eq_ok.1 hr)).2, (Prod.mk.inj heq).2]) hres)
      subst hs
      refine ⟨rows, b, v, hplanned.congr fun x hx => (hfind _ x hx).symm, ?_,
        (readAnswers_eq_ok.1 hres).1⟩
      exact (saveBatch_eq_ok ha fun hnil => hplanned.of_nil hnil).1 hsave
    · rintro ⟨rows, b, v, hplanned, hsaved, hanswers⟩
      exact ⟨_, _, rfl, (rows, b, v), _,
        planBatch_eq_ok.2 ⟨hplanned.congr fun x hx => hfind _ x hx, rfl⟩, account', db',
        (saveBatch_eq_ok ha fun hnil => hplanned.of_nil hnil).2 hsaved, _, _, rfl, results, db',
        readAnswers_eq_ok.2 ⟨hanswers, rfl⟩, rfl⟩

/-- **A batch does what the sequence does.**  For every state of the account and every list of
requests with different keys, `appendBatch` answers what appending them one by one in order answers,
and leaves the database as this leaves it; it fails when this fails, and then nothing is written. -/
theorem appendBatch_eq_appendEach {inputs : List AppendInput} (ha : account ∈ db.accounts)
    (hkeys : (inputs.map (·.entryKey)).Nodup) :
    (Tx.commit (appendBatch account inputs dbNow) db).1.toOption
        = (Tx.commit (appendEach account dbNow inputs) db).1.toOption ∧
      (Tx.commit (appendBatch account inputs dbNow) db).2
        = (Tx.commit (appendEach account dbNow inputs) db).2 ∧
      ((Tx.commit (appendEach account dbNow inputs) db).1.toOption = none →
        (Tx.commit (appendBatch account inputs dbNow) db).2 = db) := by
  have hiff : ∀ r, appendBatch account inputs dbNow db = .ok r ↔
      appendEach account dbNow inputs db = .ok r := by
    rintro ⟨⟨results, account'⟩, db'⟩
    rw [appendBatch_eq_ok ha hkeys, appendEach_eq_ok ha hkeys]
  cases hbatch : appendBatch account inputs dbNow db with
  | ok r =>
    rw [Tx.commit_of_ok hbatch, Tx.commit_of_ok ((hiff r).1 hbatch)]
    exact ⟨rfl, rfl, fun h => by cases h⟩
  | error e =>
    cases heach : appendEach account dbNow inputs db with
    | ok r =>
      rw [(hiff r).2 heach] at hbatch
      cases hbatch
    | error e' =>
      rw [Tx.commit_of_error hbatch, Tx.commit_of_error heach]
      exact ⟨rfl, rfl, fun _ => rfl⟩

end

/-- A replay and two stakes, on an account that was opened with 100.00. -/
def openingAndStakes : List AppendInput :=
  [⟨.adjustment, "open:A", { adjustmentCents := some (.int 10000) }, none⟩,
    ⟨.reserve, "reserve:k", { stakeCents := some (.int 1000) }, none⟩,
    ⟨.reserve, "reserve:l", { stakeCents := some (.int 500) }, none⟩]

theorem appendBatch_eq_appendEach_openedAccount :
    ∃ account ∈ openedAccount.accounts,
      ((Tx.commit (appendEach account 0 openingAndStakes) openedAccount).1.toOption.map fun r =>
          (r.1.map (·.replayed), r.2.balances))
        = some ([true, false, false], ⟨8500, 1500⟩) ∧
      (Tx.commit (appendBatch account openingAndStakes 0) openedAccount).1.toOption
        = (Tx.commit (appendEach account 0 openingAndStakes) openedAccount).1.toOption := by
  have hmem : (⟨"A", .known .sandbox, "book", "EUR", 10000, 0, 2⟩ : BankrollAccount) ∈
      openedAccount.accounts.rows := by decide +kernel
  refine ⟨_, hmem, by decide +kernel, (appendBatch_eq_appendEach hmem ?_).1⟩
  decide

end ApiScore
