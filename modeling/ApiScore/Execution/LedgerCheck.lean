import ApiScore.Execution.LedgerHistory

/-!
# The ledger check against concurrent writes

`verifyInvariant` reads the account, the sums of its entries and its last entry in three statements
of their own.  Other transactions commit between them.  Every commit leaves the account sound, and
its entries only ever grow; the check compares three states all the same.

* `AccountSound.moves` — a sound account stays sound, and its history is extended at its end.
* `verifyInvariantAt_ok_iff` — the check reports no mismatch exactly when the account got no new
  entry between the first and the last read.
-/

set_option autoImplicit false

namespace ApiScore

open Relational
open Relation (ReflTransGen)

/-- From `db` to `db'` the account kept its id, stayed sound, and its history was only extended. -/
structure Grew (db : Database) (account : BankrollAccount) (db' : Database)
    (account' : BankrollAccount) : Prop where
  mem : account' ∈ db'.accounts
  id : account'.id = account.id
  sound : AccountSound db' account'
  history : db.entriesOf account.id <+: db'.entriesOf account.id

theorem AccountSound.move {db db' : Database} {account : BankrollAccount}
    (hs : AccountSound db account) (ha : account ∈ db.accounts) (h : LedgerMove db db') :
    ∃ account', Grew db account db' account' := by
  obtain ⟨h₁, h₂, h₃⟩ := hs
  cases h with
  | insertAccount ht hb hv =>
    exact ⟨account, (Table.mem_insert? ht).2 (.inl ha), rfl, ⟨h₁, h₂, h₃⟩, List.prefix_rfl⟩
  | @records _ x x' rows hx hrec =>
    by_cases hxa : account = x
    · subst hxa
      refine ⟨x', hrec.mem_self hx, hrec.id_eq, AccountSound.records ⟨h₁, h₂, h₃⟩ hrec, ?_⟩
      rw [hrec.entriesOf_self]
      exact List.prefix_append _ _
    · have hne : account.id ≠ x.id := fun hid => hxa (account_eq_of_id ha hx hid)
      have hes := hrec.entriesOf_other hne
      refine ⟨account, hrec.mem_accounts.2 ⟨account, ha, if_neg hxa⟩, rfl, ?_, ?_⟩
      · exact ⟨hes ▸ h₁, hes ▸ h₂, hes ▸ h₃⟩
      · exact hes ▸ List.prefix_rfl
  | other hacc hent =>
    have hes : db'.entriesOf account.id = db.entriesOf account.id := by
      rw [Database.entriesOf, Database.entriesOf, hent]
    refine ⟨account, ?_, rfl, ⟨hes ▸ h₁, hes ▸ h₂, hes ▸ h₃⟩, ?_⟩
    · rw [hacc]
      exact ha
    · exact hes ▸ List.prefix_rfl

/-- **A sound account stays sound, and its history only grows.** -/
theorem AccountSound.moves {db db' : Database} {account : BankrollAccount}
    (hs : AccountSound db account) (ha : account ∈ db.accounts)
    (h : ReflTransGen LedgerMove db db') : ∃ account', Grew db account db' account' := by
  induction h with
  | refl => exact ⟨account, ha, rfl, hs, List.prefix_rfl⟩
  | tail _ hmove ih =>
    obtain ⟨a, hmem, hid, hsound, hhist⟩ := ih
    obtain ⟨a', hmem', hid', hsound', hhist'⟩ := hsound.move hmem hmove
    rw [hid] at hhist'
    exact ⟨a', hmem', hid'.trans hid, hsound', hhist.trans hhist'⟩

/-- The check agrees when both later reads see the history the account was read with. -/
theorem AccountSound.report_ok {db₁ db₂ db₃ : Database} {account : BankrollAccount}
    (hs : AccountSound db₁ account) (h₂ : db₂.entriesOf account.id = db₁.entriesOf account.id)
    (h₃ : db₃.entriesOf account.id = db₁.entriesOf account.id) :
    (invariantReport account (db₂.ledgerSum account.id) (db₃.lastEntry? account.id)).ok = true := by
  have hsum : db₂.ledgerSum account.id = account.balances := by
    rw [hs.balances_eq_sum, Database.ledgerSum, Database.ledgerSum, h₂]
  have hlast : db₃.lastEntry? account.id = (db₁.entriesOf account.id).getLast? := by
    rw [Database.lastEntry?, h₃]
    exact hs.chain.argmax_version
  rw [hsum, hlast]
  rw [invariantReport]
  cases hl : (db₁.entriesOf account.id).getLast? with
  | none => simp
  | some e =>
    obtain ⟨hb, hv⟩ := hs.balances_eq_last hl
    simp [hb, hv]

/-- The check rejects a last entry that is newer than the account it read. -/
theorem AccountSound.report_not_ok {db₁ db₃ : Database} {account account' : BankrollAccount}
    {sum : Balances} (hs : AccountSound db₁ account) (hs' : AccountSound db₃ account')
    (hid : account'.id = account.id)
    (hlen : (db₁.entriesOf account.id).length < (db₃.entriesOf account.id).length) :
    (invariantReport account sum (db₃.lastEntry? account.id)).ok = false := by
  rw [← hid] at hlen ⊢
  have hlast : db₃.lastEntry? account'.id = (db₃.entriesOf account'.id).getLast? :=
    hs'.chain.argmax_version
  cases hl : (db₃.entriesOf account'.id).getLast? with
  | none =>
    rw [List.getLast?_eq_none_iff] at hl
    rw [hl, List.length_nil] at hlen
    omega
  | some e =>
    have hv : e.accountVersion = account'.version := (hs'.balances_eq_last hl).2
    have hne : e.accountVersion ≠ account.version := by
      have h₁ := hs.version
      have h₂ := hs'.version
      rw [hid] at h₂
      rw [hid] at hlen
      omega
    rw [hlast, hl]
    simp [invariantReport, hne]

/-- **When the check holds.**  Read from a sound account while ledger calls commit between its three
reads, `verifyInvariant` reports no mismatch if and only if none of them left the account a new
entry. -/
theorem verifyInvariantAt_ok_iff {db₁ db₂ db₃ : Database} {account : BankrollAccount}
    (ha : account ∈ db₁.accounts) (hs : AccountSound db₁ account) (h₁₂ : LedgerRun db₁ db₂)
    (h₂₃ : LedgerRun db₂ db₃) :
    (∃ report, verifyInvariantAt db₁ db₂ db₃ account.id = some report ∧ report.ok = true) ↔
      db₃.entriesOf account.id = db₁.entriesOf account.id := by
  obtain ⟨a₂, hmem₂, hid₂, hs₂, hhist₂⟩ := hs.moves ha h₁₂.moves
  obtain ⟨a₃, -, hid₃, hs₃, hhist₃⟩ := hs₂.moves hmem₂ h₂₃.moves
  rw [hid₂] at hhist₃ hid₃
  rw [verifyInvariantAt, account?_of_mem ha, Option.map_some]
  constructor
  · rintro ⟨report, heq, hok⟩
    rw [Option.some.injEq] at heq
    by_contra hne
    -- a longer history at the last read makes its entry newer than the account
    have hpre := hhist₂.trans hhist₃
    have hlen : (db₁.entriesOf account.id).length < (db₃.entriesOf account.id).length := by
      rcases Nat.lt_or_ge (db₁.entriesOf account.id).length
        (db₃.entriesOf account.id).length with hlt | hge
      · exact hlt
      · exact absurd (hpre.eq_of_length_le hge).symm hne
    rw [← heq, hs.report_not_ok hs₃ hid₃ hlen] at hok
    cases hok
  · intro heq
    refine ⟨_, rfl, hs.report_ok ?_ heq⟩
    rw [heq] at hhist₃
    exact (hhist₂.eq_of_length_le hhist₃.length_le).symm

/-- The same account after a stake of 10.00 has been reserved. -/
def reservedAccount : Database :=
  ((LedgerCall.transaction "A"
    [.append ⟨.reserve, "reserve:k", { stakeCents := some (.num 1000) }, none⟩]).run 0
    openedAccount).2

/-- A reservation that commits between the first and the second read is reported as a mismatch. -/
theorem verifyInvariantAt_reservation :
    ¬ ∀ (db₁ db₂ db₃ : Database) (account : BankrollAccount), account ∈ db₁.accounts →
      AccountSound db₁ account → LedgerRun db₁ db₂ → LedgerRun db₂ db₃ →
      ∃ report, verifyInvariantAt db₁ db₂ db₃ account.id = some report ∧ report.ok = true := by
  intro h
  have hids : "A" ∈ openedAccount.accounts.rows.map (·.id) := by decide +kernel
  obtain ⟨a, ha, hid⟩ := List.mem_map.1 hids
  have hs : LedgersSound openedAccount := LedgerHistory.sound ⟨Database.migrated "C", rfl, rfl,
    .call (.openAccount ⟨.sandbox, "book", "EUR", "100.00"⟩ "A") 0 (.refl _)⟩
  obtain ⟨report, heq, hok⟩ := h openedAccount reservedAccount reservedAccount a ha
    (hs.accounts a ha) (.call _ 0 (.refl _)) (.refl _)
  rw [hid] at heq
  have hbad : ((verifyInvariantAt openedAccount reservedAccount reservedAccount "A").map (·.ok))
      = some false := by decide +kernel
  rw [heq, Option.map_some, hok] at hbad
  cases hbad

/-- Alone, or while only another account is written, the check holds. -/
theorem verifyInvariantAt_alone :
    ∃ a ∈ openedAccount.accounts,
      ∃ report, verifyInvariantAt openedAccount openedAccount openedAccount a.id = some report ∧
        report.ok = true := by
  have hids : "A" ∈ openedAccount.accounts.rows.map (·.id) := by decide +kernel
  obtain ⟨a, ha, -⟩ := List.mem_map.1 hids
  have hs : LedgersSound openedAccount := LedgerHistory.sound ⟨Database.migrated "C", rfl, rfl,
    .call (.openAccount ⟨.sandbox, "book", "EUR", "100.00"⟩ "A") 0 (.refl _)⟩
  exact ⟨a, ha, (verifyInvariantAt_ok_iff ha (hs.accounts a ha) (.refl _) (.refl _)).2 rfl⟩

end ApiScore
