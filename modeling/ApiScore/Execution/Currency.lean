import ApiScore.Execution.DecisionMoves
import ApiScore.Execution.ReservedBalance

/-!
# One currency for an order

The currency and the mode of a stake travel through four records: the decision, its order, the
account and the entry that reserves the stake.  `reserve` copies the decision's currency to the
order, `reserveWithin` compares the account's mode and currency with those of the control row and of
the risk policy, and `append` copies the account's currency to the entry.  Nothing compares the
decision's currency with the account's: the four agree where the two agree when `reserve` is called.

* `Move.ledger`, `Move.has_reserve` — what every move does to the accounts and their entries.
* `Denominated` — what holds of the currencies and the modes in every state.
* `single_currency` — the four records agree, in runs that reserve only for accounts in the
  currency of their decisions.
* `dollars_from_euros` — a run that does not.
-/

set_option autoImplicit false

namespace ApiScore

open Relational Concurrent
open Relation (ReflTransGen)

/-! ## Accounts and entries -/

/-- What recording entries never changes of an account. -/
structure SameAccount (a a' : BankrollAccount) : Prop where
  id : a'.id = a.id
  mode : a'.mode = a.mode
  currency : a'.currency = a.currency

theorem SameAccount.refl (a : BankrollAccount) : SameAccount a a := ⟨rfl, rfl, rfl⟩

theorem SameAccount.trans {a b c : BankrollAccount} (h : SameAccount a b) (h' : SameAccount b c) :
    SameAccount a c :=
  ⟨h'.id.trans h.id, h'.mode.trans h.mode, h'.currency.trans h.currency⟩

/-- Every entry is of an account, in its currency. -/
def Owned (db : Database) : Prop :=
  ∀ e ∈ db.entries, ∃ a ∈ db.accounts, a.id = e.accountId ∧ a.currency = e.currency

section Ledger

variable {db db' : Database}

/-- **A move leaves the ledger alone, creates an account, or posts entries to one.** -/
theorem Move.ledger (hm : Move db db') : LedgerSame db db' ∨
    (∃ a, db.accounts.insert? a = some db'.accounts ∧ db'.entries = db.entries) ∨
    ∃ a a' inputs, a ∈ db.accounts ∧ Posted db a inputs a' db' := by
  cases hm with
  | aside hl => exact .inl hl
  | account ht _ _ he => exact .inr (.inl ⟨_, ht, he⟩)
  | credit ha hposted => exact .inr (.inr ⟨_, _, _, ha, hposted⟩)
  | reserve _ _ ha _ hposted => exact .inr (.inr ⟨_, _, _, ha, hposted⟩)
  | refuseNew _ _ _ hl => exact .inl hl
  | quiet _ _ _ hl => exact .inl hl
  | release _ _ _ _ ha _ hposted => exact .inr (.inr ⟨_, _, _, ha, hposted⟩)
  | refuse _ _ _ _ _ hl => exact .inl hl
  | accept _ _ _ _ hpart =>
    rcases hpart with ⟨-, hl⟩ | ⟨-, a, a', ha, -, hposted⟩
    · exact .inl hl
    · exact .inr (.inr ⟨_, _, _, ha, hposted⟩)
  | settleStake _ _ _ ha _ hposted => exact .inr (.inr ⟨_, _, _, ha, hposted⟩)

/-- A posting changes the balance of its account, and nothing else of any. -/
theorem Posted.same_account {a a' : BankrollAccount} {inputs : List AppendInput}
    (h : Posted db a inputs a' db') {x : BankrollAccount} (hx : x ∈ db.accounts) :
    ∃ y ∈ db'.accounts, SameAccount x y := by
  obtain ⟨rows, dbNow, hrec, -⟩ := h
  refine ⟨_, hrec.mem_accounts.2 ⟨x, hx, rfl⟩, ?_⟩
  by_cases hxa : x = a
  · obtain ⟨b, v, hb⟩ := hrec.identity
    rw [if_pos hxa, hxa, hb]
    exact ⟨rfl, rfl, rfl⟩
  · rw [if_neg hxa]
    exact .refl x

theorem Move.same_account (hm : Move db db') {x : BankrollAccount} (hx : x ∈ db.accounts) :
    ∃ y ∈ db'.accounts, SameAccount x y := by
  rcases hm.ledger with hl | ⟨a, ht, -⟩ | ⟨a, a', inputs, ha, hposted⟩
  · exact ⟨x, hl.accounts ▸ hx, .refl x⟩
  · exact ⟨x, (Table.mem_insert? ht).2 (.inl hx), .refl x⟩
  · exact hposted.same_account hx

theorem Owned.move (h : Owned db) (hm : Move db db') : Owned db' := by
  have hkept : ∀ e ∈ db.entries, ∃ a ∈ db'.accounts, a.id = e.accountId ∧
      a.currency = e.currency := by
    intro e he
    obtain ⟨a, ha, hid, hcur⟩ := h e he
    obtain ⟨y, hy, hsame⟩ := hm.same_account ha
    exact ⟨y, hy, hsame.id.trans hid, hsame.currency.trans hcur⟩
  rcases hm.ledger with hl | ⟨a, ht, hentries⟩ | ⟨a, a', inputs, ha, hposted⟩
  · exact fun e he => hkept e (hl.entries ▸ he)
  · exact fun e he => hkept e (hentries ▸ he)
  · obtain ⟨y, hy, hsame⟩ := hm.same_account ha
    obtain ⟨rows, dbNow, hrec, -⟩ := hposted
    intro e he
    rcases hrec.mem_entries.1 he with he | he
    · exact hkept e he
    · refine ⟨y, hy, ?_, ?_⟩
      · rw [hsame.id, hrec.owner e he]
      · rw [hsame.currency, hrec.currency e he]

/-- **A stake is reserved only with its order.** -/
theorem Move.has_reserve (hm : Move db db') {o : BetOrder} (ho : o ∈ db.orders)
    (h : db'.Has .reserve o.idempotencyKey) : db.Has .reserve o.idempotencyKey := by
  have hsame : LedgerSame db db' → db.Has .reserve o.idempotencyKey := by
    rintro hl
    obtain ⟨e, he, hkey⟩ := h
    exact ⟨e, hl.entries ▸ he, hkey⟩
  cases hm with
  | aside hl => exact hsame hl
  | account _ _ _ hentries =>
    obtain ⟨e, he, hkey⟩ := h
    exact ⟨e, hentries ▸ he, hkey⟩
  | @credit a _ input _ hposted hkey =>
    exact (hposted.has_other .opening (by simpa using ⟨_, hkey⟩) (by simp)).1 h
  | @reserve x _ _ hrows _ _ _ hposted =>
    rcases hposted.has_iff.1 h with h | ⟨input, hin, hkey⟩
    · exact h
    · rw [List.mem_singleton.1 hin] at hkey
      have hk : KeyKind.key .reserve x.idempotencyKey = KeyKind.key .reserve o.idempotencyKey := hkey
      exact ((key_ne_of_added hrows ho).1 (KeyKind.key_inj.1 hk).2.symm).elim
  | refuseNew _ _ _ hl => exact hsame hl
  | quiet _ _ _ hl => exact hsame hl
  | @release os _ _ _ _ _ _ _ _ _ hposted =>
    refine (hposted.has_other .release (fun input hin => ?_) (by simp)).1 h
    obtain ⟨x, -, rfl⟩ := List.mem_map.1 hin
    exact ⟨x.idempotencyKey, rfl⟩
  | refuse _ _ _ _ _ hl => exact hsame hl
  | @accept x _ _ _ _ _ _ _ _ _ _ hpart =>
    rcases hpart with ⟨-, hl⟩ | ⟨-, a, a', -, -, hposted⟩
    · exact hsame hl
    · refine (hposted.has_other .releasePartial (fun input hin => ?_) (by simp)).1 h
      rw [List.mem_singleton.1 hin]
      exact ⟨x.idempotencyKey, rfl⟩
  | @settleStake x _ _ _ _ _ _ _ _ _ hposted =>
    refine (hposted.has_other .settle (fun input hin => ?_) (by simp)).1 h
    rw [List.mem_singleton.1 hin]
    exact ⟨x.idempotencyKey, rfl⟩

/-! ### Sequences of moves -/

theorem same_account_of_moves (hm : ReflTransGen Move db db') {x : BankrollAccount}
    (hx : x ∈ db.accounts) : ∃ y ∈ db'.accounts, SameAccount x y := by
  induction hm with
  | refl => exact ⟨x, hx, .refl x⟩
  | tail _ hmove ih =>
    obtain ⟨y, hy, hxy⟩ := ih
    obtain ⟨z, hz, hyz⟩ := hmove.same_account hy
    exact ⟨z, hz, hxy.trans hyz⟩

theorem Owned.moves (h : Owned db) (hm : ReflTransGen Move db db') : Owned db' := by
  induction hm with
  | refl => exact h
  | tail _ hmove ih => exact ih.move hmove

theorem has_reserve_of_moves (hm : ReflTransGen Move db db') {o : BetOrder} (ho : o ∈ db.orders)
    (h : db'.Has .reserve o.idempotencyKey) : db.Has .reserve o.idempotencyKey := by
  induction hm using ReflTransGen.head_induction_on generalizing o with
  | refl => exact h
  | @head x y hmove _ ih =>
    obtain ⟨o', ho', hbecame⟩ := hmove.evolves.orders o ho
    rw [← hbecame.same.idempotencyKey] at h
    have hy := ih ho' h
    rw [hbecame.same.idempotencyKey] at hy
    exact hmove.has_reserve ho hy

end Ledger

/-! ## Orders and decisions -/

section Orders

variable {db db' : Database} {t : Transaction}

/-- What no transaction changes of a decision. -/
structure SameDecision (d d' : BetDecision) : Prop where
  id : d'.id = d.id
  currency : d'.currency = d.currency

theorem Redecides.kept {os : List BetOrder} {k : BetDecision → BetDecision}
    (h : Redecides db os k db') (hk : ∀ d, SameDecision d (k d)) {d : BetDecision}
    (hd : d ∈ db.decisions) : ∃ d' ∈ db'.decisions, SameDecision d d' := by
  refine ⟨_, h.mem_iff.2 ⟨d, hd, rfl⟩, ?_⟩
  split_ifs
  · exact hk d
  · exact ⟨rfl, rfl⟩

/-- **No transaction changes the currency of a decision.** -/
theorem Deciding.same_decision (h : Deciding db db' t) {d : BetDecision} (hd : d ∈ db.decisions) :
    ∃ d' ∈ db'.decisions, SameDecision d d' := by
  cases h with
  | aside _ hdecisions => exact ⟨d, hdecisions ▸ hd, rfl, rfl⟩
  | goOn _ hre _ hk => exact hre.kept (fun d => ⟨hk.sameId d, hk.currency d⟩) hd
  | refuse _ hre => exact hre.kept (fun d => ⟨rfl, rfl⟩) hd
  | close _ _ hre => exact hre.kept (fun d => ⟨rfl, rfl⟩) hd
  | @refuseAlone _ p code _ hrows =>
    refine ⟨if p d then d.refuse code else d, ?_, ?_⟩
    · rw [Table.mem_def, hrows]
      exact List.mem_map_of_mem hd
    · split_ifs
      · exact ⟨rfl, rfl⟩
      · exact ⟨rfl, rfl⟩
  | reserve _ _ _ _ _ _ _ hre => exact hre.kept (fun d => ⟨rfl, rfl⟩) hd
  | refuseNew _ _ _ _ _ _ _ _ hre => exact hre.kept (fun d => ⟨rfl, rfl⟩) hd

/-- An order a reservation has just inserted, for the decision and the account it was called with. -/
structure Inserted (db db' : Database) (t : Transaction) (o : BetOrder) (d : BetDecision) :
    Prop where
  call : t = .reserve o.decisionId o.accountId
  mem : d ∈ db.decisions
  id : d.id = o.decisionId
  eligible : d.status = .eligible
  currency : o.currency = d.currency
  rows : db'.orders.rows = db.orders.rows ++ [o]
  mode : db'.Has .reserve o.idempotencyKey → db.Has .reserve o.idempotencyKey ∨
    ∃ a ∈ db.accounts, a.id = o.accountId ∧ a.mode = o.mode

theorem Rewrites.same_order {os : List BetOrder} {f : BetOrder → BetOrder}
    (h : Rewrites db os f db') (hf : ∀ o ∈ os, SameOrder o (f o)) {o' : BetOrder}
    (ho' : o' ∈ db'.orders) : ∃ o ∈ db.orders, SameOrder o o' := by
  obtain ⟨o, ho, rfl⟩ := h.mem_iff.1 ho'
  refine ⟨o, ho, ?_⟩
  split_ifs with hos
  · exact hf o hos
  · exact .refl o

/-- **An order was there before, or a reservation has just inserted it.** -/
theorem Deciding.order_cases (h : Deciding db db' t) {o' : BetOrder} (ho' : o' ∈ db'.orders) :
    (∃ o ∈ db.orders, SameOrder o o') ∨ ∃ d, Inserted db db' t o' d := by
  have hadded : ∀ {o : BetOrder}, db'.orders.rows = db.orders.rows ++ [o] →
      o' ∈ db.orders ∨ o' = o := fun hrows => (mem_of_added hrows).1 ho'
  cases h with
  | aside horders => exact .inl ⟨o', horders ▸ ho', .refl o'⟩
  | goOn hrw _ hsteps => exact .inl (hrw.same_order (fun o ho => (hsteps o ho).same) ho')
  | refuse hrw =>
    exact .inl (hrw.same_order (fun o _ => ⟨rfl, rfl, rfl, rfl, rfl, rfl, rfl, rfl, rfl⟩) ho')
  | close _ hrw =>
    exact .inl (hrw.same_order (fun o _ => ⟨rfl, rfl, rfl, rfl, rfl, rfl, rfl, rfl, rfl⟩) ho')
  | refuseAlone horders => exact .inl ⟨o', horders ▸ ho', .refl o'⟩
  | @reserve d o hd hid heligible hcurrency _ hmode hrows =>
    rcases hadded hrows with hold | rfl
    · exact .inl ⟨o', hold, .refl o'⟩
    · exact .inr ⟨d, rfl, hd, hid, heligible, hcurrency, hrows, fun _ => hmode⟩
  | @refuseNew d o code hd hid heligible hcurrency _ _ hl hrows =>
    rcases hadded hrows with hold | rfl
    · exact .inl ⟨o', hold, .refl o'⟩
    · refine .inr ⟨d, rfl, hd, hid, heligible, hcurrency, hrows, fun hhas => .inl ?_⟩
      obtain ⟨e, he, hkey⟩ := hhas
      exact ⟨e, hl.entries ▸ he, hkey⟩

end Orders

/-! ## The invariant -/

/-- The account suits the order: it is the order's own, in its mode and its currency. -/
structure Suits (o : BetOrder) (a : BankrollAccount) : Prop where
  id : a.id = o.accountId
  mode : a.mode = o.mode
  currency : a.currency = o.currency

/-- **The four records of a stake agree.** -/
structure Denominated (db : Database) : Prop where
  consistent : Consistent db
  owned : Owned db
  decided : ∀ o ∈ db.orders, ∃ d ∈ db.decisions, d.id = o.decisionId ∧ d.currency = o.currency
  suited : ∀ o ∈ db.orders, db.Has .reserve o.idempotencyKey → ∃ a ∈ db.accounts, Suits o a

theorem Suits.same {o o' : BetOrder} {a a' : BankrollAccount} (h : Suits o a)
    (ho : SameOrder o o') (ha : SameAccount a a') : Suits o' a' :=
  ⟨ha.id.trans (h.id.trans ho.accountId.symm), ha.mode.trans (h.mode.trans ho.mode.symm),
    ha.currency.trans (h.currency.trans ho.currency.symm)⟩

/-- **A transaction keeps the four records in agreement**, if it reserves, for an eligible decision,
only on an account in its currency. -/
theorem Denominated.commit {db db' : Database} {t : Transaction} (h : Denominated db)
    (hm : ReflTransGen Move db db') (hd : Deciding db db' t)
    (hcall : ∀ d ∈ db.decisions, ∀ a ∈ db.accounts, t = .reserve d.id a.id →
      d.status = .eligible → d.currency = a.currency) : Denominated db' where
  consistent := h.consistent.moves hm
  owned := h.owned.moves hm
  decided o' ho' := by
    rcases hd.order_cases ho' with ⟨o, ho, hsame⟩ | ⟨d, hnew⟩
    · obtain ⟨d, hmem, hid, hcur⟩ := h.decided o ho
      obtain ⟨d', hd', hsd⟩ := hd.same_decision hmem
      refine ⟨d', hd', ?_, ?_⟩
      · rw [hsd.id, hid, hsame.decisionId]
      · rw [hsd.currency, hcur, hsame.currency]
    · obtain ⟨d', hd', hsd⟩ := hd.same_decision hnew.mem
      exact ⟨d', hd', hsd.id.trans hnew.id, hsd.currency.trans hnew.currency.symm⟩
  suited o' ho' hhas := by
    rcases hd.order_cases ho' with ⟨o, ho, hsame⟩ | ⟨d, hnew⟩
    · rw [hsame.idempotencyKey] at hhas
      obtain ⟨a, ha, hsuits⟩ := h.suited o ho (has_reserve_of_moves hm ho hhas)
      obtain ⟨a', ha', hsa⟩ := same_account_of_moves hm ha
      exact ⟨a', ha', hsuits.same hsame hsa⟩
    · rcases hnew.mode hhas with hold | ⟨a, ha, hid, hmode⟩
      · exact (h.consistent.not_has_of_added hnew.rows (by simp) hold).elim
      · obtain ⟨a', ha', hsa⟩ := same_account_of_moves hm ha
        refine ⟨a', ha', hsa.id.trans hid, hsa.mode.trans hmode, ?_⟩
        have hmatch := hcall d hnew.mem a ha (by rw [hnew.id, hid, hnew.call]) hnew.eligible
        rw [hsa.currency, ← hmatch, hnew.currency]

/-! ## Runs -/

/-- The rest of the program never takes a decision back, and never changes its currency. -/
def KeepsDecisions (db db' : Database) : Prop :=
  ∀ d ∈ db.decisions, ∃ d' ∈ db'.decisions, SameDecision d d'

theorem Denominated.outside {db db' : Database} (h : Denominated db) (hout : Outside db db')
    (hkeeps : KeepsDecisions db db') : Denominated db' where
  consistent := h.consistent.outside hout
  owned e he := by
    rw [hout] at he ⊢
    exact h.owned e he
  decided o ho := by
    rw [hout] at ho
    obtain ⟨d, hd, hid, hcur⟩ := h.decided o ho
    obtain ⟨d', hd', hsd⟩ := hkeeps d hd
    exact ⟨d', hd', hsd.id.trans hid, hsd.currency.trans hcur⟩
  suited o ho hhas := by
    rw [hout] at ho hhas ⊢
    exact h.suited o ho hhas

/-- Every reservation of an eligible decision is called for an account in its currency. -/
def Setting.ReservesInCurrency (S : Setting) : Prop :=
  ∀ i input w decisionId accountId, S.allow i (.commit (.reserve decisionId accountId)) input w →
    ∀ d ∈ w.db.decisions, ∀ a ∈ w.db.accounts, d.id = decisionId → a.id = accountId →
      d.status = .eligible → d.currency = a.currency

/-- **No stake is reserved across currencies**, in runs whose reservations are all called for an
account in the currency of the decision: every order with a `RESERVE` entry has the currency of its
decision, of its account and of that entry, and the mode of its account. -/
theorem single_currency {S : Setting} (hcalls : S.ReservesInCurrency) {db₀ : Database}
    (haccounts : db₀.accounts = .empty) (hentries : db₀.entries = .empty)
    (horders : db₀.orders = .empty) {clock : Int} {funds : String → String → OperatorBalance}
    {c : Run}
    (h : Reachable (S.system.among fun w w' => S.Drift w w' ∧ KeepsDecisions w.db w'.db)
      (.init (.init db₀ clock funds)) c) :
    ∀ o ∈ c.state.db.orders, ∀ e ∈ c.state.db.entries,
      e.entryKey = KeyKind.key .reserve o.idempotencyKey →
      ∃ d ∈ c.state.db.decisions, ∃ a ∈ c.state.db.accounts,
        d.id = o.decisionId ∧ a.id = o.accountId ∧ a.id = e.accountId ∧
        o.currency = d.currency ∧ o.currency = a.currency ∧ o.currency = e.currency ∧
        o.mode = a.mode := by
  have hinit : Denominated db₀ := by
    refine ⟨⟨?_, ?_, ?_⟩, ?_, ?_, ?_⟩
    · simp [horders]
    · simp [hentries]
    · simp [haccounts]
    · intro e he
      rw [hentries] at he
      exact (Table.not_mem_empty e he).elim
    · simp [horders]
    · simp [horders]
  have hinv : Denominated c.state.db := by
    refine Setting.sound_invariant_among (I := fun w => Denominated w.db) ?_ ?_ ?_ hinit h
    · intro i a b w w' hinv hpre hs
      have hmoves := hs.moves hpre.guarded
      obtain ⟨input, -, -, hallow, hexec⟩ := hs
      have hdone := exec_done hexec
      have hcommit : ∀ {t : Transaction} {r : t.Result} {db : Database},
          a = .commit t → t.body S.platform input.env w.db = .ok (r, db) → w'.db = db →
          Denominated db := by
        rintro t r db rfl hbody rfl
        refine hinv.commit hmoves (Transaction.deciding hpre.guarded hbody) ?_
        rintro d hd x hx rfl hs
        exact hcalls i input w d.id x.id hallow d hd x hx rfl rfl hs
      cases hdone with
      | committed _ hbody =>
        rw [committed_db]
        exact hcommit rfl hbody (committed_db ..)
      | unacknowledged _ hbody =>
        rw [committed_db]
        exact hcommit rfl hbody (committed_db ..)
      | _ => exact hinv
    · rintro w w' ⟨clock, book, funds, db, -, -, hout, rfl⟩ hkeeps hinv
      exact hinv.outside hout hkeeps
    · exact fun i w hinv => hinv
  intro o ho e he hkey
  obtain ⟨d, hd, hdid, hdcur⟩ := hinv.decided o ho
  obtain ⟨a, ha, hsuits⟩ := hinv.suited o ho ⟨e, he, hkey⟩
  obtain ⟨b, hb, hbid, hbcur⟩ := hinv.owned e he
  have howner : e.accountId = o.accountId := by
    rcases hinv.consistent.entries e he with ⟨x, -, hopen⟩ | ⟨x, hx, hof⟩
    · rw [hkey] at hopen
      exact absurd (KeyKind.key_inj.1 hopen).1 (by simp)
    · obtain ⟨κ, -, hκ⟩ := hof.entryKey
      rw [hkey] at hκ
      rw [hof.accountId, order_eq_of_key ho hx (KeyKind.key_inj.1 hκ).2]
  obtain rfl : a = b := account_eq_of_id ha hb (hsuits.id.trans (howner.symm.trans hbid.symm))
  exact ⟨d, hd, a, ha, hdid, hsuits.id, hbid, hdcur.symm, hsuits.currency.symm,
    hsuits.currency.symm.trans hbcur, hsuits.mode.symm⟩

/-! ### Two runs -/

namespace Sample

/-- The calls are made in the currency of the decisions. -/
def inCurrency : Scene where
  platform := platform
  allow _ a _ w :=
    match a with
    | .commit (.reserve decisionId accountId) =>
      w.db.decisions.rows.all fun d => w.db.accounts.rows.all fun a =>
        !(d.id == decisionId && a.id == accountId && d.status == .eligible) ||
          d.currency == a.currency
    | _ => true

theorem inCurrency_reserves : inCurrency.setting.ReservesInCurrency := by
  intro i input w decisionId accountId hallow d hd a ha hdid haid hs
  have hall := List.all_eq_true.1 (List.all_eq_true.1 hallow d hd) a ha
  simpa [hdid, haid, hs] using hall

/-- The tables of the sample, with a decision to stake 10.00 in dollars. -/
def seedDollars : Database :=
  { seed with decisions := table _ [{ decision with currency := "USD" }] }

def dollars : Run := .init (.init seedDollars 1000 funds)

end Sample

/-- A stake in euros, for a decision in euros. -/
theorem single_currency_accepted :
    ∃ c : Run, c.state.db.entries.rows.map (·.currency) = ["EUR", "EUR", "EUR"] ∧
      ∀ o ∈ c.state.db.orders, ∀ e ∈ c.state.db.entries,
        e.entryKey = KeyKind.key .reserve o.idempotencyKey →
        ∃ d ∈ c.state.db.decisions, ∃ a ∈ c.state.db.accounts,
          d.id = o.decisionId ∧ a.id = o.accountId ∧ a.id = e.accountId ∧
          o.currency = d.currency ∧ o.currency = a.currency ∧ o.currency = e.currency ∧
          o.mode = a.mode := by
  have hrun : (Sample.inCurrency.replay (Sample.armed ++ Sample.accepted) Sample.seeded).map
      (fun c => c.state.db.entries.rows.map (·.currency)) = some ["EUR", "EUR", "EUR"] := by
    decide +kernel
  have hcalls : ∀ ch ∈ Sample.armed ++ Sample.accepted, ch.ofCall = true := by
    simp [Sample.armed, Sample.accepted, Choice.ofCall]
  obtain ⟨c, hc, hrows⟩ := Option.map_eq_some_iff.1 hrun
  exact ⟨c, hrows, single_currency Sample.inCurrency_reserves rfl rfl rfl
    (Scene.replay_among _ .init hcalls hc)⟩

/-- **A decision in dollars takes its stake from an account in euros**: its order is in dollars, and
the entry that reserves its stake in euros. -/
theorem dollars_from_euros :
    ∃ c : Run, Reachable (Sample.scene.setting.system.among fun w w' =>
        Sample.scene.setting.Drift w w' ∧ KeepsDecisions w.db w'.db) Sample.dollars c ∧
      ∃ o ∈ c.state.db.orders, ∃ e ∈ c.state.db.entries,
        e.entryKey = KeyKind.key .reserve o.idempotencyKey ∧
        o.currency = "USD" ∧ e.currency = "EUR" := by
  have hrun : (Sample.scene.replay (Sample.armed ++ Sample.accepted.take 2) Sample.dollars).map
      (fun c => c.state.db.orders.rows.any fun o => c.state.db.entries.rows.any fun e =>
        e.entryKey == KeyKind.key .reserve o.idempotencyKey && o.currency == "USD" &&
          e.currency == "EUR") = some true := by decide +kernel
  have hcalls : ∀ ch ∈ Sample.armed ++ Sample.accepted.take 2, ch.ofCall = true := by
    simp [Sample.armed, Sample.accepted, Choice.ofCall]
  obtain ⟨c, hc, hfound⟩ := Option.map_eq_some_iff.1 hrun
  obtain ⟨o, ho, hfound⟩ := List.any_eq_true.1 hfound
  obtain ⟨e, he, hfound⟩ := List.any_eq_true.1 hfound
  simp only [Bool.and_eq_true, beq_iff_eq] at hfound
  exact ⟨c, Scene.replay_among _ .init hcalls hc, o, ho, e, he, hfound.1.1, hfound.1.2, hfound.2⟩

end ApiScore
