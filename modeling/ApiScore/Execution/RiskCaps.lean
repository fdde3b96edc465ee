import ApiScore.Execution.Replay
import ApiScore.Execution.RiskSessions

/-!
# The caps of the risk policy, under concurrency

Whatever the order of the statements of reservations, releases, cancellations and settlements, the
caps that a reservation checks hold at every moment.  The caps on a day are checked on the sums of
the day it began in; an entry written after midnight is the first of its day.

The realised loss of a day is bounded too, though nothing checks it: a reservation adds to the open
exposure only while the loss is under its cap, and a settlement turns exposure into loss.

* `Passes` — what a stake has passed when it is reserved.
* `WithinCaps`, `risk_caps` — the caps.
* `LossBounded`, `daily_loss_bound` — the loss of a day.
-/

set_option autoImplicit false

namespace ApiScore

open Relational Relation

/-! ## What a reserved stake has passed -/

structure Passes (input : RiskInput) : Prop where
  positive : 0 < input.stakeCents
  stakePerBet : input.stakeCents ≤ input.policy.maxStakePerBet
  dailyLoss : -input.dailySettledPnlCents < input.policy.maxDailyLoss
  dailyStake : input.dailyStakedCents + input.stakeCents ≤ input.policy.maxDailyStake
  openExposure : input.reservedCents + input.stakeCents ≤ input.policy.maxOpenExposure

theorem evaluateRisk_ok {input : RiskInput} (h : evaluateRisk input = .ok) : Passes input := by
  unfold evaluateRisk at h
  split_ifs at h with hage hstake hloss hdaily hopen havailable
  rw [not_or] at hstake
  refine ⟨by omega, by omega, ?_, by omega, by omega⟩
  have hmax : -input.dailySettledPnlCents ≤ max 0 (-input.dailySettledPnlCents) := le_max_right _ _
  omega

/-- The bounds of a policy that is in force. -/
theorem activePolicy?_positive {db : Database} {policy : RiskPolicy}
    (h : db.activePolicy? = some policy) :
    0 < policy.maxDailyStake ∧ 0 < policy.maxDailyLoss ∧ 0 < policy.maxOpenExposure := by
  obtain ⟨control, -, h⟩ := Option.bind_eq_some_iff.1 h
  obtain ⟨id, -, h⟩ := Option.bind_eq_some_iff.1 h
  have hcheck := db.policies.checked policy (Table.mem_of_find? h)
  simp only [policySchema, Bool.and_eq_true, decide_eq_true_eq] at hcheck
  omega

/-- Nothing has been staked on the account: at most its balance was adjusted. -/
structure Unstaked (db : Database) (accountId : String) : Prop where
  reserved : db.reservedOf accountId = 0
  adjusted : ∀ e ∈ db.entriesOf accountId, e.entryType = .adjustment

/-- Entries of other types do not count in a sum by day. -/
theorem filter_other {es : List BankrollLedgerEntry} {type : LedgerEntryType} {day : Int}
    (h : ∀ e ∈ es, e.entryType ≠ type) :
    (es.filter fun e => e.entryType == type && utcDay e.createdAt == day) = [] := by
  refine List.filter_eq_nil_iff.2 fun e he => ?_
  simp [h e he]

theorem stakedOn_other {es : List BankrollLedgerEntry} {day : Int}
    (h : ∀ e ∈ es, e.entryType ≠ .reserve) : stakedOn es day = 0 := by
  rw [stakedOn, filter_other h, List.map_nil, List.sum_nil]

theorem lostOn_other {es : List BankrollLedgerEntry} {day : Int}
    (h : ∀ e ∈ es, e.entryType ≠ .settle) : lostOn es day = 0 := by
  rw [lostOn, filter_other h, List.map_nil, List.sum_nil]

/-! ## The caps -/

/-- The caps of the policy hold of the account. -/
structure WithinCaps (policy : RiskPolicy) (db : Database) (accountId : String) : Prop where
  dailyStake : ∀ day, stakedOn (db.entriesOf accountId) day ≤ policy.maxDailyStake
  openExposure : ∀ account ∈ db.accounts, account.id = accountId →
    account.reservedBalance ≤ policy.maxOpenExposure
  stakePerBet : ∀ e ∈ db.entriesOf accountId, e.entryType = .reserve →
    e.reservedDelta ≤ policy.maxStakePerBet

/-- The same, with what a step needs of it. -/
structure Capped (policy : RiskPolicy) (accountId : String) (x : RiskWorld) : Prop where
  dailyStake : ∀ day, stakedOn (x.db.entriesOf accountId) day ≤ policy.maxDailyStake
  openExposure : x.db.reservedOf accountId ≤ policy.maxOpenExposure
  stake : ∀ e ∈ x.db.entriesOf accountId, e.entryType = .reserve →
    0 < e.reservedDelta ∧ e.reservedDelta ≤ policy.maxStakePerBet

section Caps

variable {P : Platform} {policy : RiskPolicy} {accountId : String} {x x' : RiskWorld}
  {es : List BankrollLedgerEntry}

theorem stakedOn_nonneg {day : Int}
    (h : ∀ e ∈ es, e.entryType = .reserve → 0 < e.reservedDelta) : 0 ≤ stakedOn es day := by
  refine List.sum_nonneg fun n hn => ?_
  obtain ⟨e, he, rfl⟩ := List.mem_map.1 hn
  obtain ⟨hmem, htype⟩ := List.mem_filter.1 he
  rw [Bool.and_eq_true, beq_iff_eq] at htype
  exact (h e hmem htype.1).le

theorem Capped.withinCaps (h : Capped policy accountId x) : WithinCaps policy x.db accountId where
  dailyStake := h.dailyStake
  openExposure account ha hid := by
    rw [← reservedOf_of_mem ha, hid]
    exact h.openExposure
  stakePerBet e he htype := (h.stake e he htype).2

theorem Capped.of_unstaked (h : Unstaked x.db accountId)
    (hpositive : 0 < policy.maxDailyStake ∧ 0 < policy.maxDailyLoss ∧ 0 < policy.maxOpenExposure) :
    Capped policy accountId x where
  dailyStake day := by
    rw [stakedOn_other fun e he => by simp [h.adjusted e he]]
    exact hpositive.1.le
  openExposure := by
    rw [h.reserved]
    exact hpositive.2.2.le
  stake e he htype := by
    rw [h.adjusted e he] at htype
    cases htype

/-- The entries of one stake count on their own day. -/
theorem stakedOn_singleton {e : BankrollLedgerEntry} {day : Int} (htype : e.entryType = .reserve) :
    stakedOn [e] day = if utcDay e.createdAt = day then e.reservedDelta else 0 := by
  by_cases hday : utcDay e.createdAt = day <;> simp [stakedOn, htype, hday]

/-- What commits nothing adds nothing to the exposure. -/
theorem reservedDelta_nonpos (h : ∀ e ∈ es, e.Unbinds) : (es.map (·.reservedDelta)).sum ≤ 0 := by
  induction es with
  | nil => exact le_refl _
  | cons e es ih =>
    obtain ⟨he, hes⟩ := List.forall_mem_cons.1 h
    have hdelta := he.reservedDelta
    have hrest := ih hes
    rw [List.map_cons, List.sum_cons]
    omega

/-- **Every step keeps the caps.** -/
theorem Capped.step (h : Capped policy accountId x) (hs : AccountStep policy accountId x x') :
    Capped policy accountId x' := by
  cases hs with
  | quiet _ hentries hreserved =>
    refine ⟨fun day => ?_, ?_, fun e he => ?_⟩
    · rw [hentries]
      exact h.dailyStake day
    · rw [hreserved]
      exact h.openExposure
    · rw [hentries] at he
      exact h.stake e he
  | frees _ hfrees =>
    obtain ⟨rows, hext, hrows⟩ := hfrees
    refine ⟨fun day => ?_, ?_, fun e he htype => ?_⟩
    · rw [hext.entries, stakedOn_append, stakedOn_other fun e he => (hrows e he).type, add_zero]
      exact h.dailyStake day
    · have hsum := reservedDelta_nonpos hrows
      have hopen := h.openExposure
      rw [hext.reserved]
      omega
    · rw [hext.entries, List.mem_append] at he
      rcases he with he | he
      · exact h.stake e he htype
      · exact ((hrows e he).type htype).elim
  | @reserves request account e t _ hext htype hstake ht hle hreserved hrisk =>
    have hpass := evaluateRisk_ok hrisk
    have hpositive : 0 < e.reservedDelta := by
      rw [hstake]
      exact hpass.positive
    have hcreated : e.createdAt = x.clock := hext.createdAt e (List.mem_singleton_self e)
    have hdaily : stakedOn (x.db.entriesOf accountId) (utcDay t) + e.reservedDelta
        ≤ policy.maxDailyStake := by
      rw [hstake]
      exact hpass.dailyStake
    refine ⟨fun day => ?_, ?_, fun f hf hftype => ?_⟩
    · rw [hext.entries, stakedOn_append, stakedOn_singleton htype]
      by_cases hday : utcDay e.createdAt = day
      · rw [if_pos hday]
        by_cases hsame : utcDay t = day
        · rw [← hsame]
          exact hdaily
        · -- midnight has passed since the sums were read: the entry is the first of its day
          have hlater : utcDay t < day := by
            rw [hcreated] at hday
            simp only [utcDay] at hday hsame ⊢
            omega
          have hnonneg := @stakedOn_nonneg _ (utcDay t) fun e he htype => (h.stake e he htype).1
          rw [stakedOn_later ht hlater]
          omega
      · rw [if_neg hday, add_zero]
        exact h.dailyStake day
    · rw [hext.reserved, ← hreserved, List.map_singleton, List.sum_singleton, hstake]
      exact hpass.openExposure
    · rw [hext.entries, List.mem_append, List.mem_singleton] at hf
      rcases hf with hf | rfl
      · exact h.stake f hf hftype
      · rw [hstake]
        exact ⟨hpass.positive, hpass.stakePerBet⟩

/-- An invariant that what can happen to the account keeps holds in every state of a run. -/
theorem RiskRun.invariant {I : RiskWorld → Prop}
    (hstep : ∀ x x', I x → AccountStep policy accountId x x' → I x') (hguarded : Guarded policy x)
    (hinit : I x) (h : RiskRun P x x') : I x' := by
  have hboth : Guarded policy x' ∧ I x' := by
    induction h with
    | refl => exact ⟨hguarded, hinit⟩
    | tail _ hlast ih =>
      obtain ⟨hnext, hsteps⟩ := ih.1.step hlast
      exact ⟨hnext, hstep _ _ ih.2 (hsteps accountId)⟩
  exact hboth.2

theorem Guarded.start {db₀ : Database} {clock : Int} (hactive : db₀.activePolicy? = some policy)
    (hpast : ∀ e ∈ db₀.entries, e.createdAt ≤ clock) : Guarded policy (.start db₀ clock) where
  active := hactive
  past := hpast
  exclusive _ _ _ := fun ⟨_, _, hbad, _⟩ => nomatch hbad
  reads _ _ _ hbad := nomatch hbad

/-- **The caps hold at every moment**, of every account on which nothing was staked before the policy
came into force. -/
theorem risk_caps {db₀ : Database} {clock : Int} (hactive : db₀.activePolicy? = some policy)
    (hpast : ∀ e ∈ db₀.entries, e.createdAt ≤ clock) (hopened : Unstaked db₀ accountId)
    (h : RiskRun P (.start db₀ clock) x) : WithinCaps policy x.db accountId :=
  (h.invariant (I := Capped policy accountId) (fun _ _ h hs => h.step hs) (.start hactive hpast)
    (.of_unstaked hopened (activePolicy?_positive hactive))).withinCaps

end Caps

/-! ## The loss of a day -/

/-- No day has lost too much, and what is open now cannot make it so. -/
structure LossBounded (policy : RiskPolicy) (accountId : String) (x : RiskWorld) : Prop where
  lost : ∀ day, lostOn (x.db.entriesOf accountId) day < policy.maxDailyLoss + policy.maxOpenExposure
  exposed : ∀ day, utcDay x.clock ≤ day →
    lostOn (x.db.entriesOf accountId) day + x.db.reservedOf accountId
      < policy.maxDailyLoss + policy.maxOpenExposure

section Loss

variable {P : Platform} {policy : RiskPolicy} {accountId : String} {x x' : RiskWorld}

theorem utcDay_mono {t t' : Int} (h : t ≤ t') : utcDay t ≤ utcDay t' := by
  simp only [utcDay]
  omega

theorem reservedOf_nonneg (db : Database) (accountId : String) : 0 ≤ db.reservedOf accountId := by
  rw [Database.reservedOf]
  cases h : db.account? accountId with
  | none => exact le_refl _
  | some a =>
    have hcheck := db.accounts.checked a (Table.mem_of_find? h)
    simp only [accountSchema, Bool.and_eq_true, decide_eq_true_eq] at hcheck
    exact hcheck.1.1.2

/-- **A settlement loses at most the exposure it closes.** -/
theorem lostOn_le {rows : List BankrollLedgerEntry} (h : ∀ e ∈ rows, e.Unbinds) (day : Int) :
    lostOn rows day ≤ -(rows.map (·.reservedDelta)).sum := by
  induction rows with
  | nil => exact le_refl _
  | cons e rows ih =>
    obtain ⟨he, hrows⟩ := List.forall_mem_cons.1 h
    have hrest := ih hrows
    have hfirst : lostOn [e] day ≤ -e.reservedDelta := by
      have hdelta := he.reservedDelta
      by_cases htype : e.entryType = .settle
      · have hamount := he.amount htype
        by_cases hday : utcDay e.createdAt = day
        · simp [lostOn, htype, hday]
          omega
        · simp [lostOn, hday]
          omega
      · rw [lostOn_other (List.forall_mem_singleton.2 htype)]
        omega
    rw [show e :: rows = [e] ++ rows from rfl, lostOn_append]
    simp only [List.singleton_append, List.map_cons, List.sum_cons]
    omega

theorem LossBounded.of_unstaked (h : Unstaked x.db accountId)
    (hpositive : 0 < policy.maxDailyStake ∧ 0 < policy.maxDailyLoss ∧ 0 < policy.maxOpenExposure) :
    LossBounded policy accountId x := by
  have hlost : ∀ day, lostOn (x.db.entriesOf accountId) day = 0 :=
    fun day => lostOn_other fun e he => by simp [h.adjusted e he]
  refine ⟨fun day => ?_, fun day _ => ?_⟩
  · rw [hlost]
    omega
  · rw [hlost, h.reserved]
    omega

/-- **Every step keeps the loss bounded.** -/
theorem LossBounded.step (hpositive : 0 < policy.maxDailyLoss) (h : LossBounded policy accountId x)
    (hs : AccountStep policy accountId x x') : LossBounded policy accountId x' := by
  cases hs with
  | quiet hclock hentries hreserved =>
    refine ⟨fun day => ?_, fun day hday => ?_⟩
    · rw [hentries]
      exact h.lost day
    · rw [hentries, hreserved]
      exact h.exposed day ((utcDay_mono hclock).trans hday)
  | frees hclock hfrees =>
    obtain ⟨rows, hext, hrows⟩ := hfrees
    have hreserved := hext.reserved
    refine ⟨fun day => ?_, fun day hday => ?_⟩
    · rw [hext.entries, lostOn_append]
      by_cases hday : utcDay x.clock ≤ day
      · have hle := lostOn_le hrows day
        have hopen := h.exposed day hday
        have hnonneg := reservedOf_nonneg x'.db accountId
        omega
      · -- what is settled now is not of an earlier day
        have hnone : lostOn rows day = 0 := by
          rw [lostOn, List.filter_eq_nil_iff.2, List.map_nil, List.sum_nil]
          intro e he
          rw [hext.createdAt e he, Bool.and_eq_true, beq_iff_eq, beq_iff_eq]
          omega
        have hlost := h.lost day
        omega
    · rw [hext.entries, lostOn_append]
      have hle := lostOn_le hrows day
      have hopen := h.exposed day (hclock ▸ hday)
      omega
  | @reserves request account e t hclock hext htype hstake ht hle hreserved hrisk =>
    have hpass := evaluateRisk_ok hrisk
    have hnone : ∀ day, lostOn [e] day = 0 := fun day =>
      lostOn_other (List.forall_mem_singleton.2 (by simp [htype]))
    have hexposure : x'.db.reservedOf accountId ≤ policy.maxOpenExposure := by
      rw [hext.reserved, ← hreserved, List.map_singleton, List.sum_singleton, hstake]
      exact hpass.openExposure
    refine ⟨fun day => ?_, fun day hday => ?_⟩
    · rw [hext.entries, lostOn_append, hnone, add_zero]
      exact h.lost day
    · rw [hext.entries, lostOn_append, hnone, add_zero]
      have hafter : utcDay t ≤ day := (utcDay_mono hle).trans (hclock ▸ hday)
      rcases hafter.eq_or_lt with rfl | hlater
      · have hloss : -(-lostOn (x.db.entriesOf accountId) (utcDay t)) < policy.maxDailyLoss :=
          hpass.dailyLoss
        omega
      · rw [lostOn_later ht hlater]
        omega

/-- **The loss of a day stays under the two caps together**, whatever is reserved, released and
settled, and for whatever payouts. -/
theorem daily_loss_bound {db₀ : Database} {clock : Int} (hactive : db₀.activePolicy? = some policy)
    (hpast : ∀ e ∈ db₀.entries, e.createdAt ≤ clock) (hopened : Unstaked db₀ accountId)
    (h : RiskRun P (.start db₀ clock) x) (day : Int) :
    lostOn (x.db.entriesOf accountId) day < policy.maxDailyLoss + policy.maxOpenExposure := by
  have hpositive := activePolicy?_positive hactive
  exact (h.invariant (I := LossBounded policy accountId) (fun _ _ h hs => h.step hpositive.2.1 hs)
    (.start hactive hpast) (.of_unstaked hopened hpositive)).lost day

end Loss

/-! ## A stake, reserved and lost -/

section Undisturbed

variable {P : Platform} {db db₁ db₂ db' : Database} {clock : Int}

/-- A reservation that nobody disturbs. -/
theorem RiskRun.reserve {r : Reserver} {control : ExecutionControl} {policy : RiskPolicy}
    {account : BankrollAccount} {env : TxEnv} {u : Unit}
    (hadmits : admitRequest r.request env db = .ok (.check control policy, db₁))
    (hlock : lockAccount r.request.accountId db = .ok (account, db₂))
    (hfit : unfit account control policy = false) (hnow : env.dbNow = clock)
    (hbody : r.around (decideReservation r.request policy account (clock / 1000)
      (db.dailyAggregates account.id (utcDayStart (clock / 1000))) env.dbNow) env db
        = .ok (u, db')) (hactive : db'.activePolicy? = db.activePolicy?) :
    ∃ x, RiskRun P (.start db clock) x ∧ x.db = db' ∧ x.clock = clock ∧
      ∀ i accountId, ¬ x.Holds i accountId := by
  have hstart : ∀ i accountId, ¬ (RiskWorld.start db clock).Holds i accountId := by
    rintro i accountId ⟨_, _, hbad, -⟩
    cases hbad
  have hadmitted : RiskRun P (.start db clock) _ := .single ⟨.admits (i := 0) rfl hadmits, rfl⟩
  have hlocked := hadmitted.tail ⟨.lock (RiskWorld.put_self ..) (fun j hj => ?_) hlock hfit, rfl⟩
  swap
  · rcases holds_put hj with ⟨-, _, _, heq, hstage, -⟩ | ⟨-, hj⟩
    · obtain ⟨-, rfl⟩ := Prod.mk.inj (Option.some.inj heq)
      cases hstage
    · exact hstart _ _ hj
  have hsummed := hlocked.tail ⟨.sum (RiskWorld.put_self ..), rfl⟩
  have hcommitted := hsummed.tail ⟨.commit (RiskWorld.put_self ..) hnow hbody, hactive⟩
  refine ⟨_, hcommitted, rfl, rfl, fun i accountId hi => ?_⟩
  rcases holds_put hi with ⟨-, _, _, hbad, -⟩ | ⟨hne, hi⟩
  · cases hbad
  · rcases holds_put hi with ⟨rfl, -⟩ | ⟨-, hi⟩
    · exact hne rfl
    · rcases holds_put hi with ⟨rfl, -⟩ | ⟨-, hi⟩
      · exact hne rfl
      · rcases holds_put hi with ⟨rfl, -⟩ | ⟨-, hi⟩
        · exact hne rfl
        · exact hstart _ _ hi

end Undisturbed

namespace Sample

def stakeRequest : ReserveStakeRequest where
  accountId := "account"
  entryKey := "reserve"
  stake := 1000
  quoteCapturedAt := 0
  orderId := none

def lossInput : SettleStakeInput where
  accountId := "account"
  entryKey := "settle"
  stake := 1000
  payout := 0
  orderId := none

/-- A stake of 10.00 is reserved on the account of the sample, and lost: the tables before, in
between and after, with the policy. -/
def stakeLost : Option (RiskPolicy × Database × Database × Database) := do
  let c ← scene.replay armed seeded
  let db := c.state.db
  let env := TxEnv.at 1000 ""
  let (admission, _) ← (admitRequest stakeRequest env db).toOption
  match admission with
  | .check control policy =>
    let (account, _) ← (lockAccount "account" db).toOption
    if unfit account control policy then none
    else
      let (_, db') ← ((Reserver.stake stakeRequest).around
        (decideReservation stakeRequest policy account 1000
          (db.dailyAggregates account.id (utcDayStart 1000)) env.dbNow) env db).toOption
      let (_, db'') ← (settleStakeTx lossInput env db').toOption
      if db.activePolicy? = some policy ∧ db'.activePolicy? = some policy ∧
          db''.activePolicy? = some policy then
        return (policy, db, db', db'')
      else none
  | _ => none

theorem toOption_eq_some {ε α : Type} {x : Except ε α} {a : α} (h : x.toOption = some a) :
    x = .ok a := by
  cases x with
  | error e => cases h
  | ok b => rw [Option.some.inj h]

theorem stakeLost_run {policy : RiskPolicy} {db db' db'' : Database}
    (h : stakeLost = some (policy, db, db', db'')) : db.activePolicy? = some policy ∧
      ∃ x, x.db = db'' ∧ RiskRun scene.platform (.start db 1000000) x := by
  simp only [stakeLost, Option.bind_eq_bind, Option.bind_eq_some_iff] at h
  obtain ⟨c, -, ⟨admission, db₁⟩, hadmits, h⟩ := h
  cases admission with
  | replay | refused => cases h
  | check control p =>
    obtain ⟨⟨account, db₂⟩, hlock, h⟩ := Option.bind_eq_some_iff.1 h
    split_ifs at h with hfit
    obtain ⟨⟨u, x⟩, hbody, h⟩ := Option.bind_eq_some_iff.1 h
    obtain ⟨⟨r, y⟩, hsettle, h⟩ := Option.bind_eq_some_iff.1 h
    split_ifs at h with hactive
    obtain ⟨rfl, rfl, rfl, rfl⟩ : p = policy ∧ c.state.db = db ∧ x = db' ∧ y = db'' := by
      simpa using h
    obtain ⟨z, hrun, rfl, hclock, hfree⟩ := @RiskRun.reserve scene.platform _ _ _ _
      1000000 (.stake stakeRequest) _ _ _ _ _ (toOption_eq_some hadmits)
      (toOption_eq_some hlock) (by simpa using hfit) rfl (toOption_eq_some hbody)
      (hactive.2.1.trans hactive.1.symm)
    refine ⟨hactive.1, _, rfl, hrun.tail ⟨.transact (t := .settleStake lossInput)
      (fun _ _ h => nomatch h) ?_ (toOption_eq_some hsettle) ?_, ?_⟩⟩
    · rw [hclock]
      rfl
    · exact fun i accountId hi => (hfree i accountId hi).elim
    · exact hactive.2.2.trans hactive.2.1.symm

/-- Nothing was staked before the run, whose entries are these. -/
def opened (db db'' : Database) : Bool :=
  db.reservedOf "account" == 0 &&
    (db.entries.rows.all fun e => e.entryType == .adjustment && decide (e.createdAt ≤ 1000000)) &&
    (db''.entriesOf "account").map (fun e => (e.entryType, e.amount, e.reservedDelta)) ==
      [(.adjustment, 10000, 0), (.reserve, -1000, 1000), (.settle, 0, -1000)]

theorem opened_spec {db db'' : Database} (h : opened db db'' = true) :
    (∀ e ∈ db.entries, e.createdAt ≤ 1000000) ∧ Unstaked db "account" ∧
      (db''.entriesOf "account").map (fun e => (e.entryType, e.amount, e.reservedDelta)) =
        [(.adjustment, 10000, 0), (.reserve, -1000, 1000), (.settle, 0, -1000)] := by
  simp only [opened, Bool.and_eq_true, beq_iff_eq, List.all_eq_true, decide_eq_true_eq] at h
  obtain ⟨⟨hreserved, hentries⟩, hview⟩ := h
  exact ⟨fun e he => (hentries e he).2,
    ⟨hreserved, fun e he => (hentries e (mem_entriesOf.1 he).1).1⟩, hview⟩

theorem stakeLost_opened : stakeLost.any (fun s => opened s.2.1 s.2.2.2) = true := by
  decide +kernel

end Sample

/-- The caps of the policy of the sample, after a stake of 10.00. -/
theorem risk_caps_stake : ∃ (policy : RiskPolicy) (x : RiskWorld),
    (x.db.entriesOf "account").map (fun e => (e.entryType, e.amount, e.reservedDelta)) =
      [(.adjustment, 10000, 0), (.reserve, -1000, 1000), (.settle, 0, -1000)] ∧
      WithinCaps policy x.db "account" := by
  obtain ⟨⟨policy, db, db', db''⟩, hsome, hview⟩ := (Option.any_eq_true _ _).1 Sample.stakeLost_opened
  obtain ⟨hactive, x, rfl, hrun⟩ := Sample.stakeLost_run hsome
  obtain ⟨hpast, hopened, hrows⟩ := Sample.opened_spec hview
  exact ⟨policy, x, hrows, risk_caps hactive hpast hopened hrun⟩

/-- The loss of a day, after a stake of 10.00 is lost. -/
theorem daily_loss_bound_stake : ∃ (policy : RiskPolicy) (x : RiskWorld),
    (x.db.entriesOf "account").map (fun e => (e.entryType, e.amount, e.reservedDelta)) =
      [(.adjustment, 10000, 0), (.reserve, -1000, 1000), (.settle, 0, -1000)] ∧
      lostOn (x.db.entriesOf "account") 0 < policy.maxDailyLoss + policy.maxOpenExposure := by
  obtain ⟨⟨policy, db, db', db''⟩, hsome, hview⟩ := (Option.any_eq_true _ _).1 Sample.stakeLost_opened
  obtain ⟨hactive, x, rfl, hrun⟩ := Sample.stakeLost_run hsome
  obtain ⟨hpast, hopened, hrows⟩ := Sample.opened_spec hview
  exact ⟨policy, x, hrows, daily_loss_bound hactive hpast hopened hrun 0⟩

end ApiScore
