import ApiScore.Simulation.OneDecision

/-!
# Planning again, and in another order

A signal that gets no order is not attempted again by the same tick: what rejected it once rejects
it again, and the reason is known.  A signal that gets one is decided.  The signals are taken in the
order of their keys, whatever the order they come in.

* `planPass` — `planNewDecisions`, with the bankroll that it leaves.
* `SimulationContext.refusal?` — why a signal gets no order, at a bankroll.
* `ClosedSignal` — a signal that a journal does not decide again.
* `planSignals_again` — a later journal, with no larger bankroll, decides nothing again.
* `planPass_again`, `planPass_perm` — the second pass is empty, and the order does not matter.
-/

set_option autoImplicit false

namespace ApiScore

open Ranked

section Pass

variable (R : Runtime) (context : SimulationContext) (existing : List BetDecision)
  (selectQuote : QuoteSelector) (now : Int)

/-- `planNewDecisions`, with the bankroll that it leaves. -/
def planPass (signals : List LiveSignal) (bankroll : BankrollState) :
    Except ServiceError (List BetDecision × BankrollState) :=
  (planSignals R context existing selectQuote now ⟨bankroll, existing.map (·.idempotencyKey), [], []⟩
    (eligibleSignals R context signals)).map fun plan => (plan.rows, plan.bankroll)

theorem planNewDecisions_eq (signals : List LiveSignal) (bankroll : BankrollState) :
    planNewDecisions R context existing selectQuote now signals bankroll =
      (planPass R context existing selectQuote now signals bankroll).map (·.1) := by
  rw [planNewDecisions, planPass]
  cases planSignals R context existing selectQuote now
    ⟨bankroll, existing.map (·.idempotencyKey), [], []⟩ (eligibleSignals R context signals) <;> rfl

end Pass

/-! ## Smaller bankrolls -/

/-- A bankroll that allows no more than another. -/
structure BankrollState.Within (bankroll bankroll' : BankrollState) : Prop where
  available : bankroll.availableCents ≤ bankroll'.availableCents
  exposure : bankroll'.openExposureCents ≤ bankroll.openExposureCents

theorem BankrollState.Within.refl (bankroll : BankrollState) : bankroll.Within bankroll :=
  ⟨le_rfl, le_rfl⟩

theorem BankrollState.Within.trans {a b c : BankrollState} (h : a.Within b) (h' : b.Within c) :
    a.Within c :=
  ⟨h.available.trans h'.available, h'.exposure.trans h.exposure⟩

/-- What the strategy asks of less is nothing where it asks nothing of more. -/
theorem requestedStakeCents_nonpos {strategy : BacktestStrategy} {available available' : Int}
    (hle : available ≤ available') (hpos : 0 < available)
    (h : requestedStakeCents strategy available' ≤ 0) :
    requestedStakeCents strategy available ≤ 0 := by
  revert h
  rw [requestedStakeCents, requestedStakeCents]
  cases strategy.staking.type with
  | flat => exact id
  | percentBankroll =>
    generalize jsRound (strategy.staking.amount * 100) = basisPoints
    intro h
    have hlt : (available' * basisPoints : ℚ) < 10000 := by
      have h := Int.floor_lt.1 (Int.lt_add_one_of_le h)
      push_cast at h
      linarith
    have hlt' : (available * basisPoints : ℚ) < 10000 := by
      rcases le_total (basisPoints : ℚ) 0 with hneg | hbasis
      · have hprod : (available * basisPoints : ℚ) ≤ 0 :=
          mul_nonpos_of_nonneg_of_nonpos (by exact_mod_cast hpos.le) hneg
        linarith
      · have hprod : (available * basisPoints : ℚ) ≤ available' * basisPoints :=
          mul_le_mul_of_nonneg_right (by exact_mod_cast hle) hbasis
        linarith
    refine Int.le_of_lt_add_one (Int.floor_lt.2 ?_)
    push_cast
    linarith

/-- **A bankroll that allows no stake allows none once it is smaller.** -/
theorem stakeCents_nonpos {context : SimulationContext} {bankroll bankroll' : BankrollState}
    (hwithin : bankroll.Within bankroll') (h : context.stakeCents bankroll' ≤ 0) :
    context.stakeCents bankroll ≤ 0 := by
  obtain ⟨havailable, hexposure⟩ := hwithin
  have hasked : min (requestedStakeCents context.strategy bankroll'.availableCents)
        bankroll'.availableCents ≤ 0 →
      min (requestedStakeCents context.strategy bankroll.availableCents)
        bankroll.availableCents ≤ 0 := by
    intro hmin
    by_cases hpos : 0 < bankroll.availableCents
    · rcases min_le_iff.1 hmin with hle | hle
      · exact min_le_iff.2 (.inl (requestedStakeCents_nonpos havailable hpos hle))
      · omega
    · exact min_le_iff.2 (.inr (by omega))
  revert h
  rw [SimulationContext.stakeCents, SimulationContext.stakeCents]
  cases context.risk.maxStakePerBet <;> cases context.risk.maxOpenExposure <;>
    simp only [Option.elim_none, Option.elim_some, min_le_iff] at hasked ⊢ <;> omega

/-! ## Refusals -/

section Refusal

variable (R : Runtime) (context : SimulationContext) (selectQuote : QuoteSelector) (now : Int)

/-- Why a signal gets no order. -/
def SimulationContext.refusal? (bankroll : BankrollState) (signal : LiveSignal) :
    Option RejectionCode :=
  match selectQuote (context.target signal) now with
  | none => some .noExecutableOdd
  | some quote =>
    if oddValue quote.oddValue < signal.minAcceptableOdd then some .belowMinOdd
    else if context.stakeCents bankroll ≤ 0 then some .limitExceeded
    else none

/-- A signal that a journal does not decide again: it has a decision underway, or what keeps it from
an order is written down. -/
def ClosedSignal (rows : List BetDecision) (bankroll : BankrollState) (signal : LiveSignal)
    (key : String) : Prop :=
  (historyOf rows key).any (·.isLive) = true ∨
    ∃ code, context.refusal? selectQuote now bankroll signal = some code ∧
      rejectionKey R.sha256 context.runId key code ∈ rows.map (·.idempotencyKey)

variable {R context selectQuote now} {existing rows : List BetDecision} {plan plan' : PlanState}
  {bankroll bankroll' : BankrollState} {signal : LiveSignal} {key : String} {code : RejectionCode}

theorem refusal?_within (hwithin : bankroll.Within bankroll')
    (h : context.refusal? selectQuote now bankroll' signal = some code) :
    context.refusal? selectQuote now bankroll signal = some code := by
  revert h
  rw [SimulationContext.refusal?, SimulationContext.refusal?]
  cases selectQuote (context.target signal) now with
  | none => exact id
  | some quote =>
    dsimp only
    split_ifs with _ hnone hnone' hnone'
    · exact id
    · exact id
    · exact absurd (stakeCents_nonpos hwithin hnone) hnone'
    · exact nofun
    · exact nofun

/-- A signal stays closed. -/
theorem ClosedSignal.later {rows' : List BetDecision} (hwithin : bankroll.Within bankroll')
    (hsub : ∀ d ∈ rows', d ∈ rows)
    (h : ClosedSignal R context selectQuote now rows' bankroll' signal key) :
    ClosedSignal R context selectQuote now rows bankroll signal key := by
  rcases h with hlive | ⟨code, hcode, hknown⟩
  · obtain ⟨d, hd, hlive⟩ := List.any_eq_true.1 hlive
    obtain ⟨hmem, hkey⟩ := List.mem_filter.1 hd
    exact .inl (List.any_eq_true.2 ⟨d, List.mem_filter.2 ⟨hsub d hmem, hkey⟩, hlive⟩)
  · obtain ⟨d, hd, hidem⟩ := List.mem_map.1 hknown
    exact .inr ⟨code, refusal?_within hwithin hcode, List.mem_map.2 ⟨d, hsub d hd, hidem⟩⟩

/-- A signal that is refused is rejected for that reason. -/
theorem planNewSignal_refused (hidle : (historyOf existing key).any (·.isLive) = false)
    (h : context.refusal? selectQuote now plan.bankroll signal = some code) :
    ∃ row : BetDecision, row.signalKey = key ∧
      planNewSignal R context existing selectQuote now plan signal key =
        .ok (plan.reject R context row code) := by
  rw [planNewSignal, hidle, if_neg Bool.false_ne_true]
  revert h
  rw [SimulationContext.refusal?]
  cases selectQuote (context.target signal) now with
  | none =>
    intro h
    obtain rfl := Option.some.inj h
    exact ⟨context.base signal key now, rfl, rfl⟩
  | some quote =>
    dsimp only
    split_ifs with hmin hnone
    · intro h
      obtain rfl := Option.some.inj h
      exact ⟨(context.base signal key now).quotedAt quote, rfl, rfl⟩
    · intro h
      obtain rfl := Option.some.inj h
      exact ⟨(context.base signal key now).quotedAt quote, rfl, rfl⟩
    · exact False.elim
    · exact False.elim

/-- A signal that is not refused gets an order. -/
theorem planNewSignal_ordered (hidle : (historyOf existing key).any (·.isLive) = false)
    (h : context.refusal? selectQuote now plan.bankroll signal = none)
    (hplan : planNewSignal R context existing selectQuote now plan signal key = .ok plan') :
    ∃ row : BetDecision, row.signalKey = key ∧ row.isLive = true ∧ plan'.rows = plan.rows ++ [row] ∧
      plan'.knownKeys = plan.knownKeys ∧ plan'.decided = plan.decided := by
  rw [planNewSignal, hidle, if_neg Bool.false_ne_true] at hplan
  rw [SimulationContext.refusal?] at h
  cases hquote : selectQuote (context.target signal) now with
  | none =>
    rw [hquote] at h
    cases h
  | some quote =>
    simp only [hquote] at h hplan
    split_ifs at h with hmin hnone
    rw [if_neg hmin, if_neg hnone] at hplan
    split_ifs at hplan
    obtain rfl := Except.ok.inj hplan
    exact ⟨_, rfl, rfl, rfl, rfl, rfl⟩

/-! ## One pass -/

/-- The keys that a plan knows are those of rows. -/
def KnownKept (existing : List BetDecision) (plan : PlanState) : Prop :=
  ∀ k ∈ plan.knownKeys, k ∈ (existing ++ plan.rows).map (·.idempotencyKey)

theorem KnownKept.append {row : BetDecision} (hknown : KnownKept existing plan)
    (hrows : plan'.rows = plan.rows ++ [row])
    (hkeys : ∀ k ∈ plan'.knownKeys, k = row.idempotencyKey ∨ k ∈ plan.knownKeys) :
    KnownKept existing plan' := by
  intro k hk
  rw [hrows, ← List.append_assoc, List.map_append, List.mem_append]
  rcases hkeys k hk with rfl | hk
  · exact .inr List.mem_cons_self
  · exact .inl (hknown k hk)

/-- What is rejected is written down, now or before. -/
theorem KnownKept.reject {row : BetDecision} (hknown : KnownKept existing plan)
    (code : RejectionCode) :
    KnownKept existing (plan.reject R context row code) ∧
      rejectionKey R.sha256 context.runId row.signalKey code ∈
        (existing ++ (plan.reject R context row code).rows).map (·.idempotencyKey) ∧
      (plan.reject R context row code).bankroll = plan.bankroll ∧
      (plan.reject R context row code).decided = plan.decided := by
  rw [PlanState.reject]
  split_ifs with hmem
  · exact ⟨hknown, hknown _ hmem, rfl, rfl⟩
  · have hkept := @KnownKept.append existing plan (plan.reject R context row code) { row with
      idempotencyKey := rejectionKey R.sha256 context.runId row.signalKey code
      status := .rejected, rejectionCode := some code } hknown
    rw [PlanState.reject, if_neg hmem] at hkept
    have hkept := hkept rfl fun k hk => List.mem_cons.1 hk
    exact ⟨hkept, hkept _ List.mem_cons_self, rfl, rfl⟩

/-- **A signal that is gone through is closed.** -/
theorem planSignal_closed (hknown : KnownKept existing plan) (hnew : key ∉ plan.decided)
    (h : planSignal R context existing selectQuote now plan signal key = .ok plan') :
    KnownKept existing plan' ∧ plan'.decided = key :: plan.decided ∧
      ClosedSignal R context selectQuote now (existing ++ plan'.rows) plan'.bankroll signal key := by
  rw [planSignal, if_neg hnew] at h
  have hthrough : KnownKept existing (plan.through key) := hknown
  cases hlive : (historyOf existing key).any (·.isLive) with
  | true =>
    rw [planNewSignal, if_pos hlive] at h
    obtain rfl := Except.ok.inj h
    exact ⟨hthrough, rfl,
      ClosedSignal.later (.refl _) (fun d hd => List.mem_append_left _ hd) (.inl hlive)⟩
  | false =>
    cases hrefusal : context.refusal? selectQuote now plan.bankroll signal with
    | some code =>
      obtain ⟨row, hkey, hreject⟩ := @planNewSignal_refused R context selectQuote now existing
        (plan.through key) signal key code hlive hrefusal
      obtain rfl := Except.ok.inj (hreject.symm.trans h)
      obtain ⟨hkept, hwritten, hbankroll, hdecided⟩ :=
        @KnownKept.reject R context existing (plan.through key) row hthrough code
      refine ⟨hkept, hdecided, .inr ⟨code, ?_, hkey ▸ hwritten⟩⟩
      rw [hbankroll]
      exact hrefusal
    | none =>
      obtain ⟨row, hkey, hrow, hrows, hkeys, hdecided⟩ :=
        @planNewSignal_ordered R context selectQuote now existing (plan.through key) plan' signal key
          hlive hrefusal h
      have hmem : row ∈ existing ++ plan'.rows := by
        rw [hrows]
        exact List.mem_append_right _ (List.mem_append_right _ List.mem_cons_self)
      exact ⟨hthrough.append hrows fun k hk => .inr (hkeys ▸ hk), hdecided,
        .inl (List.any_eq_true.2 ⟨row, mem_historyOf.2 ⟨hmem, hkey⟩, hrow⟩)⟩

/-- A closed signal is passed over. -/
theorem planSignal_of_closed (hkeys : ∀ d ∈ existing, d.idempotencyKey ∈ plan.knownKeys)
    (hnew : key ∉ plan.decided)
    (h : ClosedSignal R context selectQuote now existing plan.bankroll signal key) :
    planSignal R context existing selectQuote now plan signal key = .ok (plan.through key) := by
  rw [planSignal, if_neg hnew]
  cases hlive : (historyOf existing key).any (·.isLive) with
  | true =>
    rw [planNewSignal, if_pos hlive]
    rfl
  | false =>
    rcases h with h | ⟨code, hcode, hknown⟩
    · exact absurd (hlive.symm.trans h) Bool.false_ne_true
    · obtain ⟨row, rfl, hreject⟩ := @planNewSignal_refused R context selectQuote now existing
        (plan.through key) signal key code hlive hcode
      obtain ⟨d, hd, hidem⟩ := List.mem_map.1 hknown
      have hmem : rejectionKey R.sha256 context.runId row.signalKey code ∈
          (plan.through row.signalKey).knownKeys := hidem ▸ hkeys d hd
      refine hreject.trans ?_
      rw [PlanState.reject, if_pos hmem]

/-! ## A second pass -/

/-- The stakes of planned rows are positive. -/
theorem PlanStep.within {new : List BetDecision} (h : PlanStep R context existing plan plan' new) :
    plan'.bankroll.Within plan.bankroll := by
  have hstakes : 0 ≤ stakesOf new := by
    refine List.sum_nonneg fun x hx => ?_
    obtain ⟨d, hd, rfl⟩ := List.mem_map.1 hx
    rcases (h.planned d hd).decision with ⟨_, -, -, hstake, -⟩ | ⟨stake, -, hstake, hpos, -⟩
    · rw [hstake]
      exact le_rfl
    · rw [hstake]
      exact hpos.le
  have havailable := h.available
  have hexposure := h.exposure
  exact ⟨by omega, by omega⟩

/-- **A later journal decides nothing again.** -/
theorem planSignals_again {signals : List (LiveSignal × String)} {again : PlanState}
    (hknown : KnownKept existing plan)
    (h : planSignals R context existing selectQuote now plan signals = .ok plan')
    (hsub : ∀ d ∈ existing ++ plan'.rows, d ∈ rows)
    (hkeys : ∀ d ∈ rows, d.idempotencyKey ∈ again.knownKeys)
    (hdecided : again.decided = plan.decided) (hwithin : again.bankroll.Within plan'.bankroll) :
    planSignals R context rows selectQuote now again signals =
      .ok { again with decided := plan'.decided } := by
  induction signals generalizing plan again with
  | nil =>
    obtain rfl := Except.ok.inj h
    rw [planSignals, ← hdecided]
  | cons entry signals ih =>
    obtain ⟨signal, key⟩ := entry
    rw [planSignals] at h ⊢
    cases hsignal : planSignal R context existing selectQuote now plan signal key with
    | error e => simp [hsignal] at h
    | ok next =>
      simp only [hsignal] at h
      by_cases hnew : key ∈ plan.decided
      · rw [planSignal, if_pos hnew] at hsignal
        obtain rfl := Except.ok.inj hsignal
        rw [planSignal, if_pos (hdecided.symm ▸ hnew)]
        exact ih hknown h hkeys hdecided hwithin
      · obtain ⟨hnext, hgone, hclosed⟩ := planSignal_closed hknown hnew hsignal
        -- the rest of the pass adds rows and takes from the bankroll
        obtain ⟨new, hrest, -⟩ := planSignals_spec h
        have hlater : ClosedSignal R context selectQuote now rows again.bankroll signal key := by
          refine hclosed.later (hwithin.trans hrest.within) fun d hd => hsub d ?_
          rw [hrest.rows, ← List.append_assoc]
          exact List.mem_append_left _ hd
        rw [planSignal_of_closed hkeys (hdecided.symm ▸ hnew) hlater]
        refine @ih next (again.through key) hnext h hkeys ?_ hwithin
        rw [PlanState.through, hdecided, hgone]

end Refusal

section Twice

variable {R : Runtime} {context : SimulationContext} {existing rows : List BetDecision}
  {selectQuote : QuoteSelector} {now : Int} {signals signals' : List LiveSignal}
  {bankroll left : BankrollState}

/-- **Planning is idempotent**: on the journal with the rows that a pass returned, and on the
bankroll that it left, a second pass returns nothing, and leaves that bankroll. -/
theorem planPass_again
    (h : planPass R context existing selectQuote now signals bankroll = .ok (rows, left)) :
    planNewDecisions R context existing selectQuote now signals bankroll = .ok rows ∧
      planNewDecisions R context (existing ++ rows) selectQuote now signals left = .ok [] ∧
      planPass R context (existing ++ rows) selectQuote now signals left = .ok ([], left) := by
  have hagain : planPass R context (existing ++ rows) selectQuote now signals left =
      .ok ([], left) := by
    rw [planPass] at h ⊢
    cases hplan : planSignals R context existing selectQuote now
        ⟨bankroll, existing.map (·.idempotencyKey), [], []⟩ (eligibleSignals R context signals) with
    | error e =>
      rw [hplan] at h
      cases h
    | ok plan' =>
      rw [hplan] at h
      obtain ⟨rfl, rfl⟩ := Prod.mk.inj (Except.ok.inj h)
      have hknown : KnownKept existing ⟨bankroll, existing.map (·.idempotencyKey), [], []⟩ := by
        intro k hk
        rw [List.append_nil]
        exact hk
      have hsecond : planSignals R context (existing ++ plan'.rows) selectQuote now
          ⟨plan'.bankroll, (existing ++ plan'.rows).map (·.idempotencyKey), [], []⟩
          (eligibleSignals R context signals) = .ok ⟨plan'.bankroll,
            (existing ++ plan'.rows).map (·.idempotencyKey), plan'.decided, []⟩ :=
        planSignals_again hknown hplan (fun _ hd => hd) (fun _ hd => List.mem_map_of_mem hd) rfl
          (.refl _)
      rw [hsecond]
      rfl
  refine ⟨?_, ?_, hagain⟩
  · rw [planNewDecisions_eq, h]
    rfl
  · rw [planNewDecisions_eq, hagain]
    rfl

/-! ## Another order -/

/-- `digest('hex')`. -/
def HexDigests (sha256 : String → String) : Prop :=
  ∀ text, ∀ c ∈ (sha256 text).toList, c ∈ hexDigits

theorem HexDigests.isPlainText {sha256 : String → String} (h : HexDigests sha256) (text : String) :
    isPlainText (sha256 text) = true := by
  rw [ApiScore.isPlainText, List.all_eq_true]
  intro c hc
  have hall : (hexDigits.all fun c => decide (32 ≤ c.toNat) && decide (c.toNat < 127)) = true := by
    decide
  exact List.all_eq_true.1 hall c (h text c hc)

/-- Signals that the collation does not tell apart have the same key. -/
theorem separates_signals (hhex : HexDigests R.sha256)
    (hkeys : ∀ s ∈ signals, ∀ s' ∈ signals,
      signalKeyOf R.sha256 context.runId s = signalKeyOf R.sha256 context.runId s' → s = s') :
    Separates (comparing R.collation.compare (·.2))
      ((signals.filter context.plays).map fun s => (s, signalKeyOf R.sha256 context.runId s)) := by
  intro a ha b hb hab
  obtain ⟨s, hs, rfl⟩ := List.mem_map.1 ha
  obtain ⟨s', hs', rfl⟩ := List.mem_map.1 hb
  have hkey := R.collation.eq_of_plain (hhex.isPlainText _) (hhex.isPlainText _) hab
  rw [hkeys s (List.mem_of_mem_filter hs) s' (List.mem_of_mem_filter hs') hkey]

/-- **The order of the signals does not matter**: where those of one key are one signal, the
decisions and the bankroll left are the same for every order. -/
theorem planPass_perm (hhex : HexDigests R.sha256)
    (hkeys : ∀ s ∈ signals, ∀ s' ∈ signals,
      signalKeyOf R.sha256 context.runId s = signalKeyOf R.sha256 context.runId s' → s = s')
    (hperm : signals.Perm signals') :
    planPass R context existing selectQuote now signals bankroll =
        planPass R context existing selectQuote now signals' bankroll ∧
      planNewDecisions R context existing selectQuote now signals bankroll =
        planNewDecisions R context existing selectQuote now signals' bankroll := by
  have heligible : eligibleSignals R context signals = eligibleSignals R context signals' :=
    sort_eq_of_perm (separates_signals hhex hkeys) ((hperm.filter _).map _)
  have hpass : planPass R context existing selectQuote now signals bankroll =
      planPass R context existing selectQuote now signals' bankroll := by
    rw [planPass, heligible, planPass]
  exact ⟨hpass, by rw [planNewDecisions_eq, hpass, planNewDecisions_eq]⟩

end Twice

namespace Sample

/-- A signal of another match. -/
def otherSignal : LiveSignal :=
  { goalSignal with
    fixtureId := "g", providerFixtureId := "2", teamId := 2
    quoteTarget := { goalTarget with providerFixtureId := "2" } }

/-- The odd of the match that has one. -/
def goalQuote : ExecutableQuote :=
  ⟨"q", "provider", "f", "1", "book", "TEAM_GOALS_FT", "HOME_OVER_0.5", 1800, 4000, 4500, true⟩

def quoteSelector : QuoteSelector := fun target _ =>
  if target.providerFixtureId = "1" then some goalQuote else none

/-- The digests of the keys of the two signals, and of their first orders. -/
def keyDigest (text : String) : String :=
  if text = "a|f|1|Buts match" then
    "1d10e1dff85dad2c1539911681b6e2e04604aab543a1fccdb9a68946f84ca4e0"
  else if text = "a|g|2|Buts match" then
    "6ada7bf5b45275c69b971b25d432e9229235ff6536e9a07c72d2e9c1457f00b2"
  else if text =
      "a|1d10e1dff85dad2c1539911681b6e2e04604aab543a1fccdb9a68946f84ca4e0|ORDER:0" then
    "aaad07b0bd7f3b30c8834ceb9502751aabba4e698a3d37c6b087dc8fbac67fbc"
  else if text =
      "a|6ada7bf5b45275c69b971b25d432e9229235ff6536e9a07c72d2e9c1457f00b2|ORDER:0" then
    "18e4dae231eca92ce5ad9d64abd140546ccdacdf392d1a7999f078d92e51e9e9"
  else runtime.sha256 text

def keyedRuntime : Runtime := { runtime with sha256 := keyDigest }

theorem hexDigits_of_all {digest : String} (h : digest.toList.all hexDigits.contains = true) :
    ∀ c ∈ digest.toList, c ∈ hexDigits := fun c hc =>
  List.contains_iff_mem.1 (List.all_eq_true.1 h c hc)

theorem hexDigests_keyDigest : HexDigests keyDigest := by
  intro text
  rw [keyDigest]
  split_ifs
  · exact hexDigits_of_all (by decide +kernel)
  · exact hexDigits_of_all (by decide +kernel)
  · exact hexDigits_of_all (by decide +kernel)
  · exact hexDigits_of_all (by decide +kernel)
  · have hother : ((runtime.sha256 "").toList.all hexDigits.contains) = true := by decide +kernel
    exact hexDigits_of_all hother

end Sample

/-- An order and a rejection are not decided again. -/
theorem planPass_again_two : ∃ rows left, rows.map (·.status) = [.orderReserved, .rejected] ∧
    planNewDecisions Sample.keyedRuntime Sample.simulationRun.context [] Sample.quoteSelector 5000
      [Sample.otherSignal, Sample.goalSignal] (.of 10000 0 0) = .ok rows ∧
    planNewDecisions Sample.keyedRuntime Sample.simulationRun.context ([] ++ rows)
      Sample.quoteSelector 5000 [Sample.otherSignal, Sample.goalSignal] left = .ok [] := by
  have hrows : (planPass Sample.keyedRuntime Sample.simulationRun.context []
      Sample.quoteSelector 5000 [Sample.otherSignal, Sample.goalSignal] (.of 10000 0 0)).toOption.map
        (fun pass => pass.1.map (·.status)) = some [.orderReserved, .rejected] := by
    decide +kernel
  cases hpass : planPass Sample.keyedRuntime Sample.simulationRun.context []
      Sample.quoteSelector 5000 [Sample.otherSignal, Sample.goalSignal] (.of 10000 0 0) with
  | error e =>
    rw [hpass] at hrows
    cases hrows
  | ok pass =>
    rw [hpass] at hrows
    obtain ⟨hfirst, hsecond, -⟩ := planPass_again hpass
    exact ⟨pass.1, pass.2, Option.some.inj hrows, hfirst, hsecond⟩

/-- The two signals may come in either order. -/
theorem planPass_perm_two :
    planNewDecisions Sample.keyedRuntime Sample.simulationRun.context [] Sample.quoteSelector 5000
        [Sample.otherSignal, Sample.goalSignal] (.of 10000 0 0) =
      planNewDecisions Sample.keyedRuntime Sample.simulationRun.context [] Sample.quoteSelector 5000
        [Sample.goalSignal, Sample.otherSignal] (.of 10000 0 0) := by
  have hkeys : ∀ s ∈ [Sample.otherSignal, Sample.goalSignal],
      ∀ s' ∈ [Sample.otherSignal, Sample.goalSignal],
        signalKeyOf Sample.keyedRuntime.sha256 Sample.simulationRun.context.runId s =
          signalKeyOf Sample.keyedRuntime.sha256 Sample.simulationRun.context.runId s' → s = s' := by
    decide +kernel
  exact (planPass_perm Sample.hexDigests_keyDigest hkeys (List.Perm.swap _ _ [])).2

end ApiScore
