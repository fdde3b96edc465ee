import ApiScore.Backtest.Staking
import ApiScore.Simulation.Bankroll
import ApiScore.Simulation.Replanning
import ApiScore.Simulation.TickTimes

/-!
# The summary of a journal

`summarizeJournal` replays the settled bets of a run in the order of their settlement, and those of
one instant in the order of their identifiers.  A run never stakes what it does not have, but a bet
that is staked from a win, and lost at the instant of that win, may come before it in the replay.

* `summarizeJournal` — the summary, with the replay `replayEquity`.
* `TickInOrder` — a tick comes after what the journal says, and settles no bet at the instant of its
  decision.
* `Covered` — the invariant: at every instant, what was settled before it pays for what was staked.
* `summaryConsistent_reachable` — over any run of ticks in order.
* `summary_below_zero` — two ticks of one instant.
-/

set_option autoImplicit false

namespace ApiScore

open Relational Ranked

/-! ## The summary -/

/-- `round`. -/
def roundTo (value : ℚ) (decimals : Nat) : ℚ := jsRound (value * 10 ^ decimals) / 10 ^ decimals

/-- How often each key occurs, in the order of the first occurrences. -/
def tally {κ : Type} [BEq κ] (keys : List κ) : List (κ × Nat) :=
  keys.eraseDups.map fun key => (key, keys.count key)

/-- The amounts of a summary are in cents. -/
structure SummaryBankroll where
  initial : Int
  available : Int
  openExposure : Int
  equity : Int

structure SummaryPnl where
  realized : Int
  turnover : Int

structure SummaryDecisions where
  total : Nat
  byStatus : List (DecisionStatus × Nat)
  rejectionsByCode : List (RejectionCode × Nat)

structure SummarySettled where
  total : Nat
  won : Nat
  lost : Nat
  void : Nat
  noResult : Nat

structure SummaryLatency where
  configuredMs : Int
  avgObservedMs : Option Int

structure SummarySignals where
  total : Nat
  withExecutableOdd : Nat
  coveragePct : Option ℚ

structure SimulationSummary where
  runId : String
  status : SimulationRunStatus
  currency : String
  bankroll : SummaryBankroll
  pnl : SummaryPnl
  decisions : SummaryDecisions
  settled : SummarySettled
  hitRatePct : Option ℚ
  roiPct : Option ℚ
  maxDrawdownPct : ℚ
  latency : SummaryLatency
  avgSlippagePct : Option ℚ
  signals : SummarySignals

/-- The order that the bets are replayed in. -/
def settledOrder (C : Collation) : BetDecision → BetDecision → Ordering :=
  compareLex (comparing compare fun d => d.settledAt.getD 0) (comparing C.compare (·.id))

instance (C : Collation) : Std.TransCmp (settledOrder C) :=
  inferInstanceAs (Std.TransCmp (compareLex _ _))

/-- The bets that are settled, in that order. -/
def settledOf (C : Collation) (rows : List BetDecision) : List BetDecision :=
  sort (settledOrder C) (rows.filter fun d => d.status == .completed)

/-- The replay of the settled bets so far. -/
structure EquityReplay where
  turnoverCents : Int
  equity : Int
  peak : Int
  maxDrawdownPct : ℚ

/-- One more settled bet. -/
def EquityReplay.settle (replay : EquityReplay) (row : BetDecision) : EquityReplay :=
  let equity := replay.equity + row.profit.getD 0
  let peak := max replay.peak equity
  { equity, peak
    turnoverCents :=
      if row.outcome = some .won ∨ row.outcome = some .lost then
        replay.turnoverCents + row.stake.getD 0
      else replay.turnoverCents
    maxDrawdownPct :=
      if 0 < peak then max replay.maxDrawdownPct ((peak - equity : ℚ) / peak * 100)
      else replay.maxDrawdownPct }

def replayEquity (initialCents : Int) (settled : List BetDecision) : EquityReplay :=
  settled.foldl (·.settle ·) ⟨0, initialCents, initialCents, 0⟩

/-- The signals of a journal, and those that had an odd at one of their decisions. -/
def summarySignals (rows : List BetDecision) : SummarySignals :=
  let keys := (rows.map (·.signalKey)).eraseDups
  let withExecutableOdd := keys.countP fun key =>
    (historyOf rows key).any fun row => row.rejectionCode != some .noExecutableOdd
  { total := keys.length
    withExecutableOdd
    coveragePct :=
      if keys.length ≠ 0 then some (roundTo (withExecutableOdd / keys.length * 100) 2) else none }

section Summary

variable (R : Runtime) (run : SimulationRunRow) (rows : List BetDecision)

/-- The amounts that `fromCents` prints. -/
def summaryAmounts : List Int :=
  let bankroll := bankrollFromJournal run.initialBankroll rows
  [bankroll.initialCents, bankroll.availableCents, bankroll.openExposureCents,
    bankroll.initialCents + bankroll.realizedProfitCents, bankroll.realizedProfitCents,
    (replayEquity bankroll.initialCents (settledOf R.collation rows)).turnoverCents]

/-- What `summarizeJournal` prints. -/
def summaryOf : SimulationSummary :=
  let bankroll := bankrollFromJournal run.initialBankroll rows
  let settled := settledOf R.collation rows
  let replay := replayEquity bankroll.initialCents settled
  let count (outcome : DecisionOutcome) := settled.countP (·.outcome == some outcome)
  let won := count .won
  let lost := count .lost
  let executed := rows.filter fun row => row.executableOdd.isSome && row.executedAt.isSome
  let slippages := executed.filterMap (·.slippagePct)
  let latencies := executed.map fun row => row.executedAt.getD 0 - row.decidedAt
  { runId := run.id
    status := run.status
    currency := run.currency
    bankroll :=
      { initial := bankroll.initialCents
        available := bankroll.availableCents
        openExposure := bankroll.openExposureCents
        equity := bankroll.initialCents + bankroll.realizedProfitCents }
    pnl := ⟨bankroll.realizedProfitCents, replay.turnoverCents⟩
    decisions :=
      { total := rows.length
        byStatus := tally (rows.map (·.status))
        rejectionsByCode := tally (rows.filterMap (·.rejectionCode)) }
    settled := ⟨settled.length, won, lost, count .void, count .noResult⟩
    hitRatePct := if 0 < won + lost then some (roundTo (won / (won + lost) * 100) 2) else none
    roiPct :=
      if 0 < replay.turnoverCents then
        some (roundTo (bankroll.realizedProfitCents / replay.turnoverCents * 100) 2)
      else none
    maxDrawdownPct := roundTo replay.maxDrawdownPct 2
    latency :=
      { configuredMs := run.riskSnapshot.executionLatencyMs
        avgObservedMs :=
          if latencies.isEmpty then none else some (jsRound (mean (latencies.map (↑)))) }
    avgSlippagePct :=
      -- the column is in ten-thousandths
      if slippages.isEmpty then none
      else some (roundTo (mean (slippages.map fun s => (s : ℚ) / 10000)) 4)
    signals := summarySignals rows }

/-- `summarizeJournal`; `fromCents` throws where an amount is not a safe integer. -/
def summarizeJournal : Except ServiceError SimulationSummary :=
  if (summaryAmounts R run rows).all isSafeInteger then .ok (summaryOf R run rows)
  else .error (.other "Centimes non entiers")

/-- What a summary says is consistent. -/
structure SummaryConsistent : Prop where
  /-- The equity that is replayed is never below zero. -/
  equity : ∀ settled, settled <+: settledOf R.collation rows →
    0 ≤ (replayEquity run.initialBankroll settled).equity
  drawdown : ∀ summary, summarizeJournal R run rows = .ok summary →
    0 ≤ summary.maxDrawdownPct ∧ summary.maxDrawdownPct ≤ 100
  balance : ∀ summary, summarizeJournal R run rows = .ok summary →
    summary.bankroll.available + summary.bankroll.openExposure = summary.bankroll.equity
  returned : (∃ summary, summarizeJournal R run rows = .ok summary) ↔
    ∀ amount ∈ summaryAmounts R run rows, isSafeInteger amount = true

end Summary

/-! ## The replay -/

section Replay

variable {initialCents : Int} {settled : List BetDecision} {row : BetDecision}

theorem replayEquity_concat (initialCents : Int) (settled : List BetDecision) (row : BetDecision) :
    replayEquity initialCents (settled ++ [row]) =
      (replayEquity initialCents settled).settle row := by
  rw [replayEquity, List.foldl_concat, replayEquity]

/-- What the equity is of some settled bets. -/
theorem equity_replayEquity (initialCents : Int) (settled : List BetDecision) :
    (replayEquity initialCents settled).equity =
      initialCents + (settled.map fun d => d.profit.getD 0).sum := by
  induction settled using List.reverseRecOn with
  | nil => exact (add_zero _).symm
  | append_singleton settled row ih =>
    rw [replayEquity_concat, List.map_append, List.sum_append, List.map_singleton,
      List.sum_singleton, ← add_assoc, ← ih]
    rfl

/-- The drawdown stays within its bounds where the equity does. -/
theorem replayEquity_bounds (hpos : 0 < initialCents)
    (h : ∀ before, before <+: settled → 0 ≤ (replayEquity initialCents before).equity) :
    0 < (replayEquity initialCents settled).peak ∧
      0 ≤ (replayEquity initialCents settled).maxDrawdownPct ∧
      (replayEquity initialCents settled).maxDrawdownPct ≤ 100 := by
  induction settled using List.reverseRecOn with
  | nil => exact ⟨hpos, le_rfl, by norm_num [replayEquity]⟩
  | append_singleton settled row ih =>
    obtain ⟨hpeak, hnonneg, hle⟩ := ih fun before hbefore =>
      h before (hbefore.trans (List.prefix_append _ _))
    have hequity := h _ List.prefix_rfl
    rw [replayEquity_concat] at hequity ⊢
    generalize replayEquity initialCents settled = replay at hpeak hnonneg hle hequity ⊢
    have hpeak' : 0 < max replay.peak (replay.equity + row.profit.getD 0) := lt_max_of_lt_left hpeak
    change 0 ≤ replay.equity + row.profit.getD 0 at hequity
    refine ⟨hpeak', ?_⟩
    simp only [EquityReplay.settle, if_pos hpeak']
    generalize replay.equity + row.profit.getD 0 = equity at hequity hpeak' ⊢
    have hpeakQ : (0 : ℚ) < (max replay.peak equity : Int) := by exact_mod_cast hpeak'
    have hequityQ : (0 : ℚ) ≤ (equity : Int) := by exact_mod_cast hequity
    refine ⟨le_max_of_le_left hnonneg, max_le hle ?_⟩
    have hratio :
        ((max replay.peak equity : Int) - equity : ℚ) / (max replay.peak equity : Int) ≤ 1 :=
      (div_le_one hpeakQ).2 (by linarith)
    push_cast at hratio ⊢
    linarith

theorem roundTo_bounds {value : ℚ} {decimals bound : Nat} (h : 0 ≤ value) (hle : value ≤ bound) :
    0 ≤ roundTo value decimals ∧ roundTo value decimals ≤ bound := by
  have hpow : (0 : ℚ) < 10 ^ decimals := by positivity
  rw [roundTo, le_div_iff₀ hpow, div_le_iff₀ hpow, zero_mul]
  have hscaled : value * 10 ^ decimals ≤ bound * 10 ^ decimals :=
    mul_le_mul_of_nonneg_right hle hpow.le
  have hnonneg : 0 ≤ value * 10 ^ decimals := mul_nonneg h hpow.le
  constructor
  · have hfloor : (0 : Int) ≤ jsRound (value * 10 ^ decimals) :=
      Int.floor_nonneg.2 (by linarith)
    exact_mod_cast hfloor
  · have hfloor : jsRound (value * 10 ^ decimals) ≤ (bound * 10 ^ decimals : Nat) := by
      refine Int.le_of_lt_add_one (Int.floor_lt.2 ?_)
      push_cast
      linarith
    exact_mod_cast hfloor

end Replay

/-! ## Ticks in order -/

/-- A tick at an instant comes after what the journal says, and settles no bet at the instant of its
decision. -/
structure TickInOrder (rows : List BetDecision) (now : Int) : Prop where
  settled : ∀ d ∈ rows, d.status = .completed → ∀ t ∈ d.settledAt, t ≤ now
  decided : ∀ d ∈ rows, d.status = .orderReserved → d.started now = true → d.decidedAt < now

/-- A step of the system whose tick, if it is one, comes in order. -/
inductive SimulationWorld.OrderedStep (R : Runtime) : SimulationWorld → SimulationWorld → Prop
  | tick {w : SimulationWorld} {input : RunTickInput} {decisions : Table decisionSchema}
      (hwaits : input.signals ∈ w.waiting)
      (htick : runTick R w.run input w.decisions = .ok decisions)
      (horder : TickInOrder w.rows input.now) :
      OrderedStep R w { w with decisions, waiting := w.waiting.erase input.signals }
  | other {w w' : SimulationWorld} (hstep : Step R w w') (hrows : w'.rows = w.rows) :
      OrderedStep R w w'

theorem SimulationWorld.OrderedStep.step {R : Runtime} {w w' : SimulationWorld}
    (h : SimulationWorld.OrderedStep R w w') : SimulationWorld.Step R w w' := by
  cases h with
  | tick hwaits htick horder => exact .commit hwaits htick
  | other hstep hrows => exact hstep

/-! ## What is covered -/

section Covered

variable {R : Runtime} {run : SimulationRunRow} {rows new : List BetDecision}
  {f : BetDecision → BetDecision} {tick : TickInput} {d d' : BetDecision} {t : Int}

/-- What a row has brought in before an instant, or has at stake that was staked before it. -/
def BetDecision.valueAt (t : Int) (d : BetDecision) : Int :=
  if d.status = .completed ∧ d.settledAt.getD 0 < t then d.profit.getD 0
  else if d.isLive = true ∧ d.decidedAt < t then -d.stake.getD 0
  else 0

/-- At every instant, what was settled before it pays for what was staked before it. -/
structure Covered (initialCents : Int) (rows : List BetDecision) : Prop where
  settles : ∀ d ∈ rows, d.status = .completed → ∃ t, d.settledAt = some t ∧ d.decidedAt < t
  losses : ∀ d ∈ rows, d.status = .completed → -d.stake.getD 0 ≤ d.profit.getD 0
  stakes : ∀ d ∈ rows, 0 ≤ d.stake.getD 0
  value : ∀ t, 0 ≤ initialCents + (rows.map (·.valueAt t)).sum

theorem valueAt_of_settled (hs : d.status = .completed) (ht : d.settledAt.getD 0 < t) :
    d.valueAt t = d.profit.getD 0 := if_pos ⟨hs, ht⟩

theorem valueAt_of_staked (hlive : d.isLive = true)
    (hs : d.status = .completed → t ≤ d.settledAt.getD 0) :
    d.valueAt t = if d.decidedAt < t then -d.stake.getD 0 else 0 := by
  rw [BetDecision.valueAt, if_neg fun h => absurd h.2 (not_lt.2 (hs h.1))]
  simp only [hlive, true_and]

theorem isLive_of_open (hs : d.status = .orderReserved) : d.isLive = true := by
  rw [BetDecision.isLive, hs]
  rfl

theorem isLive_of_settled (hs : d.status = .completed) : d.isLive = true := by
  rw [BetDecision.isLive, hs]
  rfl

/-- A row that is not settled brings in nothing. -/
theorem valueAt_nonpos (hstake : 0 ≤ d.stake.getD 0)
    (hs : d.status = .completed → t ≤ d.settledAt.getD 0) : d.valueAt t ≤ 0 := by
  rw [BetDecision.valueAt, if_neg fun h => absurd h.2 (not_lt.2 (hs h.1))]
  split_ifs
  · omega
  · exact le_rfl

/-- A tick takes nothing from what was at an instant before it. -/
theorem valueAt_le_of_ticked (hticked : TickedRow tick d d') (htimed : TimedRow tick d d')
    (hstake : 0 ≤ d.stake.getD 0) (hle : t ≤ tick.now) : d.valueAt t ≤ d'.valueAt t := by
  have hopen : d.status = .completed → t ≤ d.settledAt.getD 0 :=
    fun hs => nomatch hticked.opened.symm.trans hs
  rcases hticked.status with hs | hs | hs
  · have hzero : d'.valueAt t = 0 := by
      rw [BetDecision.valueAt, BetDecision.isLive, hs]
      simp
    rw [hzero]
    exact valueAt_nonpos hstake hopen
  · rw [valueAt_of_staked (isLive_of_open hticked.opened) hopen,
      valueAt_of_staked (isLive_of_open hs) (fun hs' => nomatch hs.symm.trans hs'), hticked.stake,
      htimed.decidedAt]
  · have hsettled : d'.status = .completed → t ≤ d'.settledAt.getD 0 := fun _ => by
      rw [htimed.settledAt hs]
      exact hle
    rw [valueAt_of_staked (isLive_of_open hticked.opened) hopen,
      valueAt_of_staked (isLive_of_settled hs) hsettled, hticked.stake, htimed.decidedAt]

/-- After the last settlement a row counts at least what the bankroll counts. -/
theorem bankroll_le_valueAt (hstake : 0 ≤ d.stake.getD 0)
    (hs : d.status = .completed → d.settledAt.getD 0 < t) :
    d.realized - d.exposure ≤ d.valueAt t := by
  rw [BetDecision.realized, BetDecision.exposure]
  by_cases hcompleted : d.status = .completed
  · have hclosed : d.status ≠ .orderReserved := by
      rw [hcompleted]
      decide
    rw [valueAt_of_settled hcompleted (hs hcompleted), if_pos hcompleted, if_neg hclosed, sub_zero]
  · rw [if_neg hcompleted, BetDecision.valueAt, if_neg (not_and_of_not_left _ hcompleted)]
    by_cases hopen : d.status = .orderReserved
    · rw [if_pos hopen]
      split_ifs <;> omega
    · have hidle : d.isLive = false := by
        rw [BetDecision.isLive, beq_false_of_ne hopen, beq_false_of_ne hcompleted, Bool.or_false]
      rw [if_neg hopen, hidle, if_neg (not_and_of_not_left _ Bool.false_ne_true), sub_zero]

theorem Funded.stakes_nonneg (h : Funded run rows) : ∀ d ∈ rows, 0 ≤ d.stake.getD 0 := by
  intro d hd
  cases hstake : d.stake with
  | none => exact le_rfl
  | some stake => exact (h.stakes d hd stake hstake).1

/-- **A tick in order keeps what is covered.** -/
theorem covered_tick (hcovered : Covered run.initialBankroll rows)
    (hfunded : Funded run (rows.map f ++ new)) (horder : TickInOrder rows tick.now)
    (hf : ∀ d ∈ rows, f d = d ∨ tickRow tick d = .ok (some (f d)))
    (hplanned : ∀ row ∈ new, PlannedRow R run.context rows row)
    (htimes : ∀ row ∈ new, row.decidedAt = tick.now) :
    Covered run.initialBankroll (rows.map f ++ new) := by
  have hnew : ∀ row ∈ new, row.status ≠ .completed := by
    intro row hrow hs
    rcases (hplanned row hrow).decision with ⟨_, hs', -⟩ | ⟨_, hs', -⟩
    · exact nomatch hs'.symm.trans hs
    · exact nomatch hs'.symm.trans hs
  have hsettles : ∀ d ∈ rows.map f ++ new, d.status = .completed →
      ∃ t, d.settledAt = some t ∧ d.decidedAt < t ∧ t ≤ tick.now := by
    intro d hd hs
    rcases List.mem_append.1 hd with hd | hd
    · obtain ⟨x, hx, rfl⟩ := List.mem_map.1 hd
      rcases hf x hx with heq | hrow
      · rw [heq] at hs ⊢
        obtain ⟨t, ht, hlt⟩ := hcovered.settles x hx hs
        exact ⟨t, ht, hlt, horder.settled x hx hs t ht⟩
      · have htimed := tickRow_timed hrow
        refine ⟨tick.now, htimed.settledAt hs, ?_, le_rfl⟩
        rw [htimed.decidedAt]
        exact horder.decided x hx (tickRow_ticked hrow).opened (htimed.started hs)
    · exact absurd hs (hnew d hd)
  have hstakes := hfunded.stakes_nonneg
  refine ⟨fun d hd hs => ?_, fun d hd hs => ?_, hstakes, fun t => ?_⟩
  · obtain ⟨t, ht, hlt, -⟩ := hsettles d hd hs
    exact ⟨t, ht, hlt⟩
  · rcases List.mem_append.1 hd with hmem | hmem
    · obtain ⟨x, hx, rfl⟩ := List.mem_map.1 hmem
      rcases hf x hx with heq | hrow
      · rw [heq] at hs ⊢
        exact hcovered.losses x hx hs
      · have hticked := tickRow_ticked hrow
        obtain ⟨odd, stake, outcome, hodd, hstake, hprofit⟩ := hticked.profit hs
        have hnonneg := hstakes _ hd
        rw [hticked.stake, hstake, Option.getD_some] at hnonneg ⊢
        rw [hprofit, Option.getD_some]
        exact neg_stake_le_profitCents hnonneg (hfunded.odds _ hd odd hodd)
    · exact absurd hs (hnew d hmem)
  · rcases le_or_gt t tick.now with hle | hlt
    · -- before the tick nothing has changed, but that rejected orders give their stakes back
      have hold : (rows.map (·.valueAt t)).sum ≤ ((rows.map f).map (·.valueAt t)).sum := by
        rw [List.map_map]
        refine List.sum_le_sum fun d hd => ?_
        rcases hf d hd with heq | hrow
        · rw [Function.comp_apply, heq]
        · exact valueAt_le_of_ticked (tickRow_ticked hrow) (tickRow_timed hrow)
            (hcovered.stakes d hd) hle
      have hzero : (new.map (·.valueAt t)).sum = 0 := by
        refine List.sum_eq_zero fun x hx => ?_
        obtain ⟨row, hrow, rfl⟩ := List.mem_map.1 hx
        rw [BetDecision.valueAt, if_neg fun h => hnew row hrow h.1, htimes row hrow,
          if_neg fun h => absurd h.2 (not_lt.2 hle)]
      rw [List.map_append, List.sum_append, hzero]
      have := hcovered.value t
      omega
    · -- after it every settlement counts, and the bankroll pays for what is open
      have hsum : realizedOf (rows.map f ++ new) - exposureOf (rows.map f ++ new) ≤
          ((rows.map f ++ new).map (·.valueAt t)).sum := by
        have hle : ((rows.map f ++ new).map (·.realized)).sum ≤
            ((rows.map f ++ new).map fun d => d.valueAt t + d.exposure).sum := by
          refine List.sum_le_sum fun d hd => ?_
          have := @bankroll_le_valueAt d t (hstakes d hd) fun hs => by
            obtain ⟨s, hsettled, -, hnow⟩ := hsettles d hd hs
            rw [hsettled, Option.getD_some]
            omega
          omega
        rw [List.sum_map_add] at hle
        change realizedOf (rows.map f ++ new) ≤
          ((rows.map f ++ new).map (·.valueAt t)).sum + exposureOf (rows.map f ++ new) at hle
        omega
      have := hfunded.available
      omega

end Covered

/-! ## The replay of what is covered -/

section Replayed

variable {R : Runtime} {run : SimulationRunRow} {rows : List BetDecision} {initialCents : Int}

/-- Rows that bring in nothing do not matter to a bound. -/
theorem sum_map_le_sum_filter {α : Type} {p : α → Bool} {g : α → Int} {l : List α}
    (h : ∀ a ∈ l, p a = false → g a ≤ 0) : (l.map g).sum ≤ ((l.filter p).map g).sum := by
  induction l with
  | nil => exact le_rfl
  | cons a l ih =>
    have ih := ih fun b hb => h b (List.mem_cons_of_mem a hb)
    cases hp : p a with
    | true =>
      rw [List.filter_cons_of_pos hp, List.map_cons, List.sum_cons, List.map_cons, List.sum_cons]
      omega
    | false =>
      have ha := h a List.mem_cons_self hp
      rw [List.filter_cons_of_neg (by simp [hp]), List.map_cons, List.sum_cons]
      omega

theorem mem_settledOf {C : Collation} {d : BetDecision} :
    d ∈ settledOf C rows ↔ d ∈ rows ∧ d.status = .completed := by
  rw [settledOf, mem_sort, List.mem_filter, beq_iff_eq]

/-- The settled bets come in the order of their settlements. -/
theorem pairwise_settledOf (C : Collation) (rows : List BetDecision) :
    (settledOf C rows).Pairwise fun a b => a.settledAt.getD 0 ≤ b.settledAt.getD 0 := by
  have hsorted := pairwise_sort (settledOrder C) (rows.filter fun d => d.status == .completed)
  refine hsorted.imp fun {a b} hab => ?_
  have hfirst : (comparing compare (fun d : BetDecision => d.settledAt.getD 0) a b).isLE = true :=
    isLE_of_compareLex hab
  exact Int.isLE_compare.1 hfirst

/-- **What is covered is replayed above zero.** -/
theorem Covered.equity_nonneg (h : Covered initialCents rows) (hpos : 0 < initialCents)
    (C : Collation) {settled : List BetDecision} (hpre : settled <+: settledOf C rows) :
    0 ≤ (replayEquity initialCents settled).equity := by
  rw [equity_replayEquity]
  rcases List.eq_nil_or_concat' settled with rfl | ⟨before, last, rfl⟩
  · rw [List.map_nil, List.sum_nil]
    omega
  · obtain ⟨after, hsplit⟩ := hpre
    have hmem : ∀ d ∈ (before ++ [last]) ++ after, d ∈ rows ∧ d.status = .completed := fun d hd =>
      mem_settledOf.1 (hsplit ▸ hd)
    have hsorted := pairwise_settledOf C rows
    rw [← hsplit, List.pairwise_append] at hsorted
    obtain ⟨hbefore, -, hafter⟩ := hsorted
    have hlast : ∀ d ∈ before ++ [last], d.settledAt.getD 0 ≤ last.settledAt.getD 0 := by
      rw [List.pairwise_append] at hbefore
      refine List.forall_mem_append.2 ⟨fun d hd => ?_, List.forall_mem_singleton.2 le_rfl⟩
      exact hbefore.2.2 d hd last List.mem_cons_self
    -- at the instant of the last bet, those before it count their profit or lose their stake
    have hvalue := h.value (last.settledAt.getD 0)
    have hsettled : (rows.map (·.valueAt (last.settledAt.getD 0))).sum ≤
        ((settledOf C rows).map (·.valueAt (last.settledAt.getD 0))).sum := by
      rw [settledOf, ((perm_sort _ _).map _).sum_eq]
      refine sum_map_le_sum_filter fun d hd hopen => valueAt_nonpos (h.stakes d hd) fun hs => ?_
      rw [hs] at hopen
      cases hopen
    have hle : ((before ++ [last]).map (·.valueAt (last.settledAt.getD 0))).sum ≤
        ((before ++ [last]).map fun d => d.profit.getD 0).sum := by
      refine List.sum_le_sum fun d hd => ?_
      obtain ⟨hrow, hs⟩ := hmem d (List.mem_append_left _ hd)
      rcases (hlast d hd).lt_or_eq with hlt | heq
      · rw [valueAt_of_settled hs hlt]
      · obtain ⟨t, ht, hdecided⟩ := h.settles d hrow hs
        rw [valueAt_of_staked (isLive_of_settled hs) fun _ => heq.ge, if_pos]
        · exact h.losses d hrow hs
        · rw [← heq, ht]
          exact hdecided
    have hrest : (after.map (·.valueAt (last.settledAt.getD 0))).sum ≤ 0 := by
      refine (List.sum_le_card_nsmul _ 0 fun x hx => ?_).trans_eq (nsmul_zero _)
      obtain ⟨d, hd, rfl⟩ := List.mem_map.1 hx
      have hrow := (hmem d (List.mem_append_right _ hd)).1
      exact valueAt_nonpos (h.stakes d hrow) fun _ =>
        hafter last (List.mem_append_right _ List.mem_cons_self) d hd
    rw [← hsplit, List.map_append, List.sum_append] at hsettled
    omega

theorem summarizeJournal_eq_ok {summary : SimulationSummary} :
    summarizeJournal R run rows = .ok summary ↔
      (∀ amount ∈ summaryAmounts R run rows, isSafeInteger amount = true) ∧
        summary = summaryOf R run rows := by
  rw [← List.all_eq_true, summarizeJournal]
  split_ifs with hsafe
  · rw [Except.ok.injEq, eq_comm]
    exact (and_iff_right hsafe).symm
  · exact iff_of_false nofun fun h => hsafe h.1

/-- **The summary of what is covered is consistent.** -/
theorem Covered.summaryConsistent (h : Covered run.initialBankroll rows) :
    SummaryConsistent R run rows := by
  have hequity := fun settled (hpre : settled <+: settledOf R.collation rows) =>
    h.equity_nonneg run.bankroll_pos R.collation hpre
  refine ⟨hequity, fun summary hsummary => ?_, fun summary hsummary => ?_, ?_⟩
  · obtain ⟨-, hnonneg, hle⟩ := replayEquity_bounds run.bankroll_pos hequity
    have hbounds := @roundTo_bounds _ 2 100 hnonneg (by exact_mod_cast hle)
    rw [(summarizeJournal_eq_ok.1 hsummary).2]
    show 0 ≤ roundTo (replayEquity (bankrollFromJournal _ rows).initialCents _).maxDrawdownPct 2 ∧
      roundTo (replayEquity (bankrollFromJournal _ rows).initialCents _).maxDrawdownPct 2 ≤ 100
    rw [bankrollFromJournal_eq]
    exact_mod_cast hbounds
  · rw [(summarizeJournal_eq_ok.1 hsummary).2]
    show (bankrollFromJournal run.initialBankroll rows).availableCents +
        (bankrollFromJournal run.initialBankroll rows).openExposureCents =
      (bankrollFromJournal run.initialBankroll rows).initialCents +
        (bankrollFromJournal run.initialBankroll rows).realizedProfitCents
    rw [bankrollFromJournal_eq]
    exact sub_add_cancel _ _
  · exact ⟨fun ⟨_, hsummary⟩ => (summarizeJournal_eq_ok.1 hsummary).1,
      fun hsafe => ⟨_, summarizeJournal_eq_ok.2 ⟨hsafe, rfl⟩⟩⟩

end Replayed

/-! ## Any run of ticks in order -/

section Runs

variable {R : Runtime} {w w' w₀ : SimulationWorld}

theorem Covered.nil (run : SimulationRunRow) : Covered run.initialBankroll [] where
  settles _ h := nomatch h
  losses _ h := nomatch h
  stakes _ h := nomatch h
  value _ := by
    have := run.bankroll_pos
    rw [List.map_nil, List.sum_nil]
    omega

theorem covered_step (h : SimulationWorld.OrderedStep R w w') (hfunded : Funded w.run w.rows)
    (hcovered : Covered w.run.initialBankroll w.rows) :
    Covered w'.run.initialBankroll w'.rows := by
  have hfunded' := funded_step h.step hfunded
  cases h with
  | @tick input decisions hwaits htick horder =>
    obtain ⟨f, new, hrows, hf, hnew, htimes⟩ := runTick_times htick
    change Funded w.run (w.run.decisionsOf decisions) at hfunded'
    show Covered w.run.initialBankroll (w.run.decisionsOf decisions)
    rw [hrows] at hfunded' ⊢
    exact @covered_tick R w.run w.rows new f (input.tickInput R w.run w.decisions) hcovered hfunded'
      horder hf hnew.planned htimes
  | other hstep hrows =>
    obtain ⟨⟨status, hrun, -⟩, -⟩ := hstep.rows_eq
    rw [hrows, hrun]
    exact hcovered

/-- **The summary of a run is consistent**, where its ticks come in order. -/
theorem summaryConsistent_reachable (hstart : w₀.rows = [])
    (hreach : Relation.ReflTransGen (SimulationWorld.OrderedStep R) w₀ w) :
    SummaryConsistent R w.run w.rows := by
  have hkept : Funded w.run w.rows ∧ Covered w.run.initialBankroll w.rows := by
    induction hreach with
    | refl =>
      rw [hstart]
      exact ⟨.nil _, .nil _⟩
    | tail _ hstep ih => exact ⟨funded_step hstep.step ih.1, covered_step hstep ih.1 ih.2⟩
  exact hkept.2.summaryConsistent

end Runs

/-! ## Two ticks of one instant -/

namespace Sample

/-- A run that stakes all it has, without latency. -/
def allInRun : SimulationRunRow :=
  { simulationRun with
    strategySnapshot := { strategy with staking := ⟨.percentBankroll, 100⟩ }
    riskSnapshot := ⟨120000, 0, none, none, none⟩
    exposure_pos := by decide }

/-- The odds of two matches. -/
def twoOdds : Table oddsSchema :=
  ⟨[offered, { offered with id := "c", fixtureId := "g", providerFixtureId := "2" }], by decide,
    by decide⟩

/-- The first match has a goal, and the second one ended without. -/
def twoMatches (id : String) : Option Fixture :=
  if id = "f" then some { liveFixture with scoreHome := some 1 }
  else if id = "g" then some { liveFixture with id := "g", statusShort := some "FT" }
  else none

/-- The first match is bet on. -/
def betTick : RunTickInput :=
  ⟨[goalSignal], 5000, twoOdds, fun _ => none, fun _ => "b0000000-0000-4000-8000-000000000000",
    fun _ => true⟩

/-- It is won, and the second match is bet on; this one is still being played. -/
def winTick : RunTickInput :=
  ⟨[otherSignal], 10000, twoOdds, fun id => (twoMatches id).filter (·.id = "f"),
    fun _ => "a0000000-0000-4000-8000-000000000000", fun _ => true⟩

/-- The second match is lost, at the same instant. -/
def lossTick : RunTickInput := ⟨[], 10000, twoOdds, twoMatches, fun _ => "", fun _ => true⟩

def afterBet : Table decisionSchema :=
  (runTick keyedRuntime allInRun betTick .empty).toOption.getD .empty

def afterWin : Table decisionSchema :=
  (runTick keyedRuntime allInRun winTick afterBet).toOption.getD .empty

def afterLoss : Table decisionSchema :=
  (runTick keyedRuntime allInRun lossTick afterWin).toOption.getD .empty

end Sample

theorem eq_ok_getD {ε α : Type} {x : Except ε α} {a : α} (h : x.toOption.isSome = true) :
    x = .ok (x.toOption.getD a) := by
  cases x with
  | error e => cases h
  | ok b => rfl

/-- A tick that reads its signals and commits. -/
theorem reachable_tick {R : Runtime} {run : SimulationRunRow} {input : RunTickInput}
    {decisions decisions' : Table decisionSchema} (hrunning : run.status = .running)
    (h : runTick R run input decisions = .ok decisions') :
    Relation.ReflTransGen (SimulationWorld.Step R) ⟨run, decisions, []⟩ ⟨run, decisions', []⟩ := by
  have hread := @SimulationWorld.Step.read R ⟨run, decisions, []⟩ input.signals
  rw [if_pos hrunning] at hread
  have hcommit := @SimulationWorld.Step.commit R ⟨run, decisions, [input.signals]⟩ input decisions'
    List.mem_cons_self h
  rw [List.erase_cons_head] at hcommit
  exact (Relation.ReflTransGen.single hread).tail hcommit

/-- The three ticks. -/
theorem reachable_afterLoss :
    Relation.ReflTransGen (SimulationWorld.Step Sample.keyedRuntime) ⟨Sample.allInRun, .empty, []⟩
      ⟨Sample.allInRun, Sample.afterLoss, []⟩ := by
  have hbet : runTick Sample.keyedRuntime Sample.allInRun Sample.betTick .empty =
      .ok Sample.afterBet := eq_ok_getD (by decide +kernel)
  have hwin : runTick Sample.keyedRuntime Sample.allInRun Sample.winTick Sample.afterBet =
      .ok Sample.afterWin := eq_ok_getD (by decide +kernel)
  have hloss : runTick Sample.keyedRuntime Sample.allInRun Sample.lossTick Sample.afterWin =
      .ok Sample.afterLoss := eq_ok_getD (by decide +kernel)
  exact ((reachable_tick rfl hbet).trans (reachable_tick rfl hwin)).trans (reachable_tick rfl hloss)

/-- **A bet staked from a win, and lost at its instant, is replayed before it**: the equity falls to
-80.00, and the drawdown is 180 percent. -/
theorem summary_below_zero : ∃ w₀ w : SimulationWorld, w₀.rows = [] ∧
    Relation.ReflTransGen (SimulationWorld.Step Sample.keyedRuntime) w₀ w ∧
    (replayEquity w.run.initialBankroll
      ((settledOf Sample.keyedRuntime.collation w.rows).take 1)).equity = -8000 ∧
    (∃ summary, summarizeJournal Sample.keyedRuntime w.run w.rows = .ok summary ∧
      summary.maxDrawdownPct = 180) ∧
    ¬SummaryConsistent Sample.keyedRuntime w.run w.rows := by
  have hequity : (replayEquity Sample.allInRun.initialBankroll
      ((settledOf Sample.keyedRuntime.collation
        (Sample.allInRun.decisionsOf Sample.afterLoss)).take 1)).equity = -8000 := by
    decide +kernel
  have hdrawdown : (summarizeJournal Sample.keyedRuntime Sample.allInRun
      (Sample.allInRun.decisionsOf Sample.afterLoss)).toOption.map (·.maxDrawdownPct) =
        some 180 := by
    decide +kernel
  refine ⟨_, _, rfl, reachable_afterLoss, hequity, ?_, fun h => ?_⟩
  · show ∃ summary, summarizeJournal Sample.keyedRuntime Sample.allInRun
      (Sample.allInRun.decisionsOf Sample.afterLoss) = .ok summary ∧ summary.maxDrawdownPct = 180
    cases hsummary : summarizeJournal Sample.keyedRuntime Sample.allInRun
        (Sample.allInRun.decisionsOf Sample.afterLoss) with
    | error e =>
      rw [hsummary] at hdrawdown
      cases hdrawdown
    | ok summary =>
      rw [hsummary] at hdrawdown
      exact ⟨summary, rfl, Option.some.inj hdrawdown⟩
  · have hnonneg : 0 ≤ (-8000 : Int) := hequity ▸ h.equity _ (List.take_prefix 1 _)
    omega

/-- A tick in order that reads its signals and commits. -/
theorem ordered_tick {R : Runtime} {run : SimulationRunRow} {input : RunTickInput}
    {decisions decisions' : Table decisionSchema} (hrunning : run.status = .running)
    (h : runTick R run input decisions = .ok decisions')
    (horder : TickInOrder (run.decisionsOf decisions) input.now) :
    Relation.ReflTransGen (SimulationWorld.OrderedStep R) ⟨run, decisions, []⟩
      ⟨run, decisions', []⟩ := by
  have hread := @SimulationWorld.Step.read R ⟨run, decisions, []⟩ input.signals
  rw [if_pos hrunning] at hread
  have htick := @SimulationWorld.OrderedStep.tick R ⟨run, decisions, [input.signals]⟩ input
    decisions' List.mem_cons_self h horder
  rw [List.erase_cons_head] at htick
  exact (Relation.ReflTransGen.single (.other hread rfl)).tail htick

/-- The summary of the run after its win. -/
theorem summaryConsistent_afterWin :
    SummaryConsistent Sample.keyedRuntime Sample.allInRun
      (Sample.allInRun.decisionsOf Sample.afterWin) := by
  have hbet : runTick Sample.keyedRuntime Sample.allInRun Sample.betTick .empty =
      .ok Sample.afterBet := eq_ok_getD (by decide +kernel)
  have hwin : runTick Sample.keyedRuntime Sample.allInRun Sample.winTick Sample.afterBet =
      .ok Sample.afterWin := eq_ok_getD (by decide +kernel)
  have hopen : ∀ d ∈ Sample.allInRun.decisionsOf Sample.afterBet,
      d.status = .orderReserved ∧ d.decidedAt = 5000 := by
    decide +kernel
  have hfirst : TickInOrder (Sample.allInRun.decisionsOf .empty) Sample.betTick.now :=
    ⟨fun _ hd => (nomatch hd), fun _ hd => (nomatch hd)⟩
  have hsecond : TickInOrder (Sample.allInRun.decisionsOf Sample.afterBet) Sample.winTick.now := by
    refine ⟨fun d hd hs => ?_, fun d hd _ _ => ?_⟩
    · exact nomatch (hopen d hd).1.symm.trans hs
    · rw [(hopen d hd).2]
      decide
  exact @summaryConsistent_reachable Sample.keyedRuntime ⟨Sample.allInRun, Sample.afterWin, []⟩
    ⟨Sample.allInRun, .empty, []⟩ rfl
    ((ordered_tick rfl hbet hfirst).trans (ordered_tick rfl hwin hsecond))

end ApiScore
