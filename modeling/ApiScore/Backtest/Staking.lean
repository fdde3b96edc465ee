import ApiScore.Lib.Insertion
import ApiScore.Backtest.Replay

/-!
# Stakes and results of a backtest

`applyStakingAndComputeKpis` of `kpis-calculator.ts`: the bets are taken in the order of their
decisions, each with a stake that the bankroll can pay, and the results are added up.  The numbers are
rationals here; `round2` is what the code rounds them with for display.

* `StakingState.place`, `stakeAll` — the loop.
* `kpisOf` — what is reported of its end.
* `Ledgered` — what holds after every bet.
* `staking_sound` — stakes, bankroll and drawdown stay in bounds, and bets that decide nothing do not
  matter to the others.
-/

set_option autoImplicit false

namespace ApiScore

open Ranked

/-! ## What the calculator is given -/

/-- What the calculator reads of a strategy, within the bounds of `isWalkForwardStrategy`. -/
structure StakingPlan where
  bankroll : ℚ
  staking : Staking
  bankroll_nonneg : 0 ≤ bankroll
  amount_nonneg : 0 ≤ staking.amount
  percent_le : staking.type = .percentBankroll → staking.amount ≤ 100

/-- What the calculator reads of a `DecidedBet`. -/
structure StakeableBet where
  marketType : String
  decisionAt : Int
  oddAtDecision : ℚ
  quotedOdd : ℚ
  edgePct : Option ℚ
  outcome : DecisionOutcome
  deriving DecidableEq

def DecidedBet.stakeable (b : DecidedBet) : StakeableBet where
  marketType := b.marketType
  decisionAt := b.decisionAt
  oddAtDecision := oddValue b.oddAtDecision
  quotedOdd := oddValue b.quotedOdd
  edgePct := some b.edgePct
  outcome := b.outcome

/-- The stake is at risk: the bet is won or lost. -/
def DecisionOutcome.risked : DecisionOutcome → Bool
  | .won | .lost => true
  | .void | .noResult => false

structure StakedBet where
  bet : StakeableBet
  stake : ℚ
  profit : ℚ
  placed : Bool
  deriving DecidableEq

/-! ## The loop -/

structure MarketTotals where
  bets : Nat
  won : Nat
  lost : Nat
  staked : ℚ
  profit : ℚ
  deriving DecidableEq

structure StakingState where
  bankroll : ℚ
  peak : ℚ
  maxDrawdownPct : ℚ
  totalStaked : ℚ
  netProfit : ℚ
  staked : List StakedBet
  unitReturns : List ℚ
  /-- In the order in which the markets came. -/
  byMarket : List (String × MarketTotals)

def StakingState.start (plan : StakingPlan) : StakingState where
  bankroll := max 0 plan.bankroll
  peak := max 0 plan.bankroll
  maxDrawdownPct := 0
  totalStaked := 0
  netProfit := 0
  staked := []
  unitReturns := []
  byMarket := []

/-- The stake of the next bet: what is asked for, as far as the bankroll goes. -/
def Staking.stakeFor (staking : Staking) (bankroll : ℚ) : ℚ :=
  let requested := match staking.type with
    | .percentBankroll => bankroll * staking.amount / 100
    | .flat => staking.amount
  max 0 (min requested bankroll)

def StakeableBet.profit (bet : StakeableBet) (stake : ℚ) : ℚ :=
  if 0 < stake then
    match bet.outcome with
    | .won => (bet.oddAtDecision - 1) * stake
    | .lost => -stake
    | .void | .noResult => 0
  else 0

/-- The totals of a market after one more bet. -/
def MarketTotals.add (m : MarketTotals) (bet : StakeableBet) (stake profit : ℚ) : MarketTotals where
  bets := m.bets + 1
  won := if bet.outcome = .won then m.won + 1 else m.won
  lost := if bet.outcome = .lost then m.lost + 1 else m.lost
  staked := if bet.outcome.risked then m.staked + stake else m.staked
  profit := if bet.outcome.risked then m.profit + profit else m.profit

/-- `byMarket.set(bet.marketType, m)`. -/
def addToMarket (byMarket : List (String × MarketTotals)) (bet : StakeableBet)
    (stake profit : ℚ) : List (String × MarketTotals) :=
  if (byMarket.lookup bet.marketType).isSome then
    byMarket.map fun (market, m) =>
      (market, if market = bet.marketType then m.add bet stake profit else m)
  else byMarket ++ [(bet.marketType, (⟨0, 0, 0, 0, 0⟩ : MarketTotals).add bet stake profit)]

/-- The bankroll after a bet that was won or lost. -/
def StakingState.settle (st : StakingState) (stake profit : ℚ) : StakingState :=
  let bankroll := st.bankroll + profit
  let peak := max st.peak bankroll
  { st with
    totalStaked := st.totalStaked + stake
    netProfit := st.netProfit + profit
    bankroll, peak
    unitReturns := st.unitReturns ++ [profit / stake]
    maxDrawdownPct :=
      if 0 < peak then max st.maxDrawdownPct ((peak - bankroll) / peak * 100)
      else st.maxDrawdownPct }

/-- One bet. -/
def StakingState.place (staking : Staking) (st : StakingState) (bet : StakeableBet) : StakingState :=
  let stake := staking.stakeFor st.bankroll
  let placed := decide (0 < stake)
  let profit := bet.profit stake
  let st := if placed && bet.outcome.risked then st.settle stake profit else st
  { st with
    byMarket := if placed then addToMarket st.byMarket bet stake profit else st.byMarket
    staked := st.staked ++ [⟨bet, stake, profit, placed⟩] }

/-- `[...bets].sort((a, b) => a.decisionAt.getTime() - b.decisionAt.getTime())`. -/
def chronological (bets : List StakeableBet) : List StakeableBet :=
  sort (comparing compare (·.decisionAt)) bets

/-- The bets, one after the other. -/
def stakeAll (plan : StakingPlan) (bets : List StakeableBet) : StakingState :=
  (chronological bets).foldl (StakingState.place plan.staking) (.start plan)

/-! ## What is reported -/

structure MarketYield where
  bets : Nat
  roiPct : ℚ
  hitRate : ℚ
  deriving DecidableEq

structure BacktestKpis where
  betCount : Nat
  wonBets : Nat
  lostBets : Nat
  noResultBets : Nat
  voidBets : Nat
  hitRate : ℚ
  roiPct : ℚ
  yieldByMarket : List (String × MarketYield)
  maxDrawdownPct : ℚ
  avgRealizedEdgePct : ℚ
  finalBankroll : ℚ
  totalStaked : ℚ
  netProfit : ℚ
  bankrollSkippedBets : Nat
  avgSlippagePct : Option ℚ
  roiCi95 : Option (ℚ × ℚ)
  deriving DecidableEq

def round2 (q : ℚ) : ℚ := jsRound (q * 100) / 100

def mean (values : List ℚ) : ℚ := values.sum / values.length

/-- `resolved > 0 ? round((won / resolved) * 100) : 0`. -/
def hitRatePct (round : ℚ → ℚ) (won resolved : Nat) : ℚ :=
  if 0 < resolved then round ((won : ℚ) / resolved * 100) else 0

/-- `staked > 0 ? round((profit / staked) * 100) : 0`. -/
def roiOf (round : ℚ → ℚ) (profit staked : ℚ) : ℚ :=
  if 0 < staked then round (profit / staked * 100) else 0

/-- `confidenceInterval95`; `sqrt` is `Math.sqrt`. -/
def confidenceInterval95 (sqrt round : ℚ → ℚ) (returns : List ℚ) : Option (ℚ × ℚ) :=
  if returns.length < 2 then none
  else
    let average := mean returns
    let squares : List ℚ := returns.map fun value => (value - average) ^ 2
    let variance := squares.sum / ((returns.length : ℚ) - 1)
    let margin := 196 / 100 * sqrt (variance / returns.length)
    some (round ((average - margin) * 100), round ((average + margin) * 100))

/-- What is reported of the end of the loop. -/
def kpisOf (sqrt round : ℚ → ℚ) (st : StakingState) : BacktestKpis :=
  let placedBets := st.staked.filter (·.placed)
  let count (outcome : DecisionOutcome) := placedBets.countP fun b => b.bet.outcome = outcome
  let edges := (placedBets.filter (·.bet.outcome.risked)).filterMap (·.bet.edgePct)
  let slippages := (placedBets.filter fun b => decide (0 < b.bet.quotedOdd)).map fun b =>
    (b.bet.oddAtDecision - b.bet.quotedOdd) / b.bet.quotedOdd * 100
  { betCount := placedBets.length
    wonBets := count .won
    lostBets := count .lost
    noResultBets := count .noResult
    voidBets := count .void
    hitRate := hitRatePct round (count .won) (count .won + count .lost)
    roiPct := roiOf round st.netProfit st.totalStaked
    yieldByMarket := st.byMarket.map fun (market, m) =>
      (market, ⟨m.bets, roiOf round m.profit m.staked, hitRatePct round m.won (m.won + m.lost)⟩)
    maxDrawdownPct := round st.maxDrawdownPct
    avgRealizedEdgePct := if edges.isEmpty then 0 else round (mean edges)
    finalBankroll := round st.bankroll
    totalStaked := round st.totalStaked
    netProfit := round st.netProfit
    bankrollSkippedBets := st.staked.length - placedBets.length
    avgSlippagePct := if slippages.isEmpty then none else some (round (mean slippages))
    roiCi95 := confidenceInterval95 sqrt round st.unitReturns }

/-- `applyStakingAndComputeKpis`, with the rounding it reports with. -/
def stakingReport (sqrt round : ℚ → ℚ) (bets : List StakeableBet) (plan : StakingPlan) :
    List StakedBet × BacktestKpis :=
  ((stakeAll plan bets).staked, kpisOf sqrt round (stakeAll plan bets))

/-- `applyStakingAndComputeKpis`. -/
def applyStakingAndComputeKpis (sqrt : ℚ → ℚ) (bets : List StakeableBet) (plan : StakingPlan) :
    List StakedBet × BacktestKpis :=
  stakingReport sqrt round2 bets plan

/-! ## After every bet -/

section Stakes

variable {staking : Staking} {bankroll stake : ℚ} {bet : StakeableBet}

theorem stakeFor_nonneg : 0 ≤ staking.stakeFor bankroll := le_max_left _ _

theorem stakeFor_le (h : 0 ≤ bankroll) : staking.stakeFor bankroll ≤ bankroll :=
  max_le h (min_le_right _ _)

theorem profit_of_not_placed (h : ¬ 0 < stake) : bet.profit stake = 0 := if_neg h

theorem profit_of_not_risked (h : bet.outcome.risked = false) : bet.profit stake = 0 := by
  rw [StakeableBet.profit]
  split_ifs
  · cases hout : bet.outcome with
    | won | lost =>
      rw [hout] at h
      cases h
    | void | noResult => rfl
  · rfl

/-- A bet loses no more than its stake. -/
theorem neg_le_profit (hodd : 1 < bet.oddAtDecision) (h : 0 ≤ stake) :
    -stake ≤ bet.profit stake := by
  rw [StakeableBet.profit]
  split_ifs
  · cases bet.outcome with
    | won =>
      have hgain : 0 ≤ (bet.oddAtDecision - 1) * stake := mul_nonneg (by linarith) h
      dsimp only
      linarith
    | lost => exact le_refl _
    | void | noResult => exact neg_nonpos.2 h
  · exact neg_nonpos.2 h

end Stakes

/-- What holds of every element and of those before it holds after one more. -/
theorem forall_split_concat {α : Type} {l : List α} {x : α} {Q : List α → α → Prop}
    (h : ∀ before b after, l = before ++ b :: after → Q before b) (hx : Q l x) :
    ∀ before b after, l ++ [x] = before ++ b :: after → Q before b := by
  intro before b after heq
  rcases List.eq_nil_or_concat after with rfl | ⟨after, last, rfl⟩
  · obtain ⟨rfl, hb⟩ := List.append_inj' heq rfl
    obtain rfl := List.singleton_inj.1 hb
    exact hx
  · have hassoc : before ++ b :: after.concat last = (before ++ b :: after) ++ [last] := by simp
    rw [hassoc] at heq
    obtain ⟨rfl, -⟩ := List.append_inj' heq rfl
    exact h before b after rfl

/-- What came back of some bets. -/
def profits (staked : List StakedBet) : ℚ := (staked.map (·.profit)).sum

/-- What holds after every bet; `initial` is what the bankroll was at first. -/
structure Ledgered (initial : ℚ) (st : StakingState) : Prop where
  nonneg : 0 ≤ st.bankroll
  balanced : st.bankroll = initial + st.netProfit
  booked : st.netProfit = profits st.staked
  peaked : st.bankroll ≤ st.peak
  drawdown_nonneg : 0 ≤ st.maxDrawdownPct
  drawdown_le : st.maxDrawdownPct ≤ 100
  /-- No bet staked more than the bankroll was then. -/
  affordable : ∀ before b after, st.staked = before ++ b :: after →
    0 ≤ b.stake ∧ b.stake ≤ initial + profits before

section Loop

variable {initial : ℚ} {st : StakingState} {staking : Staking} {bet : StakeableBet}

theorem Ledgered.start (plan : StakingPlan) : Ledgered (max 0 plan.bankroll) (.start plan) where
  nonneg := le_max_left _ _
  balanced := (add_zero _).symm
  booked := rfl
  peaked := le_refl _
  drawdown_nonneg := le_refl _
  drawdown_le := by norm_num [StakingState.start]
  affordable before b after h := by simp [StakingState.start] at h

theorem drawdown_bounds {peak now : ℚ} (hpos : 0 < peak) (hnonneg : 0 ≤ now) (hle : now ≤ peak) :
    0 ≤ (peak - now) / peak * 100 ∧ (peak - now) / peak * 100 ≤ 100 := by
  have hratio : (peak - now) / peak ≤ 1 := (div_le_one hpos).2 (by linarith)
  have hratio' : 0 ≤ (peak - now) / peak := div_nonneg (by linarith) hpos.le
  constructor <;> linarith

/-- **A bet keeps the books in order.** -/
theorem Ledgered.place (h : Ledgered initial st) (hodd : 1 < bet.oddAtDecision) :
    Ledgered initial (st.place staking bet) := by
  have hstake : 0 ≤ staking.stakeFor st.bankroll := stakeFor_nonneg
  have hle : staking.stakeFor st.bankroll ≤ st.bankroll := stakeFor_le h.nonneg
  have haffordable := forall_split_concat h.affordable
    (x := ⟨bet, staking.stakeFor st.bankroll, bet.profit (staking.stakeFor st.bankroll),
      decide (0 < staking.stakeFor st.bankroll)⟩)
    ⟨hstake, by rw [← h.booked, ← h.balanced]; exact hle⟩
  have hbooked : ∀ x : StakedBet, profits (st.staked ++ [x]) = st.netProfit + x.profit := by
    intro x
    rw [profits, List.map_append, List.sum_append, ← profits, ← h.booked]
    simp
  simp only [StakingState.place]
  by_cases hrisked : 0 < staking.stakeFor st.bankroll ∧ bet.outcome.risked = true
  · rw [if_pos (by simp [hrisked])]
    have hloss := neg_le_profit hodd hstake
    have hnow : 0 ≤ st.bankroll + bet.profit (staking.stakeFor st.bankroll) := by linarith
    have hpeak := le_max_right st.peak (st.bankroll + bet.profit (staking.stakeFor st.bankroll))
    constructor
    · exact hnow
    · simp only [StakingState.settle]
      rw [h.balanced, add_assoc]
    · exact (hbooked ⟨bet, _, _, _⟩).symm
    · exact hpeak
    · simp only [StakingState.settle]
      split_ifs
      · exact h.drawdown_nonneg.trans (le_max_left _ _)
      · exact h.drawdown_nonneg
    · simp only [StakingState.settle]
      split_ifs with hpos
      · exact max_le h.drawdown_le (drawdown_bounds hpos hnow hpeak).2
      · exact h.drawdown_le
    · exact haffordable
  · -- nothing is won or lost
    have hzero : bet.profit (staking.stakeFor st.bankroll) = 0 := by
      by_cases hplaced : 0 < staking.stakeFor st.bankroll
      · exact profit_of_not_risked (Bool.eq_false_iff.2 fun hr => hrisked ⟨hplaced, hr⟩)
      · exact profit_of_not_placed hplaced
    rw [if_neg (by simpa using hrisked)]
    refine ⟨h.nonneg, h.balanced, ?_, h.peaked, h.drawdown_nonneg, h.drawdown_le, haffordable⟩
    rw [hbooked]
    simp [hzero]

theorem Ledgered.foldl {bets : List StakeableBet} (h : Ledgered initial st)
    (hodds : ∀ b ∈ bets, 1 < b.oddAtDecision) :
    Ledgered initial (bets.foldl (StakingState.place staking) st) := by
  induction bets generalizing st with
  | nil => exact h
  | cons bet bets ih =>
    obtain ⟨hodd, hodds⟩ := List.forall_mem_cons.1 hodds
    exact ih (h.place hodd) hodds

/-- **The books are in order at the end.** -/
theorem ledgered_stakeAll (plan : StakingPlan) {bets : List StakeableBet}
    (hodds : ∀ b ∈ bets, 1 < b.oddAtDecision) : Ledgered plan.bankroll (stakeAll plan bets) := by
  have h := Ledgered.start plan
  rw [max_eq_right plan.bankroll_nonneg] at h
  exact h.foldl fun b hb => hodds b (mem_sort.1 hb)

end Loop

/-! ## Bets that decide nothing -/

/-- Two runs stand alike: the bets that were won or lost are the same. -/
structure Alike (st st' : StakingState) : Prop where
  bankroll : st'.bankroll = st.bankroll
  peak : st'.peak = st.peak
  drawdown : st'.maxDrawdownPct = st.maxDrawdownPct
  totalStaked : st'.totalStaked = st.totalStaked
  netProfit : st'.netProfit = st.netProfit
  staked : Inserts (fun b => b.bet.outcome.risked = false) st.staked st'.staked

section Neutral

variable {st st' : StakingState} {staking : Staking} {bet : StakeableBet}

/-- The same bet is staked alike. -/
theorem Alike.place (h : Alike st st') (staking : Staking) (bet : StakeableBet) :
    Alike (st.place staking bet) (st'.place staking bet) := by
  simp only [StakingState.place, h.bankroll]
  split_ifs
  all_goals constructor
  all_goals simp only [StakingState.settle, h.bankroll, h.peak, h.drawdown, h.totalStaked, h.netProfit]
  all_goals exact h.staked.append (.refl _ _)

/-- A bet that decides nothing is staked, and leaves the rest as it was. -/
theorem Alike.insert (h : Alike st st') (hbet : bet.outcome.risked = false) :
    Alike st (st'.place staking bet) := by
  simp only [StakingState.place, hbet, Bool.and_false, Bool.false_eq_true, if_false]
  exact ⟨h.bankroll, h.peak, h.drawdown, h.totalStaked, h.netProfit, h.staked.concat hbet⟩

theorem Alike.foldl {bets bets' : List StakeableBet} (h : Alike st st')
    (hbets : Inserts (fun b => b.outcome.risked = false) bets bets') :
    Alike (bets.foldl (StakingState.place staking) st)
      (bets'.foldl (StakingState.place staking) st') := by
  induction hbets generalizing st st' with
  | nil => exact h
  | keep bet _ ih => exact ih (h.place staking bet)
  | insert hbet _ ih => exact ih (h.insert hbet)

/-- **Bets that decide nothing, inserted anywhere, leave the others as they were.** -/
theorem alike_stakeAll {bets bets' : List StakeableBet} (plan : StakingPlan)
    (h : Inserts (fun b => b.outcome.risked = false) bets bets') :
    Alike (stakeAll plan bets) (stakeAll plan bets') := by
  refine Alike.foldl ?_ h.sort
  exact ⟨rfl, rfl, rfl, rfl, rfl, .refl _ _⟩

theorem Alike.count {outcome : DecisionOutcome} (h : Alike st st') (ho : outcome.risked = true) :
    (st'.staked.filter (·.placed)).countP (fun b => b.bet.outcome = outcome) =
      (st.staked.filter (·.placed)).countP (fun b => b.bet.outcome = outcome) := by
  rw [List.countP_filter, List.countP_filter]
  refine h.staked.countP fun b hb => ?_
  rw [Bool.and_eq_false_imp, decide_eq_true_iff]
  rintro rfl
  rw [hb] at ho
  cases ho

end Neutral

/-! ## The result -/

/-- **Staking is sound**: no bet stakes more than the bankroll has left, which never falls below zero
and ends at what it began with and the net profit; the drawdown is a percentage; and bets that decide
nothing, inserted or removed, change neither the stake of another nor the rates and the drawdown. -/
theorem staking_sound (sqrt : ℚ → ℚ) (plan : StakingPlan) (bets : List StakeableBet)
    (hodds : ∀ b ∈ bets, 1 < b.oddAtDecision) :
    (∀ before b after, (stakingReport sqrt id bets plan).1 = before ++ b :: after →
      0 ≤ plan.bankroll + profits before ∧ 0 ≤ b.stake ∧
        b.stake ≤ plan.bankroll + profits before) ∧
    0 ≤ (stakingReport sqrt id bets plan).2.finalBankroll ∧
    (stakingReport sqrt id bets plan).2.finalBankroll =
      plan.bankroll + (stakingReport sqrt id bets plan).2.netProfit ∧
    (stakingReport sqrt id bets plan).2.netProfit = profits (stakingReport sqrt id bets plan).1 ∧
    0 ≤ (stakingReport sqrt id bets plan).2.maxDrawdownPct ∧
    (stakingReport sqrt id bets plan).2.maxDrawdownPct ≤ 100 ∧
    ∀ bets', Inserts (fun b => b.outcome.risked = false) bets bets' →
      Inserts (fun b => b.bet.outcome.risked = false) (stakingReport sqrt id bets plan).1
        (stakingReport sqrt id bets' plan).1 ∧
      (stakingReport sqrt id bets' plan).2.hitRate = (stakingReport sqrt id bets plan).2.hitRate ∧
      (stakingReport sqrt id bets' plan).2.roiPct = (stakingReport sqrt id bets plan).2.roiPct ∧
      (stakingReport sqrt id bets' plan).2.maxDrawdownPct =
        (stakingReport sqrt id bets plan).2.maxDrawdownPct := by
  have h := ledgered_stakeAll plan hodds
  refine ⟨fun before b after hsplit => ?_, h.nonneg, h.balanced, h.booked, h.drawdown_nonneg,
    h.drawdown_le, fun bets' hins => ?_⟩
  · obtain ⟨hstake, hle⟩ := h.affordable before b after hsplit
    exact ⟨hstake.trans hle, hstake, hle⟩
  · have halike := alike_stakeAll plan hins
    refine ⟨halike.staked, ?_, ?_, halike.drawdown⟩
    · simp only [stakingReport, kpisOf]
      rw [halike.count rfl, halike.count rfl]
    · simp only [stakingReport, kpisOf]
      rw [halike.netProfit, halike.totalStaked]

namespace Sample

/-- A tenth of the bankroll on each bet. -/
def tenthPlan : StakingPlan where
  bankroll := 100
  staking := ⟨.percentBankroll, 10⟩
  bankroll_nonneg := by norm_num
  amount_nonneg := by norm_num
  percent_le _ := by norm_num

/-- A bet on a team to score, decided at this instant. -/
def stakeableBet (decisionAt : Int) (outcome : DecisionOutcome) : StakeableBet where
  marketType := "Buts match"
  decisionAt := decisionAt
  oddAtDecision := 5 / 2
  quotedOdd := 5 / 2
  edgePct := some 10
  outcome := outcome

end Sample

/-- A bet that is lost and, before it, one that is won; then one in between that is refunded. -/
theorem staking_sound_refund :
    (∀ b ∈ [Sample.stakeableBet 3 .lost, Sample.stakeableBet 1 .won], 1 < b.oddAtDecision) ∧
      (stakingReport id id [Sample.stakeableBet 3 .lost, Sample.stakeableBet 2 .void,
        Sample.stakeableBet 1 .won] Sample.tenthPlan).2.maxDrawdownPct =
      (stakingReport id id [Sample.stakeableBet 3 .lost, Sample.stakeableBet 1 .won]
        Sample.tenthPlan).2.maxDrawdownPct := by
  have hodds : ∀ b ∈ [Sample.stakeableBet 3 .lost, Sample.stakeableBet 1 .won],
      1 < b.oddAtDecision := by
    intro b hb
    simp only [List.mem_cons, List.not_mem_nil, or_false] at hb
    rcases hb with rfl | rfl <;> norm_num [Sample.stakeableBet]
  obtain ⟨-, -, -, -, -, -, hinserted⟩ := staking_sound id Sample.tenthPlan _ hodds
  refine ⟨hodds, (hinserted _ ?_).2.2.2⟩
  refine .keep _ (.insert ?_ (.keep _ .nil))
  rfl

end ApiScore
