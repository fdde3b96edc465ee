import ApiScore.Execution.SettlementAgreement
import ApiScore.Simulation.OneDecision

/-!
# The bankroll of a simulation

What a run can stake is what it started with, and what its bets have brought in, without what is staked
on open orders.  An order that is closed gives its stake back, or loses it, or brings in a profit, so
only new orders take from what is available; and these take no more than there is.

* `Funded` — the invariant of the rows of a run.
* `funded_tick` — a tick keeps it.
* `bankroll_reachable` — over any run of ticks and stops.
-/

set_option autoImplicit false

namespace ApiScore

open Relational

/-! ## The rows of a run -/

/-- The bankroll of a run, as it may be. -/
structure BankrollKept (run : SimulationRunRow) (rows : List BetDecision) : Prop where
  available : 0 ≤ (bankrollFromJournal run.initialBankroll rows).availableCents
  exposure : ∀ cap ∈ run.riskSnapshot.maxOpenExposure,
    (bankrollFromJournal run.initialBankroll rows).openExposureCents ≤ cap
  stakes : ∀ d ∈ rows, ∀ stake ∈ d.stake, ∀ most ∈ run.riskSnapshot.maxStakePerBet, stake ≤ most
  /-- The query throws where one of its sums is no safe integer. -/
  query : bankrollOf run.initialBankroll rows =
    if isSafeInteger (realizedOf rows) && isSafeInteger (exposureOf rows) then
      .ok (bankrollFromJournal run.initialBankroll rows)
    else .error (.other "Montant hors bornes")

/-- What a tick keeps of the rows of its run. -/
structure Funded (run : SimulationRunRow) (rows : List BetDecision) : Prop where
  available : 0 ≤ run.initialBankroll + realizedOf rows - exposureOf rows
  exposure : ∀ cap ∈ run.riskSnapshot.maxOpenExposure, exposureOf rows ≤ cap
  stakes : ∀ d ∈ rows, ∀ stake ∈ d.stake,
    0 ≤ stake ∧ ∀ most ∈ run.riskSnapshot.maxStakePerBet, stake ≤ most
  odds : ∀ d ∈ rows, ∀ odd ∈ d.executableOdd, 1000 < odd

theorem Funded.bankrollKept {run : SimulationRunRow} {rows : List BetDecision}
    (h : Funded run rows) : BankrollKept run rows where
  available := by
    rw [bankrollFromJournal_eq]
    exact h.available
  exposure cap hcap := by
    rw [bankrollFromJournal_eq]
    exact h.exposure cap hcap
  stakes d hd stake hstake := (h.stakes d hd stake hstake).2
  query := bankrollOf_eq _ _

/-! ## A tick -/

section Tick

variable {R : Runtime} {run : SimulationRunRow} {rows new : List BetDecision}
  {f : BetDecision → BetDecision} {tick : TickInput}

/-- What a row has brought in. -/
def BetDecision.realized (d : BetDecision) : Int :=
  if d.status = .completed then d.profit.getD 0 else 0

/-- What a row has staked on an open order. -/
def BetDecision.exposure (d : BetDecision) : Int :=
  if d.status = .orderReserved then d.stake.getD 0 else 0

/-- A settlement loses at most the stake. -/
theorem neg_stake_le_profitCents {outcome : DecisionOutcome} {stake odd : Int} (hstake : 0 ≤ stake)
    (hodd : 1000 < odd) : -stake ≤ outcome.profitCents stake (oddValue odd) := by
  cases outcome with
  | won =>
    have hgain : 0 ≤ winningProfitCents stake (oddValue odd) := by
      rw [le_winningProfitCents]
      have := mul_nonneg hstake (show 0 ≤ odd - 1000 by omega)
      omega
    show -stake ≤ winningProfitCents stake (oddValue odd)
    omega
  | lost => exact le_rfl
  | void =>
    show -stake ≤ 0
    omega
  | noResult =>
    show -stake ≤ 0
    omega

/-- **What a tick makes of an open order** stakes no more than it did, and gives the stake back but
for what is lost. -/
theorem TickedRow.bankroll {d d' : BetDecision} (h : TickedRow tick d d')
    (hstake : ∀ stake ∈ d.stake, 0 ≤ stake) (hodd : ∀ odd ∈ d'.executableOdd, 1000 < odd) :
    d'.exposure ≤ d.exposure ∧ d.realized - d.exposure ≤ d'.realized - d'.exposure := by
  have hnonneg : 0 ≤ d.stake.getD 0 := by
    cases hd : d.stake with
    | none => exact le_rfl
    | some stake => exact hstake stake hd
  have hrealized : d.realized = 0 := by
    rw [BetDecision.realized, h.opened]
    rfl
  have hexposure : d.exposure = d.stake.getD 0 := by
    rw [BetDecision.exposure, if_pos h.opened]
  rw [hrealized, hexposure, BetDecision.realized, BetDecision.exposure, h.stake]
  rcases h.status with hs | hs | hs
  · simp [hs, hnonneg]
  · simp [hs]
  · obtain ⟨odd, stake, outcome, hsome, hstk, hprofit⟩ := h.profit hs
    have hloss : -stake ≤ outcome.profitCents stake (oddValue odd) :=
      neg_stake_le_profitCents (hstake stake hstk) (hodd odd hsome)
    rw [hstk] at hnonneg ⊢
    simp only [hs, hprofit, Option.getD_some, if_true, reduceCtorEq, if_false] at hnonneg ⊢
    omega

theorem realizedOf_append (rows new : List BetDecision) :
    realizedOf (rows ++ new) = realizedOf rows + realizedOf new := by
  rw [realizedOf, List.map_append, List.sum_append, realizedOf, realizedOf]

theorem exposureOf_append (rows new : List BetDecision) :
    exposureOf (rows ++ new) = exposureOf rows + exposureOf new := by
  rw [exposureOf, List.map_append, List.sum_append, exposureOf, exposureOf]

/-- The executions and the settlements of a tick take nothing from what is available. -/
theorem bankroll_map (h : ∀ d ∈ rows, (f d).exposure ≤ d.exposure ∧
      d.realized - d.exposure ≤ (f d).realized - (f d).exposure) :
    exposureOf (rows.map f) ≤ exposureOf rows ∧
      realizedOf rows - exposureOf rows ≤ realizedOf (rows.map f) - exposureOf (rows.map f) := by
  have hsum : (rows.map fun d => d.realized + (f d).exposure).sum ≤
      (rows.map fun d => (f d).realized + d.exposure).sum := by
    refine List.sum_le_sum fun d hd => ?_
    have := (h d hd).2
    omega
  have hrealized : realizedOf (rows.map f) = (rows.map fun d => (f d).realized).sum := by
    rw [realizedOf, List.map_map]
    rfl
  have hexposure : exposureOf (rows.map f) = (rows.map fun d => (f d).exposure).sum := by
    rw [exposureOf, List.map_map]
    rfl
  rw [List.sum_map_add, List.sum_map_add, ← hrealized, ← hexposure] at hsum
  refine ⟨?_, ?_⟩
  · rw [hexposure]
    exact List.sum_le_sum fun d hd => (h d hd).1
  · change realizedOf rows + exposureOf (rows.map f) ≤
      realizedOf (rows.map f) + exposureOf rows at hsum
    omega

/-- New rows have brought in nothing, and stake what they stake on open orders. -/
theorem bankroll_new {context : SimulationContext} {existing : List BetDecision}
    (h : ∀ row ∈ new, PlannedRow R context existing row) :
    realizedOf new = 0 ∧ exposureOf new = stakesOf new := by
  constructor
  · refine List.sum_eq_zero fun x hx => ?_
    obtain ⟨row, hrow, rfl⟩ := List.mem_map.1 hx
    rcases (h row hrow).decision with ⟨_, hs, -⟩ | ⟨_, hs, -⟩
    · rw [hs]
      rfl
    · rw [hs]
      rfl
  · rw [exposureOf, stakesOf]
    refine congrArg List.sum (List.map_congr_left fun row hrow => ?_)
    rcases (h row hrow).decision with ⟨_, hs, -, hstake, -⟩ | ⟨_, hs, -⟩
    · rw [hstake, hs]
      rfl
    · rw [if_pos hs]

/-- **A tick keeps the bankroll.** -/
theorem funded_tick (hfunded : Funded run rows)
    (hselect : ∀ target instant quote, tick.selectQuote target instant = some quote →
      1000 < quote.oddValue)
    (hf : ∀ d ∈ rows, f d = d ∨ TickedRow tick d (f d))
    (hnew : NewRows R run rows (rows.map f) new) : Funded run (rows.map f ++ new) := by
  have hodds : ∀ d ∈ rows, ∀ odd ∈ (f d).executableOdd, 1000 < odd := by
    intro d hd odd hodd
    rcases hf d hd with heq | hticked
    · exact hfunded.odds d hd odd (heq ▸ hodd)
    · rcases hticked.odd with hsame | ⟨target, instant, quote, hquote, hsome⟩
      · exact hfunded.odds d hd odd (hsame ▸ hodd)
      · rw [hsome] at hodd
        exact Option.some.inj hodd ▸ hselect target instant quote hquote
  obtain ⟨hexposure, hrealized⟩ := @bankroll_map rows f fun d hd => by
    rcases hf d hd with heq | hticked
    · rw [heq]
      exact ⟨le_rfl, le_rfl⟩
    · exact hticked.bankroll (fun stake hstake => (hfunded.stakes d hd stake hstake).1) (hodds d hd)
  obtain ⟨hzero, hstakes⟩ := bankroll_new hnew.planned
  have havailable := hfunded.available
  refine ⟨?_, fun cap hcap => ?_, fun d hd stake hstake => ?_, fun d hd odd hodd => ?_⟩
  · have hleft := hnew.funded
    rw [bankrollFromJournal_eq] at hleft
    change 0 ≤ run.initialBankroll + realizedOf (rows.map f) - exposureOf (rows.map f) →
      stakesOf new ≤ run.initialBankroll + realizedOf (rows.map f) - exposureOf (rows.map f) at hleft
    have := hleft (by omega)
    rw [realizedOf_append, exposureOf_append, hzero, hstakes]
    omega
  · rw [exposureOf_append, hstakes]
    exact hnew.capped cap hcap (hexposure.trans (hfunded.exposure cap hcap))
  · rcases List.mem_append.1 hd with hd | hd
    · obtain ⟨x, hx, rfl⟩ := List.mem_map.1 hd
      rw [(same_of_ticked (hf x hx)).2.1] at hstake
      exact hfunded.stakes x hx stake hstake
    · rcases (hnew.planned d hd).decision with ⟨_, -, -, hnone, -⟩ | ⟨s, -, hsome, hpos, hmost, -⟩
      · rw [hnone] at hstake
        cases hstake
      · obtain rfl := Option.some.inj (hsome.symm.trans hstake)
        exact ⟨hpos.le, hmost⟩
  · rcases List.mem_append.1 hd with hd | hd
    · obtain ⟨x, hx, rfl⟩ := List.mem_map.1 hd
      exact hodds x hx odd hodd
    · rw [(hnew.planned d hd).odd] at hodd
      cases hodd

end Tick

/-! ## Any run of ticks and stops -/

section Runs

variable {R : Runtime} {w w' w₀ : SimulationWorld}

theorem Funded.nil (run : SimulationRunRow) : Funded run [] where
  available := by
    have := run.bankroll_pos
    show 0 ≤ run.initialBankroll + 0 - 0
    omega
  exposure cap hcap := (run.exposure_pos cap hcap).le
  stakes _ h := nomatch h
  odds _ h := nomatch h

theorem funded_step (h : SimulationWorld.Step R w w') (hfunded : Funded w.run w.rows) :
    Funded w'.run w'.rows := by
  obtain ⟨⟨status, hrun, -⟩, heq | ⟨tick, f, new, hselect, heq, hf, hnew⟩⟩ := h.rows_eq
  · rw [hrun, heq]
    exact ⟨hfunded.available, hfunded.exposure, hfunded.stakes, hfunded.odds⟩
  · rw [hrun, heq]
    have hnext := funded_tick hfunded hselect hf hnew
    exact ⟨hnext.available, hnext.exposure, hnext.stakes, hnext.odds⟩

/-- **Every run keeps its bankroll**: nothing is staked that is not there, no cap is exceeded, and the
query computes what the journal says. -/
theorem bankroll_reachable (hstart : w₀.rows = [])
    (hreach : Relation.ReflTransGen (SimulationWorld.Step R) w₀ w) : BankrollKept w.run w.rows := by
  have hfunded : Funded w.run w.rows := by
    induction hreach with
    | refl =>
      rw [hstart]
      exact .nil _
    | tail _ hstep ih => exact funded_step hstep ih
  exact hfunded.bankrollKept

/-- The bankroll of a run that has given an order. -/
theorem bankroll_afterTick : ∃ w : SimulationWorld, w.rows.map (·.stake) = [some 500] ∧
    BankrollKept w.run w.rows := by
  obtain ⟨w, hreach, hrows⟩ := reachable_afterTick
  exact ⟨w, hrows, bankroll_reachable rfl hreach⟩

end Runs

end ApiScore
