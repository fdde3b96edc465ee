import ApiScore.Execution.AloneCalls
import ApiScore.Execution.DecisionMoves
import ApiScore.Execution.Money
import ApiScore.Execution.PaperOperator
import ApiScore.Execution.Replay

/-!
# Settling with the paper operator, and in the simulation

The paper operator turns the outcome of a bet into a payout, and `settleFromOperator` turns the payout
back into an outcome.  The simulation writes the outcome itself, and computes the profit from it.

* `settleFromOperator_completes` — what a settlement run alone writes on the decision.
* `Pays`, `settlement_agreement` — when the two write the same outcome and the same profit.
-/

set_option autoImplicit false

namespace ApiScore

open Relational Concurrent

/-! ## A settlement, run alone -/

section Alone

variable {S : Setting} {i : CallId} {w w' : World}

/-- The decision of an order, after its row was rewritten. -/
theorem Redecides.decision?_self {db db' : Database} {o : BetOrder} {k : BetDecision → BetDecision}
    (h : Redecides db [o] k db') (hk : ∀ d, (k d).id = d.id) :
    db'.decision? o.decisionId = (db.decision? o.decisionId).map k := by
  show db'.decisions.rows.find? _ = (db.decisions.rows.find? _).map k
  rw [h, Table.find?_map_key fun d => by split_ifs <;> simp only [hk]]
  cases hf : db.decisions.rows.find? fun d => d.id == o.decisionId with
  | none => rfl
  | some d =>
    have hd : d.id = o.decisionId := by simpa using List.find?_some hf
    rw [Option.map_some, Option.map_some, if_pos (by simp [hd])]

variable {orderId : String} {op : OperatorOrder} {result order : BetOrder}

/-- **A settlement completes the decision with what the payout says.** -/
theorem settleFromOperator_completes {text : String} {stake payout : Int}
    (hset : op.settlement? = some text) (hcents : toCents text = some payout)
    (horder : w.db.order? orderId = some order) (hs : order.status = .accepted)
    (hstake : order.acceptedStake = some stake)
    (h : Returns S.quiet i (settleFromOperator orderId op) w result w') :
    ∃ instant, w'.db.decision? order.decisionId = (w.db.decision? order.decisionId).map
      (BetDecision.complete (settlementOutcome stake payout).1 (settlementOutcome stake payout).2
        instant) := by
  rcases settleFromOperator_cases horder hs h with ⟨hnone, -⟩ | ⟨text', stake', payout', _, control,
    _, db, env', db', htext, hpayout, hstake', hbody, hbody', hdb', -⟩
  · rw [hset] at hnone
    cases hnone
  obtain rfl := Option.some.inj (hset.symm.trans htext)
  obtain rfl := Option.some.inj (hcents.symm.trans hpayout)
  obtain rfl := Option.some.inj (hstake.symm.trans hstake')
  -- neither the ledger nor a stop touches the order or its decision
  obtain ⟨_, _, _, -, -, hout⟩ := settleStakeTx_spec hbody
  obtain ⟨-, honly⟩ := hout.posted
  obtain ⟨ho, hoid⟩ := order?_eq_some horder
  have ho' : order ∈ ({ db with control } : Database).orders := honly.orders ▸ ho
  rcases settleOrderTx_decisions hbody' with ⟨-, x, hx, hxid, hxs⟩ | ⟨x, hx, hxid, -, hre⟩
  · rw [order_eq_of_id hx ho' (hxid.trans hoid.symm)] at hxs
    exact (hxs hs).elim
  · obtain rfl := order_eq_of_id hx ho' (hxid.trans hoid.symm)
    refine ⟨op.settledAt.getD env'.now, ?_⟩
    rw [hdb', hre.decision?_self fun _ => rfl, Database.decision?, Database.decision?,
      honly.decisions]

end Alone

/-! ## The payout -/

theorem jsRound_oddValue (odd : Int) : jsRound (oddValue odd * 1000) = odd := by
  rw [oddValue, div_mul_cancel₀ _ (by norm_num), jsRound_int]

/-- Compare the gain of a stake with a whole number of cents. -/
theorem le_winningProfitCents {n stake odd : Int} :
    n ≤ winningProfitCents stake (oddValue odd) ↔ 1000 * n - 500 ≤ stake * (odd - 1000) := by
  rw [winningProfitCents, jsRound_oddValue, le_jsRound, le_div_iff₀ (by norm_num)]
  have hleft : ((n : ℚ) - 1 / 2) * 1000 = ((1000 * n - 500 : Int) : ℚ) := by
    push_cast
    ring
  rw [hleft, Int.cast_le]

/-- When a bet pays what its outcome says: a win earns at least half a cent, and comes back as an
amount of at most twelve digits before the point. -/
def Pays (outcome : DecisionOutcome) (stake odd : Int) : Prop :=
  outcome = .won → 500 ≤ stake * (odd - 1000) ∧ stake * odd + 500 < 10 ^ 17

/-- A win that pays, in terms of what it earns. -/
theorem pays_won_iff {stake odd : Int} :
    Pays .won stake odd ↔ 1 ≤ winningProfitCents stake (oddValue odd) ∧
      stake + winningProfitCents stake (oddValue odd) < 10 ^ 14 := by
  have hone := @le_winningProfitCents 1 stake odd
  have hmax := @le_winningProfitCents (10 ^ 14 - stake) stake odd
  simp only [mul_sub] at hone hmax
  simp only [Pays, true_imp_iff, mul_sub]
  omega

/-- A win that earns nothing is taken for a refund. -/
theorem settlementOutcome_stake (stake : Int) : settlementOutcome stake stake = (.void, 0) := by
  rw [settlementOutcome, if_pos rfl]

/-- **Back from the payout**: the outcome and the profit are those of the bet. -/
theorem settlementOutcome_payout {outcome : DecisionOutcome} {stake odd : Int} (hstake : 0 < stake)
    (hdecided : outcome = .won ∨ outcome = .lost ∨ outcome = .void)
    (hgain : outcome = .won → 1 ≤ winningProfitCents stake (oddValue odd)) :
    settlementOutcome stake (outcome.payoutCents stake (oddValue odd)) =
      (outcome, outcome.profitCents stake (oddValue odd)) := by
  rcases hdecided with rfl | rfl | rfl
  · have hpos := hgain rfl
    show settlementOutcome stake (stake + winningProfitCents stake (oddValue odd)) =
      (.won, winningProfitCents stake (oddValue odd))
    rw [settlementOutcome, if_neg (by omega), if_pos (by omega), add_sub_cancel_left]
  · show settlementOutcome stake 0 = (.lost, -stake)
    rw [settlementOutcome, if_neg (by omega), if_neg (by omega), zero_sub]
  · exact settlementOutcome_stake stake

/-! ## The agreement -/

/-- The row of the simulation and the order of the pipeline are the same bet: the same market and
side, the same stake, the same odd. -/
structure SameBet (row : BetDecision) (request : PlaceOrderRequest) (stake odd : Int) : Prop where
  reserved : row.status = .orderReserved
  hasOdd : row.executableOdd = some odd
  hasStake : row.stake = some stake
  market : ∃ target,
    quoteTargetForRuleMarket row.providerFixtureId row.marketType row.isHomeTeam = some target ∧
      request.marketKey = target.marketKey ∧ request.selectionKey = target.selectionKey
  asked : request.stake = decimalText stake

/-- The order is settled on what the paper operator reports, and nothing where the adapter throws. -/
inductive PaperSettled (S : Setting) (i : CallId) (orderId : String)
    (report : Except ServiceError OperatorOrder) (w w' : World) : Prop
  | settled {reported : OperatorOrder} {result : BetOrder} (hreport : report = .ok reported)
      (hrun : Returns S.system i (settleFromOperator orderId reported) w result w')
  | threw {e : ServiceError} (hreport : report = .error e) (hworld : w' = w)

/-- The simulation settles the row with the outcome and the profit that the decision has. -/
def AgreesWith (row : BetDecision) (fixture : Fixture) (now : Int) (d? : Option BetDecision) :
    Prop :=
  ∃ settled d, planSettlement row (some fixture) now = .ok (some settled) ∧ d? = some d ∧
    d.outcome = settled.outcome ∧ d.profit = settled.profit

section Agreement

variable {row : BetDecision} {request : PlaceOrderRequest} {fixture : Fixture} {stake odd now : Int}
  {outcome : DecisionOutcome}

/-- What the simulation settles the row with. -/
theorem SameBet.planSettlement_eq (h : SameBet row request stake odd)
    (hresult : resolveSettlement ⟨row.marketType, row.isHomeTeam⟩ (finalStateOf fixture) =
      some outcome) :
    planSettlement row (some fixture) now =
      if isSafeInteger (outcome.profitCents stake (oddValue odd)) then
        .ok (some { row with
          status := .completed, outcome := some outcome
          profit := some (outcome.profitCents stake (oddValue odd)), settledAt := some now })
      else .error (.other "Centimes non entiers") := by
  rw [planSettlement, if_neg (not_not.2 h.reserved)]
  simp [h.hasOdd, h.hasStake, BetDecision.result?, hresult]

/-- The paper operator settles the same bet on the same outcome. -/
theorem SameBet.refreshSettlement_eq {P : Platform} {bookedAt settledAt : Int}
    (h : SameBet row request stake odd)
    (hresult : resolveSettlement ⟨row.marketType, row.isHomeTeam⟩ (finalStateOf fixture) =
      some outcome) :
    (PaperBooking.of P request odd bookedAt).refreshSettlementFromFixture (some fixture) settledAt =
      (PaperBooking.of P request odd bookedAt).order.settle outcome settledAt := by
  obtain ⟨target, htarget, hmarket, hselection⟩ := h.market
  obtain ⟨htype, hside⟩ := marketTypeByKey_quoteTarget htarget
  have hbet : (PaperBooking.of P request odd bookedAt).isHomeTeam = row.isHomeTeam :=
    (congrArg isHomeSelection hselection).trans hside
  have hkey : marketTypeByKey (PaperBooking.of P request odd bookedAt).marketKey =
      some row.marketType := (congrArg marketTypeByKey hmarket).trans htype
  simp only [PaperBooking.refreshSettlementFromFixture]
  rw [if_neg (by simp [PaperBooking.of]), hkey]
  dsimp only
  rw [hbet, hresult]

/-- What it reports gives back the payout of that outcome; it throws where that is no safe amount. -/
theorem SameBet.settle_eq (P : Platform) (bookedAt settledAt : Int) (outcome : DecisionOutcome)
    (h : SameBet row request stake odd) (hsafe : isSafeInteger stake = true) :
    (∃ e, (PaperBooking.of P request odd bookedAt).order.settle outcome settledAt = .error e) ∧
        isSafeInteger (outcome.payoutCents stake (oddValue odd)) = false ∨
      ∃ reported, (PaperBooking.of P request odd bookedAt).order.settle outcome settledAt =
          .ok reported ∧ reported.status.isSettled = true ∧
        reported.payout = some (decimalText (outcome.payoutCents stake (oddValue odd))) ∧
        isSafeInteger (outcome.payoutCents stake (oddValue odd)) = true := by
  have hcents : toCents request.stake = some stake := by
    rw [h.asked]
    exact toCents_decimalText hsafe
  have hstake : (PaperBooking.of P request odd bookedAt).order.acceptedStake.bind toCents =
      some stake := hcents
  have hodd : (PaperBooking.of P request odd bookedAt).order.acceptedOdd.bind (·.finite?) =
      some (oddValue odd) := rfl
  simp only [OperatorOrder.settle, hstake, hodd, fromCents]
  by_cases hpay : isSafeInteger (outcome.payoutCents stake (oddValue odd)) = true
  · simp only [if_pos hpay]
    refine .inr ⟨_, rfl, ?_, rfl, hpay⟩
    split_ifs <;> rfl
  · simp only [if_neg hpay]
    exact .inl ⟨⟨_, rfl⟩, by simpa using hpay⟩

/-- The simulation settles the row with the outcome of the bet and nothing else. -/
theorem SameBet.outcome_of_agreesWith {d : BetDecision} (h : SameBet row request stake odd)
    (hresult : resolveSettlement ⟨row.marketType, row.isHomeTeam⟩ (finalStateOf fixture) =
      some outcome) (hagrees : AgreesWith row fixture now (some d)) : d.outcome = some outcome := by
  obtain ⟨settled, d', hplan, hd, houtcome, -⟩ := hagrees
  rw [h.planSettlement_eq hresult] at hplan
  split_ifs at hplan
  rw [Except.ok.injEq, Option.some.injEq] at hplan
  rw [Option.some.inj hd, houtcome, ← hplan]

/-- An accepted stake is positive, and an amount of its column. -/
theorem acceptedStake_fits {db : Database} {o : BetOrder} (ho : o ∈ db.orders)
    (h : o.acceptedStake = some stake) : 0 < stake ∧ stake < 10 ^ 14 := by
  have hcheck := db.orders.checked o ho
  simp only [orderSchema, Bool.and_eq_true, h, Option.all_some, decide_eq_true_eq] at hcheck
  obtain ⟨⟨⟨⟨⟨⟨⟨⟨⟨⟨⟨⟨-, -⟩, -⟩, hpos, hle⟩, -⟩, -⟩, -⟩, -⟩, hfits⟩, -⟩, -⟩, -⟩, -⟩ := hcheck
  rw [fitsDecimal14, decide_eq_true_eq, maxDecimal14, abs_le] at hfits
  omega

theorem isSafeInteger_of_lt {n : Int} (hn : -10 ^ 14 < n) (h : n < 10 ^ 14) :
    isSafeInteger n = true := by
  rw [isSafeInteger, decide_eq_true_eq, JsNumber.maxSafeInteger, abs_le]
  omega

/-- A bet that pays comes back as an amount. -/
theorem Pays.payout_lt (h : Pays outcome stake odd) (hfits : stake < 10 ^ 14) :
    outcome.payoutCents stake (oddValue odd) < 10 ^ 14 := by
  cases outcome with
  | won => exact (pays_won_iff.1 h).2
  | void => exact hfits
  | lost | noResult =>
    show (0 : Int) < 10 ^ 14
    omega

variable {S : Setting} {i : CallId} {w w' : World} {P : Platform} {orderId : String}
  {order : BetOrder} {d : BetDecision} {bookedAt settledAt : Int}

/-- What the paper operator leaves of the decision: it is completed with the payout, where that is
an amount. -/
theorem PaperSettled.decision (hbet : SameBet row request stake odd)
    (hresult : resolveSettlement ⟨row.marketType, row.isHomeTeam⟩ (finalStateOf fixture) =
      some outcome) (hnonneg : 0 ≤ outcome.payoutCents stake (oddValue odd))
    (horder : w.db.order? orderId = some order) (hs : order.status = .accepted)
    (hstake : order.acceptedStake = some stake)
    (hd : w.db.decision? order.decisionId = some d)
    (hrun : PaperSettled S i orderId
      ((PaperBooking.of P request odd bookedAt).refreshSettlementFromFixture (some fixture)
        settledAt) w w') :
    (outcome.payoutCents stake (oddValue odd) < 10 ^ 14 ∧
      ∃ instant, w'.db.decision? order.decisionId = some (d.complete
        (settlementOutcome stake (outcome.payoutCents stake (oddValue odd))).1
        (settlementOutcome stake (outcome.payoutCents stake (oddValue odd))).2 instant)) ∨
      10 ^ 14 ≤ outcome.payoutCents stake (oddValue odd) ∧
        w'.db.decision? order.decisionId = some d := by
  obtain ⟨hpos, hfits⟩ := acceptedStake_fits (order?_eq_some horder).1 hstake
  rw [hbet.refreshSettlement_eq hresult] at hrun
  rcases hbet.settle_eq P bookedAt settledAt outcome (isSafeInteger_of_lt (by omega) hfits) with
    ⟨⟨e, he⟩, hunsafe⟩ | ⟨reported, hreported, hsettled, hpayout, hsafe⟩
  · -- the adapter throws
    rw [he] at hrun
    cases hrun with
    | settled hreport => cases hreport
    | threw _ hworld =>
      refine .inr ⟨?_, hworld ▸ hd⟩
      by_contra hlt
      rw [isSafeInteger_of_lt (by omega) (by omega)] at hunsafe
      cases hunsafe
  · rw [hreported] at hrun
    cases hrun with
    | threw hreport => cases hreport
    | settled hreport hret =>
      cases hreport
      by_cases hlt : outcome.payoutCents stake (oddValue odd) < 10 ^ 14
      · have hset : reported.settlement? =
            some (decimalText (outcome.payoutCents stake (oddValue odd))) := by
          rw [OperatorOrder.settlement?, if_pos hsettled, hpayout, Option.filter_some,
            if_pos ((isAmountText_decimalText hnonneg).2 hlt)]
        obtain ⟨instant, hdec⟩ := settleFromOperator_completes hset (toCents_decimalText hsafe)
          horder hs hstake (quiet_of_alone hret)
        exact .inl ⟨hlt, instant, by rw [hdec, hd]; rfl⟩
      · -- the payout does not have the pattern of an amount
        have hset : reported.settlement? = none := by
          rw [OperatorOrder.settlement?, if_pos hsettled, hpayout, Option.filter_some,
            if_neg fun h => hlt ((isAmountText_decimalText hnonneg).1 h)]
        exact .inr ⟨by omega, by
          rw [settleFromOperator_untouched hset (quiet_of_alone hret), hd]⟩

end Agreement

/-! ## Two bets -/

namespace Sample

/-- A bet on a goal of the home team. -/
def paperDecision (stake odd : Int) : BetDecision :=
  { decision with
    marketKey := "TEAM_GOALS_FT", selectionKey := "HOME_OVER_0.5"
    minAcceptableOdd := odd, stake := some stake, decisionOdd := some odd }

/-- The match it is on, won. -/
def won : Fixture where
  id := "fixture-1"
  providerFixtureId := "1"
  leagueId := some 1
  season := some 2026
  homeTeamId := some 10
  awayTeamId := some 20
  homeTeamName := some "Home"
  awayTeamName := some "Away"
  statusShort := some "FT"
  elapsed := some 90
  scoreHome := some 1
  scoreAway := some 0
  rawHome := ⟨none, none⟩
  rawAway := ⟨none, none⟩
  lastSyncedAt := 0

/-- The digest of `SIMULATION|paper|fixture-1|TEAM_GOALS_FT|HOME_OVER_0.5|v1|0`. -/
def paperKey : String := "8f6308d8fa1298e1ba4ba737417f061dd09a513eeb55ba1bdb152eefe4b2bd2b"

/-- The paper operator alone, in `SIMULATION`; the functions as they are on the texts below. -/
def paperPlatform : Platform where
  ports mode := if mode = .simulation then some ⟨.paper, "paper"⟩ else none
  sha256Hex text :=
    if text = "SIMULATION|paper|fixture-1|TEAM_GOALS_FT|HOME_OVER_0.5|v1|0" then paperKey
    else if text = "PAPER-8f6308d8fa1298e1ba4ba737|" ++ paperKey ++ "|2|10.00" then
      "8c886be3d2ffa7aa6febcb8642a56f78133a7efe9ead0ece74de07c2dca476be"
    else "2c1f064c4618657c336ae1419558200c47160f701a8a675459c74399e4ba536c"
  redactErrorMessage text := text
  numberText x := if x = .num 2 then "2" else "1.499"

def paperScene : Scene where
  platform := paperPlatform

/-- What the pipeline asks the paper operator for. -/
def paperRequest (stake odd : Int) : PlaceOrderRequest where
  decisionId := "decision"
  idempotencyKey := paperKey
  operatorKey := "paper"
  fixtureId := "fixture-1"
  providerFixtureId := "1"
  marketKey := "TEAM_GOALS_FT"
  selectionKey := "HOME_OVER_0.5"
  requestedOdd := oddValue odd
  minimumOdd := oddValue odd
  stake := decimalText stake
  currency := "EUR"
  quoteCapturedAt := 0

def paperBooking (stake odd : Int) : PaperBooking :=
  .of paperPlatform (paperRequest stake odd) odd 1000

/-- The tables of the sample, with this decision. -/
def paperSeed (stake odd : Int) : Run :=
  .init (.init { seed with decisions := table _ [paperDecision stake odd] } 1000 funds)

/-- The execution is enabled in `SIMULATION`, and the paper operator accepts the bet. -/
def paperAccepted (stake odd : Int) : List Choice :=
  [.start 0 (.openAccount ⟨.simulation, "paper", "EUR", "100.00"⟩), .act 0 (.at 1000 "account"),
    .start 1 (.createRiskPolicy policyInput), .act 1 (.at 1000 "policy"),
    .start 2 (.changeMode ⟨.simulation, 2, ["e1", "e2"]⟩ ""), .act 2 (.at 1000 ""),
    .start 3 (.executeDecision "decision" "account"), .act 3 (.at 1000 "order"),
    .act 3 (.at 1000 ""),
    .act 3 { Input.at 1000 "" with quote := some ⟨none, .num (oddValue odd), 0, true⟩ },
    .act 3 (.at 1000 ""), .act 3 (.at 1000 ""), .act 3 (.at 1000 ""),
    .act 3 { Input.at 1000 "" with answer := .ok (paperBooking stake odd).toResult },
    .act 3 (.at 1000 ""), .act 3 (.at 1000 ""), .act 3 (.at 1000 "")]

/-- The bet is settled: the order and its decision before, and the decision after. -/
def paperSettled (stake odd : Int) : Option (BetOrder × BetDecision × BetDecision) := do
  let c ← paperScene.replay (paperAccepted stake odd) (paperSeed stake odd)
  let reported ← ((paperBooking stake odd).refreshSettlementFromFixture (some won) 1000).toOption
  let (result, w) ← paperScene.alone 4 (settleFromOperator "order" reported).run
    [.at 1000 "", .at 1000 "", .at 1000 "", .at 1000 ""] c.state
  let _ ← result.toOption
  return (← c.state.db.order? "order", ← c.state.db.decision? "decision",
    ← w.db.decision? "decision")

/-- The operator and the database of the sample agree on what they report and write. -/
theorem paperSettled_spec {stake odd : Int} {order : BetOrder} {d d' : BetDecision}
    (h : paperSettled stake odd = some (order, d, d')) :
    ∃ c w', Reachable paperScene.setting.system (paperSeed stake odd) c ∧
      c.state.db.order? "order" = some order ∧ c.state.db.decision? "decision" = some d ∧
      PaperSettled paperScene.setting 4 "order"
        ((paperBooking stake odd).refreshSettlementFromFixture (some won) 1000) c.state w' ∧
      w'.db.decision? "decision" = some d' := by
  simp only [paperSettled, Option.bind_eq_bind, Option.bind_eq_some_iff] at h
  obtain ⟨c, hc, reported, hreported, ⟨result, w'⟩, hrun, _, hok, o, ho, x, hx, y, hy, h⟩ := h
  obtain ⟨rfl, rfl, rfl⟩ : o = order ∧ x = d ∧ y = d' := by simpa using h
  have hc' := Scene.replay_reachable .init hc
  have hret := Scene.alone_spec hrun
  cases result with
  | error e => cases hok
  | ok result =>
    cases hr : (paperBooking stake odd).refreshSettlementFromFixture (some won) 1000 with
    | error e =>
      rw [hr] at hreported
      cases hreported
    | ok r =>
      rw [hr] at hreported
      obtain rfl : r = reported := Option.some.inj hreported
      exact ⟨c, w', hc', ho, hx, .settled rfl hret, hy⟩

/-- What is read off a run: the order is accepted, and its decision is the bet on the match won. -/
def comparable (stake odd : Int) (outcome : DecisionOutcome)
    (r : BetOrder × BetDecision × BetDecision) : Bool :=
  r.1.status == .accepted && r.1.acceptedStake == some stake && r.1.decisionId == "decision" &&
    r.2.1.status == .orderReserved && r.2.1.executableOdd == some odd &&
    r.2.1.stake == some stake && r.2.1.outcome == none && r.2.1.marketType == "Buts match" &&
    r.2.1.isHomeTeam && r.2.2.outcome == some outcome

theorem comparable_spec {stake odd : Int} {outcome : DecisionOutcome} {order : BetOrder}
    {d d' : BetDecision} (h : comparable stake odd outcome (order, d, d') = true) :
    SameBet d (paperRequest stake odd) stake odd ∧
      resolveSettlement ⟨d.marketType, d.isHomeTeam⟩ (finalStateOf won) = some .won ∧
      order.status = .accepted ∧ order.acceptedStake = some stake ∧
      order.decisionId = "decision" ∧ d.outcome = none ∧ d'.outcome = some outcome := by
  simp only [comparable, Bool.and_eq_true, beq_iff_eq] at h
  obtain ⟨⟨⟨⟨⟨⟨⟨⟨⟨hs, hstake⟩, hid⟩, hreserved⟩, hodd⟩, hasked⟩, hopen⟩, htype⟩, hhome⟩, hdone⟩ := h
  refine ⟨⟨hreserved, hodd, hasked, ?_, rfl⟩, ?_, hs, hstake, hid, hopen, hdone⟩
  · rw [htype, hhome]
    exact ⟨_, rfl, rfl, rfl⟩
  · rw [htype, hhome]
    decide

end Sample

end ApiScore
