import ApiScore.Backtest.StrategyGuard
import Mathlib.Data.Set.Finite.Lattice

/-!
# Complete rules

Which fields of the rules of a strategy a replay reads depends on the minute, the score and the
signals that it calls them on.  The rules are complete when they have all the numbers that some call
reads.

* `RulesComplete` — the rules have them.
* `succeeds_evaluateFirstHalf_iff`, `succeeds_evaluateSecondHalf_iff` — what one call reads.
* `RulesComplete.succeeds` — complete rules are read through.
* `RulesComplete.of_readThrough` — and rules are complete that are read through on all signals, in
  every state of the score, in the first minute and at half-time.
-/

set_option autoImplicit false

namespace ApiScore

open Fallible Grouping Ranked Strict

/-! ## Complete rules -/

/-- A rule whose window is still open after the minute. -/
def opensAfter (minute : ℚ) (rule : JsValue) : Bool :=
  (rule.get "maxElapsed").finite?.any fun maxElapsed => decide (minute < maxElapsed)

/-- The numbers that a suggestion takes from the odds of its market. -/
def completeOdds (odds : JsValue) : Bool :=
  (odds.get "min").finite?.isSome && (odds.get "edgePct").finite?.isSome &&
    (odds.get "confidence").finite?.isSome

/-- The signal is one of the three, or left out, and so are the modifiers, or are numbers. -/
def completeSignal (rules : JsValue) : Bool :=
  (rules.get "signal").signal?.isSome &&
    (!(rules.get "scoreStateModifiers").truthy ||
      [ScoreState.leading, .trailing, .drawing].all fun state =>
        ((rules.get "scoreStateModifiers").get state.key).finite?.isSome)

/-- The rules have every number that may be read of them: the windows always, and the rest of what
belongs to a half once a rule can be open in it. -/
structure RulesComplete (rules : JsValue) : Prop where
  windows : ∀ rule ∈ (rules.get "firstHalfRules").items, (rule.get "maxElapsed").finite?.isSome
  secondWindow : ((rules.get "secondHalfRule").get "maxElapsed").finite?.isSome
  firstHalf : ∀ rule ∈ (rules.get "firstHalfRules").items, opensAfter 1 rule →
    (rule.get "minShots").finite?.isSome ∧ completeSignal rules ∧
      completeOdds ((rules.get "odds").get "firstHalfHT") ∧
      completeOdds ((rules.get "odds").get "firstHalfFT")
  secondHalf : opensAfter 45 (rules.get "secondHalfRule") →
    ((rules.get "secondHalfRule").get "minShots").finite?.isSome ∧ completeSignal rules ∧
      completeOdds ((rules.get "odds").get "secondHalf")

/-- What the guard asks of the rules. -/
structure RulesShaped (rules : JsValue) : Prop where
  record : isRecord rules = true
  firstHalfRules : (rules.get "firstHalfRules").items?.isSome = true
  secondHalfRule : isRecord (rules.get "secondHalfRule") = true
  odds : isRecord (rules.get "odds") = true

/-! ## One read -/

section Reads

variable {α : Type} {expected : JsValue → Option α} {value : JsValue} {key : String} {a : α}

theorem readAs_eq_ok (h : expected .undefined = none) :
    value.readAs expected key = .ok a ↔ expected (value.get key) = some a := by
  cases value with
  | undefined | null =>
    refine iff_of_false (fun h => nomatch h) ?_
    show expected .undefined ≠ some a
    rw [h]
    exact nofun
  | bool | num | str | arr | obj => exact elim_eq_ok

theorem succeeds_readAs_iff (h : expected .undefined = none) :
    Succeeds (value.readAs expected key) ↔ (expected (value.get key)).isSome = true := by
  rw [Option.isSome_iff_exists]
  exact exists_congr fun _ => readAs_eq_ok h

/-- A field of a record may also be one that need not be there. -/
theorem readAs_record_eq_ok (h : isRecord value = true) :
    value.readAs expected key = .ok a ↔ expected (value.get key) = some a := by
  cases value with
  | obj fields => exact elim_eq_ok
  | undefined | null | bool | num | str | arr => cases h

theorem read_of_isRecord (h : isRecord value = true) : value.read key = .ok (value.get key) := by
  cases value with
  | obj fields => rfl
  | undefined | null | bool | num | str | arr => cases h

theorem record?_eq_some (h : isRecord value = true) : value.record? = some value := by
  cases value with
  | obj fields => rfl
  | undefined | null | bool | num | str | arr => cases h

/-- Only a record has a number in a field. -/
theorem isRecord_of_finite (h : (value.get key).finite?.isSome = true) : isRecord value = true := by
  cases value with
  | obj fields => rfl
  | undefined | null | bool | num | str | arr => cases h

theorem readAs_record?_eq_ok {field : JsValue} :
    value.readAs JsValue.record? key = .ok field ↔
      isRecord (value.get key) = true ∧ value.get key = field := by
  rw [readAs_eq_ok rfl]
  constructor
  · intro h
    have hrecord : isRecord (value.get key) = true := by rw [isRecord, h]; rfl
    rw [record?_eq_some hrecord] at h
    exact ⟨hrecord, Option.some.inj h⟩
  · rintro ⟨hrecord, rfl⟩
    exact record?_eq_some hrecord

theorem succeeds_readRecord_iff {β : Type} {f : JsValue → Except Misread β} :
    Succeeds (value.readAs JsValue.record? key >>= f) ↔
      isRecord (value.get key) = true ∧ Succeeds (f (value.get key)) := by
  rw [succeeds_bind_iff]
  constructor
  · rintro ⟨field, hread, h⟩
    obtain ⟨hrecord, rfl⟩ := readAs_record?_eq_ok.1 hread
    exact ⟨hrecord, h⟩
  · rintro ⟨hrecord, h⟩
    exact ⟨_, readAs_record?_eq_ok.2 ⟨hrecord, rfl⟩, h⟩

end Reads

/-! ## One call of the rules -/

section Rules

variable {numberText : JsNumber → String} {input : RuleEvaluationInput} {config : JsValue}
  {side : Bool} {elapsed : Int} {shots : JsNumber} {offset : ℚ} {rules : List JsValue}

/-- `thresholdOffsetFor`, in a state of the score. -/
def offsetAt (config : JsValue) (state : ScoreState) : Except Misread ℚ := do
  let mods ← config.read "scoreStateModifiers"
  if mods.truthy then mods.readAs JsValue.finite? state.key else pure 0

theorem thresholdOffset_eq :
    Strict.thresholdOffset input config side = offsetAt config (input.scoreState side) := rfl

theorem succeeds_offsetAt_iff (h : isRecord config = true) {state : ScoreState} :
    Succeeds (offsetAt config state) ↔ ((config.get "scoreStateModifiers").truthy = true →
      ((config.get "scoreStateModifiers").get state.key).finite?.isSome = true) := by
  rw [offsetAt, read_of_isRecord h, ok_bind]
  split_ifs with hmods
  · rw [succeeds_readAs_iff rfl]
    exact ⟨fun h _ => h, fun h => h hmods⟩
  · exact iff_of_true succeeds_pure fun h => absurd h hmods

theorem succeeds_ruleMatch_iff {signal : SignalType} {rule : HalfRule}
    {marketType selection afterShots : String} {otherReasons : List String} {odds : JsValue} :
    Succeeds (Strict.ruleMatch numberText input signal side shots offset rule marketType selection
      afterShots otherReasons odds) ↔ completeOdds odds = true := by
  rw [Strict.ruleMatch, completeOdds, Bool.and_eq_true, Bool.and_eq_true, and_assoc,
    ← succeeds_readAs_iff rfl, ← succeeds_readAs_iff rfl, ← succeeds_readAs_iff rfl]
  exact succeeds_bind_of_forall fun _ _ => succeeds_bind_of_forall fun _ _ => succeeds_map_iff

/-- A rule that is open is read in full, and one that is not only has its window read. -/
def readable (elapsed : Int) (rule : JsValue) : Bool :=
  (rule.get "maxElapsed").finite?.isSome &&
    (!opensAfter elapsed rule || (rule.get "minShots").finite?.isSome)

theorem readable_iff {rule : JsValue} : readable elapsed rule = true ↔
    (rule.get "maxElapsed").finite?.isSome = true ∧ (opensAfter elapsed rule = true →
      (rule.get "minShots").finite?.isSome = true) := by
  rw [readable, Bool.and_eq_true]
  refine and_congr_right fun _ => ?_
  cases opensAfter elapsed rule <;> simp

theorem succeeds_findMatchedRule (h : ∀ rule ∈ rules, readable elapsed rule = true) :
    Succeeds (Strict.findMatchedRule elapsed shots offset rules) := by
  induction rules with
  | nil => exact succeeds_pure
  | cons rule rules ih =>
    have hrest := ih fun rule hrule => h rule (List.mem_cons_of_mem _ hrule)
    have hrule := h rule List.mem_cons_self
    rw [readable_iff] at hrule
    obtain ⟨maxElapsed, hmax⟩ := (succeeds_readAs_iff rfl).2 hrule.1
    rw [Strict.findMatchedRule, hmax, ok_bind]
    split_ifs with hopen
    · have hopens : opensAfter elapsed rule = true := by
        rw [opensAfter, (readAs_eq_ok rfl).1 hmax]
        exact decide_eq_true hopen
      obtain ⟨minShots, hmin⟩ := (succeeds_readAs_iff rfl).2 (hrule.2 hopens)
      rw [hmin, ok_bind]
      split_ifs
      · exact succeeds_pure
      · exact hrest
    · exact hrest

/-- The first rule is read, and the others unless it matches. -/
theorem readable_head {rule : JsValue}
    (h : Succeeds (Strict.findMatchedRule elapsed shots offset (rule :: rules))) :
    readable elapsed rule = true ∧
      ((∀ minShots, (rule.get "minShots").finite? = some minShots →
        shots.geRat (minShots + offset) = false) →
      Succeeds (Strict.findMatchedRule elapsed shots offset rules)) := by
  rw [Strict.findMatchedRule, succeeds_bind_iff] at h
  obtain ⟨maxElapsed, hmax, h⟩ := h
  rw [readable_iff, opensAfter, (readAs_eq_ok rfl).1 hmax, Option.any_some, decide_eq_true_iff]
  split_ifs at h with hopen
  · rw [succeeds_bind_iff] at h
    obtain ⟨minShots, hmin, h⟩ := h
    have hmin := (readAs_eq_ok rfl).1 hmin
    rw [hmin]
    refine ⟨⟨rfl, fun _ => rfl⟩, fun hbelow => ?_⟩
    rwa [hbelow minShots rfl] at h
  · exact ⟨⟨rfl, fun h => absurd h hopen⟩, fun _ => h⟩

/-- Shots below every threshold have all the rules read. -/
theorem readable_of_below (h : Succeeds (Strict.findMatchedRule elapsed shots offset rules))
    (hbelow : ∀ rule ∈ rules, ∀ minShots, (rule.get "minShots").finite? = some minShots →
      shots.geRat (minShots + offset) = false) :
    ∀ rule ∈ rules, readable elapsed rule = true := by
  induction rules with
  | nil => exact List.forall_mem_nil _
  | cons rule rules ih =>
    obtain ⟨hrule, hrest⟩ := readable_head h
    exact List.forall_mem_cons.2 ⟨hrule, ih (hrest (hbelow rule List.mem_cons_self))
      fun rule hrule => hbelow rule (List.mem_cons_of_mem _ hrule)⟩

/-- Shots above every threshold match a rule, if one is open. -/
theorem exists_matched_of_above (hread : ∀ rule ∈ rules, readable elapsed rule = true)
    (hopen : ∃ rule ∈ rules, opensAfter elapsed rule = true)
    (habove : ∀ rule ∈ rules, ∀ minShots, (rule.get "minShots").finite? = some minShots →
      shots.geRat (minShots + offset) = true) :
    ∃ rule, Strict.findMatchedRule elapsed shots offset rules = .ok (some rule) := by
  induction rules with
  | nil => exact hopen.elim fun _ h => (nomatch h.1)
  | cons rule rules ih =>
    have hrule := hread rule List.mem_cons_self
    rw [readable_iff] at hrule
    obtain ⟨maxElapsed, hmax⟩ := (succeeds_readAs_iff rfl).2 hrule.1
    rw [Strict.findMatchedRule, hmax, ok_bind]
    have hopens : opensAfter elapsed rule = decide ((elapsed : ℚ) < maxElapsed) := by
      rw [opensAfter, (readAs_eq_ok rfl).1 hmax, Option.any_some]
    split_ifs with hwindow
    · obtain ⟨minShots, hmin⟩ := (succeeds_readAs_iff rfl).2
        (hrule.2 (hopens.trans (decide_eq_true hwindow)))
      rw [hmin, ok_bind, habove rule List.mem_cons_self minShots ((readAs_eq_ok rfl).1 hmin)]
      exact ⟨_, rfl⟩
    · refine ih (fun rule hrule => hread rule (List.mem_cons_of_mem _ hrule)) ?_
        fun rule hrule => habove rule (List.mem_cons_of_mem _ hrule)
      obtain ⟨rule', hmem, hrule'⟩ := hopen
      rcases List.mem_cons.1 hmem with rfl | hmem
      · rw [hopens, decide_eq_true_iff] at hrule'
        exact absurd hrule' hwindow
      · exact ⟨rule', hmem, hrule'⟩

theorem succeeds_sideMatches_iff
    {suggest : JsNumber → ℚ → HalfRule → Except Misread (List RuleMatch)} :
    Succeeds (sideMatches input config rules side (some shots) suggest) ↔
      ∃ offset, offsetAt config (input.scoreState side) = .ok offset ∧
        ∃ rule?, Strict.findMatchedRule input.elapsed shots offset rules = .ok rule? ∧
          ∀ rule, rule? = some rule → Succeeds (suggest shots offset rule) := by
  rw [sideMatches, thresholdOffset_eq, succeeds_bind_iff]
  refine exists_congr fun offset => and_congr_right fun _ => ?_
  rw [succeeds_bind_iff]
  refine exists_congr fun rule? => and_congr_right fun _ => ?_
  cases rule? with
  | none => exact iff_of_true succeeds_pure fun _ h => by cases h
  | some rule => simp

theorem succeeds_firstHalfMatches_iff {signal : SignalType} {oddsHT oddsFT : JsValue}
    (h : (input.team side).value signal = some shots) :
    Succeeds (Strict.firstHalfMatches numberText input config rules oddsHT oddsFT signal side) ↔
      ∃ offset, offsetAt config (input.scoreState side) = .ok offset ∧
        ∃ rule?, Strict.findMatchedRule input.elapsed shots offset rules = .ok rule? ∧
          ∀ rule, rule? = some rule → completeOdds oddsHT = true ∧ completeOdds oddsFT = true := by
  rw [Strict.firstHalfMatches, h, succeeds_sideMatches_iff]
  refine exists_congr fun offset => and_congr_right fun _ => exists_congr fun rule? =>
    and_congr_right fun _ => forall₂_congr fun rule _ => ?_
  rw [succeeds_bind_of_forall fun _ _ => succeeds_map_iff, succeeds_ruleMatch_iff,
    succeeds_ruleMatch_iff]

theorem succeeds_secondHalfMatches_iff {signal : SignalType} {rule odds : JsValue}
    {value : JsNumber} (h : (input.team side).value signal = some value) :
    Succeeds (Strict.secondHalfMatches numberText input config rule odds signal side) ↔
      ∃ offset, offsetAt config (input.scoreState side) = .ok offset ∧
        ∃ rule?, Strict.findMatchedRule input.elapsed
            (value.sub (input.htBaseline signal side)).max0 offset [rule] = .ok rule? ∧
          ∀ rule, rule? = some rule → completeOdds odds = true := by
  rw [Strict.secondHalfMatches, h, Option.map_some, succeeds_sideMatches_iff]
  refine exists_congr fun offset => and_congr_right fun _ => exists_congr fun rule? =>
    and_congr_right fun _ => forall₂_congr fun rule _ => ?_
  rw [succeeds_map_iff, succeeds_ruleMatch_iff]

/-- The windows are read one by one; then one of them is open or not. -/
theorem any_of_windows {windows : List ℚ}
    (h : rules.mapM (fun rule => rule.readAs JsValue.finite? "maxElapsed") = .ok windows) :
    windows.any (fun maxElapsed : ℚ => decide (elapsed < maxElapsed)) =
      rules.any (opensAfter elapsed) := by
  have hread : ∀ rule ∈ rules, rule.readAs JsValue.finite? "maxElapsed" =
      .ok ((rule.get "maxElapsed").finite?.getD 0) := by
    intro rule hrule
    obtain ⟨maxElapsed, hmax⟩ := succeeds_mapM_iff.1 ⟨windows, h⟩ rule hrule
    rw [hmax, (readAs_eq_ok rfl).1 hmax, Option.getD_some]
  rw [mapM_of_ok hread, Except.ok.injEq] at h
  rw [← h, List.any_map, Bool.eq_iff_iff, List.any_eq_true, List.any_eq_true]
  refine exists_congr fun rule => and_congr_right fun hrule => ?_
  obtain ⟨maxElapsed, hmax⟩ := (succeeds_readAs_iff rfl).1 ⟨_, hread rule hrule⟩ |>
    Option.isSome_iff_exists.1
  rw [Function.comp_apply, opensAfter, hmax, Option.getD_some, Option.any_some]

/-- What is suggested for both sides. -/
theorem succeeds_sides_iff {of : Bool → Except Misread (List RuleMatch)} :
    Succeeds (do
      let home ← of true
      let away ← of false
      pure (home ++ away)) ↔ ∀ side, Succeeds (of side) := by
  rw [Bool.forall_bool, and_comm]
  exact succeeds_bind_of_forall fun _ _ => succeeds_map_iff

/-- **What the first half reads**: every window, and the rest once one is open. -/
theorem succeeds_evaluateFirstHalf_iff (hshape : RulesShaped config)
    (hrules : (config.get "firstHalfRules").items? = some rules) :
    Succeeds (Strict.evaluateFirstHalf numberText input config) ↔
      (∀ rule ∈ rules, (rule.get "maxElapsed").finite?.isSome = true) ∧
      (input.statusShort ∈ firstHalfStatuses ∧ 1 ≤ input.elapsed ∧
          rules.any (opensAfter input.elapsed) = true →
        isRecord ((config.get "odds").get "firstHalfHT") = true ∧
        isRecord ((config.get "odds").get "firstHalfFT") = true ∧
        ∃ signal, (config.get "signal").signal? = some signal ∧ ∀ side,
          Succeeds (Strict.firstHalfMatches numberText input config rules
            ((config.get "odds").get "firstHalfHT") ((config.get "odds").get "firstHalfFT") signal
            side)) := by
  have hwindows : (∀ rule ∈ rules, (rule.get "maxElapsed").finite?.isSome = true) ↔
      Succeeds (rules.mapM fun rule => rule.readAs JsValue.finite? "maxElapsed") := by
    rw [succeeds_mapM_iff]
    exact forall₂_congr fun rule _ => (succeeds_readAs_iff rfl).symm
  rw [Strict.evaluateFirstHalf, (readAs_eq_ok rfl).2 hrules, ok_bind, hwindows]
  refine succeeds_bind_of_forall fun windows hread => ?_
  rw [any_of_windows hread]
  split_ifs with hopen
  · rw [succeeds_readRecord_iff, and_iff_right hshape.odds, succeeds_readRecord_iff,
      succeeds_readRecord_iff, succeeds_bind_iff]
    refine ⟨fun h _ => ?_, fun h => ?_⟩
    · obtain ⟨hHT, hFT, signal, hsignal, h⟩ := h
      exact ⟨hHT, hFT, signal, (readAs_record_eq_ok hshape.record).1 hsignal,
        succeeds_sides_iff.1 h⟩
    · obtain ⟨hHT, hFT, signal, hsignal, h⟩ := h hopen
      exact ⟨hHT, hFT, signal, (readAs_record_eq_ok hshape.record).2 hsignal,
        succeeds_sides_iff.2 h⟩
  · exact iff_of_true succeeds_pure fun h => absurd h hopen

/-- **What the second half reads**: its window, and the rest once it is open. -/
theorem succeeds_evaluateSecondHalf_iff (hshape : RulesShaped config) :
    Succeeds (Strict.evaluateSecondHalf numberText input config) ↔
      (input.statusShort ∈ secondHalfStatuses ∧ 45 ≤ input.elapsed →
        ((config.get "secondHalfRule").get "maxElapsed").finite?.isSome = true ∧
        (opensAfter input.elapsed (config.get "secondHalfRule") = true →
          isRecord ((config.get "odds").get "secondHalf") = true ∧
          ∃ signal, (config.get "signal").signal? = some signal ∧ ∀ side,
            Succeeds (Strict.secondHalfMatches numberText input config
              (config.get "secondHalfRule") ((config.get "odds").get "secondHalf") signal
              side))) := by
  rw [Strict.evaluateSecondHalf, succeeds_readRecord_iff, and_iff_right hshape.secondHalfRule]
  split_ifs with hstatus
  · rw [forall_prop_of_true hstatus, ← succeeds_readAs_iff rfl]
    refine succeeds_bind_of_forall fun maxElapsed hmax => ?_
    have hopens : opensAfter input.elapsed (config.get "secondHalfRule") = true ↔
        (input.elapsed : ℚ) < maxElapsed := by
      rw [opensAfter, (readAs_eq_ok rfl).1 hmax, Option.any_some, decide_eq_true_iff]
    rw [hopens]
    split_ifs with hopen
    · rw [forall_prop_of_true hopen, succeeds_readRecord_iff, and_iff_right hshape.odds,
        succeeds_readRecord_iff, succeeds_bind_iff]
      refine and_congr_right fun _ => exists_congr fun signal => ?_
      rw [readAs_record_eq_ok hshape.record, succeeds_sides_iff]
    · exact iff_of_true succeeds_pure fun h => absurd h hopen
  · exact iff_of_true succeeds_pure fun h => absurd h hstatus

end Rules

/-! ## Complete rules are read through -/

section Complete

variable {numberText : JsNumber → String} {input : RuleEvaluationInput} {config : JsValue}

theorem items_of_items? {value : JsValue} {items : List JsValue} (h : value.items? = some items) :
    value.items = items := by
  cases value with
  | arr items' => exact Option.some.inj h
  | undefined | null | bool | num | str | obj => cases h

theorem opensAfter_mono {earlier later : ℚ} (hle : earlier ≤ later) {rule : JsValue}
    (h : opensAfter later rule = true) : opensAfter earlier rule = true := by
  obtain ⟨maxElapsed, hmax, hlater⟩ := (Option.any_eq_true _ _).1 h
  exact (Option.any_eq_true _ _).2
    ⟨maxElapsed, hmax, decide_eq_true (hle.trans_lt (of_decide_eq_true hlater))⟩

theorem completeSignal_iff : completeSignal config = true ↔
    (config.get "signal").signal?.isSome = true ∧
      ((config.get "scoreStateModifiers").truthy = true → ∀ state : ScoreState,
        ((config.get "scoreStateModifiers").get state.key).finite?.isSome = true) := by
  rw [completeSignal, Bool.and_eq_true]
  refine and_congr_right fun _ => ?_
  cases (config.get "scoreStateModifiers").truthy with
  | false => simp
  | true =>
    rw [Bool.not_true, Bool.false_or, List.all_eq_true, forall_prop_of_true rfl]
    constructor
    · intro h state
      cases state <;> exact h _ (by decide)
    · exact fun h state _ => h state

theorem isRecord_of_completeOdds {odds : JsValue} (h : completeOdds odds = true) :
    isRecord odds = true := by
  rw [completeOdds, Bool.and_eq_true] at h
  exact isRecord_of_finite h.2

theorem exists_offset (hshape : RulesShaped config) (h : completeSignal config = true)
    (state : ScoreState) : ∃ offset, offsetAt config state = .ok offset :=
  (succeeds_offsetAt_iff hshape.record).2 fun hmods => (completeSignal_iff.1 h).2 hmods state

/-- In the first half. -/
theorem RulesComplete.succeeds_firstHalf (h : RulesComplete config) (hshape : RulesShaped config) :
    Succeeds (Strict.evaluateFirstHalf numberText input config) := by
  obtain ⟨rules, hrules⟩ := Option.isSome_iff_exists.1 hshape.firstHalfRules
  have hitems := items_of_items? hrules
  rw [succeeds_evaluateFirstHalf_iff hshape hrules]
  refine ⟨fun rule hrule => h.windows rule (hitems ▸ hrule), fun ⟨_, hone, hopen⟩ => ?_⟩
  have hlate : (1 : ℚ) ≤ input.elapsed := by exact_mod_cast hone
  have hfirst (rule) (hrule : rule ∈ rules) (hopens : opensAfter input.elapsed rule = true) :=
    h.firstHalf rule (hitems ▸ hrule) (opensAfter_mono hlate hopens)
  obtain ⟨opened, hmem, hopens⟩ := List.any_eq_true.1 hopen
  obtain ⟨-, hsignal, hHT, hFT⟩ := hfirst opened hmem hopens
  obtain ⟨signal, hread⟩ := Option.isSome_iff_exists.1 (completeSignal_iff.1 hsignal).1
  refine ⟨isRecord_of_completeOdds hHT, isRecord_of_completeOdds hFT, signal, hread, fun side => ?_⟩
  cases hvalue : (input.team side).value signal with
  | none =>
    rw [Strict.firstHalfMatches, hvalue]
    exact succeeds_pure
  | some shots =>
    obtain ⟨offset, hoffset⟩ := exists_offset hshape hsignal (input.scoreState side)
    obtain ⟨rule?, hfind⟩ : Succeeds (Strict.findMatchedRule input.elapsed shots offset rules) :=
      succeeds_findMatchedRule fun rule hrule => readable_iff.2
        ⟨h.windows rule (hitems ▸ hrule), fun hopens => (hfirst rule hrule hopens).1⟩
    exact (succeeds_firstHalfMatches_iff hvalue).2
      ⟨offset, hoffset, rule?, hfind, fun _ _ => ⟨hHT, hFT⟩⟩

/-- In the second half. -/
theorem RulesComplete.succeeds_secondHalf (h : RulesComplete config) (hshape : RulesShaped config) :
    Succeeds (Strict.evaluateSecondHalf numberText input config) := by
  rw [succeeds_evaluateSecondHalf_iff hshape]
  refine fun ⟨_, hhalf⟩ => ⟨h.secondWindow, fun hopen => ?_⟩
  have hlate : (45 : ℚ) ≤ input.elapsed := by exact_mod_cast hhalf
  obtain ⟨hmin, hsignal, hodds⟩ := h.secondHalf (opensAfter_mono hlate hopen)
  obtain ⟨signal, hread⟩ := Option.isSome_iff_exists.1 (completeSignal_iff.1 hsignal).1
  refine ⟨isRecord_of_completeOdds hodds, signal, hread, fun side => ?_⟩
  cases hvalue : (input.team side).value signal with
  | none =>
    rw [Strict.secondHalfMatches, hvalue]
    exact succeeds_pure
  | some value =>
    obtain ⟨offset, hoffset⟩ := exists_offset hshape hsignal (input.scoreState side)
    obtain ⟨rule?, hfind⟩ : Succeeds (Strict.findMatchedRule input.elapsed
        (value.sub (input.htBaseline signal side)).max0 offset [config.get "secondHalfRule"]) :=
      succeeds_findMatchedRule
        (List.forall_mem_singleton.2 (readable_iff.2 ⟨h.secondWindow, fun _ => hmin⟩))
    exact (succeeds_secondHalfMatches_iff hvalue).2
      ⟨offset, hoffset, rule?, hfind, fun _ _ => hodds⟩

/-- **Complete rules are read through, whatever they are called on.** -/
theorem RulesComplete.succeeds (h : RulesComplete config) (hshape : RulesShaped config) :
    Succeeds (Strict.evaluateRules numberText input config) := by
  rw [Strict.evaluateRules, succeeds_bind_of_forall fun _ _ => succeeds_map_iff]
  exact ⟨h.succeeds_firstHalf hshape, h.succeeds_secondHalf hshape⟩

end Complete

/-! ## Rules that are read through are complete -/

/-- What the rules are called on: at the minute, with the score in the state, and of the home team
the value of the signal, which was 0 at half-time. -/
structure Probe (input : RuleEvaluationInput) (elapsed : Int) (state : ScoreState)
    (signal : SignalType) (shots : ℚ) : Prop where
  elapsed_eq : input.elapsed = elapsed
  status_eq : input.statusShort = "LIVE"
  value_eq : (input.team true).value signal = some (.num shots)
  state_eq : input.scoreState true = state
  baseline_eq : input.htBaseline signal true = .num 0

section Probes

variable {numberText : JsNumber → String} {config : JsValue} {elapsed : Int} {offset : ℚ}
  {rules : List JsValue}

/-- The thresholds that stand in the rules. -/
def thresholds (rules : List JsValue) : List ℚ :=
  rules.filterMap fun rule => (rule.get "minShots").finite?

theorem mem_thresholds {rule : JsValue} {minShots : ℚ} (hrule : rule ∈ rules)
    (h : (rule.get "minShots").finite? = some minShots) :
    minShots ∈ ((thresholds rules).toFinset : Set ℚ) :=
  List.mem_toFinset.2 (List.mem_filterMap.2 ⟨rule, hrule, h⟩)

theorem exists_below (rules : List JsValue) (offset : ℚ) :
    ∃ shots : ℚ, ∀ rule ∈ rules, ∀ minShots, (rule.get "minShots").finite? = some minShots →
      (JsNumber.num shots).geRat (minShots + offset) = false := by
  obtain ⟨least, hleast⟩ := (thresholds rules).toFinset.bddBelow
  refine ⟨least + offset - 1, fun rule hrule minShots hmin => ?_⟩
  have hle : least ≤ minShots := hleast (mem_thresholds hrule hmin)
  rw [JsNumber.geRat, decide_eq_false_iff_not]
  linarith

theorem exists_above (rules : List JsValue) (offset : ℚ) :
    ∃ shots : ℚ, ∀ more, shots ≤ more → ∀ rule ∈ rules, ∀ minShots,
      (rule.get "minShots").finite? = some minShots →
        (JsNumber.num more).geRat (minShots + offset) = true := by
  obtain ⟨most, hmost⟩ := (thresholds rules).toFinset.bddAbove
  refine ⟨most + offset, fun more hmore rule hrule minShots hmin => ?_⟩
  have hle : minShots ≤ most := hmost (mem_thresholds hrule hmin)
  rw [JsNumber.geRat, decide_eq_true_iff]
  linarith

/-- The rules are read whatever the shots: few of them have every rule read, and many match one. -/
theorem reads_of_probes (config : JsValue) (elapsed : Int) (rules : List JsValue) {Q : Prop}
    {shotsOf : ℚ → ℚ} (hge : ∀ v, v ≤ shotsOf v)
    (h : ∀ state v, ∃ offset, offsetAt config state = .ok offset ∧
      ∃ rule?, Strict.findMatchedRule elapsed (.num (shotsOf v)) offset rules = .ok rule? ∧
        ∀ rule, rule? = some rule → Q)
    (hread : ∀ offset, (∀ v, Succeeds
        (Strict.findMatchedRule elapsed (.num (shotsOf v)) offset rules)) →
      ∀ rule ∈ rules, readable elapsed rule = true)
    (hopen : ∃ rule ∈ rules, opensAfter elapsed rule = true) :
    (∀ state, Succeeds (offsetAt config state)) ∧
      (∀ rule ∈ rules, readable elapsed rule = true) ∧ Q := by
  obtain ⟨offset, hoffset, -⟩ := h .drawing 0
  have hfind (v) : ∃ rule?, Strict.findMatchedRule elapsed (.num (shotsOf v)) offset rules =
      .ok rule? ∧ ∀ rule, rule? = some rule → Q := by
    obtain ⟨offset', hoffset', hfind⟩ := h .drawing v
    rw [hoffset, Except.ok.injEq] at hoffset'
    rwa [hoffset']
  have hall := hread offset fun v => (hfind v).imp fun _ h => h.1
  refine ⟨fun state => ?_, hall, ?_⟩
  · obtain ⟨offset, hoffset, -⟩ := h state 0
    exact ⟨offset, hoffset⟩
  · obtain ⟨shots, habove⟩ := exists_above rules offset
    obtain ⟨rule, hmatch⟩ := exists_matched_of_above hall hopen (habove _ (hge shots))
    obtain ⟨rule?, hrule, hq⟩ := hfind shots
    rw [hmatch, Except.ok.injEq] at hrule
    exact hq rule hrule.symm

/-- On every probe the rules are read through. -/
def ReadThrough (numberText : JsNumber → String) (config : JsValue) : Prop :=
  ∀ elapsed state signal shots, ∃ input, Probe input elapsed state signal shots ∧
    Succeeds (Strict.evaluateRules numberText input config)

theorem ReadThrough.firstHalf (h : ReadThrough numberText config) (elapsed : Int)
    (state : ScoreState) (signal : SignalType) (shots : ℚ) :
    ∃ input, Probe input elapsed state signal shots ∧
      Succeeds (Strict.evaluateFirstHalf numberText input config) := by
  obtain ⟨input, hprobe, hread⟩ := h elapsed state signal shots
  rw [Strict.evaluateRules, succeeds_bind_of_forall fun _ _ => succeeds_map_iff] at hread
  exact ⟨input, hprobe, hread.1⟩

theorem ReadThrough.secondHalf (h : ReadThrough numberText config) (elapsed : Int)
    (state : ScoreState) (signal : SignalType) (shots : ℚ) :
    ∃ input, Probe input elapsed state signal shots ∧
      Succeeds (Strict.evaluateSecondHalf numberText input config) := by
  obtain ⟨input, hprobe, hread⟩ := h elapsed state signal shots
  rw [Strict.evaluateRules, succeeds_bind_of_forall fun _ _ => succeeds_map_iff] at hread
  exact ⟨input, hprobe, hread.2⟩

theorem completeSignal_of_offsets (hshape : RulesShaped config) {signal : SignalType}
    (hsignal : (config.get "signal").signal? = some signal)
    (h : ∀ state, Succeeds (offsetAt config state)) : completeSignal config = true := by
  rw [completeSignal_iff, hsignal]
  exact ⟨rfl, fun hmods state => (succeeds_offsetAt_iff hshape.record).1 (h state) hmods⟩

/-- In the first minute every rule of the first half that is ever open is. -/
theorem firstHalf_of_readThrough (h : ReadThrough numberText config) (hshape : RulesShaped config)
    (hrules : (config.get "firstHalfRules").items? = some rules)
    (hopen : ∃ rule ∈ rules, opensAfter 1 rule = true) :
    (∀ rule ∈ rules, readable 1 rule = true) ∧ completeSignal config = true ∧
      completeOdds ((config.get "odds").get "firstHalfHT") = true ∧
      completeOdds ((config.get "odds").get "firstHalfFT") = true := by
  have hmoment {input : RuleEvaluationInput} (hone : input.elapsed = 1)
      (hlive : input.statusShort = "LIVE") : input.statusShort ∈ firstHalfStatuses ∧
        1 ≤ input.elapsed ∧ rules.any (opensAfter input.elapsed) = true := by
    rw [hone, hlive]
    exact ⟨by decide, le_refl _, List.any_eq_true.2 (by exact_mod_cast hopen)⟩
  obtain ⟨input, hprobe, hread⟩ := h.firstHalf 1 .drawing .totalShots 0
  obtain ⟨-, -, signal, hsignal, -⟩ := ((succeeds_evaluateFirstHalf_iff hshape hrules).1 hread).2
    (hmoment hprobe.elapsed_eq hprobe.status_eq)
  obtain ⟨hoffsets, hall, hodds⟩ := reads_of_probes config 1 rules (fun v => le_refl v)
    (fun state v => by
      obtain ⟨input, hprobe, hread⟩ := h.firstHalf 1 state signal v
      obtain ⟨-, -, signal', hsignal', hsides⟩ :=
        ((succeeds_evaluateFirstHalf_iff hshape hrules).1 hread).2
          (hmoment hprobe.elapsed_eq hprobe.status_eq)
      obtain rfl : signal = signal' := Option.some.inj (hsignal.symm.trans hsignal')
      have hside := (succeeds_firstHalfMatches_iff hprobe.value_eq).1 (hsides true)
      rwa [hprobe.elapsed_eq, hprobe.state_eq] at hside)
    (fun offset hfind => by
      obtain ⟨shots, hbelow⟩ := exists_below rules offset
      exact readable_of_below (hfind shots) hbelow)
    hopen
  exact ⟨hall, completeSignal_of_offsets hshape hsignal hoffsets, hodds⟩

/-- And at half-time the rule of the second half. -/
theorem secondHalf_of_readThrough (h : ReadThrough numberText config) (hshape : RulesShaped config)
    (hopen : opensAfter 45 (config.get "secondHalfRule") = true) :
    readable 45 (config.get "secondHalfRule") = true ∧ completeSignal config = true ∧
      completeOdds ((config.get "odds").get "secondHalf") = true := by
  have hmoment {input : RuleEvaluationInput} (hhalf : input.elapsed = 45)
      (hlive : input.statusShort = "LIVE") :
      input.statusShort ∈ secondHalfStatuses ∧ 45 ≤ input.elapsed := by
    rw [hhalf, hlive]
    exact ⟨by decide, le_refl _⟩
  have hopens {input : RuleEvaluationInput} (hhalf : input.elapsed = 45) :
      opensAfter input.elapsed (config.get "secondHalfRule") = true := by
    rw [hhalf]
    exact_mod_cast hopen
  obtain ⟨input, hprobe, hread⟩ := h.secondHalf 45 .drawing .totalShots 0
  obtain ⟨-, signal, hsignal, -⟩ := (((succeeds_evaluateSecondHalf_iff hshape).1 hread)
    (hmoment hprobe.elapsed_eq hprobe.status_eq)).2 (hopens hprobe.elapsed_eq)
  obtain ⟨hoffsets, hall, hodds⟩ := reads_of_probes config 45 [config.get "secondHalfRule"]
    (fun v => le_max_right 0 v)
    (fun state v => by
      obtain ⟨input, hprobe, hread⟩ := h.secondHalf 45 state signal v
      obtain ⟨-, signal', hsignal', hsides⟩ := (((succeeds_evaluateSecondHalf_iff hshape).1 hread)
        (hmoment hprobe.elapsed_eq hprobe.status_eq)).2 (hopens hprobe.elapsed_eq)
      obtain rfl : signal = signal' := Option.some.inj (hsignal.symm.trans hsignal')
      have hside := (succeeds_secondHalfMatches_iff hprobe.value_eq).1 (hsides true)
      have hcount : ((JsNumber.num v).sub (.num 0)).max0 = .num (max 0 v) := by
        rw [JsNumber.sub, sub_zero, JsNumber.max0]
      rwa [hprobe.elapsed_eq, hprobe.state_eq, hprobe.baseline_eq, hcount] at hside)
    (fun offset hfind => List.forall_mem_singleton.2 (readable_head (hfind 0)).1)
    ⟨_, List.mem_singleton_self _, by exact_mod_cast hopen⟩
  exact ⟨hall _ (List.mem_singleton_self _), completeSignal_of_offsets hshape hsignal hoffsets, hodds⟩

/-- **Rules that are read through on every probe are complete.** -/
theorem RulesComplete.of_readThrough (h : ReadThrough numberText config)
    (hshape : RulesShaped config) : RulesComplete config := by
  obtain ⟨rules, hrules⟩ := Option.isSome_iff_exists.1 hshape.firstHalfRules
  have hitems := items_of_items? hrules
  constructor
  · obtain ⟨input, -, hread⟩ := h.firstHalf 1 .drawing .totalShots 0
    rw [hitems]
    exact ((succeeds_evaluateFirstHalf_iff hshape hrules).1 hread).1
  · obtain ⟨input, hprobe, hread⟩ := h.secondHalf 45 .drawing .totalShots 0
    refine ((succeeds_evaluateSecondHalf_iff hshape).1 hread ?_).1
    rw [hprobe.elapsed_eq, hprobe.status_eq]
    exact ⟨by decide, le_refl _⟩
  · intro rule hrule hopen
    rw [hitems] at hrule
    obtain ⟨hall, hrest⟩ := firstHalf_of_readThrough h hshape hrules ⟨rule, hrule, hopen⟩
    exact ⟨(readable_iff.1 (hall rule hrule)).2 (by exact_mod_cast hopen), hrest⟩
  · intro hopen
    obtain ⟨hread, hrest⟩ := secondHalf_of_readThrough h hshape hopen
    exact ⟨(readable_iff.1 hread).2 (by exact_mod_cast hopen), hrest⟩

end Probes

end ApiScore
