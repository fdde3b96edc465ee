import ApiScore.Backtest.LookAhead
import ApiScore.Backtest.Staking
import ApiScore.Lib.Counting
import Mathlib.Data.List.Induction

/-!
# What a window accounts for

The train, validation and test windows of a fold cut one replay: `measureWindow` counts the bets
decided in the window, and the signals first seen in it, at the stage they reached in the whole
replay.  A signal that is first seen before the window and bet on in it counts on neither side of its
bet; one that gets further after the window counts in it with what happened later.

* `foldl_recordSignal` — the records, from the attempts on each key.
* `KeptInside` — no signal straddles the window.
* `measureWindow_own_iff` — a window accounts for its own signals and bets exactly when no signal
  straddles it.
* `measureWindow_straddled` — a signal without a quote before the window, and its bet in it.
-/

set_option autoImplicit false

namespace ApiScore

open Ranked Grouping Relational Counting

/-! ## The metrics of a window -/

structure SignalAccounting where
  signals : Nat
  noQuoteAtDecision : Nat
  belowMinOddAtDecision : Nat
  noQuoteAtExecution : Nat
  belowMinOddAtExecution : Nat
  placed : Nat
  oddsCoveragePct : Option ℚ
  deriving DecidableEq

/-- `summarizeSignals`. -/
def summarizeSignals (signals : List SignalRecord) : SignalAccounting :=
  let count (stage : SignalStage) := signals.countP (·.stage == stage)
  let noQuoteAtDecision := count .noQuoteAtDecision
  let noQuoteAtExecution := count .noQuoteAtExecution
  let covered : ℚ := signals.length - noQuoteAtDecision - noQuoteAtExecution
  { signals := signals.length
    noQuoteAtDecision := noQuoteAtDecision
    belowMinOddAtDecision := count .belowMinOddAtDecision
    noQuoteAtExecution := noQuoteAtExecution
    belowMinOddAtExecution := count .belowMinOddAtExecution
    placed := count .placed
    oddsCoveragePct :=
      if signals.length ≠ 0 then some (round2 (covered / signals.length * 100)) else none }

/-- A window, from an instant on and up to another. -/
structure MeasuredWindow where
  fromMs : Int
  toMs : Int
  deriving DecidableEq

def MeasuredWindow.holds (w : MeasuredWindow) (ms : Int) : Bool :=
  decide (w.fromMs ≤ ms) && decide (ms < w.toMs)

/-- `inWindow`. -/
def inWindow {α : Type} (items : List α) (at_ : α → Int) (w : MeasuredWindow) : List α :=
  items.filter fun item => w.holds (at_ item)

structure WindowMetrics where
  kpis : BacktestKpis
  signals : SignalAccounting

/-- `measureWindow`. -/
def measureWindow (sqrt : ℚ → ℚ) (plan : StakingPlan) (bets : List DecidedBet)
    (signals : List SignalRecord) (w : MeasuredWindow) : WindowMetrics where
  kpis := (applyStakingAndComputeKpis sqrt
    ((inWindow bets (·.decisionAt) w).map (·.stakeable)) plan).2
  signals := summarizeSignals (inWindow signals (·.firstSignalAt) w)

/-- The signals of a log, as the replay sorts them. -/
def signalsOf (C : Collation) (log : List SignalAttempt) : List SignalRecord :=
  sort (signalOrder C) ((log.foldl recordSignal []).map (·.2))

/-- What happened at the ticks of a window. -/
def attemptsIn (log : List SignalAttempt) (w : MeasuredWindow) : List SignalAttempt :=
  inWindow log (·.tickAt) w

/-! ## The records of a log -/

/-- The stage that an attempt advances a record to. -/
def advance (stage : SignalStage) (a : SignalAttempt) : SignalStage :=
  if stage.rank < a.stage.rank then a.stage else stage

/-- The record that the attempts on one key make. -/
def recordOf : List SignalAttempt → Option SignalRecord
  | [] => none
  | a :: rest => some ⟨a.fixtureId, a.marketType, a.tickAt, rest.foldl advance a.stage⟩

/-- The attempts on a key. -/
def attemptsOn (log : List SignalAttempt) (key : String) : List SignalAttempt :=
  log.filter (·.key == key)

/-- The keys, in the order in which they are first attempted. -/
def keysOf (log : List SignalAttempt) : List String := (log.map (·.key)).eraseDups

section Records

variable {log : List SignalAttempt} {a : SignalAttempt} {key : String}

theorem mem_keysOf : key ∈ keysOf log ↔ ∃ a ∈ log, a.key = key := by
  rw [keysOf, List.mem_eraseDups, List.mem_map]

theorem nodup_keysOf (log : List SignalAttempt) : (keysOf log).Nodup := nodup_eraseDups _

theorem recordOf_concat {as : List SignalAttempt} (a : SignalAttempt) :
    recordOf (as ++ [a]) = match recordOf as with
      | none => some ⟨a.fixtureId, a.marketType, a.tickAt, a.stage⟩
      | some r => some { r with stage := advance r.stage a } := by
  cases as with
  | nil => rfl
  | cons b as =>
    rw [List.cons_append, recordOf, recordOf, List.foldl_append]
    rfl

theorem attemptsOn_concat : attemptsOn (log ++ [a]) key =
    if a.key = key then attemptsOn log key ++ [a] else attemptsOn log key := by
  rw [attemptsOn, List.filter_append]
  by_cases h : a.key = key
  · have hkey : (a.key == key) = true := beq_iff_eq.2 h
    rw [if_pos h, List.filter_cons, hkey]
    rfl
  · have hkey : (a.key == key) = false := beq_false_of_ne h
    rw [if_neg h, List.filter_cons, hkey]
    exact List.append_nil _

theorem keysOf_concat : keysOf (log ++ [a]) =
    if a.key ∈ keysOf log then keysOf log else keysOf log ++ [a.key] := by
  have hcontains : (log.map (·.key)).contains a.key = true ↔ a.key ∈ keysOf log := by
    rw [List.contains_iff_mem, keysOf, List.mem_eraseDups]
  have happend : keysOf (log ++ [a]) =
      keysOf log ++ ([a.key].filter fun k => !(log.map (·.key)).contains k).eraseDups := by
    rw [keysOf, List.map_append, List.eraseDups_append]
    rfl
  rw [happend, List.filter_cons]
  by_cases h : a.key ∈ keysOf log
  · rw [hcontains.2 h, if_pos h]
    exact List.append_nil _
  · have hnot : (log.map (·.key)).contains a.key = false := by
      rw [← Bool.not_eq_true, hcontains]
      exact h
    rw [hnot, if_neg h]
    rfl

theorem attemptsOn_eq_nil : attemptsOn log key = [] ↔ key ∉ keysOf log := by
  rw [attemptsOn, List.filter_eq_nil_iff, mem_keysOf]
  simp only [beq_iff_eq, not_exists, not_and]

/-- A map that is made from a list of keys. -/
theorem lookup_filterMap {β : Type} (v : String → Option β) (ks : List String) (key : String) :
    (ks.filterMap fun k => (v k).map fun b => (k, b)).lookup key =
      if key ∈ ks then v key else none := by
  induction ks with
  | nil => rfl
  | cons k ks ih =>
    rw [List.filterMap_cons]
    by_cases hk : key = k
    · subst hk
      rw [if_pos List.mem_cons_self]
      cases hv : v key with
      | none =>
        rw [Option.map_none]
        dsimp only
        rw [ih, hv, ite_self]
      | some b =>
        rw [Option.map_some]
        exact List.lookup_cons_self
    · have hmem : key ∈ k :: ks ↔ key ∈ ks := by
        rw [List.mem_cons, or_iff_right hk]
      rw [if_congr hmem rfl rfl, ← ih]
      cases v k with
      | none => rfl
      | some b =>
        rw [Option.map_some]
        dsimp only
        rw [List.lookup_cons, beq_false_of_ne hk]

/-- **The records, from the attempts on each key.** -/
theorem foldl_recordSignal (log : List SignalAttempt) :
    log.foldl recordSignal [] =
      (keysOf log).filterMap fun k => (recordOf (attemptsOn log k)).map fun r => (k, r) := by
  induction log using List.reverseRecOn with
  | nil => rfl
  | append_singleton log a ih =>
    have hother (k : String) (hk : k ≠ a.key) : attemptsOn (log ++ [a]) k = attemptsOn log k := by
      rw [attemptsOn_concat, if_neg hk.symm]
    have hown : attemptsOn (log ++ [a]) a.key = attemptsOn log a.key ++ [a] := by
      rw [attemptsOn_concat, if_pos rfl]
    rw [List.foldl_append, List.foldl_cons, List.foldl_nil, ih, recordSignal, lookup_filterMap,
      keysOf_concat]
    by_cases hmem : a.key ∈ keysOf log
    · rw [if_pos hmem, if_pos hmem]
      obtain ⟨b, rest, hlog⟩ : ∃ b rest, attemptsOn log a.key = b :: rest :=
        List.exists_cons_of_ne_nil fun hnil => attemptsOn_eq_nil.1 hnil hmem
      have hnew : recordOf (attemptsOn log a.key ++ [a]) = _ := recordOf_concat a
      rw [← hown] at hnew
      cases hexisting : recordOf (attemptsOn log a.key) with
      | none =>
        rw [hlog] at hexisting
        cases hexisting
      | some existing =>
        rw [hexisting] at hnew
        dsimp only at hnew ⊢
        by_cases hrank : existing.stage.rank < a.stage.rank
        · rw [if_pos hrank, List.map_filterMap]
          refine List.filterMap_congr fun k _ => ?_
          by_cases hk : k = a.key
          · rw [hk, hnew, hexisting, advance, if_pos hrank]
            simp
          · rw [hother k hk]
            cases recordOf (attemptsOn log k) <;> simp [hk]
        · rw [if_neg hrank]
          refine List.filterMap_congr fun k _ => ?_
          by_cases hk : k = a.key
          · rw [hk, hnew, hexisting, advance, if_neg hrank]
          · rw [hother k hk]
    · rw [if_neg hmem, if_neg hmem, List.filterMap_append]
      have hnone : attemptsOn log a.key = [] := attemptsOn_eq_nil.2 hmem
      have hkeep : ((keysOf log).filterMap fun k =>
          (recordOf (attemptsOn (log ++ [a]) k)).map fun r => (k, r)) =
          (keysOf log).filterMap fun k => (recordOf (attemptsOn log k)).map fun r => (k, r) :=
        List.filterMap_congr fun k hk => by rw [hother k fun h => hmem (h ▸ hk)]
      rw [hkeep, List.filterMap_cons, hown, hnone]
      rfl

/-- What later attempts make of a stage. -/
theorem foldl_advance_spec (as : List SignalAttempt) (stage : SignalStage) :
    stage.rank ≤ (as.foldl advance stage).rank ∧
      (∀ a ∈ as, a.stage.rank ≤ (as.foldl advance stage).rank) ∧
      (as.foldl advance stage = stage ∨ ∃ a ∈ as, a.stage = as.foldl advance stage) := by
  induction as generalizing stage with
  | nil => exact ⟨le_rfl, fun _ ha => absurd ha List.not_mem_nil, .inl rfl⟩
  | cons a as ih =>
    obtain ⟨hle, hall, hfrom⟩ := ih (advance stage a)
    have hadvance : stage.rank ≤ (advance stage a).rank ∧ a.stage.rank ≤ (advance stage a).rank ∧
        (advance stage a = stage ∨ a.stage = advance stage a) := by
      rw [advance]
      split_ifs with h
      · exact ⟨h.le, le_rfl, .inr rfl⟩
      · exact ⟨le_rfl, Nat.le_of_not_lt h, .inl rfl⟩
    rw [List.foldl_cons]
    refine ⟨hadvance.1.trans hle, List.forall_mem_cons.2 ⟨hadvance.2.1.trans hle, hall⟩, ?_⟩
    rcases hfrom with hsame | ⟨b, hb, hstage⟩
    · rw [hsame]
      exact hadvance.2.2.imp id fun h => ⟨a, List.mem_cons_self, h⟩
    · exact .inr ⟨b, List.mem_cons_of_mem _ hb, hstage⟩

theorem recordOf_eq_none {as : List SignalAttempt} : recordOf as = none ↔ as = [] := by
  cases as <;> simp [recordOf]

/-- A record is of the first instant, and of the highest stage. -/
theorem recordOf_spec {as : List SignalAttempt} {r : SignalRecord} (h : recordOf as = some r) :
    (∃ first, as.head? = some first ∧ r.firstSignalAt = first.tickAt) ∧
      (∃ a ∈ as, a.stage = r.stage) ∧ ∀ a ∈ as, a.stage.rank ≤ r.stage.rank := by
  cases as with
  | nil => cases h
  | cons b rest =>
    cases h
    obtain ⟨hle, hall, hfrom⟩ := foldl_advance_spec rest b.stage
    refine ⟨⟨b, rfl, rfl⟩, ?_, List.forall_mem_cons.2 ⟨hle, hall⟩⟩
    rcases hfrom with hsame | ⟨a, ha, hstage⟩
    · exact ⟨b, List.mem_cons_self, hsame.symm⟩
    · exact ⟨a, List.mem_cons_of_mem _ ha, hstage⟩

end Records

/-! ## The stages that a window counts -/

section Stages

variable {C : Collation} {log : List SignalAttempt} {w : MeasuredWindow} {key : String}

/-- The accounting is that of the stages. -/
theorem summarizeSignals_eq_iff {signals signals' : List SignalRecord} :
    summarizeSignals signals = summarizeSignals signals' ↔
      (signals.map (·.stage)).Perm (signals'.map (·.stage)) := by
  have hcount (l : List SignalRecord) (stage : SignalStage) :
      (l.map (·.stage)).count stage = l.countP (·.stage == stage) := by
    rw [List.count, List.countP_map]
    rfl
  constructor
  · intro h
    refine List.perm_iff_count.2 fun stage => ?_
    rw [hcount, hcount]
    cases stage with
    | noQuoteAtDecision => exact congrArg (·.noQuoteAtDecision) h
    | belowMinOddAtDecision => exact congrArg (·.belowMinOddAtDecision) h
    | noQuoteAtExecution => exact congrArg (·.noQuoteAtExecution) h
    | belowMinOddAtExecution => exact congrArg (·.belowMinOddAtExecution) h
    | placed => exact congrArg (·.placed) h
  · intro h
    have hsame (stage : SignalStage) :
        signals.countP (·.stage == stage) = signals'.countP (·.stage == stage) := by
      rw [← hcount, ← hcount, h.count_eq]
    have hlength : signals.length = signals'.length := by
      simpa only [List.length_map] using h.length_eq
    simp only [summarizeSignals, hsame, hlength]

/-- The stage at which a window counts a key, if it does. -/
def windowStage (log : List SignalAttempt) (w : MeasuredWindow) (key : String) :
    Option SignalStage :=
  ((recordOf (attemptsOn log key)).filter fun r => w.holds r.firstSignalAt).map (·.stage)

/-- The stage that a key reached at the ticks of a window, if it was attempted there. -/
def insideStage (log : List SignalAttempt) (w : MeasuredWindow) (key : String) :
    Option SignalStage :=
  (recordOf (attemptsOn (attemptsIn log w) key)).map (·.stage)

theorem stages_signalsOf (C : Collation) (log : List SignalAttempt) (w : MeasuredWindow) :
    ((inWindow (signalsOf C log) (·.firstSignalAt) w).map (·.stage)).Perm
      ((keysOf log).filterMap (windowStage log w)) := by
  refine (((perm_sort _ _).filter _).map _).trans (.of_eq ?_)
  rw [foldl_recordSignal, List.map_filterMap, List.filter_filterMap, List.map_filterMap]
  refine List.filterMap_congr fun k _ => ?_
  rw [windowStage, Option.map_map]
  show ((Option.map id (recordOf _)).filter _).map _ = _
  rw [Option.map_id]
  rfl

theorem attemptsOn_attemptsIn :
    attemptsOn (attemptsIn log w) key = (attemptsOn log key).filter fun a => w.holds a.tickAt := by
  rw [attemptsOn, attemptsOn, attemptsIn, inWindow, List.filter_filter, List.filter_filter]
  simp only [Bool.and_comm]

/-- The window is that of all the attempts in it. -/
theorem windowStage_attemptsIn :
    windowStage (attemptsIn log w) w key = insideStage log w key := by
  rw [windowStage, insideStage]
  cases hrecord : recordOf (attemptsOn (attemptsIn log w) key) with
  | none => rfl
  | some r =>
    obtain ⟨⟨first, hfirst, hat⟩, -, -⟩ := recordOf_spec hrecord
    have hmem := List.mem_of_head? hfirst
    rw [attemptsOn_attemptsIn] at hmem
    rw [Option.filter_some, hat, List.of_mem_filter hmem, if_pos rfl]

/-- The keys that are attempted in the window are among all. -/
theorem stages_attemptsIn :
    ((keysOf (attemptsIn log w)).filterMap (windowStage (attemptsIn log w) w)).Perm
      ((keysOf log).filterMap (insideStage log w)) := by
  have hkeys : (keysOf (attemptsIn log w)).Perm
      ((keysOf log).filter fun k => decide (k ∈ keysOf (attemptsIn log w))) := by
    refine (List.perm_ext_iff_of_nodup (nodup_keysOf _) ((nodup_keysOf log).filter _)).2 fun k => ?_
    rw [List.mem_filter, decide_eq_true_eq, iff_and_self]
    intro hk
    obtain ⟨a, ha, hkey⟩ := mem_keysOf.1 hk
    exact mem_keysOf.2 ⟨a, List.mem_of_mem_filter ha, hkey⟩
  refine (hkeys.filterMap _).trans (.of_eq ?_)
  rw [List.filterMap_filter]
  refine List.filterMap_congr fun k _ => ?_
  rw [windowStage_attemptsIn]
  by_cases hk : k ∈ keysOf (attemptsIn log w)
  · rw [if_pos (decide_eq_true hk)]
  · rw [if_neg (by simpa using hk), insideStage, attemptsOn_eq_nil.2 hk]
    rfl

/-- No signal straddles the window: one that is attempted in it was first attempted in it, and got as
far in it as it did in the whole replay. -/
structure KeptInside (log : List SignalAttempt) (w : MeasuredWindow) : Prop where
  opened : ∀ a ∈ log, w.holds a.tickAt = true → ∀ first,
    log.find? (·.key == a.key) = some first → w.holds first.tickAt = true
  decided : ∀ a ∈ log, w.holds a.tickAt = true → ∀ b ∈ log, b.key = a.key →
    ∃ c ∈ log, c.key = a.key ∧ w.holds c.tickAt = true ∧ b.stage.rank ≤ c.stage.rank

theorem mem_attemptsOn {a : SignalAttempt} : a ∈ attemptsOn log key ↔ a ∈ log ∧ a.key = key := by
  rw [attemptsOn, List.mem_filter, beq_iff_eq]

theorem mem_inside {a : SignalAttempt} : a ∈ attemptsOn (attemptsIn log w) key ↔
    a ∈ log ∧ a.key = key ∧ w.holds a.tickAt = true := by
  rw [attemptsOn_attemptsIn, List.mem_filter, mem_attemptsOn, and_assoc]

theorem windowStage_eq_some {stage : SignalStage} : windowStage log w key = some stage ↔
    ∃ r, recordOf (attemptsOn log key) = some r ∧ w.holds r.firstSignalAt = true ∧
      r.stage = stage := by
  simp only [windowStage, Option.map_eq_some_iff, Option.filter_eq_some_iff, and_assoc]

theorem insideStage_eq_some {stage : SignalStage} : insideStage log w key = some stage ↔
    ∃ r, recordOf (attemptsOn (attemptsIn log w) key) = some r ∧ r.stage = stage := by
  rw [insideStage, Option.map_eq_some_iff]

/-- What a window counts was attempted in it, and got no further there. -/
theorem exists_insideStage {stage : SignalStage} (h : windowStage log w key = some stage) :
    ∃ stage', insideStage log w key = some stage' ∧ stage'.rank ≤ stage.rank := by
  obtain ⟨r, hrecord, hin, rfl⟩ := windowStage_eq_some.1 h
  obtain ⟨⟨first, hfirst, hat⟩, -, htop⟩ := recordOf_spec hrecord
  have hmem := mem_attemptsOn.1 (List.mem_of_head? hfirst)
  cases hinside : recordOf (attemptsOn (attemptsIn log w) key) with
  | none =>
    have hnone := recordOf_eq_none.1 hinside
    have hfirstIn : first ∈ attemptsOn (attemptsIn log w) key :=
      mem_inside.2 ⟨hmem.1, hmem.2, hat ▸ hin⟩
    rw [hnone] at hfirstIn
    cases hfirstIn
  | some r' =>
    obtain ⟨-, ⟨a, ha, hstage⟩, -⟩ := recordOf_spec hinside
    refine ⟨r'.stage, insideStage_eq_some.2 ⟨r', hinside, rfl⟩, ?_⟩
    rw [← hstage]
    obtain ⟨halog, hakey, -⟩ := mem_inside.1 ha
    exact htop a (mem_attemptsOn.2 ⟨halog, hakey⟩)

theorem stage_eq_of_rank (s s' : SignalStage) (h : s.rank = s'.rank) : s = s' := by
  cases s <;> cases s' <;> first | rfl | cases h

/-- **No signal straddles the window exactly when it counts every key as if it had seen nothing
else.** -/
theorem keptInside_iff :
    KeptInside log w ↔ ∀ k ∈ keysOf log, windowStage log w k = insideStage log w k := by
  constructor
  · intro h k hk
    cases hinside : insideStage log w k with
    | none =>
      cases hwindow : windowStage log w k with
      | none => rfl
      | some stage =>
        obtain ⟨stage', hsome, -⟩ := exists_insideStage hwindow
        rw [hinside] at hsome
        cases hsome
    | some stage =>
      obtain ⟨r', hrecord', rfl⟩ := insideStage_eq_some.1 hinside
      obtain ⟨-, ⟨a, ha, hstage⟩, htop'⟩ := recordOf_spec hrecord'
      obtain ⟨halog, hakey, hain⟩ := mem_inside.1 ha
      cases hrecord : recordOf (attemptsOn log k) with
      | none =>
        have hmem := mem_attemptsOn.2 ⟨halog, hakey⟩
        rw [recordOf_eq_none.1 hrecord] at hmem
        cases hmem
      | some r =>
        obtain ⟨⟨first, hfirst, hat⟩, ⟨b, hb, hbstage⟩, htop⟩ := recordOf_spec hrecord
        refine windowStage_eq_some.2 ⟨r, hrecord, ?_, stage_eq_of_rank _ _ (le_antisymm ?_ ?_)⟩
        · rw [hat]
          refine h.opened a halog hain first ?_
          rw [hakey, ← List.head?_filter]
          exact hfirst
        · obtain ⟨hblog, hbkey⟩ := mem_attemptsOn.1 hb
          obtain ⟨c, hclog, hckey, hcin, hrank⟩ :=
            h.decided a halog hain b hblog (hbkey.trans hakey.symm)
          rw [← hbstage]
          exact hrank.trans (htop' c (mem_inside.2 ⟨hclog, hckey.trans hakey, hcin⟩))
        · rw [← hstage]
          exact htop a (mem_attemptsOn.2 ⟨halog, hakey⟩)
  · intro h
    have hcounted : ∀ a ∈ log, w.holds a.tickAt = true → ∃ r r',
        recordOf (attemptsOn log a.key) = some r ∧ w.holds r.firstSignalAt = true ∧
          recordOf (attemptsOn (attemptsIn log w) a.key) = some r' ∧ r'.stage = r.stage := by
      intro a ha hin
      cases hinside : recordOf (attemptsOn (attemptsIn log w) a.key) with
      | none =>
        have hmem := mem_inside.2 ⟨ha, rfl, hin⟩
        rw [recordOf_eq_none.1 hinside] at hmem
        cases hmem
      | some r' =>
        have hsame := h a.key (mem_keysOf.2 ⟨a, ha, rfl⟩)
        rw [insideStage_eq_some.2 ⟨r', hinside, rfl⟩] at hsame
        obtain ⟨r, hrecord, hrin, hstage⟩ := windowStage_eq_some.1 hsame
        exact ⟨r, r', hrecord, hrin, rfl, hstage.symm⟩
    constructor
    · intro a ha hin first hfind
      obtain ⟨r, -, hrecord, hrin, -, -⟩ := hcounted a ha hin
      obtain ⟨⟨first', hfirst', hat⟩, -, -⟩ := recordOf_spec hrecord
      rw [attemptsOn, List.head?_filter, hfind] at hfirst'
      cases hfirst'
      rwa [← hat]
    · intro a ha hin b hb hkey
      obtain ⟨r, r', hrecord, -, hinside, hstage⟩ := hcounted a ha hin
      obtain ⟨-, -, htop⟩ := recordOf_spec hrecord
      obtain ⟨-, ⟨c, hc, hcstage⟩, -⟩ := recordOf_spec hinside
      obtain ⟨hclog, hckey, hcin⟩ := mem_inside.1 hc
      refine ⟨c, hclog, hckey, hcin, ?_⟩
      rw [hcstage, hstage]
      exact htop b (mem_attemptsOn.2 ⟨hb, hkey⟩)

/-- **The accounting of a window is that of its own ticks exactly when no signal straddles it.** -/
theorem summarize_own_iff (C : Collation) (log : List SignalAttempt) (w : MeasuredWindow) :
    summarizeSignals (inWindow (signalsOf C log) (·.firstSignalAt) w) =
      summarizeSignals (inWindow (signalsOf C (attemptsIn log w)) (·.firstSignalAt) w) ↔
    KeptInside log w := by
  have hwhole := stages_signalsOf C log w
  have hinside := (stages_signalsOf C (attemptsIn log w) w).trans stages_attemptsIn
  rw [summarizeSignals_eq_iff, keptInside_iff]
  constructor
  · intro h
    exact forall_eq_of_perm stage_eq_of_rank (fun _ _ _ => exists_insideStage)
      (hwhole.symm.trans (h.trans hinside))
  · intro h
    refine hwhole.trans (.trans (.of_eq ?_) hinside.symm)
    exact List.filterMap_congr h

/-- What a replay makes sure of: a bet goes with a signal that is placed, at the same instant, and no
key is bet on twice. -/
structure BetOnce (log : List SignalAttempt) : Prop where
  bets : ∀ a ∈ log, (a.bet.isSome = true ↔ a.stage = .placed) ∧ ∀ b ∈ a.bet, b.decisionAt = a.tickAt
  once : (placedKeys log).Nodup

/-- A key reaches the last stage in the window where it is bet on in it. -/
theorem insideStage_placed : insideStage log w key = some .placed ↔
    key ∈ placedKeys (attemptsIn log w) := by
  rw [placedKeys, List.mem_map]
  constructor
  · intro h
    obtain ⟨r, hrecord, hstage⟩ := insideStage_eq_some.1 h
    obtain ⟨-, ⟨a, ha, hastage⟩, -⟩ := recordOf_spec hrecord
    obtain ⟨halog, hakey, hain⟩ := mem_inside.1 ha
    refine ⟨a, List.mem_filter.2 ⟨List.mem_filter.2 ⟨halog, hain⟩, ?_⟩, hakey⟩
    rw [hastage, hstage]
    rfl
  · rintro ⟨a, ha, rfl⟩
    obtain ⟨ha, hplaced⟩ := List.mem_filter.1 ha
    obtain ⟨halog, hain⟩ := List.mem_filter.1 ha
    have hmem := mem_inside.2 ⟨halog, rfl, hain⟩
    cases hrecord : recordOf (attemptsOn (attemptsIn log w) a.key) with
    | none =>
      rw [recordOf_eq_none.1 hrecord] at hmem
      cases hmem
    | some r =>
      obtain ⟨-, -, htop⟩ := recordOf_spec hrecord
      have hrank := htop a hmem
      rw [beq_iff_eq.1 hplaced] at hrank
      refine insideStage_eq_some.2 ⟨r, hrecord, ?_⟩
      cases hstage : r.stage with
      | placed => rfl
      | noQuoteAtDecision | belowMinOddAtDecision | noQuoteAtExecution | belowMinOddAtExecution =>
        rw [hstage] at hrank
        exact absurd hrank (by decide)

/-- **At its own ticks a window counts its bets.** -/
theorem placed_own (C : Collation) (h : BetOnce log) (w : MeasuredWindow) :
    (summarizeSignals (inWindow (signalsOf C (attemptsIn log w)) (·.firstSignalAt) w)).placed =
      (inWindow (log.filterMap (·.bet)) (·.decisionAt) w).length := by
  have hstages := (stages_signalsOf C (attemptsIn log w) w).trans stages_attemptsIn
  have hbets : (inWindow (log.filterMap (·.bet)) (·.decisionAt) w).length =
      (placedKeys (attemptsIn log w)).length := by
    rw [inWindow, List.filter_filterMap, List.length_filterMap_eq_countP, placedKeys,
      List.length_map, ← List.countP_eq_length_filter, attemptsIn, inWindow, List.countP_filter]
    refine List.countP_congr fun a ha => ?_
    obtain ⟨hsome, hat⟩ := h.bets a ha
    rw [Bool.and_eq_true, beq_iff_eq, ← hsome]
    cases hbet : a.bet with
    | none => simp
    | some b => simp [hat b hbet]
  have hkeys : ((keysOf log).filter fun k => insideStage log w k == some .placed).Perm
      (placedKeys (attemptsIn log w)) := by
    refine (List.perm_ext_iff_of_nodup ((nodup_keysOf log).filter _) ?_).2 fun k => ?_
    · exact h.once.sublist ((List.filter_sublist.filter _).map _)
    · rw [List.mem_filter, beq_iff_eq, insideStage_placed, and_iff_right_iff_imp]
      intro hk
      obtain ⟨a, ha, rfl⟩ := List.mem_map.1 hk
      exact mem_keysOf.2 ⟨a, List.mem_of_mem_filter (List.mem_of_mem_filter ha), rfl⟩
  calc (summarizeSignals (inWindow (signalsOf C (attemptsIn log w)) (·.firstSignalAt) w)).placed
      = ((inWindow (signalsOf C (attemptsIn log w)) (·.firstSignalAt) w).map (·.stage)).count
          .placed := by
        rw [List.count, List.countP_map]
        rfl
    _ = ((keysOf log).filterMap (insideStage log w)).count .placed := hstages.count_eq _
    _ = ((keysOf log).filter fun k => insideStage log w k == some .placed).length := by
        rw [List.count, List.countP_filterMap, List.countP_eq_length_filter]
        congr 2
        funext k
        cases insideStage log w k <;> rfl
    _ = (placedKeys (attemptsIn log w)).length := hkeys.length_eq
    _ = (inWindow (log.filterMap (·.bet)) (·.decisionAt) w).length := hbets.symm

end Stages

/-! ## The log of a replay -/

section Replayed

variable {number : JsValue → JsNumber} {numberText : JsNumber → String}
  {strategy : BacktestStrategy} {quoteAt : QuoteSelector} {fixture : Fixture}
  {goals : List GoalEvent} {homeId awayId : Int}

/-- The part of a key that names the fixture. -/
def keyFixture (key : String) : List Char := key.toList.takeWhile (· != '|')

theorem keyFixture_append {id rest : String} (hid : isGeneratedId id = true) :
    keyFixture (id ++ ("|" ++ rest)) = id.toList := by
  rw [keyFixture, String.toList_append, String.toList_append]
  have hall : ∀ c ∈ id.toList, (c != '|') = true := by
    intro c hc
    rw [bne_iff_ne]
    rintro rfl
    rw [isGeneratedId, List.all_eq_true] at hid
    exact absurd (hid '|' hc) (by decide)
  rw [List.takeWhile_append_of_pos hall]
  exact List.append_nil _

/-- What holds of the log of a fixture. -/
structure FixtureLog (fixture : Fixture) (log : List SignalAttempt) : Prop extends BetOnce log where
  keys : ∀ a ∈ log, keyFixture a.key = fixture.id.toList

theorem tryQuotes_placed {target : ExecutableQuoteTarget} {tickAt latencyMs : Int} {minOdd : ℚ} :
    (tryQuotes quoteAt target tickAt latencyMs minOdd).2.isSome = true ↔
      (tryQuotes quoteAt target tickAt latencyMs minOdd).1 = .placed := by
  rw [tryQuotes]
  split
  · simp
  · split_ifs
    · simp
    · split
      · simp
      · split_ifs <;> simp

theorem attempt?_betOnce {t e : Int} {placed : List String} {m : RuleMatch} {a : SignalAttempt}
    (hid : isGeneratedId fixture.id = true)
    (h : attempt? strategy quoteAt fixture t e placed m = some a) :
    ((a.bet.isSome = true ↔ a.stage = .placed) ∧ ∀ b ∈ a.bet, b.decisionAt = a.tickAt) ∧
      a.key ∉ placed ∧ keyFixture a.key = fixture.id.toList := by
  have hat : ∀ b ∈ a.bet, b.decisionAt = a.tickAt := fun b hb =>
    ((attempt?_spec h).2 b hb).trans (attempt?_spec h).1.symm
  unfold attempt? at h
  dsimp only at h
  split_ifs at h with hplays
  obtain ⟨target, -, rfl⟩ := Option.map_eq_some_iff.1 h
  refine ⟨⟨?_, hat⟩, hplays.2, ?_⟩
  · rw [Option.isSome_map]
    exact tryQuotes_placed
  · rw [String.append_assoc, String.append_assoc, String.append_assoc]
    exact keyFixture_append hid

/-- One suggestion more. -/
theorem FixtureLog.attempt {log : List SignalAttempt} (h : FixtureLog fixture log)
    (hid : isGeneratedId fixture.id = true) (t e : Int) (m : RuleMatch) :
    FixtureLog fixture
      (log ++ (attempt? strategy quoteAt fixture t e (placedKeys log) m).toList) := by
  cases hnew : attempt? strategy quoteAt fixture t e (placedKeys log) m with
  | none =>
    rw [Option.toList_none, List.append_nil]
    exact h
  | some a =>
    obtain ⟨hbets, hfresh, hkey⟩ := attempt?_betOnce hid hnew
    rw [Option.toList_some]
    refine ⟨⟨?_, ?_⟩, ?_⟩
    · exact List.forall_mem_append.2 ⟨h.bets, List.forall_mem_singleton.2 hbets⟩
    · rw [placedKeys, List.filter_append, List.map_append]
      refine List.Nodup.append h.once ?_ ?_
      · exact (List.nodup_singleton a.key).sublist (List.filter_sublist.map _)
      · intro k hk hka
        obtain ⟨b, hb, rfl⟩ := List.mem_map.1 hka
        rw [List.mem_singleton.1 (List.mem_of_mem_filter hb)] at hk
        exact hfresh hk
    · exact List.forall_mem_append.2 ⟨h.keys, List.forall_mem_singleton.2 hkey⟩

theorem FixtureLog.evaluateTick {log : List SignalAttempt} (h : FixtureLog fixture log)
    (hid : isGeneratedId fixture.id = true) (st : TickState) :
    FixtureLog fixture
      (evaluateTick strategy numberText quoteAt fixture goals homeId awayId log st) := by
  unfold ApiScore.evaluateTick
  induction st.suggestions strategy numberText fixture goals homeId awayId generalizing log with
  | nil => exact h
  | cons s rest ih =>
    obtain ⟨t, e, m⟩ := s
    exact ih (h.attempt hid t e m)

/-- **The log of a fixture**: tick after tick, it bets once on each key. -/
theorem fixtureLog_replayFixture (hid : isGeneratedId fixture.id = true)
    (snaps : List FixtureStatsSnapshot) : FixtureLog fixture
      (replayFixture number strategy numberText quoteAt fixture goals snaps) := by
  have hempty : FixtureLog fixture [] :=
    ⟨⟨List.forall_mem_nil _, List.nodup_nil⟩, List.forall_mem_nil _⟩
  have hfold (homeId awayId : Int) (states : List TickState) (log : List SignalAttempt)
      (h : FixtureLog fixture log) : FixtureLog fixture
        (states.foldl (evaluateTick strategy numberText quoteAt fixture goals homeId awayId) log) := by
    induction states generalizing log with
    | nil => exact h
    | cons st states ih => exact ih _ (h.evaluateTick hid st)
  unfold replayFixture
  split
  · exact hfold _ _ _ [] hempty
  · exact hempty

end Replayed

section Replay

variable {R : Runtime} {strategy : BacktestStrategy} {rows : ReplayRows}

/-- The attempts on the fixture of a group of snapshots. -/
def groupLog (R : Runtime) (strategy : BacktestStrategy) (rows : ReplayRows)
    (group : String × List FixtureStatsSnapshot) : List SignalAttempt :=
  match rows.fixtures.find? (·.id == group.1) with
  | none => []
  | some fixture => replayFixture R.number strategy R.numberText
      (quoteSelector R strategy rows.quotes) fixture
      (rows.goals.filter (·.fixtureId == group.1)) group.2

theorem groupLog_spec (hids : ∀ f ∈ rows.fixtures, isGeneratedId f.id = true)
    (group : String × List FixtureStatsSnapshot) : BetOnce (groupLog R strategy rows group) ∧
      ∀ a ∈ groupLog R strategy rows group, keyFixture a.key = group.1.toList := by
  rw [groupLog]
  split
  · exact ⟨⟨List.forall_mem_nil _, List.nodup_nil⟩, List.forall_mem_nil _⟩
  · next fixture hfind =>
    have hlog : FixtureLog fixture (replayFixture R.number strategy R.numberText
        (quoteSelector R strategy rows.quotes) fixture
        (rows.goals.filter (·.fixtureId == group.1)) group.2) :=
      fixtureLog_replayFixture (hids fixture (List.mem_of_find?_eq_some hfind)) group.2
    have hgroup := List.find?_some hfind
    rw [beq_iff_eq] at hgroup
    exact ⟨hlog.toBetOnce, fun a ha => by rw [hlog.keys a ha, hgroup]⟩

/-- The bets and the signals of a replay are those of its log. -/
theorem replayRows_log (R : Runtime) (strategy : BacktestStrategy) (rows : ReplayRows) :
    (replayRows R strategy rows).bets = (replayAttempts R strategy rows).filterMap (·.bet) ∧
      (replayRows R strategy rows).signals =
        signalsOf R.collation (replayAttempts R strategy rows) := by
  rw [replayRows]
  split_ifs with hempty
  · have hnil : rows.snapshots = [] := List.isEmpty_iff.1 hempty
    have hlog : replayAttempts R strategy rows = [] := by
      rw [replayAttempts, hnil]
      rfl
    rw [hlog]
    exact ⟨rfl, rfl⟩
  · exact ⟨rfl, rfl⟩

variable (R strategy) in
/-- **A replay bets once on each key.** -/
theorem betOnce_replayAttempts (hids : ∀ f ∈ rows.fixtures, isGeneratedId f.id = true) :
    BetOnce (replayAttempts R strategy rows) := by
  show BetOnce ((groupBy (·.fixtureId) _).flatMap (groupLog R strategy rows))
  constructor
  · intro a ha
    obtain ⟨group, -, ha⟩ := List.mem_flatMap.1 ha
    exact (groupLog_spec hids group).1.bets a ha
  · rw [placedKeys, List.filter_flatMap, List.map_flatMap, List.nodup_flatMap]
    refine ⟨fun group _ => (groupLog_spec hids group).1.once, ?_⟩
    have hgroups : (groupBy (fun s : FixtureStatsSnapshot => s.fixtureId)
        (sort (snapshotOrder R.collation) rows.snapshots)).Pairwise fun g g' => g.1 ≠ g'.1 := by
      rw [← List.pairwise_map (f := Prod.fst) (R := fun k k' => k ≠ k'), groupBy, List.map_map]
      exact (List.map_id' _).symm ▸ nodup_eraseDups _
    refine hgroups.imp fun {g g'} hne k hk hk' => ?_
    -- the keys name the fixtures
    obtain ⟨a, ha, rfl⟩ := List.mem_map.1 hk
    obtain ⟨b, hb, hkey⟩ := List.mem_map.1 hk'
    have hga := (groupLog_spec hids g).2 a (List.mem_of_mem_filter ha)
    have hgb := (groupLog_spec hids g').2 b (List.mem_of_mem_filter hb)
    rw [hkey, hga] at hgb
    exact hne (String.toList_injective hgb)

/-- **A window accounts for its own signals and bets exactly when no signal straddles it**: it reports
as many placed signals as bets are decided in it, and the signals as they would be if the replay had
seen nothing but the ticks of the window. -/
theorem measureWindow_own_iff (R : Runtime) (strategy : BacktestStrategy) (data : ReplayData)
    (window : ReplayWindow) (sqrt : ℚ → ℚ) (plan : StakingPlan) (w : MeasuredWindow) :
    ((measureWindow sqrt plan (replayDetailed R strategy data window).bets
        (replayDetailed R strategy data window).signals w).signals.placed =
        (inWindow (replayDetailed R strategy data window).bets (·.decisionAt) w).length ∧
      (measureWindow sqrt plan (replayDetailed R strategy data window).bets
        (replayDetailed R strategy data window).signals w).signals =
        summarizeSignals (inWindow (signalsOf R.collation (attemptsIn
          (replayAttempts R strategy (data.read strategy window)) w)) (·.firstSignalAt) w)) ↔
    KeptInside (replayAttempts R strategy (data.read strategy window)) w := by
  have hids : ∀ f ∈ (data.read strategy window).fixtures, isGeneratedId f.id = true :=
    fun f hf => data.fixtures.checked f (List.mem_of_mem_filter hf)
  obtain ⟨hbets, hsignals⟩ := replayRows_log R strategy (data.read strategy window)
  have hown := summarize_own_iff R.collation
    (replayAttempts R strategy (data.read strategy window)) w
  have hplaced := placed_own R.collation (betOnce_replayAttempts R strategy hids) w
  rw [replayDetailed, hbets, hsignals, measureWindow]
  refine Iff.trans ⟨And.right, fun h => ⟨?_, h⟩⟩ hown
  rw [h, hplaced]

end Replay

namespace Sample

def eleventhMinute : FixtureStatsSnapshot := ⟨"2", "a", some 1, some 11, .obj [], 60000⟩

/-- A match in two minutes, with an odd in the second one. -/
def twoMinutes : ReplayData where
  snapshots := ⟨[{ tenthMinute with id := "1" }, eleventhMinute], by decide, by decide⟩
  fixtures := (tenth .empty).fixtures
  goals := []
  odds := ⟨[oddAt "a" 2000 60000], by decide +kernel, by decide +kernel⟩

def secondMinute : MeasuredWindow := ⟨60000, 120000⟩

end Sample

/-- **A signal without an odd in the first minute, and its bet in the second**: a window of the second
one has the bet, and no signal. -/
theorem measureWindow_straddled :
    ¬ ∀ (R : Runtime) (strategy : BacktestStrategy) (data : ReplayData) (window : ReplayWindow)
      (sqrt : ℚ → ℚ) (plan : StakingPlan) (w : MeasuredWindow),
      (measureWindow sqrt plan (replayDetailed R strategy data window).bets
        (replayDetailed R strategy data window).signals w).signals.placed =
        (inWindow (replayDetailed R strategy data window).bets (·.decisionAt) w).length ∧
      (measureWindow sqrt plan (replayDetailed R strategy data window).bets
        (replayDetailed R strategy data window).signals w).signals =
        summarizeSignals (inWindow (signalsOf R.collation (attemptsIn
          (replayAttempts R strategy (data.read strategy window)) w)) (·.firstSignalAt) w) := by
  intro h
  have hcount := (h Sample.runtime (Sample.withLatency 0 none) Sample.twoMinutes ⟨0, 120000⟩ id
    Sample.tenthPlan Sample.secondMinute).1
  exact absurd hcount (by decide +kernel)

end ApiScore
