import Mathlib.Data.Rat.Encodable
import ApiScore.Analytics.RateTable
import ApiScore.Lib.Delimited

/-!
# The rate of a live signal

The live path reads the rates of a batch of fixtures at once, and finds that of a match of the rules
by the text of its league, season, market and threshold (`buildLookup`, `resolveBaseRate`).  What a
recompute that returns has left there is what the matches say.

* `buildLookup` — the rates by their keys.
* `lookup_eq` — under a key there is the row of that key, and no other.
* `recomputed` — what a recompute leaves of every league and season.
* `live_rate` — the rate of a signal is that of the history.
-/

set_option autoImplicit false

namespace ApiScore

open Relational Concurrent Delimited Double

/-! ## The lookup -/

/-- `MARKET_TYPE_TO_BASE_RATE`. -/
def marketTypeToBaseRate (marketType : String) : Option BaseRateMarket :=
  if marketType = "Buts 1ère mi-temps" then some .goal1h
  else if marketType = "Buts match" then some .goalFt
  else if marketType = "Buts 2ème mi-temps" then some .goal2h
  else none

/-- `SIGNAL_TO_BASE_RATE`. -/
def SignalType.toBaseRate : SignalType → BaseRateSignal
  | .totalShots => .totalShots
  | .onTarget => .onTarget
  | .pressureIndex => .pressureIndex

/-- How numbers are printed: different doubles have different texts, and none has a bar in it. -/
structure NumberTexts where
  text : JsNumber → String
  bar : ∀ n, '|' ∉ (text n).toList
  injective : ∀ p q, double p = p → double q = q → text (.num p) = text (.num q) → p = q

section Lookup

variable (T : NumberTexts)

def baseRateKey (leagueId season : JsNumber) (market : BaseRateMarket) (threshold : JsNumber) :
    String :=
  T.text leagueId ++ "|" ++ T.text season ++ "|" ++ market.text ++ "|" ++ T.text threshold

def ComputedBaseRate.lookupKey (r : ComputedBaseRate) : String :=
  baseRateKey T r.leagueId r.season r.market (.int r.threshold)

/-- The rows that `buildLookup` reads for the pairs of a batch. -/
def ComputedBaseRate.inBatch (pairs : List (Int × Int)) (signal : BaseRateSignal)
    (r : ComputedBaseRate) : Bool :=
  decide (r.signal = signal) && (pairs.map fun p => JsNumber.int p.1).contains r.leagueId &&
    (pairs.map fun p => JsNumber.int p.2).contains r.season

/-- `buildLookup`, of the rows as they were read: a key that is set again has the later value. -/
def buildLookup (rows : List ComputedBaseRate) (key : String) : Option BaseRateHit :=
  (rows.reverse.find? fun r => r.lookupKey T == key).map fun r => ⟨r.observedRate, r.sampleSize⟩

/-- What the live path is given of the rates, for the fixtures of a pass. -/
def liveBaseRate (rows : List ComputedBaseRate) (leagueId season : Int) (marketType : String)
    (threshold : ℚ) : Option BaseRateHit :=
  (marketTypeToBaseRate marketType).bind fun market =>
    buildLookup T rows (baseRateKey T (.int leagueId) (.int season) market (.num threshold))

end Lookup

/-! ## Under a key there is its row -/

section Keys

variable {T : NumberTexts}

theorem isInt32_int {n : Int} : (JsNumber.int n).isInt32 = true ↔ -2 ^ 31 ≤ n ∧ n < 2 ^ 31 := by
  simp [JsNumber.int, JsNumber.isInt32]

/-- What fits a column `int` is an integer, and a double. -/
theorem exists_int_of_isInt32 {x : JsNumber} (h : x.isInt32 = true) :
    ∃ n : Int, x = .int n ∧ double n = n := by
  cases x with
  | num q =>
    obtain ⟨hden, hlow, hhigh⟩ := of_decide_eq_true h
    have hq : ((q.num : Int) : ℚ) = q := Rat.coe_int_num_of_den_eq_one hden
    refine ⟨q.num, by rw [JsNumber.int, hq], double_int ?_⟩
    rw [abs_lt]
    constructor <;> linarith
  | inf | negInf | nan => cases h

/-- What ends at the first bar. -/
theorem bar_inj {a b a' b' : String} (ha : '|' ∉ a.toList) (ha' : '|' ∉ a'.toList)
    (h : a ++ "|" ++ b = a' ++ "|" ++ b') : a = a' ∧ b = b' := by
  have hlist := congrArg String.toList h
  simp only [String.toList_append] at hlist
  have htold : Told (· = '|') a.toList a'.toList :=
    .of_all (fun c hc heq => ha (heq ▸ hc)) fun c hc heq => ha' (heq ▸ hc)
  rw [List.append_assoc, List.append_assoc] at hlist
  have hends : ∀ rest : List Char, Ends (· = '|') ('|' :: rest) := fun _ => ends_cons (by rfl) _
  obtain ⟨hfirst, hrest⟩ := htold _ _ (hends _) (hends _) hlist
  exact ⟨String.toList_inj.1 hfirst, String.toList_inj.1 (List.cons.inj hrest).2⟩

/-- **Different keys have different texts.** -/
theorem baseRateKey_inj {l s l' s' : Int} {market market' : BaseRateMarket} {t t' : ℚ}
    (hl : double l = l) (hl' : double l' = l') (hs : double s = s) (hs' : double s' = s')
    (ht : double t = t) (ht' : double t' = t')
    (h : baseRateKey T (.int l) (.int s) market (.num t) =
      baseRateKey T (.int l') (.int s') market' (.num t')) :
    l = l' ∧ s = s' ∧ market = market' ∧ t = t' := by
  have hmarket : ∀ m : BaseRateMarket, '|' ∉ m.text.toList := by
    intro m
    cases m <;> decide
  have hkey : ∀ (l s : Int) (m : BaseRateMarket) (t : ℚ),
      baseRateKey T (.int l) (.int s) m (.num t) = T.text (.int l) ++ "|" ++
        (T.text (.int s) ++ "|" ++ (m.text ++ "|" ++ T.text (.num t))) := by
    intro l s m t
    simp only [baseRateKey, String.append_assoc]
  rw [hkey, hkey] at h
  obtain ⟨hleague, h⟩ := bar_inj (T.bar _) (T.bar _) h
  obtain ⟨hseason, h⟩ := bar_inj (T.bar _) (T.bar _) h
  obtain ⟨hm, hthreshold⟩ := bar_inj (hmarket _) (hmarket _) h
  refine ⟨by exact_mod_cast T.injective _ _ hl hl' hleague,
    by exact_mod_cast T.injective _ _ hs hs' hseason, ?_, T.injective _ _ ht ht' hthreshold⟩
  cases market <;> cases market' <;> first | rfl | exact absurd hm (by decide)

/-- The row of a key. -/
def ComputedBaseRate.isOf (l s : Int) (market : BaseRateMarket) (signal : BaseRateSignal) (t : ℚ)
    (r : ComputedBaseRate) : Bool :=
  r.ofSeries l s market signal && decide ((r.threshold : ℚ) = t)

/-- Two searches that can find the same one thing. -/
theorem find?_eq_of_unique {α : Type} {p q : α → Bool} {as bs : List α}
    (hmem : ∀ a, (a ∈ as ∧ p a = true) ↔ a ∈ bs ∧ q a = true)
    (hunique : ∀ a ∈ bs, ∀ b ∈ bs, q a = true → q b = true → a = b) :
    as.find? p = bs.find? q := by
  cases hq : bs.find? q with
  | none =>
    refine List.find?_eq_none.2 fun a ha hp => ?_
    obtain ⟨hb, hqa⟩ := (hmem a).1 ⟨ha, hp⟩
    exact List.find?_eq_none.1 hq a hb hqa
  | some b =>
    have hb := (hmem b).2 ⟨List.mem_of_find?_eq_some hq, List.find?_some hq⟩
    obtain ⟨a, ha⟩ := Option.isSome_iff_exists.1 (List.find?_isSome.2 ⟨b, hb⟩)
    obtain ⟨hmema, hqa⟩ := (hmem a).1 ⟨List.mem_of_find?_eq_some ha, List.find?_some ha⟩
    rw [ha, hunique a hmema b (List.mem_of_find?_eq_some hq) hqa (List.find?_some hq)]

theorem isOf_iff {l s : Int} {market : BaseRateMarket} {signal : BaseRateSignal} {t : ℚ}
    {r : ComputedBaseRate} : r.isOf l s market signal t = true ↔ r.leagueId = .int l ∧
      r.season = .int s ∧ r.market = market ∧ r.signal = signal ∧ (r.threshold : ℚ) = t := by
  simp only [ComputedBaseRate.isOf, ComputedBaseRate.ofSeries, Bool.and_eq_true, ofPair_iff,
    decide_eq_true_eq]
  tauto

/-- **Under a key there is the row of that key**, of a batch with its league and season. -/
theorem lookup_eq {table : Table rateSchema} {rows : List ComputedBaseRate}
    {pairs : List (Int × Int)} {l s : Int} {market : BaseRateMarket} {signal : BaseRateSignal}
    {t : ℚ} (hrows : rows.Perm (table.rows.filter (·.inBatch pairs signal)))
    (hpair : (l, s) ∈ pairs) (hl : double l = l) (hs : double s = s) (ht : double t = t) :
    buildLookup T rows (baseRateKey T (.int l) (.int s) market (.num t)) =
      (table.rows.find? (·.isOf l s market signal t)).map fun r => ⟨r.observedRate, r.sampleSize⟩ := by
  rw [buildLookup]
  congr 1
  refine find?_eq_of_unique (fun r => ?_) fun a ha b hb hpa hpb => ?_
  · rw [List.mem_reverse, hrows.mem_iff, List.mem_filter, beq_iff_eq, isOf_iff]
    have hbatch : r.leagueId = .int l → r.season = .int s → r.signal = signal →
        r.inBatch pairs signal = true := by
      intro hrl hrs hsignal
      simp only [ComputedBaseRate.inBatch, Bool.and_eq_true, decide_eq_true_eq,
        List.contains_iff_mem, List.mem_map]
      exact ⟨⟨hsignal, ⟨_, hpair, hrl.symm⟩⟩, ⟨_, hpair, hrs.symm⟩⟩
    constructor
    · rintro ⟨⟨hr, hin⟩, hkey⟩
      have hcheck := table.checked r hr
      simp only [rateSchema, Bool.and_eq_true] at hcheck
      obtain ⟨l', hl', hdl⟩ := exists_int_of_isInt32 hcheck.1.1.1
      obtain ⟨s', hs', hds⟩ := exists_int_of_isInt32 hcheck.1.1.2
      obtain ⟨t', ht', hdt⟩ := exists_int_of_isInt32 hcheck.1.2
      obtain rfl : r.threshold = t' := by simpa [JsNumber.int] using ht'
      rw [ComputedBaseRate.lookupKey, hl', hs'] at hkey
      obtain ⟨rfl, rfl, hm, hthreshold⟩ := baseRateKey_inj hdl hl hds hs hdt ht hkey
      simp only [ComputedBaseRate.inBatch, Bool.and_eq_true, decide_eq_true_eq] at hin
      exact ⟨hr, hl', hs', hm, hin.1.1, hthreshold⟩
    · rintro ⟨hr, hrl, hrs, hm, hsignal, rfl⟩
      refine ⟨⟨hr, hbatch hrl hrs hsignal⟩, ?_⟩
      rw [ComputedBaseRate.lookupKey, hrl, hrs, hm]
      rfl
  · rw [isOf_iff] at hpa hpb
    refine Table.eq_of_clash ha hb (ComputedBaseRate.sameKey_iff.2 ?_)
    have hthreshold : a.threshold = b.threshold := by
      exact_mod_cast hpa.2.2.2.2.trans hpb.2.2.2.2.symm
    exact ⟨hpa.1.trans hpb.1.symm, hpa.2.1.trans hpb.2.1.symm, hpa.2.2.1.trans hpb.2.2.1.symm,
      hpa.2.2.2.1.trans hpb.2.2.2.1.symm, hthreshold⟩

end Keys

/-! ## What a recompute leaves -/

/-- The matches of a league and season were read as they are, in some order. -/
structure RateReads.Of (history : StoredMatches) (leagueId season : Int) (reads : RateReads) : Prop where
  fixtures : reads.fixtures.Perm (history.fixtures.filter
    fun f => decide (f.leagueId = some leagueId ∧ f.season = some season))
  snapshots : reads.snapshots.Perm (history.snapshots.filter
    fun s => (reads.fixtures.map (·.id)).contains s.fixtureId)
  goals : reads.goals.Perm (history.events.filter
    fun e => (reads.fixtures.map (·.id)).contains e.fixtureId && e.eventType == some "Goal")

section Recompute

variable {number : JsValue → JsNumber} {numberText : JsNumber → String}
  {changes : StoredMatches → StoredMatches → Prop} {i : Nat} {w w' : RateWorld}
  {leagueId season : Int} {minSample : Nat}

/-- A statement that returns was served. -/
theorem statement_returns {q : RateQuery} {r : q.Result} :
    Returns (rateSystem number numberText changes) i (RateCall.statement q) w r w' ↔
      ∃ t, q.Serves w.history w.rates r t ∧
        w' = { w with rates := t, trace := ⟨i, q, r⟩ :: w.trace } := by
  constructor
  · intro h
    obtain ⟨b, w₁, hs, hrest⟩ := Returns.of_act h
    cases b with
    | error e => exact (not_returns_throw hrest).elim
    | ok x =>
      obtain ⟨rfl, rfl⟩ := returns_pure.1 hrest
      cases hs with
      | served hserves => exact ⟨_, hserves, rfl⟩
  · rintro ⟨t, hserves, rfl⟩
    exact ⟨_, _, .served hserves, rfl, rfl⟩

theorem snapshots_return {ids : List String} {r : List StoredSnapshot}
    (h : Returns (rateSystem number numberText changes) i (RateCall.statement (.snapshotsOf ids))
      w r w') : r.Perm (w.history.snapshots.filter fun s => ids.contains s.fixtureId) ∧
        w'.history = w.history ∧ w'.rates = w.rates := by
  obtain ⟨t, hserves, rfl⟩ := statement_returns.1 h
  cases hserves with
  | snapshotsOf hperm => exact ⟨hperm, rfl, rfl⟩

theorem goals_return {ids : List String} {r : List StoredEvent}
    (h : Returns (rateSystem number numberText changes) i (RateCall.statement (.goalsOf ids)) w r w') :
    r.Perm (w.history.events.filter
      fun e => ids.contains e.fixtureId && e.eventType == some "Goal") ∧
        w'.history = w.history ∧ w'.rates = w.rates := by
  obtain ⟨t, hserves, rfl⟩ := statement_returns.1 h
  cases hserves with
  | goalsOf hperm => exact ⟨hperm, rfl, rfl⟩

/-- What a call may have left of the rates of a league and season. -/
def pairRows (w : RateWorld) (leagueId season : Int) : List ComputedBaseRate :=
  w.rates.rows.filter (·.ofPair leagueId season)

/-- The rates of what was read are of the league and season. -/
theorem RateReads.Of.ofPair {reads : RateReads} (h : reads.Of w.history leagueId season)
    (hmin : 0 < minSample) {r : ComputedBaseRate}
    (hr : r ∈ reads.rates number numberText minSample) : r.ofPair leagueId season = true := by
  have hpair := RateReads.pair number fun f hf =>
    of_decide_eq_true (List.mem_filter.1 (h.fixtures.mem_iff.1 hf)).2
  obtain ⟨hl, hs, -⟩ := (mem_computeBaseRates hmin hpair).1 hr
  exact ofPair_iff.2 ⟨hl, hs⟩

/-- The two reads of a call, in either order. -/
theorem reads_return {ids : List String} {x : List StoredSnapshot × List StoredEvent}
    (h : Returns (rateSystem number numberText changes) i
      (RateCall.both (RateCall.statement (.snapshotsOf ids)) (RateCall.statement (.goalsOf ids)))
      w x w') :
    w'.history = w.history ∧ w'.rates = w.rates ∧
      x.1.Perm (w.history.snapshots.filter fun s => ids.contains s.fixtureId) ∧
        x.2.Perm (w.history.events.filter
          fun e => ids.contains e.fixtureId && e.eventType == some "Goal") := by
  obtain ⟨b, w₁, hs, hrest⟩ := Returns.of_act h
  cases hs
  cases b with
  | true =>
    obtain ⟨snapshots, w₂, hsnapshots, hrest⟩ := Returns.of_bind hrest
    obtain ⟨goals, w₃, hgoals, hrest⟩ := Returns.of_bind hrest
    obtain ⟨hperm, hhistory, hrates⟩ := snapshots_return hsnapshots
    obtain ⟨hperm', hhistory', hrates'⟩ := goals_return hgoals
    obtain ⟨rfl, rfl⟩ := returns_pure.1 hrest
    exact ⟨hhistory'.trans hhistory, hrates'.trans hrates, hperm, hhistory ▸ hperm'⟩
  | false =>
    obtain ⟨goals, w₂, hgoals, hrest⟩ := Returns.of_bind hrest
    obtain ⟨snapshots, w₃, hsnapshots, hrest⟩ := Returns.of_bind hrest
    obtain ⟨hperm', hhistory', hrates'⟩ := goals_return hgoals
    obtain ⟨hperm, hhistory, hrates⟩ := snapshots_return hsnapshots
    obtain ⟨rfl, rfl⟩ := returns_pure.1 hrest
    exact ⟨hhistory.trans hhistory', hrates.trans hrates', hhistory' ▸ hperm, hperm'⟩

/-- The rates after the old ones are deleted. -/
theorem filter_delete {t : Table rateSchema} {l s : Int} :
    (t.delete (·.ofPair leagueId season)).rows.filter (·.ofPair l s) =
      if (l, s) = (leagueId, season) then [] else t.rows.filter (·.ofPair l s) := by
  rw [Table.delete, List.filter_filter]
  split_ifs with hpair
  · obtain ⟨rfl, rfl⟩ := Prod.mk.inj hpair
    exact List.filter_eq_nil_iff.2 fun r _ => by simp
  · refine List.filter_congr fun r _ => ?_
    cases hr : r.ofPair l s with
    | false => rfl
    | true =>
      cases hr' : r.ofPair leagueId season with
      | false => rfl
      | true =>
        obtain ⟨rfl, rfl⟩ := ofPair_unique hr hr'
        exact absurd rfl hpair

/-- **What the call for a league and season leaves**: their rates, and all others as they were. -/
theorem recomputeLeagueSeason_leaves {x : Nat × Nat} (hmin : 0 < minSample)
    (h : Returns (rateSystem number numberText changes) i
      (recomputeLeagueSeason number numberText leagueId season minSample) w x w') :
    w'.history = w.history ∧
      (∀ l s, (l, s) ≠ (leagueId, season) → pairRows w' l s = pairRows w l s) ∧
        ((∃ f ∈ w.history.fixtures, f.leagueId = some leagueId ∧ f.season = some season) →
          ∃ reads : RateReads, reads.Of w.history leagueId season ∧
            pairRows w' leagueId season = reads.rates number numberText minSample) := by
  obtain ⟨fixtures, w₁, hfixtures, h⟩ := Returns.of_bind h
  obtain ⟨t₁, hserved, rfl⟩ := statement_returns.1 hfixtures
  have hperm : fixtures.Perm (w.history.fixtures.filter
      fun f => decide (f.leagueId = some leagueId ∧ f.season = some season)) ∧ t₁ = w.rates := by
    cases hserved with
    | fixturesOf hperm => exact ⟨hperm, rfl⟩
  obtain ⟨hperm, rfl⟩ := hperm
  split_ifs at h with hempty
  · obtain ⟨-, rfl⟩ := returns_pure.1 h
    refine ⟨rfl, fun _ _ _ => rfl, ?_⟩
    rintro ⟨f, hf, hpair⟩
    have hmem := hperm.mem_iff.2 (List.mem_filter.2 ⟨hf, decide_eq_true hpair⟩)
    rw [hempty] at hmem
    cases hmem
  obtain ⟨⟨snapshots, goals⟩, w₂, hreads, h⟩ := Returns.of_bind h
  obtain ⟨hhistory, hrates, hsnapshots, hgoals⟩ := reads_return hreads
  have hof : (⟨fixtures, snapshots, goals⟩ : RateReads).Of w.history leagueId season :=
    ⟨hperm, hsnapshots, hgoals⟩
  simp only at h
  generalize (⟨fixtures, snapshots, goals⟩ : RateReads) = reads at h hof
  obtain ⟨_, w₃, hdelete, h⟩ := Returns.of_bind h
  obtain ⟨t₃, hserved, rfl⟩ := statement_returns.1 hdelete
  obtain rfl : t₃ = w₂.rates.delete (·.ofPair leagueId season) := by
    cases hserved
    rfl
  split_ifs at h with hnone
  · obtain ⟨-, rfl⟩ := returns_pure.1 h
    refine ⟨hhistory, fun l s hne => ?_, fun _ => ⟨reads, hof, ?_⟩⟩
    · rw [pairRows, filter_delete, if_neg hne, hrates]
      rfl
    · rw [pairRows, filter_delete, if_pos rfl, hnone]
  obtain ⟨_, w₄, hinsert, h⟩ := Returns.of_bind h
  obtain ⟨t₄, hserved, rfl⟩ := statement_returns.1 hinsert
  obtain ⟨-, rfl⟩ := returns_pure.1 h
  have hrows : t₄.rows = (w₂.rates.delete (·.ofPair leagueId season)).rows ++
      reads.rates number numberText minSample := by
    cases hserved with
    | insert hrows => exact Table.ofRows?_eq_some hrows
  refine ⟨hhistory, fun l s hne => ?_, fun _ => ⟨reads, hof, ?_⟩⟩
  · have hother : (reads.rates number numberText minSample).filter (·.ofPair l s) = [] := by
      refine List.filter_eq_nil_iff.2 fun r hr hpair => ?_
      obtain ⟨rfl, rfl⟩ := ofPair_unique hpair (hof.ofPair hmin hr)
      exact hne rfl
    rw [pairRows, hrows, List.filter_append, filter_delete, if_neg hne, hrates, hother,
      List.append_nil]
    rfl
  · rw [pairRows, hrows, List.filter_append, filter_delete, if_pos rfl, List.nil_append,
      List.filter_eq_self.2 fun r hr => hof.ofPair hmin hr]

theorem recomputePairs_leaves {pairs : List (Int × Int)} {x : Nat × Nat} (hmin : 0 < minSample)
    (hnodup : pairs.Nodup) (h : Returns (rateSystem number numberText changes) i
      (recomputePairs number numberText minSample pairs) w x w') :
    w'.history = w.history ∧ (∀ l s, (l, s) ∉ pairs → pairRows w' l s = pairRows w l s) ∧
      ∀ l s, (l, s) ∈ pairs →
        (∃ f ∈ w.history.fixtures, f.leagueId = some l ∧ f.season = some s) →
          ∃ reads : RateReads, reads.Of w.history l s ∧
            pairRows w' l s = reads.rates number numberText minSample := by
  induction pairs generalizing w x with
  | nil =>
    obtain ⟨-, rfl⟩ := returns_pure.1 h
    exact ⟨rfl, fun _ _ _ => rfl, fun _ _ hmem => (List.not_mem_nil hmem).elim⟩
  | cons pair pairs ih =>
    obtain ⟨leagueId, season⟩ := pair
    obtain ⟨hfresh, hnodup⟩ := List.nodup_cons.1 hnodup
    obtain ⟨y, w₁, hfirst, h⟩ := Returns.of_bind h
    obtain ⟨z, w₂, hrest, h⟩ := Returns.of_bind h
    obtain ⟨-, rfl⟩ := returns_pure.1 h
    obtain ⟨hhistory, hothers, hpair⟩ := recomputeLeagueSeason_leaves hmin hfirst
    obtain ⟨hhistory', hothers', hpairs⟩ := ih hnodup hrest
    refine ⟨hhistory'.trans hhistory, fun l s hmem => ?_, fun l s hmem hfixture => ?_⟩
    · rw [List.mem_cons, not_or] at hmem
      rw [hothers' l s hmem.2, hothers l s hmem.1]
    · rcases List.mem_cons.1 hmem with heq | hmem
      · obtain ⟨rfl, rfl⟩ := Prod.mk.inj heq
        obtain ⟨reads, hof, hrows⟩ := hpair hfixture
        exact ⟨reads, hof, (hothers' l s hfresh).trans hrows⟩
      · rw [← hhistory] at hfixture ⊢
        exact hpairs l s hmem hfixture

/-- **A call alone returns**, where the database answers and has room for the rates. -/
theorem recomputeLeagueSeason_returns {reads : RateReads} {t : Table rateSchema}
    (hof : reads.Of w.history leagueId season) (hfixtures : reads.fixtures ≠ [])
    (hrates : reads.rates number numberText minSample ≠ [])
    (ht : t.rows = (w.rates.delete (·.ofPair leagueId season)).rows ++
      reads.rates number numberText minSample) :
    ∃ w', Returns (rateSystem number numberText changes) i
      (recomputeLeagueSeason number numberText leagueId season minSample) w
        ((reads.observations number).length, (reads.rates number numberText minSample).length) w' := by
  have hserved : ∀ (w : RateWorld) {q : RateQuery} {r : q.Result} {t : Table rateSchema},
      q.Serves w.history w.rates r t → ∃ w' : RateWorld, w'.history = w.history ∧ w'.rates = t ∧
        Returns (rateSystem number numberText changes) i (RateCall.statement q) w r w' :=
    fun w q r t h => ⟨{ w with rates := t, trace := ⟨i, q, r⟩ :: w.trace }, rfl, rfl,
      statement_returns.2 ⟨t, h, rfl⟩⟩
  obtain ⟨w₁, hhistory, htable, hread⟩ := hserved w (.fixturesOf hof.fixtures)
  rw [← hhistory] at hof
  obtain ⟨w₂, hhistory₂, htable₂, hsnapshots⟩ := hserved w₁ (.snapshotsOf hof.snapshots)
  rw [← hhistory₂] at hof
  obtain ⟨w₃, -, htable₃, hgoals⟩ := hserved w₂ (.goalsOf hof.goals)
  obtain ⟨w₄, -, htable₄, hdelete⟩ := hserved w₃ (@RateQuery.Serves.delete _ _ leagueId season)
  have hroom : Table.ofRows? rateSchema (w₄.rates.rows ++ reads.rates number numberText minSample) =
      some t := by
    rw [htable₄, htable₃, htable₂, htable, ← ht, Table.ofRows?_rows]
  obtain ⟨w₅, -, -, hinsert⟩ := hserved w₄ (.insert hroom)
  have hboth : Returns (rateSystem number numberText changes) i (RateCall.both
      (RateCall.statement (.snapshotsOf (reads.fixtures.map (·.id))))
      (RateCall.statement (.goalsOf (reads.fixtures.map (·.id))))) w₁ (reads.snapshots, reads.goals) w₃ :=
    ⟨true, w₁, .ordered true, hsnapshots.bind (hgoals.bind (returns_pure.2 ⟨rfl, rfl⟩))⟩
  refine ⟨w₅, hread.bind ?_⟩
  rw [if_neg hfixtures]
  refine hboth.bind (hdelete.bind ?_)
  rw [if_neg hrates]
  exact hinsert.bind (returns_pure.2 ⟨rfl, rfl⟩)

/-- **What a recompute leaves**: the rates of every league and season that has matches. -/
theorem recomputed {result : RecomputeResult} (hmin : 0 < minSample)
    (h : Returns (rateSystem number numberText changes) i
      (recomputeAll number numberText minSample) w result w')
    {f : Fixture} (hf : f ∈ w.history.fixtures) (hl : f.leagueId = some leagueId)
    (hs : f.season = some season) :
    ∃ reads : RateReads, reads.Of w.history leagueId season ∧
      pairRows w' leagueId season = reads.rates number numberText minSample := by
  obtain ⟨pairs, w₁, hpairs, h⟩ := Returns.of_bind h
  obtain ⟨x, w₂, hall, h⟩ := Returns.of_bind h
  obtain ⟨-, rfl⟩ := returns_pure.1 h
  obtain ⟨t, hserved, rfl⟩ := statement_returns.1 hpairs
  cases hserved with
  | pairs hnodup hmem =>
    obtain ⟨-, -, hrates⟩ := recomputePairs_leaves hmin hnodup hall
    exact hrates leagueId season ((hmem (leagueId, season)).2 ⟨f, hf, hl, hs⟩) ⟨f, hf, hl, hs⟩

end Recompute

/-! ## The live path -/

/-- The rate of a market and a threshold, as it is counted. -/
def countedRate (observations : List TeamMatchObservation) (minSample : Nat)
    (market : BaseRateMarket) (signal : BaseRateSignal) (threshold : Int) : Option BaseRateHit :=
  let sample := sampleOf observations market signal threshold
  if minSample ≤ sample then
    some ⟨round4 (double (positivesOf observations market signal threshold / sample)), sample⟩
  else none

/-- The rate of a market and a threshold that need not be one of those that are computed. -/
def historyRate (observations : List TeamMatchObservation) (minSample : Nat)
    (market : BaseRateMarket) (signal : BaseRateSignal) (threshold : ℚ) : Option BaseRateHit :=
  ((defaultThresholds signal).find? fun t : Int => decide ((t : ℚ) = threshold)).bind
    (countedRate observations minSample market signal)

/-- The row of a key is among those of its league and season. -/
theorem find_pairRows {w : RateWorld} {l s : Int} {market : BaseRateMarket} {signal : BaseRateSignal}
    {t : ℚ} : w.rates.rows.find? (·.isOf l s market signal t) =
      (pairRows w l s).find? (·.isOf l s market signal t) := by
  rw [pairRows, List.find?_filter]
  congr 1
  funext r
  rw [ComputedBaseRate.isOf, ComputedBaseRate.ofSeries]
  cases r.ofPair l s <;> simp

/-- The row of a key, among the rates that were computed. -/
theorem find_rates {T : NumberTexts} {observations : List TeamMatchObservation} {minSample : Nat}
    {l s : Int} {market : BaseRateMarket} {signal : BaseRateSignal} {t : ℚ} (hmin : 0 < minSample)
    (hpair : ∀ o ∈ observations, o.leagueId = .int l ∧ o.season = .int s) :
    (((computeBaseRates T.text defaultThresholds minSample observations).find?
      (·.isOf l s market signal t)).map fun r => (⟨r.observedRate, r.sampleSize⟩ : BaseRateHit)) =
        historyRate observations minSample market signal t := by
  have hof : ∀ {r : ComputedBaseRate},
      r ∈ computeBaseRates T.text defaultThresholds minSample observations →
        r.isOf l s market signal t = true → r.threshold ∈ defaultThresholds signal ∧
          (r.threshold : ℚ) = t ∧ countedRate observations minSample market signal r.threshold =
            some ⟨r.observedRate, r.sampleSize⟩ := by
    intro r hr hisOf
    obtain ⟨-, -, rfl, rfl, ht⟩ := isOf_iff.1 hisOf
    obtain ⟨-, -, hthreshold, hsample, hcount, hrate⟩ := (mem_computeBaseRates hmin hpair).1 hr
    refine ⟨hthreshold, ht, ?_⟩
    rw [countedRate, ← hcount, if_pos hsample, ← hrate]
  rw [historyRate]
  cases hfind : (computeBaseRates T.text defaultThresholds minSample observations).find?
      (·.isOf l s market signal t) with
  | some r =>
    obtain ⟨hthreshold, ht, hcounted⟩ := hof (List.mem_of_find?_eq_some hfind) (List.find?_some hfind)
    have hone : (defaultThresholds signal).find? (fun x : Int => decide ((x : ℚ) = t)) =
        some r.threshold := by
      have hsome : ((defaultThresholds signal).find? fun x : Int => decide ((x : ℚ) = t)).isSome :=
        List.find?_isSome.2 ⟨r.threshold, hthreshold, decide_eq_true ht⟩
      obtain ⟨x, hx⟩ := Option.isSome_iff_exists.1 hsome
      have hxt : ((x : Int) : ℚ) = t := by simpa using List.find?_some hx
      have hsame : x = r.threshold := by exact_mod_cast hxt.trans ht.symm
      rw [hx, hsame]
    rw [hone, Option.bind_some, hcounted, Option.map_some]
  | none =>
    rw [Option.map_none]
    cases hthreshold : (defaultThresholds signal).find? fun x : Int => decide ((x : ℚ) = t) with
    | none => rfl
    | some x =>
      have hx : ((x : Int) : ℚ) = t := by simpa using List.find?_some hthreshold
      rw [Option.bind_some, countedRate, if_neg]
      intro hsample
      refine List.find?_eq_none.1 hfind
        ⟨.int l, .int s, market, signal, x, sampleOf observations market signal x,
          round4 (double (positivesOf observations market signal x /
            sampleOf observations market signal x))⟩ ?_ (isOf_iff.2 ⟨rfl, rfl, rfl, rfl, hx⟩)
      exact (mem_computeBaseRates hmin hpair).2
        ⟨rfl, rfl, List.mem_of_find?_eq_some hthreshold, hsample, rfl, rfl⟩

/-- The leagues and seasons of the fixtures of a pass. -/
def baseRatePairs (fixtures : List Fixture) : List (Int × Int) :=
  fixtures.filterMap fun f => f.leagueId.bind fun l => f.season.map fun s => (l, s)

/-- The live path was given the rates of the table, for the fixtures of a pass. -/
def LiveData.ReadsRates (T : NumberTexts) (table : Table rateSchema) (fixtures : List Fixture)
    (data : LiveData) : Prop :=
  ∀ signal : SignalType, ∃ rows : List ComputedBaseRate,
    rows.Perm (table.rows.filter (·.inBatch (baseRatePairs fixtures) signal.toBaseRate)) ∧
      data.baseRate signal = liveBaseRate T rows

/-- **The rate of a signal is that of the history**: once a recompute has returned, a match of the
rules has the counts of the teams that reached its threshold, and none where the sample is small, or
the threshold is not one of those that are computed. -/
theorem live_rate {T : NumberTexts} {number : JsValue → JsNumber}
    {changes : StoredMatches → StoredMatches → Prop} {i : Nat} {w w' : RateWorld}
    {result : RecomputeResult} {minSample : Nat} {f : Fixture} {fixtures : List Fixture} {l s : Int}
    (hmin : 0 < minSample) (h : Returns (rateSystem number T.text changes) i
      (recomputeAll number T.text minSample) w result w')
    (hf : f ∈ w.history.fixtures) (hpass : f ∈ fixtures) (hl : f.leagueId = some l)
    (hs : f.season = some s) (hdl : double l = l) (hds : double s = s) :
    ∃ reads : RateReads, reads.Of w.history l s ∧
      ∀ data : LiveData, data.ReadsRates T w'.rates fixtures → ∀ m : RuleMatch,
        double m.signalThreshold = m.signalThreshold →
          resolveBaseRate data f m = (marketTypeToBaseRate m.marketType).bind fun market =>
            historyRate (reads.observations number) minSample market m.signal.toBaseRate
              m.signalThreshold := by
  obtain ⟨reads, hof, hrows⟩ := recomputed hmin h hf hl hs
  have hpair := RateReads.pair number fun f hf =>
    of_decide_eq_true (List.mem_filter.1 (hof.fixtures.mem_iff.1 hf)).2
  refine ⟨reads, hof, fun data hdata m hm => ?_⟩
  obtain ⟨rows, hperm, hrate⟩ := hdata m.signal
  have hbatch : (l, s) ∈ baseRatePairs fixtures :=
    List.mem_filterMap.2 ⟨f, hpass, by rw [hl, hs]; rfl⟩
  simp only [resolveBaseRate, hl, hs, hrate, liveBaseRate]
  congr 1
  funext market
  rw [lookup_eq hperm hbatch hdl hds hm, find_pairRows, hrows]
  exact find_rates hmin hpair

/-! ## A sample -/

namespace Sample

theorem repr_injective {m n : Nat} (h : Nat.repr m = Nat.repr n) : m = n := by
  have hlist := congrArg String.toList h
  rw [Nat.repr, Nat.repr, String.toList_ofList, String.toList_ofList] at hlist
  have hval := congrArg digitsVal hlist
  rwa [digitsVal_toDigits, digitsVal_toDigits] at hval

/-- A mark that is no digit. -/
theorem not_mem_repr {n : Nat} {c : Char} (h : c.isDigit = false) : c ∉ (Nat.repr n).toList := by
  intro hmem
  rw [Nat.repr, String.toList_ofList] at hmem
  rw [isDigit_of_mem_toDigits hmem] at h
  cases h

theorem mark_repr_ne {m n : Nat} {c : Char} (h : c.isDigit = false) :
    String.singleton c ++ Nat.repr m ≠ Nat.repr n := by
  intro heq
  refine not_mem_repr (n := n) h ?_
  rw [← heq, String.toList_append, String.toList_singleton]
  exact List.mem_cons_self

def intText : Int → String
  | .ofNat n => Nat.repr n
  | .negSucc n => String.singleton '-' ++ Nat.repr (n + 1)

/-- Integers as they are printed, and a text for every other number. -/
def rationalText (q : ℚ) : String :=
  if q.den = 1 then intText q.num else String.singleton '.' ++ Nat.repr (Encodable.encode q)

theorem intText_injective {a b : Int} (h : intText a = intText b) : a = b := by
  cases a with
  | ofNat m =>
    cases b with
    | ofNat n => rw [repr_injective h]
    | negSucc n => exact absurd h.symm (mark_repr_ne (by decide))
  | negSucc m =>
    cases b with
    | ofNat n => exact absurd h (mark_repr_ne (by decide))
    | negSucc n =>
      have hrepr := repr_injective (String.append_right_inj _ |>.1 h)
      rw [Nat.succ_injective hrepr]

theorem dot_ne_intText {m : Nat} {a : Int} :
    String.singleton '.' ++ Nat.repr m ≠ intText a := by
  cases a with
  | ofNat n => exact mark_repr_ne (by decide)
  | negSucc n =>
    intro h
    have hlist := congrArg String.toList h
    simp [intText] at hlist

theorem rationalText_injective {p q : ℚ} (h : rationalText p = rationalText q) : p = q := by
  rw [rationalText, rationalText] at h
  split_ifs at h with hp hq hq
  · exact Rat.ext (intText_injective h) (hp.trans hq.symm)
  · exact absurd h.symm dot_ne_intText
  · exact absurd h dot_ne_intText
  · exact Encodable.encode_injective (repr_injective (String.append_right_inj _ |>.1 h))

def numberTexts : NumberTexts where
  text
    | .num q => rationalText q
    | .inf => "Infinity"
    | .negInf => "-Infinity"
    | .nan => "NaN"
  bar n := by
    have hmark : ∀ {c : Char} {m : Nat}, c ≠ '|' → '|' ∉ (String.singleton c ++ Nat.repr m).toList := by
      intro c m hc hmem
      rw [String.toList_append, String.toList_singleton, List.mem_append, List.mem_singleton] at hmem
      exact hmem.elim (fun heq => hc heq.symm) (not_mem_repr (by decide))
    cases n with
    | num q =>
      show '|' ∉ (rationalText q).toList
      rw [rationalText]
      split_ifs
      · cases q.num with
        | ofNat m => exact not_mem_repr (by decide)
        | negSucc m => exact hmark (by decide)
      · exact hmark (by decide)
    | inf | negInf | nan => decide
  injective _ _ _ _ h := rationalText_injective h

/-- A match of which one team has shot twelve times before half-time. -/
def ratedFixture : Fixture where
  id := "fixture"
  providerFixtureId := "1"
  leagueId := some 1
  season := some 2024
  homeTeamId := some 10
  awayTeamId := some 20
  homeTeamName := none
  awayTeamName := none
  statusShort := none
  elapsed := none
  scoreHome := none
  scoreAway := none
  rawHome := ⟨none, none⟩
  rawAway := ⟨none, none⟩
  lastSyncedAt := 0

def halfTimeStats : StoredSnapshot where
  fixtureId := "fixture"
  row := ⟨some (.int 10), some "1", .obj [("statistics", .arr
    [.obj [("type", .str "Total Shots"), ("value", .num (.int 12))]])]⟩

def ratedHistory : StoredMatches := ⟨[ratedFixture], [halfTimeStats], []⟩

def ratedReads : RateReads := ⟨[ratedFixture], [halfTimeStats], []⟩

def freshRates : RateWorld := ⟨ratedHistory, .empty, []⟩

abbrev ratesOf : List ComputedBaseRate := ratedReads.rates jsNumber numberTexts.text 1

theorem ratedReads_of : ratedReads.Of ratedHistory 1 2024 :=
  ⟨.of_eq (by decide), .refl _, .refl _⟩

theorem ratedReads_pair : ∀ o ∈ ratedReads.observations jsNumber,
    o.leagueId = .int 1 ∧ o.season = .int 2024 :=
  RateReads.pair _ (List.forall_mem_singleton.2 ⟨rfl, rfl⟩)

/-- The rate of one shot before half-time. -/
theorem exists_ratesOf : ∃ r ∈ ratesOf, r.ofSeries 1 2024 .goal1h .totalShots = true := by
  have hsample : sampleOf (ratedReads.observations jsNumber) .goal1h .totalShots 1 = 1 := by
    decide +kernel
  have hthreshold : (1 : Int) ∈ defaultThresholds .totalShots := by decide
  refine ⟨⟨.int 1, .int 2024, .goal1h, .totalShots, 1, 1, round4 (double
    (positivesOf (ratedReads.observations jsNumber) .goal1h .totalShots 1 / (1 : Nat)))⟩,
    (mem_computeBaseRates Nat.one_pos ratedReads_pair).2
      ⟨rfl, rfl, hthreshold, le_refl _, hsample.symm, rfl⟩, ?_⟩
  exact Bool.and_eq_true_iff.2 ⟨ofPair_iff.2 ⟨rfl, rfl⟩, decide_eq_true ⟨rfl, rfl⟩⟩

theorem exists_ratedTable : ∃ t : Table rateSchema, t.rows = ratesOf := by
  refine Table.exists_iff.2 ⟨pairwise_computeBaseRates (fun signal => by cases signal <;> decide)
    ratedReads_pair, fun r hr => ?_⟩
  obtain ⟨hl, hs, hthreshold, -, hcount, -⟩ :=
    (mem_computeBaseRates Nat.one_pos ratedReads_pair).1 hr
  have hsize : r.sampleSize ≤ 2 := by
    have hle : sampleOf (ratedReads.observations jsNumber) r.market r.signal r.threshold ≤
        (ratedReads.observations jsNumber).length := List.countP_le_length
    have hlength : (ratedReads.observations jsNumber).length = 2 := by decide +kernel
    omega
  have hall : ∀ signal, ∀ t ∈ defaultThresholds signal, 0 ≤ t ∧ t ≤ 80 := by
    intro signal
    cases signal <;> decide
  have hbounds := hall r.signal r.threshold hthreshold
  simp only [rateSchema, Bool.and_eq_true, hl, hs]
  refine ⟨⟨⟨by decide, by decide⟩, isInt32_int.2 (by omega)⟩, isInt32_int.2 (by omega)⟩

/-- The calls of a database whose matches do not change. -/
abbrev rateCalls : System RateAction RateAction.Result Nat RateWorld :=
  rateSystem jsNumber numberTexts.text fun _ _ => False

/-- A recompute alone, on a database that answers, from an empty table. -/
theorem recomputeAll_returns : ∃ result w',
    Returns rateCalls 0 (recomputeAll jsNumber numberTexts.text 1) freshRates result w' := by
  obtain ⟨t, ht⟩ := exists_ratedTable
  obtain ⟨r, hr, -⟩ := exists_ratesOf
  have hpairs : RateQuery.Serves ratedHistory .empty .pairs [(1, 2024)] .empty := by
    refine .pairs (List.nodup_singleton _) fun p => ?_
    rw [List.mem_singleton, ratedHistory]
    constructor
    · rintro rfl
      exact ⟨ratedFixture, List.mem_singleton_self _, rfl, rfl⟩
    · rintro ⟨f, hf, hl, hs⟩
      rw [List.mem_singleton.1 hf] at hl hs
      exact Prod.ext (Option.some.inj hl).symm (Option.some.inj hs).symm
  have hstart : Returns rateCalls 0 (RateCall.statement .pairs) freshRates [(1, 2024)]
      ⟨ratedHistory, .empty, [⟨0, .pairs, [(1, 2024)]⟩]⟩ := statement_returns.2 ⟨_, hpairs, rfl⟩
  obtain ⟨w', hcall⟩ : ∃ w', Returns rateCalls 0
      (recomputeLeagueSeason jsNumber numberTexts.text 1 2024 1)
        ⟨ratedHistory, .empty, [⟨0, .pairs, [(1, 2024)]⟩]⟩
          ((ratedReads.observations jsNumber).length, ratesOf.length) w' :=
    recomputeLeagueSeason_returns ratedReads_of (List.cons_ne_nil _ _) (List.ne_nil_of_mem hr) ht
  have hnone : Returns rateCalls 0 (recomputePairs jsNumber numberTexts.text 1 []) w' (0, 0) w' :=
    returns_pure.2 ⟨rfl, rfl⟩
  have hall : Returns rateCalls 0 (recomputePairs jsNumber numberTexts.text 1 [(1, 2024)])
      ⟨ratedHistory, .empty, [⟨0, .pairs, [(1, 2024)]⟩]⟩
        ((ratedReads.observations jsNumber).length, ratesOf.length) w' :=
    hcall.bind (hnone.bind (returns_pure.2 ⟨rfl, rfl⟩))
  exact ⟨_, w', hstart.bind (hall.bind (returns_pure.2 ⟨rfl, rfl⟩))⟩

/-- What is read of the matches is what there is. -/
theorem eq_ratedReads {reads : RateReads} (h : reads.Of ratedHistory 1 2024) : reads = ratedReads := by
  obtain ⟨fixtures, snapshots, goals⟩ := reads
  obtain rfl : fixtures = [ratedFixture] :=
    List.perm_singleton.1 (h.fixtures.trans ratedReads_of.fixtures.symm)
  obtain rfl : snapshots = [halfTimeStats] := List.perm_singleton.1 h.snapshots
  obtain rfl : goals = [] := List.perm_nil.1 h.goals
  rfl

/-- The rates of the match, in the table of a run. -/
theorem rates_whole_recomputed : ∃ rates : Table rateSchema,
    rates.rows.filter (·.ofSeries 1 2024 .goal1h .totalShots) ≠ [] ∧
      ∃ i rows trace, Computed jsNumber numberTexts.text i rows trace ∧
        rates.rows.filter (·.ofSeries 1 2024 .goal1h .totalShots) =
          rows.filter (·.ofSeries 1 2024 .goal1h .totalShots) := by
  obtain ⟨result, w', h⟩ := recomputeAll_returns
  obtain ⟨reads, hof, hrows⟩ := recomputed Nat.one_pos h (List.mem_singleton_self ratedFixture) rfl rfl
  have hne : w'.rates.rows.filter (·.ofSeries 1 2024 .goal1h .totalShots) ≠ [] := by
    obtain ⟨r, hr, hseries⟩ := exists_ratesOf
    have hmem : r ∈ pairRows w' 1 2024 := by
      rw [hrows, eq_ratedReads hof]
      exact hr
    exact List.ne_nil_of_mem (List.mem_filter.2 ⟨(List.mem_filter.1 hmem).1, hseries⟩)
  have hrun : Alone rateCalls 0 ((recomputeAll jsNumber numberTexts.text 1).run >>= fun _ => .ret ())
      freshRates () w' := alone_bind.2 ⟨_, _, h, rfl, rfl⟩
  have hentry : rateCalls.entry
      ((recomputeAll jsNumber numberTexts.text 1).run >>= fun _ => .ret ()) := ⟨1, Nat.one_pos, rfl⟩
  have hstart : Reachable rateCalls (.init freshRates) _ := Reachable.init.step (.start (i := 0) rfl hentry)
  have hreach := Alone.reachable hstart hrun (by dsimp only; rw [Function.update_self])
  rcases rates_whole hreach 1 2024 .goal1h .totalShots with hnone | ⟨i, rows, hcomputed, heq⟩
  · exact absurd hnone hne
  · exact ⟨w'.rates, hne, i, rows, w'.trace, hcomputed, heq⟩

def ratedMatch : RuleMatch where
  teamId := 10
  isHomeTeam := true
  teamName := "Home"
  marketType := "Buts 1ère mi-temps"
  selection := "Home +0.5"
  ruleName := "shots"
  minAcceptableOdd := 2
  edgePct := 5
  confidenceScore := 60
  signalThreshold := 1
  signal := .totalShots
  reasons := []
  elapsed := 45
  shotsCount := .int 12

/-- What the live path is given of a table. -/
def ratedLive (rates : Table rateSchema) : LiveData where
  fixtures := [ratedFixture]
  distinct := List.nodup_singleton _
  snapshots := []
  baseRate signal := liveBaseRate numberTexts
    (rates.rows.filter (·.inBatch (baseRatePairs [ratedFixture]) signal.toBaseRate))
  now := 0

/-- The rate of one shot before half-time, of one team that did not score. -/
theorem live_rate_recomputed : ∃ rates : Table rateSchema,
    resolveBaseRate (ratedLive rates) ratedFixture ratedMatch = some ⟨0, 1⟩ := by
  obtain ⟨result, w', h⟩ := recomputeAll_returns
  obtain ⟨reads, hof, hrate⟩ := live_rate Nat.one_pos h (List.mem_singleton_self ratedFixture)
    (List.mem_singleton_self ratedFixture) rfl rfl (double_int (by norm_num)) (double_int (by norm_num))
  have hone : double ratedMatch.signalThreshold = ratedMatch.signalThreshold :=
    double_int (n := 1) (by norm_num)
  refine ⟨w'.rates, (hrate (ratedLive w'.rates) (fun signal => ⟨_, .refl _, rfl⟩) ratedMatch hone).trans ?_⟩
  rw [eq_ratedReads hof]
  have hsample : sampleOf (ratedReads.observations jsNumber) .goal1h .totalShots 1 = 1 := by
    decide +kernel
  have hnone : positivesOf (ratedReads.observations jsNumber) .goal1h .totalShots 1 = 0 := by
    decide +kernel
  have hzero : round4 (double ((0 : Nat) / (1 : Nat))) = 0 := by
    norm_num [round4, double_zero, jsRound]
  show countedRate (ratedReads.observations jsNumber) 1 .goal1h .totalShots 1 = _
  rw [countedRate, hsample, hnone, if_pos (le_refl _), hzero]
  rfl

end Sample

end ApiScore
