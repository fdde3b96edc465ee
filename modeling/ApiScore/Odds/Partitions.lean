import ApiScore.Lib.Grouping
import ApiScore.Matches.Json
import Mathlib.Algebra.BigOperators.Ring.List
import Mathlib.Algebra.Order.BigOperators.Group.List
import Mathlib.Tactic.Positivity

/-!
# The odds of a market as a partition

The bets of a bookmaker are put in groups, one for each market, and a group of a market whose
outcomes exclude each other is stored with the margin of the bookmaker taken out.  A market is
recognised by a part of the name of the bet, and a group is complete when it has as many values as
the market has outcomes.

* `removeMargin_fair` — what is left without the margin is positive and sums to one.
* `apifootballGroups_partition` — the entries of apifootball name each outcome once.
* `storedGroups_partition_iff` — a response is stored as partitions exactly when no group of a full
  number repeats an outcome.
* `storedGroups_repeats` — two bets in one market, each with the same side.
-/

set_option autoImplicit false

namespace ApiScore

open Grouping

/-! ## What JavaScript gives -/

/-- The library of the language, as far as the odds use it. -/
structure OddsRuntime where
  /-- `Number`. -/
  number : JsValue → JsNumber
  /-- `String`. -/
  text : JsValue → String
  /-- `toLowerCase`. -/
  lower : String → String

/-- `startsWith`. -/
def startsWith (text start : String) : Bool := start.toList.isPrefixOf text.toList

/-- `endsWith`. -/
def endsWith (text stop : String) : Bool := stop.toList.isSuffixOf text.toList

/-- `includes`: the text has this part. -/
def hasPart (text part : String) : Bool := decide (part.toList <:+: text.toList)

/-- `trim`. -/
def trimmed (text : String) : String := String.ofList (jsTrim text.toList)

/-! ## Probabilities -/

/-- `impliedProbability`. -/
def impliedProbability : JsNumber → Option ℚ
  | .num odd => if odd ≤ 1 then none else some (1 / odd)
  | _ => none

/-- What `removeMargin` returns. -/
structure Margin where
  raw : List ℚ
  fair : List ℚ
  overround : ℚ

def removeMargin (odds : List JsNumber) : Margin :=
  let raw := odds.map fun odd => (impliedProbability odd).getD 0
  let overround := raw.sum
  { raw := raw
    fair := if 0 < overround then raw.map (· / overround) else raw.map fun _ => 0
    overround := overround }

/-! ## Groups of outcomes -/

structure OddsOutcome where
  outcome : String
  marketKey : String
  selectionKey : String
  oddValue : JsNumber
  available : Bool
  deriving DecidableEq

/-- What `buildRowsForMarketGroup` is called with, apart from the fixture and the instant. -/
structure MarketGroup where
  bookmakerId : Option JsNumber
  bookmakerName : String
  bookmakerKey : String
  marketType : String
  outcomes : List OddsOutcome
  deriving DecidableEq

/-- `isPartitionMarket`. -/
def isPartitionMarket (marketType : String) : Bool :=
  marketType != "DOUBLE_CHANCE" && !startsWith marketType "TEAM_GOAL"

def expectedOutcomeCount (marketType : String) : Nat :=
  if marketType = "1X2" then 3
  else if marketType = "BTTS" then 2
  else if startsWith marketType "OU_" then 2
  else if startsWith marketType "AH_" then 2
  else 0

inductive SnapshotPhase
  | prematch | live
  deriving DecidableEq

/-- What the rows of a response share. -/
structure OddsSource where
  fixtureId : String
  providerFixtureId : String
  providerKey : String
  phase : SnapshotPhase
  receivedAt : Int

/-- A row to insert. -/
structure OddsRow where
  fixtureId : String
  providerFixtureId : String
  providerKey : String
  bookmakerId : Option JsNumber
  bookmakerName : String
  bookmakerKey : String
  marketType : String
  marketKey : String
  outcome : String
  selectionKey : String
  oddValue : JsNumber
  impliedProbabilityRaw : ℚ
  impliedProbabilityFair : Option ℚ
  overround : Option ℚ
  phase : SnapshotPhase
  capturedAt : Int
  observedAt : Int
  receivedAt : Int
  available : Bool

def OddsSource.row (source : OddsSource) (group : MarketGroup) (outcome : OddsOutcome) (raw : ℚ)
    (fair overround : Option ℚ) : OddsRow where
  fixtureId := source.fixtureId
  providerFixtureId := source.providerFixtureId
  providerKey := source.providerKey
  bookmakerId := group.bookmakerId
  bookmakerName := group.bookmakerName
  bookmakerKey := group.bookmakerKey
  marketType := group.marketType
  marketKey := outcome.marketKey
  outcome := outcome.outcome
  selectionKey := outcome.selectionKey
  oddValue := outcome.oddValue
  impliedProbabilityRaw := raw
  impliedProbabilityFair := fair
  overround := overround
  phase := source.phase
  capturedAt := source.receivedAt
  observedAt := source.receivedAt
  receivedAt := source.receivedAt
  available := outcome.available

/-- `buildRowsForMarketGroup`. -/
def buildRowsForMarketGroup (source : OddsSource) (group : MarketGroup) : List OddsRow :=
  if !isPartitionMarket group.marketType then
    group.outcomes.map fun outcome =>
      source.row group outcome ((impliedProbability outcome.oddValue).getD 0) none none
  -- an incomplete market is left out as a whole
  else if group.outcomes.length ≠ expectedOutcomeCount group.marketType then []
  else
    let margin := removeMargin (group.outcomes.map (·.oddValue))
    (group.outcomes.zip (margin.raw.zip margin.fair)).map fun (outcome, raw, fair) =>
      source.row group outcome raw (some fair) (some margin.overround)

section Mapping

variable (rt : OddsRuntime)

/-- `isSuspended`. -/
def isSuspended (value : JsValue) : Bool :=
  let normalized := rt.lower (trimmed (rt.text (value.orElse (.str ""))))
  let isSet := match value with
    | .bool b => b
    | .num n => n == .num 1
    | _ => false
  isSet || normalized == "yes" || normalized == "true" || normalized == "1"

/-! ## api-sports -/

/-- What follows `over` or `under`: `\s+([\d.]+)$`. -/
def lineOf (rest : List Char) : Option String :=
  let line := rest.dropWhile isJsSpace
  if rest.head?.any isJsSpace && !line.isEmpty && line.all (fun c => c.isDigit || c == '.') then
    some (String.ofList line)
  else none

/-- `/^(over|under)\s+([\d.]+)$/`, with the side in capital letters. -/
def overUnder (label : String) : Option (String × String) :=
  if startsWith label "over" then
    (lineOf (label.toList.drop 4)).map fun line => ("OU_" ++ line, "OVER")
  else if startsWith label "under" then
    (lineOf (label.toList.drop 5)).map fun line => ("OU_" ++ line, "UNDER")
  else none

/-- `mapBetValueToMarket`: the market and the outcome. -/
def mapBetValueToMarket (betName valueLabel : String) : Option (String × String) :=
  let name := rt.lower betName
  let label := trimmed (rt.lower valueLabel)
  if hasPart name "match winner" || name == "1x2" then
    if label = "home" then some ("1X2", "HOME")
    else if label = "draw" then some ("1X2", "DRAW")
    else if label = "away" then some ("1X2", "AWAY")
    else none
  else if hasPart name "both teams score" then
    if label = "yes" then some ("BTTS", "YES")
    else if label = "no" then some ("BTTS", "NO")
    else none
  else if hasPart name "over/under" then overUnder label
  else none

/-- A value of a bet, where its market is recognised and its odd is one. -/
def betOutcome (betName : String) (value : JsValue) : Option OddsOutcome := do
  let (marketType, outcome) ←
    mapBetValueToMarket rt betName (rt.text ((value.get "value").orElse (.str "")))
  let oddValue ← toNumber rt.number (value.get "odd")
  let _ ← impliedProbability oddValue
  return ⟨outcome, marketType, outcome, oddValue, !isSuspended rt (value.get "suspended")⟩

/-- The outcomes of the bets, in their order. -/
def betOutcomes (bets : List JsValue) : List OddsOutcome :=
  bets.flatMap fun bet =>
    (bet.get "values").items.filterMap
      (betOutcome rt (rt.text ((bet.get "name").orElse (.str ""))))

/-- `groupBetsByMarket`. -/
def groupBetsByMarket (bets : List JsValue) : List (String × List OddsOutcome) :=
  groupBy (·.marketKey) (betOutcomes rt bets)

/-- The groups of a bookmaker, where it has a number and a name. -/
def bookmakerGroups (bookmaker : JsValue) : List MarketGroup :=
  match toNumber rt.number (bookmaker.get "id"), (bookmaker.get "name").text? with
  | some bookmakerId, some bookmakerName =>
    if bookmakerName = "" then [] else
      (groupBetsByMarket rt (bookmaker.get "bets").items).map fun (marketType, outcomes) =>
        ⟨some bookmakerId, bookmakerName, rt.text (.num bookmakerId), marketType, outcomes⟩
  | _, _ => []

/-- The calls of `buildRowsForMarketGroup` in `buildApiSportsRows`. -/
def apiSportsGroups (response : List JsValue) : List MarketGroup :=
  response.flatMap fun entry => (entry.get "bookmakers").items.flatMap (bookmakerGroups rt)

/-! ## apifootball -/

def ouLines : List String :=
  ["0.5", "1", "1.5", "2", "2.5", "3", "3.5", "4", "4.5", "5", "5.5"]

def ahLines : List String :=
  ["-4.5", "-4", "-3.5", "-3", "-2.5", "-2", "-1.5", "-1", "0", "+0.5", "+1", "+1.5", "+2", "+2.5",
    "+3", "+3.5", "+4", "+4.5"]

/-- The market, the outcome and the field of every `push`, in their order. -/
def apifootballFields : List (String × String × String) :=
  [("1X2", "HOME", "odd_1"), ("1X2", "DRAW", "odd_x"), ("1X2", "AWAY", "odd_2"),
    ("DOUBLE_CHANCE", "HOME_DRAW", "odd_1x"), ("DOUBLE_CHANCE", "HOME_AWAY", "odd_12"),
    ("DOUBLE_CHANCE", "DRAW_AWAY", "odd_x2")] ++
  (ouLines.flatMap fun line =>
    [("OU_" ++ line, "OVER", "o+" ++ line), ("OU_" ++ line, "UNDER", "u+" ++ line)]) ++
  (ahLines.flatMap fun line =>
    [("AH_" ++ line, "HOME", "ah" ++ line ++ "_1"), ("AH_" ++ line, "AWAY", "ah" ++ line ++ "_2")]) ++
  [("BTTS", "YES", "bts_yes"), ("BTTS", "NO", "bts_no")]

/-- An outcome of `mapApifootballOddsEntry`, completed as `buildApifootballRows` does. -/
def apifootballOutcome (entry : JsValue) (field : String × String × String) :
    Option OddsOutcome := do
  let oddValue ← toNumber rt.number (entry.get field.2.2)
  let _ ← impliedProbability oddValue
  return ⟨field.2.1, field.1, field.2.1, oddValue, true⟩

/-- `mapApifootballOddsEntry`. -/
def mapApifootballOddsEntry (entry : JsValue) : List (String × List OddsOutcome) :=
  groupBy (·.marketKey) (apifootballFields.filterMap (apifootballOutcome rt entry))

/-- `bookmakerNameOf`. -/
def bookmakerNameOf (entry : JsValue) : Option String :=
  ["odd_bookmakers", "bookmaker_name", "bookmaker", "bookmakerName"].findSome? fun key =>
    match entry.get key with
    | .str value => if trimmed value = "" then none else some (trimmed value)
    | _ => none

/-- The side that the name of a live odd begins with. -/
def liveSide (name : String) : Option String :=
  if startsWith name "Home" then some "HOME"
  else if startsWith name "Away" then some "AWAY"
  else none

/-- `liveMarketIdentity`: the market and the selection. -/
def liveMarketIdentity (odd : JsValue) : Option (String × String) :=
  let name := trimmed (rt.text ((odd.get "odd_name").orElse (.str "")))
  let type := rt.lower (trimmed (rt.text ((odd.get "type").orElse (.str ""))))
  let handicap := trimmed (rt.text ((odd.get "handicap").orElse (.str "")))
  (liveSide name).bind fun side =>
    if endsWith name "Team Score a Goal (1st Half)" && type == "yes" then
      some ("TEAM_GOAL_1H", side ++ "_YES")
    else if endsWith name "Team Score a Goal (2nd Half)" && type == "yes" then
      some ("TEAM_GOAL_2H", side ++ "_YES")
    else if endsWith name "Team Goals" && type == "over" && handicap == "0.5" then
      some ("TEAM_GOALS_FT", side ++ "_OVER_0.5")
    else none

/-- A live odd, with its bookmaker. -/
def liveOutcome (parentBookmaker : Option String) (odd : JsValue) :
    Option (String × OddsOutcome) := do
  let bookmakerName ← (bookmakerNameOf odd).or parentBookmaker
  let oddValue ← toNumber rt.number ((odd.get "value").orElse (odd.get "odd"))
  let _ ← impliedProbability oddValue
  let (marketKey, selectionKey) ← liveMarketIdentity rt odd
  return (bookmakerName,
    ⟨selectionKey, marketKey, selectionKey, oddValue, !isSuspended rt (odd.get "suspended")⟩)

/-- To read a field of `null` throws. -/
def JsValue.readable : JsValue → Bool
  | .undefined | .null => false
  | _ => true

/-- `mapApifootballLiveOddsEntry`; `none` is its exception. -/
def mapApifootballLiveOddsEntry (entry : JsValue) : Option (List (String × OddsOutcome)) :=
  if !entry.readable then none
  else
    let nested := match entry.get "live_odds" with
      | .arr odds => odds
      | _ => [entry]
    if nested.all (·.readable) then
      some (nested.filterMap (liveOutcome rt (bookmakerNameOf entry)))
    else none

/-- `[a-z0-9]`. -/
def keyLetter (c : Char) : Bool := ('a' ≤ c && c ≤ 'z') || c.isDigit

/-- `replace(/[^a-z0-9]+/g, '-')`, after a letter or after a dash. -/
def dashed : Bool → List Char → List Char
  | _, [] => []
  | afterDash, c :: rest =>
    if keyLetter c then c :: dashed false rest
    else if afterDash then dashed true rest
    else '-' :: dashed true rest

/-- `bookmakerKey`. -/
def bookmakerKey (bookmakerName : String) : String :=
  let key := dashed false (rt.lower (trimmed bookmakerName)).toList
  let key := if key.head? = some '-' then key.tail else key
  String.ofList (if key.getLast? = some '-' then key.dropLast else key)

/-- The calls of `buildRowsForMarketGroup` for an entry in `buildApifootballRows`. -/
def apifootballEntryGroups (entry : JsValue) : Option (List MarketGroup) := do
  let live ← mapApifootballLiveOddsEntry rt entry
  if !live.isEmpty then
    return (groupBy (fun l => l.1 ++ "|" ++ l.2.marketKey) live).filterMap fun (_, group) =>
      group.head?.map fun first =>
        ⟨none, first.1, bookmakerKey rt first.1, first.2.marketKey, group.map (·.2)⟩
  match (entry.get "odd_bookmakers").text? with
  | some bookmakerName =>
    if bookmakerName = "" then return [] else
      return (mapApifootballOddsEntry rt entry).map fun (marketType, outcomes) =>
        ⟨none, bookmakerName, bookmakerKey rt bookmakerName, marketType, outcomes⟩
  | none => return []

/-- The calls of `buildRowsForMarketGroup` for a response; an exception leaves nothing stored. -/
def marketGroups (providerKey : String) (response : List JsValue) : Option (List MarketGroup) :=
  if providerKey = "apifootball" then
    (response.mapM (apifootballEntryGroups rt)).map List.flatten
  else some (apiSportsGroups rt response)

/-- The rows of a response. -/
def oddsRows (source : OddsSource) (response : List JsValue) : Option (List OddsRow) :=
  (marketGroups rt source.providerKey response).map fun groups =>
    groups.flatMap (buildRowsForMarketGroup source)

end Mapping

/-! ## The probabilities without the margin -/

variable {source : OddsSource} {g : MarketGroup}

theorem impliedProbability_pos {odd : JsNumber} {p : ℚ} (h : impliedProbability odd = some p) :
    0 < p := by
  cases odd with
  | num q =>
    rw [impliedProbability] at h
    split at h
    · cases h
    · next hq =>
      cases h
      have hpos : 0 < q := zero_lt_one.trans (not_le.1 hq)
      positivity
  | inf | negInf | nan => cases h

/-- **What is left without the margin is positive and sums to one.** -/
theorem removeMargin_fair {odds : List JsNumber} (hne : odds ≠ [])
    (hodds : ∀ odd ∈ odds, (impliedProbability odd).isSome = true) :
    (∀ p ∈ (removeMargin odds).fair, 0 < p) ∧ (removeMargin odds).fair.sum = 1 := by
  have hraw : ∀ p ∈ odds.map (fun odd => (impliedProbability odd).getD 0), 0 < p := by
    intro p hp
    obtain ⟨odd, hodd, rfl⟩ := List.mem_map.1 hp
    obtain ⟨p, hp⟩ := Option.isSome_iff_exists.1 (hodds odd hodd)
    rw [hp]
    exact impliedProbability_pos hp
  have hsum : 0 < (odds.map fun odd => (impliedProbability odd).getD 0).sum :=
    List.sum_pos _ hraw (by simpa using hne)
  have hfair : (removeMargin odds).fair = (odds.map fun odd => (impliedProbability odd).getD 0).map
      (· / (odds.map fun odd => (impliedProbability odd).getD 0).sum) := if_pos hsum
  rw [hfair]
  refine ⟨fun p hp => ?_, ?_⟩
  · obtain ⟨raw, hmem, rfl⟩ := List.mem_map.1 hp
    exact div_pos (hraw raw hmem) hsum
  · simp only [div_eq_mul_inv, List.sum_map_mul_right, List.map_id']
    exact mul_inv_cancel₀ hsum.ne'

theorem length_fair (odds : List JsNumber) : (removeMargin odds).fair.length = odds.length := by
  simp only [removeMargin]
  split <;> simp only [List.length_map]

/-! ## Partitions -/

/-- The outcomes of a market that exclude each other, one of which is the case. -/
def sides (marketType : String) : List String :=
  if marketType = "1X2" then ["HOME", "DRAW", "AWAY"]
  else if marketType = "BTTS" then ["YES", "NO"]
  else if startsWith marketType "OU_" then ["OVER", "UNDER"]
  else if startsWith marketType "AH_" then ["HOME", "AWAY"]
  else []

/-- The rows of a market have each outcome once, with probabilities that sum to one. -/
structure Partitioned (marketType : String) (rows : List OddsRow) : Prop where
  outcomes : (rows.map (·.outcome)).Perm (sides marketType)
  positive : ∀ r ∈ rows, ∃ p, r.impliedProbabilityFair = some p ∧ 0 < p
  sum_one : (rows.map fun r => r.impliedProbabilityFair.getD 0).sum = 1

/-- A group names outcomes of its market only, with odds that are. -/
def MarketGroup.Sided (g : MarketGroup) : Prop :=
  ∀ o ∈ g.outcomes, o.outcome ∈ sides g.marketType ∧ (impliedProbability o.oddValue).isSome = true

theorem length_sides (marketType : String) :
    (sides marketType).length = expectedOutcomeCount marketType := by
  simp only [sides, expectedOutcomeCount]
  split_ifs <;> rfl

theorem nodup_sides (marketType : String) : (sides marketType).Nodup := by
  rw [sides]
  split_ifs <;> decide

/-- An incomplete group is not stored. -/
theorem length_of_stored (hpart : isPartitionMarket g.marketType = true)
    (hstored : buildRowsForMarketGroup source g ≠ []) :
    g.outcomes.length = expectedOutcomeCount g.marketType := by
  by_contra hlen
  rw [buildRowsForMarketGroup, hpart, Bool.not_true, if_neg Bool.false_ne_true,
    if_pos hlen] at hstored
  exact hstored rfl

variable (source) in
/-- The rows of a group of a full number. -/
theorem rows_of_full (hpart : isPartitionMarket g.marketType = true)
    (hlen : g.outcomes.length = expectedOutcomeCount g.marketType) :
    (buildRowsForMarketGroup source g).map (·.outcome) = g.outcomes.map (·.outcome) ∧
      (buildRowsForMarketGroup source g).map (·.impliedProbabilityFair) =
        (removeMargin (g.outcomes.map (·.oddValue))).fair.map some := by
  have hfair : (removeMargin (g.outcomes.map (·.oddValue))).fair.length = g.outcomes.length := by
    rw [length_fair, List.length_map]
  have hraw : (removeMargin (g.outcomes.map (·.oddValue))).raw.length = g.outcomes.length := by
    rw [removeMargin, List.length_map, List.length_map]
  have hzip : ((removeMargin (g.outcomes.map (·.oddValue))).raw.zip
      (removeMargin (g.outcomes.map (·.oddValue))).fair).length = g.outcomes.length := by
    rw [List.length_zip, hfair, hraw, Nat.min_self]
  rw [buildRowsForMarketGroup, hpart, Bool.not_true, if_neg Bool.false_ne_true,
    if_neg (not_not.2 hlen)]
  simp only [List.map_map]
  constructor
  · calc _ = ((g.outcomes.zip ((removeMargin (g.outcomes.map (·.oddValue))).raw.zip
          (removeMargin (g.outcomes.map (·.oddValue))).fair)).map Prod.fst).map (·.outcome) := by
          rw [List.map_map]; rfl
      _ = g.outcomes.map (·.outcome) := by rw [List.map_fst_zip hzip.ge]
  · calc _ = (((g.outcomes.zip ((removeMargin (g.outcomes.map (·.oddValue))).raw.zip
          (removeMargin (g.outcomes.map (·.oddValue))).fair)).map Prod.snd).map Prod.snd).map
            some := by
          rw [List.map_map, List.map_map]; rfl
      _ = _ := by rw [List.map_snd_zip hzip.le, List.map_snd_zip (hfair.trans hraw.symm).le]

/-- **A group that is stored is a partition exactly when it repeats no outcome.** -/
theorem partitioned_iff (hsided : g.Sided) (hpart : isPartitionMarket g.marketType = true)
    (hstored : buildRowsForMarketGroup source g ≠ []) :
    Partitioned g.marketType (buildRowsForMarketGroup source g) ↔
      (g.outcomes.map (·.outcome)).Nodup := by
  have hlen := length_of_stored hpart hstored
  obtain ⟨houtcomes, hfair⟩ := rows_of_full source hpart hlen
  constructor
  · intro h
    rw [← houtcomes]
    exact h.outcomes.nodup_iff.2 (nodup_sides _)
  · intro hnodup
    have hne : g.outcomes.map (·.oddValue) ≠ [] := by
      intro hnil
      rw [List.map_eq_nil_iff] at hnil
      rw [hnil] at houtcomes
      exact hstored (List.map_eq_nil_iff.1 houtcomes)
    obtain ⟨hpos, hsum⟩ := removeMargin_fair hne (by
      intro odd hodd
      obtain ⟨o, ho, rfl⟩ := List.mem_map.1 hodd
      exact (hsided o ho).2)
    constructor
    · rw [houtcomes]
      have hsub : (g.outcomes.map (·.outcome)).Subperm (sides g.marketType) :=
        hnodup.subperm fun side hside => by
          obtain ⟨o, ho, rfl⟩ := List.mem_map.1 hside
          exact (hsided o ho).1
      refine hsub.perm_of_length_le ?_
      rw [length_sides, List.length_map, hlen]
    · intro r hr
      have hmem := List.mem_map_of_mem (f := (·.impliedProbabilityFair)) hr
      rw [hfair] at hmem
      obtain ⟨p, hp, heq⟩ := List.mem_map.1 hmem
      exact ⟨p, heq.symm, hpos p hp⟩
    · have hmap : (buildRowsForMarketGroup source g).map (fun r => r.impliedProbabilityFair.getD 0) =
          ((buildRowsForMarketGroup source g).map (·.impliedProbabilityFair)).map (·.getD 0) := by
        rw [List.map_map]; rfl
      rw [hmap, hfair, List.map_map]
      exact (congrArg List.sum (List.map_id _)).trans hsum

/-! ## The groups of api-sports -/

/-- A text that begins so has that first letter. -/
theorem head?_of_startsWith {text start : String} {c : Char} (h : startsWith text start = true)
    (hc : start.toList.head? = some c) : text.toList.head? = some c := by
  rw [startsWith, List.isPrefixOf_iff_prefix] at h
  obtain ⟨rest, htext⟩ := h
  rw [← htext, List.head?_append, hc]
  rfl

theorem startsWith_append (start rest : String) : startsWith (start ++ rest) start = true := by
  rw [startsWith, String.toList_append, List.isPrefixOf_iff_prefix]
  exact List.prefix_append _ _

theorem sides_of_ou {marketType : String} (h : startsWith marketType "OU_" = true) :
    sides marketType = ["OVER", "UNDER"] := by
  rw [sides, if_neg, if_neg, if_pos h]
  · rintro rfl
    exact absurd h (by decide)
  · rintro rfl
    exact absurd h (by decide)

/-- A market whose outcomes exclude each other is treated so. -/
theorem isPartitionMarket_of_mem {marketType side : String} (h : side ∈ sides marketType) :
    isPartitionMarket marketType = true := by
  have hletter : ∀ c, marketType.toList.head? = some c → c ≠ 'D' → c ≠ 'T' →
      isPartitionMarket marketType = true := by
    intro c hc hd ht
    rw [isPartitionMarket, Bool.and_eq_true, bne_iff_ne, Bool.not_eq_true', ← Bool.not_eq_true]
    constructor
    · rintro rfl
      exact hd (Option.some.inj hc).symm
    · intro hteam
      exact ht (Option.some.inj (hc.symm.trans (head?_of_startsWith hteam rfl)))
  rw [sides] at h
  split_ifs at h with h1 h2 h3 h4
  · rw [h1]; decide
  · rw [h2]; decide
  · exact hletter 'O' (head?_of_startsWith h3 rfl) (by decide) (by decide)
  · exact hletter 'A' (head?_of_startsWith h4 rfl) (by decide) (by decide)
  · cases h

section Providers

variable {rt : OddsRuntime}

theorem overUnder_sided {label marketType outcome : String}
    (h : overUnder label = some (marketType, outcome)) : outcome ∈ sides marketType := by
  rw [overUnder] at h
  split_ifs at h
  · obtain ⟨line, -, heq⟩ := Option.map_eq_some_iff.1 h
    cases heq
    rw [sides_of_ou (startsWith_append _ _)]
    decide
  · obtain ⟨line, -, heq⟩ := Option.map_eq_some_iff.1 h
    cases heq
    rw [sides_of_ou (startsWith_append _ _)]
    decide

/-- A label is read as an outcome of its market. -/
theorem mapBetValueToMarket_sided {betName valueLabel marketType outcome : String}
    (h : mapBetValueToMarket rt betName valueLabel = some (marketType, outcome)) :
    outcome ∈ sides marketType := by
  simp only [mapBetValueToMarket] at h
  split_ifs at h
  -- the outcomes by their names, then the lines
  · cases h; decide
  · cases h; decide
  · cases h; decide
  · cases h; decide
  · cases h; decide
  · exact overUnder_sided h

theorem betOutcome_sided {betName : String} {value : JsValue} {o : OddsOutcome}
    (h : betOutcome rt betName value = some o) :
    o.outcome ∈ sides o.marketKey ∧ (impliedProbability o.oddValue).isSome = true := by
  simp only [betOutcome, Option.bind_eq_bind, Option.bind_eq_some_iff] at h
  obtain ⟨⟨marketType, outcome⟩, hmapped, odd, -, p, hp, ho⟩ := h
  cases ho
  exact ⟨mapBetValueToMarket_sided hmapped, by rw [hp]; rfl⟩

theorem betOutcomes_sided {bets : List JsValue} {o : OddsOutcome} (h : o ∈ betOutcomes rt bets) :
    o.outcome ∈ sides o.marketKey ∧ (impliedProbability o.oddValue).isSome = true := by
  obtain ⟨bet, -, ho⟩ := List.mem_flatMap.1 h
  obtain ⟨value, -, ho⟩ := List.mem_filterMap.1 ho
  exact betOutcome_sided ho

/-- A bookmaker whose bets are read. -/
def NamedBookmaker (rt : OddsRuntime) (bookmaker : JsValue) : Prop :=
  (toNumber rt.number (bookmaker.get "id")).isSome = true ∧
    ∃ name, (bookmaker.get "name").text? = some name ∧ name ≠ ""

/-- The values of a bookmaker for a market. -/
def marketValues (rt : OddsRuntime) (bookmaker : JsValue) (marketType : String) :
    List OddsOutcome :=
  (betOutcomes rt (bookmaker.get "bets").items).filter (·.marketKey == marketType)

/-- The groups of a bookmaker: for each market of its bets, the values there are. -/
theorem mem_bookmakerGroups {bookmaker : JsValue} (h : g ∈ bookmakerGroups rt bookmaker) :
    NamedBookmaker rt bookmaker ∧ g.outcomes = marketValues rt bookmaker g.marketType := by
  rw [bookmakerGroups] at h
  split at h
  · next id name hid hname =>
    split_ifs at h with hempty
    · cases h
    · obtain ⟨⟨marketType, outcomes⟩, hgroup, rfl⟩ := List.mem_map.1 h
      refine ⟨⟨by rw [hid]; rfl, name, hname, hempty⟩, ?_⟩
      exact (mem_groupBy.1 hgroup).2
  · cases h

theorem exists_bookmakerGroup {bookmaker : JsValue} {marketType : String}
    (hnamed : NamedBookmaker rt bookmaker) (hne : marketValues rt bookmaker marketType ≠ []) :
    ∃ g ∈ bookmakerGroups rt bookmaker,
      g.marketType = marketType ∧ g.outcomes = marketValues rt bookmaker marketType := by
  obtain ⟨hid, name, hname, hempty⟩ := hnamed
  obtain ⟨id, hid⟩ := Option.isSome_iff_exists.1 hid
  obtain ⟨o, ho⟩ := List.exists_mem_of_ne_nil _ hne
  obtain ⟨ho, hkey⟩ := List.mem_filter.1 ho
  rw [bookmakerGroups, hid, hname]
  simp only [if_neg hempty]
  refine ⟨_, List.mem_map.2 ⟨(marketType, marketValues rt bookmaker marketType), ?_, rfl⟩, rfl, rfl⟩
  exact mem_groupBy.2 ⟨⟨o, ho, beq_iff_eq.1 hkey⟩, rfl⟩

theorem sided_of_values {bookmaker : JsValue}
    (h : g.outcomes = marketValues rt bookmaker g.marketType) : g.Sided := by
  intro o ho
  rw [h] at ho
  obtain ⟨ho, hkey⟩ := List.mem_filter.1 ho
  have hsided := betOutcomes_sided ho
  rwa [beq_iff_eq.1 hkey] at hsided

/-- **The groups of a bookmaker are stored as partitions exactly when none of a full number repeats
an outcome.** -/
theorem bookmakerGroups_partition_iff (source : OddsSource) {bookmaker : JsValue} :
    (∀ g ∈ bookmakerGroups rt bookmaker, isPartitionMarket g.marketType = true →
      buildRowsForMarketGroup source g ≠ [] →
      Partitioned g.marketType (buildRowsForMarketGroup source g)) ↔
    (NamedBookmaker rt bookmaker → ∀ marketType,
      (marketValues rt bookmaker marketType).length = expectedOutcomeCount marketType →
      ((marketValues rt bookmaker marketType).map (·.outcome)).Nodup) := by
  constructor
  · intro h hnamed marketType hlen
    by_cases hne : marketValues rt bookmaker marketType = []
    · rw [hne]
      exact List.nodup_nil
    · obtain ⟨g, hg, rfl, houtcomes⟩ := exists_bookmakerGroup hnamed hne
      have hsided := sided_of_values houtcomes
      obtain ⟨o, ho⟩ := List.exists_mem_of_ne_nil _ (houtcomes ▸ hne)
      have hpart := isPartitionMarket_of_mem (hsided o ho).1
      rw [← houtcomes] at hlen ⊢
      have hstored : buildRowsForMarketGroup source g ≠ [] := by
        intro hnil
        have hrows := (rows_of_full source hpart hlen).1
        rw [hnil, List.map_nil, eq_comm, List.map_eq_nil_iff] at hrows
        rw [hrows] at ho
        cases ho
      exact (partitioned_iff hsided hpart hstored).1 (h g hg hpart hstored)
  · intro h g hg hpart hstored
    obtain ⟨hnamed, houtcomes⟩ := mem_bookmakerGroups hg
    rw [partitioned_iff (sided_of_values houtcomes) hpart hstored, houtcomes]
    refine h hnamed g.marketType ?_
    rw [← houtcomes]
    exact length_of_stored hpart hstored

/-! ## The groups of apifootball -/

/-- The fields of an entry are those of different outcomes. -/
theorem apifootballFields_distinct :
    apifootballFields.Pairwise fun a b => a.1 = b.1 → a.2.1 ≠ b.2.1 := by
  decide +kernel

theorem apifootballFields_sided : ∀ field ∈ apifootballFields,
    isPartitionMarket field.1 = true → field.2.1 ∈ sides field.1 := by
  decide +kernel

theorem apifootballOutcome_spec {entry : JsValue} {field : String × String × String}
    {o : OddsOutcome} (h : apifootballOutcome rt entry field = some o) :
    o.marketKey = field.1 ∧ o.outcome = field.2.1 ∧
      (impliedProbability o.oddValue).isSome = true := by
  simp only [apifootballOutcome, Option.bind_eq_bind, Option.bind_eq_some_iff] at h
  obtain ⟨odd, -, p, hp, ho⟩ := h
  cases ho
  exact ⟨rfl, rfl, by rw [hp]; rfl⟩

/-- A group of an entry names the outcomes of its market, each once. -/
theorem mem_mapApifootballOddsEntry {entry : JsValue} {marketType : String}
    {outcomes : List OddsOutcome}
    (h : (marketType, outcomes) ∈ mapApifootballOddsEntry rt entry)
    (hpart : isPartitionMarket marketType = true) :
    (∀ o ∈ outcomes, o.outcome ∈ sides marketType ∧
      (impliedProbability o.oddValue).isSome = true) ∧ (outcomes.map (·.outcome)).Nodup := by
  obtain ⟨-, rfl⟩ := mem_groupBy.1 h
  constructor
  · intro o ho
    obtain ⟨ho, hkey⟩ := List.mem_filter.1 ho
    obtain ⟨field, hfield, ho⟩ := List.mem_filterMap.1 ho
    obtain ⟨hmarket, houtcome, hodd⟩ := apifootballOutcome_spec ho
    rw [beq_iff_eq.1 hkey] at hmarket
    rw [houtcome, hmarket]
    exact ⟨apifootballFields_sided field hfield (hmarket ▸ hpart), hodd⟩
  · have hdistinct : (apifootballFields.filterMap (apifootballOutcome rt entry)).Pairwise
        fun a b => a.marketKey = b.marketKey → a.outcome ≠ b.outcome := by
      rw [List.pairwise_filterMap]
      refine apifootballFields_distinct.imp fun hne a ha b hb => ?_
      obtain ⟨hma, hoa, -⟩ := apifootballOutcome_spec ha
      obtain ⟨hmb, hob, -⟩ := apifootballOutcome_spec hb
      rwa [hma, hmb, hoa, hob]
    rw [List.Nodup, List.pairwise_map]
    refine (hdistinct.filter _).imp_of_mem fun ha hb hne => hne ?_
    exact (beq_iff_eq.1 (List.mem_filter.1 ha).2).trans (beq_iff_eq.1 (List.mem_filter.1 hb).2).symm

/-- No live market is one whose outcomes exclude each other. -/
theorem liveMarketIdentity_part {odd : JsValue} {marketKey selectionKey : String}
    (h : liveMarketIdentity rt odd = some (marketKey, selectionKey)) :
    isPartitionMarket marketKey = false := by
  simp only [liveMarketIdentity, Option.bind_eq_some_iff] at h
  obtain ⟨side, -, h⟩ := h
  split_ifs at h
  · cases h; decide
  · cases h; decide
  · cases h; decide

theorem liveOutcome_part {parent : Option String} {odd : JsValue} {l : String × OddsOutcome}
    (h : liveOutcome rt parent odd = some l) : isPartitionMarket l.2.marketKey = false := by
  simp only [liveOutcome, Option.bind_eq_bind, Option.bind_eq_some_iff] at h
  obtain ⟨name, -, odd, -, p, -, ⟨marketKey, selectionKey⟩, hmarket, hl⟩ := h
  cases hl
  exact liveMarketIdentity_part hmarket

theorem mem_mapApifootballLiveOddsEntry {entry : JsValue} {live : List (String × OddsOutcome)}
    {l : String × OddsOutcome} (h : mapApifootballLiveOddsEntry rt entry = some live)
    (hl : l ∈ live) : isPartitionMarket l.2.marketKey = false := by
  simp only [mapApifootballLiveOddsEntry] at h
  split_ifs at h
  cases h
  obtain ⟨odd, -, hodd⟩ := List.mem_filterMap.1 hl
  exact liveOutcome_part hodd

/-- The groups of an entry: those of its live odds, or those of its fields. -/
theorem mem_apifootballEntryGroups {entry : JsValue} {groups : List MarketGroup}
    (h : apifootballEntryGroups rt entry = some groups) (hg : g ∈ groups)
    (hpart : isPartitionMarket g.marketType = true) :
    g.Sided ∧ (g.outcomes.map (·.outcome)).Nodup := by
  simp only [apifootballEntryGroups, Option.bind_eq_bind, Option.bind_eq_some_iff] at h
  obtain ⟨live, hlive, h⟩ := h
  split_ifs at h with hsome
  · cases h
    obtain ⟨⟨key, group⟩, hgroup, hfirst⟩ := List.mem_filterMap.1 hg
    obtain ⟨first, hhead, rfl⟩ := Option.map_eq_some_iff.1 hfirst
    obtain ⟨-, rfl⟩ := mem_groupBy.1 hgroup
    have hmem := List.mem_of_mem_filter (List.mem_of_head? hhead)
    rw [mem_mapApifootballLiveOddsEntry hlive hmem] at hpart
    cases hpart
  · split at h
    · next name hname =>
      split_ifs at h
      · cases h
        cases hg
      · cases h
        obtain ⟨⟨marketType, outcomes⟩, hgroup, rfl⟩ := List.mem_map.1 hg
        exact mem_mapApifootballOddsEntry hgroup hpart
    · cases h
      cases hg

theorem mem_of_mapM {α β : Type} {f : α → Option β} {l : List α} {bs : List β} {b : β}
    (h : l.mapM f = some bs) (hb : b ∈ bs) : ∃ a ∈ l, f a = some b := by
  induction l generalizing bs with
  | nil =>
    cases h
    cases hb
  | cons a l ih =>
    simp only [List.mapM_cons, Option.bind_eq_bind, Option.bind_eq_some_iff] at h
    obtain ⟨b', hb', bs', hbs', h⟩ := h
    cases h
    rcases List.mem_cons.1 hb with rfl | hb
    · exact ⟨a, List.mem_cons_self, hb'⟩
    · obtain ⟨a', ha', heq⟩ := ih hbs' hb
      exact ⟨a', List.mem_cons_of_mem _ ha', heq⟩

/-- **The entries of apifootball name each outcome once.** -/
theorem apifootballGroups_partition (source : OddsSource) {response : List JsValue}
    {groups : List MarketGroup} (h : marketGroups rt "apifootball" response = some groups)
    (hg : g ∈ groups) (hpart : isPartitionMarket g.marketType = true)
    (hstored : buildRowsForMarketGroup source g ≠ []) :
    Partitioned g.marketType (buildRowsForMarketGroup source g) := by
  rw [marketGroups, if_pos rfl, Option.map_eq_some_iff] at h
  obtain ⟨entries, hentries, rfl⟩ := h
  obtain ⟨entryGroups, hentry, hg⟩ := List.mem_flatten.1 hg
  obtain ⟨entry, -, hentry⟩ := mem_of_mapM hentries hentry
  obtain ⟨hsided, hnodup⟩ := mem_apifootballEntryGroups hentry hg hpart
  exact (partitioned_iff hsided hpart hstored).2 hnodup

/-! ## A response -/

/-- **A response is stored as partitions exactly when no group of a full number repeats an
outcome**: the groups of the bookmakers of api-sports, since those of apifootball never do. -/
theorem storedGroups_partition_iff (rt : OddsRuntime) (source : OddsSource)
    (response : List JsValue) :
    (∀ groups, marketGroups rt source.providerKey response = some groups → ∀ g ∈ groups,
      isPartitionMarket g.marketType = true → buildRowsForMarketGroup source g ≠ [] →
      Partitioned g.marketType (buildRowsForMarketGroup source g)) ↔
    (source.providerKey ≠ "apifootball" → ∀ entry ∈ response,
      ∀ bookmaker ∈ (entry.get "bookmakers").items, NamedBookmaker rt bookmaker → ∀ marketType,
      (marketValues rt bookmaker marketType).length = expectedOutcomeCount marketType →
      ((marketValues rt bookmaker marketType).map (·.outcome)).Nodup) := by
  by_cases hprovider : source.providerKey = "apifootball"
  · refine iff_of_true (fun groups h g hg hpart hstored => ?_) fun h => absurd hprovider h
    rw [hprovider] at h
    exact apifootballGroups_partition source h hg hpart hstored
  · rw [marketGroups, if_neg hprovider]
    constructor
    · intro h _ entry hentry bookmaker hbookmaker
      refine (bookmakerGroups_partition_iff source).1 fun g hg => h _ rfl g ?_
      exact List.mem_flatMap.2 ⟨entry, hentry, List.mem_flatMap.2 ⟨bookmaker, hbookmaker, hg⟩⟩
    · rintro h _ ⟨⟩ g hg
      have h := h hprovider
      obtain ⟨entry, hentry, hg⟩ := List.mem_flatMap.1 hg
      obtain ⟨bookmaker, hbookmaker, hg⟩ := List.mem_flatMap.1 hg
      exact (bookmakerGroups_partition_iff source).2 (h entry hentry bookmaker hbookmaker) g hg

end Providers

namespace Sample

/-- The library of the language, on the texts of the response. -/
def oddsRuntime : OddsRuntime where
  number
    | .num n => n
    | .str "1.90" => .num (19 / 10)
    | .str "4.50" => .num (9 / 2)
    | _ => .nan
  text
    | .str text => text
    | _ => "8"
  lower text := String.ofList (text.toList.map Char.toLower)

/-- A bet with one value. -/
def lonelyBet (name label odd : String) : JsValue :=
  .obj [("name", .str name),
    ("values", .arr [.obj [("value", .str label), ("odd", .str odd)]])]

/-- The goals of the match and those of its first half, of which the bookmaker gives one side. -/
def twoOverUnders : List JsValue :=
  [.obj [("bookmakers", .arr [.obj [("id", .num (.num 8)), ("name", .str "Bet365"),
    ("bets", .arr [lonelyBet "Goals Over/Under" "Over 2.5" "1.90",
      lonelyBet "Goals Over/Under First Half" "Over 2.5" "4.50"])]])]]

def oddsSource : OddsSource := ⟨"fixture", "1001", "api-sports", .prematch, 1000⟩

/-- The group that the two bets make. -/
def mergedGroup : MarketGroup :=
  ⟨some (.num 8), "Bet365", "8", "OU_2.5",
    [⟨"OVER", "OU_2.5", "OVER", .num (19 / 10), true⟩,
      ⟨"OVER", "OU_2.5", "OVER", .num (9 / 2), true⟩]⟩

end Sample

/-- **Two bets of one side each are stored as a market**, whose probabilities sum to one without the
other side. -/
theorem storedGroups_repeats : ¬ ∀ groups,
    marketGroups Sample.oddsRuntime Sample.oddsSource.providerKey Sample.twoOverUnders = some groups →
      ∀ g ∈ groups, isPartitionMarket g.marketType = true →
        buildRowsForMarketGroup Sample.oddsSource g ≠ [] →
        Partitioned g.marketType (buildRowsForMarketGroup Sample.oddsSource g) := by
  intro h
  have hgroups : marketGroups Sample.oddsRuntime Sample.oddsSource.providerKey Sample.twoOverUnders =
      some [Sample.mergedGroup] := by decide +kernel
  have hlen : (buildRowsForMarketGroup Sample.oddsSource Sample.mergedGroup).length = 2 := by
    decide +kernel
  have hstored : buildRowsForMarketGroup Sample.oddsSource Sample.mergedGroup ≠ [] := by
    intro hnil
    rw [hnil] at hlen
    cases hlen
  have hpart := h _ hgroups Sample.mergedGroup (List.mem_singleton_self _) (by decide +kernel) hstored
  have houtcomes : (buildRowsForMarketGroup Sample.oddsSource Sample.mergedGroup).map (·.outcome) =
      ["OVER", "OVER"] := by decide +kernel
  have hperm := hpart.outcomes
  rw [houtcomes] at hperm
  exact absurd hperm (by decide +kernel)

end ApiScore
