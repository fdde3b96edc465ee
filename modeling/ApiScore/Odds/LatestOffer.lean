import ApiScore.Lib.Alone
import ApiScore.Lib.Trace
import ApiScore.Odds.Ingestion
import ApiScore.Odds.QuoteWindows

/-!
# A quote is the latest offer

What a bet can be executed at, and what the provider has said.  The provider answers in its own words:
an entry for a bookmaker or for the match, with live odds whose names tell the team and the market.

* `LivePrice` — a live odd offers a goal of a team at a price.
* `offered_iff` — the rows of an answer that offer a bet of the rules are its live prices.
* `OddsSound` — the table has the rows of the answers that were stored, and no others.
* `latest_offer` — the quote of a bet of the rules is the latest offer there was.
-/

set_option autoImplicit false

namespace ApiScore

open Concurrent Relational Grouping

/-! ## What an answer offers -/

/-- A text of a live odd. -/
def liveText (rt : OddsRuntime) (odd : JsValue) (field : String) : String :=
  trimmed (rt.text ((odd.get field).orElse (.str "")))

/-- The words of the provider for a goal: the end of the name, the type, and the line if there is one. -/
structure GoalWords where
  label : String
  type : String
  handicap : Option String

def goalWords (marketType : String) : Option GoalWords :=
  if marketType = "Buts 1ère mi-temps" then some ⟨"Team Score a Goal (1st Half)", "yes", none⟩
  else if marketType = "Buts 2ème mi-temps" then some ⟨"Team Score a Goal (2nd Half)", "yes", none⟩
  else if marketType = "Buts match" then some ⟨"Team Goals", "over", some "0.5"⟩
  else none

/-- A live odd is on a goal of this team in this market. -/
structure OnGoal (rt : OddsRuntime) (marketType : String) (isHomeTeam : Bool) (odd : JsValue) : Prop where
  side : startsWith (liveText rt odd "odd_name") (if isHomeTeam then "Home" else "Away") = true
  words : ∃ words, goalWords marketType = some words ∧
    endsWith (liveText rt odd "odd_name") words.label = true ∧
      rt.lower (liveText rt odd "type") = words.type ∧
        words.handicap.all (liveText rt odd "handicap" == ·) = true

/-- The live odds of an entry. -/
def liveOddsOf (entry : JsValue) : List JsValue :=
  match entry.get "live_odds" with
  | .arr odds => odds
  | _ => [entry]

/-- A live odd of an entry offers a goal of this team at a price. -/
structure LivePrice (rt : OddsRuntime) (entry odd : JsValue) (marketType : String) (isHomeTeam : Bool)
    (bookmaker : String) (price : ℚ) : Prop where
  goal : OnGoal rt marketType isHomeTeam odd
  bookmaker : (bookmakerNameOf odd).or (bookmakerNameOf entry) = some bookmaker
  value : toNumber rt.number ((odd.get "value").orElse (odd.get "odd")) = some (.num price)
  above : 1 < price
  unsuspended : isSuspended rt (odd.get "suspended") = false

/-- An answer offers a goal of this team, under the key of a bookmaker. -/
def Offers (rt : OddsRuntime) (response : List JsValue) (marketType : String) (isHomeTeam : Bool)
    (bookmaker : String) (price : ℚ) : Prop :=
  ∃ entry ∈ response, ∃ odd ∈ liveOddsOf entry, ∃ name,
    LivePrice rt entry odd marketType isHomeTeam name price ∧ bookmakerKey rt name = bookmaker

/-! ## The words -/

/-- The markets of a goal. -/
def goalMarkets : List String := ["TEAM_GOAL_1H", "TEAM_GOAL_2H", "TEAM_GOALS_FT"]

section Words

variable {rt : OddsRuntime} {odd : JsValue} {marketType providerFixtureId : String} {isHomeTeam : Bool}
  {target : ExecutableQuoteTarget}

theorem not_partition_of_goal {marketKey : String} (h : marketKey ∈ goalMarkets) :
    isPartitionMarket marketKey = false := by
  revert marketKey
  decide +kernel

/-- Of two ends of a text, the shorter one is an end of the longer. -/
theorem endsWith_of_endsWith {text short long : String} (hshort : endsWith text short = true)
    (hlong : endsWith text long = true) (hle : short.toList.length ≤ long.toList.length) :
    endsWith long short = true := by
  rw [endsWith, List.isSuffixOf_iff_suffix] at *
  exact List.suffix_of_suffix_length_le hshort hlong hle

theorem startsWith_of_startsWith {text short long : String} (hshort : startsWith text short = true)
    (hlong : startsWith text long = true) (hle : short.toList.length ≤ long.toList.length) :
    startsWith long short = true := by
  rw [startsWith, List.isPrefixOf_iff_prefix] at *
  exact List.prefix_of_prefix_length_le hshort hlong hle

theorem liveSide_eq_some {name side : String} : liveSide name = some side ↔
    side = "HOME" ∧ startsWith name "Home" = true ∨ side = "AWAY" ∧ startsWith name "Away" = true := by
  have hnot : startsWith name "Home" = true → ¬ startsWith name "Away" = true := fun hhome haway =>
    absurd (startsWith_of_startsWith hhome haway (by decide)) (by decide)
  rw [liveSide]
  split_ifs with hhome haway
  · simp [hhome, hnot hhome, eq_comm]
  · simp [hhome, haway, eq_comm]
  · simp [hhome, haway]

/-- What a live odd is on, by its words. -/
theorem liveMarketIdentity_eq_some {marketKey selectionKey : String} :
    liveMarketIdentity rt odd = some (marketKey, selectionKey) ↔
      ∃ side, liveSide (liveText rt odd "odd_name") = some side ∧
        ((endsWith (liveText rt odd "odd_name") "Team Score a Goal (1st Half)" = true ∧
            rt.lower (liveText rt odd "type") = "yes" ∧
              marketKey = "TEAM_GOAL_1H" ∧ selectionKey = side ++ "_YES") ∨
          (endsWith (liveText rt odd "odd_name") "Team Score a Goal (2nd Half)" = true ∧
            rt.lower (liveText rt odd "type") = "yes" ∧
              marketKey = "TEAM_GOAL_2H" ∧ selectionKey = side ++ "_YES") ∨
          (endsWith (liveText rt odd "odd_name") "Team Goals" = true ∧
            rt.lower (liveText rt odd "type") = "over" ∧ liveText rt odd "handicap" = "0.5" ∧
              marketKey = "TEAM_GOALS_FT" ∧ selectionKey = side ++ "_OVER_0.5")) := by
  have hidentity : liveMarketIdentity rt odd = (liveSide (liveText rt odd "odd_name")).bind fun side =>
      if endsWith (liveText rt odd "odd_name") "Team Score a Goal (1st Half)" &&
          rt.lower (liveText rt odd "type") == "yes" then some ("TEAM_GOAL_1H", side ++ "_YES")
      else if endsWith (liveText rt odd "odd_name") "Team Score a Goal (2nd Half)" &&
          rt.lower (liveText rt odd "type") == "yes" then some ("TEAM_GOAL_2H", side ++ "_YES")
      else if endsWith (liveText rt odd "odd_name") "Team Goals" &&
          rt.lower (liveText rt odd "type") == "over" && liveText rt odd "handicap" == "0.5" then
        some ("TEAM_GOALS_FT", side ++ "_OVER_0.5")
      else none := rfl
  rw [hidentity, Option.bind_eq_some_iff]
  generalize liveText rt odd "odd_name" = name
  generalize rt.lower (liveText rt odd "type") = type
  generalize liveText rt odd "handicap" = handicap
  -- a name has one end
  have hhalves : endsWith name "Team Score a Goal (1st Half)" = true →
      ¬ endsWith name "Team Score a Goal (2nd Half)" = true := fun hfirst hsecond =>
    absurd (endsWith_of_endsWith hfirst hsecond (by decide)) (by decide)
  have hpair : ∀ {m s : String}, some (m, s) = some (marketKey, selectionKey) ↔
      marketKey = m ∧ selectionKey = s := by
    intro m s
    rw [Option.some.injEq, Prod.mk.injEq, eq_comm (a := m), eq_comm (a := s)]
  refine exists_congr fun side => and_congr_right fun _ => ?_
  split_ifs with hfirst hsecond hwhole
  · obtain ⟨hname, rfl⟩ : endsWith name "Team Score a Goal (1st Half)" = true ∧ type = "yes" := by
      simpa using hfirst
    rw [hpair]
    constructor
    · exact fun hkeys => .inl ⟨hname, rfl, hkeys⟩
    · rintro (⟨-, -, hkeys⟩ | ⟨hname', -⟩ | ⟨-, htype, -⟩)
      · exact hkeys
      · exact absurd hname' (hhalves hname)
      · exact absurd htype (by decide)
  · obtain ⟨hname, rfl⟩ : endsWith name "Team Score a Goal (2nd Half)" = true ∧ type = "yes" := by
      simpa using hsecond
    rw [hpair]
    constructor
    · exact fun hkeys => .inr (.inl ⟨hname, rfl, hkeys⟩)
    · rintro (⟨hname', -⟩ | ⟨-, -, hkeys⟩ | ⟨-, htype, -⟩)
      · exact absurd hname (hhalves hname')
      · exact hkeys
      · exact absurd htype (by decide)
  · obtain ⟨⟨hname, rfl⟩, rfl⟩ : (endsWith name "Team Goals" = true ∧ type = "over") ∧
        handicap = "0.5" := by
      simpa using hwhole
    rw [hpair]
    constructor
    · exact fun hkeys => .inr (.inr ⟨hname, rfl, rfl, hkeys⟩)
    · rintro (⟨-, htype, -⟩ | ⟨-, htype, -⟩ | ⟨-, -, -, hkeys⟩)
      · exact absurd htype (by decide)
      · exact absurd htype (by decide)
      · exact hkeys
  · simp only [Bool.and_eq_true, beq_iff_eq, not_and] at hfirst hsecond hwhole
    refine iff_of_false (by simp) ?_
    rintro (⟨hname, htype, -⟩ | ⟨hname, htype, -⟩ | ⟨hname, htype, hhandicap, -⟩)
    · exact absurd htype (hfirst hname)
    · exact absurd htype (hsecond hname)
    · exact absurd hhandicap (hwhole ⟨hname, htype⟩)

/-- How the bets of the rules are named. -/
theorem quoteTarget_keys (h : quoteTargetForRuleMarket providerFixtureId marketType isHomeTeam = some target) :
    marketType = "Buts 1ère mi-temps" ∧ target.marketKey = "TEAM_GOAL_1H" ∧
        target.selectionKey = (if isHomeTeam then "HOME" else "AWAY") ++ "_YES" ∨
      marketType = "Buts 2ème mi-temps" ∧ target.marketKey = "TEAM_GOAL_2H" ∧
        target.selectionKey = (if isHomeTeam then "HOME" else "AWAY") ++ "_YES" ∨
      marketType = "Buts match" ∧ target.marketKey = "TEAM_GOALS_FT" ∧
        target.selectionKey = (if isHomeTeam then "HOME" else "AWAY") ++ "_OVER_0.5" := by
  rw [quoteTargetForRuleMarket] at h
  by_cases hfirst : marketType = "Buts 1ère mi-temps"
  · rw [if_pos hfirst] at h
    exact .inl ⟨hfirst, by rw [← Option.some.inj h], by rw [← Option.some.inj h]⟩
  by_cases hsecond : marketType = "Buts 2ème mi-temps"
  · rw [if_neg hfirst, if_pos hsecond] at h
    exact .inr (.inl ⟨hsecond, by rw [← Option.some.inj h], by rw [← Option.some.inj h]⟩)
  by_cases hwhole : marketType = "Buts match"
  · rw [if_neg hfirst, if_neg hsecond, if_pos hwhole] at h
    exact .inr (.inr ⟨hwhole, by rw [← Option.some.inj h], by rw [← Option.some.inj h]⟩)
  · rw [if_neg hfirst, if_neg hsecond, if_neg hwhole] at h
    cases h

theorem goalMarket_of_target
    (h : quoteTargetForRuleMarket providerFixtureId marketType isHomeTeam = some target) :
    target.marketKey ∈ goalMarkets := by
  rcases quoteTarget_keys h with ⟨-, hmarket, -⟩ | ⟨-, hmarket, -⟩ | ⟨-, hmarket, -⟩ <;>
    simp [goalMarkets, hmarket]

/-- They are looked up at every provider and bookmaker. -/
theorem quoteTarget_anywhere
    (h : quoteTargetForRuleMarket providerFixtureId marketType isHomeTeam = some target) :
    target.providerKey = none ∧ target.bookmakerKey = none := by
  unfold quoteTargetForRuleMarket at h
  dsimp only at h
  split_ifs at h <;> rw [← Option.some.inj h] <;> exact ⟨rfl, rfl⟩

/-- **The words of a live odd tell what it is on, and nothing else.** -/
theorem onGoal_iff (h : quoteTargetForRuleMarket providerFixtureId marketType isHomeTeam = some target) :
    OnGoal rt marketType isHomeTeam odd ↔
      liveMarketIdentity rt odd = some (target.marketKey, target.selectionKey) := by
  have hside : startsWith (liveText rt odd "odd_name") (if isHomeTeam then "Home" else "Away") = true ↔
      liveSide (liveText rt odd "odd_name") = some (if isHomeTeam then "HOME" else "AWAY") := by
    rw [liveSide_eq_some]
    cases isHomeTeam <;> simp
  rw [liveMarketIdentity_eq_some]
  constructor
  · rintro ⟨hstart, words, hwords, hname, htype, hhandicap⟩
    refine ⟨_, hside.1 hstart, ?_⟩
    rcases quoteTarget_keys h with ⟨rfl, hkeys⟩ | ⟨rfl, hkeys⟩ | ⟨rfl, hkeys⟩
    · obtain rfl := Option.some.inj hwords
      exact .inl ⟨hname, htype, hkeys⟩
    · obtain rfl := Option.some.inj hwords
      exact .inr (.inl ⟨hname, htype, hkeys⟩)
    · obtain rfl := Option.some.inj hwords
      exact .inr (.inr ⟨hname, htype, by simpa using hhandicap, hkeys⟩)
  · rintro ⟨side, hlive, hnamed⟩
    rcases quoteTarget_keys h with ⟨rfl, hmarket, hselection⟩ | ⟨rfl, hmarket, hselection⟩ |
      ⟨rfl, hmarket, hselection⟩
    all_goals rw [hmarket, hselection] at hnamed
    · obtain ⟨hname, htype, -, hkeys⟩ := hnamed.resolve_right (by simp)
      rw [← (String.append_left_inj _).1 hkeys] at hlive
      exact ⟨hside.2 hlive, _, rfl, hname, htype, rfl⟩
    · obtain ⟨hname, htype, -, hkeys⟩ := (hnamed.resolve_left (by simp)).resolve_right (by simp)
      rw [← (String.append_left_inj _).1 hkeys] at hlive
      exact ⟨hside.2 hlive, _, rfl, hname, htype, rfl⟩
    · obtain ⟨hname, htype, hhandicap, -, hkeys⟩ :=
        (hnamed.resolve_left (by simp)).resolve_left (by simp)
      rw [← (String.append_left_inj _).1 hkeys] at hlive
      exact ⟨hside.2 hlive, _, rfl, hname, htype, by simp [hhandicap]⟩

theorem goalMarket_of_identity {marketKey selectionKey : String}
    (h : liveMarketIdentity rt odd = some (marketKey, selectionKey)) : marketKey ∈ goalMarkets := by
  obtain ⟨side, -, hnamed⟩ := liveMarketIdentity_eq_some.1 h
  rcases hnamed with ⟨-, -, hmarket, -⟩ | ⟨-, -, hmarket, -⟩ | ⟨-, -, -, hmarket, -⟩ <;>
    simp [goalMarkets, hmarket]

end Words

/-! ## The rows of an answer -/

section Rows

variable {rt : OddsRuntime} {source : OddsSource} {g : MarketGroup} {row : OddsRow} {entry odd : JsValue}
  {o : OddsOutcome} {bookmaker : String}

/-- What a row says of a bet. -/
structure OddsRow.Tells (row : OddsRow) (o : OddsOutcome) (bookmaker : String) : Prop where
  market : row.marketKey = o.marketKey
  selection : row.selectionKey = o.selectionKey
  odd : row.oddValue = o.oddValue
  available : row.available = o.available
  bookmaker : row.bookmakerKey = bookmaker

theorem tells_row (raw : ℚ) (fair overround : Option ℚ) :
    (source.row g o raw fair overround).Tells o g.bookmakerKey := ⟨rfl, rfl, rfl, rfl, rfl⟩

/-- A row of a group says an outcome of the group. -/
theorem exists_outcome_of_row (h : row ∈ buildRowsForMarketGroup source g) :
    ∃ o ∈ g.outcomes, row.Tells o g.bookmakerKey := by
  rw [buildRowsForMarketGroup] at h
  split_ifs at h with hpart hlen
  · obtain ⟨o, ho, rfl⟩ := List.mem_map.1 h
    exact ⟨o, ho, tells_row ..⟩
  · cases h
  · obtain ⟨⟨o, raw, fair⟩, hzip, rfl⟩ := List.mem_map.1 h
    exact ⟨o, (List.of_mem_zip hzip).1, tells_row ..⟩

/-- Each outcome of a group that is no partition has its row. -/
theorem exists_row_of_outcome (hpart : isPartitionMarket g.marketType = false) (ho : o ∈ g.outcomes) :
    ∃ row ∈ buildRowsForMarketGroup source g, row.Tells o g.bookmakerKey := by
  rw [buildRowsForMarketGroup, hpart, Bool.not_false, if_pos rfl]
  exact ⟨_, List.mem_map_of_mem ho, tells_row ..⟩

theorem fixture_of_row (h : row ∈ buildRowsForMarketGroup source g) :
    row.fixtureId = source.fixtureId ∧ row.providerFixtureId = source.providerFixtureId ∧
      row.observedAt = source.receivedAt ∧ row.receivedAt = source.receivedAt := by
  rw [buildRowsForMarketGroup] at h
  split_ifs at h
  · obtain ⟨o, -, rfl⟩ := List.mem_map.1 h
    exact ⟨rfl, rfl, rfl, rfl⟩
  · cases h
  · obtain ⟨⟨o, raw, fair⟩, -, rfl⟩ := List.mem_map.1 h
    exact ⟨rfl, rfl, rfl, rfl⟩

theorem impliedProbability_eq_some {value : JsNumber} {p : ℚ} :
    impliedProbability value = some p ↔ ∃ price, value = .num price ∧ 1 < price ∧ 1 / price = p := by
  cases value with
  | num price =>
    rw [impliedProbability]
    constructor
    · intro h
      split_ifs at h with hle
      exact ⟨price, rfl, not_le.1 hle, Option.some.inj h⟩
    · rintro ⟨price', heq, hlt, rfl⟩
      obtain rfl := JsNumber.num.inj heq
      exact if_neg (not_le.2 hlt)
  | inf | negInf | nan => simp [impliedProbability]

/-- **A live odd, as it is read.** -/
theorem liveOutcome_eq_some {parent : Option String} {name : String} :
    liveOutcome rt parent odd = some (name, o) ↔ (bookmakerNameOf odd).or parent = some name ∧
      (∃ price, toNumber rt.number ((odd.get "value").orElse (odd.get "odd")) = some (.num price) ∧
        1 < price ∧ o.oddValue = .num price) ∧
        liveMarketIdentity rt odd = some (o.marketKey, o.selectionKey) ∧
          o.outcome = o.selectionKey ∧ o.available = !isSuspended rt (odd.get "suspended") := by
  simp only [liveOutcome, Option.bind_eq_bind, Option.bind_eq_some_iff]
  constructor
  · rintro ⟨name', hname, value, hvalue, p, hp, ⟨marketKey, selectionKey⟩, hidentity, heq⟩
    obtain ⟨price, rfl, habove, -⟩ := impliedProbability_eq_some.1 hp
    obtain ⟨rfl, rfl⟩ := Prod.mk.inj (Option.some.inj heq)
    exact ⟨hname, ⟨price, hvalue, habove, rfl⟩, hidentity, rfl, rfl⟩
  · rintro ⟨hname, ⟨price, hvalue, habove, hodd⟩, hidentity, houtcome, havailable⟩
    refine ⟨name, hname, .num price, hvalue, _, impliedProbability_eq_some.2 ⟨price, rfl, habove, rfl⟩,
      _, hidentity, ?_⟩
    obtain ⟨outcome, marketKey, selectionKey, oddValue, available⟩ := o
    dsimp only at hodd houtcome havailable
    rw [hodd, houtcome, havailable]
    rfl

theorem endsWith_append (text stop : String) : endsWith (text ++ stop) stop = true := by
  rw [endsWith, String.toList_append, List.isSuffixOf_iff_suffix]
  exact List.suffix_append _ _

/-- The bookmaker and the market of a live odd are told apart by their key. -/
theorem liveKey_inj {name name' marketKey marketKey' : String} (hmarket : marketKey ∈ goalMarkets)
    (hmarket' : marketKey' ∈ goalMarkets)
    (h : name ++ "|" ++ marketKey = name' ++ "|" ++ marketKey') :
    name = name' ∧ marketKey = marketKey' := by
  have hends : ∀ m ∈ goalMarkets, ∀ m' ∈ goalMarkets, endsWith m' m = true → m = m' := by
    decide +kernel
  have hend : endsWith (name ++ "|" ++ marketKey) marketKey = true := endsWith_append _ _
  have hend' : endsWith (name ++ "|" ++ marketKey) marketKey' = true := h ▸ endsWith_append _ _
  obtain rfl : marketKey = marketKey' := by
    rcases le_total marketKey.toList.length marketKey'.toList.length with hle | hle
    · exact hends _ hmarket _ hmarket' (endsWith_of_endsWith hend hend' hle)
    · exact (hends _ hmarket' _ hmarket (endsWith_of_endsWith hend' hend hle)).symm
  exact ⟨(String.append_left_inj _).1 ((String.append_left_inj _).1 h), rfl⟩

/-- The live odds of an entry, with their bookmakers. -/
def liveOutcomes (rt : OddsRuntime) (entry : JsValue) : List (String × OddsOutcome) :=
  (liveOddsOf entry).filterMap (liveOutcome rt (bookmakerNameOf entry))

theorem mapApifootballLiveOddsEntry_eq_some {live : List (String × OddsOutcome)}
    (h : mapApifootballLiveOddsEntry rt entry = some live) : live = liveOutcomes rt entry := by
  rw [mapApifootballLiveOddsEntry] at h
  split_ifs at h
  dsimp only at h
  split_ifs at h
  exact (Option.some.inj h).symm

theorem goalMarket_of_liveOutcomes {l : String × OddsOutcome} (h : l ∈ liveOutcomes rt entry) :
    l.2.marketKey ∈ goalMarkets := by
  obtain ⟨odd, -, hl⟩ := List.mem_filterMap.1 h
  exact goalMarket_of_identity (liveOutcome_eq_some.1 hl).2.2.1

/-- The markets of the fields are none of a goal. -/
theorem fields_not_goal : ∀ field ∈ apifootballFields, field.1 ∉ goalMarkets := by decide +kernel

/-- The odds of one key have one bookmaker. -/
theorem bookmaker_of_liveKey {l first : String × OddsOutcome} (hl : l ∈ liveOutcomes rt entry)
    (hfirst : first ∈ liveOutcomes rt entry)
    (h : l.1 ++ "|" ++ l.2.marketKey = first.1 ++ "|" ++ first.2.marketKey) : l.1 = first.1 :=
  (liveKey_inj (goalMarket_of_liveOutcomes hl) (goalMarket_of_liveOutcomes hfirst) h).1

/-- A goal in a group of an entry is one of its live odds. -/
theorem liveOutcome_of_group {groups : List MarketGroup}
    (hgroups : apifootballEntryGroups rt entry = some groups) (hgoal : o.marketKey ∈ goalMarkets)
    (hg : g ∈ groups) (ho : o ∈ g.outcomes) :
    ∃ name, (name, o) ∈ liveOutcomes rt entry ∧ bookmakerKey rt name = g.bookmakerKey := by
  simp only [apifootballEntryGroups, Option.bind_eq_bind, Option.bind_eq_some_iff] at hgroups
  obtain ⟨live, hlive, h⟩ := hgroups
  obtain rfl := mapApifootballLiveOddsEntry_eq_some hlive
  split_ifs at h
  · cases h
    obtain ⟨⟨key, group⟩, hgroup, hfirst⟩ := List.mem_filterMap.1 hg
    obtain ⟨first, hhead, rfl⟩ := Option.map_eq_some_iff.1 hfirst
    obtain ⟨-, rfl⟩ := mem_groupBy.1 hgroup
    obtain ⟨⟨name, o⟩, hl, rfl⟩ := List.mem_map.1 ho
    obtain ⟨hl, hkey⟩ := List.mem_filter.1 hl
    obtain ⟨hfirst, hkey'⟩ := List.mem_filter.1 (List.mem_of_head? hhead)
    have hname := bookmaker_of_liveKey hl hfirst ((beq_iff_eq.1 hkey).trans (beq_iff_eq.1 hkey').symm)
    exact ⟨name, hl, congrArg (bookmakerKey rt) hname⟩
  -- the fields are on no goal
  · split at h
    · split_ifs at h
      · cases h
        cases hg
      · cases h
        obtain ⟨⟨marketType, outcomes⟩, hgroup, rfl⟩ := List.mem_map.1 hg
        obtain ⟨-, rfl⟩ := mem_groupBy.1 hgroup
        obtain ⟨field, hfield, ho⟩ := List.mem_filterMap.1 (List.mem_of_mem_filter ho)
        exact absurd ((apifootballOutcome_spec ho).1 ▸ hgoal) (fields_not_goal field hfield)
    · cases h
      cases hg

/-- A live odd of an entry is in a group, and the group is no partition. -/
theorem group_of_liveOutcome {groups : List MarketGroup} {name : String}
    (hgroups : apifootballEntryGroups rt entry = some groups) (hl : (name, o) ∈ liveOutcomes rt entry) :
    ∃ g ∈ groups, isPartitionMarket g.marketType = false ∧ o ∈ g.outcomes ∧
      g.bookmakerKey = bookmakerKey rt name := by
  simp only [apifootballEntryGroups, Option.bind_eq_bind, Option.bind_eq_some_iff] at hgroups
  obtain ⟨live, hlive, h⟩ := hgroups
  obtain rfl := mapApifootballLiveOddsEntry_eq_some hlive
  split_ifs at h with hsome
  · cases h
    have hgroup : (name, o) ∈ (liveOutcomes rt entry).filter
        fun l => l.1 ++ "|" ++ l.2.marketKey == name ++ "|" ++ o.marketKey :=
      List.mem_filter.2 ⟨hl, beq_self_eq_true _⟩
    obtain ⟨first, hhead⟩ : ∃ first, ((liveOutcomes rt entry).filter
        fun l => l.1 ++ "|" ++ l.2.marketKey == name ++ "|" ++ o.marketKey).head? = some first :=
      ⟨_, List.head?_eq_some_head (List.ne_nil_of_mem hgroup)⟩
    obtain ⟨hfirst, hkey⟩ := List.mem_filter.1 (List.mem_of_head? hhead)
    refine ⟨_, List.mem_filterMap.2 ⟨_, mem_groupBy.2 ⟨⟨_, hl, rfl⟩, rfl⟩, Option.map_eq_some_iff.2
      ⟨first, hhead, rfl⟩⟩, not_partition_of_goal (goalMarket_of_liveOutcomes hfirst),
      List.mem_map.2 ⟨_, hgroup, rfl⟩, ?_⟩
    exact congrArg (bookmakerKey rt) (bookmaker_of_liveKey hfirst hl (beq_iff_eq.1 hkey))
  · have hnil : liveOutcomes rt entry = [] := by simpa using hsome
    rw [hnil] at hl
    cases hl

/-- The bets of api-sports are on no goal of a team. -/
theorem apiSports_not_goal {response : List JsValue} (hg : g ∈ apiSportsGroups rt response)
    (ho : o ∈ g.outcomes) : o.marketKey ∉ goalMarkets := by
  intro hgoal
  obtain ⟨entry, -, hg⟩ := List.mem_flatMap.1 hg
  obtain ⟨bookmaker, -, hg⟩ := List.mem_flatMap.1 hg
  rw [(mem_bookmakerGroups hg).2] at ho
  have hpart := isPartitionMarket_of_mem (betOutcomes_sided (List.mem_of_mem_filter ho)).1
  rw [not_partition_of_goal hgoal] at hpart
  cases hpart

theorem exists_of_mapM {α β : Type} {f : α → Option β} {l : List α} {bs : List β} {a : α}
    (h : l.mapM f = some bs) (ha : a ∈ l) : ∃ b ∈ bs, f a = some b := by
  induction l generalizing bs with
  | nil => cases ha
  | cons a' l ih =>
    simp only [List.mapM_cons, Option.bind_eq_bind, Option.bind_eq_some_iff] at h
    obtain ⟨b', hb', bs', hbs', h⟩ := h
    cases h
    rcases List.mem_cons.1 ha with rfl | ha
    · exact ⟨b', List.mem_cons_self, hb'⟩
    · obtain ⟨b, hb, heq⟩ := ih hbs' ha
      exact ⟨b, List.mem_cons_of_mem _ hb, heq⟩

section Answer

variable {response : List JsValue} {rows : List OddsRow}

/-- A goal among the rows of an answer is a live odd of apifootball. -/
theorem liveOutcome_of_row (hrows : oddsRows rt source response = some rows) (hrow : row ∈ rows)
    (hgoal : row.marketKey ∈ goalMarkets) :
    source.providerKey = "apifootball" ∧ ∃ entry ∈ response, ∃ name o,
      (name, o) ∈ liveOutcomes rt entry ∧ row.Tells o (bookmakerKey rt name) := by
  obtain ⟨groups, hgroups, rfl⟩ := Option.map_eq_some_iff.1 hrows
  obtain ⟨g, hg, hrow⟩ := List.mem_flatMap.1 hrow
  obtain ⟨o, ho, htells⟩ := exists_outcome_of_row hrow
  rw [htells.market] at hgoal
  rw [marketGroups] at hgroups
  split_ifs at hgroups with hprovider
  · obtain ⟨entries, hentries, rfl⟩ := Option.map_eq_some_iff.1 hgroups
    obtain ⟨entryGroups, hentry, hg⟩ := List.mem_flatten.1 hg
    obtain ⟨entry, hmem, hentry⟩ := mem_of_mapM hentries hentry
    obtain ⟨name, hl, hname⟩ := liveOutcome_of_group hentry hgoal hg ho
    exact ⟨hprovider, entry, hmem, name, o, hl, hname ▸ htells⟩
  · obtain rfl := Option.some.inj hgroups
    exact absurd hgoal (apiSports_not_goal hg ho)

/-- A live odd of apifootball has its row. -/
theorem row_of_liveOutcome {name : String} (hrows : oddsRows rt source response = some rows)
    (hprovider : source.providerKey = "apifootball") (hentry : entry ∈ response)
    (hl : (name, o) ∈ liveOutcomes rt entry) :
    ∃ row ∈ rows, row.Tells o (bookmakerKey rt name) := by
  obtain ⟨groups, hgroups, rfl⟩ := Option.map_eq_some_iff.1 hrows
  rw [marketGroups, if_pos hprovider] at hgroups
  obtain ⟨entries, hentries, rfl⟩ := Option.map_eq_some_iff.1 hgroups
  obtain ⟨entryGroups, hmem, hentryGroups⟩ := exists_of_mapM hentries hentry
  obtain ⟨g, hg, hpart, ho, hname⟩ := group_of_liveOutcome hentryGroups hl
  obtain ⟨row, hrow, htells⟩ : ∃ row ∈ buildRowsForMarketGroup source g, row.Tells o g.bookmakerKey :=
    exists_row_of_outcome hpart ho
  exact ⟨row, List.mem_flatMap.2 ⟨g, List.mem_flatten.2 ⟨_, hmem, hg⟩, hrow⟩, hname ▸ htells⟩

/-- **The rows of an answer that offer a bet of the rules are its live prices.** -/
theorem offered_iff {providerFixtureId marketType : String} {isHomeTeam : Bool} {price : ℚ}
    {target : ExecutableQuoteTarget}
    (htarget : quoteTargetForRuleMarket providerFixtureId marketType isHomeTeam = some target)
    (hrows : oddsRows rt source response = some rows) :
    (∃ row ∈ rows, row.marketKey = target.marketKey ∧ row.selectionKey = target.selectionKey ∧
      row.available = true ∧ row.bookmakerKey = bookmaker ∧ row.oddValue = .num price) ↔
      source.providerKey = "apifootball" ∧ Offers rt response marketType isHomeTeam bookmaker price := by
  constructor
  · rintro ⟨row, hrow, hmarket, hselection, havailable, rfl, hodd⟩
    obtain ⟨hprovider, entry, hentry, name, o, hl, htells⟩ :=
      liveOutcome_of_row hrows hrow (hmarket ▸ goalMarket_of_target htarget)
    obtain ⟨odd, hlive, hl⟩ := List.mem_filterMap.1 hl
    obtain ⟨hname, ⟨price', hvalue, habove, hprice⟩, hidentity, -, hsuspended⟩ := liveOutcome_eq_some.1 hl
    obtain rfl : price' = price :=
      JsNumber.num.inj (hprice.symm.trans (htells.odd.symm.trans hodd))
    rw [← htells.market, hmarket, ← htells.selection, hselection] at hidentity
    rw [← htells.available, havailable] at hsuspended
    exact ⟨hprovider, entry, hentry, odd, hlive, name,
      ⟨(onGoal_iff htarget).2 hidentity, hname, hvalue, habove, by simpa using hsuspended⟩,
      htells.bookmaker.symm⟩
  · rintro ⟨hprovider, entry, hentry, odd, hlive, name, hprice, rfl⟩
    have hl : (name, (⟨target.selectionKey, target.marketKey, target.selectionKey, .num price, true⟩ :
        OddsOutcome)) ∈ liveOutcomes rt entry := by
      refine List.mem_filterMap.2 ⟨odd, hlive, liveOutcome_eq_some.2 ⟨hprice.bookmaker,
        ⟨price, hprice.value, hprice.above, rfl⟩, (onGoal_iff htarget).1 hprice.goal, rfl, ?_⟩⟩
      rw [hprice.unsuspended]
      rfl
    obtain ⟨row, hrow, htells⟩ := row_of_liveOutcome hrows hprovider hentry hl
    exact ⟨row, hrow, htells.market, htells.selection, htells.available, htells.bookmaker, htells.odd⟩

end Answer

end Rows

/-! ## What is stored -/

/-- An answer that was stored, and whose match has not been deleted since. -/
def Ingested (rt : OddsRuntime) (trace : List OddsEvent) (source : OddsSource) (response : List JsValue)
    (rows : List OddsRow) : Prop :=
  ∃ newer older, trace = newer ++ .inserted rows :: older ∧ .fetched source response ∈ older ∧
    oddsRows rt source response = some rows ∧ .deleted source.fixtureId ∉ newer

/-- The table has the rows of the answers that were stored, and no others. -/
structure OddsSound (rt : OddsRuntime) (w : OddsWorld) : Prop where
  stored : ∀ s ∈ w.odds, ∃ source response rows, Ingested rt w.trace source response rows ∧
    ∃ row ∈ rows, row.snapshot? s.id = some s
  kept : ∀ source response rows, Ingested rt w.trace source response rows →
    ∀ row ∈ rows, ∃ s ∈ w.odds, row.snapshot? s.id = some s

section Stored

variable {rt : OddsRuntime} {providerKey : String} {w w' : OddsWorld} {e : OddsEvent}
  {trace : List OddsEvent} {source : OddsSource} {response : List JsValue} {rows : List OddsRow}

theorem Ingested.cons (h : Ingested rt trace source response rows) (he : e ≠ .deleted source.fixtureId) :
    Ingested rt (e :: trace) source response rows := by
  obtain ⟨newer, older, rfl, hfetched, hrows, hkept⟩ := h
  refine ⟨e :: newer, older, rfl, hfetched, hrows, fun hmem => ?_⟩
  rcases List.mem_cons.1 hmem with hmem | hmem
  · exact he hmem.symm
  · exact hkept hmem

/-- What was stored of an answer is what is stored now, or was stored before. -/
theorem ingested_cons (h : Ingested rt (e :: trace) source response rows) :
    e = .inserted rows ∨ e ≠ .deleted source.fixtureId ∧ Ingested rt trace source response rows := by
  obtain ⟨newer, older, htrace, hfetched, hrows, hkept⟩ := h
  rcases Trace.split_cons htrace with ⟨rfl, -⟩ | ⟨rest, rfl, rfl⟩
  · exact .inl rfl
  · refine .inr ⟨fun he => hkept (he ▸ List.mem_cons_self), rest, older, rfl, hfetched, hrows, ?_⟩
    exact fun hmem => hkept (List.mem_cons_of_mem _ hmem)

theorem exists_right_of_forall₂ {α β : Type} {R : α → β → Prop} {l : List α} {l' : List β}
    (h : List.Forall₂ R l l') {a : α} (ha : a ∈ l) : ∃ b ∈ l', R a b := by
  induction h with
  | nil => cases ha
  | @cons x y l l' hxy _ ih =>
    rcases List.mem_cons.1 ha with rfl | ha
    · exact ⟨y, List.mem_cons_self, hxy⟩
    · obtain ⟨b, hb, hab⟩ := ih ha
      exact ⟨b, List.mem_cons_of_mem _ hb, hab⟩

theorem exists_left_of_forall₂ {α β : Type} {R : α → β → Prop} {l : List α} {l' : List β}
    (h : List.Forall₂ R l l') {b : β} (hb : b ∈ l') : ∃ a ∈ l, R a b :=
  exists_right_of_forall₂ h.flip hb

/-- The columns of a row. -/
theorem snapshot_eq_some {row : OddsRow} {s : OddsSnapshot} (h : row.snapshot? s.id = some s) :
    s.fixtureId = row.fixtureId ∧ s.providerFixtureId = row.providerFixtureId ∧
      s.providerKey = some row.providerKey ∧ s.bookmakerKey = some row.bookmakerKey ∧
      s.marketKey = some row.marketKey ∧ s.selectionKey = some row.selectionKey ∧
      oddMillis? row.oddValue = some s.oddValue ∧ s.observedAt = some row.observedAt ∧
      s.receivedAt = some row.receivedAt ∧ s.available = some row.available := by
  obtain ⟨millis, hmillis, hs⟩ := Option.map_eq_some_iff.1 h
  obtain ⟨hmillis, -⟩ := Option.filter_eq_some_iff.1 hmillis
  rw [← hs]
  exact ⟨rfl, rfl, rfl, rfl, rfl, rfl, hmillis, rfl, rfl, rfl⟩

theorem source_of_row {row : OddsRow} (hrows : oddsRows rt source response = some rows) (hrow : row ∈ rows) :
    row.fixtureId = source.fixtureId ∧ row.providerFixtureId = source.providerFixtureId ∧
      row.observedAt = source.receivedAt ∧ row.receivedAt = source.receivedAt := by
  obtain ⟨groups, -, rfl⟩ := Option.map_eq_some_iff.1 hrows
  obtain ⟨g, -, hrow⟩ := List.mem_flatMap.1 hrow
  exact fixture_of_row hrow

/-- An event that stores nothing and deletes nothing. -/
theorem OddsSound.quiet (h : OddsSound rt w) (hinserted : ∀ rows, e ≠ .inserted rows)
    (hdeleted : ∀ fixtureId, e ≠ .deleted fixtureId) : OddsSound rt { w with trace := e :: w.trace } where
  stored s hs := by
    obtain ⟨source, response, rows, hingested, hrow⟩ := h.stored s hs
    exact ⟨source, response, rows, hingested.cons (hdeleted _), hrow⟩
  kept source response rows hingested := by
    rcases ingested_cons hingested with heq | ⟨-, hold⟩
    · exact absurd heq (hinserted rows)
    · exact h.kept source response rows hold

theorem OddsSound.inserted {snapshots : List OddsSnapshot} {odds : Table oddsSchema} (h : OddsSound rt w)
    (hanswered : w.Answered rt rows)
    (hstored : List.Forall₂ (fun row s => row.snapshot? s.id = some s) rows snapshots)
    (hodds : odds.rows = w.odds.rows ++ snapshots) :
    OddsSound rt { w with odds, trace := .inserted rows :: w.trace } where
  stored s hs := by
    rw [Table.mem_def, hodds, List.mem_append] at hs
    rcases hs with hs | hs
    · obtain ⟨source, response, rows', hingested, hrow⟩ := h.stored s hs
      exact ⟨source, response, rows', hingested.cons (by simp), hrow⟩
    · obtain ⟨source, response, hfetched, hrows⟩ := hanswered
      exact ⟨source, response, rows, ⟨[], w.trace, rfl, hfetched, hrows, List.not_mem_nil⟩,
        exists_left_of_forall₂ hstored hs⟩
  kept source response rows' hingested row hrow := by
    rcases ingested_cons hingested with heq | ⟨-, hold⟩
    · obtain rfl := OddsEvent.inserted.inj heq
      obtain ⟨s, hs, hrow⟩ := exists_right_of_forall₂ hstored hrow
      exact ⟨s, Table.mem_def.2 (hodds ▸ List.mem_append_right _ hs), hrow⟩
    · obtain ⟨s, hs, hrow⟩ := h.kept source response rows' hold row hrow
      exact ⟨s, Table.mem_def.2 (hodds ▸ List.mem_append_left _ hs), hrow⟩

theorem OddsSound.deleteMatch (h : OddsSound rt w) (fixtureId : String) :
    OddsSound rt (w.deleteMatch fixtureId) where
  stored s hs := by
    obtain ⟨hs, hother⟩ := Table.mem_delete.1 hs
    obtain ⟨source, response, rows, hingested, row, hrow, hsnapshot⟩ := h.stored s hs
    obtain ⟨-, -, -, -, hrows, -⟩ := id hingested
    have hfixture : s.fixtureId = source.fixtureId :=
      (snapshot_eq_some hsnapshot).1.trans (source_of_row hrows hrow).1
    refine ⟨source, response, rows, hingested.cons fun heq => ?_, row, hrow, hsnapshot⟩
    exact beq_eq_false_iff_ne.1 hother (hfixture.trans (OddsEvent.deleted.inj heq).symm)
  kept source response rows hingested row hrow := by
    rcases ingested_cons hingested with heq | ⟨hne, hold⟩
    · cases heq
    · obtain ⟨s, hs, hsnapshot⟩ := h.kept source response rows hold row hrow
      obtain ⟨-, -, -, -, hrows, -⟩ := hold
      have hfixture : s.fixtureId = source.fixtureId :=
        (snapshot_eq_some hsnapshot).1.trans (source_of_row hrows hrow).1
      refine ⟨s, Table.mem_delete.2 ⟨hs, beq_eq_false_iff_ne.2 fun heq => hne ?_⟩, hsnapshot⟩
      rw [← hfixture, heq]

/-- **Every run of the syncs keeps it.** -/
theorem oddsSound_reachable {w₀ : OddsWorld} {c : Config OddsAction OddsAction.Result Nat OddsWorld}
    (hempty : w₀.odds.rows = [] ∧ w₀.trace = [])
    (h : Reachable (oddsSync rt providerKey) (.init w₀) c) : OddsSound rt c.state := by
  have hinit : OddsSound rt w₀ := by
    refine ⟨fun s hs => ?_, fun source response rows hingested => ?_⟩
    · rw [Table.mem_def, hempty.1] at hs
      cases hs
    · obtain ⟨newer, older, htrace, -⟩ := hingested
      rw [hempty.2] at htrace
      exact absurd htrace.symm (by simp)
  have hdiscipline : Discipline (oddsSync rt providerKey) (oddsContract rt (OddsSound rt)) := by
    refine oddsSync_discipline (fun a b w w' hinv hpre hs => ?_) fun w w' hinv hmoves => ?_
    · cases hs with
      | matched | notMatched | notFetched | notInserted => exact hinv
      | fetched => exact hinv.quiet (by simp) (by simp)
      | inserted hstored hmatches hodds => exact hinv.inserted hpre hstored hodds
    · cases hmoves with
      | written => exact ⟨hinv.stored, hinv.kept⟩
      | deleted fixtureId => exact hinv.deleteMatch fixtureId
  exact (hdiscipline.reachable hinit (fun _ => trivial) h).1

end Stored

/-! ## The quote of a bet -/

/-- What the provider has offered for a bet of the rules, and is stored: when it was received, under
the key of which bookmaker, at which odd. -/
def OddsWorld.Offered (rt : OddsRuntime) (w : OddsWorld) (providerFixtureId marketType : String)
    (isHomeTeam : Bool) (receivedAt : Int) (bookmaker : String) (millis : Int) : Prop :=
  ∃ source response rows, Ingested rt w.trace source response rows ∧ source.providerKey = "apifootball" ∧
    source.providerFixtureId = providerFixtureId ∧ source.receivedAt = receivedAt ∧
      ∃ price, Offers rt response marketType isHomeTeam bookmaker price ∧
        oddMillis? (.num price) = some millis ∧ 1000 < millis

section Latest

variable {rt : OddsRuntime} {providerKey : String} {w : OddsWorld} {providerFixtureId marketType : String}
  {isHomeTeam : Bool} {target : ExecutableQuoteTarget} {C : Collation} {query : QuoteCandidatesQuery}
  {lookup : ExecutableQuoteLookup}

theorem oddValue_of_quote {s : OddsSnapshot} {q : ExecutableQuote} (h : s.toQuote? = some q) :
    s.oddValue = q.oddValue := by
  unfold OddsSnapshot.toQuote? at h
  split at h
  · split_ifs at h
    rw [← Option.some.inj h]
  · cases h

theorem num_of_oddMillis {value : JsNumber} {millis : Int} (h : oddMillis? value = some millis) :
    ∃ price, value = .num price := by
  cases value with
  | num price => exact ⟨price, rfl⟩
  | inf | negInf | nan => cases h

/-- A quote of the table on a bet of the rules was offered. -/
theorem OddsSound.offered_of_quote {q : ExecutableQuote} (h : OddsSound rt w)
    (htarget : quoteTargetForRuleMarket providerFixtureId marketType isHomeTeam = some target)
    (hq : q ∈ executableQuotes w.odds) (haccepts : target.accepts q = true) :
    w.Offered rt providerFixtureId marketType isHomeTeam q.receivedAt q.bookmakerKey q.oddValue ∧
      q.observedAt = q.receivedAt := by
  obtain ⟨s, hs, hquote⟩ := mem_executableQuotes.1 hq
  obtain ⟨source, response, rows, hingested, row, hrow, hsnapshot⟩ := h.stored s hs
  obtain ⟨-, -, -, -, hrows, -⟩ := id hingested
  obtain ⟨-, hid, -, hbookmaker, hmarket, hselection, hmillis, hobserved, hreceived, havailable⟩ :=
    snapshot_eq_some hsnapshot
  obtain ⟨-, hprovider, hobservedAt, hreceivedAt⟩ := source_of_row hrows hrow
  obtain ⟨-, hid', -, hbookmaker', hmarket', hselection', hobserved', hreceived', havailable', -, habove,
    -⟩ := OddsSnapshot.toQuote?_eq_some hquote
  simp only [ExecutableQuoteTarget.accepts, Bool.and_eq_true, beq_iff_eq] at haccepts
  obtain ⟨⟨⟨⟨hfixture, hkey⟩, hside⟩, -⟩, -⟩ := haccepts
  obtain ⟨price, hprice⟩ := num_of_oddMillis hmillis
  -- the row, by the quote
  have hrowMarket : row.marketKey = target.marketKey :=
    (Option.some.inj (hmarket.symm.trans hmarket')).trans hkey
  have hrowSelection : row.selectionKey = target.selectionKey :=
    (Option.some.inj (hselection.symm.trans hselection')).trans hside
  have hrowAvailable : row.available = true := Option.some.inj (havailable.symm.trans havailable')
  have hrowBookmaker : row.bookmakerKey = q.bookmakerKey :=
    Option.some.inj (hbookmaker.symm.trans hbookmaker')
  have hrowReceived : row.receivedAt = q.receivedAt := Option.some.inj (hreceived.symm.trans hreceived')
  have hrowObserved : row.observedAt = q.observedAt := Option.some.inj (hobserved.symm.trans hobserved')
  obtain ⟨hapifootball, hoffers⟩ := (offered_iff htarget hrows).1
    ⟨row, hrow, hrowMarket, hrowSelection, hrowAvailable, hrowBookmaker, hprice⟩
  refine ⟨⟨source, response, rows, hingested, hapifootball, ?_, hreceivedAt.symm.trans hrowReceived, price,
    hoffers, ?_, habove⟩, ?_⟩
  · rw [← hprovider, ← hid, hid', hfixture, providerFixtureId_quoteTarget htarget]
  · rw [← hprice, hmillis, oddValue_of_quote hquote]
  · rw [← hrowObserved, ← hrowReceived, hobservedAt, hreceivedAt]

/-- What was offered for a bet of the rules is a quote of the table. -/
theorem OddsSound.quote_of_offered {receivedAt millis : Int} {bookmaker : String} (h : OddsSound rt w)
    (htarget : quoteTargetForRuleMarket providerFixtureId marketType isHomeTeam = some target)
    (hoffered : w.Offered rt providerFixtureId marketType isHomeTeam receivedAt bookmaker millis) :
    ∃ q ∈ executableQuotes w.odds, target.accepts q = true ∧ q.observedAt = receivedAt ∧
      q.receivedAt = receivedAt ∧ q.available = true ∧ 1000 < q.oddValue := by
  obtain ⟨source, response, rows, hingested, hapifootball, rfl, rfl, price, hoffers, hmillis, habove⟩ :=
    hoffered
  obtain ⟨-, -, -, -, hrows, -⟩ := id hingested
  obtain ⟨row, hrow, hrowMarket, hrowSelection, hrowAvailable, -, hprice⟩ :=
    (offered_iff htarget hrows).2 ⟨hapifootball, hoffers⟩
  obtain ⟨s, hs, hsnapshot⟩ := h.kept source response rows hingested row hrow
  obtain ⟨-, hid, hprovider, hbookmaker, hmarket, hselection, hodd, hobserved, hreceived, havailable⟩ :=
    snapshot_eq_some hsnapshot
  obtain ⟨-, hrowProvider, hobservedAt, hreceivedAt⟩ := source_of_row hrows hrow
  obtain ⟨hanyProvider, hanyBookmaker⟩ := quoteTarget_anywhere htarget
  have hoddValue : 1000 < s.oddValue := by
    rw [hprice, hmillis, Option.some.injEq] at hodd
    exact hodd ▸ habove
  have hquote : ∃ q, s.toQuote? = some q := by
    rw [OddsSnapshot.toQuote?, hprovider, hbookmaker, hmarket, hselection, hobserved, hreceived]
    dsimp only
    rw [if_pos ⟨by rw [havailable, hrowAvailable], hoddValue, by rw [hobservedAt, hreceivedAt]⟩]
    exact ⟨_, rfl⟩
  obtain ⟨q, hquote⟩ := hquote
  obtain ⟨-, hid', -, -, hmarket', hselection', hobserved', hreceived', -, hopen, habove', -⟩ :=
    OddsSnapshot.toQuote?_eq_some hquote
  refine ⟨q, mem_executableQuotes.2 ⟨s, hs, hquote⟩, ?_, ?_, ?_, hopen, habove'⟩
  · have hfixture : q.providerFixtureId = target.providerFixtureId := by
      rw [← hid', hid, hrowProvider, providerFixtureId_quoteTarget htarget]
    have hkey : q.marketKey = target.marketKey :=
      (Option.some.inj (hmarket'.symm.trans hmarket)).trans hrowMarket
    have hside : q.selectionKey = target.selectionKey :=
      (Option.some.inj (hselection'.symm.trans hselection)).trans hrowSelection
    rw [ExecutableQuoteTarget.accepts, hfixture, hkey, hside, hanyProvider, hanyBookmaker]
    simp
  · exact (Option.some.inj (hobserved'.symm.trans hobserved)).trans hobservedAt
  · exact (Option.some.inj (hreceived'.symm.trans hreceived)).trans hreceivedAt

/-- **The quote of a bet of the rules is the latest offer there was**: whatever the syncs have fetched,
stored or failed to store, a lookup finds a quote where the provider has offered the bet within the
age it admits, and the quote is of an offer as late as any. -/
theorem latest_offer {w₀ : OddsWorld} {c : Config OddsAction OddsAction.Result Nat OddsWorld}
    (hempty : w₀.odds.rows = [] ∧ w₀.trace = [])
    (h : Reachable (oddsSync rt providerKey) (.init w₀) c)
    (htarget : quoteTargetForRuleMarket providerFixtureId marketType isHomeTeam = some lookup.target)
    (hcovers : query.Covers lookup) :
    (∀ q, selectLatest C (loadCandidates c.state.odds query) lookup = some q →
      c.state.Offered rt providerFixtureId marketType isHomeTeam q.receivedAt q.bookmakerKey q.oddValue ∧
        lookup.instant - lookup.maxQuoteAgeMs ≤ q.receivedAt ∧ q.receivedAt ≤ lookup.instant ∧
          ∀ receivedAt bookmaker millis,
            c.state.Offered rt providerFixtureId marketType isHomeTeam receivedAt bookmaker millis →
              receivedAt ≤ lookup.instant → receivedAt ≤ q.receivedAt) ∧
    (selectLatest C (loadCandidates c.state.odds query) lookup = none →
      ∀ receivedAt bookmaker millis,
        c.state.Offered rt providerFixtureId marketType isHomeTeam receivedAt bookmaker millis →
          receivedAt ≤ lookup.instant → receivedAt < lookup.instant - lookup.maxQuoteAgeMs) := by
  have hinv := oddsSound_reachable hempty h
  rw [selectLatest_loadCandidates fun q _ haccepts =>
    QuoteCandidatesQuery.takes_of_accepts hcovers.fixture hcovers.oldest hcovers.latest haccepts]
  -- what is offered within the age fits
  have hfits : ∀ receivedAt bookmaker millis,
      c.state.Offered rt providerFixtureId marketType isHomeTeam receivedAt bookmaker millis →
        receivedAt ≤ lookup.instant → lookup.instant - lookup.maxQuoteAgeMs ≤ receivedAt →
          ∃ q ∈ executableQuotes c.state.odds, lookup.accepts q = true ∧ q.observedAt = receivedAt := by
    intro receivedAt bookmaker millis hoffered hknown hfresh
    obtain ⟨q, hq, htargets, hobserved, hreceived, hopen, habove⟩ := hinv.quote_of_offered htarget hoffered
    refine ⟨q, hq, ExecutableQuoteLookup.accepts_iff.2 ⟨htargets, hopen, habove, ?_⟩, hobserved⟩
    omega
  constructor
  · intro q hselected
    obtain ⟨hq, haccepts, hfirst⟩ := selectLatest_spec hselected
    obtain ⟨htargets, -, -, -, hknown, -, hfresh⟩ := ExecutableQuoteLookup.accepts_iff.1 haccepts
    obtain ⟨hoffered, hobserved⟩ := hinv.offered_of_quote htarget hq htargets
    refine ⟨hoffered, hobserved ▸ hfresh, hknown, fun receivedAt bookmaker millis hother hknown' => ?_⟩
    by_contra hlater
    obtain ⟨q', hq', haccepts', hobserved'⟩ := hfits receivedAt bookmaker millis hother hknown' (by omega)
    have hle : (Ranked.comparing laterFirst (·.observedAt) q q').isLE = true :=
      Ranked.isLE_of_compareLex (hfirst q' hq' haccepts')
    have hle : q'.observedAt ≤ q.observedAt := Int.isLE_compare.1 hle
    omega
  · intro hselected receivedAt bookmaker millis hoffered hknown
    by_contra hfresh
    obtain ⟨q, hq, haccepts, -⟩ := hfits receivedAt bookmaker millis hoffered hknown (by omega)
    have hnone := Ranked.head?_sort_eq_none.1 hselected
    exact List.not_mem_nil (hnone ▸ List.mem_filter.2 ⟨hq, haccepts⟩)

end Latest

namespace Sample

/-- A price of a goal of the home team. -/
def homeGoalOdd : JsValue :=
  .obj [("odd_name", .str "Home Team Goals"), ("type", .str "Over"), ("handicap", .str "0.5"),
    ("value", .num (.num (37 / 20)))]

def liveAnswer : List JsValue :=
  [.obj [("bookmaker_name", .str "Bet365"), ("live_odds", .arr [homeGoalOdd])]]

/-- Its row. -/
def homeGoalSnapshot : OddsSnapshot where
  id := "a"
  fixtureId := "f"
  providerFixtureId := "1"
  providerKey := some "apifootball"
  bookmakerKey := some "bet365"
  marketKey := some "TEAM_GOALS_FT"
  selectionKey := some "HOME_OVER_0.5"
  oddValue := 1850
  observedAt := some 0
  receivedAt := some 0
  available := some true

def noOdds : OddsWorld := ⟨⟨[], .nil, by simp⟩, [⟨liveFixture, none⟩], 0, []⟩

/-- The match, live, when its odds are received. -/
def answered : OddsWorld :=
  { noOdds with trace := [.fetched (sourceOf "apifootball" .live liveFixture 0) liveAnswer] }

def homeGoalRows : List OddsRow :=
  (oddsRows oddsRuntime (sourceOf "apifootball" .live liveFixture 0) liveAnswer).getD []

/-- And when they are stored. -/
def quoted : OddsWorld :=
  { answered with
    odds := ⟨[homeGoalSnapshot], List.pairwise_singleton _ _, by
      simp only [List.mem_singleton, forall_eq]
      decide⟩
    trace := .inserted homeGoalRows :: answered.trace }

abbrev liveSync : System OddsAction OddsAction.Result Nat OddsWorld := oddsSync oddsRuntime "apifootball"

theorem homeGoalRows_eq :
    oddsRows oddsRuntime (sourceOf "apifootball" .live liveFixture 0) liveAnswer = some homeGoalRows := by
  have hsome : (oddsRows oddsRuntime (sourceOf "apifootball" .live liveFixture 0) liveAnswer).isSome =
      true := by decide +kernel
  obtain ⟨rows, hrows⟩ := Option.isSome_iff_exists.1 hsome
  rw [homeGoalRows, hrows]
  rfl

theorem liveSync_returns :
    Returns liveSync 0 (syncOdds oddsRuntime "apifootball" .live) noOdds ⟨1, 1⟩ quoted := by
  have hsnapshots : homeGoalRows.map (·.snapshot? "a") = [some homeGoalSnapshot] := by decide +kernel
  have hplaces : homeGoalRows.map (·.fixtureId) = ["f"] := by decide +kernel
  obtain ⟨row, hrow⟩ : ∃ row, homeGoalRows = [row] := by
    refine List.length_eq_one_iff.1 ?_
    rw [← List.length_map (f := (·.fixtureId)), hplaces]
    rfl
  rw [hrow, List.map_singleton] at hsnapshots hplaces
  have hmatched : Returns liveSync 0 (OddsCall.matchesOf .live) noOdds [liveFixture] noOdds :=
    ⟨_, _, .matched (r := [liveFixture]) (.refl _), rfl, rfl⟩
  have hfetched : Returns liveSync 0 (OddsCall.fetch .live liveFixture) noOdds (liveAnswer, 0) answered :=
    ⟨_, _, .fetched liveAnswer, rfl, rfl⟩
  have hinserted : Returns liveSync 0 (OddsCall.insert homeGoalRows) answered () quoted := by
    have hstored : List.Forall₂ (fun row s => row.snapshot? s.id = some s) homeGoalRows
        [homeGoalSnapshot] := by
      rw [hrow]
      exact .cons (List.singleton_inj.1 hsnapshots) .nil
    refine ⟨_, _, .inserted hstored (fun r hr => ?_) rfl, rfl, rfl⟩
    rw [hrow, List.mem_singleton] at hr
    rw [hr, List.singleton_inj.1 hplaces]
    decide +kernel
  have hingested : Returns liveSync 0 (ingestOddsResponse oddsRuntime
      (sourceOf "apifootball" .live liveFixture 0) liveAnswer) answered 1 quoted := by
    have hone : homeGoalRows.length = 1 := by rw [hrow]; rfl
    have hfull : ¬ homeGoalRows.isEmpty = true := by rw [hrow]; exact Bool.false_ne_true
    rw [ingestOddsResponse, homeGoalRows_eq]
    dsimp only
    rw [if_neg hfull]
    exact hinserted.bind (returns_pure.2 ⟨hone, rfl⟩)
  have heach : Returns liveSync 0 (syncEach oddsRuntime "apifootball" .live [liveFixture]) noOdds 1 quoted :=
    hfetched.bind (hingested.bind (returns_pure.2 ⟨rfl, rfl⟩))
  exact hmatched.bind (heach.bind (returns_pure.2 ⟨rfl, rfl⟩))

/-- The odds are fetched and stored. -/
theorem liveSync_run : ∃ procs, Reachable liveSync (.init noOdds) ⟨quoted, procs⟩ := by
  have hsync : Alone liveSync 0 ((syncOdds oddsRuntime "apifootball" .live).run >>= fun _ => .ret ())
      noOdds () quoted := alone_bind.2 ⟨_, _, liveSync_returns, rfl, rfl⟩
  have hstart : Reachable liveSync (.init noOdds) _ :=
    Reachable.init.step (.start (i := 0) rfl ⟨.live, rfl⟩)
  exact ⟨_, Alone.reachable hstart hsync (by dsimp only; rw [Function.update_self])⟩

/-- A lookup, a minute later. -/
def homeGoalLookup : ExecutableQuoteLookup :=
  ⟨⟨"1", "TEAM_GOALS_FT", "HOME_OVER_0.5", none, none⟩, 60000, 120000⟩

/-- It finds the price, which was offered. -/
theorem latest_offer_live : ∃ q,
    selectLatest .codePoints (loadCandidates quoted.odds ⟨["1"], -60000, 60000⟩) homeGoalLookup = some q ∧
      q.oddValue = 1850 ∧
        quoted.Offered oddsRuntime "1" "Buts match" true q.receivedAt q.bookmakerKey q.oddValue := by
  obtain ⟨procs, h⟩ := liveSync_run
  have hquote : (selectLatest .codePoints (loadCandidates quoted.odds ⟨["1"], -60000, 60000⟩)
      homeGoalLookup).map (·.oddValue) = some 1850 := by decide +kernel
  obtain ⟨q, hselected, hodd⟩ := Option.map_eq_some_iff.1 hquote
  have hcovers : QuoteCandidatesQuery.Covers ⟨["1"], -60000, 60000⟩ homeGoalLookup :=
    ⟨List.mem_singleton_self _, by decide, by decide⟩
  have htarget : quoteTargetForRuleMarket "1" "Buts match" true = some homeGoalLookup.target := rfl
  exact ⟨q, hselected, hodd, ((latest_offer ⟨rfl, rfl⟩ h htarget hcovers).1 q hselected).1⟩

end Sample

end ApiScore
