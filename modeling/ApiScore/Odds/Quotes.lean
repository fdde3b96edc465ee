import ApiScore.Lib.Sorting
import ApiScore.Lib.Table
import ApiScore.Execution.Types

/-!
# Executable quotes

`executable-quote.service.ts`: the odds a bet can be taken at.  `loadCandidates` reads the rows of
`odds_snapshots` received within a window, and `selectLatest` picks the latest of them on a target at
an instant.  The live path, the simulation, the paper operator and the replay all select with it.

* `OddsSnapshot`, `oddsSchema` — the table.
* `loadCandidates`, `selectLatest` — the query and the choice.
* `selectLatest_eq_some` — the quote chosen is the first of those that fit.
* `selectLatest_perm` — the order of the candidates does not matter.
-/

set_option autoImplicit false

namespace ApiScore

open Relational Ranked

/-! ## The order of texts -/

/-- Characters of a text that a collation never ignores. -/
def isPlainText (text : String) : Bool := text.toList.all fun c => 32 ≤ c.toNat && c.toNat < 127

/-- `String.prototype.localeCompare`: a consistent comparison, under which different texts may well
compare equal, but not different texts of printable ASCII characters. -/
structure Collation where
  compare : String → String → Ordering
  trans : Std.TransCmp compare
  eq_of_plain : ∀ {a b : String}, isPlainText a = true → isPlainText b = true →
    compare a b = .eq → a = b

instance (C : Collation) : Std.TransCmp C.compare := C.trans

/-- The order of the code points. -/
def Collation.codePoints : Collation where
  compare a b := Ord.compare a b
  trans := inferInstanceAs (Std.TransOrd String)
  eq_of_plain _ _ h := Std.LawfulEqOrd.eq_of_compare h

/-! ## Snapshots of the odds -/

/-- A row of `odds_snapshots`. -/
structure OddsSnapshot where
  id : String
  fixtureId : String
  providerFixtureId : String
  providerKey : Option String
  bookmakerKey : Option String
  marketKey : Option String
  selectionKey : Option String
  /-- In thousandths. -/
  oddValue : Int
  observedAt : Option Int
  receivedAt : Option Int
  available : Option Bool
  deriving DecidableEq

/-- The identifiers are generated by the database: hexadecimal digits and hyphens. -/
def isGeneratedId (id : String) : Bool :=
  id.toList.all fun c => c.isDigit || ('a' ≤ c && c ≤ 'f') || c == '-'

def oddsSchema : Schema OddsSnapshot where
  clash a b := a.id == b.id
  symm _ _ := BEq.comm
  check s := isGeneratedId s.id

/-! ## Quotes -/

structure ExecutableQuote where
  snapshotId : String
  providerKey : String
  fixtureId : String
  providerFixtureId : String
  bookmakerKey : String
  marketKey : String
  selectionKey : String
  /-- In thousandths, as the column of the snapshots is. -/
  oddValue : Int
  observedAt : Int
  receivedAt : Int
  available : Bool
  deriving DecidableEq

/-- What a quote is looked up for. -/
structure ExecutableQuoteTarget where
  providerFixtureId : String
  marketKey : String
  selectionKey : String
  providerKey : Option String
  bookmakerKey : Option String
  deriving DecidableEq

structure ExecutableQuoteLookup where
  target : ExecutableQuoteTarget
  instant : Int
  maxQuoteAgeMs : Int
  deriving DecidableEq

structure QuoteCandidatesQuery where
  providerFixtureIds : List String
  receivedFrom : Int
  receivedTo : Int
  deriving DecidableEq

/-- The latest quote on a target at an instant. -/
abbrev QuoteSelector := ExecutableQuoteTarget → Int → Option ExecutableQuote

/-- `DEFAULT_MAX_QUOTE_AGE_MS`. -/
def defaultMaxQuoteAgeMs : Int := 120000

/-- `quoteTargetForRuleMarket`: how a bet of the rules is named on the market. -/
def quoteTargetForRuleMarket (providerFixtureId marketType : String) (isHomeTeam : Bool) :
    Option ExecutableQuoteTarget :=
  let side := if isHomeTeam then "HOME" else "AWAY"
  if marketType = "Buts 1ère mi-temps" then
    some ⟨providerFixtureId, "TEAM_GOAL_1H", side ++ "_YES", none, none⟩
  else if marketType = "Buts 2ème mi-temps" then
    some ⟨providerFixtureId, "TEAM_GOAL_2H", side ++ "_YES", none, none⟩
  else if marketType = "Buts match" then
    some ⟨providerFixtureId, "TEAM_GOALS_FT", side ++ "_OVER_0.5", none, none⟩
  else none

theorem providerFixtureId_quoteTarget {providerFixtureId marketType : String} {isHomeTeam : Bool}
    {target : ExecutableQuoteTarget}
    (h : quoteTargetForRuleMarket providerFixtureId marketType isHomeTeam = some target) :
    target.providerFixtureId = providerFixtureId := by
  unfold quoteTargetForRuleMarket at h
  dsimp only at h
  split_ifs at h <;> rw [← Option.some.inj h]

/-! ## The query -/

/-- `toExecutableQuote`: the row as a quote, where it names what it is on and was not observed after
it was received. -/
def OddsSnapshot.toQuote? (s : OddsSnapshot) : Option ExecutableQuote :=
  match s.providerKey, s.bookmakerKey, s.marketKey, s.selectionKey, s.observedAt, s.receivedAt with
  | some providerKey, some bookmakerKey, some marketKey, some selectionKey, some observedAt,
      some receivedAt =>
    if s.available = some true ∧ 1000 < s.oddValue ∧ observedAt ≤ receivedAt then
      some { snapshotId := s.id, providerKey, fixtureId := s.fixtureId
             providerFixtureId := s.providerFixtureId, bookmakerKey, marketKey, selectionKey
             oddValue := s.oddValue, observedAt, receivedAt, available := true }
    else none
  | _, _, _, _, _, _ => none

/-- The rows that a query takes. -/
def QuoteCandidatesQuery.takes (query : QuoteCandidatesQuery) (quote : ExecutableQuote) : Bool :=
  query.providerFixtureIds.contains quote.providerFixtureId &&
    decide (query.receivedFrom ≤ quote.receivedAt) && decide (quote.receivedAt ≤ query.receivedTo)

/-- The later of two instants first. -/
def laterFirst (a b : Int) : Ordering := compare b a

instance : Std.TransCmp laterFirst := @Std.TransCmp.opposite _ (compare : Int → Int → Ordering) _

/-- `ORDER BY observed_at DESC, received_at DESC, id`. -/
def byRecency : ExecutableQuote → ExecutableQuote → Ordering :=
  compareLex (comparing laterFirst (·.observedAt))
    (compareLex (comparing laterFirst (·.receivedAt)) (comparing compare (·.snapshotId)))

/-- Every row of the table that can be executed at all. -/
def executableQuotes (t : Table oddsSchema) : List ExecutableQuote :=
  sort byRecency (t.rows.filterMap (·.toQuote?))

/-- `loadCandidates`. -/
def loadCandidates (t : Table oddsSchema) (query : QuoteCandidatesQuery) : List ExecutableQuote :=
  sort byRecency ((t.rows.filterMap (·.toQuote?)).filter query.takes)

/-! ## The choice -/

/-- The quote is on the target. -/
def ExecutableQuoteTarget.accepts (target : ExecutableQuoteTarget) (quote : ExecutableQuote) : Bool :=
  quote.providerFixtureId == target.providerFixtureId && quote.marketKey == target.marketKey &&
    quote.selectionKey == target.selectionKey &&
    target.providerKey.all (quote.providerKey == ·) &&
    target.bookmakerKey.all (quote.bookmakerKey == ·)

/-- The quote is on the target, was known at the instant, and is fresh enough. -/
def ExecutableQuoteLookup.accepts (lookup : ExecutableQuoteLookup) (quote : ExecutableQuote) : Bool :=
  lookup.target.accepts quote && quote.available && decide (1000 < quote.oddValue) &&
    decide (quote.observedAt ≤ quote.receivedAt) && decide (quote.receivedAt ≤ lookup.instant) &&
    decide (0 ≤ lookup.instant - quote.observedAt) &&
    decide (lookup.instant - quote.observedAt ≤ lookup.maxQuoteAgeMs)

/-- The latest first; the keys and the identifiers break the ties. -/
def Collation.latestFirst (C : Collation) : ExecutableQuote → ExecutableQuote → Ordering :=
  compareLex (comparing laterFirst (·.observedAt))
    (compareLex (comparing laterFirst (·.receivedAt))
      (compareLex (comparing C.compare (·.providerKey))
        (compareLex (comparing C.compare (·.bookmakerKey)) (comparing C.compare (·.snapshotId)))))

/-- `selectLatest`. -/
def selectLatest (C : Collation) (candidates : List ExecutableQuote)
    (lookup : ExecutableQuoteLookup) : Option ExecutableQuote :=
  (sort C.latestFirst (candidates.filter lookup.accepts)).head?

instance (C : Collation) : Std.TransCmp C.latestFirst := by
  rw [Collation.latestFirst]
  infer_instance

instance : Std.TransCmp byRecency := by
  rw [byRecency]
  infer_instance

/-! ## Quotes of a table -/

/-- What a row must hold to be a quote, and what the quote holds of it. -/
theorem OddsSnapshot.toQuote?_eq_some {s : OddsSnapshot} {q : ExecutableQuote}
    (h : s.toQuote? = some q) :
    s.id = q.snapshotId ∧ s.providerFixtureId = q.providerFixtureId ∧
      s.providerKey = some q.providerKey ∧ s.bookmakerKey = some q.bookmakerKey ∧
      s.marketKey = some q.marketKey ∧ s.selectionKey = some q.selectionKey ∧
      s.observedAt = some q.observedAt ∧ s.receivedAt = some q.receivedAt ∧
      s.available = some true ∧ q.available = true ∧ 1000 < q.oddValue ∧
      q.observedAt ≤ q.receivedAt := by
  unfold toQuote? at h
  split at h
  · split_ifs at h with hfit
    obtain rfl := Option.some.inj h
    obtain ⟨havailable, hodd, hreceived⟩ := hfit
    refine ⟨rfl, rfl, ?_, ?_, ?_, ?_, ?_, ?_, havailable, rfl, hodd, hreceived⟩ <;> assumption
  · cases h

/-- The quotes are rows of the table. -/
def QuotesOf (t : Table oddsSchema) (quotes : List ExecutableQuote) : Prop :=
  ∀ q ∈ quotes, ∃ s ∈ t, s.toQuote? = some q

section Table

variable {t : Table oddsSchema} {quotes : List ExecutableQuote} {query : QuoteCandidatesQuery}

theorem isPlainText_of_isGeneratedId {id : String} (h : isGeneratedId id = true) :
    isPlainText id = true := by
  rw [isGeneratedId, List.all_eq_true] at h
  rw [isPlainText, List.all_eq_true]
  intro c hc
  have hchar := h c hc
  simp only [Char.isDigit, Bool.or_eq_true, Bool.and_eq_true, decide_eq_true_eq, beq_iff_eq,
    Char.le_def, UInt32.le_iff_toNat_le] at hchar ⊢
  rcases hchar with (⟨hlo, hhi⟩ | ⟨hlo, hhi⟩) | rfl
  · exact ⟨hlo.trans' (by decide), hhi.trans_lt (by decide)⟩
  · exact ⟨hlo.trans' (by decide), hhi.trans_lt (by decide)⟩
  · decide

/-- **Two quotes of a table differ by their identifiers, which no collation confuses.** -/
theorem QuotesOf.separates_ids (h : QuotesOf t quotes) (C : Collation) :
    Separates (comparing C.compare (·.snapshotId)) quotes := by
  intro a ha b hb hid
  obtain ⟨s, hs, hsa⟩ := h a ha
  obtain ⟨u, hu, hub⟩ := h b hb
  have hplain : ∀ x ∈ t, isPlainText x.id = true := fun x hx =>
    isPlainText_of_isGeneratedId (t.checked x hx)
  obtain ⟨hida, -⟩ := OddsSnapshot.toQuote?_eq_some hsa
  obtain ⟨hidb, -⟩ := OddsSnapshot.toQuote?_eq_some hub
  have heq : a.snapshotId = b.snapshotId :=
    C.eq_of_plain (hida ▸ hplain s hs) (hidb ▸ hplain u hu) hid
  have hrow : s = u := by
    refine Table.eq_of_clash hs hu ?_
    simp only [oddsSchema, beq_iff_eq]
    exact (hida.trans heq).trans hidb.symm
  rw [hrow, hub] at hsa
  exact (Option.some.inj hsa).symm

theorem QuotesOf.separates (h : QuotesOf t quotes) (C : Collation) :
    Separates C.latestFirst quotes := by
  intro a ha b hb hab
  simp only [Collation.latestFirst, compareLex_eq_eq] at hab
  exact h.separates_ids C a ha b hb hab.2.2.2.2

theorem mem_executableQuotes {q : ExecutableQuote} :
    q ∈ executableQuotes t ↔ ∃ s ∈ t, s.toQuote? = some q := by
  rw [executableQuotes, mem_sort, List.mem_filterMap]
  rfl

theorem mem_loadCandidates {q : ExecutableQuote} :
    q ∈ loadCandidates t query ↔ (∃ s ∈ t, s.toQuote? = some q) ∧ query.takes q = true := by
  rw [loadCandidates, mem_sort, List.mem_filter, List.mem_filterMap]
  rfl

theorem quotesOf_executableQuotes (t : Table oddsSchema) : QuotesOf t (executableQuotes t) :=
  fun _ => mem_executableQuotes.1

theorem quotesOf_loadCandidates (t : Table oddsSchema) (query : QuoteCandidatesQuery) :
    QuotesOf t (loadCandidates t query) :=
  fun _ hq => (mem_loadCandidates.1 hq).1

end Table

/-! ## The quote chosen -/

section Select

variable {C : Collation} {t : Table oddsSchema} {quotes quotes' : List ExecutableQuote}
  {query : QuoteCandidatesQuery} {lookup : ExecutableQuoteLookup} {q : ExecutableQuote}

/-- A quote that fits is on the target, available, above 1, and known at the instant. -/
theorem ExecutableQuoteLookup.accepts_iff :
    lookup.accepts q = true ↔ lookup.target.accepts q = true ∧ q.available = true ∧
      1000 < q.oddValue ∧ q.observedAt ≤ q.receivedAt ∧ q.receivedAt ≤ lookup.instant ∧
      q.observedAt ≤ lookup.instant ∧ lookup.instant - lookup.maxQuoteAgeMs ≤ q.observedAt := by
  simp only [accepts, Bool.and_eq_true, decide_eq_true_eq]
  constructor
  · rintro ⟨⟨⟨⟨⟨⟨htarget, havailable⟩, hodd⟩, hreceived⟩, hknown⟩, hage⟩, hfresh⟩
    exact ⟨htarget, havailable, hodd, hreceived, hknown, by omega, by omega⟩
  · rintro ⟨htarget, havailable, hodd, hreceived, hknown, hage, hfresh⟩
    exact ⟨⟨⟨⟨⟨⟨htarget, havailable⟩, hodd⟩, hreceived⟩, hknown⟩, by omega⟩, by omega⟩

theorem selectLatest_spec (h : selectLatest C quotes lookup = some q) :
    q ∈ quotes ∧ lookup.accepts q = true ∧
      ∀ q' ∈ quotes, lookup.accepts q' = true → (C.latestFirst q q').isLE = true := by
  obtain ⟨hq, hfirst⟩ := head?_sort_spec h
  rw [List.mem_filter] at hq
  exact ⟨hq.1, hq.2, fun q' hq' hfits => hfirst q' (List.mem_filter.2 ⟨hq', hfits⟩)⟩

/-- **The quote chosen fits, and comes before every other one that does.** -/
theorem selectLatest_eq_some (hof : QuotesOf t quotes) :
    selectLatest C quotes lookup = some q ↔ q ∈ quotes ∧ lookup.accepts q = true ∧
      ∀ q' ∈ quotes, lookup.accepts q' = true → (C.latestFirst q q').isLE = true := by
  refine ⟨selectLatest_spec, fun ⟨hq, hfits, hfirst⟩ => ?_⟩
  refine (head?_sort_eq_some ((hof.separates C).subset fun _ => List.mem_of_mem_filter)).2 ?_
  refine ⟨List.mem_filter.2 ⟨hq, hfits⟩, fun q' hq' => ?_⟩
  rw [List.mem_filter] at hq'
  exact hfirst q' hq'.1 hq'.2

/-- Two lists of candidates in which the same quotes fit give the same choice. -/
theorem selectLatest_congr (hof : QuotesOf t quotes)
    (h : (quotes.filter lookup.accepts).Perm (quotes'.filter lookup.accepts)) :
    selectLatest C quotes lookup = selectLatest C quotes' lookup := by
  rw [selectLatest, selectLatest,
    sort_eq_of_perm ((hof.separates C).subset fun _ => List.mem_of_mem_filter) h]

/-- Two lists of quotes that hold the same ones that fit give the same choice. -/
theorem selectLatest_ext {t' : Table oddsSchema} (hof : QuotesOf t quotes)
    (hof' : QuotesOf t' quotes') (h : ∀ q, lookup.accepts q = true → (q ∈ quotes ↔ q ∈ quotes')) :
    selectLatest C quotes lookup = selectLatest C quotes' lookup := by
  refine Option.ext fun q => ?_
  rw [selectLatest_eq_some hof, selectLatest_eq_some hof']
  constructor
  · rintro ⟨hq, hfits, hfirst⟩
    exact ⟨(h q hfits).1 hq, hfits, fun q' hq' hfits' => hfirst q' ((h q' hfits').2 hq') hfits'⟩
  · rintro ⟨hq, hfits, hfirst⟩
    exact ⟨(h q hfits).2 hq, hfits, fun q' hq' hfits' => hfirst q' ((h q' hfits').1 hq') hfits'⟩

/-- **The order of the candidates does not matter.** -/
theorem selectLatest_perm (hof : QuotesOf t quotes) (h : quotes.Perm quotes') :
    selectLatest C quotes lookup = selectLatest C quotes' lookup :=
  selectLatest_congr hof (h.filter _)

/-- **A window that takes whatever fits loses nothing.** -/
theorem selectLatest_loadCandidates
    (htakes : ∀ q ∈ executableQuotes t, lookup.accepts q = true → query.takes q = true) :
    selectLatest C (loadCandidates t query) lookup =
      selectLatest C (executableQuotes t) lookup := by
  refine selectLatest_congr (quotesOf_loadCandidates t query) ?_
  refine ((perm_sort byRecency _).filter _).trans (.trans ?_ ((perm_sort byRecency _).filter _).symm)
  rw [List.filter_filter]
  refine .of_eq (List.filter_congr fun q hq => ?_)
  have hmem : q ∈ executableQuotes t := mem_sort.2 hq
  cases hfits : lookup.accepts q with
  | false => rfl
  | true => rw [htakes q hmem hfits, Bool.and_self]

/-- What fits was received between the oldest admissible observation and the instant. -/
theorem QuoteCandidatesQuery.takes_of_accepts
    (hfixture : lookup.target.providerFixtureId ∈ query.providerFixtureIds)
    (hfrom : query.receivedFrom ≤ lookup.instant - lookup.maxQuoteAgeMs)
    (hto : lookup.instant ≤ query.receivedTo) (h : lookup.accepts q = true) :
    query.takes q = true := by
  obtain ⟨htarget, -, -, hreceived, hknown, -, hfresh⟩ := ExecutableQuoteLookup.accepts_iff.1 h
  simp only [ExecutableQuoteTarget.accepts, Bool.and_eq_true, beq_iff_eq] at htarget
  simp only [takes, Bool.and_eq_true, decide_eq_true_eq, List.contains_iff_mem]
  exact ⟨⟨htarget.1.1.1.1 ▸ hfixture, by omega⟩, by omega⟩

end Select

end ApiScore
