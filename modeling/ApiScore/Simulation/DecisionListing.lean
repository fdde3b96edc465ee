import ApiScore.Execution.OrderListing
import ApiScore.Execution.Replay
import ApiScore.Simulation.DecisionCursor

/-!
# The listing of the decisions

`listDecisions` shows the decisions of a run that pass the filters, the latest first, a page at a
time.  The column holds milliseconds, as the dates of the cursor do, so that a page goes on right
after the decision that ended the one before, in the middle of the decisions of one instant as well.

* `precedes_cursor_iff` — the test of the query is the order of the listing.
* `serves_listDecisions` — a page is what follows the cursor.
* `listDecisions_pages` — to follow the cursors shows every decision, once and in order.
-/

set_option autoImplicit false

namespace ApiScore

open Ranked Relational Paging

/-! ## What is listed -/

/-- The decisions, by generated identifiers, at dates that the column holds: from the year 1000 to
the year 9999, in milliseconds. -/
structure DecisionTable where
  decisions : Table decisionSchema
  generated : ∀ d ∈ decisions, isGeneratedId d.id = true ∧ d.id.length = 36
  dated : ∀ d ∈ decisions, -30610224000000 ≤ d.decidedAt ∧ d.decidedAt ≤ 253402300799999

structure DecisionView where
  id : String
  decidedAt : Int
  fixtureId : String
  marketType : String
  selection : String
  status : DecisionStatus
  rejectionCode : Option RejectionCode
  stake : Option Int
  decisionOdd : Option Int
  executableOdd : Option Int
  slippagePct : Option Int
  outcome : Option DecisionOutcome
  profit : Option Int
  currency : String

def BetDecision.view (d : BetDecision) : DecisionView where
  id := d.id
  decidedAt := d.decidedAt
  fixtureId := d.fixtureId
  marketType := d.marketType
  selection := d.selection
  status := d.status
  rejectionCode := d.rejectionCode
  stake := d.stake
  decisionOdd := d.decisionOdd
  executableOdd := d.executableOdd
  slippagePct := d.slippagePct
  outcome := d.outcome
  profit := d.profit
  currency := d.currency

/-- The filters, where those that are absent select all. -/
structure DecisionFilters where
  cursor : Option String
  limit : Int
  status : Option DecisionStatus
  marketType : Option String
  decidedFrom : Option Int
  decidedTo : Option Int

/-- `Math.min(Math.max(filters.limit, 1), MAX_DECISIONS_PAGE)`. -/
def DecisionFilters.pageSize (f : DecisionFilters) : Nat := (min (max f.limit 1) 200).toNat

/-- `d.decidedAt < :cursorAt OR (d.decidedAt = :cursorAt AND d.id < :cursorId)`.  Generated
identifiers are ordered by their characters. -/
def DecisionCursor.precedes (c : DecisionCursor) (d : BetDecision) : Bool :=
  decide (d.decidedAt < c.decidedAt) || (d.decidedAt == c.decidedAt && compare d.id c.id == .lt)

/-- `ORDER BY decided_at DESC, id DESC`. -/
def latestDecision : BetDecision → BetDecision → Ordering :=
  compareLex (comparing laterFirst (·.decidedAt)) (comparing (fun a b => compare b a) (·.id))

def BetDecision.cursor (d : BetDecision) : DecisionCursor := ⟨d.decidedAt, d.id⟩

structure DecisionPage where
  data : List DecisionView
  nextCursor : Option String

section Listing

-- `textEq` is `=` of the collation of the column
variable (reader : CursorReader) (textEq : String → String → Bool) (runIds : List String)
  (table : DecisionTable) (runId : String)

/-- Is the decision selected by the filters, apart from the cursor? -/
def DecisionFilters.selects (f : DecisionFilters) (d : BetDecision) : Bool :=
  f.status.all (d.status == ·) &&
  f.marketType.all (fun marketType => marketType == "" || textEq d.marketType marketType) &&
  f.decidedFrom.all (fun t => decide (t ≤ d.decidedAt)) &&
  f.decidedTo.all (fun t => decide (d.decidedAt < t))

/-- `listDecisions`. -/
def listDecisions (f : DecisionFilters) : Except ServiceError DecisionPage := do
  if runId ∉ runIds then throw (.http ("Simulation " ++ runId ++ " introuvable"))
  let cursor ← (f.cursor.filter (· ≠ "")).mapM (decodeCursor reader)
  let selected := table.decisions.rows.filter fun d =>
    d.simulationRunId == runId && f.selects textEq d && cursor.all (·.precedes d)
  let rows := (sort latestDecision selected).take (f.pageSize + 1)
  let page := rows.take f.pageSize
  return {
    data := page.map (·.view)
    nextCursor :=
      if f.pageSize < rows.length then page.getLast?.map fun d => encodeCursor d.cursor else none }

/-- What a request with a cursor fetches. -/
def fetchDecisions (f : DecisionFilters) (cursor : Option String) :
    Except ServiceError (List DecisionView × Option String) :=
  (listDecisions reader textEq runIds table runId { f with cursor }).map fun page =>
    (page.data, page.nextCursor)

/-- Every decision of the run that the filters select, the latest first. -/
def DecisionTable.listed (f : DecisionFilters) : List BetDecision :=
  sort latestDecision (table.decisions.rows.filter fun d =>
    d.simulationRunId == runId && f.selects textEq d)

end Listing

theorem DecisionFilters.pageSize_pos (f : DecisionFilters) : 0 < f.pageSize := by
  rw [DecisionFilters.pageSize]
  omega

/-! ## The order of the listing -/

section Order

variable {table : DecisionTable} {a b c : BetDecision}

instance : Std.TransCmp latestDecision := by
  rw [latestDecision]
  infer_instance

/-- **The test of the query is the order of the listing.** -/
theorem precedes_cursor_iff : a.cursor.precedes b = true ↔ latestDecision a b = .lt := by
  rw [DecisionCursor.precedes, Bool.or_eq_true, decide_eq_true_eq, Bool.and_eq_true, beq_iff_eq,
    beq_iff_eq, latestDecision, compareLex, comparing, laterFirst]
  show b.decidedAt < a.decidedAt ∨ b.decidedAt = a.decidedAt ∧ compare b.id a.id = .lt ↔
    (compare b.decidedAt a.decidedAt).then (compare b.id a.id) = .lt
  cases hab : compare b.decidedAt a.decidedAt with
  | lt => exact iff_of_true (.inl (compare_lt_iff_lt.1 hab)) rfl
  | eq =>
    have heq := compare_eq_iff_eq.1 hab
    exact ⟨fun h => h.elim (fun hlt => absurd heq hlt.ne) And.right, fun h => .inr ⟨heq, h⟩⟩
  | gt =>
    have hgt := compare_gt_iff_gt.1 hab
    refine iff_of_false (fun h => ?_) (fun h => by cases h)
    rcases h with hlt | ⟨heq, -⟩
    · exact absurd hlt hgt.asymm
    · exact absurd heq hgt.ne'

theorem precedes_cursor_asymm (h : a.cursor.precedes b = true) : b.cursor.precedes a = false := by
  rw [precedes_cursor_iff] at h
  rw [← Bool.not_eq_true, precedes_cursor_iff]
  exact Std.OrientedCmp.not_lt_of_lt h

theorem precedes_cursor_trans (hab : a.cursor.precedes b = true)
    (hbc : b.cursor.precedes c = true) : a.cursor.precedes c = true := by
  rw [precedes_cursor_iff] at hab hbc ⊢
  exact Std.TransCmp.lt_trans hab hbc

theorem separates_decisions : Separates latestDecision table.decisions.rows := by
  intro a ha b hb hab
  rw [latestDecision, compareLex_eq_eq] at hab
  have hid : b.id = a.id := Std.LawfulEqOrd.eq_of_compare hab.2
  refine Table.eq_of_clash (t := table.decisions) ha hb ?_
  simp only [decisionSchema, hid, beq_self_eq_true, Bool.true_or]

end Order

/-! ## What is listed, in order -/

section Listed

variable {reader : CursorReader} {textEq : String → String → Bool} {runIds : List String}
  {table : DecisionTable} {runId : String} {f : DecisionFilters}

theorem mem_listedDecisions {d : BetDecision} : d ∈ table.listed textEq runId f ↔
    d ∈ table.decisions ∧ d.simulationRunId = runId ∧ f.selects textEq d = true := by
  rw [DecisionTable.listed, mem_sort, List.mem_filter, Table.mem_def, Bool.and_eq_true, beq_iff_eq]

theorem separates_listed (p : BetDecision → Bool) :
    Separates latestDecision (table.decisions.rows.filter p) :=
  separates_decisions.subset fun _ hd => List.mem_of_mem_filter hd

theorem nodup_listed : (table.listed textEq runId f).Nodup := by
  refine (perm_sort latestDecision _).nodup_iff.2 (List.Nodup.filter _ ?_)
  refine table.decisions.distinct.imp fun {a b} hclash hab => ?_
  subst hab
  simp only [decisionSchema, beq_self_eq_true, Bool.true_or] at hclash
  cases hclash

/-- No two decisions are listed at the same place. -/
theorem pairwise_listed :
    (table.listed textEq runId f).Pairwise fun a b => latestDecision a b = .lt := by
  have hsort : (table.listed textEq runId f).Pairwise fun a b => (latestDecision a b).isLE = true :=
    pairwise_sort latestDecision _
  refine (hsort.and nodup_listed).imp_of_mem fun {a b} ha hb ⟨hle, hne⟩ => ?_
  cases hab : latestDecision a b with
  | lt => rfl
  | eq =>
    have hsame := separates_decisions a (mem_listedDecisions.1 ha).1 b (mem_listedDecisions.1 hb).1
    exact absurd (hsame hab) hne
  | gt =>
    rw [hab] at hle
    cases hle

/-! ## The pages -/

theorem decodeCursor_cursor (reader : CursorReader) {d : BetDecision} (hd : d ∈ table.decisions) :
    decodeCursor reader (encodeCursor d.cursor) = .ok d.cursor := by
  obtain ⟨hid, hlength⟩ := table.generated d hd
  obtain ⟨hfrom, hto⟩ := table.dated d hd
  refine decodeCursor_encodeCursor reader hid hlength (abs_le.2 ⟨?_, ?_⟩)
  · show -8640000000000000 ≤ d.decidedAt
    omega
  · show d.decidedAt ≤ 8640000000000000
    omega

/-- The empty text is no cursor. -/
theorem decodeCursor_empty (reader : CursorReader) :
    decodeCursor reader "" = .error (.http "Curseur invalide") := by
  have hnone : reader.utf8Text (base64url.decode "".toList) = [] :=
    reader.utf8Text_ascii [] fun _ h => nomatch h
  rw [decodeCursor, hnone]
  rfl

theorem encodeCursor_ne_empty (reader : CursorReader) {d : BetDecision} (hd : d ∈ table.decisions) :
    encodeCursor d.cursor ≠ "" := by
  intro hempty
  have hread := decodeCursor_cursor reader hd
  rw [hempty, decodeCursor_empty] at hread
  cases hread

/-- **A page is what follows the cursor**, of what is listed. -/
theorem serves_listDecisions (hrun : runId ∈ runIds) :
    Serves (fetchDecisions reader textEq runIds table runId f) f.pageSize
      (fun r s => r.cursor.precedes s) (table.listed textEq runId f) (·.view)
      (fun d => encodeCursor d.cursor) := by
  intro c hc
  set left := (table.listed textEq runId f).filter fun s => c.all (·.cursor.precedes s) with hleft
  have hcursor : ((c.map fun d => encodeCursor d.cursor).filter (· ≠ "")).mapM
      (decodeCursor reader) = .ok (c.map (·.cursor)) := by
    cases c with
    | none => rfl
    | some r =>
      have hr := (mem_listedDecisions.1 (hc r rfl)).1
      have hkept : (some (encodeCursor r.cursor)).filter (· ≠ "") = some (encodeCursor r.cursor) :=
        Option.filter_eq_some_iff.2 ⟨rfl, decide_eq_true (encodeCursor_ne_empty reader hr)⟩
      rw [Option.map_some, hkept]
      show (some <$> decodeCursor reader (encodeCursor r.cursor)) = _
      rw [decodeCursor_cursor reader hr]
      rfl
  have hrows : sort latestDecision (table.decisions.rows.filter fun d =>
      d.simulationRunId == runId && f.selects textEq d && (c.map (·.cursor)).all (·.precedes d)) =
      left := by
    rw [hleft, DecisionTable.listed, filter_sort (separates_listed _), List.filter_filter]
    congr 1
    refine List.filter_congr fun d _ => ?_
    rw [Bool.and_comm (Option.all _ c)]
    cases c with
    | none => rfl
    | some r => rfl
  have htake : (left.take (f.pageSize + 1)).take f.pageSize = left.take f.pageSize := by
    rw [List.take_take, Nat.min_eq_left (Nat.le_succ _)]
  have hmore : f.pageSize < (left.take (f.pageSize + 1)).length ↔ f.pageSize < left.length := by
    rw [List.length_take]
    omega
  have hsize (cursor : Option String) : DecisionFilters.pageSize { f with cursor } = f.pageSize :=
    rfl
  have hselects (cursor : Option String) :
      DecisionFilters.selects textEq { f with cursor } = f.selects textEq := rfl
  simp only [fetchDecisions, listDecisions, hrun, not_true_eq_false, if_false, hcursor, bind,
    Except.bind, pure, Except.pure, Except.map, hsize, hselects, hrows, htake, hmore]

theorem fetched_listed (hrun : runId ∈ runIds) :
    Fetched (fetchDecisions reader textEq runIds table runId f) none
      ((table.listed textEq runId f).map (·.view)) :=
  (serves_listDecisions hrun).fetched f.pageSize_pos
    (pairwise_listed.imp fun h => precedes_cursor_iff.2 h) (fun _ _ => precedes_cursor_asymm)
    fun _ _ _ => precedes_cursor_trans

/-- **To follow the cursors shows every decision that the filters select**, once, the latest first
and those of one instant by their identifiers, and comes to an end. -/
theorem listDecisions_pages (hrun : runId ∈ runIds) :
    (∀ shown, Fetched (fetchDecisions reader textEq runIds table runId f) none shown ↔
      shown = (table.listed textEq runId f).map (·.view)) ∧
    (∀ d, d ∈ table.listed textEq runId f ↔
      d ∈ table.decisions ∧ d.simulationRunId = runId ∧ f.selects textEq d = true) ∧
    (table.listed textEq runId f).Nodup ∧
    (table.listed textEq runId f).Pairwise fun a b =>
      b.decidedAt < a.decidedAt ∨ b.decidedAt = a.decidedAt ∧ b.id < a.id := by
  refine ⟨fun shown => ⟨fun h => h.unique (fetched_listed hrun), ?_⟩, fun _ => mem_listedDecisions,
    nodup_listed, pairwise_listed.imp fun {a b} hab => ?_⟩
  · rintro rfl
    exact fetched_listed hrun
  · rw [← precedes_cursor_iff, DecisionCursor.precedes, Bool.or_eq_true, decide_eq_true_eq,
      Bool.and_eq_true, beq_iff_eq, beq_iff_eq] at hab
    exact hab.imp_right fun ⟨htie, hid⟩ => ⟨htie, compareOfLessAndEq_eq_lt.1 hid⟩

end Listed

/-! ## Two decisions of an instant -/

namespace Sample

/-- Texts of ASCII, and the dates that are written. -/
def cursorReader : CursorReader where
  utf8Text bytes := bytes.map fun b => b.toNat.toUInt16
  dateOf text := instantOf (text.map fun c => Char.ofNat c.toNat)
  utf8Text_ascii text h := by
    rw [List.map_map]
    refine (List.map_congr_left fun c hc => ?_).trans (List.map_id text)
    have hascii := h c hc
    have hbyte : c.toNat.toUInt8.toNat = c.toNat := Nat.mod_eq_of_lt (by omega)
    rw [Function.comp_apply, hbyte, id_eq]
    exact UInt16.ofNat_toNat
  dateOf_toISOString ms _ := by
    rw [chars_jsText (ascii_date ms)]
    exact instantOf_toISOString ms

def tiedDecision (id key : String) : BetDecision :=
  { decision with id := id, idempotencyKey := key, decidedAt := 1783693860000 }

def firstTied : BetDecision := tiedDecision "6f1c1f62-0d0e-4d63-9c5b-2f6f0a6d7b01" "key-1"

def lastTied : BetDecision := tiedDecision "6f1c1f62-0d0e-4d63-9c5b-2f6f0a6d7b02" "key-2"

def tiedDecisions : DecisionTable where
  decisions := ⟨[firstTied, lastTied], by decide +kernel, by decide +kernel⟩
  generated := by decide +kernel
  dated := by decide +kernel

/-- All the decisions, one at a time. -/
def singly : DecisionFilters := ⟨none, 1, none, none, none, none⟩

end Sample

theorem listDecisions_pages_tied :
    Sample.tiedDecisions.listed (· == ·) "run" Sample.singly = [Sample.lastTied, Sample.firstTied] ∧
    Fetched (fetchDecisions Sample.cursorReader (· == ·) ["run"] Sample.tiedDecisions "run"
      Sample.singly) none [Sample.lastTied.view, Sample.firstTied.view] := by
  have hlisted : Sample.tiedDecisions.listed (· == ·) "run" Sample.singly =
      [Sample.lastTied, Sample.firstTied] := by
    decide +kernel
  refine ⟨hlisted, ((listDecisions_pages (List.mem_singleton_self "run")).1 _).2 ?_⟩
  rw [hlisted]
  rfl

end ApiScore
