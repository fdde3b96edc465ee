import ApiScore.Lib.Insertion
import ApiScore.Lib.Paging
import ApiScore.Execution.Entities
import ApiScore.Matches.Json
import ApiScore.Odds.Quotes

/-!
# The listing of the orders

`listOrders` shows the orders that pass the filters, the latest first, a page at a time, each with
its receipt and the last item a reconciliation wrote about it.  A page that is not the last comes
with a cursor, made of the last order it shows, which the next request gives back.

The column holds microseconds, the cursor what a JavaScript date keeps of them.  Of the orders
created in the millisecond of the last one shown, the next page has only those created right at its
start.

* `exists_pages` — to follow the cursors comes to an end, and shows no order twice or out of order.
* `listOrders_pages_iff` — every order that passes the filters is shown exactly when each page ends
  apart from what follows it.
* `listOrders_skips` — two orders of the same millisecond, one of which is never shown.
-/

set_option autoImplicit false

namespace ApiScore

open Ranked Relational Paging

/-! ## What is listed -/

/-- A row of `bet_receipts`, with what is kept of the receipt. -/
structure StoredReceipt where
  orderId : String
  receiptHash : String
  redactedPayload : JsValue

/-- The columns of `reconciliation_items` that are selected. -/
structure CheckedItem where
  orderId : Option String
  result : ReconciliationResult
  severity : ReconciliationSeverity
  createdAt : Int

/-- The three tables that are read.  The orders are named by generated identifiers. -/
structure OrderTables where
  orders : Table orderSchema
  receipts : List StoredReceipt
  items : List CheckedItem
  generated : ∀ o ∈ orders, isGeneratedId o.id = true ∧ o.id.length = 36

structure ReceiptView where
  receiptHash : String
  redactedPayload : JsValue

structure ReconciliationView where
  result : ReconciliationResult
  severity : ReconciliationSeverity
  checkedAt : Int

/-- An order, as it is shown.  Instants are JavaScript dates. -/
structure OrderView where
  id : String
  decisionId : String
  accountId : String
  mode : StoredMode
  operatorKey : String
  status : OrderStatus
  rejectionCode : Option RejectionCode
  statusReason : Option String
  externalOrderId : Option String
  currency : String
  requestedStake : Int
  requestedOdd : Int
  minimumOdd : Int
  acceptedStake : Option Int
  acceptedOdd : Option Int
  payout : Option Int
  createdAt : Int
  settledAt : Option Int
  receipt : Option ReceiptView
  reconciliation : Option ReconciliationView

/-- A cursor, decoded: it is the `base64url` text of the array of a `toISOString` and an identifier. -/
structure OrderCursor where
  createdAt : Int
  id : String
  deriving DecidableEq

/-- `/^[0-9a-f-]{36}$/i`. -/
def isCursorId (id : String) : Bool :=
  id.length == 36 && id.toList.all fun c =>
    c.isDigit || ('a' ≤ c && c ≤ 'f') || ('A' ≤ c && c ≤ 'F') || c == '-'

/-- `decodeOrderCursor`, of a cursor that is the text of a date and an identifier. -/
def decodeOrderCursor (cursor : OrderCursor) : Except String OrderCursor :=
  if isCursorId cursor.id then .ok cursor else .error "Curseur invalide"

/-- The filters, where those that are absent select all.  The instants are JavaScript dates. -/
structure OrderFilters where
  accountId : Option String
  status : Option OrderStatus
  createdFrom : Option Int
  createdTo : Option Int
  cursor : Option OrderCursor
  limit : Int

/-- Is the order selected by the filters, apart from the cursor?  A date is compared with the column
as it is. -/
def OrderFilters.selects (f : OrderFilters) (o : BetOrder) : Bool :=
  f.accountId.all (fun accountId => accountId == "" || o.accountId == accountId) &&
  f.status.all (o.status == ·) &&
  f.createdFrom.all (fun t => decide (t * 1000 ≤ o.createdAt)) &&
  f.createdTo.all (fun t => decide (o.createdAt < t * 1000))

/-- `o.createdAt < :cursorAt OR (o.createdAt = :cursorAt AND o.id < :cursorId)`.  Generated
identifiers are ordered by their characters. -/
def OrderCursor.precedes (c : OrderCursor) (o : BetOrder) : Bool :=
  decide (o.createdAt < c.createdAt * 1000) ||
    (o.createdAt == c.createdAt * 1000 && compare o.id c.id == .lt)

/-- `ORDER BY created_at DESC, id DESC`. -/
def latestOrder : BetOrder → BetOrder → Ordering :=
  compareLex (comparing laterFirst (·.createdAt)) (comparing (fun a b => compare b a) (·.id))

/-- `Math.min(Math.max(filters.limit, 1), 200)`. -/
def OrderFilters.pageSize (f : OrderFilters) : Nat := (min (max f.limit 1) 200).toNat

/-- The latest item of the order, of those that were read. -/
def lastItem (items : List CheckedItem) (id : String) : Option CheckedItem :=
  (sort (comparing laterFirst (·.createdAt)) items).find? fun it => it.orderId == some id

def BetOrder.view (o : BetOrder) (receipts : List StoredReceipt) (items : List CheckedItem) :
    OrderView where
  id := o.id
  decisionId := o.decisionId
  accountId := o.accountId
  mode := o.mode
  operatorKey := o.operatorKey
  status := o.status
  rejectionCode := o.rejectionCode
  statusReason := o.statusReason
  externalOrderId := o.externalOrderId
  currency := o.currency
  requestedStake := o.requestedStake
  requestedOdd := o.requestedOdd
  minimumOdd := o.minimumOdd
  acceptedStake := o.acceptedStake
  acceptedOdd := o.acceptedOdd
  payout := o.payout
  createdAt := toDate o.createdAt
  settledAt := o.settledAt
  -- of two receipts of an order the last would be in the map
  receipt := ((receipts.filter fun r => r.orderId == o.id).getLast?).map fun r =>
    ⟨r.receiptHash, r.redactedPayload⟩
  reconciliation := (lastItem items o.id).map fun it =>
    ⟨it.result, it.severity, toDate it.createdAt⟩

/-- The cursor that an order makes: `toISOString` has three decimals. -/
def BetOrder.cursor (o : BetOrder) : OrderCursor := ⟨toDate o.createdAt, o.id⟩

structure OrderPage where
  data : List OrderView
  nextCursor : Option OrderCursor

/-- `listOrders`. -/
def listOrders (tables : OrderTables) (f : OrderFilters) : Except String OrderPage := do
  let cursor ← f.cursor.mapM decodeOrderCursor
  let selected := tables.orders.rows.filter fun o => f.selects o && cursor.all (·.precedes o)
  let rows := (sort latestOrder selected).take (f.pageSize + 1)
  let page := rows.take f.pageSize
  let ids := page.map (·.id)
  let receipts := tables.receipts.filter fun r => ids.contains r.orderId
  let items := tables.items.filter fun it => it.orderId.any ids.contains
  return {
    data := page.map (·.view receipts items)
    nextCursor := if f.pageSize < rows.length then page.getLast?.map (·.cursor) else none }

/-- The pages from a request on, each with the cursor of the one before, until there is none. -/
inductive Pages (tables : OrderTables) : OrderFilters → List OrderView → Prop where
  | last {f : OrderFilters} {page : OrderPage} : listOrders tables f = .ok page →
      page.nextCursor = none → Pages tables f page.data
  | next {f : OrderFilters} {page : OrderPage} {cursor : OrderCursor} {views : List OrderView} :
      listOrders tables f = .ok page → page.nextCursor = some cursor →
      Pages tables { f with cursor := some cursor } views → Pages tables f (page.data ++ views)

/-- Every order that the filters select, the latest first. -/
def OrderTables.listed (tables : OrderTables) (f : OrderFilters) : List BetOrder :=
  sort latestOrder (tables.orders.rows.filter f.selects)

/-- The orders listed after the one that ends a page were created before its millisecond, or right at
the start of it with a smaller identifier. -/
def EndsApart (f : OrderFilters) (orders : List BetOrder) : Prop :=
  ∀ (k i : Nat) (r s : BetOrder), orders[k * f.pageSize + (f.pageSize - 1)]? = some r →
    orders[i]? = some s → (k + 1) * f.pageSize ≤ i →
    s.createdAt < toDate r.createdAt * 1000 ∨
      s.createdAt = toDate r.createdAt * 1000 ∧ compare s.id r.id = .lt

def OrderTables.view (tables : OrderTables) (o : BetOrder) : OrderView :=
  o.view tables.receipts tables.items

variable {tables : OrderTables} {f : OrderFilters}

theorem OrderFilters.pageSize_pos (f : OrderFilters) : 0 < f.pageSize := by
  rw [OrderFilters.pageSize]
  omega

/-! ## The order of the listing -/

instance transCmp_reverse : Std.TransCmp fun a b : String => compare b a :=
  @Std.TransCmp.opposite _ (compare : String → String → Ordering) _

instance : Std.TransCmp latestOrder := by
  rw [latestOrder]
  infer_instance

theorem separates_orders : Separates latestOrder tables.orders.rows := by
  intro a ha b hb hab
  rw [latestOrder, compareLex_eq_eq] at hab
  have hid : b.id = a.id := Std.LawfulEqOrd.eq_of_compare hab.2
  refine Table.eq_of_clash (t := tables.orders) ha hb ?_
  simp only [orderSchema, hid, beq_self_eq_true, Bool.true_or]

theorem separates_selected (p : BetOrder → Bool) :
    Separates latestOrder (tables.orders.rows.filter p) :=
  separates_orders.subset fun _ ho => List.mem_of_mem_filter ho

theorem mem_listed {o : BetOrder} :
    o ∈ tables.listed f ↔ o ∈ tables.orders ∧ f.selects o = true := by
  rw [OrderTables.listed, mem_sort, List.mem_filter, Table.mem_def]

/-- An order that is listed before another, or is the same. -/
theorem isLE_latestOrder {a b : BetOrder} (h : (latestOrder a b).isLE = true) :
    b.createdAt < a.createdAt ∨ b.createdAt = a.createdAt ∧ (compare b.id a.id).isLE = true := by
  rw [latestOrder, compareLex, comparing, laterFirst] at h
  cases hab : compare b.createdAt a.createdAt with
  | lt => exact .inl (compare_lt_iff_lt.1 hab)
  | eq =>
    rw [hab] at h
    exact .inr ⟨compare_eq_iff_eq.1 hab, h⟩
  | gt =>
    rw [hab] at h
    cases h

/-! ## The cursor -/

theorem precedes_iff {c : OrderCursor} {o : BetOrder} : c.precedes o = true ↔
    o.createdAt < c.createdAt * 1000 ∨
      o.createdAt = c.createdAt * 1000 ∧ compare o.id c.id = .lt := by
  rw [OrderCursor.precedes, Bool.or_eq_true, decide_eq_true_eq, Bool.and_eq_true, beq_iff_eq,
    beq_iff_eq]

theorem endsApart_iff {orders : List BetOrder} : EndsApart f orders ↔
    EndsBefore f.pageSize (fun r s => r.cursor.precedes s) orders := by
  simp only [EndsBefore, precedes_iff]
  rfl

theorem toDate_mul_le (micros : Int) : toDate micros * 1000 ≤ micros := by
  rw [toDate]
  omega

/-- A cursor precedes nothing that is listed before its order. -/
theorem precedes_eq_false {a b : BetOrder} (h : (latestOrder a b).isLE = true) :
    b.cursor.precedes a = false := by
  rw [← Bool.not_eq_true, precedes_iff]
  have hdate : b.cursor.createdAt * 1000 ≤ b.createdAt := toDate_mul_le b.createdAt
  rintro (hlt | ⟨heq, hid⟩)
  · rcases isLE_latestOrder h with hba | ⟨hba, -⟩ <;> omega
  · rcases isLE_latestOrder h with hba | ⟨-, hba⟩
    · omega
    · have hswap : compare b.id a.id = .gt := by
        rw [@Std.OrientedCmp.eq_swap _ compare _ b.id, show compare a.id b.id = .lt from hid]
        rfl
      rw [hswap] at hba
      cases hba

/-- The milliseconds of the cursors come in the order of the orders. -/
theorem precedes_trans {a b o : BetOrder} (hab : a.cursor.precedes b = true)
    (hbo : b.cursor.precedes o = true) : a.cursor.precedes o = true := by
  rw [precedes_iff] at hab hbo ⊢
  have hdate : b.cursor.createdAt * 1000 ≤ b.createdAt := toDate_mul_le b.createdAt
  rcases hab with hlt | ⟨heq, hid⟩
  · left
    rcases hbo with hbo | ⟨hbo, -⟩ <;> omega
  · -- the order begins its millisecond, and its cursor loses nothing
    have hwhole : b.cursor.createdAt = a.cursor.createdAt := by
      show toDate b.createdAt = _
      rw [heq, toDate]
      omega
    rw [hwhole] at hbo
    refine hbo.imp id fun ⟨ho, hoid⟩ => ⟨ho, ?_⟩
    exact Std.TransCmp.lt_trans hoid hid

theorem decodeOrderCursor_cursor {o : BetOrder} (ho : o ∈ tables.orders) :
    decodeOrderCursor o.cursor = .ok o.cursor := by
  obtain ⟨hid, hlen⟩ := tables.generated o ho
  have hcursor : isCursorId o.id = true := by
    rw [isGeneratedId, List.all_eq_true] at hid
    rw [isCursorId, hlen, Bool.and_eq_true, List.all_eq_true]
    refine ⟨rfl, fun c hc => ?_⟩
    have hc := hid c hc
    simp only [Bool.or_eq_true] at hc ⊢
    exact hc.imp .inl id
  exact if_pos hcursor

/-! ## What is shown of an order -/

/-- What is read for a page shows as much of its orders as all the rows would. -/
theorem view_of_page {page : List BetOrder} {o : BetOrder} (ho : o ∈ page) :
    o.view (tables.receipts.filter fun r => (page.map (·.id)).contains r.orderId)
      (tables.items.filter fun it => it.orderId.any (page.map (·.id)).contains) =
    tables.view o := by
  have hid : (page.map (·.id)).contains o.id = true :=
    List.contains_iff_mem.2 (List.mem_map_of_mem ho)
  have hreceipts : ((tables.receipts.filter fun r => (page.map (·.id)).contains r.orderId).filter
      fun r => r.orderId == o.id) = tables.receipts.filter fun r => r.orderId == o.id := by
    rw [List.filter_filter]
    refine List.filter_congr fun r _ => ?_
    cases hr : r.orderId == o.id with
    | false => rfl
    | true => rw [beq_iff_eq.1 hr, hid, Bool.and_self]
  have hitems : lastItem (tables.items.filter fun it =>
      it.orderId.any (page.map (·.id)).contains) o.id = lastItem tables.items o.id := by
    have hinserts : Inserts _ (sort (comparing laterFirst (·.createdAt)) _)
        (sort (comparing laterFirst (·.createdAt)) tables.items) :=
      (Inserts.of_filter (fun it : CheckedItem => it.orderId.any (page.map (·.id)).contains)
        tables.items).sort
    rw [lastItem, lastItem, ← List.head?_filter, ← List.head?_filter, hinserts.filter]
    intro it hit
    cases hown : it.orderId == some o.id with
    | false => rfl
    | true =>
      rw [beq_iff_eq.1 hown, Option.any_some, hid] at hit
      cases hit
  rw [OrderTables.view, BetOrder.view, BetOrder.view, hreceipts, hitems]

/-- The orders listed after one of them, or all. -/
def OrderTables.left (tables : OrderTables) (f : OrderFilters) (c : Option BetOrder) :
    List BetOrder :=
  (tables.listed f).filter fun o => c.all fun r => r.cursor.precedes o

/-- **A page of the listing**: what is left after the cursor, as many as fit. -/
theorem listOrders_eq {c : Option BetOrder} (hc : ∀ r ∈ c, r ∈ tables.orders) :
    listOrders tables { f with cursor := c.map (·.cursor) } = .ok
      { data := ((tables.left f c).take f.pageSize).map tables.view
        nextCursor := if f.pageSize < (tables.left f c).length then
          ((tables.left f c).take f.pageSize).getLast?.map (·.cursor) else none } := by
  have hcursor : (c.map (·.cursor)).mapM decodeOrderCursor = .ok (c.map (·.cursor)) := by
    cases c with
    | none => rfl
    | some r =>
      show (some <$> decodeOrderCursor r.cursor) = _
      rw [decodeOrderCursor_cursor (hc r rfl)]
      rfl
  have hrows : sort latestOrder (tables.orders.rows.filter fun o =>
      f.selects o && (c.map (·.cursor)).all (·.precedes o)) = tables.left f c := by
    rw [OrderTables.left, OrderTables.listed, filter_sort (separates_selected _),
      List.filter_filter]
    congr 1
    refine List.filter_congr fun o _ => ?_
    cases c with
    | none => rw [Bool.and_comm]; rfl
    | some r => exact Bool.and_comm _ _
  have hsize : OrderFilters.pageSize { f with cursor := c.map (·.cursor) } = f.pageSize := rfl
  have hselects : OrderFilters.selects { f with cursor := c.map (·.cursor) } = f.selects := rfl
  have htake : ((tables.left f c).take (f.pageSize + 1)).take f.pageSize =
      (tables.left f c).take f.pageSize := by
    rw [List.take_take, Nat.min_eq_left (Nat.le_succ _)]
  have hmore : f.pageSize < ((tables.left f c).take (f.pageSize + 1)).length ↔
      f.pageSize < (tables.left f c).length := by
    rw [List.length_take]
    omega
  simp only [listOrders, hcursor, bind, Except.bind, pure, Except.pure, hsize, hselects, hrows,
    htake, hmore]
  congr 2
  exact List.map_congr_left fun o ho => view_of_page ho

/-! ## All the pages -/

/-- What a request with a cursor fetches. -/
def fetchOrders (tables : OrderTables) (f : OrderFilters) (cursor : Option OrderCursor) :
    Except String (List OrderView × Option OrderCursor) :=
  (listOrders tables { f with cursor }).map fun page => (page.data, page.nextCursor)

theorem fetchOrders_eq_ok {cursor next : Option OrderCursor} {data : List OrderView} :
    fetchOrders tables f cursor = .ok (data, next) ↔
      listOrders tables { f with cursor } = .ok ⟨data, next⟩ := by
  rw [fetchOrders]
  cases listOrders tables { f with cursor } with
  | error e => exact iff_of_false (fun h => by cases h) (fun h => by cases h)
  | ok page =>
    constructor
    · intro h
      cases h
      rfl
    · intro h
      cases h
      rfl

/-- The pages are what is fetched. -/
theorem pages_iff_fetched {cursor : Option OrderCursor} {views : List OrderView} :
    Pages tables { f with cursor } views ↔ Fetched (fetchOrders tables f) cursor views := by
  constructor
  · intro h
    generalize hf : ({ f with cursor } : OrderFilters) = f' at h
    induction h generalizing cursor with
    | @last _ page hpage hnone =>
      subst hf
      exact .last (fetchOrders_eq_ok.2 (hnone ▸ hpage))
    | @next _ page _ _ hpage hsome _ ih =>
      subst hf
      exact .next (fetchOrders_eq_ok.2 (hsome ▸ hpage)) (ih rfl)
  · intro h
    induction h with
    | last hpage => exact .last (fetchOrders_eq_ok.1 hpage) rfl
    | next hpage _ ih => exact .next (fetchOrders_eq_ok.1 hpage) rfl ih

theorem serves_listOrders : Serves (fetchOrders tables f) f.pageSize
    (fun r o => r.cursor.precedes o) (tables.listed f) tables.view (·.cursor) := fun _ hc =>
  fetchOrders_eq_ok.2 (listOrders_eq fun r hr => (mem_listed.1 (hc r hr)).1)

/-- **The cursor is followed as pages of the listed orders.** -/
theorem pages_of_follows {shown : List BetOrder}
    (h : Follows f.pageSize (fun r o => r.cursor.precedes o) (tables.left f none) shown) :
    Pages tables { f with cursor := none } (shown.map tables.view) := by
  have hsort : (tables.listed f).Pairwise fun a b => b.cursor.precedes a = false :=
    (pairwise_sort latestOrder _).imp precedes_eq_false
  have hown : ∀ o : BetOrder, o.cursor.precedes o = false := fun o =>
    precedes_eq_false Std.ReflCmp.isLE_rfl
  exact pages_iff_fetched.2 (serves_listOrders.fetched_of_follows hsort hown
    (fun _ _ _ => precedes_trans) (c := none) (fun _ hr => nomatch hr) h)

theorem left_none : tables.left f none = tables.listed f :=
  List.filter_eq_self.2 fun _ _ => rfl

/-- **To follow the cursors comes to an end, and shows no order twice or out of order.** -/
theorem exists_pages (tables : OrderTables) (f : OrderFilters) :
    ∃ shown : List BetOrder, shown.Sublist (tables.listed f) ∧
      Pages tables { f with cursor := none } (shown.map tables.view) := by
  obtain ⟨shown, hshown⟩ : ∃ shown, Follows f.pageSize (fun r o => r.cursor.precedes o)
    (tables.left f none) shown := exists_follows f.pageSize_pos _
  refine ⟨shown, ?_, pages_of_follows hshown⟩
  exact left_none ▸ hshown.sublist

/-- **Every order that the filters select is shown, once and in the order of the listing, exactly
when each page ends apart from what follows it.** -/
theorem listOrders_pages_iff (tables : OrderTables) (f : OrderFilters) :
    Pages tables { f with cursor := none } ((tables.listed f).map tables.view) ↔
      EndsApart f (tables.listed f) := by
  obtain ⟨shown, hshown⟩ : ∃ shown, Follows f.pageSize (fun r o => r.cursor.precedes o)
    (tables.listed f) shown := exists_follows f.pageSize_pos _
  have hpages : Pages tables { f with cursor := none } (shown.map tables.view) :=
    pages_of_follows (left_none ▸ hshown)
  rw [endsApart_iff, ← hshown.eq_iff f.pageSize_pos]
  constructor
  · intro hall
    have hlength := congrArg List.length
      ((pages_iff_fetched.1 hpages).unique (pages_iff_fetched.1 hall))
    rw [List.length_map, List.length_map] at hlength
    exact hshown.sublist.eq_of_length hlength
  · rintro heq
    rwa [heq] at hpages

/-! ## Two orders of a millisecond -/

namespace Sample

/-- An order of the decision, and when it was created, in microseconds. -/
def listedOrder (id decisionId : String) (createdAt : Int) : BetOrder where
  id := id
  decisionId := decisionId
  accountId := "account"
  mode := .known .simulation
  operatorKey := "paper"
  idempotencyKey := decisionId
  externalOrderId := none
  status := .reserved
  rejectionCode := none
  statusReason := none
  fixtureId := "fixture"
  providerFixtureId := "1001"
  marketKey := "1X2"
  selectionKey := "HOME"
  currency := "EUR"
  requestedStake := 1000
  requestedOdd := 2000
  minimumOdd := 1900
  quoteCapturedAt := 0
  acceptedOdd := none
  acceptedStake := none
  acceptedAt := none
  payout := none
  submittedAt := none
  unknownSince := none
  settledAt := none
  version := 1
  createdAt := createdAt
  updatedAt := createdAt

def laterOrder : BetOrder :=
  listedOrder "6f1c1f62-0d0e-4d63-9c5b-2f6f0a6d7b01" "decision-1" 1000200

def earlierOrder : BetOrder :=
  listedOrder "6f1c1f62-0d0e-4d63-9c5b-2f6f0a6d7b02" "decision-2" 1000100

def listedTables : OrderTables where
  orders := ⟨[earlierOrder, laterOrder], by decide +kernel, by decide +kernel⟩
  receipts := []
  items := []
  generated := by decide +kernel

/-- All the orders, one at a time. -/
def oneByOne : OrderFilters := ⟨none, none, none, none, none, 1⟩

end Sample

/-- **Of two orders created a tenth of a millisecond apart, the second is on no page.** -/
theorem listOrders_skips : ¬ Pages Sample.listedTables { Sample.oneByOne with cursor := none }
    ((Sample.listedTables.listed Sample.oneByOne).map Sample.listedTables.view) := by
  intro hall
  have hfollows : Follows Sample.oneByOne.pageSize (fun r o => r.cursor.precedes o)
      (Sample.listedTables.left Sample.oneByOne none) ([Sample.laterOrder] ++ []) :=
    .next (r := Sample.laterOrder) (by decide +kernel) (by decide +kernel) (.last (by decide +kernel))
  have hpages := pages_of_follows hfollows
  have hlength := congrArg List.length
      ((pages_iff_fetched.1 hpages).unique (pages_iff_fetched.1 hall))
  rw [List.length_map, List.length_map] at hlength
  exact absurd hlength (by decide +kernel)

end ApiScore
