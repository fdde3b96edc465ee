import ApiScore.Execution.AcceptedViews
import ApiScore.Execution.SandboxRuns

/-!
# The pipeline and the sandbox operator

An order that the pipeline has stored from a view of the sandbox is compared, run after run, with what
the sandbox says later.  The sandbox never makes it a mismatch, whatever is programmed: once it has
shown the order, it goes on finding it, and its amounts are written as the columns write them.

* `Asked` — the placements are those of orders of the pipeline.
* `wellSpelled_after` — how the sandbox writes what it was asked for.
* `getOrdersByIdempotencyKeys_fst` — looking up together is looking up one after the other.
* `sandbox_compares_clean` — the comparison of a stored order.
-/

set_option autoImplicit false

namespace ApiScore.Sandbox

open Relational Concurrent

/-! ## How the amounts are written -/

/-- Every placement is the request of an order of the pipeline. -/
def Asked (calls : List (Call × Int)) : Prop :=
  ∀ c ∈ calls, ∀ input, c.1 = .placeOrder input →
    ∃ db : Database, ∃ x ∈ db.orders, input = x.request

/-- Every order of the book is written as the columns write it. -/
def WellSpelled (s : Sandbox) : Prop := ∀ o ∈ s.book, Spelled True o

section Spelling

variable {P : Platform} {s s' : Sandbox} {o : OperatorOrder}

theorem spelled_request {db : Database} {x : BetOrder} (hx : x ∈ db.orders) (now : Int) (n : Nat)
    (hash : String) : Spelled True { orderFor P x.request now n with receiptHash := some hash } := by
  have hcheck := db.orders.checked x hx
  simp only [orderSchema, Bool.and_eq_true, decide_eq_true_eq] at hcheck
  obtain ⟨⟨⟨⟨⟨⟨⟨⟨⟨⟨⟨⟨hpos, -⟩, -⟩, -⟩, -⟩, -⟩, -⟩, -⟩, hfits⟩, -⟩, -⟩, -⟩, -⟩ := hcheck
  rw [fitsDecimal14, decide_eq_true_eq, maxDecimal14, abs_le] at hfits
  have hcents : toCents (decimalText x.requestedStake) = some x.requestedStake :=
    toCents_decimalText (isSafeInteger_of_lt (by omega) (by omega))
  refine ⟨by simp [orderFor], ⟨x.requestedOdd, rfl⟩, ?_, fun _ => rfl⟩
  show some (decimalText x.requestedStake) =
    ((some (decimalText x.requestedStake)).bind toCents).map decimalText
  rw [Option.bind_some, hcents, Option.map_some]

theorem spelled_close {outcome : SandboxOutcome} {payoutCents now : Int} (h : Spelled True o) :
    Spelled True (close outcome payoutCents now o) := by
  rw [Sandbox.close]
  cases hcents : fromCents payoutCents with
  | none =>
    refine ⟨?_, h.acceptedOdd, h.acceptedStake, h.payout⟩
    dsimp only
    split_ifs <;> decide
  | some payout =>
    refine ⟨?_, h.acceptedOdd, h.acceptedStake, fun _ => ?_⟩
    · dsimp only
      split_ifs <;> decide
    · have htext : payout = decimalText payoutCents := by
        rw [fromCents] at hcents
        split_ifs at hcents
        exact (Option.some.inj hcents).symm
      show some payout = ((some payout).bind toCents).map decimalText
      rw [Option.bind_some, toCents_fromCents hcents, Option.map_some, htext]

theorem WellSpelled.step {call : Call} (h : WellSpelled s)
    (hasked : ∀ input, call = .placeOrder input →
      ∃ db : Database, ∃ x ∈ db.orders, input = x.request)
    (hstep : Step P call s s') : WellSpelled s' := by
  cases hstep with
  | same hbook => rwa [WellSpelled, hbook]
  | booked hcall _ _ hbook =>
    obtain ⟨db, x, hx, rfl⟩ := hasked _ hcall
    rw [WellSpelled, hbook, List.forall_mem_append, List.forall_mem_singleton]
    exact ⟨h, spelled_request hx ..⟩
  | closed _ _ hbook =>
    intro x hx
    rcases Register.mem_rewrite (hbook ▸ hx) with hx | ⟨y, hy, -, rfl⟩
    · exact h x hx
    · exact spelled_close (h y hy)
  | cleared _ hbook =>
    rw [WellSpelled, hbook]
    exact List.forall_mem_nil _

theorem WellSpelled.after (h : WellSpelled s) {calls : List (Call × Int)} (hasked : Asked calls) :
    WellSpelled (s.after P calls) := by
  induction calls generalizing s with
  | nil => exact h
  | cons c calls ih =>
    obtain ⟨hc, hcalls⟩ := List.forall_mem_cons.1 hasked
    exact ih (h.step hc (exec_step P s c)) hcalls

/-- **The sandbox writes the amounts of the pipeline as the columns do.** -/
theorem wellSpelled_after {calls : List (Call × Int)} (hasked : Asked calls) :
    WellSpelled (init.after P calls) :=
  WellSpelled.after (s := init) (List.forall_mem_nil _) hasked

end Spelling

/-! ## Look-ups -/

/-- What a look-up of a key says of it. -/
def lookupFor (s : Sandbox) (key : String) : OperatorOrderLookup :=
  match (s.getOrderByIdempotencyKey key).1 with
  | some order => .found order
  | none => .notFound

theorem lookUpEach_fst {keys : List String} (h : keys.Nodup) (s : Sandbox) :
    (lookUpEach keys s).1 = keys.map fun key => (key, s.lookupFor key) := by
  induction keys generalizing s with
  | nil => rfl
  | cons k keys ih =>
    rw [List.nodup_cons] at h
    have hrest : ∀ key ∈ keys, (s.getOrderByIdempotencyKey k).2.lookupFor key = s.lookupFor key := by
      intro key hkey
      have hne : key ≠ k := fun he => h.1 (he ▸ hkey)
      rw [lookupFor, lookupFor, getOrderByIdempotencyKey_fst, getOrderByIdempotencyKey_fst,
        getOrderByIdempotencyKey_snd]
      show (match (if 0 < Function.update s.hiddenReads k _ key then none else s.orderOf key) with
        | some order => OperatorOrderLookup.found order
        | none => .notFound) = _
      rw [Function.update_of_ne hne]
    have htail : (lookUpEach keys (s.getOrderByIdempotencyKey k).2).1 =
        keys.map fun key => (key, s.lookupFor key) := by
      rw [ih h.2]
      exact List.map_congr_left fun key hkey => by rw [hrest key hkey]
    rw [List.map_cons, ← htail]
    rfl

/-- **Looking keys up together is looking each of them up.** -/
theorem getOrdersByIdempotencyKeys_fst (s : Sandbox) (keys : List String) :
    (s.getOrdersByIdempotencyKeys keys).1 = keys.eraseDups.map fun key => (key, s.lookupFor key) :=
  lookUpEach_fst (Grouping.nodup_eraseDups keys) s

/-- The value of a key in a list made key by key. -/
theorem lookup_map_self {β : Type} {f : String → β} {keys : List String} {key : String}
    (h : key ∈ keys) : (keys.map fun k => (k, f k)).lookup key = some (f key) := by
  induction keys with
  | nil => cases h
  | cons k keys ih =>
    rw [List.map_cons, List.lookup_cons]
    by_cases hk : key = k
    · rw [hk, beq_self_eq_true]
    · rw [beq_false_of_ne hk]
      exact ih ((List.mem_cons.1 h).resolve_left hk)

/-- What a run reads of the answer, for a key that it has looked up. -/
theorem lookupOf_readLookups (P : Platform) (s : Sandbox) {keys : List String} {key : String}
    (hkey : key ∈ keys) :
    lookupOf (readLookups P keys (.ok (s.getOrdersByIdempotencyKeys keys).1)) key =
      some (s.lookupFor key) := by
  have hreturned : returnedFor (s.getOrdersByIdempotencyKeys keys).1 key =
      some (s.lookupFor key) := by
    rw [returnedFor, getOrdersByIdempotencyKeys_fst, ← List.map_reverse, List.find?_map,
      Option.map_map]
    cases hfind : keys.eraseDups.reverse.find? ((fun r => r.1 == key) ∘
        fun key => (key, s.lookupFor key)) with
    | none =>
      have hne := List.find?_eq_none.1 hfind key (List.mem_reverse.2 (List.mem_eraseDups.2 hkey))
      simp at hne
    | some k =>
      have hk := List.find?_some hfind
      simp only [Function.comp_apply, beq_iff_eq] at hk
      rw [Option.map_some, Function.comp_apply, hk]
  have hlookup := lookup_map_self (f := fun key => (returnedFor (s.getOrdersByIdempotencyKeys
    keys).1 key).getD (.lookupFailed "Réponse opérateur incomplète")) (List.mem_dedup.2 hkey)
  rw [hreturned, Option.getD_some] at hlookup
  exact hlookup

/-! ## The comparison -/

/-- A view that evolves reports the same acceptance. -/
theorem Evolves.sameTaking {view seen : OperatorOrder} (h : Evolves view seen) :
    SameTaking view seen := by
  have hacceptance := h.acceptance
  simp only [accepted, PlaceOrderResult.accepted.injEq, PlacementAcceptance.mk.injEq]
    at hacceptance
  obtain ⟨hid, hodd, hstake, -, -⟩ := hacceptance
  exact ⟨hid, hodd, by rw [hstake]⟩

/-- What is stored from a view is what a later view reports. -/
theorem keptView_evolves {orderId : String} {view seen : OperatorOrder} {o : BetOrder}
    {db : Database} (h : KeptView orderId view o db) (hevolves : Evolves view seen)
    (hpaid : o.status ≠ .accepted → view.status ≠ .accepted) : KeptView orderId seen o db := by
  have hsame := hevolves.sameTaking
  obtain ⟨q, odd, hq, hodd, hoodd⟩ := h.acceptedOdd
  obtain ⟨stake, hstake, hostake⟩ := h.acceptedStake
  refine { h with
    externalOrderId := h.externalOrderId.trans hsame.externalOrderId.symm
    acceptedOdd := ⟨q, odd, hsame.acceptedOdd.trans hq, hodd, hoodd⟩
    acceptedStake := ⟨stake, hsame.acceptedStake.trans hstake, hostake⟩
    payout := fun hne => ?_ }
  rw [hevolves.settled (hpaid hne)]
  exact h.payout hne

/-- An order that was looked up is looked up again: it is there, and it may have been settled. -/
theorem Kept.lookupFor_after {P : Platform} {s : Sandbox} {key : String} {view : OperatorOrder}
    (h : Kept s) (hview : (s.getOrderByIdempotencyKey key).1 = some view)
    {calls : List (Call × Int)} (hcalls : ∀ c ∈ calls, c.1 ≠ .reset) :
    ∃ seen, (s.after P calls).lookupFor key = .found seen ∧
      (s.after P calls).orderOf key = some seen ∧ s.orderOf key = some view ∧
      Evolves view seen := by
  rw [getOrderByIdempotencyKey_fst] at hview
  split_ifs at hview with hhidden
  obtain ⟨seen, hseen, hevolves⟩ := h.orderOf_after (P := P) hview hcalls
  refine ⟨seen, ?_, hseen, hview, hevolves⟩
  rw [lookupFor, getOrderByIdempotencyKey_fst, h.hiddenReads_after hview hcalls,
    if_neg (by omega), hseen]

/-- What a run makes of an order that it has read again, with the answer of the operator to the keys
it has looked up, and the receipts and the entries of the orders `ids`. -/
def compareAnswer (P : Platform) (db : Database) (o : BetOrder) (keys : List String)
    (answer : OperatorLookupByKey) (ids : List String) (tracked : Bool) : List ItemDraft :=
  let receiptIds : List String := ((Query.receiptsOf ids).read db).getD []
  let ledgerKeys : List String := ((Query.entryKeysOf o.accountId ids).read db).getD []
  compareFresh (readLookups P keys (.ok answer)) receiptIds ledgerKeys tracked o

/-- An order that is taken, and found, is compared with what is found. -/
theorem compareAnswer_found {P : Platform} {db : Database} {o : BetOrder} {keys ids : List String}
    {answer : OperatorLookupByKey} {tracked : Bool} {seen : OperatorOrder}
    (hs : o.status ∈ takenStatuses)
    (hfound : lookupOf (readLookups P keys (.ok answer)) o.idempotencyKey = some (.found seen)) :
    compareAnswer P db o keys answer ids tracked = db.compareWith o seen ids tracked := by
  simp only [takenStatuses, List.mem_cons, List.not_mem_nil, or_false] at hs
  have hcompared : comparedStatuses.contains o.status = true := by
    rcases hs with hs | hs | hs <;> rw [hs] <;> decide
  have hknown : o.status ≠ .unknown := by
    rcases hs with hs | hs | hs <;> rw [hs] <;> decide
  rw [compareAnswer, compareFresh, if_neg hknown, hcompared, if_pos rfl, hfound]
  rfl

/-- **The sandbox never makes a stored order a mismatch**: in every run of the pipeline and every run
of the sandbox that places its orders, once an order was stored from a view that the sandbox has shown,
a run that looks its key up later raises nothing critical for it. -/
theorem sandbox_compares_clean {S : Setting} {controlId : String} {clock : Int}
    {funds : String → String → OperatorBalance} {c : Run} {order o : BetOrder} {view : OperatorOrder}
    {w : World} {keys ids : List String} {tracked : Bool} {calls calls' : List (Call × Int)}
    (hreach : Reachable S.system (.init (.init (.migrated controlId) clock funds)) c)
    (ho : order ∈ c.state.db.orders) (hs : order.status ∈ releasableStatuses)
    (hasked : Asked (calls ++ calls')) (hcalls' : ∀ c ∈ calls', c.1 ≠ .reset)
    (hview : ((init.after S.platform calls).getOrderByIdempotencyKey o.idempotencyKey).1 = some view)
    (hstored : Stored S order.id c.state view o w) (hids : o.id ∈ ids)
    (hkeys : o.idempotencyKey ∈ keys) :
    let s' := (init.after S.platform calls).after S.platform calls'
    ∀ d ∈ compareAnswer S.platform w.db o keys (s'.getOrdersByIdempotencyKeys keys).1 ids tracked,
      d.severity ≠ .critical := by
  intro s'
  have hbook := kept_after S.platform calls
  obtain ⟨seen, hfound, hseen, horder, hevolves⟩ := hbook.lookupFor_after (P := S.platform) hview hcalls'
  have hkept := hstored.kept (recorded_reachable hreach).consistent ho hs
  -- what is settled was stored from a view that is settled
  have hpaid : o.status ≠ .accepted → view.status ≠ .accepted := fun hne hopen => by
    obtain ⟨payout, hpayout, -⟩ := hkept.payout hne
    rw [hbook.unpaid view (List.mem_of_find?_eq_some horder) hopen] at hpayout
    cases hpayout
  have hspelled : Spelled True seen := by
    have hwell : WellSpelled (init.after S.platform (calls ++ calls')) := wellSpelled_after hasked
    have happend : init.after S.platform (calls ++ calls') = s' := List.foldl_append
    exact (happend ▸ hwell) seen (List.mem_of_find?_eq_some hseen)
  rw [compareAnswer_found hkept.taken (by rw [lookupOf_readLookups S.platform s' hkeys, hfound]),
    (keptView_evolves hkept hevolves hpaid).clean_iff ⟨⟨rfl, rfl, rfl⟩, rfl⟩ hids]
  exact ⟨hspelled.status, hspelled.acceptedOdd, hspelled.acceptedStake, fun _ => hspelled.payout trivial⟩

/-! ## A sample -/

namespace Sample

/-- The placement of an order that is booked without an answer. -/
def placed (order : BetOrder) : List (Call × Int) :=
  [(.enqueue [.timeoutAfterAccept], 0), (.placeOrder order.request, 500)]

/-- What the sandbox shows of it. -/
def shown : OperatorOrder where
  externalOrderId := some "SBX-000001"
  idempotencyKey := ApiScore.Sample.key
  status := .accepted
  acceptedOdd := some (.num 2)
  acceptedStake := some "10.00"
  acceptedAt := some 500
  receiptHash := some ApiScore.Sample.key
  payout := none
  settledAt := none

end Sample

/-- The bet of the sample is stored as the sandbox shows it, and then won in the sandbox. -/
theorem sandbox_compares_clean_won : ∃ (order o : BetOrder) (w : World), o.status = .accepted ∧
    ∀ d ∈ compareAnswer ApiScore.Sample.scene.setting.platform w.db o [o.idempotencyKey]
      (((init.after ApiScore.Sample.scene.setting.platform (Sample.placed order)).after
        ApiScore.Sample.scene.setting.platform Sample.won).getOrdersByIdempotencyKeys
          [o.idempotencyKey]).1 [o.id] true, d.severity ≠ .critical := by
  have hrun : ((ApiScore.Sample.stored Sample.shown).any fun r =>
      r.2.1.status == .unknown && r.2.2.1.status == .accepted &&
        ((init.after ApiScore.Sample.scene.setting.platform
          (Sample.placed r.2.1)).getOrderByIdempotencyKey r.2.2.1.idempotencyKey).1 ==
            some Sample.shown) = true := by
    decide +kernel
  obtain ⟨⟨c, order, o, w⟩, hsome, hchecks⟩ := (Option.any_eq_true _ _).1 hrun
  simp only [Bool.and_eq_true, beq_iff_eq] at hchecks
  obtain ⟨⟨hs, haccepted⟩, hview⟩ := hchecks
  obtain ⟨hreach, ho, hcall⟩ := ApiScore.Sample.stored_spec hsome
  refine ⟨order, o, w, haccepted, sandbox_compares_clean hreach ho (by simp [hs, releasableStatuses])
    ?_ (List.forall_mem_singleton.2 (by simp)) hview (.accepted hcall haccepted)
    (List.mem_singleton_self _) (List.mem_singleton_self _)⟩
  intro x hx input hinput
  simp only [Sample.placed, Sample.won, List.cons_append, List.nil_append, List.mem_cons,
    List.not_mem_nil, or_false] at hx
  rcases hx with rfl | rfl | rfl
  · cases hinput
  · exact ⟨c.state.db, order, ho, (Call.placeOrder.inj hinput).symm⟩
  · cases hinput

end ApiScore.Sandbox
