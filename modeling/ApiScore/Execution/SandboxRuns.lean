import Mathlib.Data.List.Induction
import ApiScore.Execution.Sandbox
import ApiScore.Lib.Grouping
import ApiScore.Simulation.IsoDates

/-!
# Runs of the sandbox operator

Whatever is programmed, and in whatever order the adapter is called, it books an order once for its
key, and never gives an external id again; an order is settled once, and never changes otherwise.

* `Evolves` — an order, later.
* `Step` — what a call can do to the book.
* `Kept`, `kept_after` — keys and external ids are those of one order.
* `order_of_id` — an external id names one order for ever.
* `placed_once` — what is booked is answered again, and not booked again.
* `lookup_after` — a delayed order is hidden from one read.
-/

set_option autoImplicit false

namespace ApiScore.Sandbox

/-! ## An order, later -/

/-- The order is settled at most once, and otherwise the same. -/
structure Evolves (o o' : OperatorOrder) : Prop where
  idempotencyKey : o'.idempotencyKey = o.idempotencyKey
  acceptance : accepted o' = accepted o
  settled : o.status ≠ .accepted → o' = o

theorem Evolves.refl (o : OperatorOrder) : Evolves o o := ⟨rfl, rfl, fun _ => rfl⟩

theorem Evolves.trans {o o' o'' : OperatorOrder} (h : Evolves o o') (h' : Evolves o' o'') :
    Evolves o o'' := by
  refine ⟨h'.idempotencyKey.trans h.idempotencyKey, h'.acceptance.trans h.acceptance, fun hs => ?_⟩
  obtain rfl := h.settled hs
  exact h'.settled hs

theorem Evolves.externalOrderId {o o' : OperatorOrder} (h : Evolves o o') :
    o'.externalOrderId = o.externalOrderId := by
  have hacceptance := h.acceptance
  simp only [accepted, PlaceOrderResult.accepted.injEq, PlacementAcceptance.mk.injEq] at hacceptance
  exact hacceptance.1

section Close

variable (outcome : SandboxOutcome) (payoutCents now : Int) (o : OperatorOrder)

@[simp] theorem close_idempotencyKey :
    (close outcome payoutCents now o).idempotencyKey = o.idempotencyKey := by
  rw [close]; split <;> rfl

@[simp] theorem close_externalOrderId :
    (close outcome payoutCents now o).externalOrderId = o.externalOrderId := by
  rw [close]; split <;> rfl

/-- A closed order is not accepted any more. -/
theorem close_status_ne : (close outcome payoutCents now o).status ≠ .accepted := by
  have hstatus : (close outcome payoutCents now o).status =
      if outcome = .void then .voided else .settled := by
    rw [close]; split <;> rfl
  rw [hstatus]
  split_ifs <;> decide

theorem accepted_close : accepted (close outcome payoutCents now o) = accepted o := by
  rw [close]; split <;> rfl

variable {o} in
theorem evolves_close (h : o.status = .accepted) : Evolves o (close outcome payoutCents now o) :=
  ⟨close_idempotencyKey .., accepted_close .., fun hs => (hs h).elim⟩

end Close

/-! ## What a call can do -/

theorem sandboxId_inj {m n : Nat} : sandboxId m = sandboxId n ↔ m = n := by
  refine ⟨fun h => ?_, fun h => h ▸ rfl⟩
  have hdigits : padStart 6 m = padStart 6 n := (String.append_right_inj _).1 h
  rw [← digitsVal_padStart 6 m, hdigits, digitsVal_padStart]

variable {P : Platform} {s s' : Sandbox} {input : PlaceOrderRequest} {now : Int} {o : OperatorOrder}

/-- The orders, and what goes with them, are the same. -/
structure Idle (s s' : Sandbox) : Prop where
  book : s'.book = s.book
  balances : s'.balances = s.balances
  currencies : s'.currencies = s.currencies
  hiddenReads : s'.hiddenReads = s.hiddenReads
  sequence : s.sequence ≤ s'.sequence

theorem Idle.refl (s : Sandbox) : Idle s s := ⟨rfl, rfl, rfl, rfl, le_rfl⟩

/-- A placement books an order. -/
structure Books (P : Platform) (input : PlaceOrderRequest) (now : Int) (s s' : Sandbox)
    (o : OperatorOrder) (stakeCents : Int) : Prop where
  fresh : s.orderOf input.idempotencyKey = none
  cents : toCents input.stake = some stakeCents
  order : ∃ hash, o = { orderFor P input now (s.sequence + 1) with receiptHash := some hash }
  book : s'.book = s.book ++ [o]
  sequence : s'.sequence = s.sequence + 1
  balances : s'.balances = (s.stakeOut input.currency stakeCents).balances
  currencies : s'.currencies =
    Function.update s.currencies (sandboxId (s.sequence + 1)) (some input.currency)
  hiddenReads : s'.hiddenReads =
    if s.queue.headD .accept = .delayed then Function.update s.hiddenReads input.idempotencyKey 1
    else s.hiddenReads

/-- The adapter with one more order. -/
def withOrder (s : Sandbox) (P : Platform) (input : PlaceOrderRequest) (now stakeCents : Int)
    (o : OperatorOrder) : Sandbox :=
  { s.stakeOut input.currency stakeCents with
    book := s.book ++ [o]
    sequence := s.sequence + 1
    currencies := Function.update s.currencies (sandboxId (s.sequence + 1)) (some input.currency)
    lastReceiptHash := (orderFor P input now (s.sequence + 1)).receiptHash }

theorem bookNew_eq (f : OperatorOrder → OperatorOrder)
    (answer : OperatorOrder → Except String PlaceOrderResult) :
    s.bookNew P input now f answer =
      match toCents input.stake with
      | none => (.error (toCentsMessage input.stake), { s with sequence := s.sequence + 1 })
      | some stakeCents => (answer (f (orderFor P input now (s.sequence + 1))),
          s.withOrder P input now stakeCents (f (orderFor P input now (s.sequence + 1)))) := by
  rw [bookNew, newOrder]
  cases toCents input.stake <;> rfl

/-- The malformed answer is not taken for an acceptance. -/
theorem malformed_not_wellFormed {a : PlacementAcceptance} (h : .accepted a = malformed o) :
    isWellFormedAcceptance a = false := by
  simp only [malformed, PlaceOrderResult.accepted.injEq] at h
  rw [h]
  simp [isWellFormedAcceptance, JsNumber.finite?]

/-- **What a placement can do**: an order that is booked is answered again; a new one is refused, or
lost, or booked, and then a well-formed acceptance is that of the order. -/
theorem placeOrder_cases (P : Platform) (s : Sandbox) (input : PlaceOrderRequest) (now : Int) :
    (∃ o, s.orderOf input.idempotencyKey = some o ∧
        s.placeOrder P input now = (.ok (accepted o), s.called input.idempotencyKey)) ∨
      (s.orderOf input.idempotencyKey = none ∧ Idle s (s.placeOrder P input now).2) ∨
      ∃ o stakeCents, Books P input now s (s.placeOrder P input now).2 o stakeCents ∧
        ∀ a, (s.placeOrder P input now).1 = .ok (.accepted a) → isWellFormedAcceptance a = true →
          .accepted a = accepted o := by
  have hcalled : (s.called input.idempotencyKey).orderOf input.idempotencyKey =
      s.orderOf input.idempotencyKey := rfl
  have hsame {o : OperatorOrder} (a : PlacementAcceptance)
      (h : (.ok (accepted o) : Except String PlaceOrderResult) = .ok (.accepted a))
      (_ : isWellFormedAcceptance a = true) : .accepted a = accepted o := (Except.ok.inj h).symm
  rw [placeOrder]
  simp only [hcalled]
  cases hfind : s.orderOf input.idempotencyKey with
  | some o => exact .inl ⟨o, rfl, rfl⟩
  | none =>
    refine .inr ?_
    have hqueue : (s.called input.idempotencyKey).queue = s.queue := rfl
    simp only [hqueue, bookNew_eq]
    cases hcents : toCents input.stake with
    | none =>
      refine .inl ⟨trivial, ?_⟩
      cases s.queue.headD .accept <;> exact ⟨rfl, rfl, rfl, rfl, by simp [called]⟩
    | some stakeCents =>
      cases hs : s.queue.headD .accept with
      | reject | oddMoved | timeoutBeforeAccept => exact .inl ⟨trivial, rfl, rfl, rfl, rfl, le_rfl⟩
      | timeoutAfterAccept =>
        refine .inr ⟨_, stakeCents, ⟨hfind, hcents, ⟨_, rfl⟩, rfl, rfl, rfl, rfl, ?_⟩,
          fun a ha => nomatch ha⟩
        rw [hs]; rfl
      | delayed =>
        refine .inr ⟨_, stakeCents, ⟨hfind, hcents, ⟨_, rfl⟩, rfl, rfl, rfl, rfl, ?_⟩,
          fun a ha => nomatch ha⟩
        rw [hs]; rfl
      | malformed =>
        refine .inr ⟨_, stakeCents, ⟨hfind, hcents, ⟨_, rfl⟩, rfl, rfl, rfl, rfl, ?_⟩,
          fun a ha hformed => ?_⟩
        · rw [hs]; rfl
        · rw [malformed_not_wellFormed (Except.ok.inj ha).symm] at hformed
          cases hformed
      | accept =>
        refine .inr ⟨_, stakeCents, ⟨hfind, hcents, ⟨_, rfl⟩, rfl, rfl, rfl, rfl, ?_⟩, hsame⟩
        rw [hs]; rfl
      | duplicateReceipt =>
        refine .inr ⟨_, stakeCents, ⟨hfind, hcents, ?_, rfl, rfl, rfl, rfl, ?_⟩, hsame⟩
        · simp only [orderFor]
          cases (s.called input.idempotencyKey).lastReceiptHash with
          | none => exact ⟨_, rfl⟩
          | some hash => exact ⟨hash, rfl⟩
        · rw [hs]; rfl

/-- **What a settlement can do**: nothing, or close an accepted order. -/
theorem settle_cases (s : Sandbox) (externalOrderId : String) (outcome : SandboxOutcome)
    (now : Int) :
    (s.settle externalOrderId outcome now).2 = s ∨
      ∃ o ∈ s.book, ∃ stakeCents odd, o.status = .accepted ∧
        o.externalOrderId = some externalOrderId ∧
        o.acceptedStake.bind toCents = some stakeCents ∧
        o.acceptedOdd.bind (·.finite?) = some odd ∧
        (s.settle externalOrderId outcome now).2 =
          { s.payOut (s.currencyOf o) stakeCents (outcome.decision.payoutCents stakeCents odd) with
            book := Register.rewrite (·.idempotencyKey) o.idempotencyKey
              (close outcome (outcome.decision.payoutCents stakeCents odd) now) s.book } := by
  rw [settle]
  cases hfind : (s.getOrderByExternalId externalOrderId).filter fun o => o.status == .accepted with
  | none => exact .inl rfl
  | some o =>
    obtain ⟨hfound, hs⟩ := Option.filter_eq_some_iff.1 hfind
    have hid := List.find?_some hfound
    cases hstake : o.acceptedStake.bind toCents with
    | none => exact .inl (by simp only [hstake])
    | some stakeCents =>
      cases hodd : o.acceptedOdd.bind (·.finite?) with
      | none => exact .inl (by simp only [hstake, hodd])
      | some odd =>
        refine .inr ⟨o, List.mem_of_find?_eq_some hfound, stakeCents, odd, by simpa using hs,
          by simpa using hid, hstake, hodd, ?_⟩
        simp only [hstake, hodd]
        rfl

theorem fund_idle (s : Sandbox) (currency amount : String) :
    (s.fund currency amount).2.book = s.book ∧
      (s.fund currency amount).2.sequence = s.sequence ∧
      (s.fund currency amount).2.hiddenReads = s.hiddenReads ∧
      (s.fund currency amount).2.currencies = s.currencies := by
  rw [fund]
  cases toCents amount <;> exact ⟨rfl, rfl, rfl, rfl⟩

/-- A read changes nothing but how often an order is still hidden. -/
theorem getOrderByIdempotencyKey_snd (s : Sandbox) (key : String) :
    (s.getOrderByIdempotencyKey key).2 =
      { s with hiddenReads := Function.update s.hiddenReads key (s.hiddenReads key - 1) } := by
  rw [getOrderByIdempotencyKey]
  split_ifs with h
  · rfl
  · have hzero : s.hiddenReads key - 1 = s.hiddenReads key := by omega
    rw [hzero, Function.update_eq_self]

/-- So do many. -/
theorem lookUpEach_snd (keys : List String) (s : Sandbox) : ∃ hidden,
    (lookUpEach keys s).2 = { s with hiddenReads := hidden } ∧
      ∀ key, hidden key = s.hiddenReads key - keys.count key := by
  induction keys generalizing s with
  | nil => exact ⟨s.hiddenReads, rfl, fun key => by simp⟩
  | cons k keys ih =>
    obtain ⟨hidden, heq, hcount⟩ := ih (s.getOrderByIdempotencyKey k).2
    rw [getOrderByIdempotencyKey_snd] at heq hcount
    refine ⟨hidden, ?_, fun key => ?_⟩
    · show (lookUpEach keys (s.getOrderByIdempotencyKey k).2).2 = _
      rw [getOrderByIdempotencyKey_snd]
      exact heq
    · rw [hcount, List.count_cons]
      by_cases hk : k = key
      · subst hk
        simp only [Function.update_self, beq_self_eq_true, if_true]
        omega
      · simp only [Function.update_of_ne (Ne.symm hk), beq_iff_eq, if_neg hk]
        omega

/-! ## The book -/

/-- What a call can do to the book. -/
inductive Step (P : Platform) (call : Call) (s s' : Sandbox) : Prop
  | same (hbook : s'.book = s.book) (hseq : s.sequence ≤ s'.sequence)
  | booked {input : PlaceOrderRequest} {now : Int} {hash : String} (hcall : call = .placeOrder input)
      (hfresh : s.orderOf input.idempotencyKey = none) (hcents : (toCents input.stake).isSome)
      (hbook : s'.book =
        s.book ++ [{ orderFor P input now (s.sequence + 1) with receiptHash := some hash }])
      (hseq : s'.sequence = s.sequence + 1)
  | closed {o : OperatorOrder} {outcome : SandboxOutcome} {payoutCents now : Int} (ho : o ∈ s.book)
      (hs : o.status = .accepted) (hbook : s'.book = Register.rewrite (·.idempotencyKey)
        o.idempotencyKey (close outcome payoutCents now) s.book) (hseq : s'.sequence = s.sequence)
  | cleared (hcall : call = .reset) (hbook : s'.book = []) (hseq : s'.sequence = s.sequence)

theorem exec_step (P : Platform) (s : Sandbox) (c : Call × Int) :
    Step P c.1 s (s.exec P c) := by
  obtain ⟨call, now⟩ := c
  cases call with
  | enqueue | setQuoteOdd | shiftBalance => exact .same rfl le_rfl
  | fund currency amount =>
    obtain ⟨hbook, hseq, -⟩ := fund_idle s currency amount
    exact .same hbook hseq.ge
  | settle externalOrderId outcome =>
    show Step P _ s (s.settle externalOrderId outcome now).2
    rcases settle_cases s externalOrderId outcome now with h | ⟨o, ho, _, _, hs, -, -, -, h⟩
    · exact .same (congrArg book h) (congrArg sequence h).ge
    · exact .closed ho hs (by rw [h]) (by rw [h]; rfl)
  | reset => exact .cleared rfl rfl rfl
  | placeOrder input =>
    rcases placeOrder_cases P s input now with ⟨o, -, h⟩ | ⟨-, h⟩ | ⟨o, _, h, -⟩
    · rw [exec, h]
      exact .same rfl le_rfl
    · exact .same h.book h.sequence
    · obtain ⟨hash, rfl⟩ := h.order
      exact .booked rfl h.fresh (by rw [h.cents]; rfl) h.book h.sequence
  | getOrderByIdempotencyKey key =>
    rw [exec, getOrderByIdempotencyKey_snd]
    exact .same rfl le_rfl
  | getOrdersByIdempotencyKeys keys =>
    obtain ⟨_, h, -⟩ := lookUpEach_snd keys.eraseDups s
    rw [exec, getOrdersByIdempotencyKeys, h]
    exact .same rfl le_rfl

/-- **Keys and external ids are those of one order**, and the sequence has given the ids. -/
structure Kept (s : Sandbox) : Prop where
  keys : (s.book.map (·.idempotencyKey)).Nodup
  ids : (s.book.map (·.externalOrderId)).Nodup
  issued : ∀ o ∈ s.book, ∃ n ≤ s.sequence, o.externalOrderId = some (sandboxId n)
  unpaid : ∀ o ∈ s.book, o.status = .accepted → o.payout = none

theorem orderOf_eq_none {key : String} :
    s.orderOf key = none ↔ ∀ o ∈ s.book, o.idempotencyKey ≠ key := by
  simp [orderOf, List.find?_eq_none]

theorem Kept.fresh (h : Kept s) :
    some (sandboxId (s.sequence + 1)) ∉ s.book.map (·.externalOrderId) := by
  intro hmem
  obtain ⟨o, ho, hid⟩ := List.mem_map.1 hmem
  obtain ⟨n, hn, hissued⟩ := h.issued o ho
  rw [hissued, Option.some.injEq, sandboxId_inj] at hid
  omega

theorem Kept.step {call : Call} (h : Kept s) (hstep : Step P call s s') : Kept s' := by
  cases hstep with
  | same hbook hseq =>
    refine ⟨hbook ▸ h.keys, hbook ▸ h.ids, fun o ho => ?_, hbook ▸ h.unpaid⟩
    obtain ⟨n, hn, hid⟩ := h.issued o (hbook ▸ ho)
    exact ⟨n, hn.trans hseq, hid⟩
  | @booked input now hash _ hfresh _ hbook hseq =>
    have hkey : input.idempotencyKey ∉ s.book.map (·.idempotencyKey) := by
      simpa using orderOf_eq_none.1 hfresh
    refine ⟨?_, ?_, ?_, ?_⟩
    · rw [hbook, List.map_append, List.map_singleton, ← List.concat_eq_append]
      exact h.keys.concat hkey
    · rw [hbook, List.map_append, List.map_singleton, ← List.concat_eq_append]
      exact h.ids.concat h.fresh
    · rw [hbook, List.forall_mem_append, List.forall_mem_singleton]
      refine ⟨fun x hx => ?_, s.sequence + 1, hseq.ge, rfl⟩
      obtain ⟨n, hn, hx⟩ := h.issued x hx
      exact ⟨n, by omega, hx⟩
    · rw [hbook, List.forall_mem_append, List.forall_mem_singleton]
      exact ⟨h.unpaid, fun _ => rfl⟩
  | closed ho hs hbook hseq =>
    refine ⟨?_, ?_, fun x hx => ?_, fun x hx hopen => ?_⟩
    · rw [hbook, Register.map_rewrite fun x => close_idempotencyKey ..]
      exact h.keys
    · rw [hbook, Register.map_rewrite fun x => close_externalOrderId ..]
      exact h.ids
    · rcases Register.mem_rewrite (hbook ▸ hx) with hx | ⟨y, hy, -, rfl⟩
      · exact hseq ▸ h.issued x hx
      · rw [close_externalOrderId]
        exact hseq ▸ h.issued y hy
    · rcases Register.mem_rewrite (hbook ▸ hx) with hx | ⟨y, -, -, rfl⟩
      · exact h.unpaid x hx hopen
      · exact absurd hopen (close_status_ne _ _ _ _)
  | cleared _ hbook =>
    refine ⟨?_, ?_, ?_, ?_⟩ <;> rw [hbook]
    · exact List.nodup_nil
    · exact List.nodup_nil
    · exact List.forall_mem_nil _
    · exact List.forall_mem_nil _

theorem Kept.order_eq (h : Kept s) {o x : OperatorOrder} (ho : o ∈ s.book) (hx : x ∈ s.book)
    (hkey : x.idempotencyKey = o.idempotencyKey) : x = o :=
  List.inj_on_of_nodup_map h.keys hx ho hkey

theorem Kept.order_eq_of_id (h : Kept s) {o x : OperatorOrder} (ho : o ∈ s.book) (hx : x ∈ s.book)
    (hid : x.externalOrderId = o.externalOrderId) : x = o :=
  List.inj_on_of_nodup_map h.ids hx ho hid

theorem after_cons (c : Call × Int) (calls : List (Call × Int)) :
    s.after P (c :: calls) = (s.exec P c).after P calls := rfl

theorem Kept.after (h : Kept s) (calls : List (Call × Int)) : Kept (s.after P calls) := by
  induction calls generalizing s with
  | nil => exact h
  | cons c calls ih => exact ih (h.step (exec_step P s c))

theorem kept_after (P : Platform) (calls : List (Call × Int)) : Kept (init.after P calls) :=
  Kept.after (s := init)
    ⟨List.nodup_nil, List.nodup_nil, List.forall_mem_nil _, List.forall_mem_nil _⟩ calls

/-! ## An external id -/

/-- The external ids that have been given are those of orders that were there. -/
structure Later (s s' : Sandbox) : Prop where
  sequence : s.sequence ≤ s'.sequence
  old : ∀ o' ∈ s'.book, ∀ n ≤ s.sequence, o'.externalOrderId = some (sandboxId n) →
    ∃ o ∈ s.book, Evolves o o'

theorem Kept.later {call : Call} (h : Kept s) (hstep : Step P call s s') : Later s s' := by
  cases hstep with
  | same hbook hseq => exact ⟨hseq, fun o' ho' _ _ _ => ⟨o', hbook ▸ ho', .refl o'⟩⟩
  | booked _ _ _ hbook hseq =>
    refine ⟨by omega, fun o' ho' n hn hid => ?_⟩
    rcases List.mem_append.1 (hbook ▸ ho') with ho' | ho'
    · exact ⟨o', ho', .refl o'⟩
    · obtain rfl := List.mem_singleton.1 ho'
      have heq : s.sequence + 1 = n := sandboxId_inj.1 (Option.some.inj hid)
      omega
  | @closed o outcome payoutCents now ho hs hbook hseq =>
    refine ⟨hseq.ge, fun o' ho' _ _ _ => ?_⟩
    rcases Register.mem_rewrite (hbook ▸ ho') with ho' | ⟨x, hx, hkey, rfl⟩
    · exact ⟨o', ho', .refl o'⟩
    · obtain rfl := h.order_eq ho hx hkey
      exact ⟨x, hx, evolves_close _ _ _ hs⟩
  | cleared _ hbook hseq =>
    refine ⟨hseq.ge, fun o' ho' => ?_⟩
    rw [hbook] at ho'
    cases ho'

theorem Later.trans {s'' : Sandbox} (h : Later s s') (h' : Later s' s'') : Later s s'' := by
  refine ⟨h.sequence.trans h'.sequence, fun o'' ho'' n hn hid => ?_⟩
  obtain ⟨o', ho', hevolves'⟩ := h'.old o'' ho'' n (hn.trans h.sequence) hid
  obtain ⟨o, ho, hevolves⟩ := h.old o' ho' n hn (hevolves'.externalOrderId.symm.trans hid)
  exact ⟨o, ho, hevolves.trans hevolves'⟩

theorem Kept.later_after (h : Kept s) (calls : List (Call × Int)) : Later s (s.after P calls) := by
  induction calls generalizing s with
  | nil => exact ⟨le_rfl, fun o' ho' _ _ _ => ⟨o', ho', .refl o'⟩⟩
  | cons c calls ih =>
    exact (h.later (exec_step P s c)).trans (ih (h.step (exec_step P s c)))

/-- **An external id names one order for ever**: whatever is called between, and whether the adapter
is reset or not, the order that has the id is the same one, and it is settled at most once. -/
theorem order_of_id (P : Platform) (calls calls' : List (Call × Int)) {o o' : OperatorOrder}
    (ho : o ∈ (init.after P calls).book) (ho' : o' ∈ ((init.after P calls).after P calls').book)
    (hid : o'.externalOrderId = o.externalOrderId) : Evolves o o' := by
  have hkept := kept_after P calls
  obtain ⟨n, hn, hissued⟩ := hkept.issued o ho
  obtain ⟨x, hx, hevolves⟩ := (hkept.later_after calls').old o' ho' n hn (hid.trans hissued)
  obtain rfl := hkept.order_eq_of_id ho hx (hevolves.externalOrderId.symm.trans hid)
  exact hevolves

/-! ## Samples -/

namespace Sample

def platform : Platform where
  ports _ := none
  sha256Hex _ := "6f32860910ca0fb2a20c7fda143666b09dbf8db5238195c90a586fb542ff0cad"
  redactErrorMessage text := text
  numberText _ := "2"

def request : PlaceOrderRequest where
  decisionId := "d1"
  idempotencyKey := "k1"
  operatorKey := "sandbox"
  fixtureId := "f1"
  providerFixtureId := "100"
  marketKey := "1X2"
  selectionKey := "HOME"
  requestedOdd := 2
  minimumOdd := 19 / 10
  stake := "10.00"
  currency := "EUR"
  quoteCapturedAt := 0

/-- The order of the request, the first one of the adapter. -/
def order : OperatorOrder := orderFor platform request 2 1

/-- The adapter is funded, and the order is booked without an answer. -/
def booked : List (Call × Int) :=
  [(.fund "EUR" "100.00", 0), (.enqueue [.delayed], 1), (.placeOrder request, 2)]

/-- The order is won. -/
def won : List (Call × Int) := [(.settle "SBX-000001" .won, 3)]

end Sample

/-- The order that is won has the id, and is still the order that was booked. -/
theorem order_of_id_won : ∃ o ∈ ((init.after Sample.platform Sample.booked).after Sample.platform
    Sample.won).book, o.status = .settled ∧ Evolves Sample.order o := by
  have hbook : Sample.order ∈ (init.after Sample.platform Sample.booked).book := by decide +kernel
  have hwon : (((init.after Sample.platform Sample.booked).after Sample.platform
      Sample.won).book.any fun o => o.status == .settled &&
        o.externalOrderId == Sample.order.externalOrderId) = true := by decide +kernel
  obtain ⟨o, ho, hchecks⟩ := List.any_eq_true.1 hwon
  rw [Bool.and_eq_true, beq_iff_eq, beq_iff_eq] at hchecks
  exact ⟨o, ho, hchecks.1, order_of_id Sample.platform Sample.booked Sample.won hbook ho hchecks.2⟩

/-! ## What is booked -/

/-- Until the adapter is reset, its book only grows. -/
theorem Kept.grows (h : Kept s) {c : Call × Int} (hc : c.1 ≠ .reset) :
    Register.Grows Evolves s.book (s.exec P c).book := by
  cases exec_step P s c with
  | same hbook => exact hbook ▸ .refl .refl _
  | booked _ _ _ hbook => exact hbook ▸ .append .refl _ _
  | @closed o outcome payoutCents now ho hs hbook =>
    rw [hbook]
    refine .map fun x hx => ?_
    split_ifs with hkey
    · obtain rfl := h.order_eq ho hx hkey
      exact evolves_close _ _ _ hs
    · exact .refl x
  | cleared hcall => exact absurd hcall hc

/-- What is booked is still there, and may have been settled. -/
theorem Kept.orderOf_after (h : Kept s) {key : String} {o : OperatorOrder}
    (ho : s.orderOf key = some o) {calls : List (Call × Int)} (hcalls : ∀ c ∈ calls, c.1 ≠ .reset) :
    ∃ o', (s.after P calls).orderOf key = some o' ∧ Evolves o o' := by
  induction calls generalizing s o with
  | nil => exact ⟨o, ho, .refl o⟩
  | cons c calls ih =>
    obtain ⟨hc, hcalls⟩ := List.forall_mem_cons.1 hcalls
    have hgrows : Register.Grows Evolves s.book (s.exec P c).book := h.grows hc
    obtain ⟨o₁, ho₁, hevolves⟩ := hgrows.find?
      (p := fun o : OperatorOrder => o.idempotencyKey == key)
      (fun a b hab => by rw [hab.idempotencyKey]) ho
    obtain ⟨o', ho', hevolves'⟩ := ih (h.step (exec_step P s c)) ho₁ hcalls
    exact ⟨o', ho', hevolves.trans hevolves'⟩

theorem Books.orderOf {stakeCents : Int} (h : Books P input now s s' o stakeCents) :
    s'.orderOf input.idempotencyKey = some o := by
  obtain ⟨hash, ho⟩ := h.order
  rw [Sandbox.orderOf, h.book, List.find?_append, ← Sandbox.orderOf, h.fresh, Option.none_or, ho]
  simp [orderFor]

/-- A well-formed acceptance is that of the order that is booked. -/
theorem placeOrder_answer {a : PlacementAcceptance}
    (ho : (s.placeOrder P input now).2.orderOf input.idempotencyKey = some o)
    (ha : (s.placeOrder P input now).1 = .ok (.accepted a))
    (hformed : isWellFormedAcceptance a = true) : .accepted a = accepted o := by
  rcases placeOrder_cases P s input now with ⟨x, hx, hplaced⟩ | ⟨hnone, hidle⟩ | ⟨x, _, hbooks, hx⟩
  · rw [hplaced] at ho ha
    obtain rfl := Option.some.inj (hx.symm.trans ho)
    exact (Except.ok.inj ha).symm
  · rw [orderOf, hidle.book, ← orderOf, hnone] at ho
    cases ho
  · obtain rfl := Option.some.inj (hbooks.orderOf.symm.trans ho)
    exact hx a ha hformed

/-- **What is booked is booked once**: until the adapter is reset, every other placement under the
key of the order is answered with its acceptance and changes nothing but the number of calls. -/
theorem placed_once (P : Platform) (calls calls' : List (Call × Int))
    {input' : PlaceOrderRequest} (now now' : Int)
    (hcalls' : ∀ c ∈ calls', c.1 ≠ .reset) (hkey : input'.idempotencyKey = input.idempotencyKey)
    (ho : ((init.after P calls).placeOrder P input now).2.orderOf input.idempotencyKey = some o) :
    let s' := ((init.after P calls).placeOrder P input now).2.after P calls'
    s'.placeOrder P input' now' = (.ok (accepted o), s'.called input.idempotencyKey) ∧
      ∀ a, ((init.after P calls).placeOrder P input now).1 = .ok (.accepted a) →
        isWellFormedAcceptance a = true → .accepted a = accepted o := by
  intro s'
  have hkept : Kept ((init.after P calls).placeOrder P input now).2 :=
    (kept_after P calls).step (exec_step P _ (.placeOrder input, now))
  obtain ⟨o', ho', hevolves⟩ := hkept.orderOf_after (P := P) ho hcalls'
  refine ⟨?_, fun a ha hformed => placeOrder_answer ho ha hformed⟩
  rcases placeOrder_cases P s' input' now' with ⟨x, hx, hplaced⟩ | ⟨hnone, -⟩ | ⟨_, _, hbooks, -⟩
  · rw [hkey] at hx hplaced
    obtain rfl := Option.some.inj (ho'.symm.trans hx)
    rw [hplaced, hevolves.acceptance]
  · rw [hkey, ho'] at hnone
    cases hnone
  · have hnone := hbooks.fresh
    rw [hkey, ho'] at hnone
    cases hnone

/-- The delayed order of the sample is won, and its acceptance is the answer to another placement. -/
theorem placed_once_won :
    (((init.after Sample.platform (Sample.booked.take 2)).placeOrder Sample.platform Sample.request
      2).2.after Sample.platform Sample.won).placeOrder Sample.platform Sample.request 4 =
    (.ok (accepted Sample.order), (((init.after Sample.platform (Sample.booked.take 2)).placeOrder
      Sample.platform Sample.request 2).2.after Sample.platform Sample.won).called "k1") :=
  (placed_once Sample.platform (Sample.booked.take 2) Sample.won 2 4
    (List.forall_mem_singleton.2 (by simp)) rfl (by decide +kernel)).1

/-! ## What is looked up -/

/-- The call looks the key up. -/
def Call.reads (key : String) : Call → Bool
  | .getOrderByIdempotencyKey k => k == key
  | .getOrdersByIdempotencyKeys keys => keys.contains key
  | _ => false

/-- What a call does to the reads that a key is still hidden from. -/
theorem exec_hiddenReads (P : Platform) (s : Sandbox) {c : Call × Int} (hc : c.1 ≠ .reset)
    (key : String) :
    (s.orderOf key = none ∧ ((s.exec P c).orderOf key).isSome) ∨
      (s.exec P c).hiddenReads key = s.hiddenReads key - if c.1.reads key then 1 else 0 := by
  obtain ⟨call, now⟩ := c
  cases call with
  | enqueue | setQuoteOdd | shiftBalance => exact .inr rfl
  | fund currency amount => exact .inr (congrFun (fund_idle s currency amount).2.2.1 key)
  | settle externalOrderId outcome =>
    refine .inr ?_
    show (s.settle externalOrderId outcome now).2.hiddenReads key = _
    rcases settle_cases s externalOrderId outcome now with h | ⟨_, -, _, _, -, -, -, -, h⟩ <;>
      rw [h] <;> rfl
  | reset => exact (hc rfl).elim
  | placeOrder input =>
    rcases placeOrder_cases P s input now with ⟨_, -, h⟩ | ⟨-, h⟩ | ⟨o, _, h, -⟩
    · exact .inr (by rw [exec, h]; rfl)
    · exact .inr (congrFun h.hiddenReads key)
    · by_cases hkey : key = input.idempotencyKey
      · subst hkey
        exact .inl ⟨h.fresh, Option.isSome_iff_exists.2 ⟨o, h.orderOf⟩⟩
      · refine .inr ((congrFun h.hiddenReads key).trans ?_)
        show (if _ then _ else s.hiddenReads) key = s.hiddenReads key
        split_ifs
        · exact Function.update_of_ne hkey ..
        · rfl
  | getOrderByIdempotencyKey k =>
    refine .inr ?_
    rw [exec, getOrderByIdempotencyKey_snd]
    by_cases hk : k = key
    · subst hk
      simp [Call.reads]
    · simp [Call.reads, hk, Function.update_of_ne (Ne.symm hk)]
  | getOrdersByIdempotencyKeys keys =>
    obtain ⟨hidden, h, hcount⟩ := lookUpEach_snd keys.eraseDups s
    refine .inr ?_
    rw [exec, getOrdersByIdempotencyKeys, h]
    refine (hcount key).trans (congrArg (s.hiddenReads key - ·) ?_)
    rw [(Grouping.nodup_eraseDups keys).count]
    simp [Call.reads]

/-- A key under which nothing is booked is not hidden. -/
theorem hiddenReads_of_fresh (P : Platform) (calls : List (Call × Int)) (key : String)
    (hfresh : (init.after P calls).orderOf key = none) :
    (init.after P calls).hiddenReads key = 0 := by
  induction calls using List.reverseRecOn with
  | nil => rfl
  | append_singleton calls c ih =>
    have hlast : init.after P (calls ++ [c]) = (init.after P calls).exec P c := by
      rw [after, after, List.foldl_append]
      rfl
    rw [hlast] at hfresh ⊢
    by_cases hc : c.1 = .reset
    · rw [show c = (.reset, c.2) from Prod.ext hc rfl]
      rfl
    rcases exec_hiddenReads P (init.after P calls) hc key with ⟨-, hsome⟩ | h
    · rw [hfresh] at hsome
      cases hsome
    · have hnone : (init.after P calls).orderOf key = none := by
        cases hfind : (init.after P calls).orderOf key with
        | none => rfl
        | some o =>
          have hsingle : ∀ d ∈ [c], d.1 ≠ Call.reset := List.forall_mem_singleton.2 hc
          obtain ⟨o', ho', -⟩ := (kept_after P calls).orderOf_after (P := P) hfind hsingle
          exact absurd (ho'.symm.trans hfresh) (Option.some_ne_none o')
      rw [h, ih hnone, Nat.zero_sub]

/-- While an order is booked, every call that looks its key up takes one read off. -/
theorem Kept.hiddenReads_after (h : Kept s) {key : String} (ho : s.orderOf key = some o)
    {calls : List (Call × Int)} (hcalls : ∀ c ∈ calls, c.1 ≠ .reset) :
    (s.after P calls).hiddenReads key =
      s.hiddenReads key - calls.countP fun c => c.1.reads key := by
  induction calls generalizing s o with
  | nil => rfl
  | cons c calls ih =>
    obtain ⟨hc, hcalls⟩ := List.forall_mem_cons.1 hcalls
    have hsingle : ∀ d ∈ [c], d.1 ≠ Call.reset := List.forall_mem_singleton.2 hc
    obtain ⟨o', ho', -⟩ := h.orderOf_after (P := P) ho hsingle
    rw [after_cons, ih (h.step (exec_step P s c)) ho' hcalls, List.countP_cons]
    rcases exec_hiddenReads P s hc key with ⟨hnone, -⟩ | hreads
    · exact absurd (ho.symm.trans hnone) (Option.some_ne_none o)
    · rw [hreads]
      omega

/-- The answer to a look-up. -/
theorem getOrderByIdempotencyKey_fst (s : Sandbox) (key : String) :
    (s.getOrderByIdempotencyKey key).1 = if 0 < s.hiddenReads key then none else s.orderOf key := by
  rw [getOrderByIdempotencyKey]
  split_ifs <;> rfl

end ApiScore.Sandbox
