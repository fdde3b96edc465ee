import ApiScore.Execution.SandboxRuns

/-!
# The balances of the sandbox operator

The adapter keeps its balances beside its book, changing both by hand.  They go together: what is
exposed are the stakes of the accepted orders, and nothing is gained or lost but by what settlements
pay and by the shifts that are asked for.

* `openStakes`, `gains` — what the book says of a currency.
* `balances_after` — what the balances say of it, in every run.
-/

set_option autoImplicit false

namespace ApiScore.Sandbox

/-- The stake of an order, and what it paid. -/
def stakeOf (o : OperatorOrder) : Int := (o.acceptedStake.bind toCents).getD 0

def payoutOf (o : OperatorOrder) : Int := (o.payout.bind toCents).getD 0

/-- What an accepted order of the currency has at stake. -/
def openPart (s : Sandbox) (currency : String) (o : OperatorOrder) : Int :=
  if o.status = .accepted ∧ s.currencyOf o = currency then stakeOf o else 0

/-- What a settled order of the currency has gained or lost. -/
def gainPart (s : Sandbox) (currency : String) (o : OperatorOrder) : Int :=
  if o.status ≠ .accepted ∧ s.currencyOf o = currency then payoutOf o - stakeOf o else 0

def openStakes (s : Sandbox) (currency : String) : Int := (s.book.map (s.openPart currency)).sum

def gains (s : Sandbox) (currency : String) : Int := (s.book.map (s.gainPart currency)).sum

/-- The shift that a call asks for. -/
def Call.shift (currency : String) : Call → Int
  | .shiftBalance c deltaCents => if c = currency then deltaCents else 0
  | _ => 0

/-- The settled orders have their payouts: `fromCents` has not thrown in a settlement. -/
def Paid (s : Sandbox) : Prop := ∀ o ∈ s.book, o.status ≠ .accepted → o.payout.isSome

/-! ## One call -/

/-- A call that changes the balances as it changes the book. -/
structure Balanced (currency : String) (shift : Int) (s s' : Sandbox) : Prop where
  exposure : (s'.balances currency).exposureCents - (s.balances currency).exposureCents =
    s'.openStakes currency - s.openStakes currency
  total : ((s'.balances currency).availableCents + (s'.balances currency).exposureCents) -
      ((s.balances currency).availableCents + (s.balances currency).exposureCents) =
    shift + (s'.gains currency - s.gains currency)

section Call

variable {P : Platform} {s s' : Sandbox} {input : PlaceOrderRequest} {now : Int} {o : OperatorOrder}
  {currency : String}

theorem parts_congr (hbook : s'.book = s.book) (hcurrencies : s'.currencies = s.currencies) :
    s'.openStakes currency = s.openStakes currency ∧ s'.gains currency = s.gains currency := by
  have hof : s'.currencyOf = s.currencyOf := by
    funext o
    rw [currencyOf, currencyOf, hcurrencies]
  have hopen : s'.openPart currency = s.openPart currency := by
    funext o
    rw [openPart, openPart, hof]
  have hgain : s'.gainPart currency = s.gainPart currency := by
    funext o
    rw [gainPart, gainPart, hof]
  rw [openStakes, gains, hbook, hopen, hgain]
  exact ⟨rfl, rfl⟩

/-- The book is the same, and the balance is shifted. -/
theorem Balanced.of_book {shift : Int} (hbook : s'.book = s.book)
    (hcurrencies : s'.currencies = s.currencies)
    (hbalance : s'.balances currency =
      ⟨(s.balances currency).availableCents + shift, (s.balances currency).exposureCents⟩) :
    Balanced currency shift s s' := by
  have hparts : s'.openStakes currency = s.openStakes currency ∧ s'.gains currency = s.gains currency :=
    parts_congr hbook hcurrencies
  obtain ⟨hopen, hgain⟩ := hparts
  constructor
  · rw [hbalance, hopen, sub_self, sub_self]
  · rw [hbalance, hgain]
    dsimp only
    omega

theorem Balanced.same (hbook : s'.book = s.book) (hcurrencies : s'.currencies = s.currencies)
    (hbalance : s'.balances currency = s.balances currency) : Balanced currency 0 s s' :=
  .of_book hbook hcurrencies (by rw [hbalance, add_zero])

theorem Balanced.trans {s'' : Sandbox} {shift shift' : Int} (h : Balanced currency shift s s')
    (h' : Balanced currency shift' s' s'') : Balanced currency (shift + shift') s s'' := by
  have hexposure := h.exposure
  have hexposure' := h'.exposure
  have htotal := h.total
  have htotal' := h'.total
  constructor <;> omega

/-- The currency of what is booked is that of the request; the others keep theirs. -/
theorem Books.currencyOf {stakeCents : Int} (hkept : Kept s)
    (h : Books P input now s s' o stakeCents) : s'.currencyOf o = input.currency ∧
      ∀ x ∈ s.book, s'.currencyOf x = s.currencyOf x := by
  obtain ⟨hash, ho⟩ := h.order
  constructor
  · rw [Sandbox.currencyOf, h.currencies, ho]
    simp [orderFor]
  · intro x hx
    have hne : x.externalOrderId ≠ some (sandboxId (s.sequence + 1)) := fun hid =>
      hkept.fresh (hid ▸ List.mem_map_of_mem hx)
    rw [Sandbox.currencyOf, Sandbox.currencyOf, h.currencies]
    cases hid : x.externalOrderId with
    | none => rfl
    | some id =>
      rw [Option.bind_some, Option.bind_some, Function.update_of_ne fun heq => hne (hid.trans
        (congrArg some heq))]

theorem Books.balanced {stakeCents : Int} (hkept : Kept s)
    (h : Books P input now s s' o stakeCents) : Balanced currency 0 s s' := by
  obtain ⟨hcurrency, hothers⟩ := h.currencyOf hkept
  obtain ⟨hash, ho⟩ := h.order
  have hs : o.status = .accepted := by rw [ho]; rfl
  have hstake : stakeOf o = stakeCents := by
    rw [stakeOf, ho]
    show ((some input.stake).bind toCents).getD 0 = _
    rw [Option.bind_some, h.cents, Option.getD_some]
  have hopen : s'.openStakes currency =
      s.openStakes currency + if input.currency = currency then stakeCents else 0 := by
    rw [openStakes, h.book, List.map_append, List.sum_append, List.map_singleton,
      List.sum_singleton, openPart, hcurrency, hstake]
    simp only [hs, true_and]
    congr 2
    exact List.map_congr_left fun x hx => by rw [openPart, openPart, hothers x hx]
  have hgain : s'.gains currency = s.gains currency := by
    rw [gains, h.book, List.map_append, List.sum_append, List.map_singleton, List.sum_singleton,
      gainPart, if_neg fun hne => hne.1 hs, add_zero]
    congr 1
    exact List.map_congr_left fun x hx => by rw [gainPart, gainPart, hothers x hx]
  have hbalance : s'.balances currency = if input.currency = currency then
      ⟨(s.balances currency).availableCents - stakeCents,
        (s.balances currency).exposureCents + stakeCents⟩ else s.balances currency := by
    rw [h.balances, stakeOut]
    split_ifs with hc
    · rw [hc]
      exact Function.update_self ..
    · exact Function.update_of_ne (Ne.symm hc) ..
  constructor
  · rw [hopen, hbalance]
    split_ifs
    · dsimp only
      omega
    · omega
  · rw [hgain, hbalance]
    split_ifs
    · dsimp only
      omega
    · omega

/-- The payout of an order that is closed. -/
theorem payoutOf_close {outcome : SandboxOutcome} {payoutCents : Int}
    (h : (close outcome payoutCents now o).payout.isSome) (ho : o.payout = none) :
    payoutOf (close outcome payoutCents now o) = payoutCents := by
  rw [payoutOf]
  rw [close] at h ⊢
  cases hcents : fromCents payoutCents with
  | none =>
    rw [hcents] at h
    simp [ho] at h
  | some payout =>
    show ((some payout).bind toCents).getD 0 = _
    rw [Option.bind_some, toCents_fromCents hcents, Option.getD_some]

theorem close_acceptedStake (outcome : SandboxOutcome) (payoutCents now : Int) (o : OperatorOrder) :
    (close outcome payoutCents now o).acceptedStake = o.acceptedStake := by
  rw [close]; split <;> rfl

/-- A settlement takes the stake out of the exposure, and its payout becomes available. -/
theorem settle_balanced (hkept : Kept s) (ho : o ∈ s.book) (hs : o.status = .accepted)
    {outcome : SandboxOutcome} {stakeCents payoutCents : Int}
    (hstake : o.acceptedStake.bind toCents = some stakeCents)
    (hpaid : (close outcome payoutCents now o).payout.isSome)
    (hbook : s'.book = Register.rewrite (·.idempotencyKey) o.idempotencyKey
      (close outcome payoutCents now) s.book)
    (hcurrencies : s'.currencies = s.currencies)
    (hbalances : s'.balances = (s.payOut (s.currencyOf o) stakeCents payoutCents).balances) :
    Balanced currency 0 s s' := by
  have hof (x : OperatorOrder) : s'.currencyOf x = s.currencyOf x := by
    rw [Sandbox.currencyOf, Sandbox.currencyOf, hcurrencies]
  have hcurrency : s.currencyOf (close outcome payoutCents now o) = s.currencyOf o := by
    rw [Sandbox.currencyOf, Sandbox.currencyOf, close_externalOrderId]
  have hclosed := close_status_ne outcome payoutCents now o
  have hstakeOf : stakeOf o = stakeCents := by rw [stakeOf, hstake, Option.getD_some]
  have hstakeOf' : stakeOf (close outcome payoutCents now o) = stakeCents := by
    rw [stakeOf, close_acceptedStake, hstake, Option.getD_some]
  have hpayoutOf := payoutOf_close hpaid (hkept.unpaid o ho hs)
  have hopen : s'.openStakes currency =
      s.openStakes currency - if s.currencyOf o = currency then stakeCents else 0 := by
    have hparts : s'.openPart currency = s.openPart currency := by
      funext x
      rw [openPart, openPart, hof]
    rw [openStakes, hbook, hparts, Register.sum_rewrite hkept.keys ho, ← openStakes,
      openPart, if_neg fun h => hclosed h.1, openPart, hstakeOf, zero_sub, ← sub_eq_add_neg]
    simp only [hs, true_and]
  have hgain : s'.gains currency = s.gains currency +
      if s.currencyOf o = currency then payoutCents - stakeCents else 0 := by
    have hparts : s'.gainPart currency = s.gainPart currency := by
      funext x
      rw [gainPart, gainPart, hof]
    have hold : s.gainPart currency o = 0 := if_neg fun h => h.1 hs
    rw [gains, hbook, hparts, Register.sum_rewrite hkept.keys ho, ← gains, hold, sub_zero,
      gainPart, hcurrency, hpayoutOf, hstakeOf']
    simp only [ne_eq, hclosed, not_false_eq_true, true_and]
  have hbalance : s'.balances currency = if s.currencyOf o = currency then
      ⟨(s.balances currency).availableCents + payoutCents,
        (s.balances currency).exposureCents - stakeCents⟩ else s.balances currency := by
    rw [hbalances, payOut]
    split_ifs with hc
    · rw [hc]
      exact Function.update_self ..
    · exact Function.update_of_ne (Ne.symm hc) ..
  constructor
  · rw [hopen, hbalance]
    split_ifs
    · dsimp only
      omega
    · omega
  · rw [hgain, hbalance]
    split_ifs
    · dsimp only
      omega
    · omega

/-- **A call changes the balances as it changes the book**, unless it resets the adapter or funds the
currency. -/
theorem exec_balanced (hkept : Kept s) {c : Call × Int} (hreset : c.1 ≠ .reset)
    (hfund : ∀ amount, c.1 ≠ .fund currency amount) (hpaid : Paid (s.exec P c)) :
    Balanced currency (c.1.shift currency) s (s.exec P c) := by
  obtain ⟨call, now⟩ := c
  cases call with
  | enqueue | setQuoteOdd => exact .same rfl rfl rfl
  | fund currency' amount =>
    have hne : currency ≠ currency' := fun h => hfund amount (by rw [h])
    obtain ⟨hbook, -, -, hcurrencies⟩ := fund_idle s currency' amount
    refine .same hbook hcurrencies ?_
    rw [exec, fund]
    cases toCents amount with
    | none => rfl
    | some cents => exact Function.update_of_ne hne ..
  | shiftBalance currency' deltaCents =>
    refine .of_book rfl rfl ?_
    rw [exec, shiftBalance, Call.shift]
    split_ifs with hc
    · rw [hc]
      exact Function.update_self ..
    · rw [add_zero]
      exact Function.update_of_ne (Ne.symm hc) ..
  | settle externalOrderId outcome =>
    have hpaid : Paid (s.settle externalOrderId outcome now).2 := hpaid
    show Balanced currency 0 s (s.settle externalOrderId outcome now).2
    rcases settle_cases s externalOrderId outcome now with
      h | ⟨o, ho, stakeCents, odd, hs, -, hstake, -, h⟩
    · rw [h]
      exact .same rfl rfl rfl
    · rw [h] at hpaid ⊢
      have hmem : close outcome (outcome.decision.payoutCents stakeCents odd) now o ∈
          Register.rewrite (·.idempotencyKey) o.idempotencyKey
            (close outcome (outcome.decision.payoutCents stakeCents odd) now) s.book :=
        List.mem_map.2 ⟨o, ho, if_pos rfl⟩
      exact settle_balanced hkept ho hs hstake (hpaid _ hmem (close_status_ne _ _ _ _)) rfl rfl rfl
  | reset => exact (hreset rfl).elim
  | placeOrder input =>
    rcases placeOrder_cases P s input now with ⟨o, -, h⟩ | ⟨-, h⟩ | ⟨o, _, h, -⟩
    · rw [exec, h]
      exact .same rfl rfl rfl
    · exact .same h.book h.currencies (congrFun h.balances currency)
    · exact h.balanced hkept
  | getOrderByIdempotencyKey key =>
    rw [exec, getOrderByIdempotencyKey_snd]
    exact .same rfl rfl rfl
  | getOrdersByIdempotencyKeys keys =>
    obtain ⟨_, h, -⟩ := lookUpEach_snd keys.eraseDups s
    rw [exec, getOrdersByIdempotencyKeys, h]
    exact .same rfl rfl rfl

end Call

/-! ## Runs -/

section Runs

variable {P : Platform} {s : Sandbox} {currency : String}

/-- What is settled stays as it is. -/
theorem Kept.paid_of_after (h : Kept s) {calls : List (Call × Int)}
    (hcalls : ∀ c ∈ calls, c.1 ≠ .reset) (hpaid : Paid (s.after P calls)) : Paid s := by
  intro o ho hs
  have hfind : s.orderOf o.idempotencyKey = some o := by
    cases hx : s.orderOf o.idempotencyKey with
    | none => exact absurd rfl (orderOf_eq_none.1 hx o ho)
    | some x =>
      have hkey := List.find?_some hx
      rw [h.order_eq ho (List.mem_of_find?_eq_some hx) (by simpa using hkey)]
  obtain ⟨o', ho', hevolves⟩ := h.orderOf_after (P := P) hfind hcalls
  rw [← hevolves.settled hs]
  exact hpaid o' (List.mem_of_find?_eq_some ho') (by rwa [hevolves.settled hs])

/-- The shifts of a currency. -/
def shifts (currency : String) (calls : List (Call × Int)) : Int :=
  (calls.map fun c => c.1.shift currency).sum

theorem Kept.balanced_after (h : Kept s) {calls : List (Call × Int)}
    (hcalls : ∀ c ∈ calls, c.1 ≠ .reset ∧ ∀ amount, c.1 ≠ .fund currency amount)
    (hpaid : Paid (s.after P calls)) :
    Balanced currency (shifts currency calls) s (s.after P calls) := by
  induction calls generalizing s with
  | nil => exact .same rfl rfl rfl
  | cons c calls ih =>
    obtain ⟨⟨hreset, hfund⟩, hcalls⟩ := List.forall_mem_cons.1 hcalls
    have hkept := h.step (exec_step P s c)
    have hpaid' : Paid (s.exec P c) :=
      hkept.paid_of_after (P := P) (fun c hc => (hcalls c hc).1) hpaid
    rw [shifts, List.map_cons, List.sum_cons]
    exact (exec_balanced h hreset hfund hpaid').trans (ih hkept hcalls hpaid)

end Runs

end ApiScore.Sandbox
