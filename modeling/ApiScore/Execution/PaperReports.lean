import ApiScore.Execution.PaperBook
import ApiScore.Execution.SettlementAgreement
import ApiScore.Lib.Trace
import ApiScore.Odds.QuoteWindows

/-!
# What the paper operator says under a key

* `OperatorOrder.Later` — an order stays as it is, or is settled once.
* `PaperSound` — what every run of the calls keeps of the bookings and of what was said of them.
* `paper_placed_once` — the answers under a key are of one booking, unless two placements overlapped.
* `paper_settled` — a settled order has what its bet gives back, by a match that was read.
-/

set_option autoImplicit false

namespace ApiScore

open Concurrent Trace

/-! ## Orders -/

/-- What a placement has fixed of an order. -/
def OperatorOrder.placement (order : OperatorOrder) : PlacementAcceptance where
  externalOrderId := order.externalOrderId
  acceptedOdd := order.acceptedOdd
  acceptedStake := order.acceptedStake
  acceptedAt := order.acceptedAt
  receiptHash := order.receiptHash

/-- The order, unchanged, or settled once. -/
def OperatorOrder.Later (order order' : OperatorOrder) : Prop :=
  order' = order ∨ order.status = .accepted ∧
    ∃ outcome payoutCents now, order' = order.close outcome payoutCents now

section Order

variable {order order' order'' : OperatorOrder} {outcome : DecisionOutcome} {payoutCents now : Int}

theorem close_status : (order.close outcome payoutCents now).status ≠ .accepted := by
  rw [OperatorOrder.close]
  cases fromCents payoutCents <;> by_cases h : outcome = .void <;> simp [h]

theorem close_key : (order.close outcome payoutCents now).idempotencyKey = order.idempotencyKey := by
  rw [OperatorOrder.close]
  cases fromCents payoutCents <;> rfl

theorem close_placement : (order.close outcome payoutCents now).placement = order.placement := by
  rw [OperatorOrder.close]
  cases fromCents payoutCents <;> rfl

theorem OperatorOrder.Later.refl (order : OperatorOrder) : order.Later order := .inl rfl

theorem OperatorOrder.Later.trans (h : order.Later order') (h' : order'.Later order'') :
    order.Later order'' := by
  rcases h with rfl | ⟨haccepted, outcome, payoutCents, now, rfl⟩
  · exact h'
  · rcases h' with rfl | ⟨hstatus, -⟩
    · exact .inr ⟨haccepted, outcome, payoutCents, now, rfl⟩
    · exact absurd hstatus close_status

theorem OperatorOrder.Later.key (h : order.Later order') :
    order'.idempotencyKey = order.idempotencyKey := by
  rcases h with rfl | ⟨-, outcome, payoutCents, now, rfl⟩
  · rfl
  · exact close_key

theorem OperatorOrder.Later.placement (h : order.Later order') : order'.placement = order.placement := by
  rcases h with rfl | ⟨-, outcome, payoutCents, now, rfl⟩
  · rfl
  · exact close_placement

end Order

/-! ## One booking, refreshed -/

section Refresh

variable {P : Platform} {booking : PaperBooking} {fixture : Option Fixture} {now : Int}
  {request : PlaceOrderRequest} {oddMillis bookedAt : Int} {trace trace' : List PaperEvent}
  {order : OperatorOrder}

/-- The bet of a request, on a match that was read, has this outcome, and pays this. -/
structure PaysOn (request : PlaceOrderRequest) (oddMillis : Int) (trace : List PaperEvent)
    (outcome : DecisionOutcome) (payoutCents : Int) : Prop where
  read : ∃ fixture marketType, .fetched fixture ∈ trace ∧ fixture.id = request.fixtureId ∧
    marketTypeByKey request.marketKey = some marketType ∧
      resolveSettlement ⟨marketType, isHomeSelection request.selectionKey⟩ (finalStateOf fixture) =
        some outcome
  pays : ∃ stakeCents, toCents request.stake = some stakeCents ∧
    payoutCents = outcome.payoutCents stakeCents (oddValue oddMillis)

/-- The order of a request: as it was booked, or settled. -/
inductive Stands (P : Platform) (request : PlaceOrderRequest) (oddMillis bookedAt : Int)
    (trace : List PaperEvent) : OperatorOrder → Prop
  | booked : Stands P request oddMillis bookedAt trace (PaperBooking.of P request oddMillis bookedAt).order
  | settled {outcome : DecisionOutcome} {payoutCents now : Int}
    (hpays : PaysOn request oddMillis trace outcome payoutCents) :
    Stands P request oddMillis bookedAt trace
      ((PaperBooking.of P request oddMillis bookedAt).order.close outcome payoutCents now)

theorem Stands.later (h : Stands P request oddMillis bookedAt trace order) (ht : trace <:+ trace') :
    Stands P request oddMillis bookedAt trace' order := by
  cases h with
  | booked => exact .booked
  | settled hpays =>
    obtain ⟨⟨fixture, marketType, hfetched, hread⟩, hpays⟩ := hpays
    exact .settled ⟨⟨fixture, marketType, ht.subset hfetched, hread⟩, hpays⟩

theorem Stands.key (h : Stands P request oddMillis bookedAt trace order) :
    order.idempotencyKey = request.idempotencyKey := by
  cases h with
  | booked => rfl
  | settled => exact close_key

/-- What is still accepted is as it was booked. -/
theorem Stands.eq_booked (h : Stands P request oddMillis bookedAt trace order)
    (haccepted : order.status = .accepted) :
    order = (PaperBooking.of P request oddMillis bookedAt).order := by
  cases h with
  | booked => rfl
  | settled => exact absurd haccepted close_status

/-- What a refresh answers, and what it leaves of the booking. -/
inductive PaperBooking.Refreshed (booking : PaperBooking) (fixture : Option Fixture) (now : Int) :
    Except ServiceError OperatorOrder × PaperBooking → Prop
  | kept : Refreshed booking fixture now (.ok booking.order, booking)
  | threw (e : ServiceError) : Refreshed booking fixture now (.error e, booking)
  | settled {played : Fixture} {marketType : String} {outcome : DecisionOutcome} {stakeCents : Int}
      {odd : ℚ} {answer : Except ServiceError OperatorOrder} (haccepted : booking.order.status = .accepted)
      (hfixture : fixture = some played) (htype : marketTypeByKey booking.marketKey = some marketType)
      (houtcome : resolveSettlement ⟨marketType, booking.isHomeTeam⟩ (finalStateOf played) =
        some outcome)
      (hstake : booking.order.acceptedStake.bind toCents = some stakeCents)
      (hodd : booking.order.acceptedOdd.bind (·.finite?) = some odd)
      (hanswer : ∀ order, answer = .ok order →
        order = booking.order.close outcome (outcome.payoutCents stakeCents odd) now) :
      Refreshed booking fixture now (answer,
        { booking with order := booking.order.close outcome (outcome.payoutCents stakeCents odd) now })

theorem PaperBooking.refreshed (booking : PaperBooking) (fixture : Option Fixture) (now : Int) :
    booking.Refreshed fixture now (booking.refresh fixture now) := by
  unfold refresh
  dsimp only
  split_ifs with hstatus
  · exact .kept
  cases fixture with
  | none => exact .kept
  | some fixture =>
    cases htype : marketTypeByKey booking.marketKey with
    | none => exact .kept
    | some marketType =>
      dsimp only
      cases hout : resolveSettlement ⟨marketType, booking.isHomeTeam⟩ (finalStateOf fixture) with
      | none => exact .kept
      | some outcome =>
        dsimp only
        cases hstake : booking.order.acceptedStake.bind toCents with
        | none => exact .threw _
        | some stake =>
          cases hodd : booking.order.acceptedOdd.bind (·.finite?) with
          | none => exact .threw _
          | some odd =>
            refine .settled (not_not.1 hstatus) rfl htype hout hstake hodd fun order h => ?_
            split_ifs at h
            exact (Except.ok.inj h).symm

/-- **What a refresh does to a booking**: nothing, or it settles what was as it had been booked. -/
theorem refresh_stands {answer : Except ServiceError OperatorOrder} {refreshed : PaperBooking}
    (hrefresh : booking.refresh fixture now = (answer, refreshed))
    (hbooking : booking = { PaperBooking.of P request oddMillis bookedAt with order := booking.order })
    (hstands : Stands P request oddMillis bookedAt trace booking.order)
    (hfixture : ∀ f, fixture = some f → .fetched f ∈ trace ∧ f.id = booking.fixtureId) :
    refreshed = { booking with order := refreshed.order } ∧ booking.order.Later refreshed.order ∧
      Stands P request oddMillis bookedAt trace refreshed.order ∧
        ∀ order, answer = .ok order → order = refreshed.order := by
  have h := booking.refreshed fixture now
  rw [hrefresh] at h
  cases h with
  | kept => exact ⟨rfl, .refl _, hstands, fun _ h => (Except.ok.inj h).symm⟩
  | threw e => exact ⟨rfl, .refl _, hstands, fun _ h => by cases h⟩
  | @settled played marketType outcome stakeCents odd _ haccepted hplayed htype houtcome hstake hodd
      hanswer =>
    refine ⟨rfl, .inr ⟨haccepted, _, _, _, rfl⟩, ?_, hanswer⟩
    obtain ⟨hfetched, hid⟩ := hfixture played hplayed
    have hmarket : booking.marketKey = request.marketKey := congrArg (·.marketKey) hbooking
    have hside : booking.isHomeTeam = isHomeSelection request.selectionKey :=
      congrArg (·.isHomeTeam) hbooking
    have hmatch : booking.fixtureId = request.fixtureId := congrArg (·.fixtureId) hbooking
    rw [hstands.eq_booked haccepted] at hstake hodd ⊢
    have hodd : oddValue oddMillis = odd := Option.some.inj hodd
    rw [hmarket] at htype
    rw [hside] at houtcome
    exact .settled ⟨⟨played, marketType, hfetched, hid.trans hmatch, htype, houtcome⟩,
      stakeCents, hstake, by rw [hodd]⟩

end Refresh

/-! ## The invariant -/

/-- What an event says of what had happened before it. -/
def PaperEvent.Follows (older : List PaperEvent) : PaperEvent → Prop
  | .sought _ key => ∀ j ref, .booked j key ref ∉ older
  | .booked i key _ => .sought i key ∈ older
  | .reported _ ref order => ∀ key' order', .reported key' ref order' ∈ older → order'.Later order
  | .answered _ _ _ | .fetched _ => True

namespace PaperWorld

/-- What an event says of the bookings as they are now. -/
def Holds (P : Platform) (w : PaperWorld) : PaperEvent → Prop
  | .booked _ key _ => ∃ ref, w.refOf key = some ref
  | .answered key ref result => ∃ booking, w.bookings[ref]? = some booking ∧
      booking.order.idempotencyKey = key ∧ result = .accepted booking.order.placement
  | .reported key ref order => (∃ booking, w.bookings[ref]? = some booking ∧
      booking.order.idempotencyKey = key ∧ order.Later booking.order) ∧
        ∃ request oddMillis bookedAt, request.idempotencyKey = key ∧
          request.minimumOdd ≤ oddValue oddMillis ∧ Stands P request oddMillis bookedAt w.trace order
  | .sought _ _ | .fetched _ => True

/-- A booking was made of a request, and stands as its trace says. -/
def Made (P : Platform) (w : PaperWorld) (ref : Nat) (booking : PaperBooking) : Prop :=
  (∃ i, .booked i booking.order.idempotencyKey ref ∈ w.trace) ∧
    ∃ request oddMillis bookedAt,
      booking = { PaperBooking.of P request oddMillis bookedAt with order := booking.order } ∧
        request.minimumOdd ≤ oddValue oddMillis ∧
          Stands P request oddMillis bookedAt w.trace booking.order

/-- Nothing that was made is lost: the bookings stay, each unchanged or settled once. -/
structure Onward (w w' : PaperWorld) : Prop where
  trace : w.trace <:+ w'.trace
  bookings : ∀ (ref : Nat) (booking : PaperBooking), w.bookings[ref]? = some booking →
    ∃ order, w'.bookings[ref]? = some { booking with order } ∧ booking.order.Later order
  book : ∀ key ref, w.refOf key = some ref → ∃ ref', w'.refOf key = some ref'

end PaperWorld

/-- What every run of the calls keeps. -/
structure PaperSound (P : Platform) (w : PaperWorld) : Prop where
  past : ∀ newer e older, w.trace = newer ++ e :: older → e.Follows older
  events : ∀ e ∈ w.trace, w.Holds P e
  book : ∀ key ref, w.refOf key = some ref →
    ∃ booking, w.bookings[ref]? = some booking ∧ booking.order.idempotencyKey = key
  made : ∀ ref booking, w.bookings[ref]? = some booking → w.Made P ref booking

section Sound

variable {P : Platform} {w w' w'' : PaperWorld} {e : PaperEvent} {ref : Nat} {i : Nat}
  {booking refreshed : PaperBooking} {key : String}

theorem PaperWorld.Onward.refl (w : PaperWorld) : w.Onward w :=
  ⟨List.suffix_refl _, fun _ booking h => ⟨booking.order, h, .refl _⟩, fun _ ref h => ⟨ref, h⟩⟩

theorem PaperWorld.Onward.trans (h : w.Onward w') (h' : w'.Onward w'') : w.Onward w'' where
  trace := h.trace.trans h'.trace
  bookings ref booking hb := by
    obtain ⟨order, hb', hlater⟩ := h.bookings ref booking hb
    obtain ⟨order', hb'', hlater'⟩ := h'.bookings ref _ hb'
    exact ⟨order', hb'', hlater.trans hlater'⟩
  book key ref hr := by
    obtain ⟨ref', hr'⟩ := h.book key ref hr
    exact h'.book key ref' hr'

theorem PaperWorld.Holds.onward (h : w.Holds P e) (ho : w.Onward w') : w'.Holds P e := by
  cases e with
  | sought | fetched => trivial
  | booked j key ref =>
    obtain ⟨ref', hr⟩ := h
    exact ho.book key ref' hr
  | answered key ref result =>
    obtain ⟨booking, hb, hkey, hresult⟩ := h
    obtain ⟨order, hb', hlater⟩ := ho.bookings ref booking hb
    exact ⟨_, hb', hlater.key.trans hkey, by rw [hlater.placement, hresult]⟩
  | reported key ref order =>
    obtain ⟨⟨booking, hb, hkey, hl⟩, request, oddMillis, bookedAt, hrequest, hodd, hstands⟩ := h
    obtain ⟨order', hb', hlater⟩ := ho.bookings ref booking hb
    exact ⟨⟨_, hb', hlater.key.trans hkey, hl.trans hlater⟩, request, oddMillis, bookedAt, hrequest, hodd,
      hstands.later ho.trace⟩

theorem PaperWorld.Made.later (h : w.Made P ref booking) (ht : w.trace <:+ w'.trace) :
    w'.Made P ref booking := by
  obtain ⟨⟨i, hbooked⟩, request, oddMillis, bookedAt, hbooking, hodd, hstands⟩ := h
  exact ⟨⟨i, ht.subset hbooked⟩, request, oddMillis, bookedAt, hbooking, hodd, hstands.later ht⟩

/-- One more event. -/
theorem PaperSound.push (h : PaperSound P w) (hfollows : e.Follows w.trace) (hholds : w.Holds P e) :
    PaperSound P { w with trace := e :: w.trace } ∧ w.Onward { w with trace := e :: w.trace } := by
  have ho : w.Onward { w with trace := e :: w.trace } :=
    ⟨List.suffix_cons _ _, fun _ booking hb => ⟨booking.order, hb, .refl _⟩, fun _ ref hr => ⟨ref, hr⟩⟩
  refine ⟨⟨?_, fun e' he' => ?_, h.book, fun ref booking hb => (h.made ref booking hb).later ho.trace⟩, ho⟩
  · refine @past_cons _ _ e w.trace (fun x older => PaperEvent.Follows older x) id h.past fun x hx => ?_
    obtain rfl : e = x := hx
    exact hfollows
  · rcases List.mem_cons.1 he' with rfl | he'
    · exact hholds.onward ho
    · exact (h.events e' he').onward ho

/-- The matches that were read. -/
theorem PaperSound.fetched (h : PaperSound P w) (r : List Fixture) :
    PaperSound P { w with trace := r.map .fetched ++ w.trace } ∧
      w.Onward { w with trace := r.map .fetched ++ w.trace } := by
  induction r with
  | nil => exact ⟨h, .refl w⟩
  | cons fixture r ih =>
    obtain ⟨h₁, ho₁⟩ := ih
    obtain ⟨h₂, ho₂⟩ := h₁.push (e := .fetched fixture) trivial trivial
    exact ⟨h₂, ho₁.trans ho₂⟩

theorem PaperSound.seek (h : PaperSound P w) :
    PaperSound P (w.seek i key).2 ∧ w.Onward (w.seek i key).2 := by
  rw [PaperWorld.seek]
  cases hr : w.refOf key with
  | none =>
    refine h.push (e := .sought i key) (fun j ref hbooked => ?_) trivial
    obtain ⟨ref', hr'⟩ := h.events _ hbooked
    rw [hr] at hr'
    cases hr'
  | some ref =>
    obtain ⟨booking, hb, hkey⟩ := h.book key ref hr
    dsimp only
    rw [hb]
    exact h.push (e := .answered key ref booking.toResult) trivial ⟨booking, hb, hkey, rfl⟩

/-- A key that finds nothing was sought. -/
theorem seek_none {now : Int} (h : PaperSound P w) (hs : PaperStep P i (.seek key) w (none, now) w') :
    .sought i key ∈ w'.trace := by
  obtain ⟨hresult, rfl⟩ : (none, now) = (w.seek i key).1 ∧ w' = (w.seek i key).2 := by
    generalize ((none, now) : Option PlaceOrderResult × Int) = b at hs
    cases hs
    exact ⟨rfl, rfl⟩
  rw [PaperWorld.seek] at hresult ⊢
  cases hr : w.refOf key with
  | none => exact List.mem_cons_self
  | some ref =>
    obtain ⟨booking, hb, -⟩ := h.book key ref hr
    rw [hr] at hresult
    dsimp only at hresult
    rw [hb] at hresult
    cases hresult

theorem find?_setEntry {key' : String} {l : List (String × Nat)} :
    (setEntry key ref l).find? (·.1 == key') =
      if key = key' then some (key, ref) else l.find? (·.1 == key') := by
  induction l with
  | nil => by_cases hk : key = key' <;> simp [setEntry, hk]
  | cons entry l ih =>
    obtain ⟨k, r⟩ := entry
    rw [setEntry]
    by_cases hk : k = key
    · subst hk
      by_cases hk' : k = key' <;> simp [hk']
    · rw [if_neg hk, List.find?_cons, ih, List.find?_cons]
      by_cases hk' : key = key'
      · have hne : (k == key') = false := beq_eq_false_iff_ne.2 fun he => hk (he.trans hk'.symm)
        simp [hk', hne]
      · simp [hk']

theorem PaperSound.enter {request : PlaceOrderRequest} {oddMillis now : Int} (h : PaperSound P w)
    (hsought : .sought i request.idempotencyKey ∈ w.trace)
    (hodd : request.minimumOdd ≤ oddValue oddMillis) :
    PaperSound P (w.enter P i request oddMillis now).2 ∧
      w.Onward (w.enter P i request oddMillis now).2 := by
  obtain ⟨b, hb⟩ : ∃ b, b = PaperBooking.of P request oddMillis now := ⟨_, rfl⟩
  have hkey : b.order.idempotencyKey = request.idempotencyKey := by
    rw [hb]
    rfl
  -- the world before the answer
  obtain ⟨w₁, hw₁⟩ : ∃ w₁ : PaperWorld, w₁ = { w with
      bookings := w.bookings ++ [b]
      book := setEntry request.idempotencyKey w.bookings.length w.book
      trace := .booked i request.idempotencyKey w.bookings.length :: w.trace } := ⟨_, rfl⟩
  have hrefOf : ∀ key, w₁.refOf key =
      if request.idempotencyKey = key then some w.bookings.length else w.refOf key := by
    intro key
    rw [hw₁, PaperWorld.refOf, PaperWorld.refOf]
    dsimp only
    rw [find?_setEntry]
    split_ifs <;> rfl
  have hold : ∀ {ref : Nat} {booking : PaperBooking}, w.bookings[ref]? = some booking →
      w₁.bookings[ref]? = some booking := by
    intro ref booking hbooking
    rw [hw₁]
    exact (List.getElem?_append_left (List.getElem?_eq_some_iff.1 hbooking).1).trans hbooking
  have hlast : w₁.bookings[w.bookings.length]? = some b := by
    rw [hw₁]
    exact List.getElem?_concat_length
  have ho : w.Onward w₁ := by
    refine ⟨?_, fun ref booking hbooking => ⟨booking.order, hold hbooking, .refl _⟩, fun key ref hr => ?_⟩
    · rw [hw₁]
      exact List.suffix_cons _ _
    · rw [hrefOf]
      split_ifs
      · exact ⟨_, rfl⟩
      · exact ⟨ref, hr⟩
  have h₁ : PaperSound P w₁ := by
    refine ⟨?_, fun e he => ?_, fun key ref hr => ?_, fun ref booking hbooking => ?_⟩
    · rw [hw₁]
      refine @past_cons _ _ _ w.trace (fun x older => PaperEvent.Follows older x) id h.past
        fun x hx => ?_
      obtain rfl := hx
      exact hsought
    · rw [hw₁] at he
      rcases List.mem_cons.1 he with rfl | he
      · exact ⟨_, (hrefOf _).trans (if_pos rfl)⟩
      · exact (h.events e he).onward ho
    · rw [hrefOf] at hr
      split_ifs at hr with hk
      · obtain rfl := Option.some.inj hr
        exact ⟨b, hlast, hkey.trans hk⟩
      · obtain ⟨booking, hb, hk⟩ := h.book key ref hr
        exact ⟨booking, hold hb, hk⟩
    · rw [hw₁] at hbooking
      rcases lt_or_ge ref w.bookings.length with hlt | hge
      · rw [List.getElem?_append_left hlt] at hbooking
        exact (h.made ref booking hbooking).later ho.trace
      · rw [List.getElem?_append_right hge, List.getElem?_singleton] at hbooking
        split_ifs at hbooking with hzero
        obtain rfl := Option.some.inj hbooking
        obtain rfl : ref = w.bookings.length := by omega
        refine ⟨⟨i, ?_⟩, request, oddMillis, now, by rw [hb], hodd, ?_⟩
        · rw [hw₁, hkey]
          exact List.mem_cons_self
        · rw [hb]
          exact .booked
  have hanswered := h₁.push (e := .answered request.idempotencyKey w.bookings.length (.accepted b.order.placement))
    trivial ⟨b, hlast, hkey, rfl⟩
  obtain ⟨h₂, ho₂⟩ := hanswered
  rw [hw₁] at h₂ ho₂
  rw [hw₁] at ho
  rw [hb] at h₂ ho₂ ho
  exact ⟨h₂, ho.trans ho₂⟩

/-- A match that was read, for a booking. -/
def PaperWorld.ReadFor (w : PaperWorld) (ref : Nat) (fixture : Option Fixture) : Prop :=
  ∀ f, fixture = some f → .fetched f ∈ w.trace ∧
    ∃ booking, w.bookings[ref]? = some booking ∧ f.id = booking.fixtureId

/-- A booking, unchanged or settled. -/
theorem PaperSound.put (h : PaperSound P w) (hb : w.bookings[ref]? = some booking)
    (hsame : refreshed = { booking with order := refreshed.order })
    (hlater : booking.order.Later refreshed.order) (hmade : w.Made P ref refreshed) :
    PaperSound P { w with bookings := w.bookings.set ref refreshed } ∧
      w.Onward { w with bookings := w.bookings.set ref refreshed } := by
  have hset : (w.bookings.set ref refreshed)[ref]? = some refreshed :=
    List.getElem?_set_self (List.getElem?_eq_some_iff.1 hb).1
  have ho : w.Onward { w with bookings := w.bookings.set ref refreshed } := by
    refine ⟨List.suffix_refl _, fun ref' booking' hb' => ?_, fun key ref' hr => ⟨ref', hr⟩⟩
    by_cases hr : ref' = ref
    · subst hr
      obtain rfl := Option.some.inj (hb.symm.trans hb')
      exact ⟨refreshed.order, hset.trans (congrArg some hsame), hlater⟩
    · exact ⟨booking'.order, (List.getElem?_set_ne (Ne.symm hr)).trans hb', .refl _⟩
  refine ⟨⟨h.past, fun e he => (h.events e he).onward ho, fun key ref' hr => ?_,
    fun ref' booking' hb' => ?_⟩, ho⟩
  · obtain ⟨booking', hb', hkey⟩ := h.book key ref' hr
    obtain ⟨order, hb'', hl⟩ := ho.bookings ref' booking' hb'
    exact ⟨_, hb'', hl.key.trans hkey⟩
  · by_cases hr : ref' = ref
    · subst hr
      obtain rfl := Option.some.inj (hset.symm.trans hb')
      exact hmade
    · exact h.made ref' booking' ((List.getElem?_set_ne (Ne.symm hr)).symm.trans hb')

theorem PaperSound.refreshAt {fixture : Option Fixture} (h : PaperSound P w)
    (hfixture : w.ReadFor ref fixture) :
    PaperSound P (w.refreshAt ref fixture).2 ∧ w.Onward (w.refreshAt ref fixture).2 := by
  rw [PaperWorld.refreshAt]
  cases hb : w.bookings[ref]? with
  | none => exact ⟨h, .refl w⟩
  | some booking =>
    obtain ⟨⟨i, hbooked⟩, request, oddMillis, bookedAt, hbooking, hodd, hstands⟩ := h.made ref booking hb
    dsimp only
    cases hrefresh : booking.refresh fixture w.clock with
    | mk answer refreshed =>
    obtain ⟨hsame, hlater, hstands', hanswer⟩ := refresh_stands hrefresh hbooking hstands
      fun f hf => by
        obtain ⟨hfetched, booking', hb', hid⟩ := hfixture f hf
        obtain rfl := Option.some.inj (hb.symm.trans hb')
        exact ⟨hfetched, hid⟩
    have hkey : refreshed.order.idempotencyKey = booking.order.idempotencyKey := hlater.key
    have hmade : w.Made P ref refreshed := by
      refine ⟨⟨i, hkey ▸ hbooked⟩, request, oddMillis, bookedAt, ?_, hodd, hstands'⟩
      rw [hsame, hbooking]
    obtain ⟨h₁, ho₁⟩ := h.put hb hsame hlater hmade
    cases answer with
    | error e => exact ⟨h₁, ho₁⟩
    | ok order =>
      obtain rfl := hanswer order rfl
      have hset : (w.bookings.set ref refreshed)[ref]? = some refreshed :=
        List.getElem?_set_self (List.getElem?_eq_some_iff.1 hb).1
      -- what was reported of the booking before
      have hfollows : PaperEvent.Follows w.trace
          (.reported booking.order.idempotencyKey ref refreshed.order) := by
        intro key' order' hreported
        obtain ⟨⟨booking', hb', -, hl⟩, -⟩ := h.events _ hreported
        obtain rfl := Option.some.inj (hb.symm.trans hb')
        exact hl.trans hlater
      obtain ⟨h₂, ho₂⟩ := h₁.push hfollows ⟨⟨refreshed, hset, hkey, .refl _⟩, request, oddMillis, bookedAt,
        hstands.key.symm, hodd, hstands'⟩
      exact ⟨h₂, ho₁.trans ho₂⟩

theorem PaperSound.reportEach {fixtures : List Fixture} {keys : List String} (h : PaperSound P w)
    (hfixtures : ∀ f ∈ fixtures, .fetched f ∈ w.trace) :
    PaperSound P (PaperWorld.reportEach fixtures keys w).2 ∧
      w.Onward (PaperWorld.reportEach fixtures keys w).2 := by
  induction keys generalizing w with
  | nil => exact ⟨h, .refl w⟩
  | cons key keys ih =>
    rw [PaperWorld.reportEach]
    cases hr : w.refOf key with
    | none => exact ih h hfixtures
    | some ref =>
      dsimp only
      obtain ⟨booking, hb, -⟩ := h.book key ref hr
      have hread : w.ReadFor ref
          (fixtures.find? fun f => some f.id == (w.bookings[ref]?).map (·.fixtureId)) := by
        intro f hf
        have hid := List.find?_some hf
        rw [hb] at hid
        exact ⟨hfixtures f (List.mem_of_find?_eq_some hf), booking, hb, by simpa using hid⟩
      obtain ⟨h₁, ho₁⟩ := h.refreshAt hread
      cases hrefresh : w.refreshAt ref
          (fixtures.find? fun f => some f.id == (w.bookings[ref]?).map (·.fixtureId)) with
      | mk answer w₁ =>
        rw [hrefresh] at h₁ ho₁
        cases answer with
        | error e => exact ⟨h₁, ho₁⟩
        | ok order =>
          obtain ⟨h₂, ho₂⟩ := ih h₁ fun f hf => ho₁.trace.subset (hfixtures f hf)
          exact ⟨h₂, ho₁.trans ho₂⟩

theorem PaperSound.begin {keys : List String} (h : PaperSound P w) :
    PaperSound P (w.begin keys).2 ∧ w.Onward (w.begin keys).2 := by
  rw [PaperWorld.begin]
  cases w.awaited keys with
  | nil => exact h.reportEach fun _ hf => (List.not_mem_nil hf).elim
  | cons => exact ⟨h, .refl w⟩

/-! ## The discipline -/

/-- When an action is performed: a key is booked that was sought, at an odd that holds its minimum, and
only what was read settles. -/
def paperContract (P : Platform) : Contract PaperAction Nat PaperWorld where
  inv := PaperSound P
  pre i a w := match a with
    | .book request oddMillis _ => .sought i request.idempotencyKey ∈ w.trace ∧
        request.minimumOdd ≤ oddValue oddMillis
    | .report _ fixtures => ∀ f ∈ fixtures, .fetched f ∈ w.trace
    | .refresh ref fixture => w.ReadFor ref fixture
    | _ => True
  guar _ := PaperWorld.Onward
  rely _ := PaperWorld.Onward
  fresh _ _ := True
  refl _ := .refl
  trans _ _ _ _ := .trans

/-- One action of a call. -/
theorem PaperStep.sound {a : PaperAction} {b : a.Result} (h : PaperSound P w)
    (hpre : (paperContract P).pre i a w) (hs : PaperStep P i a w b w') :
    PaperSound P w' ∧ w.Onward w' := by
  cases hs with
  | seek => exact h.seek
  | loaded | notLoaded | notFetched | locate => exact ⟨h, .refl w⟩
  | book => exact h.enter hpre.1 hpre.2
  | begin => exact h.begin
  | fetched => exact h.fetched _
  | report => exact h.reportEach hpre
  | refresh => exact h.refreshAt hpre

variable {C : Collation}

/-- What a call promises, amid others. -/
abbrev PaperSpec (C : Collation) (P : Platform) (i : Nat) {α : Type} (Q : α → PaperWorld → Prop)
    (p : PaperCall α) (w : PaperWorld) : Prop :=
  Spec (paperSystem C P) (paperContract P) i Q p w

theorem paper_done {α : Type} {x : α} : PaperSpec C P i (fun _ _ => True) (pure x) w :=
  Spec.pure fun _ _ _ => trivial

theorem latestQuote_spec (lookup : ExecutableQuoteLookup) :
    PaperSpec C P i (fun _ w' => w.Onward w') (PaperCall.latestQuote C lookup) w := by
  refine Spec.act fun w₁ hr hi => ⟨trivial, fun b w₂ hs h₂ ho => ?_⟩
  cases b with
  | error e => exact Spec.throw
  | ok candidates => exact Spec.pure fun w₃ hr₃ _ => (hr.trans ho).trans hr₃

/-- The matches that are answered have been read. -/
theorem fixturesOf_spec (ids : List String) :
    PaperSpec C P i (fun r w' => w.Onward w' ∧ ∀ f ∈ r, .fetched f ∈ w'.trace ∧ f.id ∈ ids)
      (PaperCall.fixturesOf ids) w := by
  refine Spec.act fun w₁ hr hi => ⟨trivial, fun b w₂ hs h₂ ho => ?_⟩
  cases b with
  | error e => exact Spec.throw
  | ok r =>
    cases hs with
    | fetched hperm =>
      refine Spec.pure fun w₃ hr₃ _ => ⟨(hr.trans ho).trans hr₃, fun f hf => ?_⟩
      have hmem := (List.mem_filter.1 (hperm.mem_iff.1 hf)).2
      exact ⟨hr₃.trace.subset (List.mem_append_left _ (List.mem_map_of_mem hf)),
        List.contains_iff_mem.1 hmem⟩

theorem placeOrder_spec (input : PlaceOrderRequest) :
    PaperSpec C P i (fun _ _ => True) (PaperCall.placeOrder C input) w := by
  refine Spec.act fun w₁ hr h₁ => ⟨trivial, fun b w₂ hs h₂ ho => ?_⟩
  obtain ⟨result, now⟩ := b
  cases result with
  | some result => exact paper_done
  | none =>
    have hsought : .sought i input.idempotencyKey ∈ w₂.trace := seek_none h₁ hs
    refine Spec.bind (latestQuote_spec _) h₂ fun quote w₃ h₃ ho₃ => ?_
    cases quote with
    | none => exact paper_done
    | some quote =>
      dsimp only
      split_ifs with hlow
      · exact paper_done
      · refine Spec.perform fun w₄ hr₄ h₄ => ⟨⟨?_, not_lt.1 hlow⟩, fun _ _ _ _ _ _ _ _ => trivial⟩
        exact (ho₃.trans hr₄).trace.subset hsought

theorem getOrdersByIdempotencyKeys_spec (keys : List String) :
    PaperSpec C P i (fun _ _ => True) (PaperCall.getOrdersByIdempotencyKeys keys) w := by
  have hlift : ∀ (answer : Except ServiceError (List KeyedLookup)) (w : PaperWorld),
      PaperSpec C P i (fun _ _ => True) (PaperCall.getOrdersByIdempotencyKeys.liftExcept answer) w := by
    intro answer w
    cases answer with
    | ok lookups => exact paper_done
    | error e => exact Spec.throw
  refine Spec.act fun w₁ hr h₁ => ⟨trivial, fun b w₂ hs h₂ ho => ?_⟩
  cases b with
  | inl answer => exact hlift answer w₂
  | inr ids =>
    refine Spec.bind (fixturesOf_spec ids) h₂ fun r w₃ h₃ hread => ?_
    refine Spec.act fun w₄ hr₄ h₄ => ⟨fun f hf => ?_, fun answer w₅ _ _ _ => hlift answer w₅⟩
    exact hr₄.trace.subset (hread.2 f hf).1

/-- What is found by an external id is a booking, with its match. -/
theorem locate_some {id fixtureId : String} (hs : PaperStep P i (.locate id) w (some (ref, fixtureId)) w') :
    ∃ booking, w'.bookings[ref]? = some booking ∧ booking.fixtureId = fixtureId := by
  obtain ⟨hfound, rfl⟩ : w.locate id = some (ref, fixtureId) ∧ w = w' := by
    generalize (some (ref, fixtureId) : Option (Nat × String)) = b at hs
    cases hs
    exact ⟨rfl, rfl⟩
  obtain ⟨entry, -, hentry⟩ := List.exists_of_findSome?_eq_some hfound
  obtain ⟨booking, hb, heq⟩ := Option.map_eq_some_iff.1 hentry
  obtain ⟨rfl, hfixture⟩ := Prod.mk.inj heq
  exact ⟨booking, (Option.filter_eq_some_iff.1 hb).1, hfixture⟩

theorem getOrderByExternalId_spec (id : String) :
    PaperSpec C P i (fun _ _ => True) (PaperCall.getOrderByExternalId id) w := by
  refine Spec.act fun w₁ hr h₁ => ⟨trivial, fun b w₂ hs h₂ ho => ?_⟩
  cases b with
  | none => exact paper_done
  | some found =>
    obtain ⟨ref, fixtureId⟩ := found
    obtain ⟨booking, hb, hfixture⟩ := locate_some hs
    refine Spec.bind (fixturesOf_spec [fixtureId]) h₂ fun r w₃ h₃ hread => ?_
    refine Spec.act fun w₄ hr₄ h₄ => ⟨fun f hf => ?_, fun answer w₅ _ _ _ => ?_⟩
    · obtain ⟨hfetched, hid⟩ := hread.2 f (List.mem_of_mem_head? hf)
      obtain ⟨order, hb', -⟩ := (hread.1.trans hr₄).bookings ref booking hb
      exact ⟨hr₄.trace.subset hfetched, _, hb', (List.mem_singleton.1 hid).trans hfixture.symm⟩
    · cases answer with
      | ok order => exact paper_done
      | error e => exact Spec.throw

theorem paper_discipline : Discipline (paperSystem C P) (paperContract P) where
  entry i p w hp hinv _ := by
    have hcall : ∀ {α : Type} {p : PaperCall α}, PaperSpec C P i (fun _ _ => True) p w →
        Safe (paperSystem C P) (paperContract P) i (fun _ _ => True) (p.run >>= fun _ => .ret ()) w :=
      fun h => Safe.bind h hinv fun _ _ _ _ => Safe.ret fun _ _ _ => trivial
    cases hp with
    | quote lookup =>
      exact hcall (Spec.bind (latestQuote_spec lookup) hinv fun _ _ _ _ => paper_done)
    | place input => exact hcall (placeOrder_spec input)
    | byKeys keys => exact hcall (getOrdersByIdempotencyKeys_spec keys)
    | byKey key =>
      refine hcall (Spec.bind (getOrdersByIdempotencyKeys_spec [key]) hinv fun lookups _ _ _ => ?_)
      split
      · exact paper_done
      · exact paper_done
    | byExternalId id => exact hcall (getOrderByExternalId_spec id)
  step i a b w w' hinv hpre hs := hs.sound hinv hpre
  compatible _ _ _ _ _ h := h
  fresh _ _ _ _ h := h
  env w w' h hinv := by
    obtain ⟨odds, fixtures, clock, -, rfl⟩ := h
    have ho : w.Onward { w with odds, fixtures, clock } :=
      ⟨List.suffix_refl _, fun _ booking hb => ⟨booking.order, hb, .refl _⟩, fun _ ref hr => ⟨ref, hr⟩⟩
    exact ⟨⟨hinv.past, fun e he => (hinv.events e he).onward ho, hinv.book,
      fun ref booking hb => (hinv.made ref booking hb).later ho.trace⟩, fun _ => ho⟩
  drop _ w hinv := ⟨hinv, fun _ _ => .refl w⟩

end Sound

/-! ## What is said under a key -/

/-- A placement was on its way while another one booked the same key, and then booked it again. -/
def Overlapped (key : String) (trace : List PaperEvent) : Prop :=
  ∃ i j ref ref', ref ≠ ref' ∧
    [.booked j key ref', .booked i key ref, .sought j key].Sublist trace

namespace PaperWorld

/-- What the placements under a key were answered with, latest first. -/
def answers (w : PaperWorld) (key : String) : List PlaceOrderResult :=
  w.trace.filterMap fun
    | .answered key' _ result => if key' = key then some result else none
    | _ => none

/-- What was reported under a key, latest first. -/
def reports (w : PaperWorld) (key : String) : List OperatorOrder :=
  w.trace.filterMap fun
    | .reported key' _ order => if key' = key then some order else none
    | _ => none

end PaperWorld

section Key

variable {C : Collation} {P : Platform} {w : PaperWorld} {key : String}
  {c : Config PaperAction PaperAction.Result Nat PaperWorld}

theorem mem_answers {result : PlaceOrderResult} :
    result ∈ w.answers key ↔ ∃ ref, .answered key ref result ∈ w.trace := by
  rw [PaperWorld.answers, List.mem_filterMap]
  constructor
  · rintro ⟨e, he, hresult⟩
    cases e with
    | answered key' ref result' =>
      dsimp only at hresult
      split_ifs at hresult with hkey
      obtain rfl := hkey
      obtain rfl := Option.some.inj hresult
      exact ⟨ref, he⟩
    | sought | booked | reported | fetched => cases hresult
  · rintro ⟨ref, he⟩
    exact ⟨_, he, if_pos rfl⟩

theorem mem_reports {order : OperatorOrder} :
    order ∈ w.reports key ↔ ∃ ref, .reported key ref order ∈ w.trace := by
  rw [PaperWorld.reports, List.mem_filterMap]
  constructor
  · rintro ⟨e, he, horder⟩
    cases e with
    | reported key' ref order' =>
      dsimp only at horder
      split_ifs at horder with hkey
      obtain rfl := hkey
      obtain rfl := Option.some.inj horder
      exact ⟨ref, he⟩
    | sought | booked | answered | fetched => cases horder
  · rintro ⟨ref, he⟩
    exact ⟨_, he, if_pos rfl⟩

/-- Two bookings of a key overlapped. -/
theorem PaperSound.overlapped (h : PaperSound P w) {i j ref ref' : Nat} (hne : ref ≠ ref')
    (hbooked : .booked i key ref ∈ w.trace) (hbooked' : .booked j key ref' ∈ w.trace) :
    Overlapped key w.trace := by
  -- what booked the key later had sought it before the key was booked
  have hlater : ∀ {i j ref ref' : Nat} {newer older : List PaperEvent}, ref ≠ ref' →
      w.trace = newer ++ .booked j key ref' :: older → .booked i key ref ∈ older →
        Overlapped key w.trace := by
    intro i j ref ref' newer older hne htrace hbooked
    obtain ⟨between, oldest, rfl⟩ := List.append_of_mem hbooked
    have hsought : .sought j key ∈ between ++ .booked i key ref :: oldest := h.past _ _ _ htrace
    rcases List.mem_append.1 hsought with hsought | hsought
    · obtain ⟨after, before, rfl⟩ := List.append_of_mem hsought
      have htrace' : w.trace = (newer ++ .booked j key ref' :: after) ++
          .sought j key :: (before ++ .booked i key ref :: oldest) := by
        rw [htrace]
        simp only [List.append_assoc, List.cons_append]
      have hnone : ∀ i' ref', .booked i' key ref' ∉ before ++ .booked i key ref :: oldest :=
        h.past _ _ _ htrace'
      exact absurd (List.mem_append_right _ List.mem_cons_self) (hnone i ref)
    · have holdest : .sought j key ∈ oldest := List.mem_of_ne_of_mem (by simp) hsought
      refine ⟨i, j, ref, ref', hne, ?_⟩
      rw [htrace]
      refine (List.Sublist.cons_cons _ ?_).trans (List.sublist_append_right _ _)
      refine (List.Sublist.cons_cons _ ?_).trans (List.sublist_append_right _ _)
      exact List.singleton_sublist.2 holdest
  obtain ⟨newer, older, htrace⟩ := List.append_of_mem hbooked'
  rw [htrace] at hbooked
  rcases List.mem_append.1 hbooked with hmem | hmem
  · obtain ⟨newest, between, rfl⟩ := List.append_of_mem hmem
    have htrace' : w.trace =
        newest ++ .booked i key ref :: (between ++ .booked j key ref' :: older) := by
      rw [htrace, List.append_assoc, List.cons_append]
    exact hlater hne.symm htrace' (List.mem_append_right _ List.mem_cons_self)
  · refine hlater hne htrace (List.mem_of_ne_of_mem ?_ hmem)
    intro heq
    exact hne (PaperEvent.booked.inj heq).2.2

/-- Every run from an empty book keeps the invariant. -/
theorem paperSound_reachable {w₀ : PaperWorld} (hempty : w₀.bookings = [] ∧ w₀.book = [] ∧ w₀.trace = [])
    (h : Reachable (paperSystem C P) (.init w₀) c) : PaperSound P c.state := by
  have hinit : PaperSound P w₀ := by
    obtain ⟨hbookings, hbook, htrace⟩ := hempty
    refine ⟨fun newer e older h => ?_, fun e he => ?_, fun key ref hr => ?_, fun ref booking hb => ?_⟩
    · rw [htrace] at h
      exact absurd h.symm (by simp)
    · rw [htrace] at he
      cases he
    · rw [PaperWorld.refOf, hbook] at hr
      cases hr
    · rw [hbookings] at hb
      cases hb
  exact (paper_discipline.reachable hinit (fun _ => trivial) h).1

/-- **What is said under a key is said of one booking**, unless two placements of the key overlapped:
every placement that is answered with a booking is answered the same, every report is of that
placement, and an order that was reported settled is reported the same ever after. -/
theorem paper_placed_once {w₀ : PaperWorld} (hempty : w₀.bookings = [] ∧ w₀.book = [] ∧ w₀.trace = [])
    (h : Reachable (paperSystem C P) (.init w₀) c) (key : String) :
    Overlapped key c.state.trace ∨ ∃ placement : PlacementAcceptance,
      (∀ result ∈ c.state.answers key, result = .accepted placement) ∧
        (∀ order ∈ c.state.reports key, order.placement = placement) ∧
          (c.state.reports key).Pairwise fun later earlier => earlier.Later later := by
  have hinv := paperSound_reachable hempty h
  by_cases hone : ∃ ref ref' i j, ref ≠ ref' ∧ .booked i key ref ∈ c.state.trace ∧
      .booked j key ref' ∈ c.state.trace
  · obtain ⟨ref, ref', i, j, hne, hbooked, hbooked'⟩ := hone
    exact .inl (hinv.overlapped hne hbooked hbooked')
  -- every booking of the key is the same one
  have hunique : ∀ {ref ref' : Nat} {booking booking' : PaperBooking},
      c.state.bookings[ref]? = some booking → booking.order.idempotencyKey = key →
        c.state.bookings[ref']? = some booking' → booking'.order.idempotencyKey = key → ref = ref' := by
    intro ref ref' booking booking' hb hkey hb' hkey'
    obtain ⟨⟨i, hbooked⟩, -⟩ := hinv.made ref booking hb
    obtain ⟨⟨j, hbooked'⟩, -⟩ := hinv.made ref' booking' hb'
    by_contra hne
    exact hone ⟨ref, ref', i, j, hne, hkey ▸ hbooked, hkey' ▸ hbooked'⟩
  have hordered : (c.state.reports key).Pairwise fun later earlier => earlier.Later later := by
    refine List.pairwise_filterMap.2 (pairwise_of_past fun newer e older htrace e' he' => ?_)
    intro order horder order' horder'
    cases e with
    | reported key₁ ref order₁ =>
      cases e' with
      | reported key₂ ref' order₂ =>
        dsimp only at horder horder'
        split_ifs at horder horder' with hkey₁ hkey₂
        obtain rfl := Option.some.inj horder
        obtain rfl := Option.some.inj horder'
        have he : .reported key₁ ref order₁ ∈ c.state.trace :=
          htrace ▸ List.mem_append_right _ List.mem_cons_self
        have he'' : .reported key₂ ref' order₂ ∈ c.state.trace :=
          htrace ▸ List.mem_append_right _ (List.mem_cons_of_mem _ he')
        obtain ⟨⟨booking, hb, hkey, -⟩, -⟩ := hinv.events _ he
        obtain ⟨⟨booking', hb', hkey', -⟩, -⟩ := hinv.events _ he''
        obtain rfl := hunique hb (hkey.trans hkey₁) hb' (hkey'.trans hkey₂)
        exact hinv.past _ _ _ htrace key₂ order₂ he'
      | sought | booked | answered | fetched => cases horder'
    | sought | booked | answered | fetched => cases horder
  right
  by_cases hbooked : ∃ (ref : Nat) (booking : PaperBooking),
      c.state.bookings[ref]? = some booking ∧ booking.order.idempotencyKey = key
  · obtain ⟨ref, booking, hb, hkey⟩ := hbooked
    refine ⟨booking.order.placement, fun result hresult => ?_, fun order horder => ?_, hordered⟩
    · obtain ⟨ref', he⟩ := mem_answers.1 hresult
      obtain ⟨booking', hb', hkey', rfl⟩ := hinv.events _ he
      obtain rfl := hunique hb hkey hb' hkey'
      obtain rfl := Option.some.inj (hb.symm.trans hb')
      rfl
    · obtain ⟨ref', he⟩ := mem_reports.1 horder
      obtain ⟨⟨booking', hb', hkey', hlater⟩, -⟩ := hinv.events _ he
      obtain rfl := hunique hb hkey hb' hkey'
      obtain rfl := Option.some.inj (hb.symm.trans hb')
      exact hlater.placement.symm
  · refine ⟨⟨none, none, none, none, none⟩, fun result hresult => ?_, fun order horder => ?_, hordered⟩
    · obtain ⟨ref', he⟩ := mem_answers.1 hresult
      obtain ⟨booking', hb', hkey', -⟩ := hinv.events _ he
      exact absurd ⟨ref', booking', hb', hkey'⟩ hbooked
    · obtain ⟨ref', he⟩ := mem_reports.1 horder
      obtain ⟨⟨booking', hb', hkey', -⟩, -⟩ := hinv.events _ he
      exact absurd ⟨ref', booking', hb', hkey'⟩ hbooked

/-- **What is reported is what was booked, or what the bet gives back** by a match that was read. -/
theorem paper_settled {w₀ : PaperWorld} (hempty : w₀.bookings = [] ∧ w₀.book = [] ∧ w₀.trace = [])
    (h : Reachable (paperSystem C P) (.init w₀) c) {key : String} {order : OperatorOrder}
    (horder : order ∈ c.state.reports key) :
    ∃ request oddMillis bookedAt, request.idempotencyKey = key ∧
      request.minimumOdd ≤ oddValue oddMillis ∧
        Stands P request oddMillis bookedAt c.state.trace order := by
  have hinv := paperSound_reachable hempty h
  obtain ⟨ref, hreported⟩ := mem_reports.1 horder
  exact (hinv.events _ hreported).2

end Key

/-! ## A sample -/

namespace Sample

/-- An empty book, with an odd of the match that is won. -/
def paperStart : PaperWorld :=
  ⟨[], [], tableFor ⟨"1", "TEAM_GOALS_FT", "HOME_OVER_0.5", none, none⟩ 0, [won], 1000, []⟩

/-- Once the bet is sought and booked. -/
def paperPlaced : PaperWorld :=
  ((paperStart.seek 0 paperKey).2.enter paperPlatform 0 (paperRequest 1000 2000) 2000 1000).2

/-- Once its match is read, and the bet reported. -/
def paperReported : PaperWorld :=
  ({ paperPlaced with trace := .fetched won :: paperPlaced.trace }.report [paperKey] [won]).2

abbrev paperCalls : System PaperAction PaperAction.Result Nat PaperWorld :=
  paperSystem .codePoints paperPlatform

theorem paperPlaced_returns : Returns paperCalls 0
    (PaperCall.placeOrder .codePoints (paperRequest 1000 2000)) paperStart
      (paperBooking 1000 2000).toResult paperPlaced := by
  obtain ⟨quote, hquote, hodd⟩ : ∃ quote, selectLatest .codePoints
      (loadCandidates paperStart.odds ⟨["1"], -60000, 1000⟩)
        ⟨⟨"1", "TEAM_GOALS_FT", "HOME_OVER_0.5", none, none⟩, 1000, 61000⟩ = some quote ∧
          quote.oddValue = 2000 := by
    have hodd : (selectLatest .codePoints (loadCandidates paperStart.odds ⟨["1"], -60000, 1000⟩)
        ⟨⟨"1", "TEAM_GOALS_FT", "HOME_OVER_0.5", none, none⟩, 1000, 61000⟩).map (·.oddValue) =
          some 2000 := by decide +kernel
    exact Option.map_eq_some_iff.1 hodd
  have hseek : Returns paperCalls 0 (PaperCall.perform (.seek paperKey)) paperStart (none, 1000)
    (paperStart.seek 0 paperKey).2 := ⟨_, _, .seek, rfl, rfl⟩
  have hlatest : Returns paperCalls 0 (PaperCall.latestQuote .codePoints
      ⟨⟨"1", "TEAM_GOALS_FT", "HOME_OVER_0.5", none, none⟩, 1000, 61000⟩)
        (paperStart.seek 0 paperKey).2 (some quote) (paperStart.seek 0 paperKey).2 :=
    ⟨_, _, .loaded, congrArg Except.ok hquote, rfl⟩
  refine hseek.bind (hlatest.bind ?_)
  dsimp only
  have hholds : ¬ oddValue 2000 < (paperRequest 1000 2000).minimumOdd := lt_irrefl _
  rw [hodd, if_neg hholds]
  exact ⟨_, _, .book, rfl, rfl⟩

theorem paperReported_returns : ∃ lookups, Returns paperCalls 1
    (PaperCall.getOrdersByIdempotencyKeys [paperKey]) paperPlaced lookups paperReported := by
  have hbegin : paperPlaced.begin [paperKey] = (.inr ["fixture-1"], paperPlaced) := by
    have hawaited : paperPlaced.awaited [paperKey] = ["fixture-1"] := by decide +kernel
    rw [PaperWorld.begin, hawaited]
  have hstart : Returns paperCalls 1 (PaperCall.perform (.begin [paperKey])) paperPlaced
      (.inr ["fixture-1"]) paperPlaced :=
    ⟨_, _, .begin, congrArg (Except.ok ·.1) hbegin, congrArg (·.2) hbegin⟩
  have hfixtures : Returns paperCalls 1 (PaperCall.fixturesOf ["fixture-1"]) paperPlaced [won]
      { paperPlaced with trace := .fetched won :: paperPlaced.trace } :=
    ⟨_, _, .fetched (r := [won]) (.of_eq (by decide +kernel)), rfl, rfl⟩
  -- the booking under the key is settled, and nothing throws
  obtain ⟨lookups, hok⟩ : ∃ lookups, ({ paperPlaced with trace := .fetched won :: paperPlaced.trace }
      : PaperWorld).report [paperKey] [won] = (.ok lookups, paperReported) := by
    have hsome : (({ paperPlaced with trace := .fetched won :: paperPlaced.trace }
        : PaperWorld).report [paperKey] [won]).1.toOption.isSome = true := by decide +kernel
    cases hanswer : ({ paperPlaced with trace := .fetched won :: paperPlaced.trace }
        : PaperWorld).report [paperKey] [won] with
    | mk answer w =>
      rw [hanswer] at hsome
      cases answer with
      | error e => cases hsome
      | ok lookups => exact ⟨lookups, by rw [paperReported, hanswer]⟩
  have hreport : Returns paperCalls 1 (PaperCall.perform (.report [paperKey] [won]))
      { paperPlaced with trace := .fetched won :: paperPlaced.trace } (.ok lookups) paperReported :=
    ⟨_, _, .report, congrArg (Except.ok ·.1) hok, congrArg (·.2) hok⟩
  exact ⟨lookups, hstart.bind (hfixtures.bind (hreport.bind (returns_pure.2 ⟨rfl, rfl⟩)))⟩

/-- The bet is booked, its match is won, and it is reported. -/
theorem paper_run : ∃ procs, Reachable paperCalls (.init paperStart) ⟨paperReported, procs⟩ := by
  obtain ⟨lookups, hreport⟩ := paperReported_returns
  have hplace : Alone paperCalls 0 ((PaperCall.placeOrder .codePoints (paperRequest 1000 2000)).run >>=
      fun _ => .ret ()) paperStart () paperPlaced := alone_bind.2 ⟨_, _, paperPlaced_returns, rfl, rfl⟩
  have hlookup : Alone paperCalls 1 ((PaperCall.getOrdersByIdempotencyKeys [paperKey]).run >>=
      fun _ => .ret ()) paperPlaced () paperReported := alone_bind.2 ⟨_, _, hreport, rfl, rfl⟩
  have h₁ : Reachable paperCalls (.init paperStart) _ :=
    Reachable.init.step (.start (i := 0) rfl (.place (paperRequest 1000 2000)))
  have h₂ := Alone.reachable h₁ hplace (by dsimp only; rw [Function.update_self])
  have h₃ := h₂.step (.start (i := 1) rfl (.byKeys [paperKey]))
  exact ⟨_, Alone.reachable h₃ hlookup (by dsimp only; rw [Function.update_self])⟩

/-- It was accepted, and reported settled, under the same placement. -/
theorem paper_placed_once_settled : ∃ placement : PlacementAcceptance,
    .accepted placement ∈ paperReported.answers paperKey ∧
      ∃ order ∈ paperReported.reports paperKey, order.status = .settled ∧ order.placement = placement := by
  obtain ⟨procs, h⟩ := paper_run
  rcases paper_placed_once ⟨rfl, rfl, rfl⟩ h paperKey with hoverlapped | ⟨placement, hanswers, hreports, -⟩
  · -- there is one booking alone
    have hfirst : (paperReported.trace.all fun
        | .booked _ _ ref => ref == 0
        | _ => true) = true := by decide +kernel
    obtain ⟨i, j, ref, ref', hne, hsublist⟩ := hoverlapped
    have hzero := List.all_eq_true.1 hfirst
    have href' := hzero _ (hsublist.subset List.mem_cons_self)
    have href := hzero _ (hsublist.subset (List.mem_cons_of_mem _ List.mem_cons_self))
    exact absurd ((beq_iff_eq.1 href).trans (beq_iff_eq.1 href').symm) hne
  · have hanswered : ∃ result ∈ paperReported.answers paperKey, True := by decide +kernel
    have hsettled : ∃ order ∈ paperReported.reports paperKey, order.status = .settled := by
      decide +kernel
    obtain ⟨result, hresult, -⟩ := hanswered
    obtain ⟨order, horder, hstatus⟩ := hsettled
    exact ⟨placement, hanswers result hresult ▸ hresult, order, horder, hstatus, hreports order horder⟩

/-- It pays its stake twice. -/
theorem paper_settled_won : ∃ order ∈ paperReported.reports paperKey, order.payout = some "20.00" ∧
    ∃ request oddMillis bookedAt, request.idempotencyKey = paperKey ∧
      request.minimumOdd ≤ oddValue oddMillis ∧
        Stands paperPlatform request oddMillis bookedAt paperReported.trace order := by
  obtain ⟨procs, h⟩ := paper_run
  have hsome : ∃ order ∈ paperReported.reports paperKey, order.payout = some "20.00" := by
    decide +kernel
  obtain ⟨order, horder, hpayout⟩ := hsome
  exact ⟨order, horder, hpayout, paper_settled ⟨rfl, rfl, rfl⟩ h horder⟩

end Sample

end ApiScore
