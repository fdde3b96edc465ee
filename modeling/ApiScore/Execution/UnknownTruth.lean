import ApiScore.Execution.ReservedBalance
import ApiScore.Lib.Amid

/-!
# What the word of `resolveUnknown` says of its order

`resolveUnknown` picks the word it returns from the view of the operator, and reconciliation records
`RESOLVED` on that word.  The writes underneath may decline without saying so: a cancellation that
finds the order moved, an acceptance that finds it refused, a settlement without a payout.

* `UnknownResolution.Holds` — what the word promises of the row, now and from then on.
* `Foreseen` — none of the three declines.
* `resolveUnknown_tells_truth_iff` — amid any other calls, the word holds exactly then.
* `resolveUnknown_tells_untruth` — an order reported as won without a payout.
-/

set_option autoImplicit false

namespace ApiScore

open Relational Concurrent
open Relation (ReflTransGen)

/-! ## The promise of a word -/

/-- What is promised of the order a word was returned for. -/
def UnknownResolution.Holds (orderId : String) (db : Database) : UnknownResolution → Prop
  | .accepted => ∃ o ∈ db.orders, o.id = orderId ∧ o.status ∈ takenStatuses
  | .settled => ∃ o ∈ db.orders, o.id = orderId ∧ o.status ∈ [OrderStatus.settled, .voided]
  | .rejected | .declaredNotPlaced =>
    ∃ o ∈ db.orders, o.id = orderId ∧ o.status = .rejected ∧
      (db.Has .reserve o.idempotencyKey → db.Has .release o.idempotencyKey)
  | .pending | .tooOld | .reconciliationRequired => True

/-- A promise that holds goes on holding. -/
theorem UnknownResolution.Holds.onward {orderId : String} {r : UnknownResolution} {w w' : World}
    (h : r.Holds orderId w.db) (hc : Consistent w'.db) (ho : Onward w w') :
    r.Holds orderId w'.db := by
  cases r with
  | accepted =>
    obtain ⟨o, hmem, hid, hs⟩ := h
    obtain ⟨x, hx, hb⟩ := ho.row hmem
    exact ⟨x, hx, hb.same.id.trans hid, (hb.taken hs).1⟩
  | settled =>
    obtain ⟨o, hmem, hid, hs⟩ := h
    obtain ⟨x, hx, hb⟩ := ho.row hmem
    have hfinal : o.status ∈ [OrderStatus.rejected, .settled, .voided, .reconciliationRequired] := by
      simp only [List.mem_cons, List.not_mem_nil, or_false] at hs ⊢
      tauto
    rw [hb.eq_of_final hfinal] at hx
    exact ⟨o, hx, hid, hs⟩
  | rejected | declaredNotPlaced =>
    obtain ⟨o, hmem, hid, hs, -⟩ := h
    obtain ⟨x, hx, hb⟩ := ho.row hmem
    rw [hb.eq_of_final (by simp [hs])] at hx
    exact ⟨o, hx, hid, hs, (hc.orders o hx).refunded hs⟩
  | pending | tooOld | reconciliationRequired => trivial

/-- **None of the writes declines**, by what a call of `resolveUnknown` found: its log has each of its
actions with the state it was performed in. -/
structure Foreseen (order : BetOrder) (op : Option OperatorOrder) (log : List (Action × World)) :
    Prop where
  /-- The cancellation, which comes first, finds the order `UNKNOWN`, or refused already. -/
  cancelled : ∀ c w, log.head? = some (.commit (.cancel order.id [.unknown] c), w) →
    ∀ o ∈ w.db.orders, o.id = order.id → o.status = .unknown ∨ o.status = .rejected
  /-- The acceptance, which comes first, does not find the order refused. -/
  accepted : ∀ x w, log.head? = some (.commit (.acceptance order.id x), w) →
    ∀ o ∈ w.db.orders, o.id = order.id → o.status ≠ .rejected
  /-- Where a decided bet comes without an amount, the last read does not find the order `ACCEPTED`
  any more. -/
  settled : ∀ x, op = some x → x.status.isSettled = true → x.settlement? = none →
    ∀ e, log.getLast? = some e →
      ∀ o ∈ e.2.db.orders, o.id = order.id → o.status ≠ .accepted

/-! ## A call amid the others -/

section

variable {S : Setting} {i : CallId} {c c' : Run} {log : List (Action × World)}

/-- The contract under which the tables stay right. -/
abbrev Setting.tables (S : Setting) : Terms S := S.sound fun w => Consistent w.db

/-- The others are in order, while call `i` is on its way. -/
structure Underway (S : Setting) (i : CallId) (c : Run) : Prop where
  ok : c.OkBut S.system S.tables.toContract i
  absent : c.procs i = none

theorem Underway.consistent (h : Underway S i c) : Consistent c.state.db := h.ok.1

/-- What the others do to the tables. -/
theorem Underway.meanwhile (h : Underway S i c) (ho : ReflTransGen (Meanwhile S.system i) c c') :
    Underway S i c' ∧ Onward c.state c'.state := by
  obtain ⟨hok, habsent, hrely⟩ := consistent_discipline.meanwhiles h.ok h.absent ho
  exact ⟨⟨hok, habsent⟩, hrely.onward⟩

/-- **A call that returns has kept its promise**, and its actions were sound. -/
theorem Underway.ensured {α : Type} {p : Call α} {x : α} {Q : α → World → Prop}
    (h : Underway S i c) (hrun : Yields S.system i p c log x c')
    (hens : Ensures S.tables i Q p c.state) :
    Underway S i c' ∧ Q x c'.state ∧ ∀ e ∈ log, Sound i e.1 e.2 := by
  obtain ⟨hok, habsent, hQ, hlog⟩ := consistent_discipline.amid hrun h.ok h.absent hens
  exact ⟨⟨hok, habsent⟩, hQ x rfl, hlog⟩

/-- A statement of the call. -/
theorem Underway.query {q : Query} {r : q.Result} (h : Underway S i c)
    (hrun : Yields S.system i (query q) c log r c') :
    ∃ w, Onward c.state w ∧ q.read w.db = some r ∧ c'.state = w.note (.read i q r) ∧
      Underway S i c' ∧ log = [(.query q, w)] := by
  obtain ⟨hu, -, hlog⟩ := h.ensured hrun (query_ensures (K := fun _ => True) (fun _ _ => trivial)
    fun _ _ _ _ _ => trivial)
  obtain ⟨w, b, c₁, rest, hrely, -, hs, -, -, -, hrest, rfl⟩ :=
    consistent_discipline.amid_act hrun h.ok h.absent hlog
  cases b with
  | error e => exact (not_yields_throw hrest).elim
  | ok x =>
    obtain ⟨rfl, rfl, rfl⟩ := yields_pure.1 hrest
    obtain ⟨hread, hw⟩ := hs.query
    exact ⟨w, hrely.onward, hread, hw, hu, rfl⟩

/-- A transaction of the call. -/
theorem Underway.commit {t : Transaction} {r : t.Result} (h : Underway S i c)
    (hpre : ∀ w, Consistent w.db → Sound i (.commit t) w)
    (hrun : Yields S.system i (commit t) c log r c') :
    ∃ w, Onward c.state w ∧ Consistent w.db ∧ Ran S i t r w c'.state ∧ Onward w c'.state ∧
      Underway S i c' ∧ log = [(.commit t, w)] := by
  obtain ⟨hu, -, hlog⟩ := h.ensured hrun (commit_ensures (Q := fun _ _ => True)
    (fun _ _ hinv => hpre _ hinv) fun _ _ _ _ _ _ _ _ _ _ _ => trivial)
  obtain ⟨w, b, c₁, rest, hrely, hinv, hs, hguar, -, -, hrest, rfl⟩ :=
    consistent_discipline.amid_act hrun h.ok h.absent hlog
  cases b with
  | error e => exact (not_yields_throw hrest).elim
  | ok x =>
    obtain ⟨rfl, rfl, rfl⟩ := yields_pure.1 hrest
    rcases hs.commit with ⟨r', hran, hr⟩ | ⟨-, e, he⟩
    · obtain rfl := hr x rfl
      exact ⟨w, hrely.onward, hinv, hran, hguar.1, hu, rfl⟩
    · cases he

/-- `autoStop` does one thing. -/
theorem Underway.autoStop {request : AutoStopRequest} {u : Unit} (h : Underway S i c)
    (hrun : Yields S.system i (autoStop request) c log u c') :
    Underway S i c' ∧ ∃ w, log = [(.commit (.stop request.reason .automatic), w)] := by
  obtain ⟨hu, -, hlog⟩ := h.ensured hrun autoStop_ensures
  obtain ⟨w, b, c₁, rest, -, -, -, -, -, -, hrest, rfl⟩ :=
    consistent_discipline.amid_act hrun h.ok h.absent hlog
  obtain ⟨-, -, rfl⟩ := yields_pure.1 hrest
  exact ⟨hu, w, rfl⟩

/-- `cancel`, with what it found and did. -/
theorem Underway.cancel {orderId : String} {source : List OrderStatus} {x : Cancellation}
    {o : BetOrder} (h : Underway S i c) (hsource : ∀ s ∈ source, s ∈ releasableStatuses)
    (hrun : Yields S.system i (cancel orderId source x) c log o c') :
    ∃ w w₁ rest, Onward c.state w ∧ Ran S i (.cancel orderId source x) () w w₁ ∧
      Onward w c'.state ∧ Onward w₁ c'.state ∧ Underway S i c' ∧
        log = (.commit (.cancel orderId source x), w) :: rest := by
  obtain ⟨u, c₁, log₁, log₂, hcommit, hread, rfl⟩ := hrun.of_bind
  obtain ⟨w, hfirst, -, hran, ho, hu, rfl⟩ :=
    h.commit (fun _ _ => sound_cancel hsource) hcommit
  obtain ⟨w₂, ho₂, -, hc', hu', rfl⟩ := hu.query hread
  have hlast : Onward c₁.state c'.state := by
    rw [hc']
    exact ho₂.trans (Rely.note (i := i) _ _).onward
  exact ⟨w, c₁.state, _, hfirst, hran, ho.trans hlast, hlast, hu', rfl⟩

/-- `applyAcceptance`, with what it found, did and read back. -/
theorem Underway.applyAcceptance {orderId : String} {op : OperatorOrder} {o : BetOrder}
    (h : Underway S i c) (hrun : Yields S.system i (applyAcceptance orderId op) c log o c') :
    ∃ w r w₁ rest w₂, Ran S i (.acceptance orderId op) r w w₁ ∧
      Onward w w₁ ∧ Onward w₁ w₂ ∧ w₂.db.order? orderId = some o ∧ c'.state.db = w₂.db ∧
        Underway S i c' ∧ log =
          (.commit (.acceptance orderId op), w) :: (rest ++ [(.query (.order orderId), w₂)]) := by
  have hpre : ∀ w, Consistent w.db → Sound i (.commit (.acceptance orderId op)) w :=
    fun w hinv => S.tables.guards (w := w) hinv trivial
  obtain ⟨r, c₁, log₁, log₂, hcommit, hrest, rfl⟩ := hrun.of_bind
  obtain ⟨w, -, -, hran, ho, hu, rfl⟩ := h.commit hpre hcommit
  obtain ⟨u, c₂, log₃, log₄, hstop, hquery, rfl⟩ := hrest.of_bind
  obtain ⟨hu₂, hrely, -⟩ := hu.ensured hstop applyStop_ensures
  obtain ⟨w₂, ho₂, hread, hc', hu', rfl⟩ := hu₂.query hquery
  exact ⟨w, r, c₁.state, log₃, w₂, hran, ho, hrely.onward.trans ho₂, hread,
    by rw [hc']; rfl, hu', rfl⟩

/-! ## What the writes do to the row -/

/-- A decided order is refused if and only if it was. -/
theorem Became.rejected_iff {o o' : BetOrder} (h : Became o o')
    (hd : o.status ∉ releasableStatuses) : o'.status = .rejected ↔ o.status = .rejected := by
  by_cases hacc : o.status = .accepted
  · have ht := (h.taken (by simp [hacc, takenStatuses])).1
    refine ⟨fun hr => ?_, fun hr => ?_⟩
    · simp [hr, takenStatuses] at ht
    · simp [hr] at hacc
  · have hfinal : o.status ∈ [OrderStatus.rejected, .settled, .voided, .reconciliationRequired] := by
      cases hx : o.status <;> simp_all [releasableStatuses]
    rw [h.eq_of_final hfinal]

/-- **After a cancellation the order is refused, and its stake given back, if it was `UNKNOWN` or
refused before.** -/
theorem cancelled_iff {orderId : String} {x : Cancellation} {w w₁ w' : World}
    (hw' : Consistent w'.db) (hran : Ran S i (.cancel orderId [.unknown] x) () w w₁)
    (ho : Onward w w') (ho₁ : Onward w₁ w')
    (hsent : ∀ o ∈ w.db.orders, o.id = orderId → o.status ∉ [OrderStatus.reserved, .submitting]) :
    UnknownResolution.rejected.Holds orderId w'.db ↔
      ∀ o ∈ w.db.orders, o.id = orderId → o.status = .unknown ∨ o.status = .rejected := by
  obtain ⟨env, db, -, hbody, rfl⟩ := hran
  rcases cancelTx_spec (by simp [releasableStatuses]) hbody with
    ⟨-, o, hmem, hid, hs⟩ | ⟨o, hmem, hid, hs, hrw, -⟩
  · -- it declined: the order is decided
    have hunknown : o.status ≠ .unknown := by simpa using hs
    have hd : o.status ∉ releasableStatuses := by
      have hsent := hsent o hmem hid
      simp only [releasableStatuses, List.mem_cons, List.not_mem_nil, or_false] at hsent ⊢
      tauto
    obtain ⟨row, hrow, hb⟩ := ho.row hmem
    have hrid := hb.same.id.trans hid
    constructor
    · rintro ⟨y, hy, hyid, hys, -⟩ o' hmem' hid'
      rw [order_eq_of_id hy hrow (hyid.trans hrid.symm)] at hys
      rw [order_eq_of_id hmem' hmem (hid'.trans hid.symm)]
      exact .inr ((hb.rejected_iff hd).1 hys)
    · intro h
      have hr := (hb.rejected_iff hd).2 ((h o hmem hid).resolve_left hunknown)
      exact ⟨row, hrow, hrid, hr, (hw'.orders row hrow).refunded hr⟩
  · have hnew := hrw.mem_of_rewritten (List.mem_singleton_self o)
    have hr : ((o.refuse x.code x.reason).touched env).status = .rejected := rfl
    obtain ⟨row, hrow, hb⟩ := ho₁.row (o := (o.refuse x.code x.reason).touched env)
      (by rwa [committed_db])
    rw [hb.eq_of_final (by simp [hr])] at hrow
    refine ⟨fun _ o' hmem' hid' => .inl ?_,
      fun _ => ⟨_, hrow, hid, hr, (hw'.orders _ hrow).refunded hr⟩⟩
    rw [order_eq_of_id hmem' hmem (hid'.trans hid.symm)]
    simpa using hs

/-- **After an acceptance the order is refused only if it was before.** -/
theorem not_rejected_iff {orderId : String} {op : OperatorOrder} {r : Option AutoStopRequest}
    {w w₁ w₂ : World} {o : BetOrder} (hran : Ran S i (.acceptance orderId op) r w w₁)
    (ho : Onward w w₂) (ho₁ : Onward w₁ w₂) (hmem : o ∈ w₂.db.orders) (hid : o.id = orderId) :
    (∀ x ∈ w.db.orders, x.id = orderId → x.status ≠ .rejected) ↔ o.status ≠ .rejected := by
  obtain ⟨env, db, -, hbody, rfl⟩ := hran
  rcases acceptanceTx_spec hbody with ⟨-, x, hx, hxid, hd⟩ | ⟨x, hx, hxid, hs, -, hrw⟩
  · obtain ⟨row, hrow, hb⟩ := ho.row hx
    rw [order_eq_of_id hmem hrow (hid.trans (hb.same.id.trans hxid).symm), ne_eq,
      hb.rejected_iff hd]
    refine ⟨fun h => h x hx hxid, fun h y hy hyid => ?_⟩
    rwa [order_eq_of_id hy hx (hyid.trans hxid.symm)]
  · have hbefore : x.status ≠ .rejected := by
      intro hr
      simp [hr, releasableStatuses] at hs
    obtain ⟨y, hy, hyid, hyd, hyr⟩ : ∃ y ∈ db.orders, y.id = orderId ∧
        y.status ∉ releasableStatuses ∧ y.status ≠ .rejected := by
      rcases hrw with ⟨reason, hrw⟩ | ⟨odd, stake, hash, -, hrw⟩
      · exact ⟨_, hrw.mem_of_rewritten (List.mem_singleton_self x), hxid,
          by simp [BetOrder.touched, BetOrder.dispute, releasableStatuses],
          by simp [BetOrder.touched, BetOrder.dispute]⟩
      · exact ⟨_, hrw.mem_of_rewritten (List.mem_singleton_self x), hxid,
          by simp [BetOrder.touched, BetOrder.accept, releasableStatuses],
          by simp [BetOrder.touched, BetOrder.accept]⟩
    obtain ⟨row, hrow, hb⟩ := ho₁.row (o := y) (by rwa [committed_db])
    rw [order_eq_of_id hmem hrow (hid.trans (hb.same.id.trans hyid).symm)]
    refine ⟨fun _ hr => hyr ((hb.rejected_iff hyd).1 hr), fun _ z hz hzid => ?_⟩
    rwa [order_eq_of_id hz hx (hzid.trans hxid.symm)]

/-- `settleFromOperator` without a well-formed payout only reads the order. -/
theorem Underway.settleFromOperator_unpaid {orderId : String} {op : OperatorOrder} {o : BetOrder}
    (h : Underway S i c) (hnone : op.settlement? = none)
    (hrun : Yields S.system i (settleFromOperator orderId op) c log o c') :
    ∃ w, Onward c.state w ∧ w.db.order? orderId = some o ∧ c'.state.db = w.db ∧
      log = [(.query (.order orderId), w)] := by
  obtain ⟨r, c₁, log₁, log₂, hquery, hrest, rfl⟩ := hrun.of_bind
  obtain ⟨w, ho, hread, hc₁, -, rfl⟩ := h.query hquery
  have hpure : Yields S.system i (pure r : Call BetOrder) c₁ log₂ o c' := by
    simp only [hnone] at hrest
    split_ifs at hrest
    · exact hrest
    · exact hrest
  obtain ⟨rfl, rfl, rfl⟩ := yields_pure.1 hpure
  exact ⟨w, ho, hread, by rw [hc₁]; rfl, rfl⟩

theorem taken_iff_of_decided {o : BetOrder} (hd : o.status ∉ releasableStatuses)
    (hr : o.status ≠ .reconciliationRequired) : o.status ∈ takenStatuses ↔ o.status ≠ .rejected := by
  cases hs : o.status <;> simp_all [releasableStatuses, takenStatuses]

/-- The word for a decided bet, once its settlement has been tried. -/
theorem settled_iff {order a o : BetOrder} {op : OperatorOrder} (log₀ : List (Action × World))
    (h : Underway S i c)
    (hmem : a ∈ c.state.db.orders) (hid : a.id = order.id) (hd : a.status ∉ releasableStatuses)
    (hr : a.status ≠ .reconciliationRequired)
    (hrun : Yields S.system i (settleFromOperator order.id op) c log o c') :
    Underway S i c' ∧ (UnknownResolution.settled.Holds order.id c'.state.db ↔
      a.status ≠ .rejected ∧ (op.settlement? = none → ∀ e, (log₀ ++ log).getLast? = some e →
        ∀ o ∈ e.2.db.orders, o.id = order.id → o.status ≠ .accepted)) := by
  obtain ⟨hu, ⟨hended, ho⟩, -⟩ := h.ensured hrun (settleFromOperator_ensures h.consistent
    fun _ _ _ _ _ _ _ _ _ h => sound_settleOrder h).onward
  refine ⟨hu, ?_⟩
  obtain ⟨row, hrow, hb⟩ := ho.row hmem
  have hrid := hb.same.id.trans hid
  have hholds : UnknownResolution.settled.Holds order.id c'.state.db ↔
      row.status ∈ [OrderStatus.settled, .voided] := by
    refine ⟨?_, fun hs => ⟨row, hrow, hrid, hs⟩⟩
    rintro ⟨y, hy, hyid, hs⟩
    rwa [order_eq_of_id hy hrow (hyid.trans hrid.symm)] at hs
  rw [hholds, ← taken_iff_of_decided hd hr]
  by_cases ht : a.status ∈ takenStatuses
  swap
  · -- it was refused, and stays so
    have hrej : row.status = .rejected :=
      (hb.rejected_iff hd).2 (not_not.1 fun hne => ht ((taken_iff_of_decided hd hr).2 hne))
    simp [ht, hrej]
  have htaken := (hb.taken ht).1
  simp only [ht, true_and]
  cases hpaid : op.settlement? with
  | some text =>
    -- the amount was booked, and the order closed
    obtain ⟨y, hy, hyid, hs⟩ := hended ⟨a, hmem, hid, hd⟩ (by rw [hpaid]; rfl)
    rw [order_eq_of_id hy hrow (hyid.trans hrid.symm)] at hs
    refine ⟨fun _ hnone => (nomatch hnone), fun _ => ?_⟩
    cases hx : row.status <;> simp_all [takenStatuses]
  | none =>
    obtain ⟨w, -, hread, hdb, rfl⟩ := h.settleFromOperator_unpaid hpaid hrun
    rw [hdb] at hrow
    rw [List.getLast?_concat]
    constructor
    · rintro hs - e he y hy hyid
      obtain rfl := Option.some.inj he
      rw [order_eq_of_id hy hrow (hyid.trans hrid.symm)]
      rintro hacc
      simp [hacc] at hs
    · intro hne
      have hne := hne rfl _ rfl row hrow hrid
      cases hx : row.status <;> simp_all [takenStatuses]

/-! ## The whole call -/

/-- The words of a refusal. -/
theorem refused_foreseen {order : BetOrder} {op : Option OperatorOrder} {x : Cancellation}
    {u : Unit} (h : Underway S i c) (hs : order.status = .unknown)
    (hrow : ∃ row ∈ c.state.db.orders, Became order row)
    (hop : ∀ y, op = some y → y.status.isSettled = false)
    (hrun : Yields S.system i (cancelUnknown order x) c log u c') :
    Underway S i c' ∧
      (UnknownResolution.rejected.Holds order.id c'.state.db ↔ Foreseen order op log) := by
  obtain ⟨o, c₁, log₁, log₂, hcancel, hdone, rfl⟩ := hrun.of_bind
  obtain ⟨-, rfl, rfl⟩ := yields_pure.1 hdone
  obtain ⟨w, w₁, rest, hfirst, hran, ho, ho₁, hu, rfl⟩ :=
    h.cancel (by simp [releasableStatuses]) hcancel
  obtain ⟨row, hrow, hb⟩ := hrow
  obtain ⟨y, hy, hby⟩ := hfirst.row hrow
  have hbecame := hb.trans hby
  have hsent : ∀ o ∈ w.db.orders, o.id = order.id →
      o.status ∉ [OrderStatus.reserved, .submitting] := by
    intro o hmem hid
    rw [order_eq_of_id hmem hy (hid.trans hbecame.same.id.symm)]
    exact hbecame.sent (by simp [hs])
  refine ⟨hu, (cancelled_iff hu.consistent hran ho ho₁ hsent).trans ⟨fun hfound => ?_, fun hf => ?_⟩⟩
  · refine ⟨fun c w' he => ?_, fun x w' he => ?_, fun y hy hset => ?_⟩
    · obtain ⟨-, rfl⟩ := Prod.mk.inj (Option.some.inj he)
      exact hfound
    · cases (Prod.mk.inj (Option.some.inj he)).1
    · rw [hop y hy] at hset
      cases hset
  · exact hf.cancelled x w rfl

/-- **What a word says of its order is so if and only if nothing declined.** -/
theorem Underway.resolveUnknown_iff {order : BetOrder} {op : Option OperatorOrder} {now : Int}
    {word : UnknownResolution} (h : Underway S i c)
    (hrow : ∃ row ∈ c.state.db.orders, Became order row)
    (hrun : Yields S.system i (resolveUnknown order op now) c log word c') :
    Underway S i c' ∧ (word.Holds order.id c'.state.db ↔ Foreseen order op log) := by
  have hsilent : Foreseen order op [] :=
    ⟨fun _ _ he => (by cases he), fun _ _ he => (by cases he), fun _ _ _ _ _ he => (by cases he)⟩
  simp only [resolveUnknown] at hrun
  by_cases hs : order.status = .unknown
  swap
  · rw [if_pos hs] at hrun
    obtain ⟨rfl, rfl, rfl⟩ := yields_pure.1 hrun
    exact ⟨h, fun _ => hsilent, fun _ => trivial⟩
  rw [if_neg (not_not.2 hs)] at hrun
  cases op with
  | none =>
    simp only at hrun
    split_ifs at hrun with hold hgrace
    · obtain ⟨u, c₁, log₁, log₂, hstop, hdone, rfl⟩ := hrun.of_bind
      obtain ⟨rfl, rfl, rfl⟩ := yields_pure.1 hdone
      obtain ⟨hu, w, rfl⟩ := h.autoStop hstop
      exact ⟨hu, fun _ => ⟨fun _ _ he => (by cases he), fun _ _ he => (by cases he),
        fun _ hx => (by cases hx)⟩, fun _ => trivial⟩
    · obtain ⟨u, c₁, log₁, log₂, hcancel, hdone, rfl⟩ := hrun.of_bind
      obtain ⟨rfl, rfl, rfl⟩ := yields_pure.1 hdone
      rw [List.append_nil]
      exact refused_foreseen h hs hrow (fun _ hy => by cases hy) hcancel
    · obtain ⟨rfl, rfl, rfl⟩ := yields_pure.1 hrun
      exact ⟨h, fun _ => hsilent, fun _ => trivial⟩
  | some x =>
    simp only at hrun
    by_cases hrej : x.status = .rejected
    · rw [if_pos hrej] at hrun
      obtain ⟨u, c₁, log₁, log₂, hcancel, hdone, rfl⟩ := hrun.of_bind
      obtain ⟨rfl, rfl, rfl⟩ := yields_pure.1 hdone
      rw [List.append_nil]
      refine refused_foreseen h hs hrow (fun y hy => ?_) hcancel
      rw [← Option.some.inj hy, hrej]
      rfl
    rw [if_neg hrej] at hrun
    obtain ⟨a, c₁, log₁, log₂, haccept, hrest, rfl⟩ := hrun.of_bind
    obtain ⟨w, r, w₁, rest, w₂, hran, ho, ho₁, hread, hdb, hu, rfl⟩ := h.applyAcceptance haccept
    obtain ⟨hmem, hid⟩ := order?_eq_some hread
    have hbefore := not_rejected_iff hran (ho.trans ho₁) ho₁ hmem hid
    have hd : a.status ∉ releasableStatuses := by
      obtain ⟨row, hrow, hrid, hd⟩ := (acceptance_decided hran).onward ho₁
      rwa [order_eq_of_id hmem hrow (hid.trans hrid.symm)]
    -- the first action is the acceptance, the last one is up to the settlement
    have hforeseen : ∀ {l : List (Action × World)},
        Foreseen order (some x) ((.commit (.acceptance order.id x), w) :: l) ↔
          a.status ≠ .rejected ∧ (x.status.isSettled = true → x.settlement? = none →
            ∀ e, ((Action.commit (.acceptance order.id x), w) :: l).getLast? = some e →
              ∀ o ∈ e.2.db.orders, o.id = order.id → o.status ≠ .accepted) := by
      intro l
      rw [← hbefore]
      refine ⟨fun hf => ⟨hf.accepted x w rfl, hf.settled x rfl⟩, fun hf => ⟨?_, ?_, ?_⟩⟩
      · rintro c w' he
        cases (Prod.mk.inj (Option.some.inj he)).1
      · rintro y w' he
        obtain ⟨-, rfl⟩ := Prod.mk.inj (Option.some.inj he)
        exact hf.1
      · rintro y hy
        obtain rfl := Option.some.inj hy
        exact hf.2
    rw [List.cons_append, hforeseen]
    split_ifs at hrest with hdisputed hsettled
    · obtain ⟨rfl, rfl, rfl⟩ := yields_pure.1 hrest
      refine ⟨hu, fun _ => ⟨by simp [hdisputed], fun _ _ e he y hy hyid => ?_⟩, fun _ => trivial⟩
      rw [List.append_nil, ← List.cons_append, List.getLast?_concat] at he
      obtain rfl := Option.some.inj he
      rw [order_eq_of_id hy hmem (hyid.trans hid.symm), hdisputed]
      simp
    · obtain ⟨o, c₂, log₃, log₄, hsettle, hdone, rfl⟩ := hrest.of_bind
      obtain ⟨rfl, rfl, rfl⟩ := yields_pure.1 hdone
      rw [List.append_nil, ← List.cons_append]
      obtain ⟨hu', hiff⟩ := settled_iff ((.commit (.acceptance order.id x), w) ::
        (rest ++ [(.query (.order order.id), w₂)])) hu (hdb ▸ hmem) hid hd hdisputed hsettle
      exact ⟨hu', hiff.trans ⟨fun hf => ⟨hf.1, fun _ => hf.2⟩, fun hf => ⟨hf.1, hf.2 hsettled⟩⟩⟩
    · obtain ⟨rfl, rfl, rfl⟩ := yields_pure.1 hrest
      refine ⟨hu, ?_⟩
      rw [← taken_iff_of_decided hd hdisputed]
      constructor
      · rintro ⟨y, hy, hyid, ht⟩
        rw [hdb] at hy
        rw [order_eq_of_id hy hmem (hyid.trans hid.symm)] at ht
        exact ⟨ht, fun hset => (hsettled hset).elim⟩
      · rintro ⟨ht, -⟩
        exact ⟨a, hdb ▸ hmem, hid, ht⟩

/-- **What `resolveUnknown` tells is so, then and from then on, if and only if nothing it wrote was
declined**: the order was read at any time before, and others may move at any time. -/
theorem resolveUnknown_tells_truth_iff {controlId : String} {clock : Int}
    {funds : String → String → OperatorBalance} {c₀ : Run} {order : BetOrder}
    {op : Option OperatorOrder} {now : Int} {word : UnknownResolution}
    (h₀ : Reachable S.system (.init (.init (.migrated controlId) clock funds)) c₀)
    (horder : order ∈ c₀.state.db.orders) (h : Reachable S.system c₀ c) (hi : c.procs i = none)
    (hrun : Yields S.system i (resolveUnknown order op now) c log word c') :
    (∀ c'', ReflTransGen (Meanwhile S.system i) c' c'' → word.Holds order.id c''.state.db) ↔
      Foreseen order op log := by
  have hok₀ := consistent_discipline.reachable (s := .init (.migrated controlId) clock funds)
    (Consistent.migrated controlId) (fun _ => trivial) h₀
  obtain ⟨⟨hinv, hslot⟩, ho⟩ := consistent_discipline.evolves Onward.refl
    (fun _ _ _ => Onward.trans) (fun _ _ _ hg => hg.1) (fun _ _ hd => hd.onward.1)
    (fun j w => (drop_onward j w).1) hok₀ h
  have hu : Underway S i c := ⟨⟨hinv, fun j _ => hslot j⟩, hi⟩
  obtain ⟨hu', hiff⟩ := hu.resolveUnknown_iff (ho.row horder) hrun
  rw [← hiff]
  refine ⟨fun hall => hall c' .refl, fun hholds c'' hothers => ?_⟩
  obtain ⟨hu'', hlater⟩ := hu'.meanwhile hothers
  exact hholds.onward hu''.consistent hlater

end

/-! ## A sample -/

namespace Sample

/-- The decision is executed, and the operator does not answer. -/
def doubtful : List Choice :=
  [.start 4 (.executeDecision "decision" "account"), .act 4 (.at 1000 "order"),
    .act 4 (.at 1000 ""), .act 4 { Input.at 1000 "" with quote := some quote },
    .act 4 (.at 1000 ""), .act 4 (.at 1000 ""), .act 4 (.at 1000 ""), .act 4 (.at 1000 ""),
    .act 4 (.at 1000 ""), .act 4 (.at 1000 ""), .act 4 (.at 1000 "")]

/-- The operator reports the bet as won, with this payout. -/
def reportedWon (payout : Option String) : OperatorOrder :=
  { acceptance.toOperatorOrder with status := .settled, payout := payout }

/-- The order is resolved by a call alone, of so many actions. -/
def resolvedWon (payout : Option String) (actions : Nat) :
    Option (Run × BetOrder × UnknownResolution × World) := do
  let c ← scene.replay (enabled ++ doubtful) initial
  let order ← c.state.db.order? "order"
  let (r, w) ← scene.alone 5 (resolveUnknown order (some (reportedWon payout)) 1000).run
    (List.replicate actions (.at 1000 "")) c.state
  return (c, order, ← r.toOption, w)

theorem resolvedWon_spec {payout : Option String} {actions : Nat} {c : Run} {order : BetOrder}
    {word : UnknownResolution} {w : World}
    (h : resolvedWon payout actions = some (c, order, word, w)) :
    Reachable scene.setting.system initial c ∧ order ∈ c.state.db.orders ∧
      ∃ log, Yields scene.setting.system 5 (resolveUnknown order (some (reportedWon payout)) 1000)
        c log word ⟨w, c.procs⟩ := by
  simp only [resolvedWon, Option.bind_eq_bind, Option.bind_eq_some_iff] at h
  obtain ⟨c₁, hc, o, ho, ⟨r, w'⟩, hrun, word', hok, h⟩ := h
  obtain ⟨rfl, rfl, rfl, rfl⟩ : c₁ = c ∧ o = order ∧ word' = word ∧ w' = w := by simpa using h
  refine ⟨Scene.replay_reachable .init hc, (order?_eq_some ho).1, ?_⟩
  have hret := Scene.alone_spec hrun
  cases r with
  | error e => cases hok
  | ok r =>
    obtain rfl := Option.some.inj hok
    exact Alone.amid hret

end Sample

/-- A bet reported as won, with its payout. -/
theorem resolveUnknown_tells_truth_paid : ∃ (c c' : Run) (order : BetOrder)
    (log : List (Action × World)), order.status = .unknown ∧
      Yields Sample.scene.setting.system 5
        (resolveUnknown order (some (Sample.reportedWon (some "12.00"))) 1000) c log .settled c' ∧
      ((∀ c'', ReflTransGen (Meanwhile Sample.scene.setting.system 5) c' c'' →
          UnknownResolution.settled.Holds order.id c''.state.db) ↔
        Foreseen order (some (Sample.reportedWon (some "12.00"))) log) := by
  have hrun : ((Sample.resolvedWon (some "12.00") 6).any fun r =>
      r.2.1.status == .unknown && r.2.2.1 == .settled && (r.1.procs 5).isNone) = true := by
    decide +kernel
  obtain ⟨⟨c, order, word, w⟩, hsome, hchecks⟩ := (Option.any_eq_true _ _).1 hrun
  obtain ⟨hreach, horder, log, hyields⟩ := Sample.resolvedWon_spec hsome
  simp only [Bool.and_eq_true, beq_iff_eq, Option.isNone_iff_eq_none] at hchecks
  obtain ⟨⟨hs, rfl⟩, hfree⟩ := hchecks
  exact ⟨c, _, order, log, hs, hyields,
    resolveUnknown_tells_truth_iff hreach horder .init hfree hyields⟩

/-- **A bet reported as won without a payout: `SETTLED` is returned, and the order is `ACCEPTED`.** -/
theorem resolveUnknown_tells_untruth : ∃ (c c' : Run) (order : BetOrder)
    (log : List (Action × World)), Reachable Sample.scene.setting.system Sample.initial c ∧
      order ∈ c.state.db.orders ∧ order.status = .unknown ∧ c.procs 5 = none ∧
      Yields Sample.scene.setting.system 5
        (resolveUnknown order (some (Sample.reportedWon none)) 1000) c log .settled c' ∧
      (c'.state.db.order? order.id).any (·.status == .accepted) = true ∧
      ¬ UnknownResolution.settled.Holds order.id c'.state.db := by
  have hrun : ((Sample.resolvedWon none 3).any fun r =>
      r.2.1.status == .unknown && r.2.2.1 == .settled && (r.1.procs 5).isNone &&
        (r.2.2.2.db.order? r.2.1.id).any (·.status == .accepted)) = true := by
    decide +kernel
  obtain ⟨⟨c, order, word, w⟩, hsome, hchecks⟩ := (Option.any_eq_true _ _).1 hrun
  obtain ⟨hreach, horder, log, hyields⟩ := Sample.resolvedWon_spec hsome
  simp only [Bool.and_eq_true, beq_iff_eq, Option.isNone_iff_eq_none] at hchecks
  obtain ⟨⟨⟨hs, rfl⟩, hfree⟩, haccepted⟩ := hchecks
  refine ⟨c, _, order, log, hreach, horder, hs, hfree, hyields, haccepted, ?_⟩
  rintro ⟨o, hmem, hid, hdone⟩
  obtain ⟨row, hrow, hrs⟩ := (Option.any_eq_true _ _).1 haccepted
  obtain ⟨hrow, hrid⟩ := order?_eq_some hrow
  rw [order_eq_of_id hmem hrow (hid.trans hrid.symm)] at hdone
  simp only [beq_iff_eq] at hrs
  simp [hrs] at hdone

end ApiScore
