import ApiScore.Execution.Discipline
import ApiScore.Execution.Replay

/-!
# Single submission

The re-check of a submission moves its order from `RESERVED` to `SUBMITTING`, and hands it to its
caller.  It also hands over an order it *finds* `SUBMITTING`: the caller then submits an order that
another call is submitting.

* `Single` — what a run preserves as long as no re-check finds its order `SUBMITTING`.
* `single_submission` — such a run places each order at most once, and only by the call that moved
  it.
* `twice_submitted` — two concurrent submissions of one order, both of which place it.
-/

set_option autoImplicit false

namespace ApiScore

open Relational Concurrent

/-- Is this the beginning of a submission under the key? -/
def Event.begins (key : String) : Event → Bool
  | .started _ request _ => request.idempotencyKey == key
  | _ => false

/-- How often the order with this key was placed. -/
def World.submissions (w : World) (key : String) : Nat := w.trace.countP (Event.begins key)

/-- What a run preserves of handed and placed orders. -/
structure Single (w : World) : Prop where
  /-- No two calls hold one order. -/
  holders : ∀ i j o o', w.handed i = some o → w.handed j = some o' →
    o.idempotencyKey = o'.idempotencyKey → i = j
  /-- An order that a call holds has not been placed. -/
  unplaced : ∀ i o, w.handed i = some o → w.submissions o.idempotencyKey = 0
  once : ∀ key, w.submissions key ≤ 1
  /-- The row of an order that is held, or was placed, is not `RESERVED` any more. -/
  held : ∀ i o, w.handed i = some o →
    ∃ row ∈ w.db.orders, row.idempotencyKey = o.idempotencyKey ∧ row.status ≠ .reserved
  placed : ∀ key, 0 < w.submissions key →
    ∃ row ∈ w.db.orders, row.idempotencyKey = key ∧ row.status ≠ .reserved
  /-- A call holds only what its own re-check has moved. -/
  moved : ∀ i o, w.handed i = some o → .handed i o true ∈ w.trace
  started : ∀ i request control, .started i request control ∈ w.trace →
    ∃ o, request = o.request ∧ .handed i o true ∈ w.trace

/-- A re-check never finds its order `SUBMITTING`. -/
def Setting.NoneInFlight (S : Setting) : Prop :=
  ∀ i orderId quote input w, S.allow i (.commit (.recheck orderId quote)) input w →
    ∀ o ∈ w.db.orders, o.id = orderId → o.status ≠ .submitting

/-- The events of a transaction begin no submission. -/
theorem committed_begins (w : World) (i : CallId) (db : Database) (t : Transaction)
    (r : t.Result) : ∃ es : List Event, (∀ e ∈ es, ∀ key, e.begins key = false) ∧
      (w.committed i db t r).trace = es ++ w.trace := by
  cases t with
  | recheck orderId quote =>
    refine ⟨(if r.hands then [Event.handed i r.order
      ((w.db.order? orderId).any fun o => o.status == .reserved)] else []) ++
        [Event.rechecked i orderId], ?_, ?_⟩
    · intro e he key
      rw [List.mem_append] at he
      rcases he with he | he
      · split_ifs at he with hhands
        · rw [List.mem_singleton.1 he]
          rfl
        · cases he
      · rw [List.mem_singleton.1 he]
        rfl
    · rw [List.append_assoc]
      rfl
  | completeRun runId drafts =>
    exact ⟨[.completed i runId drafts], fun e he _ => by rw [List.mem_singleton.1 he]; rfl, rfl⟩
  | stop reason source =>
    exact ⟨[.stopped], fun e he _ => by rw [List.mem_singleton.1 he]; rfl, rfl⟩
  | changeMode input =>
    by_cases hr : r.2 = .up
    · exact ⟨[.raised], fun e he _ => by rw [List.mem_singleton.1 he]; rfl, if_pos hr⟩
    · exact ⟨[], fun e he => (List.not_mem_nil he).elim, if_neg hr⟩
  | _ => exact ⟨[], fun e he => (List.not_mem_nil he).elim, rfl⟩

section

variable {S : Setting} {i : CallId} {w w' : World}

theorem submissions_of_append {es : List Event} (hes : ∀ e ∈ es, ∀ key, e.begins key = false)
    (htrace : w'.trace = es ++ w.trace) (key : String) :
    w'.submissions key = w.submissions key := by
  rw [World.submissions, htrace, List.countP_append,
    List.countP_eq_zero.2 fun e he => by simp [hes e he key], Nat.zero_add]
  rfl

/-- A row that is not `RESERVED` any more stays so. -/
theorem Evolves.left {db db' : Database} (h : Evolves db db') {key : String}
    (hrow : ∃ row ∈ db.orders, row.idempotencyKey = key ∧ row.status ≠ .reserved) :
    ∃ row ∈ db'.orders, row.idempotencyKey = key ∧ row.status ≠ .reserved := by
  obtain ⟨row, hmem, hkey, hs⟩ := hrow
  obtain ⟨row', hmem', hb⟩ := h.orders row hmem
  exact ⟨row', hmem', hb.same.idempotencyKey.trans hkey, (hb.submitted hs).1⟩

/-- Whoever hands over and places nothing keeps the orders single. -/
theorem Single.of_quiet (h : Single w) {es : List Event}
    (hes : ∀ e ∈ es, ∀ key, e.begins key = false) (htrace : w'.trace = es ++ w.trace)
    (hhanded : ∀ i o, w'.handed i = some o → w.handed i = some o)
    (hdb : Evolves w.db w'.db) : Single w' where
  holders i j o o' ho ho' hkey := h.holders i j o o' (hhanded i o ho) (hhanded j o' ho') hkey
  unplaced i o ho := (submissions_of_append hes htrace _).trans (h.unplaced i o (hhanded i o ho))
  once key := (submissions_of_append hes htrace key).le.trans (h.once key)
  held i o ho := hdb.left (h.held i o (hhanded i o ho))
  placed key hpos := hdb.left (h.placed key (submissions_of_append hes htrace key ▸ hpos))
  moved i o ho := by
    rw [htrace]
    exact List.mem_append_right es (h.moved i o (hhanded i o ho))
  started i request control he := by
    rw [htrace, List.mem_append] at he
    rcases he with he | he
    · have hbegins := hes _ he request.idempotencyKey
      rw [Event.begins, beq_self_eq_true] at hbegins
      cases hbegins
    · obtain ⟨o, hrequest, ho⟩ := h.started i request control he
      exact ⟨o, hrequest, by rw [htrace]; exact List.mem_append_right es ho⟩

/-- A re-check that hands its order over has moved it itself. -/
theorem Single.recheck (h : Single w) {orderId : String} {quote : Option OperatorQuote}
    {env : TxEnv} {r : Recheck} {db : Database}
    (hfree : ∀ o ∈ w.db.orders, o.id = orderId → o.status ≠ .submitting)
    (hbody : recheckTx S.platform orderId quote env w.db = .ok (r, db)) :
    Single (w.committed i db (.recheck orderId quote) r) := by
  have hev : Evolves w.db db := .of_moves (Transaction.moves
    (t := .recheck orderId quote) trivial hbody)
  obtain ⟨es, hes, htrace⟩ := committed_begins w i db (.recheck orderId quote) r
  have hdb : (w.committed i db (.recheck orderId quote) r).db = db :=
    committed_db w i db (.recheck orderId quote) r
  cases recheckTx_spec hbody with
  | cancel hcancel =>
    have hhands : r.hands = false := by
      rw [Recheck.hands, Option.isNone_eq_false_iff.2 hcancel, Bool.false_and]
    refine h.of_quiet hes htrace (fun j o ho => ?_) (hdb ▸ hev)
    simpa only [World.committed, hhands, Bool.false_eq_true, if_false] using ho
  | found hcancel _ hmem hid =>
    have hhands : r.hands = false := by
      rw [Recheck.hands, beq_eq_false_iff_ne.2 (hfree r.order hmem hid), Bool.and_false]
    refine h.of_quiet hes htrace (fun j o ho => ?_) (hdb ▸ hev)
    simpa only [World.committed, hhands, Bool.false_eq_true, if_false] using ho
  | @moved o odd hcancel ho hid hs horder hrw =>
    have hkey : r.order.idempotencyKey = o.idempotencyKey := by
      rw [horder]
      rfl
    have hhands : r.hands = true := by
      rw [Recheck.hands, hcancel, horder]
      rfl
    have hfrom : (w.db.order? orderId).any (fun x => x.status == .reserved) = true := by
      rw [← hid, order?_of_mem ho, Option.any_some, hs]
      rfl
    have hhanded : ∀ j x, (w.committed i db (.recheck orderId quote) r).handed j = some x →
        j = i ∧ x = r.order ∨ w.handed j = some x := by
      intro j x hx
      simp only [World.committed, hhands, if_true] at hx
      by_cases hj : j = i
      · subst hj
        rw [Function.update_self, Option.some.injEq] at hx
        exact .inl ⟨rfl, hx.symm⟩
      · rw [Function.update_of_ne hj] at hx
        exact .inr hx
    -- the row was `RESERVED`: nobody holds the order, and nobody has placed it
    have hreserved : ∀ row ∈ w.db.orders, row.idempotencyKey = o.idempotencyKey →
        ¬ row.status ≠ .reserved := by
      intro row hrow hk hne
      rw [order_eq_of_key hrow ho hk] at hne
      exact hne hs
    have hnew : ∀ j x, w.handed j = some x → x.idempotencyKey ≠ r.order.idempotencyKey := by
      intro j x hx hk
      obtain ⟨row, hrow, hrowkey, hne⟩ := h.held j x hx
      exact hreserved row hrow (hrowkey.trans (hk.trans hkey)) hne
    have hnone : w.submissions r.order.idempotencyKey = 0 := by
      rw [← Nat.le_zero, ← not_lt]
      intro hpos
      obtain ⟨row, hrow, hrowkey, hne⟩ := h.placed _ hpos
      exact hreserved row hrow (hrowkey.trans hkey) hne
    have hsubmitted : ∃ row ∈ db.orders, row.idempotencyKey = r.order.idempotencyKey ∧
        row.status ≠ .reserved := by
      refine ⟨_, hrw.mem_iff.2 ⟨o, ho, if_pos List.mem_cons_self⟩, hkey.symm, ?_⟩
      simp [BetOrder.touched, BetOrder.submit]
    have hmem : .handed i r.order true ∈ (w.committed i db (.recheck orderId quote) r).trace := by
      simp only [World.committed, hhands, if_true, hfrom]
      exact List.mem_cons_self
    have hkept : ∀ e ∈ w.trace, e ∈ (w.committed i db (.recheck orderId quote) r).trace :=
      fun e he => (committed_trace w i db (.recheck orderId quote) r).subset he
    have hcount := submissions_of_append hes htrace
    refine ⟨fun j k x y hx hy hxy => ?_, fun j x hx => ?_, fun key => ?_, fun j x hx => ?_,
      fun key hpos => ?_, fun j x hx => ?_, fun j request control he => ?_⟩
    · rcases hhanded j x hx with ⟨rfl, rfl⟩ | hx' <;> rcases hhanded k y hy with ⟨rfl, rfl⟩ | hy'
      · rfl
      · exact (hnew k y hy' hxy.symm).elim
      · exact (hnew j x hx' hxy).elim
      · exact h.holders j k x y hx' hy' hxy
    · rw [hcount]
      rcases hhanded j x hx with ⟨rfl, rfl⟩ | hx'
      · exact hnone
      · exact h.unplaced j x hx'
    · rw [hcount]
      exact h.once key
    · rw [hdb]
      rcases hhanded j x hx with ⟨rfl, rfl⟩ | hx'
      · exact hsubmitted
      · exact hev.left (h.held j x hx')
    · rw [hcount] at hpos
      rw [hdb]
      exact hev.left (h.placed key hpos)
    · rcases hhanded j x hx with ⟨rfl, rfl⟩ | hx'
      · exact hmem
      · exact hkept _ (h.moved j x hx')
    · rw [htrace, List.mem_append] at he
      rcases he with he | he
      · have hbegins := hes _ he request.idempotencyKey
        rw [Event.begins, beq_self_eq_true] at hbegins
        cases hbegins
      · obtain ⟨x, hrequest, hx⟩ := h.started j request control he
        exact ⟨x, hrequest, hkept _ hx⟩

/-- The call that holds an order places it, and holds it no longer. -/
theorem Single.place (h : Single w) {request : PlaceOrderRequest}
    (hpre : Sound i (.placeOrder request) w) :
    Single { w with
      handed := Function.update w.handed i none
      trace := .started i request w.db.control :: w.trace } := by
  obtain ⟨o, ⟨ho, -⟩, rfl, -⟩ := hpre.2 request rfl
  have hhanded : ∀ j x, Function.update w.handed i none j = some x → j ≠ i ∧ w.handed j = some x := by
    intro j x hx
    by_cases hj : j = i
    · subst hj
      rw [Function.update_self] at hx
      cases hx
    · exact ⟨hj, by rwa [Function.update_of_ne hj] at hx⟩
  have hcount : ∀ key, World.submissions { w with
      handed := Function.update w.handed i none
      trace := .started i o.request w.db.control :: w.trace } key =
        w.submissions key + if o.idempotencyKey = key then 1 else 0 := by
    intro key
    rw [World.submissions, List.countP_cons, World.submissions]
    simp [Event.begins, BetOrder.request]
  refine ⟨fun j k x y hx hy hxy => ?_, fun j x hx => ?_, fun key => ?_, fun j x hx => ?_,
    fun key hpos => ?_, fun j x hx => ?_, fun j request control he => ?_⟩
  · exact h.holders j k x y (hhanded j x hx).2 (hhanded k y hy).2 hxy
  · obtain ⟨hj, hx'⟩ := hhanded j x hx
    rw [hcount, h.unplaced j x hx', if_neg fun hk => hj (h.holders j i x o hx' ho hk.symm)]
  · rw [hcount]
    by_cases hk : o.idempotencyKey = key
    · rw [if_pos hk, ← hk, h.unplaced i o ho]
    · rw [if_neg hk]
      exact h.once key
  · exact h.held j x (hhanded j x hx).2
  · rw [hcount] at hpos
    by_cases hk : o.idempotencyKey = key
    · exact hk ▸ h.held i o ho
    · rw [if_neg hk] at hpos
      exact h.placed key hpos
  · exact List.mem_cons_of_mem _ (h.moved j x (hhanded j x hx).2)
  · rcases List.mem_cons.1 he with he | he
    · obtain ⟨rfl, rfl, -⟩ := Event.started.inj he
      exact ⟨o, rfl, List.mem_cons_of_mem _ (h.moved j o ho)⟩
    · obtain ⟨x, hrequest, hx⟩ := h.started j request control he
      exact ⟨x, hrequest, List.mem_cons_of_mem _ hx⟩

/-- **One justified action keeps the orders single**, when no re-check finds its order
`SUBMITTING`. -/
theorem Single.step {a : Action} {b : a.Result} (hfree : S.NoneInFlight) (h : Single w)
    (hpre : Sound i a w) (hs : S.Step i a w b w') : Single w' := by
  have hone : ∀ (e : Event), (∀ key, e.begins key = false) → ∀ x ∈ [e], ∀ key,
      x.begins key = false := by
    intro e he x hx
    rw [List.mem_singleton.1 hx]
    exact he
  have hcommit : ∀ {t : Transaction} {r : t.Result} {env : TxEnv} {db : Database},
      t.Guarded w.db → t.body S.platform env w.db = .ok (r, db) →
      (∀ orderId quote, t = .recheck orderId quote →
        ∀ o ∈ w.db.orders, o.id = orderId → o.status ≠ .submitting) →
      Single (w.committed i db t r) := by
    intro t r env db hg hbody hallow
    obtain ⟨es, hes, htrace⟩ := committed_begins w i db t r
    by_cases hr : ∃ orderId quote, t = .recheck orderId quote
    · obtain ⟨orderId, quote, rfl⟩ := hr
      exact h.recheck (hallow orderId quote rfl) hbody
    · refine h.of_quiet hes htrace (fun j o ho => ?_) ?_
      · by_cases hj : j = i
        · subst hj
          cases t with
          | recheck orderId quote => exact (hr ⟨orderId, quote, rfl⟩).elim
          | cancel => simp [World.committed] at ho
          | _ => exact ho
        · rwa [committed_handed w i db t r hj] at ho
      · rw [committed_db]
        exact .of_moves (Transaction.moves hg hbody)
  obtain ⟨input, -, -, hallow, hexec⟩ := hs
  have hdone := exec_done hexec
  have hfound : ∀ {t : Transaction}, a = .commit t → ∀ orderId quote, t = .recheck orderId quote →
      ∀ o ∈ w.db.orders, o.id = orderId → o.status ≠ .submitting := by
    rintro t rfl orderId quote rfl
    exact hfree i orderId quote input w hallow
  cases hdone with
  | committed _ hbody => exact hcommit hpre.1 hbody (hfound rfl)
  | unacknowledged _ hbody => exact hcommit hpre.1 hbody (hfound rfl)
  | notRead | aborted | refused | unanswered | quoted | ordered => exact h
  | read => exact h.of_quiet (hone _ fun _ => rfl) rfl (fun _ _ ho => ho) (.refl _)
  | answered => exact h.of_quiet (hone _ fun _ => rfl) rfl (fun _ _ ho => ho) (.refl _)
  | lookedUp => exact h.of_quiet (hone _ fun _ => rfl) rfl (fun _ _ ho => ho) (.refl _)
  | balanced => exact h.of_quiet (hone _ fun _ => rfl) rfl (fun _ _ ho => ho) (.refl _)
  | dated => exact h.of_quiet (hone _ fun _ => rfl) rfl (fun _ _ ho => ho) (.refl _)
  | permitted => exact @Single.of_quiet _ _ h [] (by simp) rfl (fun _ _ ho => ho) (.refl _)
  | released => exact @Single.of_quiet _ _ h [] (by simp) rfl (fun _ _ ho => ho) (.refl _)
  | placed request => exact h.place hpre

theorem Single.drift (h : Single w) (hd : S.Drift w w') : Single w' := by
  obtain ⟨clock, book, funds, db, -, -, hout, rfl⟩ := hd
  exact @Single.of_quiet _ _ h [] (by simp) rfl (fun _ _ ho => ho) hout.evolves

theorem Single.drop (h : Single w) : Single (w.drop i) := by
  refine @Single.of_quiet _ _ h [] (by simp) rfl (fun j o ho => ?_) (.refl _)
  by_cases hj : j = i
  · subst hj
    simp [World.drop] at ho
  · simpa [World.drop, hj] using ho

/-- **Where no re-check finds its order `SUBMITTING`, an order is placed at most once, and only by
the call whose own transaction moved it there.** -/
theorem single_submission (hfree : S.NoneInFlight) {db : Database} {clock : Int}
    {funds : String → String → OperatorBalance} {c : Run}
    (h : Reachable S.system (.init (.init db clock funds)) c) :
    (∀ key, c.state.submissions key ≤ 1) ∧
    ∀ i request control, .started i request control ∈ c.state.trace →
      ∃ o, request = o.request ∧ .handed i o true ∈ c.state.trace := by
  have hsingle : Single c.state := by
    refine Setting.sound_invariant (I := Single) ?_ ?_ ?_ ?_ h
    · exact fun _ _ _ _ _ hinv hpre hs => hinv.step hfree hpre hs
    · exact fun _ _ hd hinv => hinv.drift hd
    · exact fun _ _ hinv => hinv.drop
    · refine ⟨fun _ _ _ _ ho => ?_, fun _ _ ho => ?_, fun _ => ?_, fun _ _ ho => ?_,
        fun _ hpos => ?_, fun _ _ ho => ?_, fun _ _ _ he => ?_⟩
      · cases ho
      · cases ho
      · exact Nat.zero_le 1
      · cases ho
      · cases hpos
      · cases ho
      · cases he
  exact ⟨hsingle.once, hsingle.started⟩

end

namespace Sample

/-- A setting in which no re-check finds its order `SUBMITTING`. -/
def free : Scene where
  platform := platform
  allow _ a _ w :=
    match a with
    | .commit (.recheck orderId _) =>
      w.db.orders.rows.all fun o => o.id != orderId || o.status != .submitting
    | _ => true

theorem free_noneInFlight : free.setting.NoneInFlight := by
  intro i orderId quote input w hallow o ho hid hs
  have hall := List.all_eq_true.1 hallow o ho
  simp [hid, hs] at hall

/-- An order is reserved; calls 5 and 6 submit it, and both have read it `RESERVED` before either of
them re-checks it. -/
def twice : List Choice :=
  [.start 4 (.reserve "decision" "account"), .act 4 (.at 1000 "order"),
    .start 5 (.submit "order"), .start 6 (.submit "order"),
    .act 5 (.at 1000 ""), .act 6 (.at 1000 ""),
    .act 5 { Input.at 1000 "" with quote := some quote },
    .act 6 { Input.at 1000 "" with quote := some quote },
    .act 5 (.at 1000 ""), .act 6 (.at 1000 ""),
    .act 5 (.at 1000 ""), .act 6 (.at 1000 ""),
    .act 5 (.at 1000 ""), .act 6 (.at 1000 "")]

end Sample

/-- One submission, in a setting where no re-check finds its order `SUBMITTING`. -/
theorem single_submission_accepted :
    ∃ c : Run, c.state.submissions Sample.key = 1 ∧ (∀ key, c.state.submissions key ≤ 1) ∧
      ∀ i request control, .started i request control ∈ c.state.trace →
        ∃ o, request = o.request ∧ .handed i o true ∈ c.state.trace := by
  have hrun : (Sample.free.replay (Sample.enabled ++ Sample.accepted) Sample.initial).map
      (fun c => c.state.submissions Sample.key) = some 1 := by decide +kernel
  obtain ⟨c, hc, hcount⟩ := Option.map_eq_some_iff.1 hrun
  exact ⟨c, hcount, single_submission Sample.free_noneInFlight (Scene.replay_reachable .init hc)⟩

/-- **Two calls submit one order.**  The second finds it `SUBMITTING`, and places it again. -/
theorem twice_submitted :
    ∃ c : Run, Reachable Sample.scene.setting.system Sample.initial c ∧
      c.state.submissions Sample.key = 2 := by
  have hrun : (Sample.scene.replay (Sample.enabled ++ Sample.twice) Sample.initial).map
      (fun c => c.state.submissions Sample.key) = some 2 := by decide +kernel
  obtain ⟨c, hc, hcount⟩ := Option.map_eq_some_iff.1 hrun
  exact ⟨c, Scene.replay_reachable .init hc, hcount⟩

end ApiScore
