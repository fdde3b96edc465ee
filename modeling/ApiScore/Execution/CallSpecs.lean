import ApiScore.Execution.Guards

/-!
# What each call ensures

The calls of the pipeline, verified one by one against any contract whose rely includes what every
call can rely on: whatever the other calls do in between, a call performs an action only with the
knowledge `Guard` asks for.

* `Ensures` — a call keeps to its guards, and what it returns satisfies a postcondition.
* `query_bind`, `commit_bind`, `perform_bind` — the rules for one action and what follows it.
* `submit_ensures`, `settleFromOperator_ensures`, `resolveUnknown_ensures`, … — the calls.
-/

set_option autoImplicit false

namespace ApiScore

open Relational Concurrent

/-! ## Knowledge that stays -/

/-- An order that is decided stays decided. -/
theorem Became.decided {o o' : BetOrder} (h : Became o o') (hs : o.status ∉ releasableStatuses) :
    o'.status ∉ releasableStatuses := by
  by_cases hacc : o.status = .accepted
  · have ht := (h.taken (by simp [hacc, takenStatuses])).1
    intro hr
    exact (not_taken_of_pending (pending_of_releasable hr)).1 ht
  · have hfinal : o.status ∈ [OrderStatus.rejected, .settled, .voided, .reconciliationRequired] := by
      cases hx : o.status <;> simp_all [releasableStatuses]
    rw [h.eq_of_final hfinal]
    exact hs

section

variable {orderId : String} {w w' : World}

theorem Onward.row {o : BetOrder} (h : Onward w w') (ho : o ∈ w.db.orders) :
    ∃ row ∈ w'.db.orders, Became o row := h.db.orders o ho

theorem Decided.onward (hd : Decided orderId w) (h : Onward w w') : Decided orderId w' := by
  obtain ⟨row, hrow, hid, hs⟩ := hd
  obtain ⟨x, hx, hb⟩ := h.row hrow
  exact ⟨x, hx, hb.same.id.trans hid, hb.decided hs⟩

theorem Ended.onward (hd : Ended orderId w) (h : Onward w w') : Ended orderId w' := by
  obtain ⟨row, hrow, hid, hs⟩ := hd
  obtain ⟨x, hx, hb⟩ := h.row hrow
  rw [hb.eq_of_final hs] at hx
  exact ⟨row, hx, hid, hs⟩

theorem Disputed.onward (hd : Disputed orderId w) (h : Onward w w') : Disputed orderId w' := by
  obtain ⟨row, hrow, hid, hs⟩ := hd
  obtain ⟨x, hx, hb⟩ := h.row hrow
  rw [hb.eq_of_final (by simp [hs])] at hx
  exact ⟨row, hx, hid, hs⟩

theorem Resolution.onward {op : Option OperatorOrder} {r : UnknownResolution}
    (hr : Resolution orderId op w r) (h : Onward w w') :
    Resolution orderId op w' r := by
  cases hr with
  | pending hop => exact .pending hop
  | tooOld hop => exact .tooOld hop
  | declaredNotPlaced hop => exact .declaredNotPlaced hop
  | rejected hop hs => exact .rejected hop hs
  | accepted hop hs hd => exact .accepted hop hs (hd.onward h)
  | settled hop hd he => exact .settled hop (hd.onward h) fun hp => (he hp).onward h
  | reconciliationRequired hd => exact .reconciliationRequired (hd.onward h)

theorem Resolved.onward {lookups : OperatorLookupByKey} {o : BetOrder} {ds : List ItemDraft}
    (hr : Resolved lookups o w ds) (h : Onward w w') : Resolved lookups o w' ds := by
  cases hr with
  | other hs hs' => exact .other hs hs'
  | untold hnone => exact .untold hnone
  | failed hfailed => exact .failed hfailed
  | unknown hs hl hf hr => exact .unknown hs hl hf (hr.onward h)
  | settled hs hl he => exact .settled hs hl fun hp => (he hp).onward h
  | «open» hs hl ho => exact .open hs hl ho

end

namespace Examination

variable {x : Examination} {S : Setting} {F : Frame} {i : CallId}
  {w w' : World}

theorem Scoped.onward (h : x.Scoped S F i w) (hw : Onward w w') : x.Scoped S F i w' :=
  ⟨h.1.trans hw.clock, h.2.onward hw⟩

theorem Looked.onward (h : x.Looked S F i w) (hw : Onward w w') : x.Looked S F i w' := by
  obtain ⟨hscope, answer, hl, hd⟩ := h
  exact ⟨hscope.onward hw, answer, hl, hd.imp id fun hd => hd.onward hw⟩

theorem Settled.onward (h : x.Settled S F i w) (hw : Onward w w') : x.Settled S F i w' :=
  ⟨h.1.onward hw, h.2.imp fun _ _ hr => hr.onward hw⟩

theorem Reread.rely {T : Terms S} (h : x.Reread S T.frame i w) (hw : T.rely i w w') :
    x.Reread S T.frame i w' := by
  rcases h with ⟨hids, hfresh, hs⟩ | ⟨h₁, h₂, h₃⟩
  · exact .inl ⟨hids, hfresh, hs.onward (T.general hw).onward⟩
  · have hrely : ∀ u, T.rely i u w → T.rely i u w' := fun u hu => T.trans i _ _ _ hu hw
    exact .inr ⟨h₁.imp (fun _ hk => hk) hrely, h₂.imp (fun _ hk => hk) hrely,
      h₃.imp (fun _ hk => hk) hrely⟩

theorem AccountRead.rely {T : Terms S} (h : x.AccountRead S T.frame i w)
    (hw : T.rely i w w') : x.AccountRead S T.frame i w' :=
  h.imp (fun _ hk => hk) fun _ hu => T.trans i _ _ _ hu hw

theorem BalanceCompared.rely {T : Terms S} (h : x.BalanceCompared S T.frame i w)
    (hw : T.rely i w w') : x.BalanceCompared S T.frame i w' := by
  cases h with
  | paper hk hi hr => exact .paper hk hi (hr.rely hw)
  | ambiguous hk hp hi hr => exact .ambiguous hk hp hi (hr.rely hw)
  | compared hk hz hi hr =>
    exact .compared hk hz hi (hr.imp (fun _ hk => hk) fun _ hu => T.trans i _ _ _ hu hw)

end Examination

/-! ## One action -/

theorem Setting.Step.done {S : Setting} {i : CallId} {a : Action} {b : a.Result} {w w' : World}
    (h : S.Step i a w b w') : ∃ input : Input, input.env.now = w.clock ∧ S.allow i a input w ∧
      Done S.platform i input w a b w' := by
  obtain ⟨input, hnow, -, hallow, hexec⟩ := h
  exact ⟨input, hnow, hallow, exec_done hexec⟩

/-- The transaction `t` of call `i` has committed, with the result `r`. -/
def Ran (S : Setting) (i : CallId) (t : Transaction) (r : t.Result) (w w' : World) : Prop :=
  ∃ env db, env.now = w.clock ∧ t.body S.platform env w.db = .ok (r, db) ∧
    w' = w.committed i db t r

/-- What a call does with a transaction: it ran, or nothing happened. -/
theorem Setting.Step.commit {S : Setting} {i : CallId} {t : Transaction}
    {b : Except TxError t.Result} {w w' : World} (h : S.Step i (.commit t) w b w') :
    (∃ r, Ran S i t r w w' ∧ ∀ x, b = .ok x → x = r) ∨ w' = w ∧ ∃ e, b = .error e := by
  obtain ⟨input, hnow, -, hdone⟩ := h.done
  cases hdone with
  | @committed _ r db _ hbody =>
    exact .inl ⟨r, ⟨_, _, hnow, hbody, rfl⟩, fun x hx => (Except.ok.inj hx).symm⟩
  | @unacknowledged _ r db _ hbody e =>
    exact .inl ⟨r, ⟨_, _, hnow, hbody, rfl⟩, fun x hx => by cases hx⟩
  | aborted e => exact .inr ⟨rfl, e, rfl⟩

theorem Setting.Step.query {S : Setting} {i : CallId} {q : Query} {r : q.Result} {w w' : World}
    (h : S.Step i (.query q) w (.ok r) w') : q.read w.db = some r ∧ w' = w.note (.read i q r) := by
  obtain ⟨_, -, -, hdone⟩ := h.done
  cases hdone with
  | read hr => exact ⟨hr, rfl⟩

theorem Did.query {S : Setting} {F : Frame} {R : World → World → Prop}
    {i : CallId} {q : Query} {r : q.Result} {K : World → Prop} {w : World}
    (h : Did S F R i (.query q) (.ok r) K w) :
    ∃ w₁, K w₁ ∧ F.inv w₁ ∧ q.read w₁.db = some r ∧ R (w₁.note (.read i q r)) w := by
  obtain ⟨w₁, w₂, hk, h₁, hs, -, hr⟩ := h
  obtain ⟨hread, rfl⟩ := hs.query
  exact ⟨w₁, hk, h₁, hread, hr⟩

/-! ## Rules -/

/-- Call `i` keeps to its guards while it runs `p`, and what it returns satisfies `Q`. -/
abbrev Ensures {S : Setting} (T : Terms S) (i : CallId) {α : Type} (Q : α → World → Prop)
    (p : Call α) (w : World) : Prop :=
  Spec S.system T.toContract i Q p w

section Rules

variable {S : Setting} {T : Terms S} {i : CallId} {w : World} {α β : Type}

/-- One action, then what its answer calls for. -/
theorem perform_bind {a : Action} {f : a.Result → Call β} {Q : β → World → Prop}
    (hpre : ∀ w₁, T.rely i w w₁ → T.inv w₁ → T.pre i a w₁)
    (hf : ∀ w₁ b w₂, T.rely i w w₁ → T.inv w₁ → S.Step i a w₁ b w₂ → T.inv w₂ →
      Onward w₁ w₂ → Ensures T i Q (f b) w₂) :
    Ensures T i Q (perform a >>= f) w :=
  Spec.act fun w₁ h₁ hi₁ => ⟨hpre w₁ h₁ hi₁, fun b w₂ hs hi₂ hg =>
    hf w₁ b w₂ h₁ hi₁ hs hi₂ (T.onward hg)⟩

/-- A statement outside any transaction, with what the call knew when it ran it. -/
theorem query_ensures {q : Query} {Q : q.Result → World → Prop} {K : World → Prop}
    (hK : ∀ w₁, T.rely i w w₁ → K w₁)
    (hQ : ∀ r w₁, T.inv w₁ → T.rely i w w₁ →
      Did S T.frame (T.rely i) i (.query q) (.ok r) K w₁ → Q r w₁) :
    Ensures T i Q (query q) w := by
  refine perform_bind (fun w₁ _ hi₁ => T.guards hi₁ trivial) fun w₁ b w₂ h₁ hi₁ hs hi₂ _ => ?_
  cases b with
  | error e => exact Spec.throw
  | ok r =>
    obtain ⟨hread, rfl⟩ := hs.query
    refine Spec.pure fun w₃ h₃ hi₃ => hQ r w₃ hi₃ ?_ ⟨w₁, _, hK w₁ h₁, hi₁, hs, hi₂, h₃⟩
    exact T.trans i _ _ _ (T.trans i _ _ _ h₁ (T.note i w₁ _)) h₃

theorem query_bind {q : Query} {f : q.Result → Call β} {Q : β → World → Prop} {K : World → Prop}
    (hinv : T.inv w) (hK : ∀ w₁, T.rely i w w₁ → K w₁)
    (hf : ∀ r w₁, T.inv w₁ → T.rely i w w₁ →
      Did S T.frame (T.rely i) i (.query q) (.ok r) K w₁ → Ensures T i Q (f r) w₁) :
    Ensures T i Q (query q >>= f) w :=
  Spec.bind (query_ensures hK fun _ _ _ hr hd => And.intro hr hd) hinv
    fun r w₁ hi₁ hr => hf r w₁ hi₁ hr.1 hr.2

/-- A transaction. -/
theorem commit_ensures {t : Transaction} {Q : t.Result → World → Prop}
    (hpre : ∀ w₁, T.rely i w w₁ → T.inv w₁ → T.pre i (.commit t) w₁)
    (hQ : ∀ r w₁ w₂ w₃, T.rely i w w₁ → T.inv w₁ → Ran S i t r w₁ w₂ → T.inv w₂ →
      Onward w₁ w₂ → T.rely i w₂ w₃ → T.inv w₃ → Q r w₃) :
    Ensures T i Q (commit t) w := by
  refine perform_bind hpre fun w₁ b w₂ h₁ hi₁ hs hi₂ ho => ?_
  cases b with
  | error e => exact Spec.throw
  | ok r =>
    rcases hs.commit with ⟨r', hran, hr⟩ | ⟨-, e, he⟩
    · rw [hr r rfl]
      exact Spec.pure fun w₃ h₃ hi₃ => hQ r' w₁ w₂ w₃ h₁ hi₁ hran hi₂ ho h₃ hi₃
    · cases he

theorem commit_bind {t : Transaction} {f : t.Result → Call β} {Q : β → World → Prop}
    (hinv : T.inv w) (hpre : ∀ w₁, T.rely i w w₁ → T.inv w₁ → T.pre i (.commit t) w₁)
    (hf : ∀ r w₁ w₂ w₃, T.rely i w w₁ → T.inv w₁ → Ran S i t r w₁ w₂ → Onward w₁ w₂ →
      T.rely i w₂ w₃ → T.inv w₃ → Ensures T i Q (f r) w₃) :
    Ensures T i Q (commit t >>= f) w :=
  Spec.bind (R := fun r w₃ => ∃ w₁ w₂, T.rely i w w₁ ∧ T.inv w₁ ∧ Ran S i t r w₁ w₂ ∧
      Onward w₁ w₂ ∧ T.rely i w₂ w₃)
    (commit_ensures hpre fun r w₁ w₂ _ h₁ hi₁ hran _ ho h₃ _ => ⟨w₁, w₂, h₁, hi₁, hran, ho, h₃⟩)
    hinv fun r w₃ hi₃ h => by
      obtain ⟨w₁, w₂, h₁, hi₁, hran, ho, h₃⟩ := h
      exact hf r w₁ w₂ w₃ h₁ hi₁ hran ho h₃ hi₃

theorem done_ensures {x : α} : Ensures T i (fun _ _ => True) (pure x) w :=
  Spec.pure fun _ _ _ => trivial

/-- Forget what a call returns. -/
theorem Ensures.forget {Q : α → World → Prop} {p : Call α} (h : Ensures T i Q p w) :
    Ensures T i (fun _ _ => True) p w :=
  Spec.imp h fun _ _ _ _ => True.intro

/-- Whatever a call does, the world has moved onward. -/
theorem Ensures.onward {Q : α → World → Prop} {p : Call α} (h : Ensures T i Q p w) :
    Ensures T i (fun x w' => Q x w' ∧ Onward w w') p w :=
  Spec.imp (Q := fun x w' => Q x w' ∧ Onward w w')
    (Safe.imp (Safe.frame h (.refl w) (fun _ _ hr ho => ho.trans (T.general hr).onward)
      fun _ _ hg ho => ho.trans (T.onward hg)) fun _ _ _ hx y hy => ⟨hx.1 y hy, hx.2⟩)
    fun _ _ _ hx => hx

end Rules

/-! ## What a call still holds after its own transaction -/

theorem Ran.rely {S : Setting} {i : CallId} {t : Transaction} {r : t.Result} {w w' : World}
    (h : Ran S i t r w w') (ho : Onward w w') (hr : ∀ orderId quote, t ≠ .recheck orderId quote)
    (hc : ∀ orderId source c, t ≠ .cancel orderId source c) : Rely i w w' := by
  obtain ⟨env, db, -, -, rfl⟩ := h
  refine ⟨ho, ?_, fun mode => by rw [committed_permits]⟩
  rw [committed_handed_self w i db t r hr hc]

theorem Holding.rely {i : CallId} {order : BetOrder} {w w' : World} (h : Holding i order w)
    (hw : Rely i w w') : Holding i order w' := by
  obtain ⟨hh, row, hrow, hb⟩ := h
  obtain ⟨x, hx, hbx⟩ := hw.onward.row hrow
  exact ⟨hw.unmoved.handed.trans hh, x, hx, hb.trans hbx⟩

/-! ## The calls -/

section Calls

variable {S : Setting} {T : Terms S} {i : CallId} {w : World}

theorem autoStop_ensures {request : AutoStopRequest} :
    Ensures T i (fun _ w' => Rely i w w') (autoStop request) w := by
  refine perform_bind (fun w₁ _ hi₁ => T.guards hi₁ trivial) fun w₁ b w₂ h₁ _ hs _ ho => ?_
  refine Spec.pure fun w₃ h₃ _ => (T.general h₁).trans (Rely.trans ?_ (T.general h₃))
  rcases hs.commit with ⟨r, hran, -⟩ | ⟨rfl, -⟩
  · exact hran.rely ho (by simp) (by simp)
  · exact .refl i _

theorem applyStop_ensures {request : Option AutoStopRequest} :
    Ensures T i (fun _ w' => Rely i w w') (applyStop request) w := by
  cases request with
  | none => exact Spec.pure fun w₁ h₁ _ => T.general h₁
  | some request => exact autoStop_ensures

theorem stop_ensures {reason : String} {source : StopSource} :
    Ensures T i (fun _ _ => True) (stop reason source) w :=
  perform_bind (fun w₁ _ hi₁ => T.guards hi₁ trivial) fun w₁ b w₂ _ _ _ _ _ => by
    cases b with
    | ok r => exact done_ensures
    | error e => exact Spec.throw

theorem changeMode_ensures {input : ChangeModeInput} {reason : String} (hinv : T.inv w) :
    Ensures T i (fun _ _ => True) (changeMode input reason) w := by
  rw [changeMode]
  split
  · exact stop_ensures
  · exact commit_bind hinv (fun _ _ hi₁ => T.guards hi₁ trivial) fun _ _ _ _ _ _ _ _ _ _ =>
      done_ensures

theorem reserve_ensures {decisionId accountId : String} :
    Ensures T i (fun _ _ => True) (reserve decisionId accountId) w := by
  refine perform_bind (fun w₁ _ hi₁ => T.guards hi₁ trivial) fun _ b w₂ _ _ _ hi₂ _ => ?_
  cases b with
  | ok r =>
    obtain ⟨order, pendingStop⟩ := r
    exact Spec.bind applyStop_ensures hi₂ fun _ _ _ _ => done_ensures
  | error e =>
    have hrest : ∀ w₃, T.inv w₃ → Ensures T i (fun _ _ => True)
        (do applyStop (classifyReservationError e).2; return (none : Option BetOrder)) w₃ :=
      fun w₃ hi₃ => Spec.bind applyStop_ensures hi₃ fun _ _ _ _ => done_ensures
    simp only
    cases (classifyReservationError e).1 with
    | rejected code limit reason =>
      exact commit_bind hi₂ (fun w₃ _ hi₃ => T.guards hi₃ trivial)
        fun _ _ _ w₃ _ _ _ _ _ hi₃ => hrest w₃ hi₃
    | reserved entry replayed => exact hrest w₂ hi₂

/-- A cancellation, for which the caller has a reason. -/
theorem cancel_ensures {orderId : String} {source : List OrderStatus} {c : Cancellation}
    (hinv : T.inv w)
    (hpre : ∀ w₁, T.rely i w w₁ → T.inv w₁ → T.pre i (.commit (.cancel orderId source c)) w₁) :
    Ensures T i (fun _ _ => True) (cancel orderId source c) w :=
  commit_bind hinv hpre fun _ _ _ _ _ _ _ _ _ _ =>
    (query_ensures (K := fun _ => True) (fun _ _ => trivial) fun _ _ _ _ h => h).forget

/-- The row a statement has read, and what became of it. -/
theorem Did.order {S : Setting} {T : Terms S} {orderId : String} {o : BetOrder}
    {K : World → Prop} (h : Did S T.frame (T.rely i) i (.query (.order orderId)) (.ok o) K w) :
    o.id = orderId ∧ ∃ row ∈ w.db.orders, Became o row := by
  obtain ⟨w₁, -, -, hread, hr⟩ := h.query
  obtain ⟨ho, hid⟩ := order?_eq_some hread
  exact ⟨hid, (T.general hr).onward.row (w := w₁.note _) ho⟩

/-- **After an acceptance has been applied the order is decided.** -/
theorem acceptance_decided {orderId : String} {accepted : OperatorOrder}
    {r : Option AutoStopRequest} {w' : World} (h : Ran S i (.acceptance orderId accepted) r w w') :
    Decided orderId w' := by
  obtain ⟨env, db, -, hbody, rfl⟩ := h
  rcases acceptanceTx_spec hbody with ⟨rfl, o, ho, hid, hs⟩ | ⟨o, ho, hid, hs, -, hrw⟩
  · exact ⟨o, by simpa using ho, hid, hs⟩
  · rcases hrw with ⟨reason, hrw⟩ | ⟨odd, stake, hash, -, hrw⟩
    · refine ⟨(o.dispute reason env.now).touched env, ?_, hid, ?_⟩
      · rw [committed_db]
        exact hrw.mem_of_rewritten (List.mem_singleton_self o)
      · simp [BetOrder.touched, BetOrder.dispute, releasableStatuses]
    · refine ⟨(o.accept accepted odd stake).touched env, ?_, hid, ?_⟩
      · rw [committed_db]
        exact hrw.mem_of_rewritten (List.mem_singleton_self o)
      · simp [BetOrder.touched, BetOrder.accept, releasableStatuses]

theorem applyAcceptance_ensures {orderId : String} {accepted : OperatorOrder} (hinv : T.inv w) :
    Ensures T i (fun o w' => Decided orderId w' ∧ o.id = orderId ∧
      ∃ row ∈ w'.db.orders, Became o row) (applyAcceptance orderId accepted) w := by
  refine commit_bind hinv (fun w₁ _ hi₁ => T.guards hi₁ trivial)
    fun r _ w₂ w₃ _ _ hran _ h₃ hi₃ => ?_
  have hd : Decided orderId w₃ := (acceptance_decided hran).onward (T.general h₃).onward
  refine Spec.bind applyStop_ensures hi₃ fun _ w₄ _ h₄ => ?_
  refine query_ensures (K := fun _ => True) (fun _ _ => trivial) fun o w₅ _ h₅ hdid => ?_
  exact ⟨(hd.onward h₄.onward).onward (T.general h₅).onward, hdid.order⟩

theorem markUnknown_ensures {P : Platform} {orderId reason : String} (hinv : T.inv w) :
    Ensures T i (fun _ _ => True) (markUnknown P orderId reason) w :=
  commit_bind hinv (fun _ _ hi₁ => T.guards hi₁ trivial) fun _ _ _ _ _ _ _ _ _ _ =>
    (query_ensures (K := fun _ => True) (fun _ _ => trivial) fun _ _ _ _ h => h).forget

/-- The result of a placement, when a refusal is a reason to cancel the order. -/
theorem applyPlacementResult_ensures {P : Platform} {orderId : String} {result : PlaceOrderResult}
    (hinv : T.inv w)
    (hcancel : ∀ code c w₁, result = .rejected code → T.inv w₁ → Onward w w₁ →
      T.pre i (.commit (.cancel orderId [.submitting, .reserved] c)) w₁) :
    Ensures T i (fun _ _ => True) (applyPlacementResult P orderId result) w := by
  cases result with
  | accepted acceptance =>
    simp only [applyPlacementResult]
    split
    · exact (applyAcceptance_ensures hinv).forget
    · exact markUnknown_ensures hinv
  | rejected code =>
    refine query_bind (K := fun _ => True) hinv (fun _ _ => trivial) fun o w₁ hi₁ h₁ hdid => ?_
    refine cancel_ensures hi₁ fun w₂ h₂ hi₂ => ?_
    rw [hdid.order.1]
    exact hcancel code _ w₂ rfl hi₂ ((T.general h₁).onward.trans (T.general h₂).onward)
  | unknown reason => exact markUnknown_ensures hinv

/-! ### Submitting -/

/-- A submission under its permit: a refusal it returns is one the operator has answered. -/
theorem placeWithPermit_ensures {P : Platform} {order : BetOrder} (hhold : Holding i order w)
    (hpermit : ⟨i, order.mode⟩ ∈ w.permits) :
    Ensures T i (fun result w' => ∀ code, result = .rejected code →
      .answered i order.idempotencyKey (.rejected code) ∈ w'.trace)
      (placeWithPermit P order) w := by
  refine perform_bind (fun w₁ h₁ hi₁ => T.guards hi₁ ?_) fun _ _ w₂ _ _ _ _ _ => ?_
  · have hr := T.general h₁
    exact ⟨order, hhold.rely hr, rfl, (hr.unmoved.permits _).2 hpermit⟩
  refine perform_bind (fun w₃ _ hi₃ => T.guards hi₃ trivial) fun w₃ answer w₄ _ _ hs _ _ => ?_
  refine perform_bind (fun w₅ _ hi₅ => T.guards hi₅ trivial) fun w₅ released w₆ h₅ _ _ _ ho => ?_
  obtain ⟨_, -, -, hdone⟩ := hs.done
  cases hdone with
  | unanswered message => exact Spec.pure fun w₇ _ _ code hcode => by cases hcode
  | @answered _ result _ =>
    cases released with
    | error e => exact Spec.pure fun w₇ _ _ code hcode => by cases hcode
    | ok u =>
      refine Spec.pure fun w₇ h₇ _ code hcode => ?_
      rw [← hcode]
      exact (T.general h₇).onward.mem (ho.mem ((T.general h₅).onward.mem List.mem_cons_self))

/-- An order the call holds, that it will not submit: it knows why the stake may be released. -/
theorem cancelSubmitting_ensures {order : BetOrder} {c : Cancellation} (hinv : T.inv w)
    (hhold : Holding i order w) :
    Ensures T i (fun _ _ => True) (cancelSubmitting order c) w :=
  cancel_ensures hinv fun _ h₁ hi₁ =>
    T.guards hi₁ (.notStarted rfl (hhold.rely (T.general h₁)).1 rfl)

/-- An order that is still `RESERVED` when the stake is released was never submitted. -/
theorem cancelReserved_ensures {order : BetOrder} {c : Cancellation} (hinv : T.inv w) :
    Ensures T i (fun _ _ => True) (cancelReserved order c) w :=
  cancel_ensures hinv fun _ _ hi₁ => T.guards hi₁ (.neverSubmitted rfl)

theorem place_ensures {P : Platform} {order : BetOrder} (hinv : T.inv w)
    (hhold : Holding i order w) : Ensures T i (fun _ _ => True) (place P order) w := by
  rw [place]
  cases hmode : order.mode with
  | unknown text => exact cancelSubmitting_ensures hinv hhold
  | known mode =>
    simp only
    rw [← hmode]
    refine perform_bind (fun w₁ _ hi₁ => T.guards hi₁ trivial)
      fun w₁ b w₂ h₁ _ hs hi₂ _ => ?_
    have hhold₁ := hhold.rely (T.general h₁)
    obtain ⟨_, -, -, hdone⟩ := hs.done
    cases hdone with
    | permitted hpermit =>
      have hhold₂ : Holding i order { w₁ with permits := ⟨i, order.mode⟩ :: w₁.permits } := hhold₁
      obtain ⟨row₁, hrow₁, hb₁⟩ := hhold₂.2
      refine Spec.bind (placeWithPermit_ensures hhold₂ List.mem_cons_self).onward hi₂
        fun result w₃ hi₃ hresult => ?_
      obtain ⟨hanswer, ho₃⟩ := hresult
      refine applyPlacementResult_ensures hi₃ fun code c w₄ hcode hi₄ ho₄ => ?_
      obtain ⟨row, hrow, hb⟩ := (ho₃.trans ho₄).row hrow₁
      have hbecame := hb₁.trans hb
      have hrefused := ho₄.mem (hanswer code hcode)
      rw [← hbecame.same.idempotencyKey] at hrefused
      exact T.guards hi₄ (.refused rfl hrow hbecame.same.id hrefused)
    | refused e =>
      cases e with
      | executionBlocked message unreadable =>
        refine Spec.bind applyStop_ensures hi₂ fun _ w₃ hi₃ h₃ => ?_
        exact cancelSubmitting_ensures hi₃ (hhold₁.rely h₃)
      | ledgerRule | http | other =>
        exact applyPlacementResult_ensures hi₂ fun code c w₄ hcode => by cases hcode

theorem afterRecheck_ensures {P : Platform} {r : Recheck} (hinv : T.inv w)
    (hhold : r.hands = true → Holding i r.order w) :
    Ensures T i (fun _ _ => True) (afterRecheck P r) w := by
  rw [afterRecheck]
  cases hc : r.cancel with
  | some c =>
    exact Spec.bind applyStop_ensures hinv fun _ _ hi₁ _ => cancelReserved_ensures hi₁
  | none =>
    simp only
    split_ifs with hs
    · exact done_ensures
    · refine place_ensures hinv (hhold ?_)
      simp [Recheck.hands, hc, not_not.1 hs]

/-- **A re-check that hands out an order hands out a row of the table.** -/
theorem recheck_holding {orderId : String} {quote : Option OperatorQuote} {r : Recheck}
    {w' : World} (h : Ran S i (.recheck orderId quote) r w w') (hr : r.hands = true) :
    Holding i r.order w' := by
  obtain ⟨env, db, -, hbody, rfl⟩ := h
  refine ⟨by simp [World.committed, hr], r.order, ?_, .refl _⟩
  rw [committed_db]
  have hnone : r.cancel = none := by
    rw [Recheck.hands, Bool.and_eq_true, Option.isNone_iff_eq_none] at hr
    exact hr.1
  cases recheckTx_spec hbody with
  | cancel hcancel => simp [hnone] at hcancel
  | found _ hdb hmem => exact hdb ▸ hmem
  | moved _ _ _ _ horder hrw =>
    rw [horder]
    exact hrw.mem_of_rewritten (List.mem_singleton_self _)

theorem submit_ensures {P : Platform} {orderId : String} (hinv : T.inv w) :
    Ensures T i (fun _ _ => True) (submit P orderId) w := by
  refine query_bind (K := fun _ => True) hinv (fun _ _ => trivial) fun reserved w₁ hi₁ _ _ => ?_
  split_ifs
  · exact done_ensures
  cases P.portFor reserved.mode with
  | error e => exact cancelReserved_ensures hi₁
  | ok port =>
    refine perform_bind (fun w₂ _ hi₂ => T.guards hi₂ trivial) fun _ quote w₂ _ _ _ _ _ => ?_
    refine perform_bind (fun w₃ _ hi₃ => T.guards hi₃ trivial) fun w₃ b w₄ _ _ hs hi₄ _ => ?_
    cases b with
    | error e =>
      refine afterRecheck_ensures hi₄ fun hr => ?_
      unfold recheckError at hr
      cases he : e.error <;> simp [he, Recheck.hands] at hr
    | ok r =>
      rcases hs.commit with ⟨r', hran, hr⟩ | ⟨-, e, he⟩
      · rw [hr r rfl]
        exact afterRecheck_ensures hi₄ (recheck_holding hran)
      · cases he

theorem executeDecision_ensures {P : Platform} {decisionId accountId : String} (hinv : T.inv w) :
    Ensures T i (fun _ _ => True) (executeDecision P decisionId accountId) w := by
  refine Spec.bind reserve_ensures hinv fun order w₁ hi₁ _ => ?_
  cases order with
  | none => exact done_ensures
  | some order =>
    simp only
    split_ifs
    · exact done_ensures
    · exact Spec.bind (submit_ensures hi₁) hi₁ fun _ _ _ _ => done_ensures

/-! ### Settling -/

/-- An order that is decided and not `ACCEPTED` any more stays as it is. -/
theorem Decided.ended {orderId : String} {o : BetOrder} (hd : Decided orderId w)
    (ho : o ∈ w.db.orders) (hid : o.id = orderId) (hs : o.status ≠ .accepted) :
    o.status ∈ [OrderStatus.rejected, .settled, .voided, .reconciliationRequired] := by
  obtain ⟨row, hrow, hrid, hr⟩ := hd
  rw [order_eq_of_id hrow ho (hrid.trans hid.symm)] at hr
  cases hx : o.status <;> simp_all [releasableStatuses]

/-- **After an order has been closed its row has its outcome.** -/
theorem settleOrder_ended {orderId : String} {outcome : DecisionOutcome} {profitCents payout : Int}
    {settledAt : Option Int} {r : Unit} {w' : World} (hd : Decided orderId w)
    (h : Ran S i (.settleOrder orderId outcome profitCents payout settledAt) r w w') :
    Ended orderId w' := by
  obtain ⟨env, db, -, hbody, rfl⟩ := h
  rcases settleOrderTx_spec hbody with ⟨rfl, o, ho, hid, hs⟩ | ⟨o, ho, hid, -, -, -, hrw⟩
  · exact ⟨o, by rwa [committed_db], hid, hd.ended ho hid hs⟩
  · refine ⟨(o.settle outcome payout (settledAt.getD env.now)).touched env, ?_, hid, ?_⟩
    · rw [committed_db]
      exact hrw.mem_of_rewritten (List.mem_singleton_self o)
    · simp only [BetOrder.touched, BetOrder.settle]
      split_ifs <;> simp

/-- What settling a stake is asked for stays right while the order's row moves. -/
theorem settleStake_guarded {o : BetOrder} {stake payout : Int} (hs : o.status = .accepted)
    (hstake : o.acceptedStake = some stake) (hrow : ∃ row ∈ w.db.orders, Became o row) :
    (Transaction.settleStake (o.settleInput stake payout)).Guarded w.db := by
  obtain ⟨row, hrow, hb⟩ := hrow
  obtain ⟨ht, hstake'⟩ := hb.taken (by simp [hs, takenStatuses])
  refine ⟨row, hrow, stake, payout, ht, hstake'.trans hstake, ?_⟩
  rw [BetOrder.settleInput, BetOrder.settleInput, hb.same.accountId, hb.same.idempotencyKey,
    hb.same.id]

theorem settleStake_has {o : BetOrder} {stake payout : Int}
    {r : BankrollLedgerEntry × Bool} {w' : World}
    (h : Ran S i (.settleStake (o.settleInput stake payout)) r w w') :
    w'.db.Has .settle o.idempotencyKey := by
  obtain ⟨env, db, -, hbody, rfl⟩ := h
  obtain ⟨a, a', res, -, -, hout⟩ := settleStakeTx_spec hbody
  obtain ⟨hmem, hkey⟩ := hout.mem_entry
  rw [committed_db]
  exact ⟨res.entry, hmem, hkey⟩

/-- A settlement: when the operator reports a payout, a decided order ends. -/
theorem settleFromOperator_ensures {orderId : String} {op : OperatorOrder} (hinv : T.inv w)
    (hsettle : ∀ text payout outcome profit w₁, op.settlement? = some text →
      toCents text = some payout → T.inv w₁ → Onward w w₁ →
      Settles orderId outcome profit payout w₁ →
      T.pre i (.commit (.settleOrder orderId outcome profit payout op.settledAt)) w₁) :
    Ensures T i (fun _ w' => Decided orderId w → op.settlement?.isSome = true → Ended orderId w')
      (settleFromOperator orderId op) w := by
  refine query_bind (K := Onward w) hinv (fun _ h₁ => (T.general h₁).onward)
    fun order w₁ hi₁ h₁ hdid => ?_
  obtain ⟨hid, hrow⟩ := hdid.order
  split_ifs with hs
  · -- the order was not `ACCEPTED` when it was read
    refine Spec.pure fun w₂ h₂ _ hd _ => ?_
    obtain ⟨u, hu, -, hread, hr⟩ := hdid.query
    have ho := (order?_eq_some hread).1
    have hended : Ended orderId u := ⟨order, ho, hid, (hd.onward hu).ended ho hid hs⟩
    exact (Ended.onward (w := u.note _) hended (T.general hr).onward).onward (T.general h₂).onward
  · have hs' := not_not.1 hs
    cases hset : op.settlement? with
    | none => exact Spec.pure fun _ _ _ _ h => by cases h
    | some text =>
      cases hstake : order.acceptedStake with
      | none => exact Spec.throw
      | some stake =>
        simp only
        cases hcents : toCents text with
        | none => exact Spec.throw
        | some payout =>
          refine commit_bind hi₁ (fun w₂ h₂ hi₂ => T.guards hi₂ ?_)
            fun r w₂ w₃ w₄ h₂ _ hran ho₃ h₄ hi₄ => ?_
          · obtain ⟨row, hrow, hb⟩ := hrow
            obtain ⟨row', hrow', hb'⟩ := (T.general h₂).onward.row hrow
            exact settleStake_guarded hs' hstake ⟨row', hrow', hb.trans hb'⟩
          have hhas := settleStake_has hran
          refine Spec.bind applyStop_ensures hi₄ fun _ w₅ hi₅ h₅ => ?_
          have ho₅ : Onward w₁ w₅ := ((T.general h₂).onward.trans ho₃).trans
            ((T.general h₄).onward.trans h₅.onward)
          obtain ⟨row, hrow, hb⟩ := hrow
          obtain ⟨row₅, hrow₅, hb₅⟩ := ho₅.row hrow
          have hb' := hb.trans hb₅
          have hhas₅ : w₅.db.Has .settle row₅.idempotencyKey := by
            rw [hb'.same.idempotencyKey]
            exact ((T.general h₄).onward.trans h₅.onward).db.has hhas
          have hd₅ : Decided orderId w₅ := ⟨row₅, hrow₅, hb'.same.id.trans hid,
            hb'.decided (by simp [hs', releasableStatuses])⟩
          refine commit_bind hi₅ (fun w₆ h₆ hi₆ => ?_) fun _ w₆ w₇ w₈ h₆ _ hran' _ h₈ _ => ?_
          · have ho₆ := (T.general h₆).onward
            refine hsettle text payout _ _ w₆ hset hcents hi₆
              (((T.general h₁).onward.trans ho₅).trans ho₆) ?_
            obtain ⟨row₆, hrow₆, hb₆⟩ := ho₆.row hrow₅
            refine ⟨row₆, hrow₆, (hb'.trans hb₆).same.id.trans hid, ?_, stake, ?_, rfl⟩
            · rw [hb₆.same.idempotencyKey]
              exact ho₆.db.has hhas₅
            · rw [((hb'.trans hb₆).taken (by simp [hs', takenStatuses])).2, hstake]
          · have hended := settleOrder_ended (hd₅.onward (T.general h₆).onward) hran'
            refine query_ensures (K := fun _ => True) (fun _ _ => trivial)
              fun _ w₉ _ h₉ _ _ _ => ?_
            exact (hended.onward (T.general h₈).onward).onward (T.general h₉).onward

/-! ### Ambiguous orders and sweeps -/

/-- Why the stake of an ambiguous order may be released, from what the operator said of it. -/
def Absolved (order : BetOrder) (op : Option OperatorOrder) (now : Int) : Prop :=
  (∃ x, op = some x ∧ x.status = .rejected) ∨
    op = none ∧ unknownGraceMs ≤ order.unknownAge now

/-- What `resolveUnknown` must be given: the caller knows why, if it releases or settles. -/
structure Backed (T : Terms S) (i : CallId) (order : BetOrder) (op : Option OperatorOrder)
    (now : Int) (w : World) : Prop where
  cancel : ∀ c w₁, order.status = .unknown → Absolved order op now → T.inv w₁ → Onward w w₁ →
    T.pre i (.commit (.cancel order.id [.unknown] c)) w₁
  settle : ∀ x, op = some x → ∀ text payout outcome profit w₁, x.settlement? = some text →
    toCents text = some payout → T.inv w₁ → Onward w w₁ →
    Settles order.id outcome profit payout w₁ →
    T.pre i (.commit (.settleOrder order.id outcome profit payout x.settledAt)) w₁

theorem cancelUnknown_ensures {order : BetOrder} {op : Option OperatorOrder} {now : Int}
    {c : Cancellation} (hinv : T.inv w) (hback : Backed T i order op now w)
    (hs : order.status = .unknown) (habs : Absolved order op now) :
    Ensures T i (fun _ _ => True) (cancelUnknown order c) w :=
  Spec.bind (cancel_ensures hinv fun w₁ h₁ hi₁ =>
    hback.cancel c w₁ hs habs hi₁ (T.general h₁).onward) hinv fun _ _ _ _ => done_ensures

theorem resolveUnknown_ensures {order : BetOrder} {op : Option OperatorOrder} {now : Int}
    (hinv : T.inv w) (hback : Backed T i order op now w) :
    Ensures T i (fun r w' => order.status = .unknown → Resolution order.id op w' r)
      (resolveUnknown order op now) w := by
  simp only [resolveUnknown]
  by_cases hs : order.status = .unknown
  swap
  · rw [if_pos hs]
    exact Spec.pure fun _ _ _ h => (hs h).elim
  rw [if_neg (not_not.2 hs)]
  cases op with
  | none =>
    simp only
    by_cases hold : unknownMaxAgeMs ≤ order.unknownAge now
    · rw [if_pos hold]
      refine Spec.bind autoStop_ensures hinv fun _ _ _ _ => ?_
      exact Spec.pure fun _ _ _ _ => .tooOld rfl
    · rw [if_neg hold]
      split_ifs with hgrace
      · refine Spec.bind (cancelUnknown_ensures hinv hback hs (.inr ⟨rfl, hgrace⟩)) hinv
          fun _ _ _ _ => ?_
        exact Spec.pure fun _ _ _ _ => .declaredNotPlaced rfl
      · exact Spec.pure fun _ _ _ _ => .pending rfl
  | some x =>
    simp only
    by_cases hrej : x.status = .rejected
    · rw [if_pos hrej]
      refine Spec.bind (cancelUnknown_ensures hinv hback hs (.inl ⟨x, rfl, hrej⟩)) hinv
        fun _ _ _ _ => ?_
      exact Spec.pure fun _ _ _ _ => .rejected rfl hrej
    · rw [if_neg hrej]
      refine Spec.bind (applyAcceptance_ensures hinv).onward hinv fun accepted w₁ hi₁ h => ?_
      obtain ⟨⟨hd, hid, row, hrow, hb⟩, ho⟩ := h
      by_cases hdisputed : accepted.status = .reconciliationRequired
      · rw [if_pos hdisputed]
        refine Spec.pure fun w₂ h₂ _ _ => .reconciliationRequired ?_
        rw [hb.eq_of_final (by simp [hdisputed])] at hrow
        exact Disputed.onward ⟨accepted, hrow, hid, hdisputed⟩ (T.general h₂).onward
      · rw [if_neg hdisputed]
        by_cases hsettled : x.status.isSettled = true
        · rw [if_pos hsettled]
          refine Spec.bind (settleFromOperator_ensures hi₁ fun text payout outcome profit w₂ ht hp
            hi₂ ho₂ => hback.settle x rfl text payout outcome profit w₂ ht hp hi₂
              (ho.trans ho₂)).onward hi₁ fun _ w₂ _ h₂ => ?_
          refine Spec.pure fun w₃ h₃ _ _ => .settled rfl ?_ fun hp => ?_
          · exact (hd.onward h₂.2).onward (T.general h₃).onward
          · exact (h₂.1 hd hp).onward (T.general h₃).onward
        · rw [if_neg hsettled]
          refine Spec.pure fun w₂ h₂ _ _ => .accepted rfl ?_ (hd.onward (T.general h₂).onward)
          simpa using hsettled

theorem recoverStaleSubmissions_ensures {now : Int} (hinv : T.inv w) :
    Ensures T i (fun _ _ => True) (recoverStaleSubmissions now) w := by
  refine query_bind (K := fun _ => True) hinv (fun _ _ => trivial) fun stale _ hi₁ _ _ => ?_
  split_ifs
  · exact done_ensures
  · exact (commit_ensures (fun _ _ hi₂ => T.guards hi₂ trivial)
      fun _ _ _ _ _ _ _ _ _ _ _ => trivial)

theorem cancelAbandonedBatch_ensures {orderIds : List String} :
    Ensures T i (fun _ _ => True) (cancelAbandonedBatch orderIds) w := by
  rw [cancelAbandonedBatch]
  split_ifs
  · exact done_ensures
  · exact (commit_ensures (fun _ _ hi₂ => T.guards hi₂ trivial)
      fun _ _ _ _ _ _ _ _ _ _ _ => trivial)

/-- The sweep of a run reports warnings only. -/
theorem cancelAbandonedReservations_ensures {accountId : String} {now : Int} (hinv : T.inv w) :
    Ensures T i (fun ds _ => ∀ d ∈ ds, ItemDraft.itemType d = .order ∧ d.severity = .warning ∧
      d.result = .resolved) (cancelAbandonedReservations accountId now) w := by
  refine query_bind (K := fun _ => True) hinv (fun _ _ => trivial) fun stale _ hi₁ _ _ => ?_
  refine Spec.bind cancelAbandonedBatch_ensures hi₁ fun cancelled _ _ _ => ?_
  refine Spec.pure fun _ _ _ d hd => ?_
  obtain ⟨id, -, rfl⟩ := List.mem_map.1 hd
  exact ⟨rfl, rfl, rfl⟩

end Calls

end ApiScore
