import ApiScore.Execution.RunSpecs

/-!
# The discipline of the pipeline

Every program the scheduler may start is safe, so the parallel rule applies: an invariant that each
single justified action keeps holds in every state a run can reach.

* `Entry.safe`, `Entry.sound` — the programs that can be started.
* `Setting.strict`, `Setting.sound` — the contracts: with all a call knows, or only what keeps the
  tables right.
* `Setting.strict_discipline`, `Setting.sound_discipline` — what remains to be shown of an
  invariant.
-/

set_option autoImplicit false

namespace ApiScore

open Relational Concurrent

section Entries

variable {S : Setting}

/-- A call that ensures anything is a safe program. -/
theorem Ensures.safe {T : Terms S} {i : CallId} {α : Type} {Q : α → World → Prop} {c : Call α}
    {w : World} (h : Ensures T i Q c w) (hinv : T.inv w) :
    Safe S.system T.toContract i (fun _ _ => True) c.start w :=
  Safe.bind h hinv fun _ _ _ _ => Safe.ret fun _ _ _ => trivial

/-- **Every call that is not a part of another one is safe.** -/
theorem Entry.safe (T : Terms S) (i : CallId) {e : Entry} (he : e.whole = true) {w : World}
    (hinv : T.inv w) :
    Safe S.system T.toContract i (fun _ _ => True) (e.program S.platform) w := by
  cases e with
  | openAccount input =>
    exact Ensures.safe (Q := fun _ _ => True) (commit_ensures (fun _ _ hi₁ => T.guards hi₁ trivial)
      fun _ _ _ _ _ _ _ _ _ _ _ => trivial) hinv
  | executeDecision decisionId accountId => exact (executeDecision_ensures hinv).safe hinv
  | reserve decisionId accountId => exact reserve_ensures.safe hinv
  | submit orderId => exact (submit_ensures hinv).safe hinv
  | recoverStaleSubmissions now => exact (recoverStaleSubmissions_ensures hinv).safe hinv
  | cancelAbandonedBatch orderIds => exact cancelAbandonedBatch_ensures.safe hinv
  | stop reason source => exact stop_ensures.safe hinv
  | changeMode input reason => exact (changeMode_ensures hinv).safe hinv
  | createRiskPolicy input =>
    exact Ensures.safe (Q := fun _ _ => True) (commit_ensures (fun _ _ hi₁ => T.guards hi₁ trivial)
      fun _ _ _ _ _ _ _ _ _ _ _ => trivial) hinv
  | executeRun runId =>
    refine Ensures.safe (Q := fun _ _ => True) (perform_bind (fun _ _ hi₁ => T.guards hi₁ trivial)
      fun w₁ now w₂ _ _ hs hi₂ _ => executeRun_ensures hi₂ ?_) hinv
    obtain ⟨_, -, -, hdone⟩ := hs.done
    generalize (now : Int) = b at hdone ⊢
    cases hdone with
    | dated => exact le_refl _
  | settleFromOperator | applyPlacementResult | applyAcceptance | resolveUnknown | cancelReserved
  | cancelSubmitting | cancelUnknown => cases he

end Entries

/-! ## Two contracts -/

/-- What one action guarantees to the other calls. -/
def Guarantee (i : CallId) (w w' : World) : Prop := Onward w w' ∧ ∀ j, i ≠ j → Unmoved j w w'

/-- The contract in which every action is justified by what its call knows. -/
def Setting.strict (S : Setting) (I : World → Prop) : Terms S where
  inv := I
  pre := Guard S ⟨I, Rely⟩
  guar := Guarantee
  rely := Rely
  fresh _ _ := True
  refl := Rely.refl
  trans _ _ _ _ h h' := h.trans h'
  general h := h
  note := Rely.note
  onward h := h.1
  guards _ h := h

/-- What keeps the tables right, lets an order be placed only by the call it was handed to, and be
settled only for what it was accepted for. -/
structure Sound (i : CallId) (a : Action) (w : World) : Prop where
  guarded : a.Guarded w.db
  submits : ∀ request, a = .placeOrder request → Submits i request w
  settles : ∀ orderId outcome profit payout settledAt,
    a = .commit (.settleOrder orderId outcome profit payout settledAt) →
      Settles orderId outcome profit payout w

/-- The contract in which every action keeps the tables right. -/
def Setting.sound (S : Setting) (I : World → Prop) : Terms S where
  inv := I
  pre := Sound
  guar := Guarantee
  rely := Rely
  fresh _ _ := True
  refl := Rely.refl
  trans _ _ _ _ h h' := h.trans h'
  general h := h
  note := Rely.note
  onward h := h.1
  guards _ h := ⟨h.guarded, fun _ ha => by subst ha; exact h,
    fun _ _ _ _ _ ha => by subst ha; exact h.1⟩

section Entries

variable {S : Setting} {I : World → Prop} {i : CallId} {w : World}

theorem sound_cancel {orderId : String} {source : List OrderStatus} {c : Cancellation}
    (h : ∀ s ∈ source, s ∈ releasableStatuses) : Sound i (.commit (.cancel orderId source c)) w :=
  ⟨h, (fun _ ha => nomatch ha), fun _ _ _ _ _ ha => nomatch ha⟩

theorem sound_cancelCall {orderId : String} {source : List OrderStatus} {c : Cancellation}
    (hinv : I w) (h : ∀ s ∈ source, s ∈ releasableStatuses) :
    Ensures (S.sound I) i (fun _ _ => True) (cancel orderId source c) w :=
  cancel_ensures (T := S.sound I) hinv fun _ _ _ => sound_cancel h

theorem sound_settleOrder {orderId : String} {outcome : DecisionOutcome} {profit payout : Int}
    {settledAt : Option Int}
    (h : Settles orderId outcome profit payout w) :
    Sound i (.commit (.settleOrder orderId outcome profit payout settledAt)) w := by
  refine ⟨fun x hx hxid => ?_, (fun _ ha => nomatch ha), fun _ _ _ _ _ ha => ?_⟩
  swap
  · cases ha
    exact h
  obtain ⟨o, ho, hid, hhas, -⟩ := h
  rw [order_eq_of_id hx ho (hxid.trans hid.symm)]
  exact hhas

/-- **Every program that can be started keeps the tables right.** -/
theorem Entry.sound (e : Entry) (hinv : I w) :
    Safe S.system (S.sound I).toContract i (fun _ _ => True) (e.program S.platform) w := by
  cases e with
  | settleFromOperator orderId op =>
    exact (settleFromOperator_ensures (T := S.sound I) hinv fun _ _ _ _ _ _ _ _ _ h =>
      sound_settleOrder h).safe hinv
  | applyPlacementResult orderId result =>
    exact (applyPlacementResult_ensures (T := S.sound I) hinv fun _ _ _ _ _ _ =>
      sound_cancel (by simp [releasableStatuses])).safe hinv
  | applyAcceptance orderId accepted =>
    exact (applyAcceptance_ensures (T := S.sound I) hinv).safe hinv
  | resolveUnknown order op now =>
    exact (resolveUnknown_ensures (T := S.sound I) hinv
      ⟨fun _ _ _ _ _ _ => sound_cancel (by simp [releasableStatuses]),
        fun _ _ _ _ _ _ _ _ _ _ _ h => sound_settleOrder h⟩).safe hinv
  | cancelReserved order c =>
    exact (sound_cancelCall hinv (by simp [releasableStatuses])).safe hinv
  | cancelSubmitting order c =>
    exact (sound_cancelCall hinv (by simp [releasableStatuses])).safe hinv
  | cancelUnknown order c =>
    exact Ensures.safe (T := S.sound I) (Spec.bind (sound_cancelCall hinv
      (by simp [releasableStatuses])) hinv fun _ _ _ _ => done_ensures) hinv
  | _ => exact Entry.safe (S.sound I) i rfl hinv

end Entries

/-! ## The parallel rule -/

section Parallel

variable {S : Setting} {I : World → Prop}

theorem Guarantee.rely {i j : CallId} {w w' : World} (hij : i ≠ j) (h : Guarantee i w w') :
    Rely j w w' := ⟨h.1, h.2 j hij⟩

theorem Setting.Drift.rely {w w' : World} (h : S.Drift w w') (j : CallId) : Rely j w w' :=
  ⟨h.onward.1, h.onward.2 j⟩

theorem Setting.Step.guarantee {i : CallId} {a : Action} {b : a.Result} {w w' : World}
    (hg : a.Guarded w.db) (h : S.Step i a w b w') : Guarantee i w w' := by
  obtain ⟨_, -, -, hdone⟩ := h.done
  exact hdone.onward hg

/-- **What remains to be shown of an invariant**, when the calls act on all they know. -/
theorem Setting.strict_discipline (hentry : ∀ e, S.entry e → e.whole = true)
    (hstep : ∀ i a b w w', I w → Guard S ⟨I, Rely⟩ i a w → S.Step i a w b w' → I w')
    (hdrift : ∀ w w', S.Drift w w' → I w → I w') (hdrop : ∀ i w, I w → I (w.drop i)) :
    Discipline S.system (S.strict I).toContract where
  entry i p w hp hinv _ := by
    obtain ⟨e, he, rfl⟩ := hp
    exact Entry.safe (S.strict I) i (hentry e he) hinv
  step i a b w w' hinv hpre hs := ⟨hstep i a b w w' hinv hpre hs, hs.guarantee hpre.guarded⟩
  compatible i j w w' hij h := h.rely hij
  fresh _ _ _ _ h := h
  env w w' h hinv := ⟨hdrift w w' h hinv, h.rely⟩
  drop i w hinv := ⟨hdrop i w hinv, fun j hij => ⟨(drop_onward i w).1, (drop_onward i w).2 j hij⟩⟩

/-- The same, when they only keep the tables right; any part of a call may then be called on its
own.  Here the surroundings do nothing. -/
theorem Setting.sound_alone
    (hstep : ∀ i a b w w', I w → Sound i a w → S.Step i a w b w' → I w')
    (hdrop : ∀ i w, I w → I (w.drop i)) :
    Discipline (S.system.among fun _ _ => False) (S.sound I).toContract where
  entry i p w hp hinv _ := by
    obtain ⟨e, -, rfl⟩ := hp
    exact (e.sound hinv).among _
  step i a b w w' hinv hpre hs := ⟨hstep i a b w w' hinv hpre hs, hs.guarantee hpre.1⟩
  compatible i j w w' hij h := h.rely hij
  fresh _ _ _ _ h := h
  env _ _ h := h.elim
  drop i w hinv := ⟨hdrop i w hinv, fun j hij => ⟨(drop_onward i w).1, (drop_onward i w).2 j hij⟩⟩

theorem Setting.sound_discipline
    (hstep : ∀ i a b w w', I w → Sound i a w → S.Step i a w b w' → I w')
    (hdrift : ∀ w w', S.Drift w w' → I w → I w') (hdrop : ∀ i w, I w → I (w.drop i)) :
    Discipline S.system (S.sound I).toContract :=
  (S.sound_alone hstep hdrop).among fun w w' h hinv => ⟨hdrift w w' h hinv, h.rely⟩

/-- **An invariant holds in every state a run can reach.** -/
theorem Setting.sound_invariant
    (hstep : ∀ i a b w w', I w → Sound i a w → S.Step i a w b w' → I w')
    (hdrift : ∀ w w', S.Drift w w' → I w → I w') (hdrop : ∀ i w, I w → I (w.drop i))
    {w : World} (hinit : I w) {c : Config Action Action.Result CallId World}
    (h : Reachable S.system (.init w) c) : I c.state :=
  ((S.sound_discipline hstep hdrift hdrop).reachable hinit (fun _ => trivial) h).1

/-- **The same, where the rest of the program does only what `E` allows.** -/
theorem Setting.sound_invariant_among {E : World → World → Prop}
    (hstep : ∀ i a b w w', I w → Sound i a w → S.Step i a w b w' → I w')
    (hdrift : ∀ w w', S.Drift w w' → E w w' → I w → I w') (hdrop : ∀ i w, I w → I (w.drop i))
    {w : World} (hinit : I w) {c : Config Action Action.Result CallId World}
    (h : Reachable (S.system.among fun w w' => S.Drift w w' ∧ E w w') (.init w) c) :
    I c.state := by
  have hall : Discipline (S.system.among fun w w' => S.Drift w w' ∧ E w w')
      (S.sound I).toContract :=
    (S.sound_alone hstep hdrop).among fun w w' hw hinv => ⟨hdrift w w' hw.1 hw.2 hinv, hw.1.rely⟩
  exact (hall.reachable hinit (fun _ => trivial) h).1

theorem Setting.strict_invariant (hentry : ∀ e, S.entry e → e.whole = true)
    (hstep : ∀ i a b w w', I w → Guard S ⟨I, Rely⟩ i a w → S.Step i a w b w' → I w')
    (hdrift : ∀ w w', S.Drift w w' → I w → I w') (hdrop : ∀ i w, I w → I (w.drop i))
    {w : World} (hinit : I w) {c : Config Action Action.Result CallId World}
    (h : Reachable S.system (.init w) c) : I c.state :=
  ((S.strict_discipline hentry hstep hdrift hdrop).reachable hinit (fun _ => trivial) h).1

end Parallel

end ApiScore
