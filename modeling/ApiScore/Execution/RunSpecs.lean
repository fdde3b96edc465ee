import ApiScore.Execution.CallSpecs

/-!
# What a reconciliation run ensures

A run reads the orders, asks the operator about them, resolves and settles what it can, and reads
again; other calls move between any two of these.  When it writes its items it has seen what they
say, in the order `Examination` records.

* `Examination.Looked.told` — what a lookup says was answered by the operator.
* `resolveAll_ensures`, `readAgain_ensures`, `checkBalance_ensures` — the parts of a run.
* `examine_ensures`, `executeRun_ensures` — the run.
-/

set_option autoImplicit false

namespace ApiScore

open Relational Concurrent

/-- What a lookup that succeeded says is what the operator has answered. -/
theorem readLookups_told {P : Platform} {keys : List String}
    {answer : Except String OperatorLookupByKey} {key : String} {l : OperatorOrderLookup}
    (h : lookupOf (readLookups P keys answer) key = some l) (hl : ∀ reason, l ≠ .lookupFailed reason) :
    key ∈ keys ∧ ∃ results, answer = .ok results ∧ returnedFor results key = some l := by
  unfold lookupOf readLookups at h
  obtain ⟨pre, post, heq, -⟩ := List.lookup_eq_some_iff.1 h
  have hmem : (key, l) ∈ pre ++ (key, l) :: post := List.mem_append_right _ List.mem_cons_self
  rw [← heq] at hmem
  obtain ⟨k, hk, hkl⟩ := List.mem_map.1 hmem
  cases answer with
  | error message =>
    obtain ⟨-, rfl⟩ := Prod.mk.inj hkl
    exact (hl _ rfl).elim
  | ok results =>
    obtain ⟨rfl, hget⟩ := Prod.mk.inj hkl
    refine ⟨List.mem_dedup.1 hk, results, rfl, ?_⟩
    cases hr : returnedFor results k with
    | none =>
      rw [hr] at hget
      exact (hl _ hget.symm).elim
    | some r =>
      rw [hr, Option.getD_some] at hget
      rw [hget]

section Run

variable {S : Setting} {T : Terms S} {i : CallId} {w : World} {x : Examination}

namespace Examination

/-- The rows a run has listed are rows of its account, and evolve. -/
theorem Scoped.row (h : x.Scoped S T.frame i w) {o : BetOrder} (ho : o ∈ x.listed) :
    o.accountId = x.account.id ∧ ∃ row ∈ w.db.orders, Became o row := by
  obtain ⟨w₁, -, -, hread, hr⟩ := h.2.query
  rw [← Option.some.inj hread] at ho
  obtain ⟨hmem, hp⟩ := Table.mem_select.1 ((List.mergeSort_perm _ _).mem_iff.1 ho)
  rw [Bool.and_eq_true, beq_iff_eq] at hp
  exact ⟨hp.1, hr.row (w := w₁.note _) hmem⟩

/-- What a run knows of an order from its lookup was answered by the operator, after the run's own
instant. -/
theorem Looked.told (h : x.Looked S T.frame i w) {key : String} {l : OperatorOrderLookup}
    (hl : lookupOf x.lookups key = some l) (hf : ∀ reason, l ≠ .lookupFailed reason) :
    ∃ results clock, .lookedUp i (.ok results) clock ∈ w.trace ∧ x.now ≤ clock ∧
      returnedFor results key = some l := by
  obtain ⟨-, answer, hlookups, hdid⟩ := h
  rw [hlookups] at hl
  obtain ⟨hkey, results, rfl, hret⟩ := readLookups_told hl hf
  rcases hdid with hnil | ⟨w₁, w₂, hscope, -, hs, -, ho⟩
  · rw [hnil] at hkey
    cases hkey
  · obtain ⟨_, -, -, hdone⟩ := hs.done
    generalize hans : (Except.ok results : Except String OperatorLookupByKey) = answer at hdone
    cases hdone with
    | lookedUp =>
      rw [← hans] at ho
      exact ⟨results, w₁.clock, ho.mem List.mem_cons_self, hscope.1, hret⟩

/-- A run knows why it resolves an order as it does. -/
theorem Looked.backed (h : x.Looked S T.frame i w) {o : BetOrder} (ho : o ∈ x.listed)
    {l : OperatorOrderLookup} (hl : lookupOf x.lookups o.idempotencyKey = some l)
    (hf : ∀ reason, l ≠ .lookupFailed reason) : Backed T i o l.order? x.now w := by
  obtain ⟨results, clock, hmem, hnow, hret⟩ := h.told hl hf
  obtain ⟨-, row, hrow, hb⟩ := h.1.row ho
  refine ⟨fun c w₁ hs habs hi₁ ho₁ => ?_,
    fun op hop text payout outcome profit w₁ ht hp hi₁ ho₁ hhas => ?_⟩
  · obtain ⟨row₁, hrow₁, hb₁⟩ := ho₁.row hrow
    have hb' := hb.trans hb₁
    have hmem₁ := ho₁.mem hmem
    rw [← hb'.same.idempotencyKey] at hret
    rcases habs with ⟨op, hop, hrej⟩ | ⟨hnone, hgrace⟩
    · cases l with
      | found op' =>
        cases hop
        exact T.guards hi₁ (.refusedLookup rfl hrow₁ hb'.same.id hmem₁ hret hrej)
      | notFound | lookupFailed => cases hop
    · cases l with
      | found op' => cases hnone
      | notFound =>
        refine T.guards hi₁ (.absent rfl hrow₁ hb'.same.id hmem₁ hret hnow fun hu => ?_)
        rw [hb'.eq_of_unknown hs hu]
        exact hgrace
      | lookupFailed reason => exact (hf reason rfl).elim
  · cases l with
    | found op' =>
      cases hop
      obtain ⟨o₁, ho₁', hid₁, -⟩ := id hhas
      obtain ⟨row₁, hrow₁, hb₁⟩ := ho₁.row hrow
      have hrow₁' : o₁ = row₁ :=
        order_eq_of_id ho₁' hrow₁ (hid₁.trans (hb.trans hb₁).same.id.symm)
      refine T.guards hi₁ ⟨hhas, o₁, ho₁', hid₁, results, clock, op, text, ho₁.mem hmem, ?_, ht,
        hp⟩
      rw [hrow₁', (hb.trans hb₁).same.idempotencyKey]
      exact hret
    | notFound | lookupFailed => cases hop

end Examination

theorem lookupOperatorOrders_ensures (hscope : x.Scoped S T.frame i w) :
    Ensures T i (fun lookups w' => ({ x with lookups } : Examination).Looked S T.frame i w')
      (lookupOperatorOrders S.platform x.port (lookupKeys x.listed)) w := by
  rw [lookupOperatorOrders]
  split_ifs with hnil
  · refine Spec.pure fun w₁ h₁ _ => ⟨hscope.onward (T.general h₁).onward, .ok [], ?_, .inl hnil⟩
    simp [hnil, readLookups]
  · refine perform_bind (fun _ _ hi₁ => T.guards hi₁ trivial)
      fun w₁ answer w₂ h₁ hi₁ hs hi₂ ho => ?_
    have hscope₁ := hscope.onward (T.general h₁).onward
    refine Spec.pure fun w₃ h₃ _ => ?_
    have ho₃ := (T.general h₃).onward
    exact ⟨(hscope₁.onward ho).onward ho₃, answer, rfl, .inr ⟨w₁, w₂, hscope₁, hi₁, hs, hi₂, ho₃⟩⟩

theorem resolveListed_ensures (hinv : T.inv w) (hlooked : x.Looked S T.frame i w)
    {o : BetOrder} (ho : o ∈ x.listed) :
    Ensures T i (fun ds w' => Resolved x.lookups o w' ds) (resolveListed x.lookups x.now o) w := by
  rw [resolveListed]
  by_cases hs : o.status ≠ .unknown ∧ o.status ≠ .accepted
  · rw [if_pos hs]
    exact Spec.pure fun _ _ _ => .other hs.1 hs.2
  rw [if_neg hs]
  have hresolve : ∀ l, lookupOf x.lookups o.idempotencyKey = some l →
      (∀ reason, l ≠ .lookupFailed reason) → Ensures T i (fun ds w' => Resolved x.lookups o w' ds)
        (if o.status = .unknown then do
            let resolution ← resolveUnknown o l.order? x.now
            return [resolutionItem o resolution]
          else
            l.order?.elim (return []) fun op =>
              if op.status.isSettled then do
                let _ ← settleFromOperator o.id op
                return [item (some o.id) .settlement .resolved .info
                  ("Règlement opérateur " ++ op.status.text)]
              else return []) w := by
    intro l hl hf
    have hback := hlooked.backed ho hl hf
    by_cases hu : o.status = .unknown
    · rw [if_pos hu]
      refine Spec.bind (resolveUnknown_ensures hinv hback) hinv fun r w₁ _ hr => ?_
      exact Spec.pure fun w₂ h₂ _ =>
        .unknown hu hl hf ((hr hu).onward (T.general h₂).onward)
    · rw [if_neg hu]
      have hacc : o.status = .accepted := not_not.1 fun h => hs ⟨hu, h⟩
      cases l with
      | notFound => exact Spec.pure fun _ _ _ => .open hacc hl fun _ h => by cases h
      | lookupFailed reason => exact (hf reason rfl).elim
      | found op =>
        simp only [OperatorOrderLookup.order?, Option.elim_some]
        by_cases hset : op.status.isSettled = true
        · rw [if_pos hset]
          refine Spec.bind (settleFromOperator_ensures hinv fun text payout outcome profit w₁ ht hp
            hi₁ ho₁ => hback.settle op rfl text payout outcome profit w₁ ht hp hi₁ ho₁) hinv
              fun _ w₁ _ hended => ?_
          refine Spec.pure fun w₂ h₂ _ => .settled hacc hl fun hp => ?_
          obtain ⟨-, row, hrow, hb⟩ := hlooked.1.row ho
          refine (hended ⟨row, hrow, hb.same.id, ?_⟩ hp).onward (T.general h₂).onward
          exact hb.decided (by simp [hacc, releasableStatuses])
        · rw [if_neg hset]
          refine Spec.pure fun _ _ _ => .open hacc hl fun op' h => ?_
          rw [← Option.some.inj h]
          simpa using hset
  cases hl : lookupOf x.lookups o.idempotencyKey with
  | none => exact Spec.pure fun _ _ _ => .untold hl
  | some l =>
    cases l with
    | lookupFailed reason => exact Spec.pure fun _ _ _ => .failed hl
    | found op => exact hresolve _ hl fun _ h => by cases h
    | notFound => exact hresolve _ hl fun _ h => by cases h

theorem resolveAll_ensures {os : List BetOrder} (hinv : T.inv w)
    (hlooked : x.Looked S T.frame i w) (hos : ∀ o ∈ os, o ∈ x.listed) :
    Ensures T i (fun ds w' => ∃ dss, ds = dss.flatten ∧
      List.Forall₂ (fun o ds => Resolved x.lookups o w' ds) os dss)
      (resolveAll x.lookups x.now os) w := by
  induction os generalizing w with
  | nil => exact Spec.pure fun _ _ _ => ⟨[], rfl, .nil⟩
  | cons o os ih =>
    refine Spec.bind (resolveListed_ensures hinv hlooked (hos o List.mem_cons_self)).onward hinv
      fun ds w₁ hi₁ h₁ => ?_
    obtain ⟨hds, ho₁⟩ := h₁
    refine Spec.bind (ih hi₁ (hlooked.onward ho₁)
      fun y hy => hos y (List.mem_cons_of_mem _ hy)).onward hi₁ fun rest w₂ _ h₂ => ?_
    obtain ⟨⟨dss, rfl, hrest⟩, ho₂⟩ := h₂
    refine Spec.pure fun w₃ h₃ _ => ?_
    have ho₃ := (T.general h₃).onward
    exact ⟨ds :: dss, rfl, .cons ((hds.onward ho₂).onward ho₃)
      (hrest.imp fun _ _ hr => hr.onward ho₃)⟩

/-- What a call has just read, with what it knew when it read it. -/
abbrev Read (T : Terms S) (i : CallId) (q : Query) (r : q.Result) (K : World → Prop) (w : World) :
    Prop :=
  Did S T.frame (T.rely i) i (.query q) (.ok r) K w

theorem Did.rely {a : Action} {b : a.Result} {K : World → Prop} {w w' : World}
    (h : Did S T.frame (T.rely i) i a b K w) (hr : T.rely i w w') :
    Did S T.frame (T.rely i) i a b K w' :=
  h.imp (fun _ hk => hk) fun _ hu => T.trans i _ _ _ hu hr

/-- Which of two reads comes first changes nothing. -/
theorem order_bind {α : Type} {f : Bool → Call α} {Q : α → World → Prop}
    (hf : ∀ b w₁, T.inv w₁ → T.rely i w w₁ → Ensures T i Q (f b) w₁) :
    Ensures T i Q (perform .order >>= f) w :=
  perform_bind (fun _ _ hi₁ => T.guards hi₁ trivial) fun w₁ b w₂ h₁ _ hs hi₂ _ => by
    obtain ⟨_, -, -, hdone⟩ := hs.done
    generalize (b : Bool) = b' at hdone ⊢
    cases hdone with
    | ordered => exact hf _ w₁ hi₂ h₁

/-- Two reads that are started together know what was known before either. -/
theorem both_ensures {q q' : Query} {K : World → Prop}
    (hK : ∀ w₁, T.rely i w w₁ → K w₁) :
    Ensures T i (fun r w' => T.rely i w w' ∧ Read T i q r.1 K w' ∧ Read T i q' r.2 K w')
      (both (query q) (query q')) w := by
  refine order_bind fun b w₁ hi₁ h₁ => ?_
  have hK₁ : ∀ w₂, T.rely i w₁ w₂ → K w₂ := fun w₂ h₂ => hK w₂ (T.trans i _ _ _ h₁ h₂)
  split_ifs
  · refine query_bind hi₁ hK₁ fun x w₂ hi₂ h₂ hx => ?_
    refine query_bind hi₂ (fun w₃ h₃ => hK₁ w₃ (T.trans i _ _ _ h₂ h₃)) fun y w₃ _ h₃ hy => ?_
    refine Spec.pure fun w₄ h₄ _ => ⟨?_, (hx.rely h₃).rely h₄, hy.rely h₄⟩
    exact T.trans i _ _ _ h₁ (T.trans i _ _ _ h₂ (T.trans i _ _ _ h₃ h₄))
  · refine query_bind hi₁ hK₁ fun y w₂ hi₂ h₂ hy => ?_
    refine query_bind hi₂ (fun w₃ h₃ => hK₁ w₃ (T.trans i _ _ _ h₂ h₃)) fun x w₃ _ h₃ hx => ?_
    refine Spec.pure fun w₄ h₄ _ => ⟨?_, hx.rely h₄, (hy.rely h₃).rely h₄⟩
    exact T.trans i _ _ _ h₁ (T.trans i _ _ _ h₂ (T.trans i _ _ _ h₃ h₄))

/-- One read, and two others started together with it. -/
theorem query_both {q q' q'' : Query} {K : World → Prop} {α : Type}
    {f : q.Result → q'.Result → q''.Result → α} {Q : α → World → Prop} (hinv : T.inv w)
    (hK : ∀ w₁, T.rely i w w₁ → K w₁)
    (hQ : ∀ r r' r'' w₁, T.rely i w w₁ → Read T i q r K w₁ → Read T i q' r' K w₁ →
      Read T i q'' r'' K w₁ → Q (f r r' r'') w₁) :
    Ensures T i Q (do
      let r ← query q
      let (r', r'') ← both (query q') (query q'')
      return f r r' r'') w := by
  refine query_bind hinv hK fun r w₁ hi₁ h₁ hr => ?_
  refine Spec.bind (both_ensures fun w₂ h₂ => hK w₂ (T.trans i _ _ _ h₁ h₂)) hi₁
    fun rs w₂ _ h₂ => ?_
  obtain ⟨r', r''⟩ := rs
  obtain ⟨h₂, hr', hr''⟩ := h₂
  refine Spec.pure fun w₃ h₃ _ => hQ r r' r'' w₃ ?_ ((hr.rely h₂).rely h₃) (hr'.rely h₃)
    (hr''.rely h₃)
  exact T.trans i _ _ _ h₁ (T.trans i _ _ _ h₂ h₃)

theorem all₃_ensures (q q' q'' : Query) {K : World → Prop}
    (hK : ∀ w₁, T.rely i w w₁ → K w₁) :
    Ensures T i (fun r w' => T.rely i w w' ∧ Read T i q r.1 K w' ∧ Read T i q' r.2.1 K w' ∧
      Read T i q'' r.2.2 K w') (all₃ (query q) (query q') (query q'')) w := by
  refine order_bind fun b w₁ hi₁ h₁ => ?_
  have hK₁ : ∀ w₂, T.rely i w₁ w₂ → K w₂ := fun w₂ h₂ => hK w₂ (T.trans i _ _ _ h₁ h₂)
  split_ifs
  · exact query_both (f := fun x y z => (x, y, z)) hi₁ hK₁ fun _ _ _ w₂ h₂ h h' h'' =>
      ⟨T.trans i _ _ _ h₁ h₂, h, h', h''⟩
  refine order_bind fun b' w₂ hi₂ h₂ => ?_
  have h₁₂ := T.trans i _ _ _ h₁ h₂
  have hK₂ : ∀ w₃, T.rely i w₂ w₃ → K w₃ := fun w₃ h₃ => hK₁ w₃ (T.trans i _ _ _ h₂ h₃)
  split_ifs
  · exact query_both (f := fun y x z => (x, y, z)) hi₂ hK₂ fun _ _ _ w₃ h₃ h' h h'' =>
      ⟨T.trans i _ _ _ h₁₂ h₃, h, h', h''⟩
  · exact query_both (f := fun z x y => (x, y, z)) hi₂ hK₂ fun _ _ _ w₃ h₃ h'' h h' =>
      ⟨T.trans i _ _ _ h₁₂ h₃, h, h', h''⟩

theorem readAgain_ensures (hsettled : x.Settled S T.frame i w) :
    Ensures T i (fun r w' => ({ x with
      fresh := r.1, receiptIds := r.2.1, ledgerKeys := r.2.2 } : Examination).Reread S
        T.frame i w') (readAgain x.account.id x.ids) w := by
  rw [readAgain]
  have hK : ∀ w₁, T.rely i w w₁ → x.Settled S T.frame i w₁ :=
    fun _ h₁ => hsettled.onward (T.general h₁).onward
  split_ifs with hnil
  · exact Spec.pure fun w₁ h₁ _ => .inl ⟨hnil, rfl, hK w₁ h₁⟩
  · exact Spec.imp (all₃_ensures (.ordersByIds x.ids) (.receiptsOf x.ids)
      (.entryKeysOf x.account.id x.ids) hK) fun _ _ _ h => .inr h.2

/-- The comparison of the balance, or the reason why there is none. -/
theorem checkBalance_ensures (hinv : T.inv w) (hreread : x.Reread S T.frame i w) :
    Ensures T i (fun r w' => ({ x with
      freshAccount := r.1, balance := r.2 } : Examination).BalanceCompared S T.frame i w' ∧
        x.Reread S T.frame i w')
      (checkBalance S.platform x.port x.account.id x.fresh) w := by
  refine query_bind hinv (fun _ h₁ => hreread.rely h₁) fun freshAccount w₁ hi₁ h₁ hread => ?_
  have hreread₁ := hreread.rely h₁
  simp only
  by_cases hpaper : x.port.kind = .paper
  · rw [if_pos hpaper]
    exact Spec.pure fun _ h₂ _ => ⟨.paper hpaper rfl (hread.rely h₂), hreread₁.rely h₂⟩
  rw [if_neg hpaper]
  by_cases hpos : 0 < (x.fresh.filter fun o => ambiguousStatuses.contains o.status).length
  · rw [if_pos hpos]
    exact Spec.pure fun _ h₂ _ =>
      ⟨.ambiguous hpaper hpos rfl (hread.rely h₂), hreread₁.rely h₂⟩
  · rw [if_neg hpos]
    refine perform_bind (fun _ _ hi₂ => T.guards hi₂ trivial)
      fun w₂ answer w₃ h₂ hi₂ hs hi₃ _ => ?_
    have hread₂ := hread.rely h₂
    have hnote : T.rely i w₂ w₃ := by
      obtain ⟨_, -, -, hdone⟩ := hs.done
      generalize (answer : Except String OperatorBalance) = b at hdone
      cases hdone with
      | balanced => exact T.note i w₂ _
    refine Spec.pure fun w₄ h₄ _ => ⟨?_, ?_⟩
    · exact .compared hpaper (Nat.eq_zero_of_not_pos hpos) rfl ⟨w₂, w₃, hread₂, hi₂, hs, hi₃, h₄⟩
    · exact ((hreread₁.rely h₂).rely hnote).rely h₄

/-- The check of the ledger comes after the comparison of the balance. -/
theorem Examination.BalanceCompared.withLedger (h : x.BalanceCompared S T.frame i w)
    (ledger : List ItemDraft) :
    ({ x with ledger } : Examination).BalanceCompared S T.frame i w := by
  cases h with
  | paper hk hi hr => exact .paper hk hi hr
  | ambiguous hk hp hi hr => exact .ambiguous hk hp hi hr
  | compared hk hz hi hr => exact .compared hk hz hi hr

theorem checkLedger_ensures {accountId : String} (hinv : T.inv w) :
    Ensures T i (fun ds w' => T.rely i w w' ∧ ∀ d ∈ ds, ItemDraft.itemType d = .ledger ∧
      d.orderId = none ∧ d.severity = .critical) (checkLedger accountId) w := by
  refine query_bind (K := fun _ => True) hinv (fun _ _ => trivial) fun account w₁ hi₁ h₁ _ => ?_
  refine query_bind (K := fun _ => True) hi₁ (fun _ _ => trivial) fun sums w₂ hi₂ h₂ _ => ?_
  refine query_bind (K := fun _ => True) hi₂ (fun _ _ => trivial) fun last w₃ _ h₃ _ => ?_
  have hrely := T.trans i _ _ _ h₁ (T.trans i _ _ _ h₂ h₃)
  split_ifs
  · exact Spec.pure fun w₄ h₄ _ => ⟨T.trans i _ _ _ hrely h₄, fun _ hd => by cases hd⟩
  · refine Spec.pure fun w₄ h₄ _ => ⟨T.trans i _ _ _ hrely h₄, fun d hd => ?_⟩
    rw [List.mem_singleton.1 hd]
    exact ⟨rfl, rfl, rfl⟩

/-- Everything a run does inside its `try`: when it writes its items it has seen what they say. -/
theorem examine_ensures {run : ReconciliationRun} {now : Int} (hinv : T.inv w)
    (hnow : now ≤ w.clock) :
    Ensures T i (fun _ _ => True) (examine S.platform run now) w := by
  refine query_bind (K := fun _ => True) hinv (fun _ _ => trivial) fun account w₁ hi₁ h₁ hacc => ?_
  have haccount : Did S T.frame Onward i (.query (.account run.accountId)) (.ok account)
      (fun _ => True) w₁ := hacc.imp (fun _ hk => hk) fun _ hr => (T.general hr).onward
  cases hport : S.platform.portFor account.mode with
  | error e => exact Spec.throw
  | ok port =>
    simp only
    refine Spec.bind (recoverStaleSubmissions_ensures hi₁).onward hi₁ fun _ w₂ hi₂ h₂ => ?_
    refine Spec.bind (cancelAbandonedReservations_ensures hi₂).onward hi₂
      fun abandoned w₃ hi₃ h₃ => ?_
    obtain ⟨habandoned, ho₃⟩ := h₃
    have ho₁₃ : Onward w₁ w₃ := h₂.2.trans ho₃
    refine query_bind (K := fun _ => True) hi₃ (fun _ _ => trivial)
      fun listed w₄ hi₄ h₄ hlisted => ?_
    have ho₁₄ := ho₁₃.trans (T.general h₄).onward
    let x : Examination :=
      { run, account, port, now, abandoned, listed, lookups := [], resolved := [], fresh := [],
        receiptIds := [], ledgerKeys := [], freshAccount := account, balance := [], ledger := [] }
    have hscope : x.Scoped S T.frame i w₄ :=
      ⟨(hnow.trans (T.general h₁).onward.clock).trans ho₁₄.clock,
        hlisted.imp (fun _ hk => hk) fun _ hr => (T.general hr).onward⟩
    refine Spec.bind (lookupOperatorOrders_ensures (x := x) hscope).onward hi₄
      fun lookups w₅ hi₅ h₅ => ?_
    obtain ⟨hlooked, ho₅⟩ := h₅
    refine Spec.bind (resolveAll_ensures (x := { x with lookups }) hi₅ hlooked
      fun _ ho => ho).onward hi₅ fun resolved w₆ hi₆ h₆ => ?_
    obtain ⟨⟨dss, rfl, hresolved⟩, ho₆⟩ := h₆
    refine Spec.bind (readAgain_ensures (x := { x with lookups, resolved := dss })
      ⟨hlooked.onward ho₆, hresolved⟩).onward hi₆ fun again w₇ hi₇ h₇ => ?_
    obtain ⟨fresh, receiptIds, ledgerKeys⟩ := again
    obtain ⟨hreread, ho₇⟩ := h₇
    refine Spec.bind (checkBalance_ensures
      (x := { x with lookups, resolved := dss, fresh, receiptIds, ledgerKeys }) hi₇
      hreread).onward hi₇ fun checked w₈ hi₈ h₈ => ?_
    obtain ⟨freshAccount, balance⟩ := checked
    obtain ⟨⟨hbalance, hreread₈⟩, ho₈⟩ := h₈
    refine Spec.bind (checkLedger_ensures hi₈) hi₈ fun ledger w₉ hi₉ h₉ => ?_
    obtain ⟨h₉, hledger⟩ := h₉
    refine commit_bind hi₉ (fun w₁₀ h₁₀ hi₁₀ => T.guards hi₁₀ ?_) fun _ _ _ _ _ _ _ _ _ hi => ?_
    · have hr := T.trans i _ _ _ h₉ h₁₀
      have ho := ((ho₆.trans ho₇).trans ho₈).trans (T.general hr).onward
      refine ⟨{ x with
        lookups, resolved := dss, fresh, receiptIds, ledgerKeys, freshAccount, balance, ledger },
        rfl, ?_, ?_⟩
      · rfl
      · refine ⟨haccount.onward ((ho₁₄.trans ho₅).trans ho), hport, habandoned, ?_,
          hreread₈.rely hr, ?_, hledger⟩
        · exact ⟨hlooked.onward ho, hresolved.imp fun _ _ h =>
            h.onward ((ho₇.trans ho₈).trans (T.general hr).onward)⟩
        · exact (hbalance.rely hr).withLedger ledger
    · exact (applyStop_ensures).forget

theorem executeRun_ensures {runId : String} {now : Int} (hinv : T.inv w) (hnow : now ≤ w.clock) :
    Ensures T i (fun _ _ => True) (executeRun S.platform runId now) w := by
  refine query_bind (K := fun _ => True) hinv (fun _ _ => trivial) fun run w₁ hi₁ h₁ _ => ?_
  have hquery : ∀ w₂, Ensures T i (fun _ _ => True) (query (.reconciliationRun runId)) w₂ :=
    fun _ => (query_ensures (K := fun _ => True) (fun _ _ => trivial) fun _ _ _ _ h => h).forget
  split_ifs
  · exact done_ensures
  refine Spec.bind (Spec.tryCatch ?_ hi₁ (fun _ _ _ _ _ => trivial) fun _ w₂ hi₂ => ?_) hi₁
    fun _ w₃ _ _ => hquery w₃
  · exact examine_ensures hi₁ (hnow.trans (T.general h₁).onward.clock)
  · exact commit_bind hi₂ (fun _ _ hi₃ => T.guards hi₃ trivial)
      fun _ _ _ _ _ _ _ _ _ _ => autoStop_ensures.forget

end Run

end ApiScore
