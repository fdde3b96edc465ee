import ApiScore.Execution.ReservedBalance

/-!
# What a clean reconciliation run certifies

A run that ends without a critical item and without a pending one has compared every order it has
listed.  Other calls move between its reads, and what it certifies is what it has read: the orders as
they were when it read them again, the answers of the operator, and the account against the balance
of the operator.

* `Concords` — an order and what the operator has answered of it.
* `Certificate` — a clean run, over the events of its own reads.
* `clean_run_certifies` — on a tracked operator, every clean run has its certificate.
-/

set_option autoImplicit false

namespace ApiScore

open Relational Concurrent

/-! ## The certificate -/

/-- An order, as it was read again, and what the operator has answered of it, with the evidence that is
in the tables. -/
inductive Concords (db : Database) (row : BetOrder) : Option OperatorOrder → Prop
  | taken {op : OperatorOrder} (hs : row.status ∈ takenStatuses) (hop : op.status ≠ .rejected)
      (hsame : sameAcceptance row op = true) (hreceipt : ∃ r ∈ db.receipts, r.orderId = row.id)
      (hreserve : db.Has .reserve row.idempotencyKey)
      (hsettled : row.status ≠ .accepted →
        db.Has .settle row.idempotencyKey ∧ op.payout = row.payout.map decimalText) :
      Concords db row (some op)
  | refused {answer : Option OperatorOrder} (hs : row.status = .rejected)
      (hanswer : ∀ op, answer = some op → op.status = .rejected)
      (hreleased : db.Has .reserve row.idempotencyKey → db.Has .release row.idempotencyKey) :
      Concords db row answer

/-- What the run has been answered of a key. -/
def Examination.answer (x : Examination) (key : String) : Option OperatorOrder :=
  (lookupOf x.lookups key).bind (·.order?)

/-- What a clean run of call `i` certifies, by the events of its reads. -/
structure Certificate (i : CallId) (x : Examination) (w : World) : Prop where
  account : .read i (.account x.run.accountId) x.account ∈ w.trace
  listed : .read i (.ordersInScope x.account.id x.run.rangeFrom x.run.rangeTo) x.listed ∈ w.trace
  answered : ∀ key op, x.answer key = some op → ∃ results clock,
    .lookedUp i (.ok results) clock ∈ w.trace ∧ returnedFor results key = some (.found op)
  /-- Every listed order was read again, and agreed with the operator. -/
  orders : ∀ o ∈ x.listed, ∃ row ∈ x.fresh, Became o row ∧
    .read i (.ordersByIds x.ids) x.fresh ∈ w.trace ∧ (∃ now ∈ w.db.orders, Became row now) ∧
      Concords w.db row (x.answer row.idempotencyKey)
  /-- The account was read after them, and had what the operator said. -/
  balance : ∃ balance, .read i (.account x.account.id) x.freshAccount ∈ w.trace ∧
    .balanceRead i (.ok balance) ∈ w.trace ∧ balance.currency = x.freshAccount.currency ∧
      toCents balance.available = some x.freshAccount.availableBalance ∧
        toCents balance.exposure = some x.freshAccount.reservedBalance

/-- Nothing of a run calls for anybody. -/
def Clean (drafts : List ItemDraft) : Prop :=
  ∀ d ∈ drafts, d.severity ≠ .critical ∧ d.result ≠ .pending

section

variable {db db' : Database} {row : BetOrder} {answer : Option OperatorOrder} {i : CallId}
  {x : Examination} {w w' : World}

/-- The evidence stays. -/
theorem Concords.evolves (h : Concords db row answer) (hc : Consistent db')
    (hev : Evolves db db') (hrow : ∃ now ∈ db'.orders, Became row now) : Concords db' row answer := by
  cases h with
  | taken hs hop hsame hreceipt hreserve hsettled =>
    obtain ⟨r, hr, hid⟩ := hreceipt
    exact .taken hs hop hsame ⟨r, hev.receipts r hr, hid⟩ (hev.has hreserve) fun hne =>
      ⟨hev.has (hsettled hne).1, (hsettled hne).2⟩
  | refused hs hanswer =>
    refine .refused hs hanswer ?_
    obtain ⟨now, hnow, hb⟩ := hrow
    rw [hb.eq_of_final (by simp [hs])] at hnow
    exact (hc.orders row hnow).refunded hs

theorem Certificate.onward (h : Certificate i x w) (hc : Consistent w'.db) (ho : Onward w w') :
    Certificate i x w' where
  account := ho.mem h.account
  listed := ho.mem h.listed
  answered key op hop := by
    obtain ⟨results, clock, hmem, hret⟩ := h.answered key op hop
    exact ⟨results, clock, ho.mem hmem, hret⟩
  orders o hmem := by
    obtain ⟨row, hrow, hb, hread, ⟨now, hnow, hbn⟩, hconcords⟩ := h.orders o hmem
    obtain ⟨later, hlater, hbl⟩ := ho.row hnow
    have hstill : ∃ now ∈ w'.db.orders, Became row now := ⟨later, hlater, hbn.trans hbl⟩
    exact ⟨row, hrow, hb, ho.mem hread, hstill, hconcords.evolves hc ho.db hstill⟩
  balance := by
    obtain ⟨balance, haccount, hbalance, hcurrency, havailable, hexposure⟩ := h.balance
    exact ⟨balance, ho.mem haccount, ho.mem hbalance, hcurrency, havailable, hexposure⟩

/-! ## What the comparisons say -/

/-- Only the keys that were asked for have an answer. -/
theorem mem_of_lookupOf {P : Platform} {keys : List String}
    {told : Except String OperatorLookupByKey} {key : String} {l : OperatorOrderLookup}
    (h : lookupOf (readLookups P keys told) key = some l) : key ∈ keys := by
  unfold lookupOf readLookups at h
  obtain ⟨pre, post, heq, -⟩ := List.lookup_eq_some_iff.1 h
  have hmem : (key, l) ∈ pre ++ (key, l) :: post := List.mem_append_right _ List.mem_cons_self
  rw [← heq] at hmem
  obtain ⟨k, hk, hkl⟩ := List.mem_map.1 hmem
  cases told <;>
  · rw [← (Prod.mk.inj hkl).1]
    exact List.mem_dedup.1 hk

/-- A lookup that failed has its item. -/
theorem lookupOf_ne_failed {P : Platform} {listed : List BetOrder}
    {told : Except String OperatorLookupByKey} {key reason : String}
    (hclean : ∀ d ∈ listed.flatMap (lookupItem (readLookups P (lookupKeys listed) told)),
      d.severity ≠ .critical) :
    lookupOf (readLookups P (lookupKeys listed) told) key ≠ some (.lookupFailed reason) := by
  intro hfailed
  obtain ⟨o, ho, rfl⟩ := List.mem_map.1 (mem_of_lookupOf hfailed)
  obtain ⟨hlisted, hs⟩ := List.mem_filter.1 ho
  refine hclean (item (some o.id) .order .pending .critical ("LOOKUP_FAILED : " ++ reason))
    (List.mem_flatMap.2 ⟨o, hlisted, ?_⟩) rfl
  rw [lookupItem, if_pos hs, hfailed]
  exact List.mem_singleton_self _

/-- An item that is there only where a check fails, and would be critical: the check has passed. -/
theorem of_clean {p : Prop} [Decidable p] {d : ItemDraft} (hd : d.severity = .critical)
    (h : ∀ x ∈ (if p then [] else [d]), x.severity ≠ .critical) : p := by
  by_contra hp
  rw [if_neg hp] at h
  exact h d (List.mem_singleton_self d) hd

/-- An order the operator has taken, whose comparison raises nothing critical. -/
theorem concords_of_compareTaken {receiptIds ledgerKeys : List String}
    (hs : row.status ∈ takenStatuses)
    (hclean : ∀ d ∈ compareTaken row answer (receiptIds.contains row.id) ledgerKeys true,
      d.severity ≠ .critical)
    (hreceipts : ∀ id ∈ receiptIds, ∃ r ∈ db.receipts, r.orderId = id)
    (hkeys : ∀ κ : KeyKind, κ.key row.idempotencyKey ∈ ledgerKeys → db.Has κ row.idempotencyKey) :
    Concords db row answer := by
  unfold compareTaken at hclean
  obtain ⟨hclean, hpayout⟩ := List.forall_mem_append.1 hclean
  obtain ⟨hclean, hsettle⟩ := List.forall_mem_append.1 hclean
  obtain ⟨hclean, hreserve⟩ := List.forall_mem_append.1 hclean
  obtain ⟨horder, hreceipt⟩ := List.forall_mem_append.1 hclean
  have hdiffers := List.forall_mem_singleton.1 horder
  cases answer with
  | none => exact (hdiffers rfl).elim
  | some op =>
    have hop : ¬ (¬ sameAcceptance row op = true ∨ op.status = .rejected) := fun hbad =>
      hdiffers (by simp only [if_pos hbad]; rfl)
    rw [not_or, not_not] at hop
    refine .taken hs hop.2 hop.1 (hreceipts _ ?_) (hkeys _ ?_) fun hne => ⟨hkeys _ ?_, ?_⟩
    · exact List.contains_iff_mem.1 (of_clean rfl hreceipt)
    · exact List.contains_iff_mem.1 (of_clean rfl hreserve)
    · exact List.contains_iff_mem.1 ((of_clean rfl hsettle).resolve_left hne)
    · have hsame := (of_clean rfl hpayout).resolve_left hne
      rw [Option.all_some, beq_iff_eq] at hsame
      exact hsame

/-- **An order whose comparison raises nothing critical agrees with the operator**, when it is not
waiting for an answer. -/
theorem concords_of_compareOrder {receiptIds ledgerKeys : List String}
    (hwaiting : row.status ∉ ambiguousStatuses)
    (hclean : ∀ d ∈ compareOrder row answer (receiptIds.contains row.id) ledgerKeys true,
      d.severity ≠ .critical)
    (hreceipts : ∀ id ∈ receiptIds, ∃ r ∈ db.receipts, r.orderId = id)
    (hkeys : ∀ κ : KeyKind, κ.key row.idempotencyKey ∈ ledgerKeys → db.Has κ row.idempotencyKey)
    (hreleased : row.status = .rejected → db.Has .reserve row.idempotencyKey →
      db.Has .release row.idempotencyKey) :
    Concords db row answer := by
  rw [compareOrder] at hclean
  cases hs : row.status with
  | accepted | settled | voided =>
    rw [hs] at hclean
    exact concords_of_compareTaken (by simp [hs, takenStatuses]) hclean hreceipts hkeys
  | rejected =>
    rw [hs] at hclean
    refine .refused hs (fun op hop => ?_) (hreleased hs)
    have hall := of_clean rfl (List.forall_mem_append.1 hclean).1
    rw [hop, Option.all_some, beq_iff_eq] at hall
    exact hall
  | reconciliationRequired =>
    rw [hs] at hclean
    exact (List.forall_mem_singleton.1 hclean rfl).elim
  | reserved | submitting | unknown =>
    rw [hs] at hwaiting
    exact (hwaiting (by simp [ambiguousStatuses])).elim

/-- The comparison of an order that is not waiting, and whose lookup has not failed. -/
theorem compareFresh_eq {lookups : OperatorLookupByKey} {receiptIds ledgerKeys : List String}
    {tracked : Bool} (hwaiting : row.status ∉ ambiguousStatuses)
    (hfailed : ∀ reason, lookupOf lookups row.idempotencyKey ≠ some (.lookupFailed reason)) :
    compareFresh lookups receiptIds ledgerKeys tracked row =
      compareOrder row ((lookupOf lookups row.idempotencyKey).bind (·.order?))
        (receiptIds.contains row.id) ledgerKeys tracked := by
  have hcompared : comparedStatuses.contains row.status = true := by
    cases hs : row.status <;> simp_all [ambiguousStatuses, comparedStatuses]
  have hunknown : row.status ≠ .unknown := fun hs => hwaiting (by simp [hs, ambiguousStatuses])
  rw [compareFresh, if_neg hunknown, if_pos hcompared]
  cases hl : lookupOf lookups row.idempotencyKey with
  | none => rfl
  | some l =>
    cases l with
    | lookupFailed reason => exact (hfailed reason hl).elim
    | found | notFound => rfl

/-- A balance that raises nothing is the account's. -/
theorem of_compareBalance {P : Platform} {account : BankrollAccount}
    {told : Except String OperatorBalance}
    (h : (compareBalance P account told).severity ≠ .critical) :
    ∃ balance, told = .ok balance ∧ balance.currency = account.currency ∧
      toCents balance.available = some account.availableBalance ∧
        toCents balance.exposure = some account.reservedBalance := by
  cases told with
  | error message => exact (h rfl).elim
  | ok balance =>
    have hsame : sameBalance account balance = .ok true := by
      rw [compareBalance] at h
      cases hs : sameBalance account balance with
      | error message =>
        rw [show (Except.ok balance).bind (sameBalance account) = .error message from hs] at h
        exact (h rfl).elim
      | ok same =>
        rw [show (Except.ok balance).bind (sameBalance account) = .ok same from hs] at h
        cases same with
        | true => rfl
        | false => exact (h rfl).elim
    rw [sameBalance] at hsame
    split_ifs at hsame with hcurrency
    · cases hsame
    cases havailable : toCents balance.available with
    | none =>
      rw [havailable] at hsame
      cases hsame
    | some available =>
      simp only [havailable] at hsame
      split_ifs at hsame with hne
      · cases hsame
      cases hexposure : toCents balance.exposure with
      | none =>
        rw [hexposure] at hsame
        cases hsame
      | some exposure =>
        simp only [hexposure, Except.ok.injEq, beq_iff_eq] at hsame
        exact ⟨balance, rfl, not_not.1 hcurrency, havailable.trans (congrArg some (not_not.1 hne)),
          hexposure.trans (congrArg some hsame)⟩

/-! ## The run -/

variable {S : Setting} {T : Terms S}

/-- A statement that a call has run is among the events. -/
theorem Did.noted {R : World → World → Prop} {q : Query} {r : q.Result} {K : World → Prop}
    (h : Did S T.frame R i (.query q) (.ok r) K w) (hR : ∀ u, R u w → Onward u w) :
    .read i q r ∈ w.trace := by
  obtain ⟨w₁, -, -, -, hr⟩ := h.query
  exact (hR _ hr).mem List.mem_cons_self

/-- **What a run has seen, when it is clean.** -/
theorem Examined.certificate (h : Examined S T.frame i x w) (hc : Consistent w.db)
    (hkind : x.port.kind ≠ .paper) (hclean : Clean x.drafts) : Certificate i x w := by
  have honward : ∀ u, T.rely i u w → Onward u w := fun _ hu => (T.general hu).onward
  have hcritical : ∀ d ∈ x.drafts, d.severity ≠ .critical := fun d hd => (hclean d hd).1
  rw [Examination.drafts] at hcritical
  simp only [List.forall_mem_append] at hcritical
  obtain ⟨⟨⟨⟨⟨-, hlookups⟩, -⟩, hcompared⟩, hbalance⟩, -⟩ := hcritical
  obtain ⟨⟨⟨-, hscope⟩, told, htold, hasked⟩, -⟩ := id h.settled
  -- the balance was compared, so no order was waiting when it was read again
  obtain ⟨hzero, haccount⟩ : x.ambiguous = 0 ∧ ∃ balance,
      .read i (.account x.account.id) x.freshAccount ∈ w.trace ∧
        .balanceRead i (.ok balance) ∈ w.trace ∧ balance.currency = x.freshAccount.currency ∧
          toCents balance.available = some x.freshAccount.availableBalance ∧
            toCents balance.exposure = some x.freshAccount.reservedBalance := by
    cases h.balance with
    | paper hpaper => exact (hkind hpaper).elim
    | ambiguous _ _ hitems =>
      have hmem : item none .balance .pending .warning ("Solde non comparable : " ++
          toString x.ambiguous ++ " ordre(s) en attente de résolution") ∈ x.drafts := by
        rw [Examination.drafts, hitems]
        exact List.mem_append_left _ (List.mem_append_right _ (List.mem_singleton_self _))
      exact ((hclean _ hmem).2 rfl).elim
    | @compared answer _ hzero hitems hread =>
      rw [hitems, List.forall_mem_singleton] at hbalance
      obtain ⟨balance, rfl, hsame⟩ := of_compareBalance hbalance
      obtain ⟨w₁, w₂, haccount, -, hs, -, hr⟩ := hread
      obtain ⟨_, -, -, hdone⟩ := hs.done
      have hboth : .read i (.account x.account.id) x.freshAccount ∈ w₂.trace ∧
          .balanceRead i (.ok balance) ∈ w₂.trace := by
        generalize hans : (Except.ok balance : Except String OperatorBalance) = b at hdone
        cases hdone with
        | balanced =>
          rw [← hans]
          exact ⟨List.mem_cons_of_mem _ (haccount.noted fun _ hu => (T.general hu).onward),
            List.mem_cons_self⟩
      exact ⟨hzero, balance, (honward _ hr).mem hboth.1, (honward _ hr).mem hboth.2, hsame⟩
  refine ⟨h.account.noted fun _ hu => hu, hscope.noted fun _ hu => hu, fun key op hop => ?_,
    fun o ho => ?_, haccount⟩
  · cases hl : lookupOf x.lookups key with
    | none =>
      rw [Examination.answer, hl] at hop
      cases hop
    | some l =>
      rw [Examination.answer, hl, Option.bind_some] at hop
      cases l with
      | found found =>
        cases hop
        obtain ⟨results, clock, hmem, -, hret⟩ := h.settled.1.told hl fun _ heq => by cases heq
        exact ⟨results, clock, hmem, hret⟩
      | notFound | lookupFailed => cases hop
  · rcases h.reread with ⟨hids, -, -⟩ | ⟨hfresh, hreceipts, hkeys⟩
    · rw [Examination.ids, List.map_eq_nil_iff] at hids
      rw [hids] at ho
      cases ho
    obtain ⟨w₁, hsettled, -, hread, hr⟩ := hfresh.query
    obtain ⟨-, row, hrow, hb⟩ := hsettled.1.1.row ho
    have hmem : row ∈ x.fresh := by
      rw [← Option.some.inj hread]
      refine Table.mem_select.2 ⟨hrow, List.contains_iff_mem.2 (List.mem_map.2 ⟨o, ho, ?_⟩)⟩
      exact hb.same.id.symm
    obtain ⟨now, hnow, hbn⟩ := (honward _ hr).row (w := w₁.note _) hrow
    refine ⟨row, hmem, hb, hfresh.noted honward, ⟨now, hnow, hbn⟩, ?_⟩
    have hwaiting : row.status ∉ ambiguousStatuses := fun hs =>
      List.eq_nil_iff_forall_not_mem.1 (List.length_eq_zero_iff.1 hzero) row
        (List.mem_filter.2 ⟨hmem, List.contains_iff_mem.2 hs⟩)
    have hitems := List.forall_mem_flatMap.1 hcompared row hmem
    rw [compareFresh_eq hwaiting fun reason => htold ▸ lookupOf_ne_failed (htold ▸ hlookups),
      decide_eq_true hkind] at hitems
    refine concords_of_compareOrder hwaiting hitems (fun id hid => ?_) (fun κ hκ => ?_) fun hs => ?_
    · obtain ⟨w₂, -, -, hread₂, hr₂⟩ := hreceipts.query
      rw [← Option.some.inj hread₂] at hid
      obtain ⟨r, hr, rfl⟩ := List.mem_map.1 hid
      exact ⟨r, (honward _ hr₂).db.receipts r (Table.mem_select.1 hr).1, rfl⟩
    · obtain ⟨w₃, -, -, hread₃, hr₃⟩ := hkeys.query
      rw [← Option.some.inj hread₃] at hκ
      obtain ⟨e, he, hkey⟩ := List.mem_map.1 hκ
      exact ⟨e, (honward _ hr₃).db.entries e (Table.mem_select.1 he).1, hkey⟩
    · rw [hbn.eq_of_final (by simp [hs])] at hnow
      exact (hc.orders row hnow).refunded hs

/-- Only the transaction that completes a run says that it is completed. -/
theorem Setting.Step.completed {a : Action} {b : a.Result} {j : CallId} {runId : String}
    {drafts : List ItemDraft} (h : S.Step i a w b w') (hmem : .completed j runId drafts ∈ w'.trace) :
    .completed j runId drafts ∈ w.trace ∨ j = i ∧ a = .commit (.completeRun runId drafts) := by
  obtain ⟨_, -, -, hdone⟩ := h.done
  have hcommitted {t : Transaction} {r : t.Result} {db : Database}
      (hmem : .completed j runId drafts ∈ (w.committed i db t r).trace) :
      .completed j runId drafts ∈ w.trace ∨ j = i ∧ t = .completeRun runId drafts := by
    cases t with
    | completeRun =>
      rcases List.mem_cons.1 hmem with heq | hmem
      · obtain ⟨rfl, rfl, rfl⟩ := Event.completed.inj heq
        exact .inr ⟨rfl, rfl⟩
      · exact .inl hmem
    | recheck =>
      rcases List.mem_append.1 hmem with hmem | hmem
      · split_ifs at hmem
        · cases List.mem_singleton.1 hmem
        · cases hmem
      · exact .inl (List.mem_of_ne_of_mem (fun heq => by cases heq) hmem)
    | stop => exact .inl (List.mem_of_ne_of_mem (fun heq => by cases heq) hmem)
    | changeMode =>
      simp only [World.committed] at hmem
      split_ifs at hmem
      · exact .inl (List.mem_of_ne_of_mem (fun heq => by cases heq) hmem)
      · exact .inl hmem
    | _ => exact .inl hmem
  cases hdone with
  | committed _ _ => exact (hcommitted hmem).imp_right fun ht => ⟨ht.1, congrArg _ ht.2⟩
  | unacknowledged _ _ => exact (hcommitted hmem).imp_right fun ht => ⟨ht.1, congrArg _ ht.2⟩
  | notRead | aborted | permitted | refused | unanswered | released | quoted | ordered =>
    exact .inl hmem
  | read | placed | answered | lookedUp | balanced | dated =>
    exact .inl (List.mem_of_ne_of_mem (fun heq => by cases heq) hmem)

/-- The tables are consistent, and every clean run on a tracked operator has its certificate. -/
structure CertifiedRuns (S : Setting) (w : World) : Prop where
  tables : Consistent w.db
  runs : ∀ i runId drafts, .completed i runId drafts ∈ w.trace → Clean drafts →
    ∃ x : Examination, x.run.id = runId ∧ x.drafts = drafts ∧
      S.platform.portFor x.account.mode = .ok x.port ∧
        (x.port.kind ≠ .paper → Certificate i x w)

theorem CertifiedRuns.onward (h : CertifiedRuns S w) (hc : Consistent w'.db) (ho : Onward w w')
    {i : CallId} {runId : String} {drafts : List ItemDraft}
    (hmem : .completed i runId drafts ∈ w.trace) (hclean : Clean drafts) :
    ∃ x : Examination, x.run.id = runId ∧ x.drafts = drafts ∧
      S.platform.portFor x.account.mode = .ok x.port ∧
        (x.port.kind ≠ .paper → Certificate i x w') := by
  obtain ⟨x, hid, hdrafts, hport, hcert⟩ := h.runs i runId drafts hmem hclean
  exact ⟨x, hid, hdrafts, hport, fun hkind => (hcert hkind).onward hc ho⟩

/-- **One action of a call that knows what it does.** -/
theorem CertifiedRuns.step {a : Action} {b : a.Result} (h : CertifiedRuns S w)
    (hpre : Guard S ⟨CertifiedRuns S, Rely⟩ i a w) (hs : S.Step i a w b w') :
    CertifiedRuns S w' := by
  have hc : Consistent w'.db := h.tables.moves (hs.moves hpre.guarded)
  have ho : Onward w w' := (hs.guarantee hpre.guarded).1
  refine ⟨hc, fun j runId drafts hmem hclean => ?_⟩
  rcases hs.completed hmem with hold | ⟨rfl, rfl⟩
  · exact h.onward hc ho hold hclean
  · obtain ⟨x, hid, rfl, hexamined⟩ := hpre
    refine ⟨x, hid, rfl, hexamined.port, fun hkind => ?_⟩
    exact (Examined.certificate (T := S.strict (CertifiedRuns S)) hexamined h.tables hkind
      hclean).onward hc ho

/-- **A clean run certifies that what it has read agreed**: on a tracked operator, in every
interleaving of the calls of the pipeline, a run that has ended with neither a critical nor a pending
item has read again every order it had listed, and has found it taken as the operator said, with its
receipt and its entries, or refused and not held; and it has then read the balances the operator has. -/
theorem clean_run_certifies (hentry : ∀ e, S.entry e → e.whole = true) {controlId : String}
    {clock : Int} {funds : String → String → OperatorBalance}
    {c : Config Action Action.Result CallId World}
    (h : Reachable S.system (.init (.init (.migrated controlId) clock funds)) c) {runId : String}
    {drafts : List ItemDraft} (hcompleted : .completed i runId drafts ∈ c.state.trace)
    (hclean : Clean drafts) :
    ∃ x : Examination, x.run.id = runId ∧ x.drafts = drafts ∧
      S.platform.portFor x.account.mode = .ok x.port ∧
        (x.port.kind ≠ .paper → Certificate i x c.state) := by
  have hinv : CertifiedRuns S c.state := by
    refine Setting.strict_invariant hentry (fun _ _ _ _ _ hinv hpre hs => hinv.step hpre hs) ?_ ?_
      ?_ h
    · intro w w' hd hinv
      obtain ⟨clock, book, funds, db, -, -, hout, rfl⟩ := id hd
      have hc : Consistent db := hinv.tables.outside hout
      exact ⟨hc, fun i runId drafts hmem hclean => hinv.onward hc hd.onward.1 hmem hclean⟩
    · intro i w hinv
      have hc : Consistent (w.drop i).db := hinv.tables
      exact ⟨hc, fun j runId drafts hmem hclean =>
        hinv.onward hc (drop_onward i w).1 hmem hclean⟩
    · exact ⟨.migrated controlId, fun _ _ _ hmem => (List.not_mem_nil hmem).elim⟩
  exact hinv.runs i runId drafts hcompleted hclean

end

namespace Sample

/-- A run over the first two seconds is opened before anything is staked. -/
def scheduled : Choice :=
  .outside (table _ [run]) (table _ [decision])
    (table _ [evidence "e1" .g1, evidence "e2" .g2, evidence "e3" .g3])
    (table _ [⟨"recon", "recon", "account", 0, 2000, .running, 0⟩])

/-- The operator has the order as it was accepted, and the balances that go with it. -/
def asBooked : Input :=
  { Input.at 1000 "" with
    lookups := .ok [(key, .found acceptance.toOperatorOrder)]
    balance := .ok ⟨"EUR", "94.00", "6.00"⟩ }

/-- An order is accepted, and a reconciliation run goes to its end. -/
def reconciled : List Choice :=
  enabled ++ scheduled :: accepted ++ .start 5 (.executeRun "recon") ::
    List.replicate 19 (.act 5 asBooked)

/-- The calls that are not parts of others. -/
def wholeCalls : Scene := { scene with entry := Entry.whole }

/-- The run that an event completes. -/
def completion : Event → Option (CallId × String × List ItemDraft)
  | .completed i runId drafts => some (i, runId, drafts)
  | _ => none

def concordant : List ItemDraft :=
  [item (some "order") .order .isMatch .info "Ordre concordant",
    item none .balance .isMatch .info "Solde concordant"]

end Sample

theorem mem_of_completion {e : Event} {i : CallId} {runId : String} {drafts : List ItemDraft}
    (h : Sample.completion e = some (i, runId, drafts)) : e = .completed i runId drafts := by
  cases e with
  | completed =>
    obtain ⟨rfl, rfl, rfl⟩ := by simpa [Sample.completion] using h
    rfl
  | _ => cases h

theorem portFor_sample {mode : StoredMode} {p : OperatorPort}
    (h : Sample.platform.portFor mode = .ok p) : p = Sample.port := by
  cases mode with
  | unknown text => cases h
  | known m =>
    cases m with
    | sandbox => exact (Except.ok.inj h).symm
    | _ => cases h

/-- A run that finds an accepted order and the balance as they should be. -/
theorem clean_run_certifies_accepted : ∃ (c : Config Action Action.Result CallId World)
    (x : Examination), Sample.wholeCalls.replay Sample.reconciled Sample.initial = some c ∧
      x.drafts = Sample.concordant ∧ Certificate 5 x c.state := by
  have hreplay : (Sample.wholeCalls.replay Sample.reconciled Sample.initial).map (fun c =>
      c.state.trace.filterMap Sample.completion) = some [(5, "recon", Sample.concordant)] := by
    decide +kernel
  obtain ⟨c, hc, hcompletions⟩ := Option.map_eq_some_iff.1 hreplay
  have hmem : (5, "recon", Sample.concordant) ∈ c.state.trace.filterMap Sample.completion := by
    rw [hcompletions]
    exact List.mem_singleton_self _
  obtain ⟨e, he, hcompletion⟩ := List.mem_filterMap.1 hmem
  rw [mem_of_completion hcompletion] at he
  obtain ⟨x, -, hdrafts, hport, hcert⟩ := clean_run_certifies (fun _ h => h)
    (Scene.replay_reachable .init hc) he (List.forall_mem_cons.2
      ⟨⟨by decide, by decide⟩, List.forall_mem_singleton.2 ⟨by decide, by decide⟩⟩)
  refine ⟨c, x, hc, hdrafts, hcert ?_⟩
  rw [portFor_sample hport]
  decide

end ApiScore
