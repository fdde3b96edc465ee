import ApiScore.Execution.Discipline
import ApiScore.Execution.Replay

/-!
# The stop barrier

A submission holds the control row shared from its permit to its release, and what writes the row
locks it exclusively.  So while a permit is out the row is as the permit found it, and once a stop
has committed no permit is granted before somebody climbs again.

* `Barrier` — what every run preserves.
* `started_open`, `no_start_after_stop` — its two consequences.
* `stop_barrier` — the barrier, over every run.
-/

set_option autoImplicit false

namespace ApiScore

open Relational Concurrent

/-! ## Stops and climbs -/

/-- Does the event close the barrier, or open it? -/
def Event.shuts : Event → Option Bool
  | .stopped => some true
  | .raised => some false
  | _ => none

/-- The last stop has not been followed by a climb. -/
def Shut (trace : List Event) : Prop := trace.findSome? Event.shuts = some true

/-- Every submission began while the barrier was open. -/
def Barred : List Event → Prop
  | [] => True
  | .started _ _ _ :: trace => ¬ Shut trace ∧ Barred trace
  | _ :: trace => Barred trace

/-- An event that is neither a stop, nor a climb, nor the beginning of a submission. -/
def Event.quiet : Event → Bool
  | .stopped | .raised | .started _ _ _ => false
  | _ => true

theorem shut_cons {e : Event} (he : e.shuts = none) {trace : List Event} :
    Shut (e :: trace) ↔ Shut trace := by
  rw [Shut, Shut, List.findSome?_cons, he]

theorem shut_quiet {es : List Event} (hes : ∀ e ∈ es, e.quiet = true) {trace : List Event} :
    Shut (es ++ trace) ↔ Shut trace := by
  induction es with
  | nil => rfl
  | cons e es ih =>
    have he : e.shuts = none := by
      have hquiet := hes e List.mem_cons_self
      cases e <;> first | rfl | cases hquiet
    rw [List.cons_append, shut_cons he]
    exact ih fun x hx => hes x (List.mem_cons_of_mem e hx)

theorem barred_quiet {es : List Event} (hes : ∀ e ∈ es, e.quiet = true) {trace : List Event} :
    Barred (es ++ trace) ↔ Barred trace := by
  induction es with
  | nil => rfl
  | cons e es ih =>
    have hquiet := hes e List.mem_cons_self
    have hrest := ih fun x hx => hes x (List.mem_cons_of_mem e hx)
    cases e <;> first | exact hrest | cases hquiet

/-- A stop keeps the barrier closed for as long as nobody climbs. -/
theorem shut_of_stopped {mid older : List Event} (hraised : .raised ∉ mid) :
    Shut (mid ++ .stopped :: older) := by
  induction mid with
  | nil => rfl
  | cons e mid ih =>
    have hmid := ih fun h => hraised (List.mem_cons_of_mem e h)
    cases e with
    | stopped => rfl
    | raised => exact (hraised List.mem_cons_self).elim
    | _ => exact hmid

theorem Barred.of_append {newer trace : List Event} (h : Barred (newer ++ trace)) :
    Barred trace := by
  induction newer with
  | nil => exact h
  | cons e newer ih =>
    cases e with
    | started => exact ih h.2
    | _ => exact ih h

/-- **Between a stop and the next climb nothing begins.** -/
theorem Barred.raised {newer mid older : List Event} {i : CallId} {request : PlaceOrderRequest}
    {control : Option ExecutionControl}
    (h : Barred (newer ++ .started i request control :: (mid ++ .stopped :: older))) :
    .raised ∈ mid := by
  by_contra hraised
  exact h.of_append.1 (shut_of_stopped hraised)

/-! ## The invariant -/

/-- The control row is in this mode, and the process of call `i` may commit money in it. -/
def OpenFor (S : Setting) (i : CallId) (mode : StoredMode) (control : Option ExecutionControl) :
    Prop :=
  ∃ c m, control = some c ∧ c.mode = mode ∧ mode = .known m ∧
    executionAllowed m (S.interlock i) = true

/-- What every run preserves of permits, stops and submissions. -/
structure Barrier (S : Setting) (w : World) : Prop where
  /-- While a permit is out, the control row is as it found it. -/
  permits : ∀ p ∈ w.permits, OpenFor S p.call p.mode w.db.control
  /-- While the barrier is shut, the control is disabled. -/
  shut : Shut w.trace → ∃ c, w.db.control = some c ∧ c.mode = .known .disabled
  /-- Every submission began in the mode of its order. -/
  started : ∀ i request control, .started i request control ∈ w.trace →
    ∃ o ∈ w.db.orders, o.idempotencyKey = request.idempotencyKey ∧ OpenFor S i o.mode control
  barred : Barred w.trace

/-- A disabled control lets nobody through. -/
theorem OpenFor.not_disabled {S : Setting} {i : CallId} {mode : StoredMode}
    {c : ExecutionControl} (h : OpenFor S i mode (some c)) : c.mode ≠ .known .disabled := by
  obtain ⟨x, m, hx, hmode, rfl, hallowed⟩ := h
  intro hdisabled
  rw [Option.some.inj hx, hmode, StoredMode.known.injEq] at hdisabled
  rw [hdisabled] at hallowed
  cases hallowed

/-- Only the three transactions that lock the control row write it. -/
theorem Transaction.keepsControl {P : Platform} {env : TxEnv} {t : Transaction}
    (ht : t.locksControl = false) : KeepsControl (t.body P env) := by
  cases t with
  | openAccount => exact .openAccount
  | reserve => exact .reserveTx
  | rejectEligible => exact .updateDecisions
  | recheck => exact .recheckTx
  | cancel => exact .cancelTx
  | unknown => exact .unknownTx
  | acceptance => exact .acceptanceTx
  | settleStake => exact .settleStakeTx
  | settleOrder => exact .settleOrderTx
  | recoverStale => exact .updateOrders
  | cancelAbandoned => exact .cancelAbandonedTx
  | completeRun runId drafts =>
    intro db r db' h
    rw [completeRunTx_spec h]
  | failRun runId =>
    intro db r db' h
    rw [failRunTx_spec h]
  | stop | changeMode | createRiskPolicy => cases ht

section

variable {S : Setting} {i : CallId} {w w' : World}

/-- What leaves the control row alone and neither begins, stops nor climbs keeps the barrier. -/
theorem Barrier.of_quiet (h : Barrier S w) {es : List Event} (hes : ∀ e ∈ es, e.quiet = true)
    (hpermits : ∀ p ∈ w'.permits, p ∈ w.permits) (hcontrol : w'.db.control = w.db.control)
    (horders : ∀ o ∈ w.db.orders, ∃ o' ∈ w'.db.orders, Became o o')
    (htrace : w'.trace = es ++ w.trace) : Barrier S w' where
  permits p hp := hcontrol ▸ h.permits p (hpermits p hp)
  shut hshut := hcontrol ▸ h.shut ((shut_quiet hes).1 (htrace ▸ hshut))
  started j request control he := by
    rw [htrace, List.mem_append] at he
    rcases he with he | he
    · cases hes _ he
    · obtain ⟨o, ho, hkey, hopen⟩ := h.started j request control he
      obtain ⟨o', ho', hb⟩ := horders o ho
      exact ⟨o', ho', hb.same.idempotencyKey.trans hkey, hb.same.mode ▸ hopen⟩
  barred := htrace ▸ (barred_quiet hes).2 h.barred

/-- The events of a transaction that leaves the control row alone are quiet. -/
theorem committed_events {t : Transaction} (ht : t.locksControl = false) (db : Database)
    (r : t.Result) :
    ∃ es : List Event, (∀ e ∈ es, e.quiet = true) ∧
      (w.committed i db t r).trace = es ++ w.trace := by
  cases t with
  | recheck orderId quote =>
    refine ⟨(if r.hands then [Event.handed i r.order
      ((w.db.order? orderId).any fun o => o.status == .reserved)] else []) ++
        [Event.rechecked i orderId], ?_, ?_⟩
    · intro e he
      rw [List.mem_append] at he
      rcases he with he | he
      · split_ifs at he with hhands
        · rw [List.mem_singleton.1 he]
          rfl
        · cases he
      · rw [List.mem_singleton.1 he]
        rfl
    · rw [List.append_assoc]
      rfl
  | completeRun runId drafts =>
    exact ⟨[.completed i runId drafts], fun e he => by rw [List.mem_singleton.1 he]; rfl, rfl⟩
  | stop | changeMode | createRiskPolicy => cases ht
  | _ => exact ⟨[], fun e he => (List.not_mem_nil he).elim, rfl⟩

/-- **A transaction keeps the barrier**: those that write the control row find no permit out. -/
theorem Barrier.committed (h : Barrier S w) {t : Transaction} {env : TxEnv} {r : t.Result}
    {db : Database} (hg : t.Guarded w.db) (hlock : t.locksControl = true → w.permits = [])
    (hbody : t.body S.platform env w.db = .ok (r, db)) : Barrier S (w.committed i db t r) := by
  have hev : Evolves w.db db := .of_moves (Transaction.moves hg hbody)
  by_cases ht : t.locksControl = true
  · have hpermits := hlock ht
    have hnone : ∀ p ∈ (w.committed i db t r).permits,
        OpenFor S p.call p.mode (w.committed i db t r).db.control := by
      intro p hp
      rw [committed_permits, hpermits] at hp
      cases hp
    have hstarted : ∀ j request control, .started j request control ∈ w.trace →
        ∃ o ∈ db.orders, o.idempotencyKey = request.idempotencyKey ∧
          OpenFor S j o.mode control := by
      intro j request control he
      obtain ⟨o, ho, hkey, hopen⟩ := h.started j request control he
      obtain ⟨o', ho', hb⟩ := hev.orders o ho
      exact ⟨o', ho', hb.same.idempotencyKey.trans hkey, hb.same.mode ▸ hopen⟩
    cases t with
    | stop reason source =>
      obtain ⟨hdb, hmode⟩ := stopTx_spec hbody
      refine ⟨hnone, fun _ => ⟨r, by rw [committed_db, hdb], hmode⟩, fun j request control he => ?_,
        h.barred⟩
      rw [committed_db]
      exact hstarted j request control (List.mem_of_ne_of_mem (by simp) he)
    | changeMode input =>
      obtain ⟨hdb, c, hc, hup⟩ := changeModeTx_spec hbody
      by_cases hr : r.2 = .up
      · -- a climb opens the barrier
        have htrace : (w.committed i db (.changeMode input) r).trace = .raised :: w.trace :=
          if_pos hr
        refine ⟨hnone, fun hshut => ?_, fun j request control he => ?_, ?_⟩
        · rw [htrace] at hshut
          cases hshut
        · rw [htrace] at he
          rw [committed_db]
          exact hstarted j request control (List.mem_of_ne_of_mem (by simp) he)
        · rw [htrace]
          exact h.barred
      · have htrace : (w.committed i db (.changeMode input) r).trace = w.trace := if_neg hr
        refine ⟨hnone, fun hshut => ?_, fun j request control he => ?_, ?_⟩
        · rw [htrace] at hshut
          obtain ⟨x, hx, hmode⟩ := h.shut hshut
          rw [hc, Option.some.injEq] at hx
          exact (hr (hup (hx ▸ hmode))).elim
        · rw [htrace] at he
          rw [committed_db]
          exact hstarted j request control he
        · rw [htrace]
          exact h.barred
    | createRiskPolicy input =>
      obtain ⟨-, hmode⟩ := createRiskPolicyTx_spec hbody
      refine ⟨hnone, fun hshut => ?_, fun j request control he => ?_, h.barred⟩
      · obtain ⟨x, hx, hxmode⟩ := h.shut hshut
        rw [hx] at hmode
        obtain ⟨c, hc, hcmode⟩ := Option.map_eq_some_iff.1 hmode
        exact ⟨c, by rw [committed_db, hc], hcmode.trans hxmode⟩
      · rw [committed_db]
        exact hstarted j request control he
    | _ => cases ht
  · have hfalse : t.locksControl = false := Bool.eq_false_iff.2 ht
    obtain ⟨es, hes, htrace⟩ := committed_events (w := w) (i := i) hfalse db r
    refine h.of_quiet hes (fun p hp => ?_) ?_ ?_ htrace
    · rwa [committed_permits] at hp
    · rw [committed_db]
      exact Transaction.keepsControl hfalse w.db r db hbody
    · rw [committed_db]
      exact hev.orders

/-- **One justified action keeps the barrier.** -/
theorem Barrier.step {a : Action} {b : a.Result} (h : Barrier S w) (hpre : Sound i a w)
    (hs : S.Step i a w b w') : Barrier S w' := by
  have hsame : ∀ o ∈ w.db.orders, ∃ o' ∈ w.db.orders, Became o o' := fun o ho => ⟨o, ho, .refl o⟩
  have hquiet : ∀ (e : Event), e.quiet = true → ∀ x ∈ [e], x.quiet = true := by
    intro e he x hx
    rw [List.mem_singleton.1 hx]
    exact he
  obtain ⟨input, -, hinterlock, -, hexec⟩ := hs
  have hdone := exec_done hexec
  cases hdone with
  | committed hlock hbody => exact h.committed hpre.1 hlock hbody
  | unacknowledged hlock hbody => exact h.committed hpre.1 hlock hbody
  | notRead | aborted | refused | unanswered | quoted | ordered => exact h
  | read => exact h.of_quiet (hquiet _ rfl) (fun _ hp => hp) rfl hsame rfl
  | answered => exact h.of_quiet (hquiet _ rfl) (fun _ hp => hp) rfl hsame rfl
  | lookedUp => exact h.of_quiet (hquiet _ rfl) (fun _ hp => hp) rfl hsame rfl
  | balanced => exact h.of_quiet (hquiet _ rfl) (fun _ hp => hp) rfl hsame rfl
  | dated => exact h.of_quiet (hquiet _ rfl) (fun _ hp => hp) rfl hsame rfl
  | released =>
    refine @Barrier.of_quiet _ _ _ h [] (by simp) (fun p hp => ?_) rfl hsame rfl
    exact List.mem_of_mem_filter hp
  | @permitted mode c db hpermit =>
    obtain ⟨-, hc, hmode, m, hm, hallowed⟩ := submissionPermit_spec hpermit
    refine { h with permits := fun p hp => ?_ }
    rcases List.mem_cons.1 hp with rfl | hp
    · exact ⟨c, m, hc, hmode, hmode ▸ hm, hinterlock ▸ hallowed⟩
    · exact h.permits p hp
  | placed request =>
    -- the permit of the submission is still out, so the control row is as it found it
    obtain ⟨o, ⟨-, row, hrow, hb⟩, rfl, hpermit⟩ := hpre.2 request rfl
    have hopen := h.permits _ hpermit
    refine ⟨h.permits, h.shut, fun j x control he => ?_, ⟨fun hshut => ?_, h.barred⟩⟩
    · rcases List.mem_cons.1 he with he | he
      · obtain ⟨rfl, rfl, rfl⟩ := Event.started.inj he
        exact ⟨row, hrow, hb.same.idempotencyKey, hb.same.mode ▸ hopen⟩
      · exact h.started j x control he
    · obtain ⟨c, hc, hmode⟩ := h.shut hshut
      rw [hc] at hopen
      exact hopen.not_disabled hmode

theorem Barrier.drift (h : Barrier S w) (hd : S.Drift w w') : Barrier S w' := by
  obtain ⟨clock, book, funds, db, -, -, hout, rfl⟩ := hd
  refine @Barrier.of_quiet _ _ _ h [] (by simp) (fun _ hp => hp) ?_ hout.evolves.orders rfl
  rw [Outside] at hout
  simp only
  rw [hout]

theorem Barrier.drop (h : Barrier S w) : Barrier S (w.drop i) :=
  @Barrier.of_quiet _ _ _ h [] (by simp) (fun _ hp => List.mem_of_mem_filter hp) rfl
    (fun o ho => ⟨o, ho, .refl o⟩) rfl

/-- A run keeps the barrier, whatever the tables it starts from. -/
theorem barrier_reachable {db : Database} {clock : Int} {funds : String → String → OperatorBalance}
    {c : Run} (h : Reachable S.system (.init (.init db clock funds)) c) : Barrier S c.state := by
  refine Setting.sound_invariant (I := Barrier S) ?_ ?_ ?_ ?_ h
  · exact fun _ _ _ _ _ hinv hpre hs => hinv.step hpre hs
  · exact fun _ _ hd hinv => hinv.drift hd
  · exact fun _ _ hinv => hinv.drop
  · refine ⟨fun p hp => ?_, fun hshut => ?_, fun j request control he => ?_, trivial⟩
    · cases hp
    · cases hshut
    · cases he

/-- **A submission begins only while the control row is in the mode of its order and execution is
allowed, and none begins between the commit of a stop and the next climb**: over every run, from any
tables, with any calls and any answers. -/
theorem stop_barrier {db : Database} {clock : Int} {funds : String → String → OperatorBalance}
    {c : Run} (h : Reachable S.system (.init (.init db clock funds)) c) :
    (∀ i request control, .started i request control ∈ c.state.trace →
      ∃ o ∈ c.state.db.orders, o.idempotencyKey = request.idempotencyKey ∧
        OpenFor S i o.mode control) ∧
    ∀ newer mid older i request control,
      c.state.trace = newer ++ .started i request control :: (mid ++ .stopped :: older) →
        .raised ∈ mid := by
  have hbarrier := barrier_reachable h
  refine ⟨hbarrier.started, fun newer mid older i request control htrace => ?_⟩
  exact Barred.raised (htrace ▸ hbarrier.barred)

end

/-- After a stop, two climbs, and then a submission in `SANDBOX`. -/
theorem stop_barrier_accepted :
    ∃ c : Run, c.state.trace.filterMap Event.shuts = [false, false, true] ∧
      c.state.trace.countP (fun e => !e.quiet) = 4 ∧
      (∀ i request control, .started i request control ∈ c.state.trace →
        ∃ o ∈ c.state.db.orders, o.idempotencyKey = request.idempotencyKey ∧
          OpenFor Sample.scene.setting i o.mode control) ∧
      ∀ newer mid older i request control,
        c.state.trace = newer ++ .started i request control :: (mid ++ .stopped :: older) →
          .raised ∈ mid := by
  have hrun : (Sample.scene.replay ([.start 9 (.stop "" .manual), .act 9 (.at 1000 "")] ++
      Sample.enabled ++ Sample.accepted) Sample.initial).map (fun c =>
        (c.state.trace.filterMap Event.shuts, c.state.trace.countP fun e => !e.quiet))
        = some ([false, false, true], 4) := by decide +kernel
  obtain ⟨c, hc, hevents⟩ := Option.map_eq_some_iff.1 hrun
  obtain ⟨hshuts, hcount⟩ := Prod.mk.inj hevents
  exact ⟨c, hshuts, hcount, stop_barrier (Scene.replay_reachable .init hc)⟩

end ApiScore
