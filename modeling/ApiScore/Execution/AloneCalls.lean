import ApiScore.Lib.Alone
import ApiScore.Execution.CallSpecs

/-!
# Calls with nothing else in progress

A call that runs alone: nobody writes to the tables or moves the operator in between, only time
passes.  What it does is then a sequence of exact states.

* `Setting.quiet` — the system in which a call runs alone.
* `returns_query`, `returns_commit`, `returns_applyStop` — one action of such a call.
* `applyAcceptance_cases`, `settleFromOperator_cases` — what a call that writes on an order is made
  of.
-/

set_option autoImplicit false

namespace ApiScore

open Relational Concurrent

/-- A call runs with nothing else in progress: only time passes before each of its actions. -/
def Setting.quiet (S : Setting) : System Action Action.Result CallId World :=
  { S.system with
    step := fun i a w b w' => ∃ clock, w.clock ≤ clock ∧ S.Step i a { w with clock } b w' }

section

variable {S : Setting} {i : CallId} {w w' : World}

/-- Where no time passes. -/
theorem quiet_of_alone {α : Type} {p : Prog Action Action.Result α} {x : α}
    (h : Alone S.system i p w x w') : Alone S.quiet i p w x w' :=
  h.mono fun _ w _ _ hs => ⟨w.clock, le_refl _, hs⟩

/-! ## One action -/

theorem returns_query {q : Query} {r : q.Result} (h : Returns S.quiet i (query q) w r w') :
    q.read w.db = some r ∧ w'.db = w.db := by
  obtain ⟨b, w₁, ⟨clock, -, hs⟩, h⟩ := Returns.of_act h
  cases b with
  | error e => exact (not_returns_throw h).elim
  | ok x =>
    obtain ⟨rfl, rfl⟩ := returns_pure.1 h
    obtain ⟨hread, rfl⟩ := hs.query
    exact ⟨hread, rfl⟩

theorem returns_commit {t : Transaction} {r : t.Result}
    (h : Returns S.quiet i (commit t) w r w') :
    ∃ env db, t.body S.platform env w.db = .ok (r, db) ∧ w'.db = db := by
  obtain ⟨b, w₁, ⟨clock, -, hs⟩, h⟩ := Returns.of_act h
  cases b with
  | error e => exact (not_returns_throw h).elim
  | ok x =>
    obtain ⟨rfl, rfl⟩ := returns_pure.1 h
    rcases hs.commit with ⟨r', ⟨env, db, -, hbody, rfl⟩, hr⟩ | ⟨-, e, he⟩
    · rw [hr x rfl]
      exact ⟨env, db, hbody, committed_db _ _ _ _ _⟩
    · cases he

/-- A stop writes the control row only. -/
theorem returns_autoStop {request : AutoStopRequest} {u : Unit}
    (h : Returns S.quiet i (autoStop request) w u w') :
    ∃ control, w'.db = { w.db with control } := by
  obtain ⟨b, w₁, ⟨clock, -, hs⟩, h⟩ := Returns.of_act h
  obtain ⟨-, rfl⟩ := returns_pure.1 h
  rcases hs.commit with ⟨c, ⟨env, db, -, hbody, rfl⟩, -⟩ | ⟨rfl, -⟩
  · exact ⟨some c, by rw [committed_db, (stopTx_spec hbody).1]⟩
  · exact ⟨_, rfl⟩

theorem returns_applyStop {request : Option AutoStopRequest} {u : Unit}
    (h : Returns S.quiet i (applyStop request) w u w') :
    ∃ control, w'.db = { w.db with control } := by
  cases request with
  | none =>
    obtain ⟨-, rfl⟩ := returns_pure.1 h
    exact ⟨w.db.control, rfl⟩
  | some request => exact returns_autoStop h

/-! ## The calls that write on an order -/

variable {orderId : String} {op : OperatorOrder} {result order : BetOrder}

/-- An acceptance is its transaction, a stop perhaps, and a read. -/
theorem applyAcceptance_cases (h : Returns S.quiet i (applyAcceptance orderId op) w result w') :
    ∃ stop env db control, acceptanceTx S.platform orderId op env w.db = .ok (stop, db) ∧
      w'.db = { db with control } ∧ w'.db.order? orderId = some result := by
  obtain ⟨stop, w₁, hcommit, h⟩ := Returns.of_bind h
  obtain ⟨env, db, hbody, hdb⟩ := returns_commit hcommit
  obtain ⟨_, w₂, hstop, h⟩ := Returns.of_bind h
  obtain ⟨control, hdb₂⟩ := returns_applyStop hstop
  obtain ⟨hread, hdb'⟩ := returns_query h
  rw [hdb] at hdb₂
  exact ⟨stop, env, db, control, hbody, hdb'.trans hdb₂, hdb' ▸ hread⟩

/-- Nothing is settled on a report without a well-formed payout. -/
theorem settleFromOperator_untouched (hset : op.settlement? = none)
    (h : Returns S.quiet i (settleFromOperator orderId op) w result w') : w'.db = w.db := by
  obtain ⟨order, w₁, hq, h⟩ := Returns.of_bind h
  obtain ⟨-, hdb⟩ := returns_query hq
  split_ifs at h
  · obtain ⟨-, rfl⟩ := returns_pure.1 h
    exact hdb
  · simp only [hset] at h
    obtain ⟨-, rfl⟩ := returns_pure.1 h
    exact hdb

/-- What a settlement of an accepted order is made of: nothing without a well-formed payout, and
otherwise its entry, a stop perhaps, and its row. -/
theorem settleFromOperator_cases (horder : w.db.order? orderId = some order)
    (hs : order.status = .accepted)
    (h : Returns S.quiet i (settleFromOperator orderId op) w result w') :
    (op.settlement? = none ∧ result = order) ∨
      ∃ text stake payout settled control env db env' db', op.settlement? = some text ∧
        toCents text = some payout ∧ order.acceptedStake = some stake ∧
        settleStakeTx (order.settleInput stake payout) env w.db = .ok (settled, db) ∧
        settleOrderTx orderId (settlementOutcome stake payout).1 (settlementOutcome stake payout).2
          payout op.settledAt env' { db with control } = .ok ((), db') ∧
        w'.db = db' ∧ db'.order? orderId = some result := by
  obtain ⟨o, w₁, hq, h⟩ := Returns.of_bind h
  obtain ⟨hread, hdb₁⟩ := returns_query hq
  obtain rfl : order = o := Option.some.inj (horder.symm.trans hread)
  rw [if_neg (not_not.2 hs)] at h
  cases hset : op.settlement? with
  | none =>
    simp only [hset] at h
    exact .inl ⟨rfl, (returns_pure.1 h).1.symm⟩
  | some text =>
  cases hstake : order.acceptedStake with
  | none =>
    simp only [hset, hstake] at h
    exact (not_returns_throw h).elim
  | some stake =>
  cases hcents : toCents text with
  | none =>
    simp only [hset, hstake, hcents] at h
    exact (not_returns_throw h).elim
  | some payout =>
    simp only [hset, hstake, hcents] at h
    obtain ⟨settled, w₂, hc, h⟩ := Returns.of_bind h
    obtain ⟨env, db, hbody, hdb₂⟩ := returns_commit hc
    obtain ⟨_, w₃, hstop, h⟩ := Returns.of_bind h
    obtain ⟨control, hdb₃⟩ := returns_applyStop hstop
    obtain ⟨_, w₄, hc', h⟩ := Returns.of_bind h
    obtain ⟨env', db', hbody', hdb₄⟩ := returns_commit hc'
    obtain ⟨hread', hdb'⟩ := returns_query h
    rw [hdb₁] at hbody
    rw [hdb₂] at hdb₃
    rw [hdb₃] at hbody'
    exact .inr ⟨text, stake, payout, settled, control, env, db, env', db', rfl, hcents, rfl, hbody,
      hbody', hdb'.trans hdb₄, hdb₄ ▸ hread'⟩

end

end ApiScore
