import ApiScore.Execution.Discipline
import ApiScore.Execution.Replay

/-!
# The reserved balance over a run

Whatever calls are made, in any order and with any answers, and wherever a call dies, an account
holds exactly what its orders hold.

* `reservedBalance_eq_exposureOf` — in every state a run can reach.
-/

set_option autoImplicit false

namespace ApiScore

open Relational Concurrent
open Relation (ReflTransGen)

theorem Consistent.moves {db db' : Database} (h : Consistent db) (hm : ReflTransGen Move db db') :
    Consistent db' := by
  induction hm with
  | refl => exact h
  | tail _ hmove ih => exact ih.move hmove

theorem Consistent.migrated (controlId : String) : Consistent (Database.migrated controlId) where
  orders o ho := by cases ho
  entries e he := by cases he
  balanced a ha := by cases ha

theorem Consistent.outside {db db' : Database} (h : Consistent db) (hout : Outside db db') :
    Consistent db' := by
  rw [Outside] at hout
  refine h.congr ⟨?_, ?_⟩ ?_ ?_
  · rw [hout]
  · rw [hout]
  · rw [hout]
  · rw [hout]

section

variable {S : Setting}

/-- What a justified action does to the database: nothing, or the moves of its transaction. -/
theorem Setting.Step.moves {i : CallId} {a : Action} {b : a.Result} {w w' : World}
    (hg : a.Guarded w.db) (h : S.Step i a w b w') : ReflTransGen Move w.db w'.db := by
  obtain ⟨_, -, -, hdone⟩ := h.done
  cases hdone with
  | committed _ hbody =>
    rw [committed_db]
    exact Transaction.moves hg hbody
  | unacknowledged _ hbody =>
    rw [committed_db]
    exact Transaction.moves hg hbody
  | _ => exact .refl

/-- The tables of a run are consistent, whatever its calls do and whoever else runs. -/
theorem consistent_discipline :
    Discipline S.system (S.sound fun w => Consistent w.db).toContract := by
  refine Setting.sound_discipline ?_ ?_ ?_
  · intro i a b w w' hinv hpre hs
    exact hinv.moves (hs.moves hpre.1)
  · rintro w w' ⟨clock, book, funds, db, -, -, hout, rfl⟩ hinv
    exact hinv.outside hout
  · exact fun i w hinv => hinv

theorem consistent_reachable {controlId : String} {clock : Int}
    {funds : String → String → OperatorBalance} {c : Run}
    (h : Reachable S.system (.init (.init (.migrated controlId) clock funds)) c) :
    Consistent c.state.db :=
  (consistent_discipline.reachable (s := .init (.migrated controlId) clock funds)
    (Consistent.migrated controlId) (fun _ => trivial) h).1

/-- **In every state of every run, an account has reserved exactly what its orders hold**: all that
was asked for while an order is not decided, what was taken while it is not settled, and nothing
afterwards. -/
theorem reservedBalance_eq_exposureOf {controlId : String} {clock : Int}
    {funds : String → String → OperatorBalance} {c : Run}
    (h : Reachable S.system (.init (.init (.migrated controlId) clock funds)) c) :
    ∀ a ∈ c.state.db.accounts, a.reservedBalance = c.state.db.exposureOf a.id :=
  (consistent_reachable h).balanced

end

/-- After an acceptance of 6.00 out of 10.00, the account holds 6.00. -/
theorem reservedBalance_accepted :
    ∃ c : Run, (c.state.db.accounts.rows.map fun a => (a.availableBalance, a.reservedBalance))
        = [(9400, 600)] ∧
      ∀ a ∈ c.state.db.accounts, a.reservedBalance = c.state.db.exposureOf a.id := by
  have hrun : (Sample.scene.replay (Sample.enabled ++ Sample.accepted) Sample.initial).map
      (fun c => c.state.db.accounts.rows.map fun a => (a.availableBalance, a.reservedBalance))
        = some [(9400, 600)] := by decide +kernel
  obtain ⟨c, hc, hrows⟩ := Option.map_eq_some_iff.1 hrun
  exact ⟨c, hrows, reservedBalance_eq_exposureOf (Scene.replay_reachable .init hc)⟩

end ApiScore
