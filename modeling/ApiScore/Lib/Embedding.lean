import ApiScore.Lib.Program

/-!
# Programs inside larger programs

A program written over the actions of one system is a part of a program of a larger system, whose
state has the other one's in it.  What was proved of it there holds of it here, as long as the larger
system does with those actions what the smaller one does while the part is running.

* `Prog.embed` — the program, over the larger system's actions.
* `Inside` — what the larger system has to do.
* `Safe.embed` — the rule.
-/

set_option autoImplicit false

namespace Concurrent

variable {A A' : Type} {B : A → Type} {B' : A' → Type} {ι σ σ' α β : Type}

/-- The program, each of whose actions is performed as one of a larger system. -/
def Prog.embed (e : A → A') (answer : ∀ a, B' (e a) → B a) : Prog A B α → Prog A' B' α
  | .ret x => .ret x
  | .act a k => .act (e a) fun b => (k (answer a b)).embed e answer

/-- While `K` holds for call `i`, the larger system does what the smaller one does in the part of its
state that `view` shows, and its other calls tolerate no less of each other. -/
structure Inside (S : System A B ι σ) (C : Contract A ι σ) (S' : System A' B' ι σ')
    (C' : Contract A' ι σ') (e : A → A') (answer : ∀ a, B' (e a) → B a) (view : σ' → σ) (i : ι)
    (K : σ' → Prop) : Prop where
  rely : ∀ s s', K s → C'.rely i s s' → C.rely i (view s) (view s') ∧ K s'
  inv : ∀ s, C'.inv s → C.inv (view s)
  pre : ∀ a s, K s → C.pre i a (view s) → C'.pre i (e a) s
  step : ∀ a b s s', C'.inv s → K s → S'.step i (e a) s b s' →
    S.step i a (view s) (answer a b) (view s') ∧ K s'

/-- **What is safe in the smaller system is safe inside the larger one.** -/
theorem Safe.embed {S : System A B ι σ} {C : Contract A ι σ} {S' : System A' B' ι σ'}
    {C' : Contract A' ι σ'} {e : A → A'} {answer : ∀ a, B' (e a) → B a} {view : σ' → σ} {i : ι}
    {K : σ' → Prop} (D : Discipline S C) (E : Inside S C S' C' e answer view i K)
    {Q : α → σ → Prop} {p : Prog A B α} {s : σ'} (h : Safe S C i Q p (view s)) (hK : K s) :
    Safe S' C' i (fun x s => Q x (view s) ∧ K s) (p.embed e answer) s := by
  induction p generalizing s with
  | ret x =>
    intro s₁ hr hi
    obtain ⟨hrely, hK₁⟩ := E.rely s s₁ hK hr
    exact ⟨h (view s₁) hrely (E.inv s₁ hi), hK₁⟩
  | act a k ih =>
    intro s₁ hr hi
    obtain ⟨hrely, hK₁⟩ := E.rely s s₁ hK hr
    obtain ⟨hpre, hk⟩ := h (view s₁) hrely (E.inv s₁ hi)
    refine ⟨E.pre a s₁ hK₁ hpre, fun b s₂ hs _ _ => ?_⟩
    obtain ⟨hstep, hK₂⟩ := E.step a b s₁ s₂ hi hK₁ hs
    obtain ⟨hinv₂, hguar⟩ := D.step i a _ _ _ (E.inv s₁ hi) hpre hstep
    exact ih _ (hk _ _ hstep hinv₂ hguar) hK₂

end Concurrent
