import ApiScore.Lib.Program

/-!
# A system beside another party

`System.beside S E` runs the programs of `S` on the first part of a pair.  The second part belongs to
somebody else, who works on the shared state too, by the moves `E`.

* `Sched.beside` — the calls run as they did.
* `Discipline.beside` — and keep to their contract, where the other party keeps its invariant.
* `Discipline.beside_invariant` — what holds of the pair in every state a run can reach.
-/

set_option autoImplicit false

namespace Concurrent

variable {A : Type} {B : A → Type} {ι σ τ α : Type}

/-- The programs of `S`, with another party that has a state of its own. -/
def System.beside (S : System A B ι σ) (E : σ × τ → σ × τ → Prop) : System A B ι (σ × τ) where
  step i a x b x' := S.step i a x.1 b x'.1 ∧ x'.2 = x.2
  entry := S.entry
  env := E
  drop i x := (S.drop i x.1, x.2)

/-- The same contract, on the shared part of the state. -/
def Contract.beside (C : Contract A ι σ) (τ : Type) : Contract A ι (σ × τ) where
  inv x := C.inv x.1
  pre i a x := C.pre i a x.1
  guar i x x' := C.guar i x.1 x'.1
  rely i x x' := C.rely i x.1 x'.1
  fresh i x := C.fresh i x.1
  refl i x := C.refl i x.1
  trans i x x' x'' := C.trans i x.1 x'.1 x''.1

theorem Safe.beside {S : System A B ι σ} {C : Contract A ι σ} {i : ι} {Q : α → σ → Prop}
    (E : σ × τ → σ × τ → Prop) {p : Prog A B α} {x : σ × τ} (h : Safe S C i Q p x.1) :
    Safe (S.beside E) (C.beside τ) i (fun y x' => Q y x'.1) p x := by
  induction p generalizing x with
  | ret y => exact fun x₁ hr hi => h x₁.1 hr hi
  | act a k ih =>
    intro x₁ hr hi
    obtain ⟨hpre, hk⟩ := h x₁.1 hr hi
    exact ⟨hpre, fun b x₂ hs h₂ hg => ih b (hk b x₂.1 hs.1 h₂ hg)⟩

/-- A discipline holds beside a party that keeps the invariant and every rely. -/
theorem Discipline.beside {S : System A B ι σ} {C : Contract A ι σ} (D : Discipline S C)
    {E : σ × τ → σ × τ → Prop}
    (henv : ∀ x x', E x x' → C.inv x.1 → C.inv x'.1 ∧ ∀ j, C.rely j x.1 x'.1) :
    Discipline (S.beside E) (C.beside τ) where
  entry i p x hp hinv hf := (D.entry i p x.1 hp hinv hf).beside E
  step i a b x x' hinv hpre hs := D.step i a b x.1 x'.1 hinv hpre hs.1
  compatible i j x x' := D.compatible i j x.1 x'.1
  fresh i x x' := D.fresh i x.1 x'.1
  env := henv
  drop i x := D.drop i x.1

/-- **An invariant of the pair**: each single action keeps it, performed under its precondition, and
so does the other party. -/
theorem Discipline.beside_invariant [DecidableEq ι] {S : System A B ι σ} {C : Contract A ι σ}
    (D : Discipline S C) {E : σ × τ → σ × τ → Prop}
    (henv : ∀ x x', E x x' → C.inv x.1 → C.inv x'.1 ∧ ∀ j, C.rely j x.1 x'.1)
    {J : σ × τ → Prop}
    (hact : ∀ i a b s s' t, J (s, t) → C.pre i a s → S.step i a s b s' → J (s', t))
    (hother : ∀ x x', J x → E x x' → J x') (hdrop : ∀ i s t, J (s, t) → J (S.drop i s, t))
    {x : σ × τ} (hinv : C.inv x.1) (hfresh : ∀ i, C.fresh i x.1) (hinit : J x)
    {c : Config A B ι (σ × τ)} (h : Reachable (S.beside E) (.init x) c) : J c.state := by
  have hpath := (D.beside henv).path hinv hfresh h
  generalize c.state = y at hpath
  induction hpath with
  | refl => exact hinit
  | tail _ hlast ih =>
    cases hlast with
    | act hpre hs =>
      have hnext := hact _ _ _ _ _ _ ih hpre hs.1
      rwa [← hs.2] at hnext
    | env henv => exact hother _ _ ih henv
    | drop => exact hdrop _ _ _ ih

/-- **The calls run beside the other party as they run alone.** -/
theorem Sched.beside [DecidableEq ι] {S : System A B ι σ} {E : σ × τ → σ × τ → Prop}
    {c c' : Config A B ι σ} {t : τ} (h : Sched S c c')
    (henv : ∀ s', S.env c.state s' → E (c.state, t) (s', t)) :
    Sched (S.beside E) ⟨(c.state, t), c.procs⟩ ⟨(c'.state, t), c'.procs⟩ := by
  cases h with
  | run hp hs => exact .run hp ⟨hs, rfl⟩
  | start hi hp => exact .start hi hp
  | crash hi => exact .crash hi
  | env h => exact .env (henv _ h)

end Concurrent
