import ApiScore.Lib.Program

/-!
# Programs run alone

`Alone S i p s x s'` says that call `i` may run `p` from `s` to its end while nobody else moves, with
the result `x` and the state `s'`.

* `alone_bind`, `Returns.of_bind`, `Returns.of_act` — a run of a sequence is a run of its parts.
* `Alone.sched` — such a run is one of the runs of the system.
-/

set_option autoImplicit false

namespace Concurrent

variable {A : Type} {B : A → Type} {ι σ ε α β : Type} {S : System A B ι σ} {i : ι}

/-- Call `i` runs `p` from `s` with nobody else moving: the result is `x` and the state `s'`. -/
def Alone (S : System A B ι σ) (i : ι) : Prog A B α → σ → α → σ → Prop
  | .ret y, s, x, s' => y = x ∧ s = s'
  | .act a k, s, x, s' => ∃ b s₁, S.step i a s b s₁ ∧ Alone S i (k b) s₁ x s'

/-- What a program does alone, it may do where more is allowed. -/
theorem Alone.mono {S' : System A B ι σ} {p : Prog A B α} {s s' : σ} {x : α}
    (hstep : ∀ a s b s', S.step i a s b s' → S'.step i a s b s') (h : Alone S i p s x s') :
    Alone S' i p s x s' := by
  induction p generalizing s with
  | ret y => exact h
  | act a k ih =>
    obtain ⟨b, s₁, hs, h⟩ := h
    exact ⟨b, s₁, hstep a s b s₁ hs, ih b h⟩

theorem alone_bind {p : Prog A B α} {f : α → Prog A B β} {s s' : σ} {y : β} :
    Alone S i (p >>= f) s y s' ↔ ∃ x s₁, Alone S i p s x s₁ ∧ Alone S i (f x) s₁ y s' := by
  induction p generalizing s with
  | ret x =>
    constructor
    · intro h
      exact ⟨x, s, ⟨rfl, rfl⟩, h⟩
    · rintro ⟨_, _, ⟨rfl, rfl⟩, h⟩
      exact h
  | act a k ih =>
    constructor
    · rintro ⟨b, s₁, hs, h⟩
      obtain ⟨x, s₂, hp, hf⟩ := (ih b).1 h
      exact ⟨x, s₂, ⟨b, s₁, hs, hp⟩, hf⟩
    · rintro ⟨x, s₂, ⟨b, s₁, hs, hp⟩, hf⟩
      exact ⟨b, s₁, hs, (ih b).2 ⟨x, s₂, hp, hf⟩⟩

/-- **What a program does alone it may do in a running system.** -/
theorem Alone.sched [DecidableEq ι] {p : Prog A B Unit} {c : Config A B ι σ} {s' : σ} {u : Unit}
    (h : Alone S i p c.state u s') (hp : c.procs i = some p) :
    Relation.ReflTransGen (Sched S) c ⟨s', Function.update c.procs i (some (.ret ()))⟩ := by
  induction p generalizing c with
  | ret x =>
    obtain ⟨-, rfl⟩ := h
    rw [← hp, Function.update_eq_self]
  | act a k ih =>
    obtain ⟨b, s₁, hs, h⟩ := h
    have hrest := ih b (c := ⟨s₁, Function.update c.procs i (some (k b))⟩) h
      (Function.update_self i _ _)
    rw [Function.update_idem] at hrest
    exact hrest.head (.run hp hs)

theorem Alone.reachable [DecidableEq ι] {p : Prog A B Unit} {c₀ c : Config A B ι σ} {s' : σ} {u : Unit}
    (hc : Reachable S c₀ c) (h : Alone S i p c.state u s') (hp : c.procs i = some p) :
    Reachable S c₀ ⟨s', Function.update c.procs i (some (.ret ()))⟩ := by
  have hmoves := h.sched hp
  generalize (⟨s', _⟩ : Config A B ι σ) = c' at hmoves ⊢
  induction hmoves with
  | refl => exact hc
  | tail _ hs ih => exact ih.step hs

/-! ## Programs that may fail -/

/-- A program that may fail, run alone, returns `x`. -/
abbrev Returns (S : System A B ι σ) (i : ι) (p : Async A B ε α) (s : σ) (x : α) (s' : σ) : Prop :=
  Alone S i p.run s (.ok x) s'

theorem returns_pure {x y : α} {s s' : σ} :
    Returns S i (pure x : Async A B ε α) s y s' ↔ x = y ∧ s = s' := by
  show (Except.ok x : Except ε α) = .ok y ∧ s = s' ↔ _
  rw [Except.ok.injEq]

theorem not_returns_throw {e : ε} {y : α} {s s' : σ} :
    ¬ Returns S i (throw e : Async A B ε α) s y s' := fun h => nomatch h.1

/-- A sequence that returns has run its first part to a result. -/
theorem Returns.of_bind {p : Async A B ε α} {f : α → Async A B ε β} {s s' : σ} {y : β}
    (h : Returns S i (p >>= f) s y s') :
    ∃ x s₁, Returns S i p s x s₁ ∧ Returns S i (f x) s₁ y s' := by
  obtain ⟨r, s₁, hp, hf⟩ := alone_bind.1 h
  cases r with
  | ok x => exact ⟨x, s₁, hp, hf⟩
  | error e => exact (not_returns_throw hf).elim

/-- A sequence returns what its second part returns. -/
theorem Returns.bind {p : Async A B ε α} {f : α → Async A B ε β} {s s₁ s' : σ} {x : α} {y : β}
    (hp : Returns S i p s x s₁) (hf : Returns S i (f x) s₁ y s') :
    Returns S i (p >>= f) s y s' :=
  alone_bind.2 ⟨.ok x, s₁, hp, hf⟩

/-- The first action of a program that returns. -/
theorem Returns.of_act {a : A} {f : B a → Async A B ε β} {s s' : σ} {y : β}
    (h : Returns S i (ExceptT.lift (Prog.perform a) >>= f) s y s') :
    ∃ b s₁, S.step i a s b s₁ ∧ Returns S i (f b) s₁ y s' := h

end Concurrent
