import Mathlib.Data.List.Basic

/-!
# Computations that may fail

`Except ε` as the monad of a computation that stops at its first failure.

* `Succeeds` — the computation returns.
* `succeeds_bind_iff` — a sequence succeeds if its parts do.
* `succeeds_mapM_iff`, `succeeds_foldlM_iff` — a loop succeeds if every one of its steps does.
* `mapM_of_ok`, `foldlM_of_ok` — a loop whose steps return what a function gives is that function's
  loop.
-/

set_option autoImplicit false

namespace Fallible

variable {ε α β : Type}

/-- The computation returns. -/
def Succeeds (x : Except ε α) : Prop := ∃ a, x = .ok a

theorem Succeeds.ok (a : α) : Succeeds (.ok a : Except ε α) := ⟨a, rfl⟩

@[simp] theorem ok_bind {a : α} {f : α → Except ε β} : (.ok a : Except ε α) >>= f = f a := rfl

@[simp] theorem succeeds_pure {a : α} : Succeeds (pure a : Except ε α) := ⟨a, rfl⟩

/-- The value that there is, or else a failure. -/
theorem elim_eq_ok {o : Option α} {e : ε} {a : α} :
    o.elim (Except.error e) .ok = .ok a ↔ o = some a := by
  cases o with
  | none => exact ⟨fun h => (nomatch h), fun h => (nomatch h)⟩
  | some b => rw [Option.elim_some, Except.ok.injEq, Option.some.injEq]

theorem not_succeeds_error {e : ε} : ¬ Succeeds (.error e : Except ε α) := fun ⟨_, h⟩ => nomatch h

/-- A sequence succeeds if its first part does, and then its second part on the result. -/
theorem succeeds_bind_iff {x : Except ε α} {f : α → Except ε β} :
    Succeeds (x >>= f) ↔ ∃ a, x = .ok a ∧ Succeeds (f a) := by
  cases x with
  | error e => exact ⟨fun h => (not_succeeds_error h).elim, fun ⟨_, h, _⟩ => nomatch h⟩
  | ok a =>
    constructor
    · intro h
      exact ⟨a, rfl, h⟩
    · rintro ⟨a', h, hf⟩
      cases h
      exact hf

/-- Whatever the first part returns, the second one succeeds under the same condition. -/
theorem succeeds_bind_of_forall {x : Except ε α} {f : α → Except ε β} {P : Prop}
    (hf : ∀ a, x = .ok a → (Succeeds (f a) ↔ P)) : Succeeds (x >>= f) ↔ Succeeds x ∧ P := by
  rw [succeeds_bind_iff]
  constructor
  · rintro ⟨a, hx, h⟩
    exact ⟨⟨a, hx⟩, (hf a hx).1 h⟩
  · rintro ⟨⟨a, hx⟩, h⟩
    exact ⟨a, hx, (hf a hx).2 h⟩

/-- What a computation that succeeds goes on with changes nothing. -/
@[simp] theorem succeeds_map_iff {x : Except ε α} {f : α → β} :
    Succeeds (x >>= fun a => pure (f a)) ↔ Succeeds x := by
  rw [succeeds_bind_of_forall fun _ _ => iff_of_true succeeds_pure trivial, and_true]

/-- **A loop over a list succeeds if it does on every element.** -/
theorem succeeds_mapM_iff {f : α → Except ε β} {l : List α} :
    Succeeds (l.mapM f) ↔ ∀ a ∈ l, Succeeds (f a) := by
  induction l with
  | nil => exact iff_of_true succeeds_pure (List.forall_mem_nil _)
  | cons a l ih =>
    rw [List.mapM_cons, List.forall_mem_cons, ← ih]
    exact succeeds_bind_of_forall fun b _ => succeeds_map_iff

/-- **A loop that carries a state succeeds if every step does**, where whether it does so is not up to
the state. -/
theorem succeeds_foldlM_iff {f : β → α → Except ε β} {P : α → Prop} {l : List α}
    (hf : ∀ b, ∀ a ∈ l, (Succeeds (f b a) ↔ P a)) (b : β) :
    Succeeds (l.foldlM f b) ↔ ∀ a ∈ l, P a := by
  induction l generalizing b with
  | nil => exact iff_of_true succeeds_pure (List.forall_mem_nil _)
  | cons a l ih =>
    rw [List.foldlM_cons, List.forall_mem_cons, ← hf b a List.mem_cons_self]
    exact succeeds_bind_of_forall fun b' _ => ih (fun b a ha => hf b a (List.mem_cons_of_mem _ ha)) b'

theorem mapM_of_ok {f : α → Except ε β} {g : α → β} {l : List α} (h : ∀ a ∈ l, f a = .ok (g a)) :
    l.mapM f = .ok (l.map g) := by
  induction l with
  | nil => rfl
  | cons a l ih =>
    rw [List.mapM_cons, h a List.mem_cons_self, ih fun a ha => h a (List.mem_cons_of_mem _ ha)]
    rfl

theorem foldlM_of_ok {f : β → α → Except ε β} {g : β → α → β} {l : List α}
    (h : ∀ b, ∀ a ∈ l, f b a = .ok (g b a)) (b : β) : l.foldlM f b = .ok (l.foldl g b) := by
  induction l generalizing b with
  | nil => rfl
  | cons a l ih =>
    rw [List.foldlM_cons, h b a List.mem_cons_self]
    exact ih (fun b a ha => h b a (List.mem_cons_of_mem _ ha)) (g b a)

end Fallible
