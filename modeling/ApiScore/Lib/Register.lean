import Mathlib.Algebra.BigOperators.Group.List.Basic
import Mathlib.Algebra.Order.Ring.Int
import Mathlib.Data.List.Nodup

/-!
# Registers

A register is a list of records, each under a key of its own.  Records are added at its end; those
that are there may evolve, but they stay where they are, and keep their keys.

* `Grows` — one register after another; a preorder where evolution is one.
* `Grows.find?` — what a key finds is still there, evolved.
* `sum_rewrite` — a sum over the records, when one of them is rewritten.
-/

set_option autoImplicit false

namespace Register

variable {α κ : Type}

/-- The records of a register, each evolved by `R`, and others after them. -/
inductive Grows (R : α → α → Prop) : List α → List α → Prop
  | added (l : List α) : Grows R [] l
  | kept {a b : α} {l l' : List α} (hab : R a b) (h : Grows R l l') : Grows R (a :: l) (b :: l')

section Grows

variable {R : α → α → Prop} {l l' l'' : List α} {a : α}

theorem Grows.append (hR : ∀ a, R a a) (l added : List α) : Grows R l (l ++ added) := by
  induction l with
  | nil => exact .added added
  | cons a l ih => exact .kept (hR a) ih

theorem Grows.refl (hR : ∀ a, R a a) (l : List α) : Grows R l l := by
  have h := Grows.append hR l []
  rwa [List.append_nil] at h

theorem Grows.map {f : α → α} (hf : ∀ a ∈ l, R a (f a)) : Grows R l (l.map f) := by
  induction l with
  | nil => exact .added []
  | cons a l ih =>
    exact .kept (hf a List.mem_cons_self) (ih fun x hx => hf x (List.mem_cons_of_mem a hx))

theorem Grows.trans (hR : ∀ a b c, R a b → R b c → R a c) (h : Grows R l l') (h' : Grows R l' l'') :
    Grows R l l'' := by
  induction h generalizing l'' with
  | added _ => exact .added l''
  | kept hab _ ih =>
    cases h' with
    | kept hbc hrest => exact .kept (hR _ _ _ hab hbc) (ih hrest)

/-- **What a key finds is still there, evolved.** -/
theorem Grows.find? {p : α → Bool} (hp : ∀ a b, R a b → p b = p a) (h : Grows R l l')
    (ha : l.find? p = some a) : ∃ b, l'.find? p = some b ∧ R a b := by
  induction h with
  | added _ => cases ha
  | @kept x y l l' hxy _ ih =>
    rw [List.find?_cons] at ha
    rw [List.find?_cons, hp x y hxy]
    cases hx : p x with
    | true =>
      rw [hx] at ha
      exact ⟨y, rfl, Option.some.inj ha ▸ hxy⟩
    | false =>
      rw [hx] at ha
      exact ih ha

end Grows

/-! ## One record, rewritten -/

section Rewrite

variable [DecidableEq κ] {key : α → κ} {l : List α} {a : α} {f : α → α}

/-- The record under a key, rewritten in place. -/
def rewrite (key : α → κ) (k : κ) (f : α → α) (l : List α) : List α :=
  l.map fun x => if key x = k then f x else x

theorem mem_rewrite {k : κ} {b : α} (h : b ∈ rewrite key k f l) :
    b ∈ l ∨ ∃ x ∈ l, key x = k ∧ b = f x := by
  obtain ⟨x, hx, rfl⟩ := List.mem_map.1 h
  split_ifs with hk
  · exact .inr ⟨x, hx, hk, rfl⟩
  · exact .inl hx

/-- What the rewriting keeps of every record. -/
theorem map_rewrite {β : Type} {g : α → β} {k : κ} (hf : ∀ x, g (f x) = g x) :
    (rewrite key k f l).map g = l.map g := by
  rw [rewrite, List.map_map]
  refine List.map_congr_left fun x _ => ?_
  rw [Function.comp_apply, apply_ite g, hf, ite_self]

theorem rewrite_of_forall {k : κ} (h : ∀ x ∈ l, key x ≠ k) : rewrite key k f l = l :=
  (List.map_congr_left fun x hx => if_neg (h x hx)).trans (List.map_id' l)

/-- **A sum over the records changes by what it changes of the one that is rewritten.** -/
theorem sum_rewrite {g : α → Int} (hl : (l.map key).Nodup) (ha : a ∈ l) :
    ((rewrite key (key a) f l).map g).sum = (l.map g).sum + (g (f a) - g a) := by
  induction l with
  | nil => cases ha
  | cons x l ih =>
    rw [List.map_cons, List.nodup_cons] at hl
    show (((if key x = key a then f x else x) :: rewrite key (key a) f l).map g).sum = _
    rw [List.map_cons, List.sum_cons, List.map_cons, List.sum_cons]
    rcases List.mem_cons.1 ha with rfl | ha
    · have hrest : ∀ y ∈ l, key y ≠ key a := fun y hy he => hl.1 (he ▸ List.mem_map_of_mem hy)
      rw [if_pos rfl, rewrite_of_forall hrest]
      omega
    · have hne : key x ≠ key a := fun he => hl.1 (he ▸ List.mem_map_of_mem ha)
      rw [if_neg hne, ih hl.2 ha]
      omega

end Rewrite

end Register
