import Mathlib.Algebra.Order.BigOperators.Group.List
import Mathlib.Algebra.Order.Ring.Nat
import Mathlib.Data.List.Perm.Basic

/-!
# Equal counts

Two ways to give a value to some of the keys of a list, one of which gives more keys a value, and
none a greater one.  As soon as they give each value as often, they give every key the same.

* `forall_eq_of_sum_le` — terms that are not greater, with a sum that is not smaller.
* `forall_eq_of_perm` — the same values, as often, are the same value for every key.
-/

set_option autoImplicit false

namespace Counting

variable {κ σ : Type}

/-- **Terms that are not greater, with a sum that is not smaller, are equal.** -/
theorem forall_eq_of_sum_le {f g : κ → Nat} {ks : List κ} (hle : ∀ k ∈ ks, f k ≤ g k)
    (hsum : (ks.map g).sum ≤ (ks.map f).sum) : ∀ k ∈ ks, f k = g k := by
  induction ks with
  | nil => exact fun _ hk => absurd hk List.not_mem_nil
  | cons k ks ih =>
    rw [List.forall_mem_cons] at hle ⊢
    rw [List.map_cons, List.map_cons, List.sum_cons, List.sum_cons] at hsum
    have htail : (ks.map f).sum ≤ (ks.map g).sum := List.sum_le_sum hle.2
    have hhead := hle.1
    exact ⟨by omega, ih hle.2 (by omega)⟩

/-- What the values weigh, key by key. -/
theorem sum_filterMap (v : κ → Option σ) (weight : σ → Nat) (ks : List κ) :
    ((ks.filterMap v).map weight).sum = (ks.map fun k => ((v k).map weight).getD 0).sum := by
  induction ks with
  | nil => rfl
  | cons k ks ih =>
    rw [List.map_cons, List.sum_cons, ← ih, List.filterMap_cons]
    cases v k with
    | none => exact (Nat.zero_add _).symm
    | some s => rfl

/-- **The same values, as often, are the same value for every key**: what `v` gives a value, `u` gives
one that ranks no higher. -/
theorem forall_eq_of_perm {v u : κ → Option σ} {rank : σ → Nat} {ks : List κ}
    (hrank : ∀ s s', rank s = rank s' → s = s')
    (hle : ∀ k ∈ ks, ∀ s, v k = some s → ∃ s', u k = some s' ∧ rank s' ≤ rank s)
    (hperm : (ks.filterMap v).Perm (ks.filterMap u)) : ∀ k ∈ ks, v k = u k := by
  have hweigh (weight : σ → Nat) : (ks.map fun k => ((v k).map weight).getD 0).sum =
      (ks.map fun k => ((u k).map weight).getD 0).sum := by
    rw [← sum_filterMap, ← sum_filterMap, (hperm.map weight).sum_eq]
  -- first which keys have a value, then which one
  have hsome : ∀ k ∈ ks, ((v k).map fun _ => 1).getD 0 = ((u k).map fun _ => 1).getD 0 := by
    refine forall_eq_of_sum_le (fun k hk => ?_) (hweigh fun _ => 1).ge
    cases hv : v k with
    | none => exact Nat.zero_le _
    | some s =>
      obtain ⟨s', hu, -⟩ := hle k hk s hv
      rw [hu]
      exact le_rfl
  have hsame : ∀ k ∈ ks, ((u k).map rank).getD 0 = ((v k).map rank).getD 0 := by
    refine forall_eq_of_sum_le (fun k hk => ?_) (hweigh rank).le
    cases hv : v k with
    | none =>
      have hnone := hsome k hk
      rw [hv] at hnone
      cases hu : u k with
      | none => exact le_rfl
      | some s' =>
        rw [hu] at hnone
        cases hnone
    | some s =>
      obtain ⟨s', hu, hrank'⟩ := hle k hk s hv
      rw [hu]
      exact hrank'
  intro k hk
  have hsome := hsome k hk
  have hsame := hsame k hk
  cases hv : v k with
  | none =>
    cases hu : u k with
    | none => rfl
    | some s' =>
      rw [hv, hu] at hsome
      cases hsome
  | some s =>
    obtain ⟨s', hu, -⟩ := hle k hk s hv
    rw [hv, hu] at hsame
    rw [hu, hrank s s' hsame.symm]

end Counting
