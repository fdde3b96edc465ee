import ApiScore.Lib.Sorting

/-!
# Elements inserted in a list

`Inserts p l l'` says that `l'` is `l` with more elements in it, anywhere, all of which `p` holds of:
also that `l` is `l'` with some of those removed.

* `Inserts.filter`, `Inserts.countP` — selecting and counting what cannot be inserted.
* `Inserts.sort` — a stable sort keeps it.
-/

set_option autoImplicit false

namespace Ranked

open Std

variable {α : Type}

/-- `l'` is `l` with elements of `p` inserted. -/
inductive Inserts (p : α → Prop) : List α → List α → Prop
  | nil : Inserts p [] []
  | keep (a : α) {l l' : List α} (h : Inserts p l l') : Inserts p (a :: l) (a :: l')
  | insert {a : α} (ha : p a) {l l' : List α} (h : Inserts p l l') : Inserts p l (a :: l')

variable {p : α → Prop} {l l' : List α}

theorem Inserts.refl (p : α → Prop) (l : List α) : Inserts p l l := by
  induction l with
  | nil => exact .nil
  | cons a l ih => exact .keep a ih

/-- What is not selected is inserted in what is. -/
theorem Inserts.of_filter (q : α → Bool) (l : List α) :
    Inserts (fun a => q a = false) (l.filter q) l := by
  induction l with
  | nil => exact .nil
  | cons a l ih =>
    cases hq : q a with
    | true =>
      rw [List.filter_cons_of_pos hq]
      exact .keep a ih
    | false =>
      rw [List.filter_cons_of_neg (by simp [hq])]
      exact .insert (p := fun a => q a = false) hq ih

/-- Nothing that `p` does not hold of is inserted. -/
theorem Inserts.filter {q : α → Bool} (hq : ∀ a, p a → q a = false) (h : Inserts p l l') :
    l'.filter q = l.filter q := by
  induction h with
  | nil => rfl
  | keep a h ih => simp only [List.filter_cons, ih]
  | insert ha h ih => rw [List.filter_cons_of_neg (by simp [hq _ ha]), ih]

theorem Inserts.countP {q : α → Bool} (hq : ∀ a, p a → q a = false) (h : Inserts p l l') :
    l'.countP q = l.countP q := by
  rw [List.countP_eq_length_filter, List.countP_eq_length_filter, h.filter hq]

theorem Inserts.append {m m' : List α} (h : Inserts p l l') (hm : Inserts p m m') :
    Inserts p (l ++ m) (l' ++ m') := by
  induction h with
  | nil => exact hm
  | keep a h ih => exact .keep a ih
  | insert ha h ih => exact .insert ha ih

theorem Inserts.concat {a : α} (h : Inserts p l l') (ha : p a) : Inserts p l (l' ++ [a]) := by
  have happend := h.append (.insert ha .nil)
  rwa [List.append_nil] at happend

theorem Inserts.mem {a : α} (h : Inserts p l l') (ha : a ∈ l) : a ∈ l' := by
  induction h with
  | nil => exact ha
  | keep b h ih =>
    rcases List.mem_cons.1 ha with rfl | ha
    · exact List.mem_cons_self
    · exact List.mem_cons_of_mem b (ih ha)
  | insert hb h ih => exact List.mem_cons_of_mem _ (ih ha)

section Stable

variable {cmp : α → α → Ordering}

/-- An element that is not after any of the list is put in front of it. -/
theorem orderedInsert_of_first {a : α} (h : ∀ b ∈ l, (cmp a b).isLE = true) :
    l.orderedInsert (fun a b => (cmp a b).isLE = true) a = a :: l := by
  cases l with
  | nil => rfl
  | cons b l => exact if_pos (h b List.mem_cons_self)

theorem Inserts.orderedInsert_keep [TransCmp cmp] (a : α) (h : Inserts p l l')
    (hsorted : l'.Pairwise fun a b => (cmp a b).isLE = true) :
    Inserts p (l.orderedInsert (fun a b => (cmp a b).isLE = true) a)
      (l'.orderedInsert (fun a b => (cmp a b).isLE = true) a) := by
  induction h with
  | nil => exact .refl p _
  | @keep b l l' h ih =>
    simp only [List.orderedInsert_cons]
    split
    · exact .keep a (.keep b h)
    · exact .keep b (ih (List.pairwise_cons.1 hsorted).2)
  | @insert b hb l l' h ih =>
    obtain ⟨hfirst, hrest⟩ := List.pairwise_cons.1 hsorted
    rw [List.orderedInsert_cons]
    split
    · next hle =>
      -- what comes after `b` comes after `a` too
      rw [orderedInsert_of_first fun c hc => TransCmp.isLE_trans hle (hfirst c (h.mem hc))]
      exact .keep a (.insert hb h)
    · exact .insert hb (ih hrest)

theorem Inserts.orderedInsert_insert {a : α} (ha : p a) (h : Inserts p l l') :
    Inserts p l (l'.orderedInsert (fun a b => (cmp a b).isLE = true) a) := by
  induction h with
  | nil => exact .insert ha .nil
  | @keep b l l' h ih =>
    rw [List.orderedInsert_cons]
    split
    · exact .insert ha (.keep b h)
    · exact .keep b ih
  | @insert b hb l l' h ih =>
    rw [List.orderedInsert_cons]
    split
    · exact .insert ha (.insert hb h)
    · exact .insert hb ih

/-- **A stable sort keeps what was inserted apart from the rest.** -/
theorem Inserts.sort [TransCmp cmp] (h : Inserts p l l') : Inserts p (sort cmp l) (sort cmp l') := by
  induction h with
  | nil => exact .nil
  | @keep a l l' h ih => exact ih.orderedInsert_keep a (pairwise_sort cmp l')
  | insert ha h ih => exact ih.orderedInsert_insert ha

end Stable

end Ranked
