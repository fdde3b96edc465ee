import Mathlib.Data.List.Sort

/-!
# Sorting by a comparison

A list sorted by a function that compares two elements, as `sort(compare)` does: the sort is stable,
so elements that compare equal keep the order they came in.  Where no two different elements compare
equal, that order does not matter.

* `sort_eq_of_perm` — the order of the rows does not matter to what is sorted.
* `filter_sort` — sorting and selecting commute.
* `map_sort` — what is sorted by a key has its keys sorted.
* `head?_sort_eq_some` — the first of the sorted list, without sorting it.
* `find?_sort_spec`, `find?_sort_cons` — the first one that is selected.
-/

set_option autoImplicit false

namespace Ranked

open Std

variable {α β : Type}

/-- To compare two elements by what `f` says of them. -/
def comparing (cmp : β → β → Ordering) (f : α → β) (a b : α) : Ordering := cmp (f a) (f b)

instance {cmp : β → β → Ordering} [TransCmp cmp] {f : α → β} : TransCmp (comparing cmp f) where
  eq_swap := @fun a b => @OrientedCmp.eq_swap _ cmp _ (f a) (f b)
  isLE_trans := @fun a b c => @TransCmp.isLE_trans _ cmp _ (f a) (f b) (f c)

/-- What is not after by two comparisons is not after by the first. -/
theorem isLE_of_compareLex {cmp₁ cmp₂ : α → α → Ordering} {a b : α}
    (h : (compareLex cmp₁ cmp₂ a b).isLE = true) : (cmp₁ a b).isLE = true := by
  unfold compareLex at h
  revert h
  cases cmp₁ a b <;> simp

/-- The list sorted by `cmp`, stably. -/
def sort (cmp : α → α → Ordering) (l : List α) : List α :=
  l.insertionSort fun a b => (cmp a b).isLE = true

/-- No two different elements of the list compare equal. -/
def Separates (cmp : α → α → Ordering) (l : List α) : Prop :=
  ∀ a ∈ l, ∀ b ∈ l, cmp a b = .eq → a = b

variable {cmp : α → α → Ordering} {l l' : List α}

theorem Separates.subset (h : Separates cmp l) (hsub : ∀ a ∈ l', a ∈ l) : Separates cmp l' :=
  fun a ha b hb => h a (hsub a ha) b (hsub b hb)

theorem perm_sort (cmp : α → α → Ordering) (l : List α) : (sort cmp l).Perm l :=
  List.perm_insertionSort _ l

@[simp] theorem mem_sort {a : α} : a ∈ sort cmp l ↔ a ∈ l := (perm_sort cmp l).mem_iff

/-- **To sort by what `f` says sorts what it says.** -/
theorem map_sort (cmp : β → β → Ordering) (f : α → β) (l : List α) :
    (sort (comparing cmp f) l).map f = sort cmp (l.map f) :=
  List.map_insertionSort _ _ f l fun _ _ _ _ => Iff.rfl

theorem head?_sort_eq_none : (sort cmp l).head? = none ↔ l = [] := by
  rw [List.head?_eq_none_iff]
  constructor
  · intro h
    have hperm := perm_sort cmp l
    rw [h] at hperm
    exact List.nil_perm.1 hperm
  · rintro rfl
    rfl

section Sorted

variable [TransCmp cmp]

theorem isLE_or_isLE (a b : α) : (cmp a b).isLE = true ∨ (cmp b a).isLE = true := by
  rw [@OrientedCmp.eq_swap _ cmp _ b _, Ordering.isLE_swap]
  cases cmp a b <;> simp

theorem pairwise_sort (cmp : α → α → Ordering) [TransCmp cmp] (l : List α) :
    (sort cmp l).Pairwise fun a b => (cmp a b).isLE = true := by
  have : Std.Total fun a b : α => (cmp a b).isLE = true := ⟨isLE_or_isLE⟩
  have : IsTrans α fun a b : α => (cmp a b).isLE = true :=
    ⟨fun _ _ _ hab hbc => TransCmp.isLE_trans hab hbc⟩
  exact List.pairwise_insertionSort _ l

/-- Two elements that are not after each other are the same one. -/
theorem Separates.eq_of_isLE (hsep : Separates cmp l) {a b : α} (ha : a ∈ l) (hb : b ∈ l)
    (hab : (cmp a b).isLE = true) (hba : (cmp b a).isLE = true) : a = b :=
  hsep a ha b hb (OrientedCmp.isLE_antisymm hab hba)

/-- Two sorted lists of the same elements are the same list. -/
theorem eq_of_sorted (hsep : Separates cmp l) (h : l.Perm l')
    (hl : l.Pairwise fun a b => (cmp a b).isLE = true)
    (hl' : l'.Pairwise fun a b => (cmp a b).isLE = true) : l = l' :=
  h.eq_of_pairwise (fun _ _ ha hb hab hba => hsep.eq_of_isLE ha (h.mem_iff.2 hb) hab hba) hl hl'

/-- **The order in which the elements come does not matter.** -/
theorem sort_eq_of_perm (hsep : Separates cmp l) (h : l.Perm l') : sort cmp l = sort cmp l' := by
  refine eq_of_sorted (hsep.subset fun a ha => mem_sort.1 ha) ?_ (pairwise_sort cmp l)
    (pairwise_sort cmp l')
  exact (perm_sort cmp l).trans (h.trans (perm_sort cmp l').symm)

/-- **Sorting and selecting commute.** -/
theorem filter_sort (hsep : Separates cmp l) (p : α → Bool) :
    (sort cmp l).filter p = sort cmp (l.filter p) := by
  refine eq_of_sorted (hsep.subset fun a ha => ?_) ?_ ((pairwise_sort cmp l).filter p)
    (pairwise_sort cmp _)
  · exact mem_sort.1 (List.mem_of_mem_filter ha)
  · exact ((perm_sort cmp l).filter p).trans (perm_sort cmp _).symm

/-- A list in which what `p` holds of comes first falls in two parts. -/
theorem eq_filter_append {p : α → Bool} (h : l.Pairwise fun a b => p b = true → p a = true) :
    l = l.filter p ++ l.filter fun a => !p a := by
  induction l with
  | nil => rfl
  | cons a l ih =>
    rw [List.pairwise_cons] at h
    cases hp : p a with
    | true =>
      rw [List.filter_cons_of_pos hp, List.filter_cons_of_neg (by simp [hp]), List.cons_append,
        ← ih h.2]
    | false =>
      have hnone : l.filter p = [] := by
        refine List.filter_eq_nil_iff.2 fun b hb hpb => ?_
        rw [h.1 b hb hpb] at hp
        cases hp
      have hall : l.filter (fun a => !p a) = l := by
        refine List.filter_eq_self.2 fun b hb => ?_
        rw [List.filter_eq_nil_iff] at hnone
        simpa using hnone b hb
      rw [List.filter_cons_of_neg (by simp [hp]), List.filter_cons_of_pos (by simp [hp]), hnone, hall,
        List.nil_append]

/-- **A sorted list is its first part, sorted, and the rest.** -/
theorem sort_eq_append (hsep : Separates cmp l) {p : α → Bool}
    (h : ∀ a b, (cmp a b).isLE = true → p b = true → p a = true) :
    sort cmp l = sort cmp (l.filter p) ++ (sort cmp l).filter fun a => !p a := by
  rw [← filter_sort hsep]
  exact eq_filter_append ((pairwise_sort cmp l).imp fun hab => h _ _ hab)

/-! ## The first of a sorted list -/

/-- The first of the sorted list is one of the elements, and none is before it. -/
theorem head?_sort_spec {a : α} (h : (sort cmp l).head? = some a) :
    a ∈ l ∧ ∀ b ∈ l, (cmp a b).isLE = true := by
  have hsorted := pairwise_sort cmp l
  cases hl : sort cmp l with
  | nil =>
    rw [hl] at h
    cases h
  | cons x rest =>
    rw [hl, List.head?_cons, Option.some.injEq] at h
    subst h
    have hmem : ∀ b ∈ l, b = x ∨ b ∈ rest := by
      intro b hb
      rw [← @mem_sort _ cmp, hl, List.mem_cons] at hb
      exact hb
    refine ⟨mem_sort.1 (hl ▸ List.mem_cons_self), fun b hb => ?_⟩
    rw [hl, List.pairwise_cons] at hsorted
    rcases hmem b hb with rfl | hrest
    · rw [@ReflCmp.compare_self _ cmp]
      rfl
    · exact hsorted.1 b hrest

/-- **The first of a sorted list is the element that no other one is before.** -/
theorem head?_sort_eq_some (hsep : Separates cmp l) {a : α} :
    (sort cmp l).head? = some a ↔ a ∈ l ∧ ∀ b ∈ l, (cmp a b).isLE = true := by
  refine ⟨head?_sort_spec, fun ⟨ha, hfirst⟩ => ?_⟩
  cases h : (sort cmp l).head? with
  | none =>
    rw [head?_sort_eq_none.1 h] at ha
    cases ha
  | some x =>
    obtain ⟨hx, hle⟩ := head?_sort_spec h
    rw [hsep.eq_of_isLE hx ha (hle a ha) (hfirst x hx)]

/-- No selected element is before the first selected one. -/
theorem find?_sort_spec {p : α → Bool} {a : α} (h : (sort cmp l).find? p = some a) :
    a ∈ l ∧ p a = true ∧ ∀ b ∈ l, p b = true → (cmp a b).isLE = true := by
  refine ⟨mem_sort.1 (List.mem_of_find?_eq_some h), List.find?_some h, fun b hb hpb => ?_⟩
  rw [← List.head?_filter] at h
  have hmem : b ∈ (sort cmp l).filter p := List.mem_filter.2 ⟨mem_sort.2 hb, hpb⟩
  have hsorted := (pairwise_sort cmp l).filter p
  cases hl : (sort cmp l).filter p with
  | nil =>
    rw [hl] at hmem
    cases hmem
  | cons x rest =>
    rw [hl, List.head?_cons, Option.some.injEq] at h
    subst h
    rw [hl] at hmem hsorted
    rcases List.mem_cons.1 hmem with rfl | hrest
    · rw [@ReflCmp.compare_self _ cmp]
      rfl
    · exact (List.pairwise_cons.1 hsorted).1 b hrest

end Sorted

/-- **A selected element that no other one is before comes first where it was first before the
sort.** -/
theorem find?_sort_cons {p : α → Bool} {a : α} (ha : p a = true)
    (h : ∀ b ∈ l, p b = true → (cmp a b).isLE = true) : (sort cmp (a :: l)).find? p = some a := by
  have hinsert (m : List α) (hm : ∀ b ∈ m, p b = true → (cmp a b).isLE = true) :
      (m.orderedInsert (fun a b => (cmp a b).isLE = true) a).find? p = some a := by
    induction m with
    | nil => exact List.find?_cons_of_pos ha
    | cons b m ih =>
      rw [List.orderedInsert_cons]
      split
      · exact List.find?_cons_of_pos ha
      · next hlt =>
        have hpb : ¬ p b = true := fun hpb => hlt (hm b List.mem_cons_self hpb)
        rw [List.find?_cons_of_neg hpb]
        exact ih fun c hc => hm c (List.mem_cons_of_mem b hc)
  exact hinsert (sort cmp l) fun b hb => h b (mem_sort.1 hb)

end Ranked
