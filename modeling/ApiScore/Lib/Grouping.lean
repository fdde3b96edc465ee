import Mathlib.Data.List.Nodup
import Mathlib.Data.List.Perm.Basic

/-!
# Grouping by a key

A list put in a map from keys to lists, as a program does that pushes each element to the list of its
key: the groups come in the order in which their keys first occur, and each keeps the order of the
list.

* `mem_groupBy` — the groups there are.
* `perm_flatMap_groupBy` — grouping loses nothing and repeats nothing.
* `groupBy_append` — what a longer list adds.
-/

set_option autoImplicit false

namespace Grouping

variable {α κ : Type} [BEq κ] [LawfulBEq κ]

/-- The groups, each with its key. -/
def groupBy (key : α → κ) (l : List α) : List (κ × List α) :=
  (l.map key).eraseDups.map fun k => (k, l.filter fun a => key a == k)

variable {key : α → κ} {l l' : List α}

theorem nodup_eraseDups : ∀ (ks : List κ), ks.eraseDups.Nodup
  | [] => List.nodup_nil
  | k :: ks => by
    rw [List.eraseDups_cons, List.nodup_cons]
    refine ⟨fun h => ?_, nodup_eraseDups _⟩
    have hne := List.of_mem_filter (List.mem_eraseDups.1 h)
    simp at hne
termination_by ks => ks.length
decreasing_by exact Nat.lt_succ_of_le (List.length_filter_le _ _)

theorem mem_groupBy {k : κ} {as : List α} :
    (k, as) ∈ groupBy key l ↔ (∃ a ∈ l, key a = k) ∧ as = l.filter fun a => key a == k := by
  simp only [groupBy, List.mem_map, List.mem_eraseDups, Prod.mk.injEq]
  constructor
  · rintro ⟨_, ⟨a, ha, rfl⟩, rfl, rfl⟩
    exact ⟨⟨a, ha, rfl⟩, rfl⟩
  · rintro ⟨⟨a, ha, rfl⟩, rfl⟩
    exact ⟨_, ⟨a, ha, rfl⟩, rfl, rfl⟩

/-- Every element is in the group of its key, once for each key. -/
theorem perm_flatMap_filter : ∀ {ks : List κ}, ks.Nodup →
    (ks.flatMap fun k => l.filter fun a => key a == k).Perm (l.filter fun a => ks.contains (key a))
  | [], _ => by simp
  | k :: ks, h => by
    rw [List.nodup_cons] at h
    rw [List.flatMap_cons]
    refine ((perm_flatMap_filter h.2).append_left _).trans ?_
    have hsplit := List.filter_append_perm (fun a => key a == k)
      (l.filter fun a => (k :: ks).contains (key a))
    rw [List.filter_filter, List.filter_filter] at hsplit
    refine .trans (.of_eq ?_) hsplit
    congr 1 <;> refine List.filter_congr fun a _ => ?_
    · by_cases hk : key a = k
      · simp [hk]
      · simp [hk]
    · by_cases hk : key a = k
      · have hnot : ks.contains k = false := by simpa using h.1
        rw [hk, hnot]
        simp
      · simp [hk]

/-- **Grouping loses nothing and repeats nothing.** -/
theorem perm_flatMap_groupBy (key : α → κ) (l : List α) :
    ((groupBy key l).flatMap fun group => group.2).Perm l := by
  rw [groupBy, List.flatMap_map]
  refine (perm_flatMap_filter (nodup_eraseDups _)).trans (.of_eq ?_)
  refine List.filter_eq_self.2 fun a ha => ?_
  rw [List.contains_iff_mem, List.mem_eraseDups]
  exact List.mem_map_of_mem ha

/-- **A longer list extends the groups there are, and adds new ones after them.** -/
theorem groupBy_append (key : α → κ) (l l' : List α) :
    groupBy key (l ++ l') =
      ((groupBy key l).map fun group =>
        (group.1, group.2 ++ l'.filter fun a => key a == group.1)) ++
      groupBy key (l'.filter fun a => !(l.map key).contains (key a)) := by
  have hkeys : ((l'.map key).removeAll (l.map key)) =
      (l'.filter fun a => !(l.map key).contains (key a)).map key := by
    rw [List.removeAll, List.filter_map]
    rfl
  rw [groupBy, List.map_append, List.eraseDups_append, List.map_append, hkeys]
  congr 1
  · rw [groupBy, List.map_map]
    exact List.map_congr_left fun k _ => by rw [List.filter_append]; rfl
  · rw [groupBy]
    refine List.map_congr_left fun k hk => ?_
    rw [List.mem_eraseDups, List.mem_map] at hk
    obtain ⟨a, ha, rfl⟩ := hk
    have hnew := List.of_mem_filter ha
    have hnone : (l.filter fun b => key b == key a) = [] := by
      refine List.filter_eq_nil_iff.2 fun b hb hkey => ?_
      rw [Bool.not_eq_true', List.contains_eq_mem, decide_eq_false_iff_not] at hnew
      rw [beq_iff_eq] at hkey
      exact hnew (hkey ▸ List.mem_map_of_mem hb)
    rw [List.filter_append, hnone, List.nil_append, List.filter_filter]
    congr 1
    refine List.filter_congr fun b _ => ?_
    by_cases hkey : key b = key a
    · rw [hkey, hnew, Bool.and_true]
    · simp [hkey]

end Grouping
