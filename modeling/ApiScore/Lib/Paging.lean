import Mathlib.Data.List.Basic
import Mathlib.Tactic.Ring

/-!
# Following the pages of a list

A list is shown `limit` elements at a time.  A page ends at an element, and the next page is made of
what is *after* that element, by a test that looks at the two elements only: where it says less than
the order of the list does, what it does not admit is never shown.

* `Follows.sublist` — nothing is shown twice, or out of order.
* `exists_follows` — the pages come to an end.
* `Follows.eq_iff` — all is shown exactly when each page ends before what the test admits.
* `filter_after` — to ask for what is after an element in the whole list, or in what is left of it.
* `Serves.fetched` — a service that answers with what is after the cursor shows all.
-/

set_option autoImplicit false

namespace Paging

variable {α : Type}

/-- The pages of `l` show `shown`, one after the other. -/
inductive Follows (limit : Nat) (after : α → α → Bool) : List α → List α → Prop where
  | last {l : List α} : l.length ≤ limit → Follows limit after l l
  | next {l shown : List α} {r : α} : limit < l.length → (l.take limit).getLast? = some r →
      Follows limit after ((l.drop limit).filter (after r)) shown →
      Follows limit after l (l.take limit ++ shown)

/-- The element that ends a page is before all that is listed after that page, by the test. -/
def EndsBefore (limit : Nat) (after : α → α → Bool) (l : List α) : Prop :=
  ∀ (k i : Nat) (r s : α), l[k * limit + (limit - 1)]? = some r → l[i]? = some s →
    (k + 1) * limit ≤ i → after r s = true

variable {limit : Nat} {after : α → α → Bool} {l shown : List α}

theorem getLast?_take {r : α} (hpos : 0 < limit) (hlen : limit < l.length) :
    (l.take limit).getLast? = some r ↔ l[limit - 1]? = some r := by
  rw [List.getLast?_eq_getElem?, List.length_take_of_le hlen.le, List.getElem?_take,
    if_pos (Nat.sub_lt hpos Nat.one_pos)]

/-- **The pages come to an end.** -/
theorem exists_follows (hpos : 0 < limit) (l : List α) : ∃ shown, Follows limit after l shown := by
  induction hn : l.length using Nat.strong_induction_on generalizing l with
  | _ n ih =>
    subst hn
    by_cases hlen : l.length ≤ limit
    · exact ⟨l, .last hlen⟩
    · have hlt := Nat.lt_of_not_le hlen
      obtain ⟨r, hr⟩ : ∃ r, l[limit - 1]? = some r :=
        ⟨_, List.getElem?_eq_getElem ((Nat.sub_le _ _).trans_lt hlt)⟩
      have hshort : ((l.drop limit).filter (after r)).length < l.length := by
        have hfilter := List.length_filter_le (after r) (l.drop limit)
        have hdrop := List.length_drop (i := limit) (l := l)
        omega
      obtain ⟨shown, hfollows⟩ := ih _ hshort _ rfl
      exact ⟨_, .next hlt ((getLast?_take hpos hlt).2 hr) hfollows⟩

/-- **Nothing is shown twice, or out of order.** -/
theorem Follows.sublist (h : Follows limit after l shown) : shown.Sublist l := by
  induction h with
  | last => exact List.Sublist.refl _
  | @next l shown r _ _ _ ih =>
    have hdrop := ih.trans List.filter_sublist
    have happ := (List.Sublist.refl (l.take limit)).append hdrop
    rwa [List.take_append_drop] at happ

/-- The pages are determined by the list. -/
theorem Follows.unique {shown' : List α} (h : Follows limit after l shown)
    (h' : Follows limit after l shown') : shown = shown' := by
  induction h generalizing shown' with
  | last hlen =>
    cases h' with
    | last => rfl
    | next hlt => exact absurd hlen (Nat.not_le_of_lt hlt)
  | @next l shown r hlt hr _ ih =>
    cases h' with
    | last hlen => exact absurd hlen (Nat.not_le_of_lt hlt)
    | next _ hr' hnext =>
      cases Option.some.inj (hr.symm.trans hr')
      rw [ih hnext]

/-- The first page, and the others. -/
theorem endsBefore_iff (hpos : 0 < limit) {r : α} (hr : l[limit - 1]? = some r) :
    EndsBefore limit after l ↔
      (∀ s ∈ l.drop limit, after r s = true) ∧ EndsBefore limit after (l.drop limit) := by
  constructor
  · intro h
    refine ⟨fun s hs => ?_, fun k i r' s hr' hs hle => ?_⟩
    · obtain ⟨i, hi⟩ := List.mem_iff_getElem?.1 hs
      rw [List.getElem?_drop] at hi
      exact h 0 (limit + i) r s (by rwa [Nat.zero_mul, Nat.zero_add]) hi (by omega)
    · rw [List.getElem?_drop] at hr' hs
      have hsucc : (k + 1) * limit = k * limit + limit := Nat.succ_mul k limit
      refine h (k + 1) (limit + i) r' s ?_ hs ?_
      · rwa [hsucc, Nat.add_comm (k * limit) limit, Nat.add_assoc]
      · rw [Nat.succ_mul (k + 1) limit]
        omega
  · rintro ⟨hfirst, hothers⟩ k i r' s hr' hs hle
    cases k with
    | zero =>
      rw [Nat.zero_mul, Nat.zero_add, hr] at hr'
      cases hr'
      refine hfirst s (List.mem_iff_getElem?.2 ⟨i - limit, ?_⟩)
      rwa [List.getElem?_drop, Nat.add_sub_cancel' (by omega)]
    | succ k =>
      have hsucc : (k + 1) * limit = k * limit + limit := Nat.succ_mul k limit
      have hsucc' : (k + 1 + 1) * limit = (k + 1) * limit + limit := Nat.succ_mul (k + 1) limit
      refine hothers k (i - limit) r' s ?_ ?_ (by omega)
      · rwa [List.getElem?_drop, ← Nat.add_assoc, Nat.add_comm limit, ← hsucc]
      · rwa [List.getElem?_drop, Nat.add_sub_cancel' (by omega)]

/-- **All is shown exactly when each page ends before what the test admits.** -/
theorem Follows.eq_iff (hpos : 0 < limit) (h : Follows limit after l shown) :
    shown = l ↔ EndsBefore limit after l := by
  induction h with
  | last hlen =>
    refine iff_of_true rfl fun k i r s _ hs hle => ?_
    obtain ⟨hi, -⟩ := List.getElem?_eq_some_iff.1 hs
    have hpage : limit ≤ (k + 1) * limit := Nat.le_mul_of_pos_left limit (Nat.succ_pos k)
    omega
  | @next l shown r hlt hr hnext ih =>
    rw [endsBefore_iff hpos ((getLast?_take hpos hlt).1 hr)]
    have hfilter := List.filter_eq_self (l := l.drop limit) (p := after r)
    constructor
    · intro heq
      have hshown : shown = l.drop limit := by
        have hcat := heq.trans (List.take_append_drop limit l).symm
        exact List.append_cancel_left hcat
      -- what is left out by the test would be missing
      have hkept : (l.drop limit).filter (after r) = l.drop limit :=
        List.filter_sublist.eq_of_length_le
          (hshown ▸ hnext.sublist.length_le)
      rw [hkept] at ih
      exact ⟨hfilter.1 hkept, ih.1 hshown⟩
    · rintro ⟨hall, hothers⟩
      rw [hfilter.2 hall] at ih
      rw [ih.2 hothers, List.take_append_drop]

/-- **To ask for what is after an element in the whole list, or in what is left of it.**  The
element ends a page of what was left after `c`. -/
theorem filter_after {c : Option α} {r : α} (hsort : l.Pairwise fun a b => after b a = false)
    (hirrefl : ∀ a, after a a = false)
    (htrans : ∀ a b d, after a b = true → after b d = true → after a d = true)
    (hr : ((l.filter fun s => c.all (after · s)).take limit).getLast? = some r) :
    l.filter (after r) =
      ((l.filter fun s => c.all (after · s)).drop limit).filter (after r) := by
  set left := l.filter fun s => c.all (after · s) with hleft
  have hmem : r ∈ left := List.mem_of_mem_take (List.mem_of_getLast? hr)
  have hcr : c.all (after · r) = true := (List.mem_filter.1 hmem).2
  -- what is after `r` is after `c`
  have hwhole : l.filter (after r) = left.filter (after r) := by
    rw [hleft, List.filter_filter]
    refine List.filter_congr fun s _ => ?_
    cases hrs : after r s with
    | false => rfl
    | true =>
      cases c with
      | none => rfl
      | some a => exact (htrans a r s hcr hrs).symm
  -- nothing of the page is after its last element
  have hpage : (left.take limit).filter (after r) = [] := by
    obtain ⟨ys, hys⟩ := List.getLast?_eq_some_iff.1 hr
    have hpair : (left.take limit).Pairwise fun a b => after b a = false :=
      (hsort.sublist List.filter_sublist).sublist (List.take_sublist _ _)
    rw [hys, List.pairwise_append] at hpair
    rw [hys, List.filter_eq_nil_iff]
    intro s hs
    rw [List.mem_append, List.mem_singleton] at hs
    rw [Bool.not_eq_true]
    rcases hs with hs | rfl
    · exact hpair.2.2 s hs r (List.mem_singleton_self r)
    · exact hirrefl s
  calc l.filter (after r) = left.filter (after r) := hwhole
    _ = (left.take limit ++ left.drop limit).filter (after r) := by rw [List.take_append_drop]
    _ = (left.drop limit).filter (after r) := by rw [List.filter_append, hpage, List.nil_append]

/-! ## Pages that are fetched -/

section Fetched

variable {β γ ε : Type}

/-- What a request fetches, with those that give back its cursor, until there is none. -/
inductive Fetched (fetch : Option γ → Except ε (List β × Option γ)) : Option γ → List β → Prop where
  | last {c : Option γ} {data : List β} : fetch c = .ok (data, none) → Fetched fetch c data
  | next {c : Option γ} {c' : γ} {data shown : List β} : fetch c = .ok (data, some c') →
      Fetched fetch (some c') shown → Fetched fetch c (data ++ shown)

/-- A service that answers with a page of what is after the element whose cursor it is given, and
with the cursor of the last element of the page if there is more. -/
def Serves (fetch : Option γ → Except ε (List β × Option γ)) (limit : Nat) (after : α → α → Bool)
    (l : List α) (view : α → β) (cursor : α → γ) : Prop :=
  ∀ c : Option α, (∀ r ∈ c, r ∈ l) → fetch (c.map cursor) = .ok
    (((l.filter fun s => c.all (after · s)).take limit).map view,
      if limit < (l.filter fun s => c.all (after · s)).length then
        ((l.filter fun s => c.all (after · s)).take limit).getLast?.map cursor
      else none)

variable {fetch : Option γ → Except ε (List β × Option γ)} {view : α → β} {cursor : α → γ}

/-- The same requests fetch the same. -/
theorem Fetched.unique {c : Option γ} {shown shown' : List β} (h : Fetched fetch c shown)
    (h' : Fetched fetch c shown') : shown = shown' := by
  induction h generalizing shown' with
  | last hpage =>
    cases h' with
    | last hpage' =>
      cases hpage.symm.trans hpage'
      rfl
    | next hpage' =>
      cases hpage.symm.trans hpage'
  | next hpage _ ih =>
    cases h' with
    | last hpage' =>
      cases hpage.symm.trans hpage'
    | next hpage' hrest =>
      cases hpage.symm.trans hpage'
      rw [ih hrest]

/-- Where the test is the order of the list, all is shown. -/
theorem follows_self (hpos : 0 < limit) (hsort : l.Pairwise fun a b => after a b = true) :
    Follows limit after l l := by
  obtain ⟨shown, hshown⟩ : ∃ shown, Follows limit after l shown := exists_follows hpos l
  have hends : EndsBefore limit after l := by
    intro k i r s hr hs hle
    obtain ⟨hk, rfl⟩ := List.getElem?_eq_some_iff.1 hr
    obtain ⟨hi, rfl⟩ := List.getElem?_eq_some_iff.1 hs
    have hlt : k * limit + (limit - 1) < i := by
      have hsucc : (k + 1) * limit = k * limit + limit := Nat.succ_mul k limit
      omega
    exact List.pairwise_iff_getElem.1 hsort _ _ hk hi hlt
  have hall := (hshown.eq_iff hpos).2 hends
  rwa [hall] at hshown

/-- The service shows what the pages of its list show. -/
theorem Serves.fetched_of_follows (h : Serves fetch limit after l view cursor)
    (hsort : l.Pairwise fun a b => after b a = false) (hirrefl : ∀ a, after a a = false)
    (htrans : ∀ a b d, after a b = true → after b d = true → after a d = true) {c : Option α}
    (hc : ∀ r ∈ c, r ∈ l)
    (hshown : Follows limit after (l.filter fun s => c.all (after · s)) shown) :
    Fetched fetch (c.map cursor) (shown.map view) := by
  generalize hleft : (l.filter fun s => c.all (after · s)) = left at hshown
  induction hshown generalizing c with
  | last hlen =>
    subst hleft
    have hpage := h c hc
    rw [if_neg (Nat.not_lt_of_le hlen), List.take_of_length_le hlen] at hpage
    exact .last hpage
  | @next left shown r hlt hr _ ih =>
    subst hleft
    have hpage := h c hc
    rw [if_pos hlt, hr] at hpage
    have hmem : r ∈ l :=
      List.mem_of_mem_filter (List.mem_of_mem_take (List.mem_of_getLast? hr))
    rw [List.map_append]
    refine .next hpage (ih (c := some r) (fun _ ho => Option.some.inj ho ▸ hmem) ?_)
    exact filter_after hsort hirrefl htrans hr

/-- **A service that answers with what is after the cursor shows all**, in the order of its list. -/
theorem Serves.fetched (h : Serves fetch limit after l view cursor) (hpos : 0 < limit)
    (hsort : l.Pairwise fun a b => after a b = true)
    (hasymm : ∀ a b, after a b = true → after b a = false)
    (htrans : ∀ a b d, after a b = true → after b d = true → after a d = true) :
    Fetched fetch none (l.map view) := by
  have hirrefl : ∀ a, after a a = false := fun a => by
    cases ha : after a a with
    | false => rfl
    | true => exact ha.symm.trans (hasymm a a ha)
  have hall : (l.filter fun s => (none : Option α).all (after · s)) = l :=
    List.filter_eq_self.2 fun _ _ => rfl
  refine h.fetched_of_follows (hsort.imp (hasymm _ _)) hirrefl htrans (c := none) ?_ ?_
  · exact fun _ hr => nomatch hr
  · rw [hall]
    exact follows_self hpos hsort

end Fetched

end Paging
