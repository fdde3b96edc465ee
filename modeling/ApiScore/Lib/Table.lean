import Mathlib.Data.List.Pairwise
import Mathlib.Algebra.Order.BigOperators.Group.List
import Mathlib.Tactic.Ring

/-!
# Tables with unique keys and row checks

A relational table enforces two kinds of rule on every write: no two rows agree on a unique key,
and every row satisfies the table's `CHECK` constraints.  `Schema` states both, and a `Table` is a
list of rows together with the proof that they hold, so a table that breaks them cannot be built.
A write that would break one is refused: `insert?` and `update?` return `none`.

* `Table.eq_of_clash` — two rows of a table that agree on a unique key are the same row.
* `Table.mem_insert?`, `Table.mem_update?` — the rows after a successful write.
* `Table.exists_insert_iff`, `Table.exists_replace_iff` — when a write is not refused.
* `Table.sumBy_insert?`, `Table.sumBy_update?` — what a write does to a sum over the rows.
* `Table.rows_insertIgnore` — a write that skips the rows it cannot insert.
* `Table.rows_upsert?` — a write over the rows with the same keys.
-/

set_option autoImplicit false

namespace Relational

variable {α : Type}

/-- The rules a table enforces on its rows. -/
structure Schema (α : Type) where
  /-- Do two rows agree on one of the unique keys? -/
  clash : α → α → Bool
  /-- Agreeing on a key is symmetric. -/
  symm : ∀ a b, clash a b = clash b a
  /-- The column bounds and `CHECK` constraints. -/
  check : α → Bool

/-- The rows of a table, in insertion order, with the rules they satisfy. -/
structure Table (S : Schema α) where
  rows : List α
  /-- No two rows agree on a unique key. -/
  distinct : rows.Pairwise fun a b => S.clash a b = false
  /-- Every row satisfies the constraints. -/
  checked : ∀ r ∈ rows, S.check r = true

namespace Table

variable {S : Schema α}

instance : Membership α (Table S) := ⟨fun t r => r ∈ t.rows⟩

theorem mem_def {t : Table S} {r : α} : r ∈ t ↔ r ∈ t.rows := Iff.rfl

theorem ext {t u : Table S} (h : t.rows = u.rows) : t = u := by
  cases t; cases u; cases h; rfl

/-- The table without rows. -/
def empty : Table S := ⟨[], List.Pairwise.nil, by simp⟩

@[simp] theorem rows_empty : (empty : Table S).rows = [] := rfl

@[simp] theorem not_mem_empty (r : α) : ¬ r ∈ (empty : Table S) := by simp [mem_def]

/-- A table with the given rows, when they satisfy the rules. -/
def ofRows? (S : Schema α) (rows : List α) : Option (Table S) :=
  if h : rows.Pairwise (fun a b => S.clash a b = false) ∧ ∀ r ∈ rows, S.check r = true then
    some ⟨rows, h.1, h.2⟩
  else none

theorem ofRows?_eq_some {rows : List α} {t : Table S} (h : ofRows? S rows = some t) :
    t.rows = rows := by
  unfold ofRows? at h
  split at h
  · cases h; rfl
  · cases h

theorem ofRows?_rows (t : Table S) : ofRows? S t.rows = some t := by
  rw [ofRows?, dif_pos ⟨t.distinct, t.checked⟩]

/-- The first rows of a table are a table. -/
theorem exists_of_append {t : Table S} {l l' : List α} (h : t.rows = l ++ l') :
    ∃ u : Table S, u.rows = l := by
  refine ⟨⟨l, ?_, fun r hr => ?_⟩, rfl⟩
  · have hd := t.distinct
    rw [h] at hd
    exact (List.pairwise_append.1 hd).1
  · refine t.checked r ?_
    rw [h]
    exact List.mem_append_left l' hr

/-- The first row that satisfies `p`. -/
def find? (t : Table S) (p : α → Bool) : Option α := t.rows.find? p

/-- The rows that satisfy `p`. -/
def select (t : Table S) (p : α → Bool) : List α := t.rows.filter p

theorem mem_select {t : Table S} {p : α → Bool} {r : α} :
    r ∈ t.select p ↔ r ∈ t ∧ p r = true := by
  rw [select, List.mem_filter, mem_def]

/-- Insert a row at the end. -/
def insert? (t : Table S) (r : α) : Option (Table S) := ofRows? S (t.rows ++ [r])

/-- Rewrite the rows that satisfy `p`. -/
def update? (t : Table S) (p : α → Bool) (f : α → α) : Option (Table S) :=
  ofRows? S (t.rows.map fun r => if p r then f r else r)

theorem rows_insert? {t t' : Table S} {r : α} (h : t.insert? r = some t') :
    t'.rows = t.rows ++ [r] := ofRows?_eq_some h

theorem rows_update? {t t' : Table S} {p : α → Bool} {f : α → α} (h : t.update? p f = some t') :
    t'.rows = t.rows.map fun r => if p r then f r else r := ofRows?_eq_some h

/-- An insertion is accepted where there is a table with its rows. -/
theorem insert?_eq_some {t t' : Table S} {r : α} (h : t'.rows = t.rows ++ [r]) :
    t.insert? r = some t' := by
  rw [insert?, ← h, ofRows?_rows]

theorem update?_eq_some {t t' : Table S} {p : α → Bool} {f : α → α}
    (h : t'.rows = t.rows.map fun r => if p r then f r else r) : t.update? p f = some t' := by
  rw [update?, ← h, ofRows?_rows]

/-- Delete the rows that satisfy `p`. -/
def delete (t : Table S) (p : α → Bool) : Table S where
  rows := t.rows.filter fun r => !p r
  distinct := t.distinct.sublist List.filter_sublist
  checked r hr := t.checked r (List.mem_of_mem_filter hr)

theorem mem_delete {t : Table S} {p : α → Bool} {r : α} :
    r ∈ t.delete p ↔ r ∈ t ∧ p r = false := by
  rw [mem_def, delete, List.mem_filter, mem_def, Bool.not_eq_true']

/-- Rewrite every row by an `f` that moves no key and breaks no rule. -/
def rewrite (t : Table S) (f : α → α) (hclash : ∀ a b, S.clash (f a) (f b) = S.clash a b)
    (hcheck : ∀ a, S.check a = true → S.check (f a) = true) : Table S where
  rows := t.rows.map f
  distinct := List.pairwise_map.2 (t.distinct.imp fun {a b} h => (hclash a b).trans h)
  checked := by
    intro r hr
    obtain ⟨a, ha, rfl⟩ := List.mem_map.1 hr
    exact hcheck a (t.checked a ha)

/-- Where there is a table of some rows, there is one of the same rows written otherwise, with the same
keys. -/
theorem exists_map {β : Type} {t : Table S} {rows : List β} {g g' : β → α} (h : t.rows = rows.map g)
    (hclash : ∀ a b, S.clash (g' a) (g' b) = S.clash (g a) (g b))
    (hcheck : ∀ a, S.check (g a) = true → S.check (g' a) = true) :
    ∃ u : Table S, u.rows = rows.map g' := by
  have hd := t.distinct
  rw [h] at hd
  refine ⟨⟨rows.map g', ?_, fun r hr => ?_⟩, rfl⟩
  · refine List.pairwise_map.2 ((List.pairwise_map.1 hd).imp fun {a b} hab => ?_)
    rw [hclash]
    exact hab
  · obtain ⟨a, ha, rfl⟩ := List.mem_map.1 hr
    refine hcheck a (t.checked (g a) ?_)
    rw [h]
    exact List.mem_map_of_mem ha

/-- Rows that agree with no two on a key, and satisfy the constraints, are a table. -/
theorem exists_iff {rows : List α} : (∃ u : Table S, u.rows = rows) ↔
    (rows.Pairwise fun a b => S.clash a b = false) ∧ ∀ r ∈ rows, S.check r = true := by
  constructor
  · rintro ⟨u, rfl⟩
    exact ⟨u.distinct, u.checked⟩
  · rintro ⟨hdistinct, hchecked⟩
    exact ⟨⟨rows, hdistinct, hchecked⟩, rfl⟩

/-- **When a row can be inserted.** -/
theorem exists_insert_iff {t : Table S} {r : α} : (∃ u, t.insert? r = some u) ↔
    (∀ x ∈ t, S.clash x r = false) ∧ S.check r = true := by
  have hrows : (∃ u, t.insert? r = some u) ↔ ∃ u : Table S, u.rows = t.rows ++ [r] :=
    exists_congr fun u => ⟨rows_insert?, insert?_eq_some⟩
  rw [hrows, exists_iff, List.pairwise_append]
  constructor
  · rintro ⟨⟨-, -, hclash⟩, hcheck⟩
    exact ⟨fun x hx => hclash x hx r (List.mem_singleton_self r),
      hcheck r (List.mem_append_right _ (List.mem_singleton_self r))⟩
  · rintro ⟨hclash, hcheck⟩
    refine ⟨⟨t.distinct, List.pairwise_singleton .., fun x hx y hy => ?_⟩, fun x hx => ?_⟩
    · rw [List.mem_singleton.1 hy]
      exact hclash x hx
    · rcases List.mem_append.1 hx with hx | hx
      · exact t.checked x hx
      · rw [List.mem_singleton.1 hx]
        exact hcheck

/-- **When a row can be replaced.** -/
theorem exists_replace_iff [DecidableEq α] {t : Table S} {o o' : α}
    (hself : ∀ r, S.clash r r = true) (ho : o ∈ t) :
    (∃ u : Table S, u.rows = t.rows.map fun x => if x = o then o' else x) ↔
      (∀ x ∈ t, x ≠ o → S.clash x o' = false) ∧ S.check o' = true := by
  rw [exists_iff, List.pairwise_map]
  constructor
  · rintro ⟨hdistinct, hcheck⟩
    have : Std.Symm fun a b => S.clash (if a = o then o' else a)
        (if b = o then o' else b) = false := ⟨fun a b hab => (S.symm _ _).trans hab⟩
    refine ⟨fun x hx hne => ?_, hcheck o' (List.mem_map.2 ⟨o, ho, if_pos rfl⟩)⟩
    have hpair := hdistinct.forall hx ho hne
    rwa [if_neg hne, if_pos rfl] at hpair
  · rintro ⟨hclash, hcheck⟩
    refine ⟨t.distinct.imp_of_mem fun {a b} ha hb hab => ?_, fun r hr => ?_⟩
    · have hne : a ≠ b := by
        rintro rfl
        rw [hself a] at hab
        cases hab
      split_ifs with hao hbo hbo
      · exact (hne (hao.trans hbo.symm)).elim
      · rw [S.symm]
        exact hclash b hb hbo
      · exact hclash a ha hao
      · exact hab
    · obtain ⟨x, hx, rfl⟩ := List.mem_map.1 hr
      split_ifs
      · exact hcheck
      · exact t.checked x hx

/-- A lookup by a key that `f` leaves alone. -/
theorem find?_map_key {κ : Type} [BEq κ] {g : α → κ} {f : α → α} (hf : ∀ a, g (f a) = g a)
    (k : κ) (rows : List α) :
    (rows.map f).find? (fun a => g a == k) = (rows.find? fun a => g a == k).map f := by
  rw [List.find?_map]
  simp only [Function.comp_def, hf]

/-- Whether rows are a table does not change under such an `f`, where it mends none of them. -/
theorem ofRows?_map {f : α → α} (hclash : ∀ a b, S.clash (f a) (f b) = S.clash a b)
    (hcheck : ∀ a, S.check a = true → S.check (f a) = true) {rows : List α}
    (hrows : ∀ a ∈ rows, S.check (f a) = true → S.check a = true) :
    ofRows? S (rows.map f) = (ofRows? S rows).map fun t => t.rewrite f hclash hcheck := by
  have hiff : ((rows.map f).Pairwise (fun a b => S.clash a b = false) ∧
      ∀ r ∈ rows.map f, S.check r = true) ↔
      (rows.Pairwise (fun a b => S.clash a b = false) ∧ ∀ r ∈ rows, S.check r = true) := by
    simp only [List.pairwise_map, hclash, List.forall_mem_map]
    refine and_congr_right fun _ => ⟨fun h r hr => hrows r hr (h r hr), fun h r hr => ?_⟩
    exact hcheck r (h r hr)
  by_cases h : rows.Pairwise (fun a b => S.clash a b = false) ∧ ∀ r ∈ rows, S.check r = true
  · rw [ofRows?, dif_pos (hiff.2 h), ofRows?, dif_pos h]
    rfl
  · rw [ofRows?, dif_neg (fun h' => h (hiff.1 h')), ofRows?, dif_neg h]
    rfl

theorem mem_insert? {t t' : Table S} {r x : α} (h : t.insert? r = some t') :
    x ∈ t' ↔ x ∈ t ∨ x = r := by
  rw [mem_def, rows_insert? h, List.mem_append, List.mem_singleton, mem_def]

theorem mem_update? {t t' : Table S} {p : α → Bool} {f : α → α} (h : t.update? p f = some t')
    {x : α} : x ∈ t' ↔ ∃ r ∈ t, (if p r then f r else r) = x := by
  rw [mem_def, rows_update? h, List.mem_map]; rfl

/-! ## Unique keys -/

/-- Two rows that agree on a unique key are the same row. -/
theorem eq_of_clash {t : Table S} {a b : α} (ha : a ∈ t) (hb : b ∈ t)
    (h : S.clash a b = true) : a = b := by
  by_contra hne
  have : Std.Symm fun a b : α => S.clash a b = false := ⟨fun x y hxy => by rwa [S.symm]⟩
  have hf := t.distinct.forall ha hb hne
  rw [hf] at h
  cases h

/-- A lookup on a unique key finds the row that is there. -/
theorem find?_of_mem {t : Table S} {p : α → Bool} {r : α} (hr : r ∈ t) (hp : p r = true)
    (hu : ∀ x ∈ t, p x = true → S.clash x r = true) : t.find? p = some r := by
  cases hf : t.find? p with
  | none => exact absurd hp (List.find?_eq_none.1 hf r hr)
  | some x =>
    have hx : x ∈ t := List.mem_of_find?_eq_some hf
    have hpx : p x = true := List.find?_some hf
    rw [eq_of_clash hx hr (hu x hx hpx)]

/-- A selection on a unique key is the row that is there. -/
theorem select_of_mem {t : Table S} {p : α → Bool} {r : α} (hr : r ∈ t) (hp : p r = true)
    (hu : ∀ x ∈ t, p x = true → S.clash x r = true) : t.select p = [r] := by
  have hall : ∀ x ∈ t.select p, x = r := by
    intro x hx
    obtain ⟨hmem, hpx⟩ := mem_select.1 hx
    exact eq_of_clash hmem hr (hu x hmem hpx)
  have hd : (t.select p).Pairwise fun a b => S.clash a b = false := t.distinct.filter p
  have hmem : r ∈ t.select p := mem_select.2 ⟨hr, hp⟩
  match t.select p, hall, hd, hmem with
  | [x], hall, _, _ => rw [hall x (by simp)]
  | x :: y :: l, hall, hd, _ =>
    -- two positions of the same row would have to disagree on its key
    have hxy := (List.pairwise_cons.1 hd).1 y (by simp)
    rw [hall x (by simp), hall y (by simp), hu r hr hp] at hxy
    cases hxy

/-- Where every row agrees with itself on a unique key, no row is selected twice. -/
theorem nodup_select {t : Table S} {p : α → Bool} (h : ∀ r, S.clash r r = true) :
    (t.select p).Nodup := by
  refine (t.distinct.filter p).imp fun {a b} hab heq => ?_
  rw [heq, h b] at hab
  cases hab

theorem mem_of_find? {t : Table S} {p : α → Bool} {r : α} (h : t.find? p = some r) : r ∈ t :=
  List.mem_of_find?_eq_some h

theorem of_find? {t : Table S} {p : α → Bool} {r : α} (h : t.find? p = some r) : p r = true :=
  List.find?_some h

theorem find?_none {t : Table S} {p : α → Bool} (h : t.find? p = none) {r : α} (hr : r ∈ t) :
    p r = false := by
  simpa using List.find?_eq_none.1 h r hr

theorem find?_isSome_iff {t : Table S} {p : α → Bool} :
    (t.find? p).isSome = true ↔ ∃ r ∈ t, p r = true := by
  rw [find?, List.find?_isSome]; rfl

/-! ## Sums over the rows -/

/-- The sum of `f` over the rows. -/
def sumBy (t : Table S) (f : α → Int) : Int := (t.rows.map f).sum

@[simp] theorem sumBy_empty (f : α → Int) : (empty : Table S).sumBy f = 0 := rfl

theorem sumBy_congr {t : Table S} {f g : α → Int} (h : ∀ r ∈ t, f r = g r) :
    t.sumBy f = t.sumBy g := by
  rw [sumBy, sumBy, List.map_congr_left h]

/-- One of the terms of a sum without negative terms. -/
theorem le_sumBy {t : Table S} {f : α → Int} (h : ∀ r ∈ t, 0 ≤ f r) {r : α} (hr : r ∈ t) :
    f r ≤ t.sumBy f := by
  refine List.single_le_sum (fun x hx => ?_) (f r) (List.mem_map_of_mem hr)
  obtain ⟨y, hy, rfl⟩ := List.mem_map.1 hx
  exact h y hy

/-- When `g'` differs from `g` only on the rows of `os`, the two sums differ by what happens there. -/
theorem sumBy_eq_add {t : Table S} {os : List α} {g g' : α → Int} (hc : ∀ r, S.clash r r = true)
    (hmem : ∀ r ∈ os, r ∈ t) (hnodup : os.Nodup) (hout : ∀ r ∈ t, r ∉ os → g' r = g r) :
    t.sumBy g' = t.sumBy g + (os.map fun r => g' r - g r).sum := by
  classical
  have hperm : (t.rows.filter fun r => r ∈ os).Perm os := by
    have hrows : (t.select fun _ => true).Nodup := nodup_select hc
    rw [select, List.filter_true] at hrows
    refine (List.perm_ext_iff_of_nodup (hrows.filter _) hnodup).2 fun r => ?_
    rw [List.mem_filter, decide_eq_true_eq]
    exact ⟨And.right, fun h => ⟨hmem r h, h⟩⟩
  rw [← (hperm.map _).sum_eq, sumBy, sumBy]
  have hsplit : ∀ l : List α, (∀ r ∈ l, r ∉ os → g' r = g r) →
      (l.map g').sum = (l.map g).sum + ((l.filter fun r => r ∈ os).map fun r => g' r - g r).sum := by
    intro l
    induction l with
    | nil => simp
    | cons r l ih =>
      intro hl
      have ih' := ih fun x hx => hl x (List.mem_cons_of_mem _ hx)
      by_cases hr : r ∈ os
      · rw [List.filter_cons_of_pos (by simpa using hr)]
        simp only [List.map_cons, List.sum_cons, ih']
        ring
      · rw [List.filter_cons_of_neg (by simpa using hr)]
        simp only [List.map_cons, List.sum_cons, ih', hl r List.mem_cons_self hr]
        ring
  exact hsplit t.rows hout

/-! ## Writes that skip -/

/-- Insert the rows that `p` holds of, one after the other, and skip those that break a rule; the
rows that went in. -/
def insertIgnore (p : α → Bool) : Table S → List α → Table S × List α
  | t, [] => (t, [])
  | t, r :: rs =>
    match if p r then t.insert? r else none with
    | some t' =>
      let (u, inserted) := insertIgnore p t' rs
      (u, r :: inserted)
    | none => insertIgnore p t rs

theorem rows_insertIgnore {p : α → Bool} {t : Table S} {rs : List α} :
    (t.insertIgnore p rs).1.rows = t.rows ++ (t.insertIgnore p rs).2 := by
  induction rs generalizing t with
  | nil => simp [insertIgnore]
  | cons r rs ih =>
    simp only [insertIgnore]
    split
    · rename_i t' ht
      split_ifs at ht
      rw [ih, rows_insert? ht, List.append_assoc, List.singleton_append]
    · exact ih

theorem mem_of_insertIgnore {p : α → Bool} {t : Table S} {rs : List α} {r : α}
    (h : r ∈ (t.insertIgnore p rs).2) : r ∈ rs ∧ p r = true := by
  induction rs generalizing t with
  | nil => simp [insertIgnore] at h
  | cons x rs ih =>
    simp only [insertIgnore] at h
    split at h
    · rename_i t' ht
      split_ifs at ht with hp
      rcases List.mem_cons.1 h with rfl | hr
      · exact ⟨List.mem_cons_self, hp⟩
      · exact (ih hr).imp_left (List.mem_cons_of_mem x)
    · exact (ih h).imp_left (List.mem_cons_of_mem x)

/-- The rows that went in are some of the rows, in their order. -/
theorem sublist_insertIgnore {p : α → Bool} {t : Table S} {rs : List α} :
    (t.insertIgnore p rs).2.Sublist rs := by
  induction rs generalizing t with
  | nil => exact List.Sublist.slnil
  | cons r rs ih =>
    simp only [insertIgnore]
    split
    · exact ih.cons_cons r
    · exact ih.cons r

/-- No row that went in agrees on a key with one that was there. -/
theorem clash_insertIgnore {p : α → Bool} {t : Table S} {rs : List α} {r x : α} (hr : r ∈ t)
    (hx : x ∈ (t.insertIgnore p rs).2) : S.clash r x = false := by
  have hd := (t.insertIgnore p rs).1.distinct
  rw [rows_insertIgnore, List.pairwise_append] at hd
  exact hd.2.2 r hr x hx

/-- Write `rs` over the rows with the same key, and insert those that have none. -/
def upsert? {κ : Type} [BEq κ] (t : Table S) (key : α → κ) (rs : List α) : Option (Table S) :=
  ofRows? S ((t.rows.map fun r => (rs.find? fun x => key x == key r).getD r) ++
    rs.filter fun x => !t.rows.any fun r => key r == key x)

/-- Where every key is there already, an upsert only rewrites rows. -/
theorem rows_upsert? {κ : Type} [BEq κ] [LawfulBEq κ] {t t' : Table S} {key : α → κ} {rs : List α}
    (h : t.upsert? key rs = some t') (hkeys : ∀ x ∈ rs, ∃ r ∈ t, key r = key x) :
    t'.rows = t.rows.map fun r => (rs.find? fun x => key x == key r).getD r := by
  have hnone : (rs.filter fun x => !t.rows.any fun r => key r == key x) = [] := by
    refine List.filter_eq_nil_iff.2 fun x hx => ?_
    obtain ⟨r, hr, hkey⟩ := hkeys x hx
    rw [Bool.not_eq_true', Bool.not_eq_false, List.any_eq_true]
    exact ⟨r, hr, beq_iff_eq.2 hkey⟩
  rw [ofRows?_eq_some h, hnone, List.append_nil]

end Table
end Relational
