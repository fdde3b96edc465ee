import Mathlib.Algebra.BigOperators.Group.List.Basic
import Mathlib.Algebra.Order.Group.Defs
import Mathlib.Data.List.MinMax
import Mathlib.Data.List.Range
import Mathlib.Data.List.Nodup

/-!
# Append-only journals with running totals

A journal is a list of entries over an ordered group of totals.  Each entry carries its effect, the
total after it and a version; a `Chain` is a journal in which every entry continues the one before:
the version grows by one, the recorded total is the running total, and no running total is
negative.

* `Chain.append_iff` — a chain is extended at its end.
* `Chain.versions`, `Chain.after_last`, `Chain.nonneg_prefix` — versions are consecutive, the last
  entry records the total, and no prefix is negative.
* `Chain.argmax_version` — the entry with the highest version is the last one.
-/

set_option autoImplicit false

namespace Journal

variable {ε β : Type}

/-- How an entry is read: its effect, the total it records, its version. -/
structure Reading (ε β : Type) where
  delta : ε → β
  after : ε → β
  version : ε → Nat

section Total

variable [AddCommGroup β] (J : Reading ε β)

/-- The total of a journal that starts from `b`. -/
def total (b : β) (es : List ε) : β := b + (es.map J.delta).sum

@[simp] theorem total_nil (b : β) : total J b [] = b := by simp [total]

theorem total_cons (b : β) (e : ε) (es : List ε) :
    total J b (e :: es) = total J (b + J.delta e) es := by
  simp [total, add_assoc]

theorem total_append (b : β) (es fs : List ε) :
    total J b (es ++ fs) = total J (total J b es) fs := by
  simp [total, add_assoc]

end Total

section Chain

variable [AddCommGroup β] [PartialOrder β] (J : Reading ε β)

/-- Every entry continues the one before it, from the total `b` and the version `v`. -/
def Chain : β → Nat → List ε → Prop
  | _, _, [] => True
  | b, v, e :: es => J.version e = v + 1 ∧ J.after e = b + J.delta e ∧ 0 ≤ J.after e ∧
      Chain (J.after e) (v + 1) es

variable {J} {b : β} {v : Nat}

theorem Chain.append_iff {fs : List ε} : ∀ {b : β} {v : Nat} {es : List ε},
    Chain J b v (es ++ fs) ↔ Chain J b v es ∧ Chain J (total J b es) (v + es.length) fs
  | b, v, [] => by simp [Chain]
  | b, v, e :: es => by
    have harith : v + 1 + es.length = v + (es.length + 1) := by omega
    simp only [List.cons_append, Chain, List.length_cons, and_assoc]
    refine and_congr_right fun _ => and_congr_right fun ha => and_congr_right fun _ => ?_
    rw [Chain.append_iff, total_cons, ha, harith]

/-- **The versions are consecutive.** -/
theorem Chain.versions : ∀ {b : β} {v : Nat} {es : List ε}, Chain J b v es →
    es.map J.version = List.range' (v + 1) es.length
  | _, _, [], _ => rfl
  | _, v, e :: es, h => by
    rw [List.map_cons, h.1, Chain.versions h.2.2.2, List.length_cons, List.range'_succ]

theorem Chain.version_of_mem {es : List ε} (h : Chain J b v es) {e : ε} (he : e ∈ es) :
    v < J.version e ∧ J.version e ≤ v + es.length := by
  have hm : J.version e ∈ List.range' (v + 1) es.length := by
    rw [← h.versions]
    exact List.mem_map_of_mem he
  rw [List.mem_range'_1] at hm
  omega

theorem eq_append_of_getLast? {es : List ε} {e : ε} (he : es.getLast? = some e) :
    es = es.dropLast ++ [e] := by
  rcases List.eq_nil_or_concat es with rfl | ⟨fs, x, rfl⟩
  · simp at he
  · simp at he
    rw [he]
    simp

/-- **The last entry records the total, and its version is the last one.** -/
theorem Chain.after_last {es : List ε} {e : ε} (h : Chain J b v es) (he : es.getLast? = some e) :
    J.after e = total J b es ∧ J.version e = v + es.length := by
  rw [eq_append_of_getLast? he] at h ⊢
  obtain ⟨-, hv, ha, -⟩ := Chain.append_iff.1 h
  refine ⟨?_, ?_⟩
  · rw [ha, total_append]
    simp [total]
  · rw [hv, List.length_append, List.length_singleton, add_assoc]

/-- **No prefix has a negative total.** -/
theorem Chain.nonneg_prefix {es ps : List ε} (h : Chain J b v es) (hb : 0 ≤ b) (hp : ps <+: es) :
    0 ≤ total J b ps := by
  obtain ⟨fs, rfl⟩ := hp
  have hps := (Chain.append_iff.1 h).1
  cases hl : ps.getLast? with
  | none =>
    rw [List.getLast?_eq_none_iff] at hl
    rw [hl, total_nil]
    exact hb
  | some e =>
    rw [eq_append_of_getLast? hl] at hps
    obtain ⟨-, -, ha, hn, -⟩ := Chain.append_iff.1 hps
    rw [eq_append_of_getLast? hl, total_append]
    simpa [total, ha] using hn

/-- **The entry with the highest version is the last one.** -/
theorem Chain.argmax_version [DecidableEq ε] {es : List ε} (h : Chain J b v es) :
    es.argmax J.version = es.getLast? := by
  cases hl : es.getLast? with
  | none =>
    rw [List.getLast?_eq_none_iff] at hl
    rw [hl, List.argmax_nil]
  | some e =>
    have hlast := (h.after_last hl).2
    have hmem : e ∈ es := List.mem_of_getLast? hl
    cases hm : es.argmax J.version with
    | none =>
      rw [List.argmax_eq_none] at hm
      rw [hm] at hmem
      cases hmem
    | some m =>
      -- the versions have no repetition, so the maximum is reached once
      have hmm : m ∈ es := List.argmax_mem hm
      have hle : J.version e ≤ J.version m := List.le_of_mem_argmax hmem hm
      have hge := (h.version_of_mem hmm).2
      have hnd : (es.map J.version).Nodup := by
        rw [h.versions]
        exact List.nodup_range'
      rw [List.inj_on_of_nodup_map hnd hmm hmem (by omega)]

end Chain
end Journal
