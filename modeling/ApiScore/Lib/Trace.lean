/-!
# Traces

A trace is the list of what has happened, latest first.  A party that has read something holds it for
true as long as nothing that it has not seen has changed it: what counts is what has happened since.

* `since` — the part of a trace after the last mark.
* `since_append` — events that are not the mark come on top of it.
* `exists_split_since` — what was there before the mark.
* `past_cons` — what held whenever an event happened.
* `pairwise_of_past` — what every event has to do with those before it.
-/

set_option autoImplicit false

namespace Trace

variable {ε α : Type}

/-- What has happened since the last `mark`. -/
def since [DecidableEq ε] (mark : ε) (trace : List ε) : List ε := trace.takeWhile (· ≠ mark)

section Since

variable [DecidableEq ε] {mark e : ε} {trace newer : List ε}

@[simp] theorem since_cons_self : since mark (mark :: trace) = [] := by simp [since]

theorem since_cons_of_ne (h : e ≠ mark) : since mark (e :: trace) = e :: since mark trace := by
  simp [since, h]

theorem since_append (h : mark ∉ newer) : since mark (newer ++ trace) = newer ++ since mark trace := by
  induction newer with
  | nil => rfl
  | cons e newer ih =>
    rw [List.mem_cons, not_or] at h
    rw [List.cons_append, since_cons_of_ne (Ne.symm h.1), ih h.2, List.cons_append]

/-- What has happened since a mark is on top of what had happened before. -/
theorem exists_split_since (h : mark ∈ trace) :
    ∃ older, trace = since mark trace ++ mark :: older := by
  induction trace with
  | nil => cases h
  | cons e trace ih =>
    by_cases he : e = mark
    · subst he
      exact ⟨trace, by simp⟩
    · obtain ⟨older, hsplit⟩ := ih ((List.mem_cons.1 h).resolve_left (Ne.symm he))
      refine ⟨older, ?_⟩
      rw [since_cons_of_ne he, List.cons_append]
      exact congrArg (e :: ·) hsplit

end Since

theorem split_cons {e x : ε} {trace newer older : List ε} (h : e :: trace = newer ++ x :: older) :
    (e = x ∧ trace = older) ∨ ∃ rest, newer = e :: rest ∧ trace = rest ++ x :: older := by
  cases newer with
  | nil => exact .inl (List.cons.inj h)
  | cons y newer =>
    obtain ⟨rfl, htail⟩ := List.cons.inj h
    exact .inr ⟨newer, rfl, htail⟩

/-- **What held whenever an event happened**: one more event has to be in order itself, the past stays
as it was. -/
theorem past_cons {e : ε} {trace : List ε} {P : α → List ε → Prop} {event : α → ε}
    (hold : ∀ newer x older, trace = newer ++ event x :: older → P x older)
    (hnew : ∀ x, e = event x → P x trace) :
    ∀ newer x older, e :: trace = newer ++ event x :: older → P x older := by
  intro newer x older h
  rcases split_cons h with ⟨he, rfl⟩ | ⟨rest, -, htail⟩
  · exact hnew x he
  · exact hold rest x older htail

theorem pairwise_of_past {R : ε → ε → Prop} {trace : List ε}
    (h : ∀ newer e older, trace = newer ++ e :: older → ∀ e' ∈ older, R e e') : trace.Pairwise R := by
  induction trace with
  | nil => exact .nil
  | cons e trace ih =>
    refine .cons (h [] e trace rfl) (ih fun newer x older htrace => ?_)
    exact h (e :: newer) x older (by rw [htrace, List.cons_append])

end Trace
