import Mathlib.Data.List.Basic

/-!
# Texts that tell where they end

A printed value is followed by a stop, a separator or a closing bracket, or by nothing.  Two texts
are told from each other when, so followed, they cannot be the beginning of the same text unless
they are the same.

* `Told.of_all`, `Told.of_head` — texts without a stop in them, and texts that begin differently.
* `joined_inj` — a list between brackets is read back.
-/

set_option autoImplicit false

namespace Delimited

variable {σ : Type} {stop : σ → Prop}

/-- What follows begins with a stop, or there is nothing. -/
def Ends (stop : σ → Prop) (rest : List σ) : Prop := ∀ c ∈ rest.head?, stop c

theorem ends_cons {c : σ} (h : stop c) (rest : List σ) : Ends stop (c :: rest) := by
  simpa [Ends] using h

/-- Followed by stops, the two texts do not begin the same text unless they are the same. -/
def Told (stop : σ → Prop) (t t' : List σ) : Prop :=
  ∀ r r', Ends stop r → Ends stop r' → t ++ r = t' ++ r' → t = t' ∧ r = r'

theorem Told.refl (t : List σ) : Told stop t t :=
  fun _ _ _ _ h => ⟨rfl, List.append_cancel_left h⟩

/-- Texts in which there is no stop. -/
theorem Told.of_all {t t' : List σ} (ht : ∀ c ∈ t, ¬stop c) (ht' : ∀ c ∈ t', ¬stop c) :
    Told stop t t' := by
  induction t generalizing t' with
  | nil =>
    intro r r' hr _ h
    cases t' with
    | nil => exact ⟨rfl, h⟩
    | cons c t' =>
      have hhead : c ∈ r.head? := by
        rw [List.nil_append] at h
        rw [h]
        rfl
      exact absurd (hr c hhead) (ht' c List.mem_cons_self)
  | cons c t ih =>
    intro r r' hr hr' h
    cases t' with
    | nil =>
      exact absurd (hr' c (by rw [List.nil_append] at h; rw [← h]; rfl)) (ht c List.mem_cons_self)
    | cons c' t' =>
      rw [List.cons_append, List.cons_append, List.cons.injEq] at h
      obtain ⟨rfl, hrest⟩ := ih (fun x hx => ht x (List.mem_cons_of_mem _ hx))
        (fun x hx => ht' x (List.mem_cons_of_mem _ hx)) r r' hr hr' h.2
      rw [h.1]
      exact ⟨rfl, hrest⟩

/-- Texts that begin differently. -/
theorem Told.of_head {c c' : σ} {t t' : List σ} (h : c ≠ c') : Told stop (c :: t) (c' :: t') :=
  fun _ _ _ _ heq => absurd (List.cons.inj heq).1 h

/-- Two texts are told from each other as soon as what follows them does not matter. -/
theorem Told.of_forall {t t' : List σ} (h : ∀ r r', t ++ r = t' ++ r' → r = r') :
    Told stop t t' := by
  intro r r' _ _ heq
  obtain rfl := h r r' heq
  exact ⟨List.append_cancel_right heq, rfl⟩

/-! ## Lists -/

/-- `join`: the texts, with a separator between them. -/
def joined (separator : σ) : List (List σ) → List σ
  | [] => []
  | [t] => t
  | t :: next :: ts => t ++ separator :: joined separator (next :: ts)

/-- What follows the first text of a list, up to the closing bracket and the rest. -/
def afterFirst (separator close : σ) (ts : List (List σ)) (rest : List σ) : List σ :=
  match ts with
  | [] => close :: rest
  | next :: ts => separator :: (joined separator (next :: ts) ++ close :: rest)

theorem joined_cons_append (separator close : σ) (t : List σ) (ts : List (List σ)) (rest : List σ) :
    joined separator (t :: ts) ++ close :: rest = t ++ afterFirst separator close ts rest := by
  cases ts with
  | nil => rfl
  | cons next ts => rw [joined, afterFirst, List.append_assoc, List.cons_append]

/-- **A list between brackets is read back.**  None of its texts is empty or begins with a stop. -/
theorem joined_inj {separator close : σ} (hseparator : stop separator) (hclose : stop close)
    (hne : separator ≠ close) {ts ts' : List (List σ)}
    (hts : ∀ t ∈ ts, ∃ c u, t = c :: u ∧ ¬stop c) (hts' : ∀ t ∈ ts', ∃ c u, t = c :: u ∧ ¬stop c)
    (htold : ∀ t ∈ ts, ∀ t' ∈ ts', Told stop t t') {r r' : List σ}
    (h : joined separator ts ++ close :: r = joined separator ts' ++ close :: r') :
    ts = ts' ∧ r = r' := by
  have hends : ∀ us rest, Ends stop (afterFirst separator close us rest) := by
    intro us rest
    cases us with
    | nil => exact ends_cons hclose _
    | cons => exact ends_cons hseparator _
  have hempty : ∀ {t : List σ} {us rest rest'}, (∃ c u, t = c :: u ∧ ¬stop c) →
      close :: rest ≠ t ++ afterFirst separator close us rest' := by
    rintro _ us rest rest' ⟨c, u, rfl, hc⟩ heq
    exact hc ((List.cons.inj heq).1 ▸ hclose)
  induction ts generalizing ts' with
  | nil =>
    cases ts' with
    | nil => exact ⟨rfl, (List.cons.inj h).2⟩
    | cons t' ts' =>
      rw [joined_cons_append] at h
      exact absurd h (hempty (hts' t' List.mem_cons_self))
  | cons t ts ih =>
    rw [joined_cons_append] at h
    cases ts' with
    | nil => exact absurd h.symm (hempty (hts t List.mem_cons_self))
    | cons t' ts' =>
      rw [joined_cons_append] at h
      obtain ⟨rfl, hafter⟩ := htold t List.mem_cons_self t' List.mem_cons_self _ _
        (hends ts r) (hends ts' r') h
      cases ts with
      | nil =>
        cases ts' with
        | nil => exact ⟨rfl, (List.cons.inj hafter).2⟩
        | cons => exact absurd (List.cons.inj hafter).1.symm hne
      | cons next ts =>
        cases ts' with
        | nil => exact absurd (List.cons.inj hafter).1 hne
        | cons next' ts' =>
          obtain ⟨hlist, hrest⟩ := ih (fun u hu => hts u (List.mem_cons_of_mem _ hu))
            (fun u hu => hts' u (List.mem_cons_of_mem _ hu))
            (fun u hu u' hu' => htold u (List.mem_cons_of_mem _ hu) u' (List.mem_cons_of_mem _ hu'))
            (List.cons.inj hafter).2
          rw [hlist]
          exact ⟨rfl, hrest⟩

end Delimited
