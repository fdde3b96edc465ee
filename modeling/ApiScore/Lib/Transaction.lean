import Mathlib.Data.List.Forall2

/-!
# Transactions

A transaction body is a computation that reads and writes the database and may fail.  `Tx σ ε α`
is that computation, `commit` is what the database engine does with it: the writes of a body that
returns become the new state, and the writes of a body that fails are discarded.

The `_eq_ok` lemmas invert a run of a body that succeeded, one statement at a time; with them a
specification of a whole body is proved by peeling its `do` block apart.
-/

set_option autoImplicit false

namespace Relational

variable {σ ε α β : Type}

/-- A transaction body over the state `σ`, failing with an `ε`. -/
abbrev Tx (σ ε α : Type) : Type := StateT σ (Except ε) α

namespace Tx

theorem bind_eq_ok {m : Tx σ ε α} {f : α → Tx σ ε β} {s : σ} {r : β × σ} :
    (m >>= f) s = .ok r ↔ ∃ a s', m s = .ok (a, s') ∧ f a s' = .ok r := by
  change (m s >>= fun p => f p.1 p.2) = .ok r ↔ _
  cases hm : m s with
  | error e => simp [bind, Except.bind]
  | ok p =>
    obtain ⟨a, s'⟩ := p
    constructor
    · intro h
      exact ⟨a, s', rfl, h⟩
    · rintro ⟨a', s'', h, hf⟩
      cases h
      exact hf

/-- A sequence whose first part returns goes on with the second. -/
theorem bind_of_ok {m : Tx σ ε α} {f : α → Tx σ ε β} {s s' : σ} {a : α} (h : m s = .ok (a, s')) :
    (m >>= f) s = f a s' := by
  change (m s >>= fun p => f p.1 p.2) = _
  rw [h]
  rfl

@[simp] theorem pure_eq_ok {a : α} {s : σ} {r : α × σ} :
    (pure a : Tx σ ε α) s = .ok r ↔ r = (a, s) := by
  change Except.ok (a, s) = .ok r ↔ _
  rw [Except.ok.injEq, eq_comm]

@[simp] theorem get_eq_ok {s : σ} {r : σ × σ} :
    (get : Tx σ ε σ) s = .ok r ↔ r = (s, s) := by
  change Except.ok (s, s) = .ok r ↔ _
  rw [Except.ok.injEq, eq_comm]

@[simp] theorem set_eq_ok {s s' : σ} {r : PUnit × σ} :
    (set s' : Tx σ ε PUnit) s = .ok r ↔ r = (⟨⟩, s') := by
  change Except.ok (⟨⟩, s') = .ok r ↔ _
  rw [Except.ok.injEq, eq_comm]

@[simp] theorem modify_eq_ok {f : σ → σ} {s : σ} {r : PUnit × σ} :
    (modify f : Tx σ ε PUnit) s = .ok r ↔ r = (⟨⟩, f s) := by
  change Except.ok (⟨⟩, f s) = .ok r ↔ _
  rw [Except.ok.injEq, eq_comm]

@[simp] theorem throw_eq_ok {e : ε} {s : σ} {r : α × σ} :
    (throw e : Tx σ ε α) s = .ok r ↔ False := by
  change Except.error e = .ok r ↔ _
  simp

theorem ite_eq_ok {c : Prop} [Decidable c] {m n : Tx σ ε α} {s : σ} {r : α × σ} :
    (if c then m else n) s = .ok r ↔ (c ∧ m s = .ok r) ∨ (¬ c ∧ n s = .ok r) := by
  split <;> simp_all

/-- Running a body that leaves the state alone on every element of a list leaves it alone. -/
theorem mapM_frame {f : α → Tx σ ε β} (hf : ∀ a s b s', f a s = .ok (b, s') → s' = s)
    {l : List α} {s s' : σ} {bs : List β} (h : (l.mapM f) s = .ok (bs, s')) : s' = s := by
  induction l generalizing s bs with
  | nil =>
    rw [List.mapM_nil, pure_eq_ok] at h
    exact (Prod.mk.inj h).2
  | cons a l ih =>
    simp only [List.mapM_cons, bind_eq_ok, pure_eq_ok] at h
    obtain ⟨b, s₁, hb, bs', s₂, hbs, heq⟩ := h
    obtain ⟨rfl, rfl⟩ := Prod.mk.inj heq
    rw [ih hbs, hf a s b s₁ hb]

/-- A list of reads: each answers as it does on its own. -/
theorem mapM_eq_ok {f : α → Tx σ ε β} {P : α → β → Prop} {l : List α} {s s' : σ} {bs : List β}
    (hf : ∀ a ∈ l, ∀ b t, f a s = .ok (b, t) ↔ P a b ∧ t = s) :
    (l.mapM f) s = .ok (bs, s') ↔ List.Forall₂ P l bs ∧ s' = s := by
  induction l generalizing bs with
  | nil =>
    rw [List.mapM_nil, pure_eq_ok, Prod.mk.injEq, List.forall₂_nil_left_iff]
  | cons a l ih =>
    have ih' := fun {cs} => @ih cs fun x hx => hf x (List.mem_cons_of_mem a hx)
    simp only [List.mapM_cons, bind_eq_ok, pure_eq_ok]
    constructor
    · rintro ⟨b, s₁, hb, cs, s₂, hcs, heq⟩
      obtain ⟨rfl, rfl⟩ := Prod.mk.inj heq
      obtain ⟨hp, rfl⟩ := (hf a List.mem_cons_self b s₁).1 hb
      obtain ⟨hps, rfl⟩ := ih'.1 hcs
      exact ⟨.cons hp hps, rfl⟩
    · rintro ⟨hall, rfl⟩
      cases hall with
      | @cons _ b _ cs hp hps =>
        exact ⟨b, s', (hf a List.mem_cons_self b s').2 ⟨hp, rfl⟩, cs, s', ih'.2 ⟨hps, rfl⟩, rfl⟩

/-- The value of an `Option`, or the failure `e`. -/
def orThrow (e : ε) : Option α → Tx σ ε α
  | some a => pure a
  | none => throw e

@[simp] theorem orThrow_eq_ok {e : ε} {o : Option α} {s : σ} {r : α × σ} :
    (orThrow e o : Tx σ ε α) s = .ok r ↔ ∃ a, o = some a ∧ r = (a, s) := by
  cases o with
  | none => simp [orThrow]
  | some a => simp [orThrow]

/-- The body returns when it is run from `s`. -/
def Accepted (m : Tx σ ε α) (s : σ) : Prop := ∃ r, m s = .ok r

theorem accepted_pure {a : α} {s : σ} : Accepted (pure a : Tx σ ε α) s := ⟨_, rfl⟩

/-- **A sequence is accepted if its first part is, and then its second part.** -/
theorem accepted_bind_iff {m : Tx σ ε α} {f : α → Tx σ ε β} {s : σ} {C : Prop}
    (hf : ∀ a s', m s = .ok (a, s') → (Accepted (f a) s' ↔ C)) :
    Accepted (m >>= f) s ↔ Accepted m s ∧ C := by
  constructor
  · rintro ⟨r, h⟩
    obtain ⟨a, s', hm, hr⟩ := bind_eq_ok.1 h
    exact ⟨⟨(a, s'), hm⟩, (hf a s' hm).1 ⟨r, hr⟩⟩
  · rintro ⟨⟨⟨a, s'⟩, hm⟩, hc⟩
    obtain ⟨r, hr⟩ := (hf a s' hm).2 hc
    exact ⟨r, bind_eq_ok.2 ⟨a, s', hm, hr⟩⟩

/-- Run a body as a transaction: keep its writes when it returns, discard them when it fails. -/
def commit (m : Tx σ ε α) (s : σ) : Except ε α × σ :=
  match m s with
  | .ok (a, s') => (.ok a, s')
  | .error e => (.error e, s)

theorem commit_of_ok {m : Tx σ ε α} {s s' : σ} {a : α} (h : m s = .ok (a, s')) :
    commit m s = (.ok a, s') := by
  rw [commit, h]

theorem commit_of_error {m : Tx σ ε α} {s : σ} {e : ε} (h : m s = .error e) :
    commit m s = (.error e, s) := by
  rw [commit, h]

theorem commit_eq_ok {m : Tx σ ε α} {s s' : σ} {a : α} :
    commit m s = (.ok a, s') ↔ m s = .ok (a, s') := by
  rw [commit]
  split
  · rename_i h
    rw [h]; simp
  · rename_i h
    rw [h]; simp

/-- **A transaction that fails changes nothing.** -/
theorem commit_error {m : Tx σ ε α} {s s' : σ} {e : ε} (h : commit m s = (.error e, s')) :
    s' = s := by
  unfold commit at h
  split at h
  · cases h
  · cases h; rfl

/-- The state after a transaction is the one it started from, or the one its body returned in. -/
theorem commit_cases {m : Tx σ ε α} {s s' : σ} {r : Except ε α} (h : commit m s = (r, s')) :
    (∃ a, r = .ok a ∧ m s = .ok (a, s')) ∨ (∃ e, r = .error e ∧ s' = s) := by
  cases r with
  | ok a => exact .inl ⟨a, rfl, commit_eq_ok.1 h⟩
  | error e => exact .inr ⟨e, rfl, commit_error h⟩

/-- `m` moves the state along `R` whenever it returns. -/
def Moves (R : σ → σ → Prop) (m : Tx σ ε α) : Prop :=
  ∀ s a s', m s = .ok (a, s') → R s s'

theorem Moves.commit {R : σ → σ → Prop} (hrefl : ∀ s, R s s) {m : Tx σ ε α} (hm : Moves R m)
    {s s' : σ} {r : Except ε α} (h : commit m s = (r, s')) : R s s' := by
  rcases commit_cases h with ⟨a, -, ha⟩ | ⟨e, -, rfl⟩
  · exact hm s a s' ha
  · exact hrefl s'

section Moves

variable {R : σ → σ → Prop}

theorem Moves.throw {e : ε} : Moves R (throw e : Tx σ ε α) := fun _ _ _ h =>
  (throw_eq_ok.1 h).elim

/-- **The rule of sequence**, for a relation that composes. -/
theorem Moves.bind (htrans : ∀ s s' s'', R s s' → R s' s'' → R s s'') {m : Tx σ ε α}
    {k : α → Tx σ ε β} (hm : Moves R m) (hk : ∀ a, Moves R (k a)) : Moves R (m >>= k) :=
  fun s x s' h => by
    obtain ⟨a, s₁, h₁, h₂⟩ := bind_eq_ok.1 h
    exact htrans s s₁ s' (hm s a s₁ h₁) (hk a s₁ x s' h₂)

theorem Moves.ite {c : Prop} [Decidable c] {m n : Tx σ ε α} (hm : Moves R m) (hn : Moves R n) :
    Moves R (if c then m else n) := by
  by_cases h : c
  · rwa [if_pos h]
  · rwa [if_neg h]

end Moves

/-- `m` leaves `f` of the state as it was. -/
def Keeps {β : Type} (f : σ → β) (m : Tx σ ε α) : Prop := Moves (fun s s' => f s' = f s) m

section Keeps

variable {γ : Type} {f : σ → γ}

theorem Keeps.pure {a : α} : Keeps f (pure a : Tx σ ε α) := fun s x s' h => by
  rw [(Prod.mk.inj (pure_eq_ok.1 h)).2]

theorem Keeps.throw {e : ε} : Keeps f (throw e : Tx σ ε α) := fun _ _ _ h =>
  (throw_eq_ok.1 h).elim

theorem Keeps.orThrow {e : ε} {o : Option α} : Keeps f (orThrow e o : Tx σ ε α) :=
  fun s x s' h => by
    obtain ⟨a, -, heq⟩ := orThrow_eq_ok.1 h
    rw [(Prod.mk.inj heq).2]

/-- **The frame rule**: a sequence keeps what both parts keep. -/
theorem Keeps.bind {m : Tx σ ε α} {k : α → Tx σ ε β} (hm : Keeps f m) (hk : ∀ a, Keeps f (k a)) :
    Keeps f (m >>= k) := fun s x s' h => by
  obtain ⟨a, s₁, h₁, h₂⟩ := bind_eq_ok.1 h
  exact (hk a s₁ x s' h₂).trans (hm s a s₁ h₁)

theorem Keeps.ite {c : Prop} [Decidable c] {m n : Tx σ ε α} (hm : Keeps f m) (hn : Keeps f n) :
    Keeps f (if c then m else n) := by
  by_cases h : c
  · rwa [if_pos h]
  · rwa [if_neg h]

theorem Keeps.mapM {g : α → Tx σ ε β} (hg : ∀ a, Keeps f (g a)) (l : List α) :
    Keeps f (l.mapM g) := by
  induction l with
  | nil => exact .pure
  | cons a l ih =>
    rw [List.mapM_cons]
    exact .bind (hg a) fun _ => .bind ih fun _ => .pure

end Keeps

/-! ### Commuting with a change of the state -/

/-- Changing the state by `g` before `m` is changing it after: `m` neither sees the change nor
undoes it. -/
def Commutes (g : σ → σ) (m : Tx σ ε α) : Prop :=
  ∀ s, m (g s) = (m s).map fun r => (r.1, g r.2)

section Commutes

variable {g : σ → σ}

theorem Commutes.pure {a : α} : Commutes g (pure a : Tx σ ε α) := fun _ => rfl

theorem Commutes.throw {e : ε} : Commutes g (throw e : Tx σ ε α) := fun _ => rfl

theorem Commutes.orThrow {e : ε} {o : Option α} : Commutes g (orThrow e o : Tx σ ε α) := by
  cases o with
  | none => exact .throw
  | some a => exact .pure

/-- A sequence commutes where its first part does, and its second after any answer of the first. -/
theorem Commutes.bind_of {m : Tx σ ε α} {k : α → Tx σ ε β} (hm : Commutes g m)
    (hk : ∀ s a s', m s = .ok (a, s') → Commutes g (k a)) : Commutes g (m >>= k) := by
  intro s
  show (m (g s) >>= fun p => k p.1 p.2) = (m s >>= fun p => k p.1 p.2).map _
  rw [hm s]
  cases hr : m s with
  | error e => rfl
  | ok r => exact hk s r.1 r.2 hr r.2

theorem Commutes.bind {m : Tx σ ε α} {k : α → Tx σ ε β} (hm : Commutes g m)
    (hk : ∀ a, Commutes g (k a)) : Commutes g (m >>= k) :=
  hm.bind_of fun _ a _ _ => hk a

theorem Commutes.ite {c : Prop} [Decidable c] {m n : Tx σ ε α} (hm : Commutes g m)
    (hn : Commutes g n) : Commutes g (if c then m else n) := by
  by_cases h : c
  · rwa [if_pos h]
  · rwa [if_neg h]

end Commutes

end Tx
end Relational
