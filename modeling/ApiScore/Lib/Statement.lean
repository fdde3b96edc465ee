import ApiScore.Lib.Replay

/-!
# Statements that may fail

A call that works on a database sends it statements.  A statement is refused by the database, or fails
on the way: then it has not been done, or it has been done and the caller does not know.

* `stmt` — a statement, whose failure ends the program unless it is caught.
* `Service`, `Service.machine` — what the statements do, and the runs of any number of calls.
* `Service.step_cases` — a statement that is answered has been done; one that fails has been done or
  has not.
* `Spec.stmt`, `Spec.ensuring` — the rules for such programs.
-/

set_option autoImplicit false

namespace Concurrent

/-- How a statement fails. -/
inductive StatementFault
  | refused | unacknowledged
  deriving DecidableEq, Repr

section Statements

variable {A : Type} {Answer : A → Type} {ι σ In E α β : Type}

/-- The answer of a statement, or how it fails. -/
abbrev Reply (Answer : A → Type) (a : A) : Type := Except StatementFault (Answer a)

/-- A program that sends statements. -/
abbrev StatementCall (A : Type) (Answer : A → Type) (α : Type) : Type :=
  Async A (Reply Answer) StatementFault α

def stmt (a : A) : StatementCall A Answer (Answer a) := ExceptT.mk (Prog.perform a)

/-- `try { p } finally { last }`. -/
def ensuring (p : StatementCall A Answer α) (last : StatementCall A Answer Unit) :
    StatementCall A Answer α := do
  let r ← ExceptT.lift p.run
  last
  ExceptT.mk (.ret r)

/-- A program whose result nobody waits for. -/
def StatementCall.start (p : StatementCall A Answer α) : Prog A (Reply Answer) Unit :=
  p.run >>= fun _ => .ret ()

/-- What the statements do, and the programs that send them. -/
structure Service (A : Type) (Answer : A → Type) (ι σ In E : Type) where
  /-- What a statement of call `i` answers and does; `none` where the database refuses it. -/
  serve : ι → (a : A) → In → σ → Option (Answer a × σ)
  program : E → Prog A (Reply Answer) Unit
  /-- What the surroundings may do to the state on their own. -/
  env : σ → σ → Prop
  /-- What is left of the state when a call dies. -/
  drop : ι → σ → σ

/-- A statement that would do `done`, and fails in this way. -/
def attempt (fault : Option StatementFault) (done : Option (α × σ)) (s : σ) :
    Except StatementFault α × σ :=
  match done, fault with
  | some (x, s'), none => (.ok x, s')
  | some (_, s'), some .unacknowledged => (.error .unacknowledged, s')
  | some _, some .refused | none, _ => (.error .refused, s)

/-- The runs of a service, as far as `allow` lets the statements happen. -/
def Service.machine (S : Service A Answer ι σ In E)
    (allow : ι → A → In × Option StatementFault → σ → Bool) :
    Machine A (Reply Answer) ι σ (In × Option StatementFault) E where
  exec i a input s :=
    if allow i a input s then some (attempt input.2 (S.serve i a input.1 s) s) else none
  program := S.program
  env := S.env
  drop := S.drop

variable {S : Service A Answer ι σ In E}
  {allow : ι → A → In × Option StatementFault → σ → Bool} {i : ι} {a : A} {s s' : σ}
  {b : Reply Answer a}

/-- What a statement may come to. -/
inductive Served (done : Option (α × σ)) (s : σ) : Option StatementFault →
    Except StatementFault α → σ → Prop
  | done {x : α} {s' : σ} (h : done = some (x, s')) : Served done s none (.ok x) s'
  | lost {x : α} {s' : σ} (h : done = some (x, s')) :
    Served done s (some .unacknowledged) (.error .unacknowledged) s'
  | refused {fault : Option StatementFault} (h : done = none ∨ fault = some .refused) :
    Served done s fault (.error .refused) s

theorem attempt_served (fault : Option StatementFault) (done : Option (α × σ)) (s : σ) :
    Served done s fault (attempt fault done s).1 (attempt fault done s).2 := by
  match done, fault with
  | some (x, s'), none => exact .done rfl
  | some (x, s'), some .unacknowledged => exact .lost rfl
  | some (x, s'), some .refused => exact .refused (.inr rfl)
  | none, fault => exact .refused (.inl rfl)

/-- **A statement is answered, lost or refused.** -/
theorem Service.step_cases (h : (S.machine allow).system.step i a s b s') :
    ∃ input, allow i a input s = true ∧ Served (S.serve i a input.1 s) s input.2 b s' := by
  obtain ⟨input, hexec⟩ := h
  rw [Service.machine] at hexec
  dsimp only at hexec
  by_cases hallow : allow i a input s = true
  · rw [if_pos hallow] at hexec
    have hserved := attempt_served input.2 (S.serve i a input.1 s) s
    rw [Option.some.inj hexec] at hserved
    exact ⟨input, hallow, hserved⟩
  · rw [if_neg hallow] at hexec
    cases hexec

/-- What has become of the state: it is as it was, or the statement has been done. -/
theorem Served.moved {done : Option (α × σ)} {fault : Option StatementFault}
    {r : Except StatementFault α} (h : Served done s fault r s') :
    s' = s ∨ ∃ x, done = some (x, s') := by
  cases h with
  | done h | lost h => exact .inr ⟨_, h⟩
  | refused => exact .inl rfl

/-- A statement that is answered has been done. -/
theorem Served.ok {done : Option (α × σ)} {fault : Option StatementFault} {x : α}
    (h : Served done s fault (.ok x) s') : done = some (x, s') := by
  cases h with
  | done h => exact h

/-! ## Rules -/

variable {C : Contract A ι σ}

/-- One statement, then what its answer calls for. -/
theorem Spec.stmt {f : Answer a → StatementCall A Answer β} {Q : β → σ → Prop}
    (h : ∀ s₁, C.rely i s s₁ → C.inv s₁ → C.pre i a s₁ ∧
      ∀ input x s₂, allow i a input s₁ = true → S.serve i a input.1 s₁ = some (x, s₂) → C.inv s₂ →
        C.guar i s₁ s₂ → Spec (S.machine allow).system C i Q (f x) s₂) :
    Spec (S.machine allow).system C i Q (Concurrent.stmt a >>= f) s := by
  refine Safe.act fun s₁ hr hi => ?_
  obtain ⟨hpre, hnext⟩ := h s₁ hr hi
  refine ⟨hpre, fun b s₂ hs h₂ hg => ?_⟩
  obtain ⟨input, hallow, hserved⟩ := Service.step_cases hs
  cases b with
  | ok x => exact hnext input x s₂ hallow hserved.ok h₂ hg
  | error e => exact Safe.ret fun s₃ _ _ y hy => by cases hy

/-- A statement that ends a program. -/
theorem Spec.stmt_last {Q : Answer a → σ → Prop}
    (h : ∀ s₁, C.rely i s s₁ → C.inv s₁ → C.pre i a s₁ ∧
      ∀ input x s₂, allow i a input s₁ = true → S.serve i a input.1 s₁ = some (x, s₂) → C.inv s₂ →
        C.guar i s₁ s₂ → ∀ s₃, C.rely i s₂ s₃ → C.inv s₃ → Q x s₃) :
    Spec (S.machine allow).system C i Q (Concurrent.stmt a) s := by
  refine Safe.act fun s₁ hr hi => ?_
  obtain ⟨hpre, hnext⟩ := h s₁ hr hi
  refine ⟨hpre, fun b s₂ hs h₂ hg => Safe.ret fun s₃ hr₃ h₃ x hx => ?_⟩
  obtain ⟨input, hallow, hserved⟩ := Service.step_cases hs
  subst hx
  exact hnext input x s₂ hallow hserved.ok h₂ hg s₃ hr₃ h₃

/-- What is done at the end is done wherever the program has left off. -/
theorem Spec.ensuring {p : StatementCall A Answer α} {last : StatementCall A Answer Unit}
    (hp : Spec (S.machine allow).system C i (fun _ _ => True) p s) (hinv : C.inv s)
    (hlast : ∀ s₁, C.inv s₁ → Spec (S.machine allow).system C i (fun _ _ => True) last s₁) :
    Spec (S.machine allow).system C i (fun _ _ => True) (Concurrent.ensuring p last) s := by
  have hlifted : Spec (S.machine allow).system C i (fun _ _ => True)
      (ExceptT.lift p.run : StatementCall A Answer _) s :=
    Safe.bind hp hinv fun r s₁ _ _ => Safe.ret fun _ _ _ _ _ => trivial
  refine Spec.bind hlifted hinv fun r s₁ h₁ _ => Spec.bind (hlast s₁ h₁) h₁ fun _ s₂ _ _ => ?_
  exact Safe.ret fun _ _ _ _ _ => trivial

/-- A program that is safe is safe where nobody waits for it. -/
theorem StatementCall.start_safe {p : StatementCall A Answer α} {Q : α → σ → Prop}
    (h : Spec (S.machine allow).system C i Q p s) (hinv : C.inv s) :
    Safe (S.machine allow).system C i (fun _ _ => True) p.start s :=
  Safe.bind h hinv fun _ _ _ _ => Safe.ret fun _ _ _ => trivial

end Statements

end Concurrent
