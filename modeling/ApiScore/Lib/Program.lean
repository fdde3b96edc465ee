import Mathlib.Logic.Function.Basic
import Mathlib.Logic.Relation

/-!
# Concurrent programs and rely–guarantee reasoning

A `Prog` is a sequential program over atomic actions: it performs an action, receives its answer
and goes on.  A `System` runs any number of such programs, one for each call, over a shared state:
a scheduler picks any call and runs its next action, starts a call that has not been used, lets a
call die in the middle, or lets the surroundings move.

Nothing is proved about interleavings directly.  A `Contract` names an invariant, a precondition for
each action, what a call relies on and what it guarantees.  `Safe` says that one program performs an
action only when its precondition holds, whatever the others do within its rely.  `Discipline` asks
for that and for what one action does to the invariant, each in isolation.

* `Safe.act`, `Safe.ret`, `Safe.bind` — the rules for proving a program safe.
* `Spec.perform`, `Spec.bind`, `Spec.tryCatch` — the same for programs that may fail.
* `Discipline.reachable` — the parallel rule: every reachable state satisfies the invariant.
* `Discipline.path` — every run is a run of single actions, each performed under its precondition,
  so a property of all runs is proved by induction on those alone.
* `Discipline.evolves` — what every step does to the state, a run does.
-/

set_option autoImplicit false

namespace Concurrent

/-- A program over actions `A`, each answering with a `B a`. -/
inductive Prog (A : Type) (B : A → Type) (α : Type)
  | ret (x : α)
  | act (a : A) (k : B a → Prog A B α)

namespace Prog

variable {A : Type} {B : A → Type} {α β : Type}

/-- Run `p`, then go on with its result. -/
protected def bind : Prog A B α → (α → Prog A B β) → Prog A B β
  | .ret x, f => f x
  | .act a k, f => .act a fun b => (k b).bind f

instance : Monad (Prog A B) where
  pure := .ret
  bind := Prog.bind

/-- The program that performs one action and returns its answer. -/
def perform (a : A) : Prog A B (B a) := .act a .ret

@[simp] theorem pure_eq (x : α) : (pure x : Prog A B α) = .ret x := rfl

@[simp] theorem ret_bind (x : α) (f : α → Prog A B β) : (Prog.ret x >>= f) = f x := rfl

@[simp] theorem act_bind (a : A) (k : B a → Prog A B α) (f : α → Prog A B β) :
    (Prog.act a k >>= f) = .act a fun b => k b >>= f := rfl

end Prog

/-- A program that may also fail. -/
abbrev Async (A : Type) (B : A → Type) (ε α : Type) : Type := ExceptT ε (Prog A B) α

/-- What the actions and the surroundings do to the shared state. -/
structure System (A : Type) (B : A → Type) (ι σ : Type) where
  /-- `step i a s b s'`: call `i` may perform `a` in `s`, receive `b` and leave `s'`. -/
  step : ι → (a : A) → σ → B a → σ → Prop
  /-- The programs a call may run. -/
  entry : Prog A B Unit → Prop
  /-- What the surroundings may do to the state on their own. -/
  env : σ → σ → Prop
  /-- What is left of the state when call `i` dies: its locks are released. -/
  drop : ι → σ → σ

variable {A : Type} {B : A → Type} {ι σ ε α β : Type}

/-- A state of a running system: the shared state, and what each started call still has to do. -/
structure Config (A : Type) (B : A → Type) (ι σ : Type) where
  state : σ
  procs : ι → Option (Prog A B Unit)

/-- The configuration before any call has started. -/
def Config.init (s : σ) : Config A B ι σ := ⟨s, fun _ => none⟩

/-- One move of the scheduler. -/
inductive Sched [DecidableEq ι] (S : System A B ι σ) : Config A B ι σ → Config A B ι σ → Prop
  | run {c : Config A B ι σ} {i : ι} {a : A} {k : B a → Prog A B Unit} {b : B a} {s' : σ}
      (hp : c.procs i = some (.act a k)) (hs : S.step i a c.state b s') :
      Sched S c ⟨s', Function.update c.procs i (some (k b))⟩
  | start {c : Config A B ι σ} {i : ι} {p : Prog A B Unit} (hi : c.procs i = none)
      (hp : S.entry p) : Sched S c ⟨c.state, Function.update c.procs i (some p)⟩
  | crash {c : Config A B ι σ} {i : ι} {p : Prog A B Unit} (hi : c.procs i = some p) :
      Sched S c ⟨S.drop i c.state, Function.update c.procs i (some (.ret ()))⟩
  | env {c : Config A B ι σ} {s' : σ} (h : S.env c.state s') : Sched S c ⟨s', c.procs⟩

/-- The configurations a run can reach. -/
inductive Reachable [DecidableEq ι] (S : System A B ι σ) (init : Config A B ι σ) :
    Config A B ι σ → Prop
  | init : Reachable S init init
  | step {c c' : Config A B ι σ} : Reachable S init c → Sched S c c' → Reachable S init c'

/-- **A run stays a run where more is allowed.** -/
theorem Reachable.mono [DecidableEq ι] {S S' : System A B ι σ}
    (hstep : ∀ i a s b s', S.step i a s b s' → S'.step i a s b s')
    (hentry : ∀ p, S.entry p → S'.entry p) (henv : ∀ s s', S.env s s' → S'.env s s')
    (hdrop : S'.drop = S.drop) {c₀ c : Config A B ι σ} (h : Reachable S c₀ c) :
    Reachable S' c₀ c := by
  induction h with
  | init => exact .init
  | step _ hs ih =>
    refine .step ih ?_
    cases hs with
    | run hp hs => exact .run hp (hstep _ _ _ _ _ hs)
    | start hi hp => exact .start hi (hentry _ hp)
    | crash hi => exact hdrop ▸ .crash hi
    | env h => exact .env (henv _ _ h)

/-- What is assumed of, and promised to, the other calls. -/
structure Contract (A ι σ : Type) where
  /-- Holds in every state of a run. -/
  inv : σ → Prop
  /-- When call `i` may perform an action. -/
  pre : ι → A → σ → Prop
  /-- What call `i` does in one action. -/
  guar : ι → σ → σ → Prop
  /-- What call `i` tolerates from the others. -/
  rely : ι → σ → σ → Prop
  /-- Call `i` has left no trace in the state. -/
  fresh : ι → σ → Prop
  refl : ∀ i s, rely i s s
  trans : ∀ i s s' s'', rely i s s' → rely i s' s'' → rely i s s''

section Safety

variable (S : System A B ι σ) (C : Contract A ι σ)

/-- Call `i` running `p` from `s` performs each action under its precondition, and returns only
results satisfying `Q`. -/
def Safe (i : ι) (Q : α → σ → Prop) : Prog A B α → σ → Prop
  | .ret x, s => ∀ s₁, C.rely i s s₁ → C.inv s₁ → Q x s₁
  | .act a k, s => ∀ s₁, C.rely i s s₁ → C.inv s₁ → C.pre i a s₁ ∧
      ∀ b s₂, S.step i a s₁ b s₂ → C.inv s₂ → C.guar i s₁ s₂ → Safe i Q (k b) s₂

variable {S C} {i : ι} {Q : α → σ → Prop} {s s' : σ}

/-- **A safe program stays safe while the others move.** -/
theorem Safe.stable {p : Prog A B α} (h : Safe S C i Q p s) (hr : C.rely i s s') :
    Safe S C i Q p s' := by
  cases p with
  | ret x => exact fun s₁ h₁ hi => h s₁ (C.trans i s s' s₁ hr h₁) hi
  | act a k => exact fun s₁ h₁ hi => h s₁ (C.trans i s s' s₁ hr h₁) hi

theorem Safe.ret {x : α} (h : ∀ s₁, C.rely i s s₁ → C.inv s₁ → Q x s₁) :
    Safe S C i Q (.ret x) s := h

theorem Safe.act {a : A} {k : B a → Prog A B α}
    (h : ∀ s₁, C.rely i s s₁ → C.inv s₁ → C.pre i a s₁ ∧
      ∀ b s₂, S.step i a s₁ b s₂ → C.inv s₂ → C.guar i s₁ s₂ → Safe S C i Q (k b) s₂) :
    Safe S C i Q (.act a k) s := h

/-- Weaken the promise about the result. -/
theorem Safe.imp {p : Prog A B α} {Q' : α → σ → Prop} (h : Safe S C i Q p s)
    (hQ : ∀ x s₁, C.inv s₁ → Q x s₁ → Q' x s₁) : Safe S C i Q' p s := by
  induction p generalizing s with
  | ret x => exact fun s₁ hr hi => hQ x s₁ hi (h s₁ hr hi)
  | act a k ih =>
    intro s₁ hr hi
    obtain ⟨hpre, hk⟩ := h s₁ hr hi
    exact ⟨hpre, fun b s₂ hs h₂ hg => ih b (hk b s₂ hs h₂ hg)⟩

/-- **Sequencing**: what the first program promises of its result holds where the second starts. -/
theorem Safe.bind {p : Prog A B α} {f : α → Prog A B β} {Q' : β → σ → Prop}
    (h : Safe S C i Q p s) (hinv : C.inv s)
    (hf : ∀ x s₁, C.inv s₁ → Q x s₁ → Safe S C i Q' (f x) s₁) :
    Safe S C i Q' (p >>= f) s := by
  induction p generalizing s with
  | ret x => exact hf x s hinv (h s (C.refl i s) hinv)
  | act a k ih =>
    intro s₁ hr hi
    obtain ⟨hpre, hk⟩ := h s₁ hr hi
    exact ⟨hpre, fun b s₂ hs h₂ hg => ih b (hk b s₂ hs h₂ hg) h₂⟩

/-- A fact that neither the others nor the call itself can undo survives a program. -/
theorem Safe.frame {p : Prog A B α} {P : σ → Prop} (h : Safe S C i Q p s) (hP : P s)
    (hrely : ∀ s₁ s₂, C.rely i s₁ s₂ → P s₁ → P s₂)
    (hguar : ∀ s₁ s₂, C.guar i s₁ s₂ → P s₁ → P s₂) :
    Safe S C i (fun x s₁ => Q x s₁ ∧ P s₁) p s := by
  induction p generalizing s with
  | ret x => exact fun s₁ hr hi => ⟨h s₁ hr hi, hrely s s₁ hr hP⟩
  | act a k ih =>
    intro s₁ hr hi
    obtain ⟨hpre, hk⟩ := h s₁ hr hi
    exact ⟨hpre, fun b s₂ hs h₂ hg =>
      ih b (hk b s₂ hs h₂ hg) (hguar s₁ s₂ hg (hrely s s₁ hr hP))⟩

/-! ### Programs that may fail -/

/-- A program that may fail is safe, and when it returns a result, `Q` holds of it. -/
def Spec (S : System A B ι σ) (C : Contract A ι σ) (i : ι) (Q : α → σ → Prop)
    (p : Async A B ε α) (s : σ) : Prop :=
  Safe S C i (fun r s₁ => ∀ x, r = .ok x → Q x s₁) p.run s

theorem Spec.stable {p : Async A B ε α} {Q : α → σ → Prop} (h : Spec S C i Q p s)
    (hr : C.rely i s s') : Spec S C i Q p s' :=
  Safe.stable h hr

theorem Spec.imp {p : Async A B ε α} {Q Q' : α → σ → Prop} (h : Spec S C i Q p s)
    (hQ : ∀ x s₁, C.inv s₁ → Q x s₁ → Q' x s₁) : Spec S C i Q' p s :=
  Safe.imp h fun _ s₁ hi hx x hr => hQ x s₁ hi (hx x hr)

theorem Spec.pure {x : α} {Q : α → σ → Prop}
    (h : ∀ s₁, C.rely i s s₁ → C.inv s₁ → Q x s₁) :
    Spec S C i Q (pure x : Async A B ε α) s := by
  refine Safe.ret fun s₁ hr hi y hy => ?_
  rw [← Except.ok.inj hy]
  exact h s₁ hr hi

theorem Spec.throw {e : ε} {Q : α → σ → Prop} : Spec S C i Q (throw e : Async A B ε α) s := by
  refine Safe.ret fun s₁ _ _ y hy => ?_
  cases hy

/-- One action, with what its answer says. -/
theorem Spec.perform {a : A} {Q : B a → σ → Prop}
    (h : ∀ s₁, C.rely i s s₁ → C.inv s₁ → C.pre i a s₁ ∧
      ∀ b s₂, S.step i a s₁ b s₂ → C.inv s₂ → C.guar i s₁ s₂ →
        ∀ s₃, C.rely i s₂ s₃ → C.inv s₃ → Q b s₃) :
    Spec S C i Q (ExceptT.lift (Prog.perform a) : Async A B ε (B a)) s := by
  refine Safe.act fun s₁ hr hi => ?_
  obtain ⟨hpre, hstep⟩ := h s₁ hr hi
  refine ⟨hpre, fun b s₂ hs h₂ hg => Safe.ret fun s₃ hr₃ hi₃ y hy => ?_⟩
  rw [← Except.ok.inj hy]
  exact hstep b s₂ hs h₂ hg s₃ hr₃ hi₃

/-- One action, then what its answer calls for. -/
theorem Spec.act {a : A} {f : B a → Async A B ε β} {Q : β → σ → Prop}
    (h : ∀ s₁, C.rely i s s₁ → C.inv s₁ → C.pre i a s₁ ∧
      ∀ b s₂, S.step i a s₁ b s₂ → C.inv s₂ → C.guar i s₁ s₂ → Spec S C i Q (f b) s₂) :
    Spec S C i Q (ExceptT.lift (Prog.perform a) >>= f) s :=
  Safe.act h

/-- **Sequencing** of programs that may fail: a failure of the first ends both. -/
theorem Spec.bind {p : Async A B ε α} {f : α → Async A B ε β} {R : α → σ → Prop}
    {Q : β → σ → Prop} (h : Spec S C i R p s) (hinv : C.inv s)
    (hf : ∀ x s₁, C.inv s₁ → R x s₁ → Spec S C i Q (f x) s₁) : Spec S C i Q (p >>= f) s := by
  refine Safe.bind h hinv fun r s₁ hi hr => ?_
  cases r with
  | ok x => exact hf x s₁ hi (hr x rfl)
  | error e =>
    refine Safe.ret fun s₂ _ _ y hy => ?_
    cases hy

/-- A handler runs wherever the program it guards may have failed. -/
theorem Spec.tryCatch {p : Async A B ε α} {f : ε → Async A B ε α} {Q : α → σ → Prop}
    (h : Spec S C i Q p s) (hinv : C.inv s)
    (hrely : ∀ x s₁ s₂, C.rely i s₁ s₂ → Q x s₁ → Q x s₂)
    (hf : ∀ e s₁, C.inv s₁ → Spec S C i Q (f e) s₁) :
    Spec S C i Q (tryCatch p f) s := by
  refine Safe.bind h hinv fun r s₁ hi hr => ?_
  cases r with
  | ok x =>
    refine Safe.ret fun s₂ hr₂ _ y hy => ?_
    rw [← Except.ok.inj hy]
    exact hrely x s₁ s₂ hr₂ (hr x rfl)
  | error e => exact hf e s₁ hi

/-- The same, for a handler that needs a fact which nobody undoes. -/
theorem Spec.tryCatch_frame {p : Async A B ε α} {f : ε → Async A B ε α} {P : σ → Prop}
    {Q : α → σ → Prop} (h : Spec S C i Q p s) (hinv : C.inv s) (hP : P s)
    (hPrely : ∀ s₁ s₂, C.rely i s₁ s₂ → P s₁ → P s₂)
    (hPguar : ∀ s₁ s₂, C.guar i s₁ s₂ → P s₁ → P s₂)
    (hrely : ∀ x s₁ s₂, C.rely i s₁ s₂ → Q x s₁ → Q x s₂)
    (hf : ∀ e s₁, C.inv s₁ → P s₁ → Spec S C i Q (f e) s₁) :
    Spec S C i Q (MonadExcept.tryCatch p f) s := by
  refine Safe.bind (Safe.frame h hP hPrely hPguar) hinv fun r s₁ hi hr => ?_
  cases r with
  | ok x =>
    refine Safe.ret fun s₂ hr₂ _ y hy => ?_
    rw [← Except.ok.inj hy]
    exact hrely x s₁ s₂ hr₂ (hr.1 x rfl)
  | error e => exact hf e s₁ hi hr.2

end Safety

/-- One action performed under its precondition, or a move of the surroundings. -/
inductive Guarded (S : System A B ι σ) (C : Contract A ι σ) : σ → σ → Prop
  | act {i : ι} {a : A} {b : B a} {s s' : σ} (hpre : C.pre i a s) (hs : S.step i a s b s') :
      Guarded S C s s'
  | env {s s' : σ} (h : S.env s s') : Guarded S C s s'
  | drop (i : ι) (s : σ) : Guarded S C s (S.drop i s)

/-- The obligations of the parallel rule. -/
structure Discipline (S : System A B ι σ) (C : Contract A ι σ) : Prop where
  /-- Every program a call may run is safe from every state in which the call is fresh. -/
  entry : ∀ i p s, S.entry p → C.inv s → C.fresh i s → Safe S C i (fun _ _ => True) p s
  /-- An action under its precondition keeps the invariant and its guarantee. -/
  step : ∀ i a b s s', C.inv s → C.pre i a s → S.step i a s b s' → C.inv s' ∧ C.guar i s s'
  /-- What one call guarantees, every other call relies on. -/
  compatible : ∀ i j s s', i ≠ j → C.guar i s s' → C.rely j s s'
  /-- What the others do does not touch a fresh call. -/
  fresh : ∀ i s s', C.rely i s s' → C.fresh i s → C.fresh i s'
  /-- The surroundings keep the invariant and every rely. -/
  env : ∀ s s', S.env s s' → C.inv s → C.inv s' ∧ ∀ j, C.rely j s s'
  /-- So does the death of a call. -/
  drop : ∀ i s, C.inv s → C.inv (S.drop i s) ∧ ∀ j, i ≠ j → C.rely j s (S.drop i s)

/-! ## Other surroundings -/

/-- The same system, among surroundings that do only what `E` allows. -/
def System.among (S : System A B ι σ) (E : σ → σ → Prop) : System A B ι σ := { S with env := E }

/-- **Whether a program is safe depends on what the actions do, not on the surroundings.** -/
theorem Safe.among {S : System A B ι σ} {C : Contract A ι σ} {i : ι} {Q : α → σ → Prop}
    (E : σ → σ → Prop) {p : Prog A B α} {s : σ} (h : Safe S C i Q p s) :
    Safe (S.among E) C i Q p s := by
  induction p generalizing s with
  | ret x => exact h
  | act a k ih =>
    intro s₁ hr hi
    obtain ⟨hpre, hk⟩ := h s₁ hr hi
    exact ⟨hpre, fun b s₂ hs h₂ hg => ih b (hk b s₂ hs h₂ hg)⟩

/-- A discipline holds among other surroundings that keep the invariant and every rely. -/
theorem Discipline.among {S : System A B ι σ} {C : Contract A ι σ} (D : Discipline S C)
    {E : σ → σ → Prop} (henv : ∀ s s', E s s' → C.inv s → C.inv s' ∧ ∀ j, C.rely j s s') :
    Discipline (S.among E) C where
  entry i p s hp hinv hf := (D.entry i p s hp hinv hf).among E
  step := D.step
  compatible := D.compatible
  fresh := D.fresh
  env := henv
  drop := D.drop

/-- What a run maintains of one call: it is fresh, or safe in what it still has to do. -/
def Slot (S : System A B ι σ) (C : Contract A ι σ) (i : ι) : Option (Prog A B Unit) → σ → Prop
  | none, s => C.fresh i s
  | some p, s => Safe S C i (fun _ _ => True) p s

/-- What a running system maintains: the invariant, and what holds of every call. -/
def Config.Ok (S : System A B ι σ) (C : Contract A ι σ) (c : Config A B ι σ) : Prop :=
  C.inv c.state ∧ ∀ i, Slot S C i (c.procs i) c.state

theorem Config.ok_init {S : System A B ι σ} {C : Contract A ι σ} {s : σ} (h : C.inv s)
    (hf : ∀ i, C.fresh i s) : (Config.init s : Config A B ι σ).Ok S C :=
  ⟨h, hf⟩

theorem Discipline.slot {S : System A B ι σ} {C : Contract A ι σ} (D : Discipline S C) {i : ι}
    {p : Option (Prog A B Unit)} {s s' : σ} (h : Slot S C i p s) (hr : C.rely i s s') :
    Slot S C i p s' := by
  cases p with
  | none => exact D.fresh i s s' hr h
  | some p => exact Safe.stable h hr

variable [DecidableEq ι]

/-- Replacing the program of call `i`, after a move the others rely on, keeps every call in order. -/
theorem Discipline.update {S : System A B ι σ} {C : Contract A ι σ} (D : Discipline S C)
    {procs : ι → Option (Prog A B Unit)} {i : ι} {p : Prog A B Unit} {s s' : σ}
    (h : ∀ j, Slot S C j (procs j) s) (hp : Safe S C i (fun _ _ => True) p s')
    (hr : ∀ j, i ≠ j → C.rely j s s') (j : ι) :
    Slot S C j (Function.update procs i (some p) j) s' := by
  by_cases hij : i = j
  · subst hij
    rw [Function.update_self]
    exact hp
  · rw [Function.update_of_ne (Ne.symm hij)]
    exact D.slot (h j) (hr j hij)

/-- One move of the scheduler keeps a running system in order, and is one guarded step or none. -/
theorem Config.Ok.sched {S : System A B ι σ} {C : Contract A ι σ} (D : Discipline S C)
    {c c' : Config A B ι σ} (h : c.Ok S C) (hs : Sched S c c') :
    c'.Ok S C ∧ Relation.ReflGen (Guarded S C) c.state c'.state := by
  obtain ⟨hinv, hslot⟩ := h
  cases hs with
  | @run i a k b s' hp hstep =>
    have hi := hslot i
    rw [hp] at hi
    obtain ⟨hpre, hk⟩ := hi _ (C.refl i _) hinv
    obtain ⟨h₁, h₂⟩ := D.step i a b _ _ hinv hpre hstep
    exact ⟨⟨h₁, D.update hslot (hk b s' hstep h₁ h₂) fun j hij => D.compatible i j _ _ hij h₂⟩,
      .single (.act hpre hstep)⟩
  | @start i p hi hp =>
    have hf := hslot i
    rw [hi] at hf
    exact ⟨⟨hinv, D.update hslot (D.entry i p _ hp hinv hf) fun j _ => C.refl j _⟩, .refl⟩
  | @crash i p hi =>
    obtain ⟨h₁, h₂⟩ := D.drop i _ hinv
    exact ⟨⟨h₁, D.update hslot (fun _ _ _ => trivial) h₂⟩, .single (.drop i _)⟩
  | env henv =>
    obtain ⟨h₁, h₂⟩ := D.env _ _ henv hinv
    exact ⟨⟨h₁, fun j => D.slot (hslot j) (h₂ j)⟩, .single (.env henv)⟩

/-- **The parallel rule.**  Under a discipline every reachable configuration is in order. -/
theorem Discipline.reachable {S : System A B ι σ} {C : Contract A ι σ} (D : Discipline S C)
    {s : σ} (hs : C.inv s) (hf : ∀ i, C.fresh i s) {c : Config A B ι σ}
    (h : Reachable S (Config.init s) c) : c.Ok S C := by
  induction h with
  | init => exact Config.ok_init hs hf
  | step _ hstep ih => exact (ih.sched D hstep).1

/-- **A run is a run of guarded steps.** -/
theorem Discipline.path {S : System A B ι σ} {C : Contract A ι σ} (D : Discipline S C)
    {s : σ} (hs : C.inv s) (hf : ∀ i, C.fresh i s) {c : Config A B ι σ}
    (h : Reachable S (Config.init s) c) :
    Relation.ReflTransGen (Guarded S C) s c.state := by
  induction h with
  | init => exact .refl
  | step hr hstep ih => exact ih.trans ((D.reachable hs hf hr).sched D hstep).2.to_reflTransGen

/-- **What every step does, a run does**: a relation that is kept by what the calls guarantee, by
the surroundings and by the death of a call, holds between any two states of a run. -/
theorem Discipline.evolves {S : System A B ι σ} {C : Contract A ι σ} (D : Discipline S C)
    {R : σ → σ → Prop} (hrefl : ∀ s, R s s) (htrans : ∀ s s' s'', R s s' → R s' s'' → R s s'')
    (hguar : ∀ i s s', C.guar i s s' → R s s') (henv : ∀ s s', S.env s s' → R s s')
    (hdrop : ∀ i s, R s (S.drop i s)) {c c' : Config A B ι σ} (hc : c.Ok S C)
    (h : Reachable S c c') : c'.Ok S C ∧ R c.state c'.state := by
  induction h with
  | init => exact ⟨hc, hrefl _⟩
  | step _ hstep ih =>
    obtain ⟨hok, hsteps⟩ := ih.1.sched D hstep
    have hone {s s' : σ} (hinv : C.inv s) (hs : Guarded S C s s') : R s s' := by
      cases hs with
      | act hpre hs => exact hguar _ _ _ (D.step _ _ _ _ _ hinv hpre hs).2
      | env he => exact henv _ _ he
      | drop i => exact hdrop i s
    refine ⟨hok, htrans _ _ _ ih.2 ?_⟩
    rcases (Relation.reflGen_iff ..).1 hsteps with heq | hs
    · rw [heq]
      exact hrefl _
    · exact hone ih.1.1 hs

end Concurrent
