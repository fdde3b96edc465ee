import ApiScore.Lib.Alone

/-!
# One call in the middle of the others

`Amid` follows one call from its start to its result while a running system goes on around it: between
two of its actions the other calls and the surroundings may move, as often as they like.  What it did
is in a log, each action with the state it found.

* `Amid.bind_iff` — a sequence runs its parts one after the other.
* `Alone.amid` — a call that nobody disturbs.
* `Amid.reaches` — what a call does amid the others, it does in a running system.
* `Discipline.amid` — the parallel rule: a safe call keeps its promise about the result, and has
  performed every action under its precondition.
-/

set_option autoImplicit false

namespace Concurrent

variable {A : Type} {B : A → Type} {ι σ ε α β : Type} [DecidableEq ι] {S : System A B ι σ} {i : ι}

/-- The others, or the surroundings, make one move; call `i` is not in the configuration. -/
structure Meanwhile (S : System A B ι σ) (i : ι) (c c' : Config A B ι σ) : Prop where
  sched : Sched S c c'
  absent : c'.procs i = none

/-- Call `i`, which is not in the configuration, runs `p` to the result `x`.  The others move only
before an action: the call returns at once on its last answer. -/
inductive Amid (S : System A B ι σ) (i : ι) :
    Prog A B α → Config A B ι σ → List (A × σ) → α → Config A B ι σ → Prop
  | ret (x : α) (c : Config A B ι σ) : Amid S i (.ret x) c [] x c
  | act {a : A} {k : B a → Prog A B α} {b : B a} {s : σ} {c c' : Config A B ι σ}
      {log : List (A × σ)} {x : α} (hs : S.step i a c.state b s)
      (hrest : Amid S i (k b) ⟨s, c.procs⟩ log x c') :
      Amid S i (.act a k) c ((a, c.state) :: log) x c'
  | others {a : A} {k : B a → Prog A B α} {c c₁ c' : Config A B ι σ} {log : List (A × σ)} {x : α}
      (ho : Meanwhile S i c c₁) (hrest : Amid S i (.act a k) c₁ log x c') :
      Amid S i (.act a k) c log x c'

variable {p : Prog A B α} {c c' : Config A B ι σ} {log : List (A × σ)} {x : α}

theorem amid_ret {y : α} : Amid S i (.ret y) c log x c' ↔ y = x ∧ c' = c ∧ log = [] := by
  constructor
  · intro h
    cases h
    exact ⟨rfl, rfl, rfl⟩
  · rintro ⟨rfl, rfl, rfl⟩
    exact .ret y c'

/-- The first action of a call, after what the others did before it. -/
theorem amid_act {a : A} {k : B a → Prog A B α} :
    Amid S i (.act a k) c log x c' ↔ ∃ c₁ b s rest, Relation.ReflTransGen (Meanwhile S i) c c₁ ∧
      S.step i a c₁.state b s ∧ Amid S i (k b) ⟨s, c₁.procs⟩ rest x c' ∧
        log = (a, c₁.state) :: rest := by
  constructor
  · intro h
    generalize hq : Prog.act a k = q at h
    induction h with
    | ret => cases hq
    | act hs hrest =>
      cases hq
      exact ⟨_, _, _, _, .refl, hs, hrest, rfl⟩
    | others ho hrest ih =>
      obtain ⟨c₁, b, s, rest, hothers, hs, hk, hlog⟩ := ih hq
      exact ⟨c₁, b, s, rest, .head ho hothers, hs, hk, hlog⟩
  · rintro ⟨c₁, b, s, rest, hothers, hs, hk, rfl⟩
    induction hothers using Relation.ReflTransGen.head_induction_on with
    | refl => exact .act hs hk
    | head ho _ ih => exact .others ho ih

/-- **A sequence runs its parts one after the other.** -/
theorem amid_bind {f : α → Prog A B β} {y : β} :
    Amid S i (p >>= f) c log y c' ↔ ∃ x c₁ log₁ log₂, Amid S i p c log₁ x c₁ ∧
      Amid S i (f x) c₁ log₂ y c' ∧ log = log₁ ++ log₂ := by
  induction p generalizing c log with
  | ret x =>
    constructor
    · intro h
      exact ⟨x, c, [], log, .ret x c, h, rfl⟩
    · rintro ⟨_, _, _, _, hret, h, rfl⟩
      obtain ⟨rfl, rfl, rfl⟩ := amid_ret.1 hret
      exact h
  | act a k ih =>
    rw [Prog.act_bind, amid_act]
    constructor
    · rintro ⟨c₁, b, s, rest, ho, hs, hrest, rfl⟩
      obtain ⟨x, c₂, log₁, log₂, hp, hf, rfl⟩ := (ih b).1 hrest
      exact ⟨x, c₂, _, log₂, amid_act.2 ⟨c₁, b, s, log₁, ho, hs, hp, rfl⟩, hf, rfl⟩
    · rintro ⟨x, c₂, log₁, log₂, hp, hf, rfl⟩
      obtain ⟨c₁, b, s, rest, ho, hs, hrest, rfl⟩ := amid_act.1 hp
      exact ⟨c₁, b, s, _, ho, hs, (ih b).2 ⟨x, c₂, rest, log₂, hrest, hf, rfl⟩, rfl⟩

/-- A call that nobody disturbs. -/
theorem Alone.amid {s' : σ} (h : Alone S i p c.state x s') :
    ∃ log, Amid S i p c log x ⟨s', c.procs⟩ := by
  induction p generalizing c with
  | ret y =>
    obtain ⟨rfl, rfl⟩ := h
    exact ⟨[], .ret y c⟩
  | act a k ih =>
    obtain ⟨b, s₁, hs, h⟩ := h
    obtain ⟨log, hrest⟩ := ih b (c := ⟨s₁, c.procs⟩) h
    exact ⟨_, .act hs hrest⟩

/-! ## In a running system -/

/-- The configuration in which call `i` has this program still to run. -/
def Config.running (c : Config A B ι σ) (i : ι) (p : Prog A B Unit) : Config A B ι σ :=
  ⟨c.state, Function.update c.procs i (some p)⟩

theorem ne_of_started {j : ι} {q : Prog A B Unit} {procs : ι → Option (Prog A B Unit)}
    (h : Function.update procs j (some q) i = none) : j ≠ i := by
  rintro rfl
  rw [Function.update_self] at h
  cases h

/-- What the others do, they also do while call `i` is running. -/
theorem Meanwhile.running (h : Meanwhile S i c c') (hi : c.procs i = none) (q : Prog A B Unit) :
    Sched S (c.running i q) (c'.running i q) := by
  obtain ⟨hs, habsent⟩ := h
  cases hs with
  | @run j a k b s hp hstep =>
    have hne : j ≠ i := fun heq => by rw [heq, hi] at hp; cases hp
    rw [Config.running, Config.running, Function.update_comm hne]
    exact .run ((Function.update_of_ne hne _ _).trans hp) hstep
  | @start j p hj hp =>
    have hne : j ≠ i := ne_of_started habsent
    rw [Config.running, Config.running, Function.update_comm hne]
    exact .start ((Function.update_of_ne hne _ _).trans hj) hp
  | @crash j p hj =>
    have hne : j ≠ i := fun heq => by rw [heq, hi] at hj; cases hj
    rw [Config.running, Config.running, Function.update_comm hne]
    exact .crash ((Function.update_of_ne hne _ _).trans hj)
  | env he => exact .env he

/-- **What a call does amid the others, it does in a running system.** -/
theorem Amid.reaches (h : Amid S i p c log x c') (hi : c.procs i = none) (f : α → Prog A B Unit) :
    Relation.ReflTransGen (Sched S) (c.running i (p >>= f)) (c'.running i (f x)) ∧
      c'.procs i = none := by
  induction h with
  | ret => exact ⟨.refl, hi⟩
  | @act a k b s c c' log x hs _ ih =>
    obtain ⟨hrest, habsent⟩ := ih hi
    have hstep : Sched S (c.running i (.act a k >>= f))
        ((⟨s, c.procs⟩ : Config A B ι σ).running i (k b >>= f)) := by
      have hrun := Sched.run (c := c.running i (.act a k >>= f)) (Function.update_self i _ _) hs
      rw [Config.running, Function.update_idem] at hrun
      exact hrun
    exact ⟨hrest.head hstep, habsent⟩
  | others ho _ ih =>
    obtain ⟨hrest, habsent⟩ := ih ho.absent
    exact ⟨hrest.head (ho.running hi _), habsent⟩

/-! ## The parallel rule -/

/-- Every call but `i` is in order. -/
def Config.OkBut (S : System A B ι σ) (C : Contract A ι σ) (i : ι) (c : Config A B ι σ) : Prop :=
  C.inv c.state ∧ ∀ j, i ≠ j → Slot S C j (c.procs j) c.state

/-- What the others do keeps them in order, and call `i` relies on it. -/
theorem Discipline.meanwhile {C : Contract A ι σ} (D : Discipline S C) (h : c.OkBut S C i)
    (hi : c.procs i = none) (ho : Meanwhile S i c c') :
    c'.OkBut S C i ∧ C.rely i c.state c'.state := by
  obtain ⟨hinv, hslot⟩ := h
  obtain ⟨hs, habsent⟩ := ho
  -- the slot of the call that moved, and those of the others
  have hothers : ∀ {j : ι} {q : Prog A B Unit} {s : σ}, Safe S C j (fun _ _ => True) q s →
      (∀ l, j ≠ l → C.rely l c.state s) → ∀ l, i ≠ l →
        Slot S C l (Function.update c.procs j (some q) l) s := by
    intro j q s hq hrely l hil
    by_cases hjl : j = l
    · subst hjl
      rw [Function.update_self]
      exact hq
    · rw [Function.update_of_ne (Ne.symm hjl)]
      exact D.slot (hslot l hil) (hrely l hjl)
  cases hs with
  | @run j a k b s hp hstep =>
    have hne : j ≠ i := fun heq => by rw [heq, hi] at hp; cases hp
    have hj := hslot j (Ne.symm hne)
    rw [hp] at hj
    obtain ⟨hpre, hk⟩ := hj _ (C.refl j _) hinv
    obtain ⟨hinv', hguar⟩ := D.step j a b _ _ hinv hpre hstep
    exact ⟨⟨hinv', hothers (hk b s hstep hinv' hguar) fun l hjl =>
      D.compatible j l _ _ hjl hguar⟩, D.compatible j i _ _ hne hguar⟩
  | @start j p hj hp =>
    have hne : j ≠ i := ne_of_started habsent
    have hfresh := hslot j (Ne.symm hne)
    rw [hj] at hfresh
    exact ⟨⟨hinv, hothers (D.entry j p _ hp hinv hfresh) fun l _ => C.refl l _⟩, C.refl i _⟩
  | @crash j p hj =>
    have hne : j ≠ i := fun heq => by rw [heq, hi] at hj; cases hj
    obtain ⟨hinv', hrely⟩ := D.drop j _ hinv
    exact ⟨⟨hinv', hothers (fun _ _ _ => trivial) hrely⟩, hrely i hne⟩
  | env he =>
    obtain ⟨hinv', hrely⟩ := D.env _ _ he hinv
    exact ⟨⟨hinv', fun l hil => D.slot (hslot l hil) (hrely l)⟩, hrely i⟩

theorem Discipline.meanwhiles {C : Contract A ι σ} (D : Discipline S C) (h : c.OkBut S C i)
    (hi : c.procs i = none) (ho : Relation.ReflTransGen (Meanwhile S i) c c') :
    c'.OkBut S C i ∧ c'.procs i = none ∧ C.rely i c.state c'.state := by
  induction ho with
  | refl => exact ⟨h, hi, C.refl i _⟩
  | tail _ hlast ih =>
    obtain ⟨hok, habsent, hrely⟩ := ih
    obtain ⟨hok', hlast'⟩ := D.meanwhile hok habsent hlast
    exact ⟨hok', hlast.absent, C.trans i _ _ _ hrely hlast'⟩

/-- **A safe call keeps its promise amid the others**, and has acted under its preconditions. -/
theorem Discipline.amid {C : Contract A ι σ} (D : Discipline S C) {Q : α → σ → Prop}
    (h : Amid S i p c log x c') (hok : c.OkBut S C i) (hi : c.procs i = none)
    (hsafe : Safe S C i Q p c.state) :
    c'.OkBut S C i ∧ c'.procs i = none ∧ Q x c'.state ∧ ∀ e ∈ log, C.pre i e.1 e.2 := by
  induction h with
  | ret x c => exact ⟨hok, hi, hsafe _ (C.refl i _) hok.1, fun _ he => (List.not_mem_nil he).elim⟩
  | act hs _ ih =>
    obtain ⟨hpre, hk⟩ := hsafe _ (C.refl i _) hok.1
    obtain ⟨hinv', hguar⟩ := D.step _ _ _ _ _ hok.1 hpre hs
    obtain ⟨hok', habsent, hQ, hlog⟩ := ih
      ⟨hinv', fun j hij => D.slot (hok.2 j hij) (D.compatible i j _ _ hij hguar)⟩ hi
      (hk _ _ hs hinv' hguar)
    exact ⟨hok', habsent, hQ, List.forall_mem_cons.2 ⟨hpre, hlog⟩⟩
  | others ho _ ih =>
    obtain ⟨hok', hrely⟩ := D.meanwhile hok hi ho
    exact ih hok' ho.absent (hsafe.stable hrely)

/-- The first action of a call that acts under its preconditions: the state it finds, and what is
left to do. -/
theorem Discipline.amid_act {C : Contract A ι σ} (D : Discipline S C) {a : A}
    {k : B a → Prog A B α} (h : Amid S i (.act a k) c log x c') (hok : c.OkBut S C i)
    (hi : c.procs i = none) (hpre : ∀ e ∈ log, C.pre i e.1 e.2) :
    ∃ (s : σ) (b : B a) (c₁ : Config A B ι σ) (rest : List (A × σ)), C.rely i c.state s ∧ C.inv s ∧
      S.step i a s b c₁.state ∧ C.guar i s c₁.state ∧ c₁.OkBut S C i ∧ c₁.procs i = none ∧
        Amid S i (k b) c₁ rest x c' ∧ log = (a, s) :: rest := by
  obtain ⟨c₁, b, s, rest, hothers, hs, hk, rfl⟩ := Concurrent.amid_act.1 h
  obtain ⟨hok₁, habsent, hrely⟩ := D.meanwhiles hok hi hothers
  obtain ⟨hinv, hguar⟩ := D.step i a b _ _ hok₁.1 (List.forall_mem_cons.1 hpre).1 hs
  exact ⟨c₁.state, b, ⟨s, c₁.procs⟩, rest, hrely, hok₁.1, hs, hguar,
    ⟨hinv, fun j hij => D.slot (hok₁.2 j hij) (D.compatible i j _ _ hij hguar)⟩, habsent, hk, rfl⟩

/-- A call that has acted under its preconditions leaves the others in order. -/
theorem Discipline.amid_log {C : Contract A ι σ} (D : Discipline S C) (h : Amid S i p c log x c')
    (hok : c.OkBut S C i) (hi : c.procs i = none) (hpre : ∀ e ∈ log, C.pre i e.1 e.2) :
    c'.OkBut S C i ∧ c'.procs i = none := by
  induction h with
  | ret => exact ⟨hok, hi⟩
  | act hs _ ih =>
    obtain ⟨hfirst, hrest⟩ := List.forall_mem_cons.1 hpre
    obtain ⟨hinv', hguar⟩ := D.step _ _ _ _ _ hok.1 hfirst hs
    exact ih ⟨hinv', fun j hij => D.slot (hok.2 j hij) (D.compatible i j _ _ hij hguar)⟩ hi hrest
  | others ho _ ih => exact ih (D.meanwhile hok hi ho).1 ho.absent hpre

/-! ## Programs that may fail -/

/-- A program that may fail returns `x` amid the others. -/
abbrev Yields (S : System A B ι σ) (i : ι) (p : Async A B ε α) (c : Config A B ι σ)
    (log : List (A × σ)) (x : α) (c' : Config A B ι σ) : Prop :=
  Amid S i p.run c log (.ok x) c'

theorem yields_pure {x y : α} :
    Yields S i (pure x : Async A B ε α) c log y c' ↔ x = y ∧ c' = c ∧ log = [] := by
  show Amid S i (.ret (.ok x)) c log (.ok y : Except ε α) c' ↔ _
  rw [amid_ret, Except.ok.injEq]

theorem not_yields_throw {e : ε} {y : α} : ¬ Yields S i (throw e : Async A B ε α) c log y c' :=
  fun h => nomatch h

/-- A sequence that returns has run its first part to a result. -/
theorem Yields.of_bind {p : Async A B ε α} {f : α → Async A B ε β} {y : β}
    (h : Yields S i (p >>= f) c log y c') : ∃ x c₁ log₁ log₂, Yields S i p c log₁ x c₁ ∧
      Yields S i (f x) c₁ log₂ y c' ∧ log = log₁ ++ log₂ := by
  obtain ⟨r, c₁, log₁, log₂, hp, hf, hlog⟩ := amid_bind.1 h
  cases r with
  | ok x => exact ⟨x, c₁, log₁, log₂, hp, hf, hlog⟩
  | error e => exact (not_yields_throw hf).elim

/-- A program under a `try` that returns has returned itself, or was caught. -/
theorem Yields.of_tryCatch {p : Async A B ε α} {f : ε → Async A B ε α}
    (h : Yields S i (tryCatch p f) c log x c') : Yields S i p c log x c' ∨
      ∃ e c₁ log₁ log₂, Amid S i p.run c log₁ (.error e) c₁ ∧ Yields S i (f e) c₁ log₂ x c' ∧
        log = log₁ ++ log₂ := by
  obtain ⟨r, c₁, log₁, log₂, hp, hf, rfl⟩ := amid_bind.1 h
  cases r with
  | ok y =>
    obtain ⟨rfl, rfl, rfl⟩ := yields_pure.1 hf
    rw [List.append_nil]
    exact .inl hp
  | error e => exact .inr ⟨e, c₁, log₁, log₂, hp, hf, rfl⟩

end Concurrent
