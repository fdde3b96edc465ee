import ApiScore.Lib.Program

/-!
# Machines and replays

A `Machine` is a system whose actions are computed: given what the surroundings answer to an action,
`exec` says what it does, or that it has to wait.  A run that shows something is then the list of the
scheduler's choices, and `Machine.replay` runs it.

* `Machine.replay_reachable` — a replay stays within the runs of the machine.
* `Config.Quiet`, `Machine.replay_quiet` — no call is in progress.
-/

set_option autoImplicit false

namespace Concurrent

variable {A : Type} {B : A → Type} {ι σ In E : Type}

/-- Actions that can be computed, and the programs of the calls that can be made. -/
structure Machine (A : Type) (B : A → Type) (ι σ In E : Type) where
  /-- What an action of call `i` does; `none` where it has to wait. -/
  exec : ι → (a : A) → In → σ → Option (B a × σ)
  program : E → Prog A B Unit
  /-- What the surroundings may do to the state on their own. -/
  env : σ → σ → Prop
  /-- What is left of the state when a call dies. -/
  drop : ι → σ → σ

/-- The runs of a machine, whatever is answered to its actions. -/
def Machine.system (M : Machine A B ι σ In E) : System A B ι σ where
  step i a s b s' := ∃ input, M.exec i a input s = some (b, s')
  entry p := ∃ e, p = M.program e
  env := M.env
  drop := M.drop

/-- One choice of the scheduler. -/
inductive Pick (ι In E : Type)
  | start (i : ι) (e : E)
  | act (i : ι) (input : In)

variable [DecidableEq ι] {M : Machine A B ι σ In E} {c₀ c c' : Config A B ι σ}

def Machine.play (M : Machine A B ι σ In E) (c : Config A B ι σ) :
    Pick ι In E → Option (Config A B ι σ)
  | .start i e =>
    match c.procs i with
    | some _ => none
    | none => some ⟨c.state, Function.update c.procs i (some (M.program e))⟩
  | .act i input =>
    match c.procs i with
    | none | some (.ret _) => none
    | some (.act a k) =>
      (M.exec i a input c.state).map fun r => ⟨r.2, Function.update c.procs i (some (k r.1))⟩

theorem Machine.play_sched {pick : Pick ι In E} (h : M.play c pick = some c') :
    Sched M.system c c' := by
  cases pick with
  | start i e =>
    simp only [play] at h
    cases hp : c.procs i with
    | some p => simp [hp] at h
    | none =>
      simp only [hp] at h
      rw [← Option.some.inj h]
      exact .start hp ⟨e, rfl⟩
  | act i input =>
    simp only [play] at h
    cases hp : c.procs i with
    | none => simp [hp] at h
    | some p =>
      cases p with
      | ret => simp [hp] at h
      | act a k =>
        simp only [hp] at h
        obtain ⟨⟨b, s'⟩, hexec, rfl⟩ := Option.map_eq_some_iff.1 h
        exact .run hp ⟨input, hexec⟩

/-- Run the choices one after the other; none where one of them is not possible. -/
def Machine.replay (M : Machine A B ι σ In E) :
    List (Pick ι In E) → Config A B ι σ → Option (Config A B ι σ)
  | [], c => some c
  | pick :: picks, c => (M.play c pick).bind (M.replay picks)

/-- **A replay reaches what it returns.** -/
theorem Machine.replay_reachable {picks : List (Pick ι In E)} (hc : Reachable M.system c₀ c)
    (h : M.replay picks c = some c') : Reachable M.system c₀ c' := by
  induction picks generalizing c with
  | nil => rwa [← Option.some.inj h]
  | cons pick picks ih =>
    obtain ⟨x, hx, hrest⟩ := Option.bind_eq_some_iff.1 h
    exact ih (.step hc (play_sched hx)) hrest

/-! ## When no call is in progress -/

/-- Every call that was started is over. -/
def Config.Quiet (c : Config A B ι σ) : Prop := ∀ i p, c.procs i = some p → ∃ u, p = .ret u

/-- The call is over, or was never started. -/
def Config.isOver (c : Config A B ι σ) (i : ι) : Bool :=
  match c.procs i with
  | none | some (.ret _) => true
  | some (.act _ _) => false

def Pick.call : Pick ι In E → ι
  | .start i _ | .act i _ => i

theorem Machine.play_procs {pick : Pick ι In E} (h : M.play c pick = some c') {i : ι}
    (hi : pick.call ≠ i) : c'.procs i = c.procs i := by
  cases pick with
  | start j e =>
    simp only [play] at h
    cases hp : c.procs j with
    | some p => simp [hp] at h
    | none =>
      simp only [hp] at h
      rw [← Option.some.inj h]
      exact Function.update_of_ne (Ne.symm hi) ..
  | act j input =>
    simp only [play] at h
    cases hp : c.procs j with
    | none => simp [hp] at h
    | some p =>
      cases p with
      | ret => simp [hp] at h
      | act a k =>
        simp only [hp] at h
        obtain ⟨r, -, rfl⟩ := Option.map_eq_some_iff.1 h
        exact Function.update_of_ne (Ne.symm hi) ..

/-- A replay touches the calls it names. -/
theorem Machine.replay_procs {picks : List (Pick ι In E)} (h : M.replay picks c = some c') {i : ι}
    (hi : i ∉ picks.map (·.call)) : c'.procs i = c.procs i := by
  induction picks generalizing c with
  | nil => rw [← Option.some.inj h]
  | cons pick picks ih =>
    rw [List.map_cons, List.mem_cons, not_or] at hi
    obtain ⟨x, hx, hrest⟩ := Option.bind_eq_some_iff.1 h
    rw [ih hrest hi.2, play_procs hx (Ne.symm hi.1)]

/-- **After a replay from the start no call is in progress**, where those it names are over. -/
theorem Machine.replay_quiet {picks : List (Pick ι In E)} {s : σ}
    (h : M.replay picks (.init s) = some c') (hover : (picks.map (·.call)).all c'.isOver = true) :
    c'.Quiet := by
  intro i p hp
  by_cases hi : i ∈ picks.map (·.call)
  · have hend := List.all_eq_true.1 hover i hi
    rw [Config.isOver, hp] at hend
    cases p with
    | ret u => exact ⟨u, rfl⟩
    | act a k => cases hend
  · rw [replay_procs h hi] at hp
    cases hp

end Concurrent
