import ApiScore.Execution.OrderListing
import ApiScore.Execution.RunOwnership
import ApiScore.Scheduling.ReconciliationTick

/-!
# One reconciler at a time

A batch that two ticks open at once is executed twice.  The named lock does not let them: whoever is
between its `GET_LOCK` and its `RELEASE_LOCK` is alone there, and a run that a tick executes is one
that it has created.

* `Fleet.Sound` — the lock is with the connection of the tick that holds it, and only that tick reads.
* `lockedTick_keeps` — a tick opens and executes its runs under the lock.
* `one_reconciler` — every interleaving of ticks.
-/

set_option autoImplicit false

namespace ApiScore

open Relational Concurrent
open TickCall (act served opens)

/-! ## The invariant -/

/-- The lock is with the connection of the tick that holds it, no two ticks have one connection, and
only a tick that holds the lock is between the reads of a batch. -/
structure Fleet.Sound (s : Fleet) : Prop where
  opened : Opened s.opening
  holder : ∀ i ∈ s.holders, ∃ connection n, s.runners.lookup i = some connection ∧
    s.lock = some (connection, n)
  apart : (s.runners.map (·.2)).Nodup
  watching : ∀ w ∈ s.opening.watching, w.1 ∈ s.holders

/-- Two ticks that have one connection are one. -/
theorem eq_of_lookup {runners : List (CallId × Nat)} (h : (runners.map (·.2)).Nodup) {i j : CallId}
    {connection : Nat} (hi : runners.lookup i = some connection)
    (hj : runners.lookup j = some connection) : i = j := by
  have hmem : ∀ {k : CallId}, runners.lookup k = some connection → (k, connection) ∈ runners := by
    intro k hk
    obtain ⟨pre, post, heq, -⟩ := List.lookup_eq_some_iff.1 hk
    rw [heq]
    exact List.mem_append_right _ List.mem_cons_self
  exact congrArg Prod.fst (List.inj_on_of_nodup_map h (hmem hi) (hmem hj) rfl)

/-- **Whoever holds the lock is alone.** -/
theorem Fleet.Sound.alone {s : Fleet} (h : s.Sound) {i j : CallId} (hi : i ∈ s.holders)
    (hj : j ∈ s.holders) : i = j := by
  obtain ⟨c, n, hc, hlock⟩ := h.holder i hi
  obtain ⟨c', n', hc', hlock'⟩ := h.holder j hj
  obtain ⟨rfl, -⟩ := Prod.mk.inj (Option.some.inj (hlock.symm.trans hlock'))
  exact eq_of_lookup h.apart hc hc'

/-- The batch of the holder is not disturbed. -/
theorem Fleet.Sound.undisturbed {s : Fleet} (h : s.Sound) {i : CallId} (hi : i ∈ s.holders)
    (a : OpeningAction) : undisturbed i a s.opening = true := by
  cases a with
  | insert inputs =>
    refine List.all_eq_true.2 fun w hw => ?_
    rw [h.alone (h.watching w hw) hi, beq_self_eq_true, Bool.true_or]
  | accounts | existing | runs | report | execute => rfl

/-! ## The contract -/

/-- A tick opens runs only under the lock, lets only the lock go that it has, and takes and gives back
a connection only without it. -/
def Licensed (i : CallId) : ReconcilerAction → Fleet → Prop
  | .opening a, s => i ∈ s.holders ∧ Entitled i a s.opening
  | .releaseLock, s => i ∈ s.holders
  | .connect, s | .releaseRunner, s => i ∉ s.holders
  | _, _ => True

/-- What tick `i` tolerates from the others: its batch is not disturbed, and it holds the lock as
before. -/
def TickApart (i : CallId) (s s' : Fleet) : Prop :=
  Beside i s.opening s'.opening ∧ (i ∈ s'.holders ↔ i ∈ s.holders)

def exclusion : Contract ReconcilerAction CallId Fleet where
  inv := Fleet.Sound
  pre := Licensed
  guar i s s' := ∀ j, i ≠ j → TickApart j s s'
  rely := TickApart
  fresh i s := i ∉ s.holders
  refl i s := ⟨.refl i s.opening, Iff.rfl⟩
  trans _ _ _ _ h h' := ⟨h.1.trans h'.1, h'.2.trans h.2⟩

section Steps

variable {i : CallId} {s s' : Fleet}

theorem TickApart.of_same {j : CallId} (hopening : s'.opening = s.opening)
    (hholders : s'.holders = s.holders) : TickApart j s s' := by
  rw [TickApart, hopening, hholders]
  exact ⟨.refl j s.opening, Iff.rfl⟩

/-- Nothing changes but what is not looked at. -/
theorem Fleet.Sound.same (h : s.Sound) (hopening : s'.opening = s.opening)
    (hholders : s'.holders = s.holders) (hrunners : s'.runners = s.runners)
    (hlock : s'.lock = s.lock) : s'.Sound := by
  obtain ⟨hopened, hholder, hapart, hwatching⟩ := h
  refine ⟨hopening ▸ hopened, ?_, hrunners ▸ hapart, ?_⟩
  · rw [hholders, hrunners, hlock]
    exact hholder
  · rw [hopening, hholders]
    exact hwatching

theorem mem_letGo {j : CallId} {lock : Option (Nat × Nat)} :
    j ∈ (s.letGo i lock).holders ↔ j ∈ s.holders ∧ j ≠ i := by
  simp [Fleet.letGo]

/-- A tick lets the lock go, and whoever else held it would still hold it. -/
theorem Fleet.Sound.letGo {lock : Option (Nat × Nat)} (h : s.Sound)
    (hlock : ∀ j ∈ s.holders, j ≠ i → lock = s.lock) : (s.letGo i lock).Sound where
  opened := h.opened.leave
  holder j hj := by
    obtain ⟨hj, hne⟩ := mem_letGo.1 hj
    obtain ⟨c, n, hc, hl⟩ := h.holder j hj
    exact ⟨c, n, hc, (hlock j hj hne).trans hl⟩
  apart := h.apart
  watching w hw := by
    obtain ⟨hw, hne⟩ := List.mem_filter.1 hw
    exact mem_letGo.2 ⟨h.watching w hw, by simpa using hne⟩

theorem letGo_apart {j : CallId} (hij : i ≠ j) (lock : Option (Nat × Nat)) :
    TickApart j s (s.letGo i lock) :=
  ⟨leave_beside hij s.opening, mem_letGo.trans (and_iff_left (Ne.symm hij))⟩

theorem lookup_filter {runners : List (CallId × Nat)} {j : CallId} (hij : j ≠ i) :
    (runners.filter fun r => r.1 ≠ i).lookup j = runners.lookup j := by
  induction runners with
  | nil => rfl
  | cons r runners ih =>
    by_cases hr : r.1 = i
    · rw [List.filter_cons_of_neg (by simpa using hr), ih, List.lookup_cons,
        beq_false_of_ne (hr ▸ hij)]
    · rw [List.filter_cons_of_pos (by simpa using hr), List.lookup_cons, List.lookup_cons, ih]

/-- A connection goes back to the pool, from a tick that does not hold the lock. -/
theorem Fleet.Sound.giveBack (h : s.Sound) (hi : i ∉ s.holders) : (s.giveBack i).Sound where
  opened := h.opened
  holder j hj := by
    obtain ⟨c, n, hc, hl⟩ := h.holder j hj
    exact ⟨c, n, (lookup_filter fun hji : j = i => hi (hji ▸ hj)).trans hc, hl⟩
  apart := h.apart.sublist (List.filter_sublist.map _)
  watching := h.watching

theorem Fleet.Sound.drop (h : s.Sound) : (Fleet.drop i s).Sound := by
  refine Fleet.Sound.giveBack (.letGo h fun j hj hne => ?_) fun hi => (mem_letGo.1 hi).2 rfl
  obtain ⟨c, n, hc, hl⟩ := h.holder j hj
  rw [Fleet.lockAfter, hl, Option.filter_some, if_pos]
  refine decide_eq_true fun hi => hne (eq_of_lookup h.apart hc hi)

theorem mem_leave {o : Opening} {w : CallId × List String} (h : w ∈ (o.leave i).watching) :
    w ∈ o.watching := (List.mem_filter.1 h).1

/-- A tick reads only for itself. -/
theorem exec_watching {a : OpeningAction} {input : OpeningInput} {o : Opening}
    {w : CallId × List String} (h : w ∈ (o.exec i a input).2.watching) : w ∈ o.watching ∨ w.1 = i := by
  obtain ⟨uuid, fault⟩ := input
  cases a with
  | existing keys =>
    cases fault with
    | some f => exact .inl h
    | none =>
      rcases List.mem_cons.1 h with rfl | h
      · exact .inr rfl
      · exact .inl h
  | insert inputs =>
    match fault with
    | some (.rolledBack e) | some (.unacknowledged e) => exact .inl (mem_leave h)
    | none => exact .inl h
  | runs keys => cases fault <;> exact .inl (mem_leave h)
  | accounts ids => cases fault <;> exact .inl h
  | report ids | execute id => exact .inl h

/-- A tick that has been told that it has the lock is the only one. -/
theorem Fleet.Sound.acquire (h : s.Sound) {connection : Nat} {lock : Nat × Nat}
    (hconnection : s.runners.lookup i = some connection)
    (hlock : acquired s.lock connection = some lock) :
    lock.1 = connection ∧ ∀ j ∈ s.holders, j = i := by
  refine ⟨?_, fun j hj => ?_⟩
  · cases hl : s.lock with
    | none =>
      rw [hl, acquired] at hlock
      rw [← Option.some.inj hlock]
    | some l =>
      rw [hl, acquired] at hlock
      split_ifs at hlock with heq
      rw [← Option.some.inj hlock]
      exact heq
  · obtain ⟨c, n, hc, hl⟩ := h.holder j hj
    rw [hl, acquired] at hlock
    split_ifs at hlock with heq
    exact eq_of_lookup h.apart (heq ▸ hc) hconnection

/-- A connection that nobody works with. -/
theorem Fleet.Sound.connect (h : s.Sound) (hi : i ∉ s.holders) {connection : Nat}
    (hfree : connection ∉ s.runners.map (·.2)) :
    ({ s with runners := (i, connection) :: s.runners } : Fleet).Sound where
  opened := h.opened
  holder j hj := by
    obtain ⟨c, n, hc, hl⟩ := h.holder j hj
    refine ⟨c, n, ?_, hl⟩
    rw [List.lookup_cons, beq_false_of_ne fun hji : j = i => hi (hji ▸ hj)]
    exact hc
  apart := List.nodup_cons.2 ⟨hfree, h.apart⟩
  watching := h.watching

/-- What a tick does under the lock, to the runs. -/
theorem Fleet.Sound.opens (h : s.Sound) (hi : i ∈ s.holders) {a : OpeningAction}
    (hpre : Entitled i a s.opening) (input : OpeningInput) :
    ({ s with opening := (s.opening.exec i a input).2 } : Fleet).Sound where
  opened := (exec_owned h.opened hpre (h.undisturbed hi a)).1
  holder := h.holder
  apart := h.apart
  watching w hw := by
    rcases exec_watching hw with hw | hw
    · exact h.watching w hw
    · exact hw ▸ hi

/-- The lock, with or without a word of it. -/
theorem Fleet.Sound.lock (h : s.Sound) {connection : Nat} {lock : Nat × Nat}
    (hconnection : s.runners.lookup i = some connection)
    (hlock : acquired s.lock connection = some lock) {holders : List CallId}
    (hkept : ∀ j ∈ s.holders, j ∈ holders) (htold : ∀ j ∈ holders, j = i ∨ j ∈ s.holders) :
    ({ s with lock := some lock, holders } : Fleet).Sound where
  opened := h.opened
  holder j hj := by
    obtain ⟨hfst, honly⟩ := h.acquire hconnection hlock
    refine ⟨connection, lock.2, ?_, congrArg some (Prod.ext hfst rfl)⟩
    rw [(htold j hj).elim id (honly j)]
    exact hconnection
  apart := h.apart
  watching w hw := hkept w.1 (h.watching w hw)

/-- What `GET_LOCK` does: a tick that is told nothing may have left the lock with its connection. -/
theorem getLock_exec {input : FleetInput} {r : ReconcilerAction.getLock.Result} (h : s.Sound)
    (hexec : s.exec i .getLock input = some (r, s')) :
    s'.Sound ∧ (∀ j, i ≠ j → TickApart j s s') ∧ (r = .ok true → i ∈ s'.holders) ∧
      (r ≠ .ok true → s'.holders = s.holders) := by
  simp only [Fleet.exec] at hexec
  split at hexec <;> obtain ⟨rfl, rfl⟩ := Prod.mk.inj (Option.some.inj hexec)
  case h_1 | h_2 | h_4 =>
    exact ⟨h, fun j _ => .of_same rfl rfl, (fun hr => by cases hr), fun _ => rfl⟩
  case h_3 e lock hfault hlock =>
    obtain ⟨connection, hconnection, hacquired⟩ := Option.bind_eq_some_iff.1 hlock
    exact ⟨h.lock hconnection hacquired (fun _ hj => hj) fun _ => .inr,
      fun j _ => .of_same rfl rfl, (fun hr => by cases hr), fun _ => rfl⟩
  case h_5 lock hfault hlock =>
    obtain ⟨connection, hconnection, hacquired⟩ := Option.bind_eq_some_iff.1 hlock
    refine ⟨h.lock hconnection hacquired (fun _ => List.mem_cons_of_mem i) fun _ => List.mem_cons.1,
      fun j hij => ⟨.refl j _, ?_⟩, fun _ => List.mem_cons_self, fun hne => (hne rfl).elim⟩
    exact List.mem_cons.trans (or_iff_right (Ne.symm hij))

/-- **One action** keeps the lock with its holder, and leaves the other ticks alone. -/
theorem fleet_exec {a : ReconcilerAction} {input : FleetInput} {r : a.Result} (h : s.Sound)
    (hpre : Licensed i a s) (hexec : s.exec i a input = some (r, s')) :
    s'.Sound ∧ ∀ j, i ≠ j → TickApart j s s' := by
  have hsame {s₁ : Fleet} (hopening : s₁.opening = s.opening) (hholders : s₁.holders = s.holders)
      (hrunners : s₁.runners = s.runners) (hlock : s₁.lock = s.lock) :
      s₁.Sound ∧ ∀ j, i ≠ j → TickApart j s s₁ :=
    ⟨h.same hopening hholders hrunners hlock, fun _ _ => .of_same hopening hholders⟩
  obtain ⟨⟨uuid, fault⟩, connection, interlockOpen, lastCompleted⟩ := input
  cases a with
  | enter backend | leave backend | readControl | autoStop trigger =>
    obtain ⟨-, rfl⟩ := Prod.mk.inj (Option.some.inj hexec)
    exact hsame rfl rfl rfl rfl
  | accounts since | lastCompleted accountIds =>
    cases fault <;>
    · obtain ⟨-, rfl⟩ := Prod.mk.inj (Option.some.inj hexec)
      exact hsame rfl rfl rfl rfl
  | connect =>
    cases fault with
    | some f =>
      obtain ⟨-, rfl⟩ := Prod.mk.inj (Option.some.inj hexec)
      exact hsame rfl rfl rfl rfl
    | none =>
      simp only [Fleet.exec] at hexec
      split_ifs at hexec with hfree
      obtain ⟨-, rfl⟩ := Prod.mk.inj (Option.some.inj hexec)
      exact ⟨h.connect hpre hfree, fun _ _ => .of_same rfl rfl⟩
  | getLock =>
    obtain ⟨hsound, hapart, -⟩ := getLock_exec h hexec
    exact ⟨hsound, hapart⟩
  | opening a =>
    obtain ⟨-, rfl⟩ := Prod.mk.inj (Option.some.inj hexec)
    exact ⟨h.opens hpre.1 hpre.2 _, fun j hij =>
      ⟨(exec_owned h.opened hpre.2 (h.undisturbed hpre.1 a)).2 j hij, Iff.rfl⟩⟩
  | releaseLock =>
    have hlet (lock : Option (Nat × Nat)) :
        (s.letGo i lock).Sound ∧ ∀ j, i ≠ j → TickApart j s (s.letGo i lock) :=
      ⟨h.letGo fun j hj hne => (hne (h.alone hj hpre)).elim, fun j hij => letGo_apart hij lock⟩
    match fault with
    | some (.rolledBack e) | some (.unacknowledged e) | none =>
      obtain ⟨-, rfl⟩ := Prod.mk.inj (Option.some.inj hexec)
      exact hlet _
  | releaseRunner =>
    obtain ⟨-, rfl⟩ := Prod.mk.inj (Option.some.inj hexec)
    exact ⟨h.giveBack hpre, fun _ _ => .of_same rfl rfl⟩

end Steps

/-! ## The ticks -/

/-- An action that neither acquires the lock nor lets it go. -/
def ReconcilerAction.aside : ReconcilerAction → Bool
  | .getLock | .releaseLock => false
  | _ => true

section Ticks

variable {i : CallId} {s s' : Fleet} {α β : Type}

theorem exec_holders {a : ReconcilerAction} (ha : a.aside = true) {input : FleetInput} {r : a.Result}
    (hexec : s.exec i a input = some (r, s')) : s'.holders = s.holders := by
  obtain ⟨⟨uuid, fault⟩, connection, interlockOpen, lastCompleted⟩ := input
  cases a with
  | getLock | releaseLock => cases ha
  | enter | leave | readControl | autoStop | opening | releaseRunner =>
    obtain ⟨-, rfl⟩ := Prod.mk.inj (Option.some.inj hexec)
    rfl
  | accounts since | lastCompleted accountIds =>
    cases fault <;>
    · obtain ⟨-, rfl⟩ := Prod.mk.inj (Option.some.inj hexec)
      rfl
  | connect =>
    cases fault with
    | some f =>
      obtain ⟨-, rfl⟩ := Prod.mk.inj (Option.some.inj hexec)
      rfl
    | none =>
      simp only [Fleet.exec] at hexec
      split_ifs at hexec
      obtain ⟨-, rfl⟩ := Prod.mk.inj (Option.some.inj hexec)
      rfl

/-- While a tick holds the lock, its batch runs as it does where nobody disturbs it. -/
theorem opening_inside : Inside orderly ownership fleet.system exclusion ReconcilerAction.opening
    (fun _ b => b) Fleet.opening i fun s => i ∈ s.holders where
  rely s s' hi hr := ⟨hr.1, hr.2.2 hi⟩
  inv s h := h.opened
  pre a s hi hpre := ⟨hi, hpre⟩
  step a b s s' hinv hi hs := by
    obtain ⟨input, hexec⟩ := hs
    obtain ⟨rfl, rfl⟩ := Prod.mk.inj (Option.some.inj hexec)
    exact ⟨⟨input.opening, if_pos (hinv.undisturbed hi a)⟩, hi⟩

/-- The tick, which is about to run `p`, holds the lock, or does not, and so it is at the end. -/
abbrev Keeps (i : CallId) (held : Prop) (p : TickProg α) (s : Fleet) : Prop :=
  Safe fleet.system exclusion i (fun _ s => i ∈ s.holders ↔ held) p s

variable {held : Prop}

theorem keeps_done {x : α} (h : i ∈ s.holders ↔ held) : Keeps i held (.ret x) s :=
  Safe.ret fun _ hr _ => hr.2.trans h

/-- An action that leaves the lock alone, then what its answer calls for. -/
theorem perform_keeps {a : ReconcilerAction} {f : a.Result → TickProg α} {Q : α → Fleet → Prop}
    (ha : a.aside = true) (h : i ∈ s.holders ↔ held)
    (hpre : ∀ s, (i ∈ s.holders ↔ held) → Licensed i a s)
    (hf : ∀ r s, s.Sound → (i ∈ s.holders ↔ held) → Safe fleet.system exclusion i Q (f r) s) :
    Safe fleet.system exclusion i Q (a.perform >>= f) s := by
  refine Safe.act fun s₁ hr _ => ⟨hpre s₁ (hr.2.trans h), fun r s₂ hs hinv _ => ?_⟩
  obtain ⟨input, hexec⟩ := hs
  refine hf r s₂ hinv ?_
  rw [exec_holders ha hexec]
  exact hr.2.trans h

theorem act_keeps {a : ReconcilerAction} {f : a.Result → TickCall α} (ha : a.aside = true)
    (h : i ∈ s.holders ↔ held) (hpre : ∀ s, (i ∈ s.holders ↔ held) → Licensed i a s)
    (hf : ∀ r s, s.Sound → (i ∈ s.holders ↔ held) → Keeps i held (f r).run s) :
    Keeps i held (act a >>= f).run s := perform_keeps (f := fun r => (f r).run) ha h hpre hf

theorem served_keeps {x : Except ServiceError α} {f : α → TickCall β} (h : i ∈ s.holders ↔ held)
    (hf : ∀ y, Keeps i held (f y).run s) : Keeps i held (served x >>= f).run s := by
  cases x with
  | ok y => exact hf y
  | error e => exact keeps_done h

theorem failTick_keeps (h : i ∈ s.holders ↔ held) : Keeps i held failTick s :=
  perform_keeps rfl h (fun _ _ => trivial) fun _ _ _ h => keeps_done h

theorem checkLateness_keeps {accountIds : List String} {now interval : Int}
    (h : i ∈ s.holders ↔ held) : Keeps i held (checkLateness accountIds now interval).run s := by
  rw [checkLateness]
  split_ifs with hnone
  · exact keeps_done h
  refine act_keeps rfl h (fun _ _ => trivial) fun snapshot s₁ _ h₁ => ?_
  split_ifs with hdisabled
  · exact keeps_done h₁
  refine act_keeps rfl h₁ (fun _ _ => trivial) fun latest s₂ _ h₂ => served_keeps h₂ fun last => ?_
  split_ifs with hlate
  · exact act_keeps (f := pure) rfl h₂ (fun _ _ => trivial) fun _ _ _ h₃ => keeps_done h₃
  · exact keeps_done h₂

/-- **What a tick does under the lock**, it does under the lock to the end. -/
theorem reconcileAll_keeps {now interval : Int} (h : i ∈ s.holders) :
    Keeps i True (reconcileAll now interval).run s := by
  refine act_keeps rfl (iff_true_intro h) (fun _ _ => trivial) fun accounts s₁ hinv₁ h₁ => ?_
  refine served_keeps h₁ fun accountIds => ?_
  refine Safe.bind (Safe.embed ownership_discipline opening_inside
    (runBatch_grants hinv₁.opened) (of_iff_true h₁)) hinv₁ fun r s₂ _ h₂ => ?_
  cases r with
  | ok u => exact checkLateness_keeps (iff_true_intro h₂.2)
  | error e => exact keeps_done (iff_true_intro h₂.2)

/-- The lock is let go of. -/
theorem releaseLock_keeps {outcome : TickOutcome} (h : i ∈ s.holders) :
    Keeps i False (do ReconcilerAction.perform .releaseLock; return outcome) s := by
  refine Safe.act fun s₁ hr _ => ⟨hr.2.2 h, fun r s₂ hs _ _ => keeps_done ?_⟩
  obtain ⟨⟨⟨uuid, fault⟩, connection, interlockOpen, lastCompleted⟩, hexec⟩ := hs
  have hgone (lock : Option (Nat × Nat)) : i ∈ (s₁.letGo i lock).holders ↔ False :=
    iff_false_intro fun hi => (mem_letGo.1 hi).2 rfl
  match fault with
  | some (.rolledBack e) | some (.unacknowledged e) | none =>
    obtain ⟨-, rfl⟩ := Prod.mk.inj (Option.some.inj hexec)
    exact hgone _

/-- **A tick that comes without the lock goes without it**, and takes it in between. -/
theorem lockedTick_keeps {now interval : Int} (h : i ∉ s.holders) :
    Keeps i False (lockedTick now interval) s := by
  refine perform_keeps rfl (iff_false_intro h) (fun _ h => not_of_iff_false h)
    fun connected s₁ _ h₁ => ?_
  cases connected with
  | error e => exact failTick_keeps h₁
  | ok u =>
    refine Safe.act fun s₂ hr₂ hinv₂ => ⟨trivial, fun acquired s₃ hs hinv₃ _ => ?_⟩
    obtain ⟨input, hexec⟩ := hs
    obtain ⟨-, -, hyes, hno⟩ := getLock_exec hinv₂ hexec
    have hout (hne : acquired ≠ .ok true) : i ∈ s₃.holders ↔ False := by
      rw [hno hne]
      exact hr₂.2.trans h₁
    match acquired with
    | .error e => exact failTick_keeps (hout fun heq => by cases heq)
    | .ok false => exact keeps_done (hout fun heq => by cases heq)
    | .ok true =>
      refine Safe.bind (p := (reconcileAll now interval).run) (reconcileAll_keeps (hyes rfl)) hinv₃
        fun r s₄ hinv₄ h₄ => ?_
      cases r with
      | ok u => exact releaseLock_keeps (of_iff_true h₄)
      | error e =>
        refine Safe.bind (failTick_keeps h₄) hinv₄ fun outcome s₅ _ h₅ => ?_
        exact releaseLock_keeps (of_iff_true h₅)

theorem reconcilerTick_keeps {backend : String} {now interval : Int}
    (h : i ∉ s.holders) : Keeps i False (ReconciliationScheduler.runTick backend now interval) s := by
  refine perform_keeps rfl (iff_false_intro h) (fun _ _ => trivial) fun entered s₁ hinv₁ h₁ => ?_
  cases entered with
  | false => exact keeps_done h₁
  | true =>
    refine Safe.bind (lockedTick_keeps (not_of_iff_false h₁)) hinv₁ fun outcome s₂ _ h₂ => ?_
    refine perform_keeps rfl h₂ (fun _ h => not_of_iff_false h) fun _ s₃ _ h₃ => ?_
    exact perform_keeps rfl h₃ (fun _ _ => trivial) fun _ _ _ h₄ => keeps_done h₄

/-- What happens elsewhere leaves the lock with its holder, and the ticks alone. -/
theorem Fleet.Elsewhere.kept (h : s.Elsewhere s') (hinv : s.Sound) :
    s'.Sound ∧ ∀ j, TickApart j s s' := by
  obtain ⟨db, lock, hstay, hquiet, hlock, rfl⟩ := h
  have hlabel {r r' : ReconciliationRun} (heq : r'.label = r.label) :
      r'.id = r.id ∧ r'.idempotencyKey = r.idempotencyKey := Prod.mk.inj heq
  refine ⟨⟨⟨fun x hx => ?_, hinv.opened.once, hinv.opened.own, hinv.opened.told⟩, fun j hj => ?_,
    hinv.apart, hinv.watching⟩, fun j => ⟨⟨fun r hr => ?_, fun _ hw => hw, fun keys hw r' hr' hkey => ?_,
      fun _ hx => hx, fun _ hx => hx⟩, Iff.rfl⟩⟩
  · obtain ⟨r, hr, hid⟩ := hinv.opened.there x hx
    obtain ⟨r', hr', heq⟩ := hstay r hr
    exact ⟨r', hr', (hlabel heq).1.trans hid⟩
  · obtain rfl | ⟨hnone, -⟩ := hlock
    · exact hinv.holder j hj
    · rw [hnone] at hj
      cases hj
  · obtain ⟨r', hr', heq⟩ := hstay r hr
    exact ⟨r', hr', hlabel heq⟩
  · obtain ⟨r, hr, heq⟩ | hnot := hquiet r' hr'
    · exact ⟨r, hr, hlabel heq⟩
    · exact (hnot (j, keys) hw hkey).elim

theorem exclusion_discipline : Discipline fleet.system exclusion where
  entry i p s hp hinv hfresh := by
    obtain ⟨e, rfl⟩ := hp
    exact Safe.bind (reconcilerTick_keeps hfresh) hinv fun _ _ _ _ => Safe.ret fun _ _ _ => trivial
  step i a b s s' hinv hpre hs := by
    obtain ⟨input, hexec⟩ := hs
    exact fleet_exec hinv hpre hexec
  compatible i j s s' hij h := h j hij
  fresh i s s' hr h := fun hi => h (hr.2.1 hi)
  env s s' h hinv := h.kept hinv
  drop i s hinv := ⟨hinv.drop, fun j hij =>
    exclusion.trans j _ _ _ (letGo_apart hij (s.lockAfter i)) (.of_same rfl rfl)⟩

end Ticks

theorem Fleet.sound_init (db : Database) : (Fleet.init db).Sound where
  opened := opened_init db
  holder _ h := (List.not_mem_nil h).elim
  apart := List.nodup_nil
  watching _ h := (List.not_mem_nil h).elim

/-- **One tick at a time is under the lock, and a run is executed by the tick that created it, and by
no other**, in every interleaving of the ticks of any number of instances: whatever fails, whichever
tick dies, and whatever lock a connection of the pool has kept. -/
theorem one_reconciler {db : Database}
    {c : Config ReconcilerAction ReconcilerAction.Result CallId Fleet}
    (h : Reachable fleet.system (.init (.init db)) c) (i j : CallId) :
    (i ∈ c.state.holders → j ∈ c.state.holders → i = j) ∧
      ∀ runId, (i, runId) ∈ c.state.opening.executed → (i, runId) ∈ c.state.opening.inserted ∧
        ((j, runId) ∈ c.state.opening.executed → i = j) := by
  have hinv : c.state.Sound :=
    (exclusion_discipline.reachable (Fleet.sound_init db) (fun _ h => List.not_mem_nil h) h).1
  have hown {k : CallId} {runId : String} (hk : (k, runId) ∈ c.state.opening.executed) :
      (k, runId) ∈ c.state.opening.inserted := hinv.opened.own _ (hinv.opened.told _ hk)
  exact ⟨hinv.alone, fun runId hi => ⟨hown hi, fun hj =>
    hinv.opened.once _ (hown hi) _ (hown hj) rfl⟩⟩

namespace Sample

/-- The account has an order that is open. -/
def staked : Database :=
  { funded with orders := table _ [listedOrder "order" "decision" 0] }

/-- A tick of an instance in the first slot, every five minutes. -/
def ofInstance (backend : String) : TickEntry := ⟨backend, 1000, .nan⟩

/-- The next action of a tick, with this connection if it asks for one. -/
def tickOn (i : CallId) (connection : Nat) : Pick CallId FleetInput TickEntry :=
  .act i ⟨⟨fun _ => "run", none⟩, connection, false, []⟩

/-- A tick that comes while another one is under the lock. -/
def skippedTick : List (Pick CallId FleetInput TickEntry) :=
  [.start 0 (ofInstance "a"), .start 1 (ofInstance "b"), tickOn 0 0, tickOn 1 1, tickOn 0 0, tickOn 1 1,
    tickOn 0 0, tickOn 1 1] ++ List.replicate 7 (tickOn 0 0)

end Sample

/-- The first tick has created a run and executed it, and the second was not let in. -/
theorem one_reconciler_skipped :
    ∃ c : Config ReconcilerAction ReconcilerAction.Result CallId Fleet,
      fleet.replay Sample.skippedTick (.init (.init Sample.staked)) = some c ∧
      c.state.opening.executed = [(0, "run")] ∧ 0 ∈ c.state.holders ∧ 1 ∉ c.state.holders := by
  have hreplay : (fleet.replay Sample.skippedTick (.init (.init Sample.staked))).map
      (fun c => (c.state.opening.executed, c.state.holders)) = some ([(0, "run")], [0]) := by
    decide +kernel
  obtain ⟨c, hc, hstate⟩ := Option.map_eq_some_iff.1 hreplay
  obtain ⟨hexecuted, hholders⟩ := Prod.mk.inj hstate
  have hholds : 0 ∈ c.state.holders := by
    rw [hholders]
    exact List.mem_singleton_self 0
  refine ⟨c, hc, hexecuted, hholds, fun hother => ?_⟩
  have halone := (one_reconciler (Machine.replay_reachable .init hc) 0 1).1 hholds hother
  cases halone

end ApiScore
