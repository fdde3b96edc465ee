import ApiScore.Auth.Login
import ApiScore.Lib.Trace

/-!
# The limit of failed logins

The row of an identifier counts its failures: whoever checks a password has locked the row, and has
found that it is not full and that its window is not over for the attempt.

* `AuthState.failures` — the failed checks of an identifier in one window, since its last login.
* `Counts` — the row counts them all.
* `Limited` — what every run preserves.
* `login_rate_limit` — no more failures than the limit, no check while the row is full, and nobody
  else's counter is touched.
-/

set_option autoImplicit false

namespace ApiScore

open Concurrent
open AuthCall (act served)
open Trace (since)

/-! ## Failures -/

/-- A failed check of the identifier, in the window that started at `s`. -/
def AuthEvent.fails (h : String) (s : Int) : AuthEvent → Bool
  | .checked h' attempt _ accepted =>
    !accepted && h' == h && (attempt.map (·.windowStartedAt)) == some s
  | _ => false

/-- The failed checks of the identifier in the window that started at `s`, since its last login. -/
def AuthState.failures (w : AuthState) (h : String) (s : Int) : Nat :=
  (since (.loggedIn h) w.trace).countP (AuthEvent.fails h s)

/-- The row of the identifier counts its failures: those of its own window, and there is no later
one. -/
def Counts (failures : Int → Nat) (h : String) : Option AuthLoginAttempt → Prop
  | none => ∀ s, failures s = 0
  | some attempt => attempt.identifierHash = h ∧
      (∀ s, attempt.windowStartedAt < s → failures s = 0) ∧
        failures attempt.windowStartedAt ≤ attempt.failedCount

/-- An event that no counter depends on. -/
def AuthEvent.isQuiet : AuthEvent → Bool
  | .instant _ _ | .committed _ | .resolved _ _ => true
  | .began _ _ | .checked _ _ _ _ | .loggedIn _ => false

section Failures

variable {w : AuthState} {e : AuthEvent} {h : String} {s : Int}

theorem failures_note : (w.note e).failures h s =
    if e = .loggedIn h then 0 else w.failures h s + (if e.fails h s then 1 else 0) := by
  rw [AuthState.failures, AuthState.note]
  split_ifs with he hfails
  · rw [he, Trace.since_cons_self, List.countP_nil]
  · rw [Trace.since_cons_of_ne he, List.countP_cons_of_pos hfails, AuthState.failures]
  · rw [Trace.since_cons_of_ne he, List.countP_cons_of_neg hfails, AuthState.failures, Nat.add_zero]

theorem failures_note_of_not_fails (he : ∀ h', e ≠ .loggedIn h')
    (hf : ∀ h' s', e.fails h' s' = false) :
    (w.note e).failures = w.failures := by
  funext h s
  rw [failures_note, if_neg (he h), hf, if_neg Bool.false_ne_true, Nat.add_zero]

theorem failures_note_of_isQuiet (he : e.isQuiet = true) : (w.note e).failures = w.failures := by
  refine failures_note_of_not_fails (fun h' heq => ?_) fun h' s' => ?_
  · rw [heq] at he
    cases he
  · cases e with
    | checked => cases he
    | _ => rfl

theorem failures_note_began {i : CallId} : (w.note (.began i h)).failures = w.failures :=
  failures_note_of_not_fails (fun _ heq => by cases heq) fun _ _ => rfl

theorem failures_note_loggedIn_self : (w.note (.loggedIn h)).failures h = fun _ => 0 := by
  funext s
  rw [failures_note, if_pos rfl]

theorem failures_note_loggedIn_of_ne {h' : String} (hne : h' ≠ h) :
    (w.note (.loggedIn h')).failures h = w.failures h := by
  funext s
  have hf : (AuthEvent.loggedIn h').fails h s = false := rfl
  rw [failures_note, if_neg (fun heq => hne (AuthEvent.loggedIn.inj heq)), hf,
    if_neg Bool.false_ne_true, Nat.add_zero]

theorem failures_note_accepted {row : Option AuthLoginAttempt} {now : Int} :
    (w.note (.checked h row now true)).failures = w.failures :=
  failures_note_of_not_fails (fun _ heq => by cases heq) fun _ _ => rfl

/-- A check is one more failure at most. -/
theorem Counts.checked {attempt : AuthLoginAttempt} {now : Int} {ok : Bool}
    (hcounts : Counts (w.failures h) h (some attempt)) :
    Counts ((w.note (.checked h (some attempt) now ok)).failures h) h
      (some { attempt with failedCount := attempt.failedCount + 1 }) := by
  obtain ⟨hhash, hlater, hfew⟩ := hcounts
  have hnote (s : Int) : (w.note (.checked h (some attempt) now ok)).failures h s =
      w.failures h s +
        if AuthEvent.fails h s (.checked h (some attempt) now ok) = true then 1 else 0 := by
    rw [failures_note, if_neg (fun heq => by cases heq)]
  refine ⟨hhash, fun s hs => ?_, ?_⟩
  · have hf : AuthEvent.fails h s (.checked h (some attempt) now ok) = false := by
      simp [AuthEvent.fails, hs.ne]
    rw [hnote, hf, if_neg Bool.false_ne_true, hlater s hs]
  · rw [hnote]
    dsimp only
    split_ifs <;> omega

end Failures

/-! ## What the calls preserve -/

structure Limited (config : AuthConfig) (w : AuthState) : Prop where
  within : ∀ h s, w.failures h s ≤ config.loginMaxAttempts
  counted : ∀ h, w.attemptLocks h = none → Counts (w.failures h) h (w.attempts h)
  checked : ∀ h row now ok, .checked h row now ok ∈ w.trace → ∃ attempt, row = some attempt ∧
    attempt.failedCount < config.loginMaxAttempts ∧
      now < attempt.windowStartedAt + config.loginWindowSeconds * 1000
  /-- Who has locked a row has begun with it. -/
  locked : ∀ h i p, w.attemptLocks h = some (i, p) → .began i h ∈ w.trace
  /-- A call begins with one row. -/
  once : ∀ i h h', .began i h ∈ w.trace → .began i h' ∈ w.trace → h = h'

/-- What a call relies on: the rows it has locked stay as they are, and nobody else checks a password
for them. -/
structure LimitBeside (j : CallId) (w w' : AuthState) : Prop where
  trace : ∃ newer, w'.trace = newer ++ w.trace ∧ ∀ h, .began j h ∉ newer
  locks : ∀ h p, w'.attemptLocks h = some (j, p) ↔ w.attemptLocks h = some (j, p)
  kept : ∀ h p, w.attemptLocks h = some (j, p) →
    w'.attempts h = w.attempts h ∧ w'.failures h = w.failures h

/-- A counter changes where a call commits that has begun with it. -/
def CountersBy (w w' : AuthState) : Prop :=
  ∃ newer, w'.trace = newer ++ w.trace ∧
    ∀ h, w'.attempts h ≠ w.attempts h → ∃ i, .committed i ∈ newer ∧ .began i h ∈ w'.trace

theorem LimitBeside.refl (j : CallId) (w : AuthState) : LimitBeside j w w :=
  ⟨⟨[], rfl, fun _ => List.not_mem_nil⟩, fun _ _ => Iff.rfl, fun _ _ _ => ⟨rfl, rfl⟩⟩

theorem LimitBeside.trans {j : CallId} {w w' w'' : AuthState} (h : LimitBeside j w w')
    (h' : LimitBeside j w' w'') : LimitBeside j w w'' := by
  obtain ⟨newer, htrace, hnew⟩ := h.trace
  obtain ⟨newer', htrace', hnew'⟩ := h'.trace
  refine ⟨⟨newer' ++ newer, ?_, fun k => ?_⟩, fun k p => (h'.locks k p).trans (h.locks k p),
    fun k p hk => ?_⟩
  · rw [htrace', htrace, List.append_assoc]
  · rw [List.mem_append, not_or]
    exact ⟨hnew' k, hnew k⟩
  · obtain ⟨hattempt, hfailures⟩ := h.kept k p hk
    obtain ⟨hattempt', hfailures'⟩ := h'.kept k p ((h.locks k p).2 hk)
    exact ⟨hattempt'.trans hattempt, hfailures'.trans hfailures⟩

theorem CountersBy.of_attempts {w w' : AuthState} {l : List AuthEvent}
    (htrace : w'.trace = l ++ w.trace) (hattempts : w'.attempts = w.attempts) : CountersBy w w' :=
  ⟨l, htrace, fun h hne => (hne (congrFun hattempts h)).elim⟩

theorem CountersBy.trans {w w' w'' : AuthState} (h : CountersBy w w') (h' : CountersBy w' w'') :
    CountersBy w w'' := by
  obtain ⟨newer, htrace, hby⟩ := h
  obtain ⟨newer', htrace', hby'⟩ := h'
  refine ⟨newer' ++ newer, by rw [htrace', htrace, List.append_assoc], fun k hne => ?_⟩
  by_cases hk : w''.attempts k = w'.attempts k
  · obtain ⟨i, hcommitted, hbegan⟩ := hby k (fun heq => hne (hk.trans heq))
    refine ⟨i, List.mem_append_right _ hcommitted, ?_⟩
    rw [htrace']
    exact List.mem_append_right _ hbegan
  · obtain ⟨i, hcommitted, hbegan⟩ := hby' k hk
    exact ⟨i, List.mem_append_left _ hcommitted, hbegan⟩

/-- What is rolled back leaves rows that count their failures. -/
def MayRollBack (i : CallId) (w : AuthState) : Prop :=
  ∀ h p, w.attemptLocks h = some (i, p) → Counts (w.failures h) h (w.attempts h)

/-- When a statement is sent. -/
def LimitReady (config : AuthConfig) (i : CallId) : AuthAction → AuthState → Prop
  | .upsertAttempt _ _, w => ∀ h, .began i h ∉ w.trace
  | .saveAttempt attempt, w => ∃ p, w.attemptLocks attempt.identifierHash = some (i, p)
  | .deleteAttempt h, w => ∃ p, w.attemptLocks h = some (i, p)
  | .verify h now _ _, w => ∃ attempt, w.attemptLocks h = some (i, some attempt) ∧
      Counts (w.failures h) h (some attempt) ∧ attempt.failedCount < config.loginMaxAttempts ∧
        now < attempt.windowStartedAt + config.loginWindowSeconds * 1000
  | .lockUser _, w | .revokeSessions _ _, w | .insertSession _ _, w | .revokeSession _ _, w =>
    MayRollBack i w
  | .commit none, w => ∀ h p, w.attemptLocks h = some (i, p) → Counts (w.failures h) h p
  | .commit (some h), w => w.attemptLocks h = some (i, none)
  | .readClock, _ | .selectAttempt _, _ | .findSession _, _ | .resolve _ _, _ => True

def limiting (config : AuthConfig) : Contract AuthAction CallId AuthState where
  inv := Limited config
  pre := LimitReady config
  guar i w w' := (∀ j, i ≠ j → LimitBeside j w w') ∧ CountersBy w w'
  rely := LimitBeside
  fresh i w := ∀ h, .began i h ∉ w.trace
  refl := LimitBeside.refl
  trans _ _ _ _ h h' := h.trans h'

/-! ## The statements -/

section Statements

variable {config : AuthConfig} {i j : CallId} {w w' : AuthState} {h : String}

/-- What one statement of a call does. -/
def LimitStep (config : AuthConfig) (i : CallId) (w w' : AuthState) : Prop :=
  Limited config w' ∧ (∀ j, i ≠ j → LimitBeside j w w') ∧ CountersBy w w'

theorem LimitStep.trans {w'' : AuthState} (h : LimitStep config i w w')
    (h' : LimitStep config i w' w'') : LimitStep config i w w'' :=
  ⟨h'.1, fun j hij => (h.2.1 j hij).trans (h'.2.1 j hij), h.2.2.trans h'.2.2⟩

theorem LimitBeside.same (hattempts : w'.attempts = w.attempts)
    (hlocks : w'.attemptLocks = w.attemptLocks) (htrace : w'.trace = w.trace) :
    LimitBeside j w w' := by
  refine ⟨⟨[], htrace, fun _ => List.not_mem_nil⟩, fun h p => by rw [hlocks], fun h p _ => ?_⟩
  refine ⟨congrFun hattempts h, ?_⟩
  funext s
  rw [AuthState.failures, AuthState.failures, htrace]

/-- A statement that touches no counter. -/
theorem Limited.same (hinv : Limited config w) (hattempts : w'.attempts = w.attempts)
    (hlocks : w'.attemptLocks = w.attemptLocks) (htrace : w'.trace = w.trace) :
    LimitStep config i w w' := by
  have hfailures : w'.failures = w.failures := by
    funext h s
    rw [AuthState.failures, AuthState.failures, htrace]
  refine ⟨⟨?_, ?_, ?_, ?_, ?_⟩, fun j _ => .same hattempts hlocks htrace,
    .of_attempts (l := []) htrace hattempts⟩
  · rw [hfailures]
    exact hinv.within
  · rw [hfailures, hattempts, hlocks]
    exact hinv.counted
  · rw [htrace]
    exact hinv.checked
  · rw [htrace, hlocks]
    exact hinv.locked
  · rw [htrace]
    exact hinv.once

theorem Limited.note {e : AuthEvent} (hinv : Limited config w) (he : e.isQuiet = true) :
    LimitStep config i w (w.note e) := by
  have hfailures := failures_note_of_isQuiet (w := w) he
  have hmem {x : AuthEvent} (hx : x.isQuiet = false) (h : x ∈ (w.note e).trace) : x ∈ w.trace := by
    refine (List.mem_cons.1 h).resolve_left fun heq => ?_
    rw [heq, he] at hx
    cases hx
  refine ⟨⟨?_, ?_, ?_, ?_, ?_⟩, fun j _ => ⟨⟨[e], rfl, fun h hbegan => ?_⟩, fun _ _ => Iff.rfl, ?_⟩,
    .of_attempts (l := [e]) rfl rfl⟩
  · rw [hfailures]
    exact hinv.within
  · rw [hfailures]
    exact hinv.counted
  · exact fun h row now ok hchecked => hinv.checked h row now ok (hmem rfl hchecked)
  · exact fun h k p hk => List.mem_cons_of_mem _ (hinv.locked h k p hk)
  · exact fun k h h' hh hh' => hinv.once k h h' (hmem rfl hh) (hmem rfl hh')
  · rw [← List.mem_singleton.1 hbegan] at he
    cases he
  · exact fun h p _ => ⟨rfl, congrFun hfailures h⟩

theorem release_attemptLocks {h : String} {p : CallId × Option AuthLoginAttempt} :
    (w.release i).attemptLocks h = some p ↔ w.attemptLocks h = some p ∧ p.1 ≠ i := by
  rw [AuthState.release, Option.filter_eq_some_iff]
  simp

/-- **A rollback leaves the rows as they were.** -/
theorem Limited.release (hinv : Limited config w) (hback : MayRollBack i w) :
    LimitStep config i w (w.release i) := by
  refine ⟨⟨hinv.within, fun h hnone => ?_, hinv.checked, fun h k p hk => ?_, hinv.once⟩,
    fun j hij => ⟨⟨[], rfl, fun _ => List.not_mem_nil⟩, fun h p => ?_, fun _ _ _ => ⟨rfl, rfl⟩⟩,
    .of_attempts (l := []) rfl rfl⟩
  · cases hlock : w.attemptLocks h with
    | none => exact hinv.counted h hlock
    | some p =>
      have hi : p.1 = i := by
        by_contra hne
        rw [release_attemptLocks.2 ⟨hlock, hne⟩] at hnone
        cases hnone
      exact hback h p.2 (by rw [hlock, ← hi])
  · exact hinv.locked h k p (release_attemptLocks.1 hk).1
  · rw [release_attemptLocks]
    exact and_iff_left (Ne.symm hij)

theorem putAttempt_attemptLocks_self {p : Option AuthLoginAttempt} :
    (w.putAttempt i h p).attemptLocks h = some (i, p) :=
  Function.update_self ..

theorem putAttempt_attemptLocks_of_ne {p : Option AuthLoginAttempt} {k : String} (hk : k ≠ h) :
    (w.putAttempt i h p).attemptLocks k = w.attemptLocks k :=
  Function.update_of_ne hk ..

/-- A row that call `i` has locked, or that nobody has, is to be another. -/
theorem Limited.put (hinv : Limited config w) {p : Option AuthLoginAttempt}
    (hfree : ∀ j q, w.attemptLocks h = some (j, q) → j = i) (hbegan : .began i h ∈ w.trace) :
    LimitStep config i w (w.putAttempt i h p) := by
  refine ⟨⟨hinv.within, fun k hnone => ?_, hinv.checked, fun k j q hk => ?_, hinv.once⟩,
    fun j hij => ⟨⟨[], rfl, fun _ => List.not_mem_nil⟩, fun k q => ?_, fun _ _ _ => ⟨rfl, rfl⟩⟩,
    .of_attempts (l := []) rfl rfl⟩
  all_goals by_cases heq : k = h
  · rw [heq, putAttempt_attemptLocks_self] at hnone
    cases hnone
  · rw [putAttempt_attemptLocks_of_ne heq] at hnone
    exact hinv.counted k hnone
  · rw [heq, putAttempt_attemptLocks_self] at hk
    obtain ⟨rfl, -⟩ := Prod.mk.inj (Option.some.inj hk)
    rw [heq]
    exact hbegan
  · rw [putAttempt_attemptLocks_of_ne heq] at hk
    exact hinv.locked k j q hk
  · subst heq
    rw [putAttempt_attemptLocks_self]
    refine ⟨fun hk => ?_, fun hk => (hij (hfree j q hk).symm).elim⟩
    exact (hij (Prod.mk.inj (Option.some.inj hk)).1).elim
  · rw [putAttempt_attemptLocks_of_ne heq]

/-- A call that has begun with no row begins with one. -/
theorem Limited.began (hinv : Limited config w) (hfresh : ∀ k, .began i k ∉ w.trace) :
    LimitStep config i w (w.note (.began i h)) := by
  have hfailures := failures_note_began (w := w) (i := i) (h := h)
  refine ⟨⟨?_, ?_, fun k row now ok hchecked => ?_, fun k j p hk => ?_, fun j k k' hk hk' => ?_⟩,
    fun j hij => ⟨⟨[.began i h], rfl, fun k hk => ?_⟩, fun _ _ => Iff.rfl, ?_⟩,
    .of_attempts (l := [.began i h]) rfl rfl⟩
  · rw [hfailures]
    exact hinv.within
  · rw [hfailures]
    exact hinv.counted
  · exact hinv.checked k row now ok ((List.mem_cons.1 hchecked).resolve_left (fun heq => by cases heq))
  · exact List.mem_cons_of_mem _ (hinv.locked k j p hk)
  · rcases List.mem_cons.1 hk with heq | hold
    · obtain ⟨rfl, rfl⟩ := AuthEvent.began.inj heq
      rcases List.mem_cons.1 hk' with heq' | hold'
      · exact (AuthEvent.began.inj heq').2.symm
      · exact (hfresh k' hold').elim
    · rcases List.mem_cons.1 hk' with heq' | hold'
      · obtain ⟨rfl, rfl⟩ := AuthEvent.began.inj heq'
        exact (hfresh k hold).elim
      · exact hinv.once j k k' hold hold'
  · exact hij (AuthEvent.began.inj (List.mem_singleton.1 hk)).1.symm
  · exact fun k p _ => ⟨rfl, congrFun hfailures k⟩

theorem attemptAfter_of_locked {p : Option AuthLoginAttempt} (hlock : w.attemptLocks h = some (i, p)) :
    w.attemptAfter i h = p := by
  rw [AuthState.attemptAfter, hlock]
  exact if_pos rfl

theorem attemptAfter_of_not_locked (hlock : ∀ p, w.attemptLocks h ≠ some (i, p)) :
    w.attemptAfter i h = w.attempts h := by
  rw [AuthState.attemptAfter]
  cases hsome : w.attemptLocks h with
  | none => rfl
  | some q => exact if_neg fun heq => hlock q.2 (by rw [hsome, ← heq])

/-- The end of a transaction that leaves the rows it has locked as they count their failures. -/
theorem Limited.commit (hinv : Limited config w)
    (hcounts : ∀ h p, w.attemptLocks h = some (i, p) → Counts (w.failures h) h p) :
    LimitStep config i w ((w.commit i).note (.committed i)) := by
  have hfailures : ((w.commit i).note (.committed i)).failures = w.failures :=
    failures_note_of_isQuiet rfl
  have hlocks {k : String} {p : CallId × Option AuthLoginAttempt} :
      ((w.commit i).note (.committed i)).attemptLocks k = some p ↔
        w.attemptLocks k = some p ∧ p.1 ≠ i := release_attemptLocks
  have hmem {x : AuthEvent} (hx : x ≠ .committed i)
      (h : x ∈ ((w.commit i).note (.committed i)).trace) : x ∈ w.trace :=
    (List.mem_cons.1 h).resolve_left hx
  refine ⟨⟨?_, fun k hnone => ?_, fun k row now ok hchecked => ?_, fun k j p hk => ?_,
      fun j k k' hk hk' => ?_⟩, fun j hij => ⟨⟨[.committed i], rfl, fun k hk => ?_⟩, fun k p => ?_,
      fun k p hk => ⟨?_, congrFun hfailures k⟩⟩, [.committed i], rfl, fun k hne => ?_⟩
  · rw [hfailures]
    exact hinv.within
  · rw [hfailures]
    change Counts _ k (w.attemptAfter i k)
    by_cases hlock : ∃ p, w.attemptLocks k = some (i, p)
    · obtain ⟨p, hp⟩ := hlock
      rw [attemptAfter_of_locked hp]
      exact hcounts k p hp
    · rw [attemptAfter_of_not_locked (not_exists.1 hlock)]
      refine hinv.counted k ?_
      cases hsome : w.attemptLocks k with
      | none => rfl
      | some q =>
        rw [hlocks.2 ⟨hsome, fun heq => hlock ⟨q.2, by rw [hsome, ← heq]⟩⟩] at hnone
        cases hnone
  · exact hinv.checked k row now ok (hmem (fun heq => by cases heq) hchecked)
  · exact List.mem_cons_of_mem _ (hinv.locked k j p (hlocks.1 hk).1)
  · exact hinv.once j k k' (hmem (fun heq => by cases heq) hk) (hmem (fun heq => by cases heq) hk')
  · cases List.mem_singleton.1 hk
  · rw [hlocks]
    exact and_iff_left (Ne.symm hij)
  · refine attemptAfter_of_not_locked fun q hq => ?_
    rw [hk] at hq
    exact hij (Prod.mk.inj (Option.some.inj hq)).1.symm
  · by_cases hlock : ∃ p, w.attemptLocks k = some (i, p)
    · obtain ⟨p, hp⟩ := hlock
      exact ⟨i, List.mem_singleton_self _, List.mem_cons_of_mem _ (hinv.locked k i p hp)⟩
    · exact (hne (attemptAfter_of_not_locked (not_exists.1 hlock))).elim

/-- A login makes a new start. -/
theorem Limited.loggedIn (hinv : Limited config w) {p : Option AuthLoginAttempt}
    (hlock : w.attemptLocks h = some (i, p)) :
    LimitStep config i w (w.note (.loggedIn h)) := by
  have hmem {x : AuthEvent} (hx : x ≠ .loggedIn h) (hh : x ∈ (w.note (.loggedIn h)).trace) :
      x ∈ w.trace := (List.mem_cons.1 hh).resolve_left hx
  refine ⟨⟨fun k s => ?_, fun k hnone => ?_, fun k row now ok hchecked => ?_, fun k j p hk => ?_,
      fun j k k' hk hk' => ?_⟩, fun j hij => ⟨⟨[.loggedIn h], rfl, fun k hk => ?_⟩,
      fun _ _ => Iff.rfl, fun k q hk => ⟨rfl, ?_⟩⟩, .of_attempts (l := [.loggedIn h]) rfl rfl⟩
  · by_cases heq : h = k
    · rw [heq, failures_note_loggedIn_self]
      exact Nat.zero_le _
    · rw [failures_note_loggedIn_of_ne heq]
      exact hinv.within k s
  · have hne : h ≠ k := fun heq => by
      rw [← heq] at hnone
      exact absurd (hlock.symm.trans hnone) (Option.some_ne_none _)
    rw [failures_note_loggedIn_of_ne hne]
    exact hinv.counted k hnone
  · exact hinv.checked k row now ok (hmem (fun heq => by cases heq) hchecked)
  · exact List.mem_cons_of_mem _ (hinv.locked k j p hk)
  · exact hinv.once j k k' (hmem (fun heq => by cases heq) hk) (hmem (fun heq => by cases heq) hk')
  · cases List.mem_singleton.1 hk
  · refine failures_note_loggedIn_of_ne fun heq => ?_
    rw [← heq, hlock] at hk
    exact hij (Prod.mk.inj (Option.some.inj hk)).1

/-- **A failed check of a row that is not full stays within the limit.** -/
theorem Limited.check (hinv : Limited config w) {attempt : AuthLoginAttempt} {now : Int} {ok : Bool}
    (hlock : w.attemptLocks h = some (i, some attempt))
    (hcounts : Counts (w.failures h) h (some attempt))
    (hfew : attempt.failedCount < config.loginMaxAttempts)
    (hwindow : now < attempt.windowStartedAt + config.loginWindowSeconds * 1000) :
    LimitStep config i w (w.note (.checked h (some attempt) now ok)) := by
  have hne {k : String} : AuthEvent.checked h (some attempt) now ok ≠ .loggedIn k :=
    fun heq => by cases heq
  have hother {k : String} (hk : k ≠ h) :
      (w.note (.checked h (some attempt) now ok)).failures k = w.failures k := by
    funext s
    have hf : (AuthEvent.checked h (some attempt) now ok).fails k s = false := by
      simp [AuthEvent.fails, Ne.symm hk]
    rw [failures_note, if_neg hne, hf, if_neg Bool.false_ne_true, Nat.add_zero]
  have hmem {x : AuthEvent} (hx : x ≠ .checked h (some attempt) now ok)
      (hh : x ∈ (w.note (.checked h (some attempt) now ok)).trace) : x ∈ w.trace :=
    (List.mem_cons.1 hh).resolve_left hx
  refine ⟨⟨fun k s => ?_, fun k hnone => ?_, fun k row n b hchecked => ?_, fun k j p hk => ?_,
      fun j k k' hk hk' => ?_⟩, fun j hij => ⟨⟨[_], rfl, fun k hk => ?_⟩, fun _ _ => Iff.rfl,
      fun k p hk => ⟨rfl, ?_⟩⟩, .of_attempts (l := [_]) rfl rfl⟩
  · rw [failures_note, if_neg hne]
    split_ifs with hfails
    · simp only [AuthEvent.fails, Option.map_some, Bool.and_eq_true, beq_iff_eq,
        Option.some.injEq] at hfails
      obtain ⟨⟨-, rfl⟩, rfl⟩ := hfails
      have := hcounts.2.2
      omega
    · exact hinv.within k s
  · have hk : k ≠ h := fun heq => by
      rw [heq] at hnone
      exact absurd (hlock.symm.trans hnone) (Option.some_ne_none _)
    rw [hother hk]
    exact hinv.counted k hnone
  · rcases List.mem_cons.1 hchecked with heq | hchecked
    · obtain ⟨rfl, rfl, rfl, rfl⟩ := AuthEvent.checked.inj heq
      exact ⟨attempt, rfl, hfew, hwindow⟩
    · exact hinv.checked k row n b hchecked
  · exact List.mem_cons_of_mem _ (hinv.locked k j p hk)
  · exact hinv.once j k k' (hmem (fun heq => by cases heq) hk) (hmem (fun heq => by cases heq) hk')
  · cases List.mem_singleton.1 hk
  · refine hother fun heq => ?_
    rw [heq, hlock] at hk
    exact hij (Prod.mk.inj (Option.some.inj hk)).1

/-- **Every statement keeps the counters in order.** -/
theorem exec_limited {f : AuthFunctions} {a : AuthAction} {input : AuthInput} {b : a.Result}
    (hinv : Limited config w) (hpre : LimitReady config i a w)
    (h : AuthState.exec f i a input w = some (b, w')) : LimitStep config i w w' := by
  have hsame : LimitStep config i w w := hinv.same rfl rfl rfl
  cases a with
  | readClock =>
    obtain rfl := congrArg Prod.snd (Option.some.inj h)
    exact hinv.note rfl
  | upsertAttempt k now =>
    simp only [AuthState.exec] at h
    split_ifs at h with hback hheld
    · obtain rfl := congrArg Prod.snd (Option.some.inj h)
      exact hinv.release fun k p hk => (hpre k (hinv.locked k i p hk)).elim
    · obtain rfl := congrArg Prod.snd (Option.some.inj h)
      have hbegan := hinv.began (h := k) hpre
      refine hbegan.trans (hbegan.1.put (fun j q hq => ?_) List.mem_cons_self)
      have hq' : w.attemptLocks k = some (j, q) := hq
      by_contra hne
      exact hheld (by rw [AuthState.isAttemptHeld, hq']; simpa using hne)
  | selectAttempt k | findSession tokenHash =>
    obtain rfl := congrArg Prod.snd (Option.some.inj h)
    exact hsame
  | saveAttempt attempt =>
    obtain rfl := congrArg Prod.snd (Option.some.inj h)
    obtain ⟨p, hp⟩ := hpre
    refine hinv.put (fun j q hq => ?_) (hinv.locked _ i p hp)
    exact (Prod.mk.inj (Option.some.inj (hq.symm.trans hp))).1
  | deleteAttempt k =>
    obtain rfl := congrArg Prod.snd (Option.some.inj h)
    obtain ⟨p, hp⟩ := hpre
    refine hinv.put (fun j q hq => ?_) (hinv.locked _ i p hp)
    exact (Prod.mk.inj (Option.some.inj (hq.symm.trans hp))).1
  | lockUser email =>
    simp only [AuthState.exec] at h
    split_ifs at h
    · obtain rfl := congrArg Prod.snd (Option.some.inj h)
      exact hinv.release hpre
    · split at h
      · obtain rfl := congrArg Prod.snd (Option.some.inj h)
        exact hsame
      · split_ifs at h
        obtain rfl := congrArg Prod.snd (Option.some.inj h)
        exact hinv.same rfl rfl rfl
  | verify k now passwordHash password =>
    obtain rfl := congrArg Prod.snd (Option.some.inj h)
    obtain ⟨attempt, hlock, hcounts, hfew, hwindow⟩ := hpre
    rw [attemptAfter_of_locked hlock]
    exact hinv.check hlock hcounts hfew hwindow
  | revokeSessions userId now =>
    simp only [AuthState.exec] at h
    split_ifs at h
    · obtain rfl := congrArg Prod.snd (Option.some.inj h)
      exact hinv.release hpre
    · obtain rfl := congrArg Prod.snd (Option.some.inj h)
      exact hinv.same rfl rfl rfl
  | insertSession userId expiresAt =>
    simp only [AuthState.exec] at h
    split_ifs at h
    · obtain rfl := congrArg Prod.snd (Option.some.inj h)
      exact hinv.release hpre
    · obtain rfl := congrArg Prod.snd (Option.some.inj h)
      exact hinv.same rfl rfl rfl
  | commit loggedIn =>
    obtain rfl := congrArg Prod.snd (Option.some.inj h)
    cases loggedIn with
    | none => exact hinv.commit hpre
    | some k =>
      have hlock : w.attemptLocks k = some (i, none) := hpre
      have hlogin := hinv.loggedIn hlock
      refine hlogin.trans (hlogin.1.commit fun k' p hk' => ?_)
      obtain rfl : k = k' := hinv.once i k k' (hinv.locked k i none hlock) (hinv.locked k' i p hk')
      obtain rfl : none = p := (Prod.mk.inj (Option.some.inj (hlock.symm.trans hk'))).2
      rw [failures_note_loggedIn_self]
      exact fun _ => rfl
  | revokeSession id now =>
    simp only [AuthState.exec] at h
    split_ifs at h
    · obtain rfl := congrArg Prod.snd (Option.some.inj h)
      exact hinv.release hpre
    · obtain rfl := congrArg Prod.snd (Option.some.inj h)
      exact hinv.same rfl rfl rfl
    · obtain rfl := congrArg Prod.snd (Option.some.inj h)
      exact hsame
  | resolve tokenHash now =>
    simp only [AuthState.exec] at h
    split at h
    · obtain rfl := congrArg Prod.snd (Option.some.inj h)
      exact hsame
    · obtain rfl := congrArg Prod.snd (Option.some.inj h)
      exact hinv.note rfl

end Statements

/-! ## The calls -/

section Calls

variable {f : AuthFunctions} {config : AuthConfig} {i : CallId} {w w' : AuthState} {h : String}

/-- The calls, of which none dies in its transaction. -/
abbrev limitedCalls (f : AuthFunctions) (config : AuthConfig) :
    System AuthAction AuthAction.Result CallId AuthState :=
  (authCalls f config false).system

/-- Call `i` has locked the row, which is to be this one; both count the failures. -/
structure RowLocked (i : CallId) (h : String) (p : Option AuthLoginAttempt) (w : AuthState) :
    Prop where
  locked : w.attemptLocks h = some (i, p)
  counts : Counts (w.failures h) h p
  back : Counts (w.failures h) h (w.attempts h)

theorem RowLocked.stable {p : Option AuthLoginAttempt} (hrow : RowLocked i h p w)
    (hb : LimitBeside i w w') : RowLocked i h p w' := by
  obtain ⟨hattempt, hfailures⟩ := hb.kept h p hrow.locked
  refine ⟨(hb.locks h p).2 hrow.locked, ?_, ?_⟩
  · rw [hfailures]
    exact hrow.counts
  · rw [hfailures, hattempt]
    exact hrow.back

theorem mayRollBack_of_locked {p : Option AuthLoginAttempt} (hinv : Limited config w)
    (hlock : w.attemptLocks h = some (i, p)) (hback : Counts (w.failures h) h (w.attempts h)) :
    MayRollBack i w := by
  intro k q hk
  obtain rfl : h = k := hinv.once i h k (hinv.locked h i p hlock) (hinv.locked k i q hk)
  exact hback

/-- A call has locked one row at most. -/
theorem counts_of_locked {p : Option AuthLoginAttempt} (hinv : Limited config w)
    (hlock : w.attemptLocks h = some (i, p)) (hcounts : Counts (w.failures h) h p) :
    ∀ k q, w.attemptLocks k = some (i, q) → Counts (w.failures k) k q := by
  intro k q hk
  obtain rfl : h = k := hinv.once i h k (hinv.locked h i p hlock) (hinv.locked k i q hk)
  obtain rfl : p = q := (Prod.mk.inj (Option.some.inj (hlock.symm.trans hk))).2
  exact hcounts

theorem attemptLocks_saved {a : AuthLoginAttempt} (hhash : a.identifierHash = h) :
    (w.putAttempt i a.identifierHash (some a)).attemptLocks h = some (i, some a) := by
  rw [hhash]
  exact putAttempt_attemptLocks_self

theorem fresh_stable (hfresh : ∀ k, .began i k ∉ w.trace) (hb : LimitBeside i w w') :
    ∀ k, .began i k ∉ w'.trace := by
  obtain ⟨newer, htrace, hnew⟩ := hb.trace
  intro k
  rw [htrace, List.mem_append, not_or]
  exact ⟨hnew k, hfresh k⟩

/-- **The row of an attempt**: locked, counting its failures, with a window that is not over. -/
theorem openAttempt_spec {now : Int} (hfresh : ∀ k, .began i k ∉ w.trace) :
    Spec (limitedCalls f config) (limiting config) i (fun attempt w' =>
      RowLocked i h (some attempt) w' ∧
        now < attempt.windowStartedAt + config.loginWindowSeconds * 1000)
      (openAttempt config h now) w := by
  rw [openAttempt]
  refine AuthCall.act_spec fun w₁ hb hinv₁ =>
    ⟨fresh_stable hfresh hb, fun input b w₂ hexec hinv₂ _ => ?_⟩
  refine AuthCall.served_spec hinv₂ fun _ hok => ?_
  subst hok
  have hrow : ∃ attempt, RowLocked i h (some attempt) w₂ := by
    simp only [AuthState.exec] at hexec
    split_ifs at hexec with hback hheld
    · cases congrArg Prod.fst (Option.some.inj hexec)
    obtain rfl := congrArg Prod.snd (Option.some.inj hexec)
    have hfree : w₁.attemptLocks h = none := by
      cases hlock : w₁.attemptLocks h with
      | none => rfl
      | some q =>
        refine (fresh_stable hfresh hb h ?_).elim
        have hi : q.1 = i := by
          simpa [AuthState.isAttemptHeld, hlock] using hheld
        exact hinv₁.locked h i q.2 (by rw [hlock, ← hi])
    have hcounts := hinv₁.counted h hfree
    refine ⟨_, putAttempt_attemptLocks_self, ?_, hcounts⟩
    cases hattempt : w₁.attempts h with
    | none =>
      rw [hattempt] at hcounts
      exact ⟨rfl, fun s _ => hcounts s, (hcounts now).le⟩
    | some attempt =>
      rw [hattempt] at hcounts
      exact hcounts
  obtain ⟨attempt, hrow⟩ := hrow
  refine AuthCall.act_spec fun w₃ hb₃ hinv₃ => ⟨trivial, fun _ b w₄ hexec₄ hinv₄ _ => ?_⟩
  obtain ⟨rfl, rfl⟩ := Prod.mk.inj (Option.some.inj hexec₄)
  have hrow₃ := hrow.stable hb₃
  rw [attemptAfter_of_locked hrow₃.locked]
  dsimp only
  have hseconds := config.window.1
  by_cases hover : windowExpired config now attempt = true
  · rw [if_pos hover]
    have hage := of_decide_eq_true hover
    refine AuthCall.act_spec fun w₅ hb₅ hinv₅ => ?_
    have hrow₅ := hrow₃.stable hb₅
    obtain ⟨hhash, hlater, -⟩ := hrow₅.counts
    have hlock : w₅.attemptLocks attempt.identifierHash = some (i, some attempt) :=
      hhash.symm ▸ hrow₅.locked
    refine ⟨⟨some attempt, hlock⟩, fun _ _ w₆ hexec₆ hinv₆ _ => Spec.pure fun w₇ hb₇ _ => ?_⟩
    obtain rfl := congrArg Prod.snd (Option.some.inj hexec₆)
    have hstart : attempt.windowStartedAt < now := by omega
    have hnew : RowLocked i h (some { attempt with failedCount := 0, windowStartedAt := now })
        (w₅.putAttempt i attempt.identifierHash
          (some { attempt with failedCount := 0, windowStartedAt := now })) :=
      ⟨attemptLocks_saved (a := { attempt with failedCount := 0, windowStartedAt := now }) hhash,
        ⟨hhash, fun s hs => hlater s (hstart.trans hs), (hlater now hstart).le⟩, hrow₅.back⟩
    refine ⟨hnew.stable hb₇, ?_⟩
    dsimp only
    omega
  · rw [if_neg hover]
    have hage : ¬ config.loginWindowSeconds * 1000 ≤ now - attempt.windowStartedAt :=
      fun h => hover (decide_eq_true h)
    exact Spec.pure fun w₅ hb₅ _ => ⟨hrow₃.stable hb₅, by omega⟩

/-- **A rejection counts the failure.** -/
theorem rejectLogin_spec {attempt : AuthLoginAttempt} {u : Option AuthUser}
    (hlock : w.attemptLocks h = some (i, some attempt))
    (hcounts : Counts (w.failures h) h
      (some { attempt with failedCount := attempt.failedCount + 1 }))
    (hfew : attempt.failedCount < config.loginMaxAttempts) :
    Spec (limitedCalls f config) (limiting config) i (fun _ _ => True)
      (rejectLogin config attempt u) w := by
  have hmin : min (attempt.failedCount + 1) config.loginMaxAttempts = attempt.failedCount + 1 :=
    Nat.min_eq_left hfew
  have hhash : attempt.identifierHash = h := hcounts.1
  rw [rejectLogin, hmin]
  refine AuthCall.act_spec fun w₁ hb₁ hinv₁ => ?_
  have hlock₁ := (hb₁.locks h _).2 hlock
  have hfailures₁ := (hb₁.kept h _ hlock).2
  refine ⟨⟨some attempt, by dsimp only; rw [hhash]; exact hlock₁⟩, fun _ _ w₂ hexec₂ hinv₂ _ => ?_⟩
  obtain rfl := congrArg Prod.snd (Option.some.inj hexec₂)
  refine AuthCall.act_spec fun w₃ hb₃ hinv₃ => ⟨?_, fun _ _ w₄ _ _ _ => Spec.pure fun _ _ _ => trivial⟩
  have hsaved := attemptLocks_saved (w := w₁) (i := i)
    (a := { attempt with failedCount := attempt.failedCount + 1 }) hhash
  refine counts_of_locked hinv₃ ((hb₃.locks h _).2 hsaved) ?_
  rw [(hb₃.kept h _ hsaved).2]
  change Counts (w₁.failures h) h _
  rw [hfailures₁]
  exact hcounts

/-- **A login forgets the failures.** -/
theorem acceptLogin_spec {p : Option AuthLoginAttempt} {now : Int} {user : AuthUser}
    (hrow : RowLocked i h p w) :
    Spec (limitedCalls f config) (limiting config) i (fun _ _ => True)
      (acceptLogin config h now user) w := by
  rw [acceptLogin]
  refine AuthCall.act_spec fun w₁ hb₁ hinv₁ => ?_
  have hrow₁ := hrow.stable hb₁
  refine ⟨⟨p, hrow₁.locked⟩, fun _ _ w₂ hexec₂ hinv₂ _ => ?_⟩
  obtain rfl := congrArg Prod.snd (Option.some.inj hexec₂)
  have hlock₂ : (w₁.putAttempt i h none).attemptLocks h = some (i, none) :=
    putAttempt_attemptLocks_self
  have hback {w₃ : AuthState} (hb : LimitBeside i (w₁.putAttempt i h none) w₃)
      (hinv₃ : Limited config w₃) : MayRollBack i w₃ := by
    obtain ⟨hattempt, hfailures⟩ := hb.kept h none hlock₂
    refine mayRollBack_of_locked hinv₃ ((hb.locks h none).2 hlock₂) ?_
    rw [hattempt, hfailures]
    exact hrow₁.back
  refine AuthCall.act_spec fun w₃ hb₃ hinv₃ => ⟨hback hb₃ hinv₃, fun _ _ w₄ hexec₄ hinv₄ _ => ?_⟩
  refine AuthCall.served_spec hinv₄ fun _ hok => ?_
  subst hok
  have hb₄ : LimitBeside i w₃ w₄ := by
    simp only [AuthState.exec] at hexec₄
    split_ifs at hexec₄
    · cases congrArg Prod.fst (Option.some.inj hexec₄)
    · obtain rfl := congrArg Prod.snd (Option.some.inj hexec₄)
      exact .same rfl rfl rfl
  refine AuthCall.act_spec fun w₅ hb₅ hinv₅ =>
    ⟨hback ((hb₃.trans hb₄).trans hb₅) hinv₅, fun _ _ w₆ hexec₆ hinv₆ _ => ?_⟩
  refine AuthCall.served_spec hinv₆ fun sessionToken hok => ?_
  subst hok
  have hb₆ : LimitBeside i w₅ w₆ := by
    simp only [AuthState.exec] at hexec₆
    split_ifs at hexec₆
    · cases congrArg Prod.fst (Option.some.inj hexec₆)
    · obtain rfl := congrArg Prod.snd (Option.some.inj hexec₆)
      exact .same rfl rfl rfl
  refine AuthCall.act_spec fun w₇ hb₇ _ => ⟨?_, fun _ _ _ _ _ _ => Spec.pure fun _ _ _ => trivial⟩
  exact (((((hb₃.trans hb₄).trans hb₅).trans hb₆).trans hb₇).locks h none).2 hlock₂

theorem loginInTransaction_spec (hfresh : ∀ k, .began i k ∉ w.trace) (email password : String) :
    Spec (limitedCalls f config) (limiting config) i (fun _ _ => True)
      (loginInTransaction f config email password) w := by
  rw [loginInTransaction]
  refine AuthCall.act_spec fun w₁ hb₁ hinv₁ => ⟨trivial, fun _ now w₂ hexec₂ hinv₂ hg₂ => ?_⟩
  obtain ⟨rfl, rfl⟩ := Prod.mk.inj (Option.some.inj hexec₂)
  have hfresh₂ : ∀ k, .began i k ∉ (w₁.note (.instant i w₁.now)).trace := fun k hk =>
    fresh_stable hfresh hb₁ k ((List.mem_cons.1 hk).resolve_left fun heq => by cases heq)
  refine Spec.bind (openAttempt_spec hfresh₂) hinv₂ fun attempt w₃ hinv₃ hopened => ?_
  obtain ⟨hrow, hwindow⟩ := hopened
  split_ifs with hfull
  · refine AuthCall.act_spec fun w₄ hb₄ hinv₄ =>
      ⟨?_, fun _ _ _ _ _ _ => Spec.pure fun _ _ _ => trivial⟩
    have hrow₄ := hrow.stable hb₄
    exact counts_of_locked hinv₄ hrow₄.locked hrow₄.counts
  have hfew : attempt.failedCount < config.loginMaxAttempts := not_le.1 hfull
  refine AuthCall.act_spec fun w₄ hb₄ hinv₄ => ?_
  have hrow₄ := hrow.stable hb₄
  refine ⟨mayRollBack_of_locked hinv₄ hrow₄.locked hrow₄.back, fun _ found w₅ hexec₅ hinv₅ _ => ?_⟩
  refine AuthCall.served_spec hinv₅ fun user hok => ?_
  subst hok
  have hb₅ : LimitBeside i w₄ w₅ := by
    simp only [AuthState.exec] at hexec₅
    split_ifs at hexec₅
    · cases congrArg Prod.fst (Option.some.inj hexec₅)
    · split at hexec₅
      · obtain rfl := congrArg Prod.snd (Option.some.inj hexec₅)
        exact .refl i w₄
      · split_ifs at hexec₅
        obtain rfl := congrArg Prod.snd (Option.some.inj hexec₅)
        exact .same rfl rfl rfl
  refine AuthCall.act_spec fun w₆ hb₆ hinv₆ => ?_
  have hrow₆ := (hrow₄.stable hb₅).stable hb₆
  refine ⟨⟨attempt, hrow₆.locked, hrow₆.counts, hfew, hwindow⟩, fun _ ok w₇ hexec₇ hinv₇ _ => ?_⟩
  obtain ⟨rfl, rfl⟩ := Prod.mk.inj (Option.some.inj hexec₇)
  rw [attemptAfter_of_locked hrow₆.locked]
  -- Whatever becomes of it, the row has room for one more failure.
  have hreject (u : Option AuthUser) := rejectLogin_spec (f := f) (u := u)
    (w := w₆.note (.checked (f.sha256 email) (some attempt) w₁.now
      (f.verify ((user.map (·.passwordHash)).getD dummyPasswordHash) password)))
    (hrow₆.locked) (Counts.checked hrow₆.counts) hfew
  cases user with
  | none => exact hreject none
  | some user =>
    dsimp only
    split_ifs with hrejected
    · exact hreject (some user)
    · simp only [Option.map_some, Option.getD_some, Bool.or_eq_true, Bool.not_eq_true',
        not_or, Bool.not_eq_false] at hrejected ⊢
      rw [hrejected.1]
      refine acceptLogin_spec (p := some attempt) ⟨hrow₆.locked, ?_, ?_⟩
      · rw [failures_note_accepted]
        exact hrow₆.counts
      · rw [failures_note_accepted]
        exact hrow₆.back

/-- A call that has locked no row may be rolled back. -/
theorem mayRollBack_of_fresh (hinv : Limited config w) (hfresh : ∀ k, .began i k ∉ w.trace) :
    MayRollBack i w :=
  fun k p hk => (hfresh k (hinv.locked k i p hk)).elim

theorem logout_spec (hfresh : ∀ k, .began i k ∉ w.trace) (sessionId : String) :
    Spec (limitedCalls f config) (limiting config) i (fun _ _ => True) (logout sessionId) w := by
  rw [logout]
  refine AuthCall.act_spec fun w₁ hb₁ hinv₁ => ⟨trivial, fun _ now w₂ hexec₂ hinv₂ _ => ?_⟩
  obtain ⟨rfl, rfl⟩ := Prod.mk.inj (Option.some.inj hexec₂)
  have hfresh₂ : ∀ k, .began i k ∉ (w₁.note (.instant i w₁.now)).trace := fun k hk =>
    fresh_stable hfresh hb₁ k ((List.mem_cons.1 hk).resolve_left fun heq => by cases heq)
  refine AuthCall.act_spec fun w₃ hb₃ hinv₃ => ?_
  have hfresh₃ := fresh_stable hfresh₂ hb₃
  refine ⟨mayRollBack_of_fresh hinv₃ hfresh₃, fun _ revoked w₄ hexec₄ hinv₄ _ => ?_⟩
  refine AuthCall.served_spec hinv₄ fun _ _ => ?_
  have htrace : w₄.trace = w₃.trace := by
    simp only [AuthState.exec] at hexec₄
    split_ifs at hexec₄
    all_goals
      obtain rfl := congrArg Prod.snd (Option.some.inj hexec₄)
      rfl
  refine AuthCall.act_spec fun w₅ hb₅ hinv₅ => ⟨fun k p hk => ?_, ?_⟩
  · refine (fresh_stable (fun k hk => hfresh₃ k ?_) hb₅ k (hinv₅.locked k i p hk)).elim
    exact htrace ▸ hk
  · exact fun _ _ _ _ _ _ => Spec.pure fun _ _ _ => trivial

theorem revokeSessionByToken_spec (hfresh : ∀ k, .began i k ∉ w.trace) (sessionToken : Option String) :
    Spec (limitedCalls f config) (limiting config) i (fun _ _ => True)
      (revokeSessionByToken f sessionToken) w := by
  cases sessionToken with
  | none => exact Spec.pure fun _ _ _ => trivial
  | some sessionToken =>
    rw [revokeSessionByToken]
    refine AuthCall.act_spec fun w₁ hb₁ hinv₁ => ⟨trivial, fun _ found w₂ hexec₂ hinv₂ _ => ?_⟩
    obtain ⟨rfl, rfl⟩ := Prod.mk.inj (Option.some.inj hexec₂)
    split
    · exact Spec.pure fun _ _ _ => trivial
    · exact logout_spec (fresh_stable hfresh hb₁) _

theorem resolveSession_spec (sessionToken : String) :
    Spec (limitedCalls f config) (limiting config) i (fun _ _ => True)
      (resolveSession f sessionToken) w := by
  rw [resolveSession]
  refine AuthCall.act_spec fun w₁ _ _ => ⟨trivial, fun _ now w₂ _ _ _ => ?_⟩
  exact Spec.perform fun w₃ _ _ => ⟨trivial, fun _ _ _ _ _ _ _ _ => trivial⟩

theorem limiting_discipline : Discipline (limitedCalls f config) (limiting config) where
  entry i p w hp hinv hfresh := by
    obtain ⟨entry, rfl⟩ := hp
    cases entry with
    | login email password =>
      exact AuthCall.start_safe (loginInTransaction_spec hfresh _ password) hinv
    | logout sessionId => exact AuthCall.start_safe (logout_spec hfresh sessionId) hinv
    | revokeSessionByToken sessionToken =>
      exact AuthCall.start_safe (revokeSessionByToken_spec hfresh sessionToken) hinv
    | resolveSession sessionToken => exact AuthCall.start_safe (resolveSession_spec sessionToken) hinv
  step i a b w w' hinv hpre hs := by
    obtain ⟨input, hexec⟩ := hs
    exact exec_limited hinv hpre hexec
  compatible i j w w' hij h := h.1 j hij
  fresh i w w' hb hfresh := fresh_stable hfresh hb
  env w w' h hinv := by
    obtain ⟨users, now, -, rfl⟩ := h
    have hstep : LimitStep config 0 w { w with users, now } := hinv.same rfl rfl rfl
    exact ⟨hstep.1, fun j => .same rfl rfl rfl⟩
  drop i w hinv := ⟨hinv, fun j _ => .refl j w⟩

theorem limited_init {users : List AuthUser} {sessions : List AuthSession}
    {attempts : String → Option AuthLoginAttempt} {now : Int}
    (hattempts : ∀ h attempt, attempts h = some attempt → attempt.identifierHash = h) :
    Limited config (.init users sessions attempts now) := by
  have hnone {h : String} {s : Int} :
      (AuthState.init users sessions attempts now).failures h s = 0 := rfl
  refine ⟨fun h s => hnone.le.trans (Nat.zero_le _), fun h _ => ?_, fun _ _ _ _ h => (nomatch h),
    fun _ _ _ h => (nomatch h), fun _ _ _ h => (nomatch h)⟩
  change Counts _ h (attempts h)
  cases hattempt : attempts h with
  | none => exact fun _ => hnone
  | some attempt =>
    exact ⟨hattempts h attempt hattempt, fun _ _ => hnone, hnone.le.trans (Nat.zero_le _)⟩

end Calls

namespace Sample

/-- A login that fails, and a second one in the same window. -/
def twoLogins : List (Pick CallId AuthInput AuthEntry) :=
  .start 0 (.login "a" "x") :: List.replicate 7 (authSends 0) ++
    .start 1 (.login "a" "x") :: List.replicate 4 (authSends 1)

end Sample

end ApiScore
