import ApiScore.Auth.Login

/-!
# One session for each user

A login holds the row of its user from before it revokes the sessions to the commit that opens the new
one, so that no other session of the user can appear in between.  What its instant has found expired is
expired, since the clock goes forward.  A resolution takes its instant before its query: what has
expired in between it still resolves.

* `SessionsSafe` — at most one session of a user is neither revoked nor expired.
* `session_safety` — one session for each user, and what is revoked, superseded or expired is over.
* `resolved_after_expiry` — a resolution that is older than the expiry.
-/

set_option autoImplicit false

namespace ApiScore

open Concurrent
open AuthCall (act served)

/-! ## What the calls preserve -/

/-- Revoked, or expired at `now`. -/
def AuthSession.Over (now : Int) (s : AuthSession) : Prop :=
  s.revokedAt.isSome = true ∨ s.expiresAt ≤ now

/-- Over, as soon as call `i` has committed. -/
def Superseded (i : CallId) (w : AuthState) (s : AuthSession) : Prop :=
  s.Over w.now ∨ ∃ t, w.revoking s.id = some (i, t)

/-- The same session, perhaps revoked since. -/
def AuthSession.Later (s s' : AuthSession) : Prop :=
  s'.id = s.id ∧ s'.userId = s.userId ∧ s'.expiresAt = s.expiresAt ∧
    (s.revokedAt.isSome = true → s'.revokedAt.isSome = true)

structure SessionsSafe (w : AuthState) : Prop where
  single : w.sessions.Pairwise fun s x => s.userId = x.userId → s.Over w.now
  ids : (w.sessions.map (·.id) ++ w.opening.map (·.2.id)).Nodup
  /-- Who opens a session has locked its user, and is revoking the others. -/
  opened : ∀ p ∈ w.opening, w.userLocks p.2.userId = some p.1 ∧
    ∀ s ∈ w.sessions, s.userId = p.2.userId → Superseded p.1 w s
  once : (w.opening.map (·.1)).Nodup

/-- What a call relies on: what it has locked stays locked, and nobody else opens a session of a user
it has locked. -/
structure SessionsBeside (j : CallId) (w w' : AuthState) : Prop where
  trace : ∃ newer, w'.trace = newer ++ w.trace
  now : w.now ≤ w'.now
  users : ∀ u, w.userLocks u = some j → w'.userLocks u = some j
  revoking : ∀ s t, w.revoking s = some (j, t) → w'.revoking s = some (j, t)
  opening : ∀ s, (j, s) ∈ w'.opening ↔ (j, s) ∈ w.opening
  sessions : ∀ s' ∈ w'.sessions, (∃ s ∈ w.sessions, s.Later s') ∨ w.userLocks s'.userId ≠ some j

/-- What becomes of the sessions: they stay what they are unless they are revoked, and what is resolved
has not been revoked and expires after the instant of the call. -/
structure SessionsOnward (w w' : AuthState) : Prop where
  now : w.now ≤ w'.now
  sessions : ∀ s ∈ w.sessions, ∃ s' ∈ w'.sessions, s.Later s'
  trace : ∃ newer, w'.trace = newer ++ w.trace ∧ (∀ i t, .instant i t ∈ newer → w.now ≤ t) ∧
    ∀ i id, .resolved i id ∈ newer → ∃ t, .instant i t ∈ w'.trace ∧
      ∀ s ∈ w.sessions, s.id = id → s.revokedAt = none ∧ t < s.expiresAt

section Relations

variable {i j : CallId} {w w' w'' : AuthState} {s s' s'' : AuthSession}

theorem AuthSession.Later.refl (s : AuthSession) : s.Later s :=
  ⟨rfl, rfl, rfl, fun h => h⟩

theorem AuthSession.Later.trans (h : s.Later s') (h' : s'.Later s'') : s.Later s'' :=
  ⟨h'.1.trans h.1, h'.2.1.trans h.2.1, h'.2.2.1.trans h.2.2.1, fun hs => h'.2.2.2 (h.2.2.2 hs)⟩

theorem AuthSession.Later.over {now now' : Int} (h : s.Later s') (hover : s.Over now)
    (hnow : now ≤ now') : s'.Over now' := by
  refine hover.imp h.2.2.2 fun hs => ?_
  rw [h.2.2.1]
  exact hs.trans hnow

/-- What is not revoked was not revoked before. -/
theorem AuthSession.Later.revokedAt_eq_none (h : s.Later s') (hs : s'.revokedAt = none) :
    s.revokedAt = none := by
  by_contra hne
  have hsome := h.2.2.2 (Option.isSome_iff_ne_none.2 hne)
  rw [hs] at hsome
  cases hsome

theorem SessionsBeside.refl (j : CallId) (w : AuthState) : SessionsBeside j w w :=
  ⟨⟨[], rfl⟩, le_refl _, fun _ h => h, fun _ _ h => h, fun _ => Iff.rfl,
    fun s hs => .inl ⟨s, hs, .refl s⟩⟩

theorem SessionsBeside.trans (h : SessionsBeside j w w') (h' : SessionsBeside j w' w'') :
    SessionsBeside j w w'' := by
  refine ⟨?_, h.now.trans h'.now, fun u hu => h'.users u (h.users u hu),
    fun s t ht => h'.revoking s t (h.revoking s t ht), fun s => (h'.opening s).trans (h.opening s),
    fun s'' hs'' => ?_⟩
  · obtain ⟨newer, htrace⟩ := h.trace
    obtain ⟨newer', htrace'⟩ := h'.trace
    exact ⟨newer' ++ newer, by rw [htrace', htrace, List.append_assoc]⟩
  · rcases h'.sessions s'' hs'' with ⟨s', hs', hlater'⟩ | hfree
    · rcases h.sessions s' hs' with ⟨s, hs, hlater⟩ | hfree
      · exact .inl ⟨s, hs, hlater.trans hlater'⟩
      · rw [hlater'.2.1]
        exact .inr hfree
    · exact .inr fun hu => hfree (h.users _ hu)

theorem SessionsOnward.refl (w : AuthState) : SessionsOnward w w :=
  ⟨le_refl _, fun s hs => ⟨s, hs, .refl s⟩, [], rfl, fun _ _ h => (nomatch h),
    fun _ _ h => (nomatch h)⟩

theorem SessionsOnward.same (hnow : w'.now = w.now) (hsessions : w'.sessions = w.sessions)
    (htrace : w'.trace = w.trace) : SessionsOnward w w' :=
  ⟨hnow.ge, fun s hs => ⟨s, hsessions ▸ hs, .refl s⟩, [], htrace, fun _ _ h => (nomatch h),
    fun _ _ h => (nomatch h)⟩

theorem SessionsOnward.trans (h : SessionsOnward w w') (h' : SessionsOnward w' w'') :
    SessionsOnward w w'' := by
  refine ⟨h.now.trans h'.now, fun s hs => ?_, ?_⟩
  · obtain ⟨s', hs', hlater⟩ := h.sessions s hs
    obtain ⟨s'', hs'', hlater'⟩ := h'.sessions s' hs'
    exact ⟨s'', hs'', hlater.trans hlater'⟩
  · obtain ⟨newer, htrace, hinstant, hresolved⟩ := h.trace
    obtain ⟨newer', htrace', hinstant', hresolved'⟩ := h'.trace
    refine ⟨newer' ++ newer, by rw [htrace', htrace, List.append_assoc], fun i t ht => ?_,
      fun i id hid => ?_⟩
    · rcases List.mem_append.1 ht with ht | ht
      · exact h.now.trans (hinstant' i t ht)
      · exact hinstant i t ht
    · rcases List.mem_append.1 hid with hid | hid
      · obtain ⟨t, ht, hall⟩ := hresolved' i id hid
        refine ⟨t, ht, fun s hs heq => ?_⟩
        obtain ⟨s', hs', hlater⟩ := h.sessions s hs
        obtain ⟨hnone, hexpires⟩ := hall s' hs' (hlater.1.trans heq)
        exact ⟨hlater.revokedAt_eq_none hnone, hlater.2.2.1 ▸ hexpires⟩
      · obtain ⟨t, ht, hall⟩ := hresolved i id hid
        refine ⟨t, ?_, hall⟩
        rw [htrace']
        exact List.mem_append_right _ ht

/-- What a call has superseded stays superseded. -/
theorem Superseded.stable (h : Superseded j w s) (hlater : s.Later s') (hb : SessionsBeside j w w') :
    Superseded j w' s' := by
  rcases h with hover | ⟨t, ht⟩
  · exact .inl (hlater.over hover hb.now)
  · refine .inr ⟨t, ?_⟩
    rw [hlater.1]
    exact hb.revoking _ _ ht

end Relations

/-- When a statement is sent. -/
def SessionsReady (i : CallId) : AuthAction → AuthState → Prop
  | .insertSession userId _, w => w.userLocks userId = some i ∧ (∀ s, (i, s) ∉ w.opening) ∧
      ∀ s ∈ w.sessions, s.userId = userId → Superseded i w s
  | .resolve _ now, w => .instant i now ∈ w.trace
  | _, _ => True

def sessionSafety : Contract AuthAction CallId AuthState where
  inv := SessionsSafe
  pre := SessionsReady
  guar i w w' := (∀ j, i ≠ j → SessionsBeside j w w') ∧ SessionsOnward w w'
  rely := SessionsBeside
  fresh i w := ∀ s, (i, s) ∉ w.opening
  refl := SessionsBeside.refl
  trans _ _ _ _ h h' := h.trans h'

/-! ## The statements -/

section Statements

variable {i j : CallId} {w w' : AuthState}

/-- What one statement of a call does. -/
def SessionsStep (i : CallId) (w w' : AuthState) : Prop :=
  SessionsSafe w' ∧ (∀ j, i ≠ j → SessionsBeside j w w') ∧ SessionsOnward w w'

theorem SessionsStep.trans {w'' : AuthState} (h : SessionsStep i w w') (h' : SessionsStep i w' w'') :
    SessionsStep i w w'' :=
  ⟨h'.1, fun j hij => (h.2.1 j hij).trans (h'.2.1 j hij), h.2.2.trans h'.2.2⟩

/-- A statement that touches no session. -/
theorem SessionsSafe.same (hinv : SessionsSafe w) (hnow : w.now ≤ w'.now)
    (hsessions : w'.sessions = w.sessions) (husers : w'.userLocks = w.userLocks)
    (hrevoking : w'.revoking = w.revoking) (hopening : w'.opening = w.opening)
    (htrace : w'.trace = w.trace) : SessionsStep i w w' := by
  refine ⟨⟨?_, ?_, fun p hp => ?_, ?_⟩, fun j _ => ⟨⟨[], htrace⟩, hnow, ?_, ?_, ?_, ?_⟩, hnow, ?_, [],
    htrace, fun _ _ h => (nomatch h), fun _ _ h => (nomatch h)⟩
  · rw [hsessions]
    exact hinv.single.imp fun h hu => (AuthSession.Later.refl _).over (h hu) hnow
  · rw [hsessions, hopening]
    exact hinv.ids
  · rw [hopening] at hp
    obtain ⟨huser, hsuperseded⟩ := hinv.opened p hp
    rw [husers, hsessions]
    refine ⟨huser, fun s hs hu => (hsuperseded s hs hu).imp (fun hover => ?_) fun ht => ?_⟩
    · exact (AuthSession.Later.refl s).over hover hnow
    · rw [hrevoking]
      exact ht
  · rw [hopening]
    exact hinv.once
  · exact fun u hu => by rw [husers]; exact hu
  · exact fun s t ht => by rw [hrevoking]; exact ht
  · exact fun s => by rw [hopening]
  · intro s hs
    rw [hsessions] at hs
    exact .inl ⟨s, hs, .refl s⟩
  · exact fun s hs => ⟨s, hsessions ▸ hs, .refl s⟩

/-- A statement that is noted. -/
theorem SessionsSafe.note {e : AuthEvent} (hinv : SessionsSafe w)
    (hinstant : ∀ i t, e = .instant i t → w.now ≤ t)
    (hresolved : ∀ i id, e = .resolved i id → ∃ t, .instant i t ∈ w.trace ∧
      ∀ s ∈ w.sessions, s.id = id → s.revokedAt = none ∧ t < s.expiresAt) :
    SessionsStep i w (w.note e) := by
  refine ⟨⟨hinv.single, hinv.ids, hinv.opened, hinv.once⟩, fun j _ => ⟨⟨[e], rfl⟩, le_refl _,
    fun _ h => h, fun _ _ h => h, fun _ => Iff.rfl, fun s hs => .inl ⟨s, hs, .refl s⟩⟩, le_refl _,
    fun s hs => ⟨s, hs, .refl s⟩, [e], rfl, fun k t hk => ?_, fun k id hk => ?_⟩
  · exact hinstant k t (List.mem_singleton.1 hk).symm
  · obtain ⟨t, ht, hall⟩ := hresolved k id (List.mem_singleton.1 hk).symm
    exact ⟨t, List.mem_cons_of_mem _ ht, hall⟩

theorem release_userLocks {u : String} {k : CallId} :
    (w.release i).userLocks u = some k ↔ w.userLocks u = some k ∧ k ≠ i := by
  rw [AuthState.release, Option.filter_eq_some_iff]
  simp

theorem release_revoking {s : String} {p : CallId × Int} :
    (w.release i).revoking s = some p ↔ w.revoking s = some p ∧ p.1 ≠ i := by
  rw [AuthState.release, Option.filter_eq_some_iff]
  simp

theorem mem_release_opening {p : CallId × AuthSession} :
    p ∈ (w.release i).opening ↔ p ∈ w.opening ∧ p.1 ≠ i := by
  rw [AuthState.release, List.mem_filter]
  simp

/-- **A rollback leaves the sessions as they were.** -/
theorem SessionsSafe.release (hinv : SessionsSafe w) : SessionsStep i w (w.release i) := by
  have hsub : (w.release i).opening.Sublist w.opening := List.filter_sublist
  refine ⟨⟨hinv.single, ?_, fun p hp => ?_, ?_⟩, fun j hij => ⟨⟨[], rfl⟩, le_refl _, fun u hu => ?_,
    fun s t ht => ?_, fun s => ?_, fun s hs => .inl ⟨s, hs, .refl s⟩⟩, .same rfl rfl rfl⟩
  · exact hinv.ids.sublist ((List.Sublist.refl _).append (hsub.map _))
  · obtain ⟨hmem, hne⟩ := mem_release_opening.1 hp
    obtain ⟨huser, hsuperseded⟩ := hinv.opened p hmem
    refine ⟨release_userLocks.2 ⟨huser, hne⟩, fun s hs hu => (hsuperseded s hs hu).imp_right ?_⟩
    exact fun ⟨t, ht⟩ => ⟨t, release_revoking.2 ⟨ht, hne⟩⟩
  · exact hinv.once.sublist (hsub.map _)
  · exact release_userLocks.2 ⟨hu, Ne.symm hij⟩
  · exact release_revoking.2 ⟨ht, Ne.symm hij⟩
  · rw [mem_release_opening]
    exact and_iff_left (Ne.symm hij)

/-- A user is locked whom nobody else has locked. -/
theorem SessionsSafe.lockUser (hinv : SessionsSafe w) {u : String}
    (hfree : ∀ k, w.userLocks u = some k → k = i) :
    SessionsStep i w { w with userLocks := Function.update w.userLocks u (some i) } := by
  have hkeep {k : CallId} {x : String} (hx : w.userLocks x = some k) :
      Function.update w.userLocks u (some i) x = some k := by
    by_cases heq : x = u
    · rw [heq] at hx ⊢
      rw [Function.update_self, hfree k hx]
    · rw [Function.update_of_ne heq, hx]
  refine ⟨⟨hinv.single, hinv.ids, fun p hp => ?_, hinv.once⟩, fun j hij => ⟨⟨[], rfl⟩, le_refl _,
    fun x hx => hkeep hx, fun _ _ h => h, fun _ => Iff.rfl, fun s hs => .inl ⟨s, hs, .refl s⟩⟩,
    .same rfl rfl rfl⟩
  exact ⟨hkeep (hinv.opened p hp).1, (hinv.opened p hp).2⟩

/-- Sessions are revoked that nobody else is revoking. -/
theorem SessionsSafe.revoke (hinv : SessionsSafe w) {ids : List String} {now : Int}
    (hfree : ∀ id ∈ ids, ∀ k t, w.revoking id = some (k, t) → k = i) :
    SessionsStep i w (w.revoke i ids now) := by
  have hkeep {k : CallId} {s : String} (hs : ∃ t, w.revoking s = some (k, t)) :
      ∃ t, (w.revoke i ids now).revoking s = some (k, t) := by
    obtain ⟨t, ht⟩ := hs
    rw [AuthState.revoke]
    dsimp only
    split_ifs with hmem
    · exact ⟨now, by rw [hfree s (List.contains_iff_mem.1 hmem) k t ht]⟩
    · exact ⟨t, ht⟩
  refine ⟨⟨hinv.single, hinv.ids, fun p hp => ?_, hinv.once⟩, fun j hij => ⟨⟨[], rfl⟩, le_refl _,
    fun _ h => h, fun s t ht => ?_, fun _ => Iff.rfl, fun s hs => .inl ⟨s, hs, .refl s⟩⟩,
    .same rfl rfl rfl⟩
  · obtain ⟨huser, hsuperseded⟩ := hinv.opened p hp
    exact ⟨huser, fun s hs hu => (hsuperseded s hs hu).imp_right hkeep⟩
  · refine (if_neg fun hmem => ?_).trans ht
    exact hij (hfree s (List.contains_iff_mem.1 hmem) j t ht).symm

/-- A session is opened of a user whom the call has locked, and whose sessions it has superseded. -/
theorem SessionsSafe.insert (hinv : SessionsSafe w) {s : AuthSession}
    (huser : w.userLocks s.userId = some i) (hnone : ∀ x, (i, x) ∉ w.opening)
    (hsuperseded : ∀ x ∈ w.sessions, x.userId = s.userId → Superseded i w x)
    (hnew : w.hasSession s = false) :
    SessionsStep i w { w with opening := (i, s) :: w.opening } := by
  simp only [AuthState.hasSession, Bool.or_eq_false_iff, List.any_eq_false, Bool.or_eq_true,
    beq_iff_eq, not_or] at hnew
  refine ⟨⟨hinv.single, ?_, fun p hp => ?_, ?_⟩, fun j hij => ⟨⟨[], rfl⟩, le_refl _, fun _ h => h,
    fun _ _ h => h, fun x => ?_, fun x hx => .inl ⟨x, hx, .refl x⟩⟩, .same rfl rfl rfl⟩
  · rw [List.map_cons, List.nodup_middle, List.nodup_cons, List.mem_append, not_or]
    refine ⟨⟨fun hmem => ?_, fun hmem => ?_⟩, hinv.ids⟩
    · obtain ⟨x, hx, heq⟩ := List.mem_map.1 hmem
      exact (hnew.1 x hx).1 heq
    · obtain ⟨x, hx, heq⟩ := List.mem_map.1 hmem
      exact (hnew.2 x hx).1 heq
  · rcases List.mem_cons.1 hp with rfl | hmem
    · exact ⟨huser, hsuperseded⟩
    · exact hinv.opened p hmem
  · rw [List.map_cons, List.nodup_cons]
    refine ⟨fun hmem => ?_, hinv.once⟩
    obtain ⟨p, hp, heq⟩ := List.mem_map.1 hmem
    exact hnone p.2 ((show p = (i, p.2) from Prod.ext heq rfl) ▸ hp)
  · refine ⟨fun hmem => (List.mem_cons.1 hmem).resolve_left fun heq => ?_, List.mem_cons_of_mem _⟩
    exact hij (Prod.mk.inj heq).1.symm

theorem sessionAfter_later {s : AuthSession} : s.Later (w.sessionAfter i s) := by
  rw [AuthState.sessionAfter]
  split
  · split_ifs
    · exact ⟨rfl, rfl, rfl, fun _ => rfl⟩
    · exact .refl s
  · exact .refl s

/-- The commit ends what the call has superseded. -/
theorem sessionAfter_over {s : AuthSession} (h : Superseded i w s) :
    (w.sessionAfter i s).Over w.now := by
  rcases h with hover | ⟨t, ht⟩
  · exact sessionAfter_later.over hover le_rfl
  · rw [AuthState.sessionAfter, ht]
    dsimp only
    rw [if_pos rfl]
    exact .inl rfl

/-- The sessions after the commit of call `i`. -/
theorem commit_sessions : (w.commit i).sessions =
    w.sessions.map (w.sessionAfter i) ++ (w.opening.filter (·.1 = i)).map (·.2) := rfl

/-- **A commit opens one session, and ends the others of its user.** -/
theorem SessionsSafe.commit (hinv : SessionsSafe w) : SessionsStep i w (w.commit i) := by
  have hopened {x : AuthSession} (hx : x ∈ (w.opening.filter (·.1 = i)).map (·.2)) :
      (i, x) ∈ w.opening := by
    obtain ⟨p, hp, rfl⟩ := List.mem_map.1 hx
    obtain ⟨hmem, hi⟩ := List.mem_filter.1 hp
    exact (show p = (i, p.2) from Prod.ext (of_decide_eq_true hi) rfl) ▸ hmem
  refine ⟨⟨?_, ?_, fun p hp => ?_, ?_⟩, fun j hij => ⟨⟨[], rfl⟩, le_refl _, fun u hu => ?_,
    fun s t ht => ?_, fun s => ?_, fun s' hs' => ?_⟩, le_refl _, fun s hs => ?_, [], rfl,
    fun _ _ h => (nomatch h), fun _ _ h => (nomatch h)⟩
  · rw [commit_sessions, List.pairwise_append]
    refine ⟨List.pairwise_map.2 (hinv.single.imp fun {s x} h hu => ?_), ?_, fun s' hs' x hx hu => ?_⟩
    · rw [sessionAfter_later.2.1, sessionAfter_later.2.1] at hu
      exact sessionAfter_later.over (h hu) le_rfl
    · refine List.pairwise_map.2 (((List.pairwise_map.1 hinv.once).filter _).imp_of_mem ?_)
      intro p q hp hq hne
      have hpi := of_decide_eq_true (List.mem_filter.1 hp).2
      have hqi := of_decide_eq_true (List.mem_filter.1 hq).2
      exact (hne (hpi.trans hqi.symm)).elim
    · obtain ⟨s, hs, rfl⟩ := List.mem_map.1 hs'
      rw [sessionAfter_later.2.1] at hu
      exact sessionAfter_over ((hinv.opened _ (hopened hx)).2 s hs hu)
  · have hafter : (w.sessions.map (w.sessionAfter i)).map (·.id) = w.sessions.map (·.id) := by
      rw [List.map_map]
      exact List.map_congr_left fun s _ => sessionAfter_later.1
    have hsplit : ((w.opening.filter (·.1 = i)).map (·.2.id) ++
        (w.opening.filter (·.1 ≠ i)).map (·.2.id)).Perm (w.opening.map (·.2.id)) := by
      rw [← List.map_append]
      refine List.Perm.map _ ?_
      simpa using List.filter_append_perm (fun p : CallId × AuthSession => decide (p.1 = i)) w.opening
    rw [commit_sessions, List.map_append, hafter, List.map_map, List.append_assoc]
    exact ((hsplit.append_left _).nodup_iff).2 hinv.ids
  · obtain ⟨hmem, hne⟩ := mem_release_opening.1 hp
    obtain ⟨huser, hsuperseded⟩ := hinv.opened p hmem
    refine ⟨release_userLocks.2 ⟨huser, hne⟩, fun s' hs' hu => ?_⟩
    rw [commit_sessions, List.mem_append] at hs'
    rcases hs' with hs' | hx
    · obtain ⟨s, hs, rfl⟩ := List.mem_map.1 hs'
      rw [sessionAfter_later.2.1] at hu
      rcases hsuperseded s hs hu with hover | ⟨t, ht⟩
      · exact .inl (sessionAfter_later.over hover le_rfl)
      · refine .inr ⟨t, ?_⟩
        rw [sessionAfter_later.1]
        exact release_revoking.2 ⟨ht, hne⟩
    · have huser' := (hinv.opened _ (hopened hx)).1
      dsimp only at huser'
      rw [hu, huser] at huser'
      exact (hne (Option.some.inj huser')).elim
  · exact hinv.once.sublist (List.filter_sublist.map _)
  · exact release_userLocks.2 ⟨hu, Ne.symm hij⟩
  · exact release_revoking.2 ⟨ht, Ne.symm hij⟩
  · rw [AuthState.commit, mem_release_opening]
    exact and_iff_left (Ne.symm hij)
  · rw [commit_sessions, List.mem_append] at hs'
    rcases hs' with hs' | hx
    · obtain ⟨s, hs, rfl⟩ := List.mem_map.1 hs'
      exact .inl ⟨s, hs, sessionAfter_later⟩
    · refine .inr fun hu => hij ?_
      exact Option.some.inj ((hinv.opened _ (hopened hx)).1.symm.trans hu)
  · exact ⟨_, List.mem_append_left _ (List.mem_map_of_mem hs), sessionAfter_later⟩

/-- What is resolved is a session that is neither revoked nor expired. -/
theorem principal?_spec {tokenHash : String} {now : Int} {principal : AuthenticatedPrincipal}
    (h : w.principal? tokenHash now = some principal) :
    ∃ s ∈ w.sessions, s.id = principal.sessionId ∧ s.userId = principal.id ∧ s.revokedAt = none ∧
      now < s.expiresAt := by
  simp only [AuthState.principal?, Option.bind_eq_bind, Option.bind_eq_some_iff, Option.guard_eq_some',
    Option.pure_def, Option.some.injEq, Bool.and_eq_true, Option.isNone_iff_eq_none,
    decide_eq_true_eq] at h
  obtain ⟨s, hs, -, ⟨hrevoked, hexpires⟩, user, huser, -, -, rfl⟩ := h
  have hid := List.find?_some huser
  rw [beq_iff_eq] at hid
  exact ⟨s, List.mem_of_find?_eq_some hs, rfl, hid.symm, hrevoked, hexpires⟩

theorem SessionsSafe.eq_of_id (hinv : SessionsSafe w) {s x : AuthSession} (hs : s ∈ w.sessions)
    (hx : x ∈ w.sessions) (h : s.id = x.id) : s = x :=
  List.inj_on_of_nodup_map (List.nodup_append.1 hinv.ids).1 hs hx h

/-- **Every statement keeps the sessions in order.** -/
theorem exec_sessionsSafe {f : AuthFunctions} {a : AuthAction} {input : AuthInput} {b : a.Result}
    (hinv : SessionsSafe w) (hpre : SessionsReady i a w)
    (h : AuthState.exec f i a input w = some (b, w')) : SessionsStep i w w' := by
  have hsame : SessionsStep i w w := hinv.same le_rfl rfl rfl rfl rfl rfl
  have hnote {x : AuthState} {e : AuthEvent} (hx : SessionsSafe x)
      (hinstant : ∀ k t, e ≠ .instant k t) (hresolved : ∀ k id, e ≠ .resolved k id) :
      SessionsStep i x (x.note e) :=
    hx.note (fun k t heq => (hinstant k t heq).elim) fun k id heq => (hresolved k id heq).elim
  cases a with
  | readClock =>
    obtain rfl := congrArg Prod.snd (Option.some.inj h)
    refine hinv.note (fun k t heq => ?_) fun k id heq => by cases heq
    exact (AuthEvent.instant.inj heq).2.le
  | upsertAttempt k now =>
    simp only [AuthState.exec] at h
    split_ifs at h
    · obtain rfl := congrArg Prod.snd (Option.some.inj h)
      exact hinv.release
    · obtain rfl := congrArg Prod.snd (Option.some.inj h)
      have hput : SessionsStep i w
          (w.putAttempt i k (some ((w.attempts k).getD ⟨k, 0, now⟩))) :=
        hinv.same le_rfl rfl rfl rfl rfl rfl
      exact hput.trans (hnote hput.1 (fun _ _ heq => by cases heq) fun _ _ heq => by cases heq)
  | selectAttempt k | findSession tokenHash =>
    obtain rfl := congrArg Prod.snd (Option.some.inj h)
    exact hsame
  | saveAttempt attempt | deleteAttempt k =>
    obtain rfl := congrArg Prod.snd (Option.some.inj h)
    exact hinv.same le_rfl rfl rfl rfl rfl rfl
  | lockUser email =>
    simp only [AuthState.exec] at h
    split_ifs at h
    · obtain rfl := congrArg Prod.snd (Option.some.inj h)
      exact hinv.release
    · split at h
      · obtain rfl := congrArg Prod.snd (Option.some.inj h)
        exact hsame
      · split_ifs at h with hheld
        obtain rfl := congrArg Prod.snd (Option.some.inj h)
        refine hinv.lockUser fun k hk => ?_
        simpa [AuthState.isUserHeld, hk] using hheld
  | verify k now passwordHash password =>
    obtain rfl := congrArg Prod.snd (Option.some.inj h)
    exact hnote hinv (fun _ _ heq => by cases heq) fun _ _ heq => by cases heq
  | revokeSessions userId now =>
    simp only [AuthState.exec] at h
    split_ifs at h with hback hheld
    · obtain rfl := congrArg Prod.snd (Option.some.inj h)
      exact hinv.release
    · obtain rfl := congrArg Prod.snd (Option.some.inj h)
      refine hinv.revoke fun id hid k t hk => ?_
      obtain ⟨s, hs, rfl⟩ := List.mem_map.1 hid
      by_contra hne
      refine hheld (List.any_eq_true.2 ⟨s, hs, ?_⟩)
      simpa [AuthState.isSessionHeld, hk] using hne
  | insertSession userId expiresAt =>
    simp only [AuthState.exec] at h
    split_ifs at h with hback
    · obtain rfl := congrArg Prod.snd (Option.some.inj h)
      exact hinv.release
    · obtain rfl := congrArg Prod.snd (Option.some.inj h)
      obtain ⟨huser, hnone, hsuperseded⟩ := hpre
      simp only [Bool.or_eq_true, not_or, Bool.not_eq_true] at hback
      exact hinv.insert huser hnone hsuperseded hback.2
  | commit loggedIn =>
    obtain rfl := congrArg Prod.snd (Option.some.inj h)
    have hcommit {x : AuthState} (hx : SessionsSafe x) :
        SessionsStep i x ((x.commit i).note (.committed i)) :=
      hx.commit.trans (hnote hx.commit.1 (fun _ _ heq => by cases heq) fun _ _ heq => by cases heq)
    cases loggedIn with
    | none => exact hcommit hinv
    | some k =>
      have hlogin : SessionsStep i w (w.note (.loggedIn k)) :=
        hnote hinv (fun _ _ heq => by cases heq) fun _ _ heq => by cases heq
      exact hlogin.trans (hcommit hlogin.1)
  | revokeSession id now =>
    simp only [AuthState.exec] at h
    split_ifs at h with hback hheld
    · obtain rfl := congrArg Prod.snd (Option.some.inj h)
      exact hinv.release
    · obtain rfl := congrArg Prod.snd (Option.some.inj h)
      refine hinv.revoke fun id' hid k t hk => ?_
      rw [List.mem_singleton.1 hid] at hk
      simpa [AuthState.isSessionHeld, hk] using hheld
    · obtain rfl := congrArg Prod.snd (Option.some.inj h)
      exact hsame
  | resolve tokenHash now =>
    simp only [AuthState.exec] at h
    split at h
    · obtain rfl := congrArg Prod.snd (Option.some.inj h)
      exact hsame
    · rename_i principal hprincipal
      obtain rfl := congrArg Prod.snd (Option.some.inj h)
      obtain ⟨s, hs, hid, -, hrevoked, hexpires⟩ := principal?_spec hprincipal
      refine hinv.note (fun _ _ heq => by cases heq) fun k id heq => ?_
      obtain ⟨rfl, rfl⟩ := AuthEvent.resolved.inj heq
      refine ⟨now, hpre, fun x hx hxid => ?_⟩
      rw [hinv.eq_of_id hx hs (hxid.trans hid.symm)]
      exact ⟨hrevoked, hexpires⟩

end Statements

/-! ## The calls -/

section Calls

variable {f : AuthFunctions} {config : AuthConfig} {lost : Bool} {i : CallId} {w w' : AuthState}

theorem notOpening_stable (hnone : ∀ s, (i, s) ∉ w.opening) (hb : SessionsBeside i w w') :
    ∀ s, (i, s) ∉ w'.opening :=
  fun s hs => hnone s ((hb.opening s).1 hs)

/-- An instant that a call has taken. -/
theorem instant_stable {t : Int} (ht : .instant i t ∈ w.trace) (hb : SessionsBeside i w w') :
    .instant i t ∈ w'.trace := by
  obtain ⟨newer, htrace⟩ := hb.trace
  rw [htrace]
  exact List.mem_append_right _ ht

/-- What has been noted or put into the row of an identifier touches no session. -/
theorem SessionsBeside.same (hnow : w.now ≤ w'.now) (hsessions : w'.sessions = w.sessions)
    (husers : w'.userLocks = w.userLocks) (hrevoking : w'.revoking = w.revoking)
    (hopening : w'.opening = w.opening) (htrace : ∃ newer, w'.trace = newer ++ w.trace) :
    SessionsBeside i w w' := by
  refine ⟨htrace, hnow, fun u hu => ?_, fun s t ht => ?_, fun s => ?_, fun s hs => ?_⟩
  · rw [husers]
    exact hu
  · rw [hrevoking]
    exact ht
  · rw [hopening]
  · rw [hsessions] at hs
    exact .inl ⟨s, hs, .refl s⟩

/-- The calls. -/
abbrev sessionCalls (f : AuthFunctions) (config : AuthConfig) (lost : Bool) :
    System AuthAction AuthAction.Result CallId AuthState :=
  (authCalls f config lost).system

theorem openAttempt_beside {identifierHash : String} {now : Int} :
    Spec (sessionCalls f config lost) sessionSafety i (fun _ w' => SessionsBeside i w w')
      (openAttempt config identifierHash now) w := by
  rw [openAttempt]
  refine AuthCall.act_spec fun w₁ hb₁ _ => ⟨trivial, fun _ _ w₂ hexec₂ hinv₂ _ => ?_⟩
  refine AuthCall.served_spec hinv₂ fun _ hok => ?_
  subst hok
  have hb₂ : SessionsBeside i w₁ w₂ := by
    simp only [AuthState.exec] at hexec₂
    split_ifs at hexec₂
    · cases congrArg Prod.fst (Option.some.inj hexec₂)
    · obtain rfl := congrArg Prod.snd (Option.some.inj hexec₂)
      exact .same le_rfl rfl rfl rfl rfl ⟨[_], rfl⟩
  refine AuthCall.act_spec fun w₃ hb₃ _ => ⟨trivial, fun _ found w₄ hexec₄ hinv₄ _ => ?_⟩
  obtain ⟨rfl, rfl⟩ := Prod.mk.inj (Option.some.inj hexec₄)
  have hb := (hb₁.trans hb₂).trans hb₃
  split
  · exact Spec.throw
  · split_ifs
    · refine AuthCall.act_spec fun w₅ hb₅ _ => ⟨trivial, fun _ _ w₆ hexec₆ _ _ => ?_⟩
      obtain rfl := congrArg Prod.snd (Option.some.inj hexec₆)
      refine Spec.pure fun w₇ hb₇ _ => (hb.trans hb₅).trans (.trans ?_ hb₇)
      exact .same le_rfl rfl rfl rfl rfl ⟨[], rfl⟩
    · exact Spec.pure fun w₅ hb₅ _ => hb.trans hb₅

theorem rejectLogin_safe {attempt : AuthLoginAttempt} {user : Option AuthUser} :
    Spec (sessionCalls f config lost) sessionSafety i (fun _ _ => True)
      (rejectLogin config attempt user) w := by
  rw [rejectLogin]
  refine AuthCall.act_spec fun _ _ _ => ⟨trivial, fun _ _ _ _ _ _ => ?_⟩
  refine AuthCall.act_spec fun _ _ _ => ⟨trivial, fun _ _ _ _ _ _ => ?_⟩
  exact Spec.pure fun _ _ _ => trivial

/-- **What a login revokes**: at its instant there is no other session of the user left. -/
theorem superseded_revoke {userId : String} {now : Int} (hnow : now ≤ w.now) {s : AuthSession}
    (hs : s ∈ w.sessions) (hu : s.userId = userId) :
    Superseded i (w.revoke i ((w.sessions.filter (AuthState.isRevocable userId now)).map (·.id)) now)
      s := by
  by_cases hrevocable : AuthState.isRevocable userId now s = true
  · refine .inr ⟨now, if_pos (List.contains_iff_mem.2 ?_)⟩
    exact List.mem_map_of_mem (List.mem_filter.2 ⟨hs, hrevocable⟩)
  · refine .inl ?_
    simp only [AuthState.isRevocable, hu, beq_self_eq_true, Bool.true_and, Bool.and_eq_true,
      decide_eq_true_eq, not_and, not_lt, Option.isNone_iff_eq_none] at hrevocable
    by_cases hrevoked : s.revokedAt = none
    · exact .inr ((hrevocable hrevoked).trans hnow)
    · exact .inl (Option.isSome_iff_ne_none.2 hrevoked)

theorem acceptLogin_safe {identifierHash : String} {now : Int} {user : AuthUser} (hnow : now ≤ w.now)
    (huser : w.userLocks user.id = some i) (hnone : ∀ s, (i, s) ∉ w.opening) :
    Spec (sessionCalls f config lost) sessionSafety i (fun _ _ => True)
      (acceptLogin config identifierHash now user) w := by
  rw [acceptLogin]
  refine AuthCall.act_spec fun w₁ hb₁ _ => ⟨trivial, fun _ _ w₂ hexec₂ _ _ => ?_⟩
  obtain rfl := congrArg Prod.snd (Option.some.inj hexec₂)
  have hb₂ : SessionsBeside i w₁ (w₁.putAttempt i identifierHash none) :=
    .same le_rfl rfl rfl rfl rfl ⟨[], rfl⟩
  refine AuthCall.act_spec fun w₃ hb₃ _ => ⟨trivial, fun _ _ w₄ hexec₄ hinv₄ _ => ?_⟩
  refine AuthCall.served_spec hinv₄ fun _ hok => ?_
  subst hok
  have hb := (hb₁.trans hb₂).trans hb₃
  have hrevoke : w₄ = w₃.revoke i
      ((w₃.sessions.filter (AuthState.isRevocable user.id now)).map (·.id)) now := by
    simp only [AuthState.exec] at hexec₄
    split_ifs at hexec₄
    · cases congrArg Prod.fst (Option.some.inj hexec₄)
    · exact (congrArg Prod.snd (Option.some.inj hexec₄)).symm
  have huser₄ : w₄.userLocks user.id = some i := by
    rw [hrevoke]
    exact hb.users _ huser
  have hnone₄ : ∀ s, (i, s) ∉ w₄.opening := by
    rw [hrevoke]
    exact fun s hs => hnone s ((hb.opening s).1 hs)
  refine AuthCall.act_spec fun w₅ hb₅ _ => ⟨⟨hb₅.users _ huser₄, notOpening_stable hnone₄ hb₅,
    fun s' hs' hu => ?_⟩, fun _ _ _ _ hinv₆ _ => ?_⟩
  · rcases hb₅.sessions s' hs' with ⟨s, hs, hlater⟩ | hfree
    · refine Superseded.stable ?_ hlater hb₅
      rw [hrevoke] at hs ⊢
      exact superseded_revoke (hnow.trans hb.now) hs (hlater.2.1.symm.trans hu)
    · rw [hu] at hfree
      exact (hfree huser₄).elim
  · refine AuthCall.served_spec hinv₆ fun _ _ => ?_
    refine AuthCall.act_spec fun _ _ _ => ⟨trivial, fun _ _ _ _ _ _ => ?_⟩
    exact Spec.pure fun _ _ _ => trivial

theorem loginInTransaction_safe (hnone : ∀ s, (i, s) ∉ w.opening) (email password : String) :
    Spec (sessionCalls f config lost) sessionSafety i (fun _ _ => True)
      (loginInTransaction f config email password) w := by
  rw [loginInTransaction]
  refine AuthCall.act_spec fun w₁ hb₁ _ => ⟨trivial, fun _ now w₂ hexec₂ hinv₂ _ => ?_⟩
  obtain ⟨rfl, rfl⟩ := Prod.mk.inj (Option.some.inj hexec₂)
  refine Spec.bind openAttempt_beside hinv₂ fun attempt w₃ hinv₃ hb₃ => ?_
  split_ifs
  · refine AuthCall.act_spec fun _ _ _ => ⟨trivial, fun _ _ _ _ _ _ => ?_⟩
    exact Spec.pure fun _ _ _ => trivial
  refine AuthCall.act_spec fun w₄ hb₄ _ => ⟨trivial, fun _ found w₅ hexec₅ hinv₅ _ => ?_⟩
  refine AuthCall.served_spec hinv₅ fun user hok => ?_
  subst hok
  have hb : SessionsBeside i (w₁.note (.instant i w₁.now)) w₄ := hb₃.trans hb₄
  have hnone₁ : ∀ s, (i, s) ∉ w₁.opening := notOpening_stable hnone hb₁
  have hnone₄ : ∀ s, (i, s) ∉ w₄.opening := notOpening_stable (w := w₁.note _) hnone₁ hb
  have hnow₄ : w₁.now ≤ w₄.now := hb.now
  have hlocked : (∀ u, user = some u → w₅.userLocks u.id = some i) ∧ w₅.now = w₄.now ∧
      w₅.opening = w₄.opening := by
    simp only [AuthState.exec] at hexec₅
    split_ifs at hexec₅
    · cases congrArg Prod.fst (Option.some.inj hexec₅)
    · split at hexec₅
      · obtain ⟨hnone, rfl⟩ := Prod.mk.inj (Option.some.inj hexec₅)
        refine ⟨fun u hu => ?_, rfl, rfl⟩
        rw [hu] at hnone
        cases hnone
      · split_ifs at hexec₅
        obtain ⟨hsome, rfl⟩ := Prod.mk.inj (Option.some.inj hexec₅)
        refine ⟨fun u hu => ?_, rfl, rfl⟩
        rw [hu] at hsome
        rw [Option.some.inj (Except.ok.inj hsome)]
        exact Function.update_self ..
  obtain ⟨hlocked, hnow₅, hopening₅⟩ := hlocked
  refine AuthCall.act_spec fun w₆ hb₆ _ => ⟨trivial, fun _ accepted w₇ hexec₇ _ _ => ?_⟩
  obtain ⟨rfl, rfl⟩ := Prod.mk.inj (Option.some.inj hexec₇)
  cases user with
  | none => exact rejectLogin_safe
  | some user =>
    dsimp only
    split_ifs
    · exact rejectLogin_safe
    · refine acceptLogin_safe ((hnow₄.trans hnow₅.ge).trans hb₆.now)
        (hb₆.users _ (hlocked user rfl)) fun s hs => hnone₄ s ?_
      rw [← hopening₅]
      exact (hb₆.opening s).1 hs

theorem logout_safe (sessionId : String) :
    Spec (sessionCalls f config lost) sessionSafety i (fun _ _ => True) (logout sessionId) w := by
  rw [logout]
  refine AuthCall.act_spec fun _ _ _ => ⟨trivial, fun _ _ _ _ _ _ => ?_⟩
  refine AuthCall.act_spec fun _ _ _ => ⟨trivial, fun _ _ _ _ hinv₂ _ => ?_⟩
  refine AuthCall.served_spec hinv₂ fun _ _ => ?_
  refine AuthCall.act_spec fun _ _ _ => ⟨trivial, fun _ _ _ _ _ _ => ?_⟩
  exact Spec.pure fun _ _ _ => trivial

theorem revokeSessionByToken_safe (sessionToken : Option String) :
    Spec (sessionCalls f config lost) sessionSafety i (fun _ _ => True)
      (revokeSessionByToken f sessionToken) w := by
  cases sessionToken with
  | none => exact Spec.pure fun _ _ _ => trivial
  | some sessionToken =>
    rw [revokeSessionByToken]
    refine AuthCall.act_spec fun _ _ _ => ⟨trivial, fun _ found _ _ _ _ => ?_⟩
    cases found with
    | none => exact Spec.pure fun _ _ _ => trivial
    | some session => exact logout_safe session.id

theorem resolveSession_safe (sessionToken : String) :
    Spec (sessionCalls f config lost) sessionSafety i (fun _ _ => True)
      (resolveSession f sessionToken) w := by
  rw [resolveSession]
  refine AuthCall.act_spec fun w₁ _ _ => ⟨trivial, fun _ now w₂ hexec₂ _ _ => ?_⟩
  obtain ⟨rfl, rfl⟩ := Prod.mk.inj (Option.some.inj hexec₂)
  refine Spec.perform fun w₃ hb₃ _ => ⟨?_, fun _ _ _ _ _ _ _ _ => trivial⟩
  exact instant_stable (w := w₁.note _) List.mem_cons_self hb₃

theorem sessionSafety_discipline : Discipline (sessionCalls f config lost) sessionSafety where
  entry i p w hp hinv hfresh := by
    obtain ⟨entry, rfl⟩ := hp
    cases entry with
    | login email password =>
      exact AuthCall.start_safe (loginInTransaction_safe hfresh _ password) hinv
    | logout sessionId => exact AuthCall.start_safe (logout_safe sessionId) hinv
    | revokeSessionByToken sessionToken =>
      exact AuthCall.start_safe (revokeSessionByToken_safe sessionToken) hinv
    | resolveSession sessionToken => exact AuthCall.start_safe (resolveSession_safe sessionToken) hinv
  step i a b w w' hinv hpre hs := by
    obtain ⟨input, hexec⟩ := hs
    exact exec_sessionsSafe hinv hpre hexec
  compatible i j w w' hij h := h.1 j hij
  fresh i w w' hb hfresh := notOpening_stable hfresh hb
  env w w' h hinv := by
    obtain ⟨users, now, hnow, rfl⟩ := h
    have hstep : SessionsStep 0 w { w with users, now } := hinv.same hnow rfl rfl rfl rfl rfl
    exact ⟨hstep.1, fun j => .same hnow rfl rfl rfl rfl ⟨[], rfl⟩⟩
  drop i w hinv := by
    change SessionsSafe (if lost then w.release i else w) ∧ _
    cases lost with
    | true => exact ⟨hinv.release.1, hinv.release.2.1⟩
    | false => exact ⟨hinv, fun j _ => .refl j w⟩

end Calls

/-- The sessions of a database in order: their ids differ, and of two sessions of one user the older
one is over. -/
structure SessionsInOrder (sessions : List AuthSession) (now : Int) : Prop where
  single : sessions.Pairwise fun s x => s.userId = x.userId → s.Over now
  ids : (sessions.map (·.id)).Nodup

theorem SessionsInOrder.safe {users : List AuthUser} {sessions : List AuthSession}
    {attempts : String → Option AuthLoginAttempt} {now : Int} (h : SessionsInOrder sessions now) :
    SessionsSafe (.init users sessions attempts now) := by
  refine ⟨h.single, ?_, fun _ hp => (nomatch hp), List.nodup_nil⟩
  exact (List.append_nil (sessions.map (·.id))).symm ▸ h.ids

/-- **Of the sessions of a user one is not over at most.** -/
theorem eq_of_not_over {sessions : List AuthSession} {now : Int}
    (h : sessions.Pairwise fun s x => s.userId = x.userId → s.Over now) {s x : AuthSession}
    (hs : s ∈ sessions) (hx : x ∈ sessions) (hu : s.userId = x.userId) (hlive : ¬ s.Over now)
    (hlive' : ¬ x.Over now) : s = x := by
  induction sessions with
  | nil => cases hs
  | cons y sessions ih =>
    obtain ⟨hy, hrest⟩ := List.pairwise_cons.1 h
    rcases List.mem_cons.1 hs with rfl | hs' <;> rcases List.mem_cons.1 hx with rfl | hx'
    · rfl
    · exact (hlive (hy x hx' hu)).elim
    · exact (hlive' (hy s hs' hu.symm)).elim
    · exact ih hrest hs' hx'

/-- What is neither revoked nor expired is not over. -/
theorem not_over_of_live {s : AuthSession} {now : Int} (hrevoked : s.revokedAt = none)
    (hexpires : now < s.expiresAt) : ¬ s.Over now := by
  rintro (hsome | hover)
  · rw [hrevoked] at hsome
    cases hsome
  · exact hexpires.not_ge hover

/-- **Session safety**, whatever the order of the calls, the passage of time and the calls that die.
A session of a user for whom another has been opened since is revoked or expired, so that at any
moment one session of a user resolves at most.  From then on a session that is revoked resolves no
more; one that is expired resolves only for a call that has taken its instant before, when it was
not. -/
theorem session_safety (f : AuthFunctions) (config : AuthConfig) (lost : Bool)
    {users : List AuthUser} {sessions : List AuthSession}
    {attempts : String → Option AuthLoginAttempt} {now : Int} (horder : SessionsInOrder sessions now)
    {c : Config AuthAction AuthAction.Result CallId AuthState}
    (hc : Reachable (sessionCalls f config lost) (.init (.init users sessions attempts now)) c) :
    (c.state.sessions.Pairwise fun s x => s.userId = x.userId → s.Over c.state.now) ∧
      (∀ t t' p p', c.state.principal? t c.state.now = some p →
        c.state.principal? t' c.state.now = some p' → p.id = p'.id → p.sessionId = p'.sessionId) ∧
      ∀ c', Reachable (sessionCalls f config lost) c c' → ∃ newer,
        c'.state.trace = newer ++ c.state.trace ∧
          ∀ s ∈ c.state.sessions, ∀ i, .resolved i s.id ∈ newer → s.revokedAt = none ∧
            (s.expiresAt ≤ c.state.now → ∃ t, .instant i t ∈ c.state.trace ∧ t < s.expiresAt) := by
  have hok := sessionSafety_discipline.reachable horder.safe (fun _ _ hs => (nomatch hs)) hc
  have hinv : SessionsSafe c.state := hok.1
  refine ⟨hinv.single, fun t t' p p' hp hp' hu => ?_, fun c' hc' => ?_⟩
  · obtain ⟨s, hs, hid, huser, hrevoked, hexpires⟩ := principal?_spec hp
    obtain ⟨s', hs', hid', huser', hrevoked', hexpires'⟩ := principal?_spec hp'
    have heq : s = s' := eq_of_not_over hinv.single hs hs' (by rw [huser, huser', hu])
      (not_over_of_live hrevoked hexpires) (not_over_of_live hrevoked' hexpires')
    rw [← hid, ← hid', heq]
  · obtain ⟨-, hon⟩ := sessionSafety_discipline.evolves (R := SessionsOnward) .refl
      (fun _ _ _ h h' => h.trans h') (fun _ _ _ hg => hg.2)
      (fun w w' henv => by
        obtain ⟨users, now, hnow, rfl⟩ := henv
        exact ⟨hnow, fun s hs => ⟨s, hs, .refl s⟩, [], rfl, fun _ _ h => (nomatch h),
          fun _ _ h => (nomatch h)⟩)
      (fun i w => by
        change SessionsOnward w (if lost then w.release i else w)
        cases lost with
        | true => exact .same rfl rfl rfl
        | false => exact .refl w) hok hc'
    obtain ⟨newer, htrace, hinstant, hresolved⟩ := hon.trace
    refine ⟨newer, htrace, fun s hs i hi => ?_⟩
    obtain ⟨t, ht, hall⟩ := hresolved i s.id hi
    obtain ⟨hrevoked, hbefore⟩ := hall s hs rfl
    refine ⟨hrevoked, fun hexpired => ⟨t, ?_, hbefore⟩⟩
    rw [htrace] at ht
    refine (List.mem_append.1 ht).resolve_left fun hnew => ?_
    exact absurd (hinstant i t hnew) (by omega)

namespace Sample

/-- A session that expires at 10. -/
def authSession : AuthSession := ⟨"s", "u", "t", 10, none⟩

def authUser : AuthUser := ⟨"u", "a", "x", "VIEWER", none⟩

/-- A login of a user who has a session, and a resolution of the old one. -/
def loginAgain : List (Pick CallId AuthInput AuthEntry) :=
  .start 0 (.login "a" "x") :: List.replicate 9 (.act 0 ⟨false, "t'", "s'"⟩) ++
    .start 1 (.resolveSession "t") :: List.replicate 2 (authSends 1)

end Sample

theorem sessionsInOrder_authSession : SessionsInOrder [Sample.authSession] 0 :=
  ⟨List.pairwise_singleton .., List.nodup_singleton _⟩

/-- A login leaves one session of its user. -/
theorem session_safety_login : ∃ c,
    (authCalls Sample.authFunctions Sample.authConfig false).replay Sample.loginAgain
      (.init (.init [Sample.authUser] [Sample.authSession] (fun _ => none) 0)) = some c ∧
    c.state.sessions.map (fun s => (s.id, s.revokedAt)) = [("s", some 0), ("s'", none)] ∧
    c.state.sessions.Pairwise fun s x => s.userId = x.userId → s.Over c.state.now := by
  have hreplay : ((authCalls Sample.authFunctions Sample.authConfig false).replay Sample.loginAgain
      (.init (.init [Sample.authUser] [Sample.authSession] (fun _ => none) 0))).map
        (fun c => c.state.sessions.map (fun s => (s.id, s.revokedAt))) =
          some [("s", some 0), ("s'", none)] := by
    decide +kernel
  obtain ⟨c, hc, hsessions⟩ := Option.map_eq_some_iff.1 hreplay
  exact ⟨c, hc, hsessions, (session_safety Sample.authFunctions Sample.authConfig false
    sessionsInOrder_authSession (Machine.replay_reachable .init hc)).1⟩

namespace Sample

/-- A resolution that has taken its instant. -/
def resolving : List (Pick CallId AuthInput AuthEntry) :=
  [.start 0 (.resolveSession "t"), authSends 0]

/-- The time has come for the session to expire. -/
def atExpiry (c : Config AuthAction AuthAction.Result CallId AuthState) :
    Config AuthAction AuthAction.Result CallId AuthState :=
  ⟨{ c.state with now := 10 }, c.procs⟩

end Sample

/-- **A session that has expired since the instant of a call still resolves for it.** -/
theorem resolved_after_expiry :
    ¬ ∀ (f : AuthFunctions) (config : AuthConfig) users sessions attempts now c c',
      SessionsInOrder sessions now →
      Reachable (sessionCalls f config false) (.init (.init users sessions attempts now)) c →
      Reachable (sessionCalls f config false) c c' →
      ∀ s ∈ c.state.sessions, s.Over c.state.now →
        ∀ i, .resolved i s.id ∈ c'.state.trace → .resolved i s.id ∈ c.state.trace := by
  intro hall
  have hreplay : ((authCalls Sample.authFunctions Sample.authConfig false).replay Sample.resolving
      (.init (.init [Sample.authUser] [Sample.authSession] (fun _ => none) 0))).bind (fun c =>
        ((authCalls Sample.authFunctions Sample.authConfig false).replay [Sample.authSends 0]
          (Sample.atExpiry c)).map fun c' =>
            (c.state.now, c.state.sessions, c.state.trace, c'.state.trace)) =
      some (0, [Sample.authSession], [.instant 0 0], [.resolved 0 "s", .instant 0 0]) := by
    decide +kernel
  obtain ⟨c, hc, hrest⟩ := Option.bind_eq_some_iff.1 hreplay
  obtain ⟨c', hc', hstate⟩ := Option.map_eq_some_iff.1 hrest
  obtain ⟨hnow, hsessions, htrace, htrace'⟩ : c.state.now = 0 ∧
      c.state.sessions = [Sample.authSession] ∧ c.state.trace = [.instant 0 0] ∧
        c'.state.trace = [.resolved 0 "s", .instant 0 0] := by
    simpa using hstate
  have hlater : Reachable (sessionCalls Sample.authFunctions Sample.authConfig false)
      (.init (.init [Sample.authUser] [Sample.authSession] (fun _ => none) 0)) (Sample.atExpiry c) :=
    .step (Machine.replay_reachable .init hc) (.env ⟨c.state.users, 10, by rw [hnow]; decide, rfl⟩)
  have hmem := hall _ _ _ _ _ _ (Sample.atExpiry c) c' sessionsInOrder_authSession hlater
    (Machine.replay_reachable .init hc') Sample.authSession
    (by rw [Sample.atExpiry, hsessions]; exact List.mem_singleton_self _) (.inr le_rfl) 0
    (by rw [htrace']; exact List.mem_cons_self)
  rw [Sample.atExpiry, htrace] at hmem
  cases List.mem_singleton.1 hmem

end ApiScore
