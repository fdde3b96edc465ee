import ApiScore.Backtest.Replay

/-!
# What a replay of a fixture does

A tick adds attempts of its own instant to the log, and asks for quotes at its instant and after the
latency only.  So a replay of more snapshots goes on from a replay of the first ones, and a replay
with other quotes is the same where the quotes it asks for are.

* `evaluateTick_spec`, `evaluateTick_congr` — one tick.
* `replayFixture_append` — later snapshots change nothing that was attempted before.
* `replayFixture_congr` — the quotes that a replay depends on.
-/

set_option autoImplicit false

namespace ApiScore

variable {number : JsValue → JsNumber} {numberText : JsNumber → String}
  {strategy : BacktestStrategy} {quoteAt quoteAt' : QuoteSelector} {fixture : Fixture}
  {goals : List GoalEvent} {homeId awayId T : Int} {st : TickState} {log : List SignalAttempt}
  {a : SignalAttempt}

/-! ## The instants of the ticks -/

@[simp] theorem TickState.tickAt_feed (st : TickState) (snap : FixtureStatsSnapshot) :
    (st.feed number snap).tickAt = some snap.snapshotAt := by
  rw [TickState.feed]
  split <;> rfl

/-- The instant of a tick is that of a snapshot, or the one the replay starts from. -/
theorem tickAt_of_mem_ticksFrom {snaps : List FixtureStatsSnapshot} {t : TickState}
    (h : t ∈ ticksFrom number st snaps) :
    t.tickAt = st.tickAt ∨ ∃ snap ∈ snaps, t.tickAt = some snap.snapshotAt := by
  induction snaps generalizing st with
  | nil =>
    rw [ticksFrom, List.mem_singleton] at h
    exact Or.inl (by rw [h])
  | cons snap snaps ih =>
    have hrest : t ∈ ticksFrom number (st.feed number snap) snaps →
        ∃ s ∈ snap :: snaps, t.tickAt = some s.snapshotAt := by
      intro ht
      rcases ih ht with hat | ⟨s, hs, hat⟩
      · exact ⟨snap, List.mem_cons_self, hat.trans (TickState.tickAt_feed st snap)⟩
      · exact ⟨s, List.mem_cons_of_mem snap hs, hat⟩
    rw [ticksFrom] at h
    split at h
    · exact Or.inr (hrest h)
    · rcases List.mem_cons.1 h with rfl | h
      · exact Or.inl rfl
      · exact Or.inr (hrest h)

/-- The instants of the ticks of a fixture are instants of its snapshots. -/
theorem tickAt_of_mem_ticks {snaps : List FixtureStatsSnapshot} {t : TickState} {tickAt : Int}
    (h : t ∈ ticks number snaps) (hat : t.tickAt = some tickAt) :
    ∃ snap ∈ snaps, snap.snapshotAt = tickAt := by
  rcases tickAt_of_mem_ticksFrom h with hstart | ⟨snap, hsnap, heq⟩
  · rw [hat] at hstart
    cases hstart
  · exact ⟨snap, hsnap, Option.some.inj (heq.symm.trans hat)⟩

/-! ## One tick -/

theorem mem_suggestions {t e : Int} {m : RuleMatch}
    (h : (t, e, m) ∈ st.suggestions strategy numberText fixture goals homeId awayId) :
    st.tickAt = some t := by
  unfold TickState.suggestions at h
  split at h
  · next tickAt elapsed hat _ =>
    obtain ⟨_, -, heq⟩ := List.mem_map.1 h
    rw [hat, (Prod.mk.inj heq).1]
  · cases h

theorem attempt?_spec {t e : Int} {placed : List String} {m : RuleMatch}
    (h : attempt? strategy quoteAt fixture t e placed m = some a) :
    a.tickAt = t ∧ ∀ b ∈ a.bet, b.decisionAt = t := by
  unfold attempt? at h
  dsimp only at h
  split_ifs at h
  obtain ⟨target, -, rfl⟩ := Option.map_eq_some_iff.1 h
  refine ⟨rfl, fun b hb => ?_⟩
  obtain ⟨_, -, rfl⟩ := Option.map_eq_some_iff.1 hb
  rfl

/-- The attempts that a tick adds are of its instant, and so are their bets. -/
def SignalAttempt.IsAt (a : SignalAttempt) (t : Int) : Prop :=
  a.tickAt = t ∧ ∀ b ∈ a.bet, b.decisionAt = t

/-- **A tick adds attempts of its own instant.** -/
theorem evaluateTick_spec (log : List SignalAttempt) :
    ∃ new, evaluateTick strategy numberText quoteAt fixture goals homeId awayId log st = log ++ new ∧
      ∀ a ∈ new, ∃ t, st.tickAt = some t ∧ a.IsAt t := by
  have hmem : ∀ t e m, (t, e, m) ∈ st.suggestions strategy numberText fixture goals homeId awayId →
      st.tickAt = some t := fun _ _ _ => mem_suggestions
  rw [evaluateTick]
  generalize st.suggestions strategy numberText fixture goals homeId awayId = suggestions at hmem ⊢
  induction suggestions generalizing log with
  | nil => exact ⟨[], (List.append_nil _).symm, fun _ ha => absurd ha List.not_mem_nil⟩
  | cons s rest ih =>
    obtain ⟨t, e, m⟩ := s
    have hat := hmem t e m List.mem_cons_self
    rw [List.foldl_cons]
    obtain ⟨new, hnew, hspec⟩ := ih _ fun t' e' m' h => hmem t' e' m' (List.mem_cons_of_mem _ h)
    refine ⟨(attempt? strategy quoteAt fixture t e (placedKeys log) m).toList ++ new,
      hnew.trans (List.append_assoc ..), fun a ha => ?_⟩
    rcases List.mem_append.1 ha with ha | ha
    · exact ⟨t, hat, attempt?_spec (Option.mem_toList.1 ha)⟩
    · exact hspec a ha

/-- A tick without an instant adds nothing. -/
theorem evaluateTick_none (hat : st.tickAt = none) :
    evaluateTick strategy numberText quoteAt fixture goals homeId awayId log st = log := by
  have hnone : st.suggestions strategy numberText fixture goals homeId awayId = [] := by
    rw [TickState.suggestions]
    rw [hat]
  rw [evaluateTick, hnone, List.foldl_nil]

/-- Two sources of quotes agree on what a replay asks them at a tick. -/
def AgreeAt (strategy : BacktestStrategy) (fixture : Fixture) (quoteAt quoteAt' : QuoteSelector)
    (tickAt : Int) : Prop :=
  ∀ target : ExecutableQuoteTarget, target.providerFixtureId = fixture.providerFixtureId →
    quoteAt target tickAt = quoteAt' target tickAt ∧
      quoteAt target (tickAt + strategy.odds.executionLatencyMs) =
        quoteAt' target (tickAt + strategy.odds.executionLatencyMs)

theorem providerFixtureId_target? {m : RuleMatch} {target : ExecutableQuoteTarget}
    (h : strategy.target? fixture m = some target) :
    target.providerFixtureId = fixture.providerFixtureId := by
  obtain ⟨base, hbase, rfl⟩ := Option.map_eq_some_iff.1 h
  have hid := providerFixtureId_quoteTarget hbase
  split <;> exact hid

theorem tryQuotes_congr {t : Int} (h : AgreeAt strategy fixture quoteAt quoteAt' t)
    {target : ExecutableQuoteTarget}
    (htarget : target.providerFixtureId = fixture.providerFixtureId) (minOdd : ℚ) :
    tryQuotes quoteAt target t strategy.odds.executionLatencyMs minOdd =
      tryQuotes quoteAt' target t strategy.odds.executionLatencyMs minOdd := by
  have hexecution (q : ExecutableQuote) := (h { target with
    providerKey := some q.providerKey, bookmakerKey := some q.bookmakerKey } htarget).2
  simp only [tryQuotes]
  rw [(h target htarget).1]
  simp only [hexecution]

/-- **A tick depends on the quotes that it asks for.** -/
theorem evaluateTick_congr (h : ∀ t, st.tickAt = some t → AgreeAt strategy fixture quoteAt quoteAt' t)
    (log : List SignalAttempt) :
    evaluateTick strategy numberText quoteAt fixture goals homeId awayId log st =
      evaluateTick strategy numberText quoteAt' fixture goals homeId awayId log st := by
  rw [evaluateTick, evaluateTick]
  refine List.foldl_ext _ _ _ fun log (t, e, m) hm => ?_
  have hagree := h t (mem_suggestions hm)
  unfold attempt?
  dsimp only
  split_ifs
  · cases htarget : strategy.target? fixture m with
    | none => rfl
    | some target =>
      rw [Option.map_some, Option.map_some,
        tryQuotes_congr hagree (providerFixtureId_target? htarget)]
  · rfl

/-! ## The replay of a fixture -/

/-- **A replay depends on the quotes that its ticks ask for.** -/
theorem replayFixture_congr {snaps : List FixtureStatsSnapshot}
    (h : ∀ snap ∈ snaps, AgreeAt strategy fixture quoteAt quoteAt' snap.snapshotAt) :
    replayFixture number strategy numberText quoteAt fixture goals snaps =
      replayFixture number strategy numberText quoteAt' fixture goals snaps := by
  simp only [replayFixture]
  split
  · refine List.foldl_ext _ _ _ fun log st hst => evaluateTick_congr (fun t hat => ?_) log
    obtain ⟨snap, hsnap, rfl⟩ := tickAt_of_mem_ticks hst hat
    exact h snap hsnap
  · rfl

/-- The attempts made up to an instant. -/
def attemptsUpTo (T : Int) (log : List SignalAttempt) : List SignalAttempt :=
  log.filter fun a => decide (a.tickAt ≤ T)

/-- Ticks after an instant add nothing up to it. -/
theorem attemptsUpTo_foldl {states : List TickState}
    (h : ∀ st ∈ states, ∀ t, st.tickAt = some t → T < t) (log : List SignalAttempt) :
    attemptsUpTo T (states.foldl
        (evaluateTick strategy numberText quoteAt fixture goals homeId awayId) log) =
      attemptsUpTo T log := by
  induction states generalizing log with
  | nil => rfl
  | cons st states ih =>
    obtain ⟨new, heq, hnew⟩ : ∃ new, evaluateTick strategy numberText quoteAt fixture goals homeId
        awayId log st = log ++ new ∧ ∀ a ∈ new, ∃ t, st.tickAt = some t ∧ a.IsAt t :=
      evaluateTick_spec log
    have hlate : attemptsUpTo T new = [] := by
      refine List.filter_eq_nil_iff.2 fun a ha hle => ?_
      obtain ⟨t, hat, hspec, -⟩ := hnew a ha
      have := h st List.mem_cons_self t hat
      rw [decide_eq_true_iff] at hle
      omega
    rw [List.foldl_cons, ih fun s hs => h s (List.mem_cons_of_mem st hs), heq, attemptsUpTo,
      List.filter_append]
    exact (congrArg _ hlate).trans (List.append_nil _)

/-- A tick up to an instant leaves the log of attempts up to it. -/
theorem attemptsUpTo_evaluateTick (hat : ∀ t, st.tickAt = some t → t ≤ T)
    (hlog : attemptsUpTo T log = log) :
    attemptsUpTo T (evaluateTick strategy numberText quoteAt fixture goals homeId awayId log st) =
      evaluateTick strategy numberText quoteAt fixture goals homeId awayId log st := by
  obtain ⟨new, heq, hnew⟩ : ∃ new, evaluateTick strategy numberText quoteAt fixture goals homeId
      awayId log st = log ++ new ∧ ∀ a ∈ new, ∃ t, st.tickAt = some t ∧ a.IsAt t :=
    evaluateTick_spec log
  have hall : attemptsUpTo T new = new := by
    refine List.filter_eq_self.2 fun a ha => ?_
    obtain ⟨t, hst, hspec, -⟩ := hnew a ha
    exact decide_eq_true (hspec.trans_le (hat t hst))
  rw [heq]
  exact (List.filter_append ..).trans (congrArg₂ _ hlog hall)

/-- The ticks of later snapshots come after the instant. -/
theorem late_of_mem_ticksFrom {later : List FixtureStatsSnapshot}
    (hlater : ∀ snap ∈ later, T < snap.snapshotAt) (hst : ∀ t, st.tickAt = some t → T < t)
    {s : TickState} (hs : s ∈ ticksFrom number st later) {t : Int} (hat : s.tickAt = some t) :
    T < t := by
  rcases tickAt_of_mem_ticksFrom hs with heq | ⟨snap, hsnap, heq⟩
  · exact hst t (heq.symm.trans hat)
  · have := hlater snap hsnap
    rw [Option.some.inj (heq.symm.trans hat)] at this
    exact this

/-- The replay goes on from what the first snapshots left. -/
theorem attemptsUpTo_ticksFrom {early later : List FixtureStatsSnapshot}
    (hearly : ∀ snap ∈ early, snap.snapshotAt ≤ T) (hlater : ∀ snap ∈ later, T < snap.snapshotAt)
    (hst : ∀ t, st.tickAt = some t → t ≤ T) (hlog : attemptsUpTo T log = log) :
    attemptsUpTo T ((ticksFrom number st (early ++ later)).foldl
        (evaluateTick strategy numberText quoteAt fixture goals homeId awayId) log) =
      (ticksFrom number st early).foldl
        (evaluateTick strategy numberText quoteAt fixture goals homeId awayId) log := by
  induction early generalizing st log with
  | nil =>
    have htick : attemptsUpTo T (evaluateTick strategy numberText quoteAt fixture goals homeId awayId
        log st) = evaluateTick strategy numberText quoteAt fixture goals homeId awayId log st :=
      attemptsUpTo_evaluateTick hst hlog
    have hlate (snap : FixtureStatsSnapshot) (rest : List FixtureStatsSnapshot)
        (hrest : ∀ s ∈ snap :: rest, T < s.snapshotAt) :
        ∀ s ∈ ticksFrom number (st.feed number snap) rest, ∀ t, s.tickAt = some t → T < t := by
      intro s hs t hat
      refine late_of_mem_ticksFrom (fun x hx => hrest x (List.mem_cons_of_mem snap hx)) ?_ hs hat
      intro t' ht'
      rw [TickState.tickAt_feed] at ht'
      exact Option.some.inj ht' ▸ hrest snap List.mem_cons_self
    rw [List.nil_append]
    cases later with
    | nil => exact htick
    | cons snap rest =>
      rw [ticksFrom, List.foldl_cons, List.foldl_nil, ticksFrom]
      split
      · next hall =>
        -- the first snapshot of all: nothing has been known until now
        have hnone : st.tickAt = none := by
          by_contra hsome
          obtain ⟨t, hat⟩ := Option.ne_none_iff_exists'.1 hsome
          have hle := hst t hat
          have hlt := hlater snap List.mem_cons_self
          rw [hat, Option.all_some, beq_iff_eq] at hall
          omega
        rw [attemptsUpTo_foldl (hlate snap rest hlater), hlog]
        exact (evaluateTick_none hnone).symm
      · rw [List.foldl_cons, attemptsUpTo_foldl (hlate snap rest hlater), htick]
  | cons snap early ih =>
    have hrest : ∀ s ∈ early, s.snapshotAt ≤ T := fun s hs =>
      hearly s (List.mem_cons_of_mem snap hs)
    have hfeed : ∀ t, (st.feed number snap).tickAt = some t → t ≤ T := by
      intro t ht
      rw [TickState.tickAt_feed] at ht
      exact Option.some.inj ht ▸ hearly snap List.mem_cons_self
    rw [List.cons_append, ticksFrom, ticksFrom]
    split
    · exact ih hrest hfeed hlog
    · rw [List.foldl_cons, List.foldl_cons]
      exact ih hrest hfeed (attemptsUpTo_evaluateTick hst hlog)

/-- **Later snapshots change nothing that was attempted before.** -/
theorem replayFixture_append {early later : List FixtureStatsSnapshot}
    (hearly : ∀ snap ∈ early, snap.snapshotAt ≤ T)
    (hlater : ∀ snap ∈ later, T < snap.snapshotAt) :
    attemptsUpTo T (replayFixture number strategy numberText quoteAt fixture goals
        (early ++ later)) =
      replayFixture number strategy numberText quoteAt fixture goals early := by
  simp only [replayFixture]
  split
  · exact attemptsUpTo_ticksFrom hearly hlater (fun _ h => nomatch h) rfl
  · rfl

/-- The bets of a log are decided when they were attempted. -/
theorem isAt_of_mem_replayFixture {snaps : List FixtureStatsSnapshot}
    (h : a ∈ replayFixture number strategy numberText quoteAt fixture goals snaps) :
    a.IsAt a.tickAt := by
  have hfold (homeId awayId : Int) (states : List TickState) (log : List SignalAttempt)
      (hlog : ∀ a ∈ log, a.IsAt a.tickAt) :
      ∀ a ∈ states.foldl (evaluateTick strategy numberText quoteAt fixture goals homeId awayId) log,
        a.IsAt a.tickAt := by
    induction states generalizing log with
    | nil => exact hlog
    | cons st states ih =>
      obtain ⟨new, heq, hnew⟩ : ∃ new, evaluateTick strategy numberText quoteAt fixture goals homeId
          awayId log st = log ++ new ∧ ∀ a ∈ new, ∃ t, st.tickAt = some t ∧ a.IsAt t :=
        evaluateTick_spec log
      rw [List.foldl_cons, heq]
      refine ih _ fun a ha => ?_
      rcases List.mem_append.1 ha with ha | ha
      · exact hlog a ha
      · obtain ⟨t, -, hat⟩ := hnew a ha
        exact ⟨rfl, hat.1 ▸ hat.2⟩
  unfold replayFixture at h
  split at h
  · exact hfold _ _ _ [] (fun _ ha => absurd ha List.not_mem_nil) a h
  · cases h

end ApiScore
