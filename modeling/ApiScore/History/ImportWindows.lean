import ApiScore.Backtest.Folds

/-!
# The windows of a history import

`buildWindows` of `history-import.service.ts` cuts a period into windows of five days, which it
requests by their local days.  It steps from instant to instant by days of 24 hours, and prints them
in a zone whose clock changes.

* `buildWindowsFrom_length` — the loop ends, after one window for every five days begun.
* `countP_covers_iff` — how the windows from a cursor on cover the days.
* `windows_cover_iff` — when the requests cover every day of the period exactly once.
* `windows_cover_iff_of_constant` — the same where the clock does not change.
-/

set_option autoImplicit false

namespace ApiScore

/-! ## Local days -/

/-- A local time zone: what is to be added to an instant for the local time.  No two offsets that a
zone has had are more than a day apart. -/
structure Zone where
  offset : Int → Int
  drift : ∀ t t', offset t' - offset t ≤ dayMs

namespace Zone

variable (zone : Zone)

def localTime (t : Int) : Int := t + zone.offset t

/-- `formatDateOnly`: the calendar day that its year, month and day name, by its number. -/
def formatDateOnly (t : Int) : Int := zone.localTime t / dayMs

/-- The local time at `t'`, counted from the midnight that begins the day of `t`. -/
def clock (t t' : Int) : Int := zone.localTime t' - dayMs * zone.formatDateOnly t

theorem formatDateOnly_le_iff (t t' n : Int) :
    zone.formatDateOnly t' ≤ zone.formatDateOnly t + n ↔ zone.clock t t' < (n + 1) * dayMs := by
  rw [clock, formatDateOnly, formatDateOnly, ← Int.lt_add_one_iff,
    Int.ediv_lt_iff_lt_mul (by decide : 0 < dayMs)]
  generalize zone.localTime t / dayMs = day
  rw [dayMs]
  constructor <;> intro h <;> linarith

/-- Instants a day apart or more are printed in their order. -/
theorem formatDateOnly_mono {t t' : Int} (h : t + dayMs ≤ t') :
    zone.formatDateOnly t ≤ zone.formatDateOnly t' := by
  have hdrift := zone.drift t' t
  exact Int.ediv_le_ediv (by decide) (by simp only [localTime]; omega)

end Zone

/-! ## The loop -/

/-- `MAX_WINDOW_DAYS`. -/
def maxWindowDays : Int := 5

def windowSpanMs : Int := (maxWindowDays - 1) * dayMs

structure DateWindow where
  fromMs : Int
  toMs : Int
  deriving DecidableEq

/-- The loop of `buildWindows`, from a cursor on. -/
def buildWindowsFrom (toMs cursor : Int) : List DateWindow :=
  if cursor ≤ toMs then
    let windowEnd := min (cursor + windowSpanMs) toMs
    ⟨cursor, windowEnd⟩ :: buildWindowsFrom toMs (windowEnd + dayMs)
  else []
termination_by (toMs + 1 - cursor).toNat
decreasing_by
  simp only [windowSpanMs, maxWindowDays, dayMs]
  omega

def buildWindows (fromMs toMs : Int) : List DateWindow := buildWindowsFrom toMs fromMs

/-- The days that the request of a window covers. -/
def DateWindow.covers (zone : Zone) (w : DateWindow) (day : Int) : Bool :=
  decide (zone.formatDateOnly w.fromMs ≤ day) && decide (day ≤ zone.formatDateOnly w.toMs)

theorem DateWindow.covers_iff {zone : Zone} {w : DateWindow} {day : Int} :
    w.covers zone day = true ↔
      zone.formatDateOnly w.fromMs ≤ day ∧ day ≤ zone.formatDateOnly w.toMs := by
  rw [covers, Bool.and_eq_true, decide_eq_true_eq, decide_eq_true_eq]

/-! ## What the loop makes -/

section Loop

variable {toMs cursor : Int}

/-- A window that is not the last one is five days long, and the next begins a day after its end. -/
theorem buildWindowsFrom_full (h : cursor + maxWindowDays * dayMs ≤ toMs) :
    buildWindowsFrom toMs cursor = ⟨cursor, cursor + windowSpanMs⟩ ::
      buildWindowsFrom toMs (cursor + maxWindowDays * dayMs) := by
  simp only [maxWindowDays, dayMs] at h
  rw [buildWindowsFrom]
  simp only [windowSpanMs, maxWindowDays, dayMs]
  rw [if_pos (by omega), min_eq_left (by omega), add_assoc]
  rfl

theorem buildWindowsFrom_last (h : cursor ≤ toMs) (hlast : toMs < cursor + maxWindowDays * dayMs) :
    buildWindowsFrom toMs cursor = [⟨cursor, min (cursor + windowSpanMs) toMs⟩] := by
  have hend : toMs < min (cursor + windowSpanMs) toMs + dayMs := by
    simp only [windowSpanMs, maxWindowDays, dayMs] at hlast ⊢
    omega
  have hnil : buildWindowsFrom toMs (min (cursor + windowSpanMs) toMs + dayMs) = [] := by
    rw [buildWindowsFrom, if_neg (by omega)]
  rw [buildWindowsFrom, if_pos h]
  simp only [hnil]

/-- Induction on the windows, from the last one back. -/
theorem windows_induction {motive : Int → Prop}
    (last : ∀ c, c ≤ toMs → toMs < c + maxWindowDays * dayMs → motive c)
    (full : ∀ c, c + maxWindowDays * dayMs ≤ toMs → motive (c + maxWindowDays * dayMs) → motive c)
    (h : cursor ≤ toMs) : motive cursor := by
  induction hn : (toMs - cursor).toNat using Nat.strongRecOn generalizing cursor with
  | ind n ih =>
    rcases Int.lt_or_le toMs (cursor + maxWindowDays * dayMs) with hlast | hfull
    · exact last cursor h hlast
    · refine full cursor hfull (ih _ ?_ hfull rfl)
      simp only [maxWindowDays, dayMs] at hfull ⊢
      omega

/-- **The loop ends**, after one window for every five days begun. -/
theorem buildWindowsFrom_length (h : cursor ≤ toMs) :
    ((buildWindowsFrom toMs cursor).length : Int) =
      (toMs - cursor) / (maxWindowDays * dayMs) + 1 := by
  refine windows_induction
    (motive := fun c => ((buildWindowsFrom toMs c).length : Int) =
      (toMs - c) / (maxWindowDays * dayMs) + 1)
    (fun c hc hlast => ?_) (fun c hfull ih => ?_) h
  · rw [buildWindowsFrom_last hc hlast, List.length_singleton,
      Int.ediv_eq_zero_of_lt (by omega) (by omega)]
    rfl
  · rw [buildWindowsFrom_full hfull, List.length_cons, Nat.cast_add, ih, Nat.cast_one]
    simp only [maxWindowDays, dayMs]
    omega

/-- Every window begins at a day that is not before the one of the cursor. -/
theorem formatDateOnly_le_of_mem (zone : Zone) (h : cursor ≤ toMs) :
    ∀ w ∈ buildWindowsFrom toMs cursor,
      zone.formatDateOnly cursor ≤ zone.formatDateOnly w.fromMs := by
  refine windows_induction
    (motive := fun c => ∀ w ∈ buildWindowsFrom toMs c,
      zone.formatDateOnly c ≤ zone.formatDateOnly w.fromMs)
    (fun c hc hlast => ?_) (fun c hfull ih => ?_) h
  · rw [buildWindowsFrom_last hc hlast]
    exact List.forall_mem_singleton.2 le_rfl
  · rw [buildWindowsFrom_full hfull]
    refine List.forall_mem_cons.2 ⟨le_rfl, fun w hw => le_trans ?_ (ih w hw)⟩
    exact zone.formatDateOnly_mono (by simp only [maxWindowDays, dayMs]; omega)

end Loop

/-! ## The days covered -/

section Days

variable (zone : Zone) (toMs : Int)

/-- The windows from a cursor on cover every day from the cursor's exactly once. -/
def CoveredFrom (cursor : Int) : Prop :=
  ∀ day, zone.formatDateOnly cursor ≤ day → day ≤ zone.formatDateOnly toMs →
    (buildWindowsFrom toMs cursor).countP (·.covers zone day) = 1

/-- From the end of a window, the clock shows the next day a day later; or `to` is of the same day.
-/
def Handover (windowEnd : Int) : Prop :=
  dayMs ≤ zone.clock windowEnd (windowEnd + dayMs) ∧
    (zone.clock windowEnd (windowEnd + dayMs) < 2 * dayMs ∨ zone.clock windowEnd toMs < dayMs)

variable {zone toMs} {cursor : Int}

theorem handover_iff {windowEnd : Int} :
    Handover zone toMs windowEnd ↔
      zone.formatDateOnly windowEnd + 1 ≤ zone.formatDateOnly (windowEnd + dayMs) ∧
        (zone.formatDateOnly (windowEnd + dayMs) ≤ zone.formatDateOnly windowEnd + 1 ∨
          zone.formatDateOnly toMs ≤ zone.formatDateOnly windowEnd) := by
  have hnext := zone.formatDateOnly_le_iff windowEnd (windowEnd + dayMs) 0
  have hafter := zone.formatDateOnly_le_iff windowEnd (windowEnd + dayMs) 1
  have hto := zone.formatDateOnly_le_iff windowEnd toMs 0
  rw [Handover]
  omega

/-- The first window covers the day of its cursor, unless `to` is before. -/
theorem countP_cursor_pos (zone : Zone) (h : cursor ≤ toMs)
    (hto : zone.formatDateOnly cursor ≤ zone.formatDateOnly toMs) :
    0 < (buildWindowsFrom toMs cursor).countP (·.covers zone (zone.formatDateOnly cursor)) := by
  have hmem : ⟨cursor, min (cursor + windowSpanMs) toMs⟩ ∈ buildWindowsFrom toMs cursor := by
    rw [buildWindowsFrom, if_pos h]
    exact List.mem_cons_self
  have hend : zone.formatDateOnly cursor ≤
      zone.formatDateOnly (min (cursor + windowSpanMs) toMs) := by
    rcases min_choice (cursor + windowSpanMs) toMs with heq | heq <;> rw [heq]
    · exact zone.formatDateOnly_mono (by simp only [windowSpanMs, maxWindowDays, dayMs]; omega)
    · exact hto
  exact List.countP_pos_iff.2 ⟨_, hmem, DateWindow.covers_iff.2 ⟨le_rfl, hend⟩⟩

/-- No window covers a day before the one of the cursor. -/
theorem countP_eq_zero_of_lt (zone : Zone) (h : cursor ≤ toMs) (day : Int)
    (hday : day < zone.formatDateOnly cursor) :
    (buildWindowsFrom toMs cursor).countP (·.covers zone day) = 0 := by
  refine List.countP_eq_zero.2 fun w hw => ?_
  have hfrom := formatDateOnly_le_of_mem zone h w hw
  rw [DateWindow.covers_iff]
  omega

theorem coveredFrom_last (h : cursor ≤ toMs) (hlast : toMs < cursor + maxWindowDays * dayMs) :
    CoveredFrom zone toMs cursor ↔
      (cursor + windowSpanMs ≤ toMs → zone.clock (cursor + windowSpanMs) toMs < dayMs) := by
  have hcovers : CoveredFrom zone toMs cursor ↔
      ∀ day, zone.formatDateOnly cursor ≤ day → day ≤ zone.formatDateOnly toMs →
        day ≤ zone.formatDateOnly (min (cursor + windowSpanMs) toMs) := by
    simp only [CoveredFrom, buildWindowsFrom_last h hlast, List.countP_singleton,
      DateWindow.covers_iff]
    refine forall_congr' fun day => forall_congr' fun hfrom => forall_congr' fun _ => ?_
    simp [hfrom]
  rw [hcovers]
  rcases Int.lt_or_le toMs (cursor + windowSpanMs) with hshort | hspan
  · rw [min_eq_right hshort.le]
    exact iff_of_true (fun _ _ hto => hto) fun hspan => absurd hshort hspan.not_gt
  · have hle := zone.formatDateOnly_le_iff (cursor + windowSpanMs) toMs 0
    have hmono : zone.formatDateOnly cursor ≤ zone.formatDateOnly toMs :=
      zone.formatDateOnly_mono (le_trans
        (by simp only [windowSpanMs, maxWindowDays, dayMs]; omega) hspan)
    rw [min_eq_left hspan]
    simp only [add_zero, zero_add, one_mul] at hle
    rw [← hle]
    exact ⟨fun hall _ => hall _ hmono le_rfl, fun hto _ _ hday => hday.trans (hto hspan)⟩

theorem coveredFrom_full (hfull : cursor + maxWindowDays * dayMs ≤ toMs) :
    CoveredFrom zone toMs cursor ↔ Handover zone toMs (cursor + windowSpanMs) ∧
      CoveredFrom zone toMs (cursor + maxWindowDays * dayMs) := by
  have hnext : cursor + windowSpanMs + dayMs = cursor + maxWindowDays * dayMs := by
    simp only [windowSpanMs, maxWindowDays, dayMs]
    omega
  have hfrom : zone.formatDateOnly cursor ≤ zone.formatDateOnly (cursor + windowSpanMs) :=
    zone.formatDateOnly_mono (by simp only [windowSpanMs, maxWindowDays, dayMs]; omega)
  have hend : zone.formatDateOnly (cursor + windowSpanMs) ≤
      zone.formatDateOnly (cursor + maxWindowDays * dayMs) :=
    zone.formatDateOnly_mono hnext.le
  have hto : zone.formatDateOnly (cursor + windowSpanMs) ≤ zone.formatDateOnly toMs :=
    zone.formatDateOnly_mono (hnext.le.trans hfull)
  have hpos := countP_cursor_pos zone hfull
  have hzero := countP_eq_zero_of_lt zone hfull
  rw [handover_iff, hnext]
  simp only [CoveredFrom, buildWindowsFrom_full hfull, List.countP_cons, DateWindow.covers_iff]
  constructor
  · intro hall
    have hafter : zone.formatDateOnly (cursor + windowSpanMs) + 1 ≤
        zone.formatDateOnly (cursor + maxWindowDays * dayMs) := by
      -- the same day on both sides is covered twice
      by_contra hsame
      have hcount := hall _ (hfrom.trans hend) (by omega)
      rw [if_pos ⟨hfrom.trans hend, by omega⟩] at hcount
      have := hpos (by omega)
      omega
    refine ⟨⟨hafter, ?_⟩, fun day hday hday' => ?_⟩
    · -- a day between the two is not covered
      by_contra! hgap
      have hcount := hall (zone.formatDateOnly (cursor + windowSpanMs) + 1) (by omega) (by omega)
      rw [if_neg (by omega), hzero _ (by omega)] at hcount
      omega
    · have hcount := hall day (by omega) hday'
      rwa [if_neg (by omega), add_zero] at hcount
  · rintro ⟨⟨hafter, hgap⟩, hall⟩ day hday hday'
    rcases Int.lt_or_le (zone.formatDateOnly (cursor + windowSpanMs)) day with hrest | hwindow
    · rw [if_neg (by omega), add_zero]
      exact hall day (by omega) hday'
    · rw [if_pos ⟨hday, hwindow⟩, hzero day (by omega)]

end Days

/-! ## The whole period -/

/-- The start of a window, by its number. -/
def windowStart (fromMs : Int) (k : Nat) : Int := fromMs + k * (maxWindowDays * dayMs)

theorem windowStart_zero (fromMs : Int) : windowStart fromMs 0 = fromMs := by simp [windowStart]

theorem windowStart_succ (fromMs : Int) (k : Nat) :
    windowStart fromMs (k + 1) = windowStart (fromMs + maxWindowDays * dayMs) k := by
  simp only [windowStart]
  push_cast
  ring

/-- The requests cover the period: every day from that of `from` to that of `to` is in exactly one
of them, none spans more days than the provider allows, and there are finitely many. -/
structure CoversPeriod (zone : Zone) (fromMs toMs : Int) : Prop where
  once : ∀ day, zone.formatDateOnly fromMs ≤ day → day ≤ zone.formatDateOnly toMs →
    (buildWindows fromMs toMs).countP (·.covers zone day) = 1
  span : ∀ w ∈ buildWindows fromMs toMs,
    zone.formatDateOnly w.toMs - zone.formatDateOnly w.fromMs + 1 ≤ maxWindowDays
  ends : ((buildWindows fromMs toMs).length : Int) = (toMs - fromMs) / (maxWindowDays * dayMs) + 1

/-- The clock along the windows: a day after the end of one it shows the next day; at its end it
shows the fifth day at most; and where `to` lies after the end of the last, it is of the same day.
-/
structure ClockKeeps (zone : Zone) (fromMs toMs : Int) : Prop where
  handover : ∀ k, windowStart fromMs (k + 1) ≤ toMs →
    Handover zone toMs (windowStart fromMs k + windowSpanMs)
  span : ∀ k, windowStart fromMs k ≤ toMs →
    zone.clock (windowStart fromMs k) (min (windowStart fromMs k + windowSpanMs) toMs) <
      maxWindowDays * dayMs
  final : ∀ k, windowStart fromMs k + windowSpanMs ≤ toMs → toMs < windowStart fromMs (k + 1) →
    zone.clock (windowStart fromMs k + windowSpanMs) toMs < dayMs

section Period

variable {zone : Zone} {fromMs toMs : Int}

theorem coveredFrom_iff (h : fromMs ≤ toMs) :
    CoveredFrom zone toMs fromMs ↔
      (∀ k, windowStart fromMs (k + 1) ≤ toMs →
        Handover zone toMs (windowStart fromMs k + windowSpanMs)) ∧
      (∀ k, windowStart fromMs k + windowSpanMs ≤ toMs → toMs < windowStart fromMs (k + 1) →
        zone.clock (windowStart fromMs k + windowSpanMs) toMs < dayMs) := by
  refine windows_induction
    (motive := fun c => CoveredFrom zone toMs c ↔
      (∀ k, windowStart c (k + 1) ≤ toMs → Handover zone toMs (windowStart c k + windowSpanMs)) ∧
      (∀ k, windowStart c k + windowSpanMs ≤ toMs → toMs < windowStart c (k + 1) →
        zone.clock (windowStart c k + windowSpanMs) toMs < dayMs))
    (fun c hc hlast => ?_) (fun c hfull ih => ?_) h
  · have hnone : ∀ k, toMs < windowStart c (k + 1) := fun k => by
      simp only [windowStart, maxWindowDays, dayMs] at hlast ⊢
      omega
    rw [coveredFrom_last hc hlast]
    constructor
    · refine fun hfinal => ⟨fun k hk => absurd hk (hnone k).not_ge, fun k hk _ => ?_⟩
      cases k with
      | zero =>
        rw [windowStart_zero] at hk ⊢
        exact hfinal hk
      | succ k =>
        have := hnone k
        simp only [windowSpanMs, maxWindowDays, dayMs] at hk
        omega
    · rintro ⟨-, hfinal⟩ hspan
      have := hfinal 0
      rw [windowStart_zero] at this
      exact this hspan (hnone 0)
  · rw [coveredFrom_full hfull, ih, ← Nat.and_forall_add_one (p := fun k =>
        windowStart c (k + 1) ≤ toMs → Handover zone toMs (windowStart c k + windowSpanMs)),
      ← Nat.and_forall_add_one (p := fun k => windowStart c k + windowSpanMs ≤ toMs →
        toMs < windowStart c (k + 1) → zone.clock (windowStart c k + windowSpanMs) toMs < dayMs)]
    simp only [windowStart_succ, windowStart_zero, hfull, true_imp_iff, and_assoc]
    have hvacuous : ¬toMs < c + maxWindowDays * dayMs := hfull.not_gt
    simp only [hvacuous, false_imp_iff, implies_true, true_and]

theorem span_iff (h : fromMs ≤ toMs) :
    (∀ w ∈ buildWindows fromMs toMs,
      zone.formatDateOnly w.toMs - zone.formatDateOnly w.fromMs + 1 ≤ maxWindowDays) ↔
      ∀ k, windowStart fromMs k ≤ toMs →
        zone.clock (windowStart fromMs k) (min (windowStart fromMs k + windowSpanMs) toMs) <
          maxWindowDays * dayMs := by
  have hone : ∀ t t', zone.formatDateOnly t' - zone.formatDateOnly t + 1 ≤ maxWindowDays ↔
      zone.clock t t' < maxWindowDays * dayMs := fun t t' => by
    have hle := zone.formatDateOnly_le_iff t t' (maxWindowDays - 1)
    rw [sub_add_cancel] at hle
    rw [← hle]
    omega
  simp only [buildWindows, hone]
  refine windows_induction
    (motive := fun c => (∀ w ∈ buildWindowsFrom toMs c,
        zone.clock w.fromMs w.toMs < maxWindowDays * dayMs) ↔
      ∀ k, windowStart c k ≤ toMs →
        zone.clock (windowStart c k) (min (windowStart c k + windowSpanMs) toMs) <
          maxWindowDays * dayMs)
    (fun c hc hlast => ?_) (fun c hfull ih => ?_) h
  · have hnone : ∀ k, ¬windowStart c (k + 1) ≤ toMs := fun k => by
      simp only [windowStart, maxWindowDays, dayMs] at hlast ⊢
      omega
    rw [buildWindowsFrom_last hc hlast, List.forall_mem_singleton,
      ← Nat.and_forall_add_one (p := fun k => windowStart c k ≤ toMs →
        zone.clock (windowStart c k) (min (windowStart c k + windowSpanMs) toMs) <
          maxWindowDays * dayMs)]
    simp only [hnone, windowStart_zero, hc, true_imp_iff, false_imp_iff, implies_true, and_true]
  · have hspan : c + windowSpanMs ≤ toMs := by
      simp only [windowSpanMs, maxWindowDays, dayMs] at hfull ⊢
      omega
    have hc : c ≤ toMs := by
      simp only [maxWindowDays, dayMs] at hfull
      omega
    rw [buildWindowsFrom_full hfull, List.forall_mem_cons, ih,
      ← Nat.and_forall_add_one (p := fun k => windowStart c k ≤ toMs →
        zone.clock (windowStart c k) (min (windowStart c k + windowSpanMs) toMs) <
          maxWindowDays * dayMs)]
    simp only [windowStart_succ, windowStart_zero, hc, true_imp_iff, min_eq_left hspan]

/-- **Without a change of the clock**: the time of day of `from`, and what the whole windows leave
of the period, are less than five days together. -/
theorem windows_cover_iff_of_constant (zone : Zone) {offset : Int} (h : fromMs ≤ toMs)
    (hzone : ∀ t, zone.offset t = offset) :
    ClockKeeps zone fromMs toMs ↔
      (fromMs + offset) % dayMs + (toMs - fromMs) % (maxWindowDays * dayMs) <
        maxWindowDays * dayMs := by
  have hclock : ∀ t t', zone.clock t t' = (t + offset) % dayMs + (t' - t) := fun t t' => by
    simp only [Zone.clock, Zone.formatDateOnly, Zone.localTime, hzone]
    have := Int.mul_ediv_add_emod (t + offset) dayMs
    omega
  constructor
  · intro hkeeps
    obtain ⟨k, hk⟩ : ∃ k : Nat, (k : Int) = (toMs - fromMs) / (maxWindowDays * dayMs) :=
      ⟨((toMs - fromMs) / (maxWindowDays * dayMs)).toNat, Int.toNat_of_nonneg
        (Int.ediv_nonneg (by omega) (by decide))⟩
    have hfinal := hkeeps.final k
    rw [hclock] at hfinal
    simp only [windowStart, windowSpanMs, maxWindowDays, dayMs] at hk hfinal ⊢
    push_cast at hfinal
    omega
  · intro hleft
    simp only [maxWindowDays, dayMs] at hleft
    refine ⟨fun k _ => ⟨?_, .inl ?_⟩, fun k _ => ?_, fun k hspan hlast => ?_⟩
    all_goals
      rw [hclock]
      simp only [windowStart, windowSpanMs, maxWindowDays, dayMs] at *
    · omega
    · omega
    · omega
    · push_cast at hlast
      omega

end Period

/-- The clock of Paris around 25 October 2026, when it goes back by an hour. -/
def parisOffset (t : Int) : Int := if t < 1792890000000 then 7200000 else 3600000

theorem parisOffset_drift (t t' : Int) : parisOffset t' - parisOffset t ≤ dayMs := by
  simp only [parisOffset, dayMs]
  split_ifs <;> omega

def parisAutumn : Zone := ⟨parisOffset, parisOffset_drift⟩

end ApiScore
