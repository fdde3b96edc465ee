import ApiScore.Backtest.WalkForward

/-!
# The folds of a walk-forward run

`buildFolds` of `walk-forward.service.ts` slides three windows in a row, train, validation and test,
over a period, `stepDays` at a time.  The first fold whose test window goes past the end of the period
is kept as an incomplete one, and is the last.

* `FoldParams.fold` — the fold of an index, on the grid of the step.
* `foldsFrom_spec` — what the loop returns is a piece of that grid.
* `buildFolds_tiles` — where it does not throw, the folds tile the period.
-/

set_option autoImplicit false

namespace ApiScore

/-- `DAY_MS`. -/
def dayMs : Int := 86400000

/-- `MAX_FOLDS`. -/
def maxFolds : Nat := 200

/-- The lengths are positive numbers of days; a date that is not valid is `none`. -/
structure FoldParams where
  rangeFrom : Option Int
  rangeTo : Option Int
  trainWindowDays : Nat
  validationWindowDays : Nat
  testWindowDays : Nat
  stepDays : Nat
  trainPos : 0 < trainWindowDays
  validationPos : 0 < validationWindowDays
  testPos : 0 < testWindowDays
  stepPos : 0 < stepDays

namespace FoldParams

variable (p : FoldParams) (fromMs toMs : Int)

def trainFrom (index : Nat) : Int := fromMs + index * p.stepDays * dayMs

def trainTo (index : Nat) : Int := p.trainFrom fromMs index + p.trainWindowDays * dayMs

def validationTo (index : Nat) : Int := p.trainTo fromMs index + p.validationWindowDays * dayMs

def testTo (index : Nat) : Int := p.validationTo fromMs index + p.testWindowDays * dayMs

/-- The fold of an index.  `testTo` may lie past the last instant that a date can be. -/
def fold (index : Nat) : FoldWindow where
  foldIndex := index
  trainFrom := p.trainFrom fromMs index
  trainTo := p.trainTo fromMs index
  validationFrom := p.trainTo fromMs index
  validationTo := p.validationTo fromMs index
  testFrom := p.validationTo fromMs index
  testTo := p.testTo fromMs index
  complete := decide (p.testTo fromMs index ≤ toMs)

end FoldParams

/-- The loop, from an index on, with room for so many more folds. -/
def foldsFrom (p : FoldParams) (fromMs toMs : Int) (index room : Nat) :
    Except ServiceError (List FoldWindow) :=
  if toMs ≤ p.validationTo fromMs index then .ok []
  else
    match room with
    | 0 => .error (.http ("Plus de " ++ toString maxFolds ++
        " folds : élargir stepDays ou réduire la plage"))
    | room + 1 =>
      let fold := p.fold fromMs toMs index
      if !fold.complete then .ok [fold]
      else (foldsFrom p fromMs toMs (index + 1) room).map (fold :: ·)

/-- `buildFolds`. -/
def buildFolds (p : FoldParams) : Except ServiceError (List FoldWindow) :=
  match p.rangeFrom, p.rangeTo with
  | some fromMs, some toMs =>
    if toMs ≤ fromMs then .error (.http "La plage from/to est invalide")
    else if p.stepDays < p.testWindowDays then
      .error (.http ("stepDays doit être >= testWindowDays : " ++
        "les fenêtres de test ne doivent pas se chevaucher"))
    else foldsFrom p fromMs toMs 0 maxFolds
  | _, _ => .error (.http "La plage from/to est invalide")

/-! ## The grid -/

section Grid

variable {p : FoldParams} {fromMs toMs : Int} {index k : Nat}

variable (p fromMs) in
theorem trainFrom_mono (h : index ≤ k) : p.trainFrom fromMs index ≤ p.trainFrom fromMs k := by
  have hcast : (index : Int) * p.stepDays ≤ k * p.stepDays := by
    exact_mod_cast Nat.mul_le_mul_right p.stepDays h
  simp only [FoldParams.trainFrom, dayMs]
  omega

theorem testTo_mono (h : index ≤ k) : p.testTo fromMs index ≤ p.testTo fromMs k := by
  have hle := trainFrom_mono p fromMs h
  simp only [FoldParams.testTo, FoldParams.validationTo, FoldParams.trainTo]
  omega

/-- The instants of a fold are in order. -/
theorem fold_ordered (p : FoldParams) (fromMs : Int) (index : Nat) :
    fromMs ≤ p.trainFrom fromMs index ∧ p.trainFrom fromMs index < p.trainTo fromMs index ∧
      p.trainTo fromMs index < p.validationTo fromMs index ∧
      p.validationTo fromMs index < p.testTo fromMs index := by
  have hstart := trainFrom_mono p fromMs (Nat.zero_le index)
  have hzero : p.trainFrom fromMs 0 = fromMs := by simp [FoldParams.trainFrom]
  have htrain := p.trainPos
  have hvalidation := p.validationPos
  have htest := p.testPos
  rw [hzero] at hstart
  simp only [FoldParams.testTo, FoldParams.validationTo, FoldParams.trainTo, dayMs]
  omega

/-- Where a step is at least as long as a test window, no test window begins before an earlier one
has ended. -/
theorem testTo_le_validationTo (hstep : p.testWindowDays ≤ p.stepDays) (h : index < k) :
    p.testTo fromMs index ≤ p.validationTo fromMs k := by
  have hnext : p.trainFrom fromMs index + p.stepDays * dayMs = p.trainFrom fromMs (index + 1) := by
    simp only [FoldParams.trainFrom]
    push_cast
    ring
  have hmono : p.trainFrom fromMs (index + 1) ≤ p.trainFrom fromMs k := trainFrom_mono _ _ h
  simp only [FoldParams.testTo, FoldParams.validationTo, FoldParams.trainTo, dayMs] at hnext ⊢
  omega

end Grid

/-- What the loop returns from an index on: a piece of the grid. -/
structure Piece (p : FoldParams) (fromMs toMs : Int) (index : Nat) (folds : List FoldWindow) :
    Prop where
  grid : folds = (List.range' index folds.length).map (p.fold fromMs toMs)
  starts : ∀ k, index ≤ k → k < index + folds.length → p.validationTo fromMs k < toMs
  full : ∀ k, index ≤ k → k + 1 < index + folds.length → p.testTo fromMs k ≤ toMs
  maximal : ∀ k, index + folds.length ≤ k → toMs < p.testTo fromMs k

section Loop

variable {p : FoldParams} {fromMs toMs : Int} {index : Nat}

theorem Piece.nil (h : toMs ≤ p.validationTo fromMs index) : Piece p fromMs toMs index [] where
  grid := rfl
  starts k hk hlt := absurd hlt (Nat.not_lt.2 hk)
  full k hk hlt := absurd (Nat.lt_of_succ_lt hlt) (Nat.not_lt.2 hk)
  maximal k hk := by
    obtain ⟨-, -, -, hlast⟩ := fold_ordered p fromMs index
    exact (h.trans_lt hlast).trans_le (testTo_mono hk)

theorem Piece.incomplete (hstart : p.validationTo fromMs index < toMs)
    (h : toMs < p.testTo fromMs index) :
    Piece p fromMs toMs index [p.fold fromMs toMs index] where
  grid := rfl
  starts k hk hlt := by
    rw [List.length_singleton] at hlt
    obtain rfl : k = index := by omega
    exact hstart
  full k hk hlt := by
    rw [List.length_singleton] at hlt
    omega
  maximal k hk := h.trans_le (testTo_mono (by omega))

theorem Piece.cons {folds : List FoldWindow} (hstart : p.validationTo fromMs index < toMs)
    (h : p.testTo fromMs index ≤ toMs) (hrest : Piece p fromMs toMs (index + 1) folds) :
    Piece p fromMs toMs index (p.fold fromMs toMs index :: folds) where
  grid := by
    rw [List.length_cons, List.range'_succ, List.map_cons, ← hrest.grid]
  starts k hk hlt := by
    rw [List.length_cons] at hlt
    rcases Nat.eq_or_lt_of_le hk with rfl | hk
    · exact hstart
    · exact hrest.starts k hk (by omega)
  full k hk hlt := by
    rw [List.length_cons] at hlt
    rcases Nat.eq_or_lt_of_le hk with rfl | hk
    · exact h
    · exact hrest.full k hk (by omega)
  maximal k hk := by
    rw [List.length_cons] at hk
    exact hrest.maximal k (by omega)

/-- **What the loop returns is a piece of the grid.** -/
theorem foldsFrom_spec {room : Nat} {folds : List FoldWindow}
    (h : foldsFrom p fromMs toMs index room = .ok folds) :
    Piece p fromMs toMs index folds ∧ folds.length ≤ room := by
  induction room generalizing index folds with
  | zero =>
    rw [foldsFrom] at h
    split_ifs at h with hend
    obtain rfl := Except.ok.inj h
    exact ⟨.nil hend, le_refl _⟩
  | succ room ih =>
    rw [foldsFrom] at h
    dsimp only at h
    split_ifs at h with hend hincomplete
    · obtain rfl := Except.ok.inj h
      exact ⟨.nil hend, Nat.zero_le _⟩
    · obtain rfl := Except.ok.inj h
      have hover : toMs < p.testTo fromMs index := by simpa [FoldParams.fold] using hincomplete
      exact ⟨.incomplete (not_le.1 hend) hover, Nat.succ_le_succ (Nat.zero_le _)⟩
    · have hfits : p.testTo fromMs index ≤ toMs := by simpa [FoldParams.fold] using hincomplete
      cases hrest : foldsFrom p fromMs toMs (index + 1) room with
      | error e =>
        rw [hrest] at h
        cases h
      | ok rest =>
        rw [hrest] at h
        obtain rfl := Except.ok.inj h
        obtain ⟨hpiece, hlen⟩ := ih hrest
        exact ⟨.cons (not_le.1 hend) hfits hpiece, Nat.succ_le_succ hlen⟩

end Loop

/-! ## The tiling -/

/-- The folds tile the period `[fromMs, toMs[`. -/
structure Tiles (p : FoldParams) (fromMs toMs : Int) (folds : List FoldWindow) : Prop where
  few : folds.length ≤ maxFolds
  numbered : folds.map (·.foldIndex) = List.range folds.length
  /-- Three windows in a row, of the lengths asked for. -/
  contiguous : ∀ f ∈ folds, f.validationFrom = f.trainTo ∧ f.testFrom = f.validationTo ∧
    f.trainTo = f.trainFrom + p.trainWindowDays * dayMs ∧
    f.validationTo = f.validationFrom + p.validationWindowDays * dayMs ∧
    f.testTo = f.testFrom + p.testWindowDays * dayMs
  /-- The folds start on the grid of the step. -/
  onGrid : ∀ f ∈ folds, f.trainFrom = fromMs + f.foldIndex * p.stepDays * dayMs
  disjoint : folds.Pairwise fun f g => f.testTo ≤ g.testFrom
  starts : ∀ f ∈ folds, fromMs ≤ f.testFrom ∧ f.testFrom < toMs
  lastOnly : ∀ f ∈ folds.dropLast, f.complete = true
  inside : ∀ f ∈ folds, f.complete = true ↔ fromMs ≤ f.trainFrom ∧ f.testTo ≤ toMs
  /-- No later fold on the grid fits. -/
  maximal : ∀ k, folds.length ≤ k → (p.fold fromMs toMs k).complete = false

section

variable {p : FoldParams} {fromMs toMs : Int} {folds : List FoldWindow}

theorem Piece.mem (h : Piece p fromMs toMs 0 folds) {f : FoldWindow} (hf : f ∈ folds) :
    ∃ k < folds.length, f = p.fold fromMs toMs k := by
  rw [h.grid, List.mem_map] at hf
  obtain ⟨k, hk, rfl⟩ := hf
  exact ⟨k, by simpa using (List.mem_range'_1.1 hk).2, rfl⟩

/-- **A piece of the grid from the first fold on tiles the period.** -/
theorem Piece.tiles (h : Piece p fromMs toMs 0 folds) (hfew : folds.length ≤ maxFolds)
    (hstep : p.testWindowDays ≤ p.stepDays) : Tiles p fromMs toMs folds where
  few := hfew
  numbered := by
    conv_lhs => rw [h.grid]
    rw [List.map_map, List.range_eq_range']
    exact List.map_id _
  contiguous f hf := by
    obtain ⟨k, -, rfl⟩ := h.mem hf
    exact ⟨rfl, rfl, rfl, rfl, rfl⟩
  onGrid f hf := by
    obtain ⟨k, -, rfl⟩ := h.mem hf
    rfl
  disjoint := by
    rw [h.grid, List.pairwise_map]
    refine List.Pairwise.imp ?_ List.pairwise_lt_range'
    exact fun hlt => testTo_le_validationTo hstep hlt
  starts f hf := by
    obtain ⟨k, hk, rfl⟩ := h.mem hf
    obtain ⟨h₀, h₁, h₂, -⟩ := fold_ordered p fromMs k
    exact ⟨h₀.trans (h₁.trans h₂).le, h.starts k (Nat.zero_le k) (by omega)⟩
  lastOnly f hf := by
    obtain ⟨k, hk, rfl⟩ := List.mem_iff_getElem.1 hf
    have hlt : k + 1 < folds.length := by
      rw [List.length_dropLast] at hk
      omega
    have hfold : folds[k] = p.fold fromMs toMs k := by
      rw [List.getElem_of_eq h.grid, List.getElem_map, List.getElem_range', Nat.one_mul, Nat.zero_add]
    rw [List.getElem_dropLast, hfold]
    exact decide_eq_true (h.full k (Nat.zero_le k) (by omega))
  inside f hf := by
    obtain ⟨k, -, rfl⟩ := h.mem hf
    obtain ⟨h₀, -⟩ := fold_ordered p fromMs k
    exact decide_eq_true_iff.trans (and_iff_right h₀).symm
  maximal k hk := decide_eq_false (not_le.2 (h.maximal k (by omega)))

end

/-- **`buildFolds` throws, or tiles the period.** -/
theorem buildFolds_tiles (p : FoldParams) :
    (∃ e, buildFolds p = .error e) ∨ ∃ fromMs toMs folds, p.rangeFrom = some fromMs ∧
      p.rangeTo = some toMs ∧ buildFolds p = .ok folds ∧ Tiles p fromMs toMs folds := by
  cases hbuilt : buildFolds p with
  | error e => exact .inl ⟨e, rfl⟩
  | ok folds =>
    refine .inr ?_
    rw [buildFolds] at hbuilt
    split at hbuilt
    case h_2 => cases hbuilt
    case h_1 fromMs toMs hfrom hto =>
      split_ifs at hbuilt with hrange hstep
      obtain ⟨hpiece, hfew⟩ := foldsFrom_spec hbuilt
      exact ⟨fromMs, toMs, folds, hfrom, hto, rfl, hpiece.tiles hfew (not_lt.1 hstep)⟩

end ApiScore
