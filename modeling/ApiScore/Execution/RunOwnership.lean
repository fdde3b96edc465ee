import ApiScore.Execution.Replay
import ApiScore.Execution.RunOpening

/-!
# One owner for each reconciliation run

A run that two callers are told to have created is executed twice.  `open` never lets that happen.  A
batch takes for its own every run that has appeared since its first read, whoever inserted it: two
batches that both read before either of them inserts are both told to have created the same runs.

* `Opened` — what the calls preserve: each run has one inserter, and is reported to it alone.
* `single_owner` — as long as no call inserts a run that a batch between its two reads looks for,
  a run is reported to one caller and executed by one.
* `created_twice` — two batches that report, and execute, the same run.
-/

set_option autoImplicit false

namespace ApiScore

open Relational Concurrent
open OpeningCall (act served)

/-! ## What is inserted -/

/-- Would an insertion for this input go in? -/
def Database.opens (db : Database) (input : StartReconciliationInput) : Bool :=
  (db.account? input.accountId).isSome && decide (input.rangeFrom < input.rangeTo) &&
    !db.reconciliationRuns.rows.any fun r => r.idempotencyKey == storedKey input.key

theorem storedKey_eq {key : String} (hlength : key.length ≤ 128)
    (hascii : (key.toList.all fun c => c.toNat < 128) = true) : storedKey key = key := by
  have hmap : (key.toList.map fun c => if c.toNat < 128 then c else '?') = key.toList := by
    refine (List.map_congr_left fun c hc => ?_).trans (List.map_id _)
    rw [if_pos (by simpa using List.all_eq_true.1 hascii c hc), id]
  rw [storedKey, List.take_of_length_le (by rwa [String.length_toList]), hmap, String.ofList_toList]

/-- A run is stored under a key that fits its column. -/
theorem storedKey_of_run {db : Database} {r : ReconciliationRun}
    (h : r ∈ db.reconciliationRuns) : storedKey r.idempotencyKey = r.idempotencyKey := by
  have hcheck := db.reconciliationRuns.checked r h
  simp only [reconciliationRunSchema, Bool.and_eq_true, decide_eq_true_eq] at hcheck
  exact storedKey_eq hcheck.1.2 hcheck.2

theorem run_eq_of_key {db : Database} {r x : ReconciliationRun} (hr : r ∈ db.reconciliationRuns)
    (hx : x ∈ db.reconciliationRuns) (h : r.idempotencyKey = x.idempotencyKey) : r = x :=
  Table.eq_of_clash hr hx (by simp [reconciliationRunSchema, h])

theorem mem_insertRuns {db : Database} {rows : List ReconciliationRun} {r : ReconciliationRun} :
    r ∈ (db.insertRuns rows).1 ↔ r ∈ db.reconciliationRuns ∨ r ∈ (db.insertRuns rows).2 := by
  rw [Table.mem_def, Database.insertRuns, Table.rows_insertIgnore, List.mem_append, Table.mem_def]

theorem mem_insertionRows {inputs : List StartReconciliationInput} {uuid : Nat → String}
    {r : ReconciliationRun} (h : r ∈ insertionRows inputs uuid) :
    ∃ input ∈ inputs, ∃ id, r = input.row id := by
  obtain ⟨⟨input, k⟩, hmem, rfl⟩ := List.mem_map.1 h
  exact ⟨input, List.fst_mem_of_mem_zipIdx hmem, uuid k, rfl⟩

/-- **What goes in is new**: neither its id nor its key was there. -/
theorem insertRuns_new {db : Database} {inputs : List StartReconciliationInput}
    {uuid : Nat → String} {r : ReconciliationRun}
    (h : r ∈ (db.insertRuns (insertionRows inputs uuid)).2) :
    (∃ input ∈ inputs, r.idempotencyKey = storedKey input.key ∧ db.opens input = true) ∧
      ∀ x ∈ db.reconciliationRuns, x.id ≠ r.id := by
  obtain ⟨hmem, haccount⟩ := Table.mem_of_insertIgnore h
  obtain ⟨input, hinput, id, rfl⟩ := mem_insertionRows hmem
  have hclash : ∀ x ∈ db.reconciliationRuns, x.id ≠ (input.row id).id ∧
      x.idempotencyKey ≠ storedKey input.key := by
    intro x hx
    have hno := Table.clash_insertIgnore hx h
    simpa [reconciliationRunSchema, StartReconciliationInput.row] using hno
  have hcheck := (db.insertRuns (insertionRows inputs uuid)).1.checked _ (mem_insertRuns.2 (.inr h))
  simp only [reconciliationRunSchema, Bool.and_eq_true, decide_eq_true_eq] at hcheck
  refine ⟨⟨input, hinput, rfl, ?_⟩, fun x hx => (hclash x hx).1⟩
  rw [Database.opens, Bool.and_eq_true, Bool.and_eq_true, decide_eq_true_eq, Bool.not_eq_true',
    List.any_eq_false]
  exact ⟨⟨haccount, hcheck.1.1⟩, fun x hx => by simpa using (hclash x hx).2⟩

/-! ## What the calls preserve -/

/-- Each run has one inserter, is reported to it alone, and is executed by whom it is reported
to. -/
structure Opened (s : Opening) : Prop where
  there : ∀ x ∈ s.inserted, ∃ r ∈ s.db.reconciliationRuns, r.id = x.2
  once : ∀ x ∈ s.inserted, ∀ y ∈ s.inserted, x.2 = y.2 → x.1 = y.1
  own : ∀ x ∈ s.reported, x ∈ s.inserted
  told : ∀ x ∈ s.executed, x ∈ s.reported

/-- What call `i` tolerates: runs stay under their ids and keys, and none appears that it looks
for. -/
structure Beside (i : CallId) (s s' : Opening) : Prop where
  stay : ∀ r ∈ s.db.reconciliationRuns, ∃ r' ∈ s'.db.reconciliationRuns,
    r'.id = r.id ∧ r'.idempotencyKey = r.idempotencyKey
  watching : ∀ keys, (i, keys) ∈ s.watching → (i, keys) ∈ s'.watching
  quiet : ∀ keys, (i, keys) ∈ s.watching → ∀ r' ∈ s'.db.reconciliationRuns,
    r'.idempotencyKey ∈ keys → ∃ r ∈ s.db.reconciliationRuns,
      r.id = r'.id ∧ r.idempotencyKey = r'.idempotencyKey
  inserted : ∀ x ∈ s.inserted, x ∈ s'.inserted
  reported : ∀ x ∈ s.reported, x ∈ s'.reported

theorem Beside.refl (i : CallId) (s : Opening) : Beside i s s where
  stay r hr := ⟨r, hr, rfl, rfl⟩
  watching _ h := h
  quiet _ _ r hr _ := ⟨r, hr, rfl, rfl⟩
  inserted _ h := h
  reported _ h := h

theorem Beside.trans {i : CallId} {s s' s'' : Opening} (h : Beside i s s') (h' : Beside i s' s'') :
    Beside i s s'' where
  stay r hr := by
    obtain ⟨r', hr', hid, hkey⟩ := h.stay r hr
    obtain ⟨r'', hr'', hid', hkey'⟩ := h'.stay r' hr'
    exact ⟨r'', hr'', hid'.trans hid, hkey'.trans hkey⟩
  watching keys hw := h'.watching keys (h.watching keys hw)
  quiet keys hw r'' hr'' hkey := by
    obtain ⟨r', hr', hid, hkey'⟩ := h'.quiet keys (h.watching keys hw) r'' hr'' hkey
    obtain ⟨r, hr, hid', hkey''⟩ := h.quiet keys hw r' hr' (hkey' ▸ hkey)
    exact ⟨r, hr, hid'.trans hid, hkey''.trans hkey'⟩
  inserted x hx := h'.inserted x (h.inserted x hx)
  reported x hx := h'.reported x (h.reported x hx)

/-- A call that only reads, reports or executes disturbs no other. -/
theorem Beside.of_same {i : CallId} {s s' : Opening}
    (hruns : s'.db.reconciliationRuns = s.db.reconciliationRuns)
    (hw : ∀ keys, (i, keys) ∈ s.watching → (i, keys) ∈ s'.watching)
    (hinserted : s'.inserted = s.inserted) (hreported : ∀ x ∈ s.reported, x ∈ s'.reported) :
    Beside i s s' where
  stay r hr := ⟨r, hruns ▸ hr, rfl, rfl⟩
  watching := hw
  quiet _ _ r hr _ := ⟨r, hruns ▸ hr, rfl, rfl⟩
  inserted _ h := hinserted ▸ h
  reported := hreported

theorem leave_beside {i j : CallId} (hij : i ≠ j) (s : Opening) : Beside j s (s.leave i) :=
  .of_same rfl (fun keys hw => List.mem_filter.2 ⟨hw, by simpa using Ne.symm hij⟩) rfl
    fun _ h => h

/-- No batch between its two reads looks for a run that this insertion creates. -/
def undisturbed (i : CallId) : OpeningAction → Opening → Bool
  | .insert inputs, s =>
    s.watching.all fun w => w.1 == i ||
      inputs.all fun input => !(s.db.opens input && w.2.contains (storedKey input.key))
  | _, _ => true

theorem undisturbed_insert {i j : CallId} {inputs : List StartReconciliationInput} {s : Opening}
    (h : undisturbed i (.insert inputs) s = true) {keys : List String}
    (hw : (j, keys) ∈ s.watching) (hij : i ≠ j) {input : StartReconciliationInput}
    (hinput : input ∈ inputs) (hopens : s.db.opens input = true) : storedKey input.key ∉ keys := by
  simp only [undisturbed, List.all_eq_true, Bool.or_eq_true, beq_iff_eq] at h
  have hall := (h (j, keys) hw).resolve_left (Ne.symm hij) input hinput
  simpa [hopens] using hall

/-- An insertion leaves the runs that are there, and creates none that another call looks for. -/
theorem insertedBy_beside {i j : CallId} (hij : i ≠ j) {inputs : List StartReconciliationInput}
    {s : Opening} (h : undisturbed i (.insert inputs) s = true) (uuid : Nat → String) :
    Beside j s (s.insertedBy i (s.db.insertRuns (insertionRows inputs uuid))) where
  stay r hr := ⟨r, mem_insertRuns.2 (.inl hr), rfl, rfl⟩
  watching _ hw := hw
  quiet keys hw r hr hkey := by
    rcases mem_insertRuns.1 hr with hr | hr
    · exact ⟨r, hr, rfl, rfl⟩
    · obtain ⟨⟨input, hinput, hstored, hopens⟩, -⟩ := insertRuns_new hr
      exact (undisturbed_insert h hw hij hinput hopens (hstored ▸ hkey)).elim
  inserted _ hx := List.mem_append_right _ hx
  reported _ hx := hx

theorem Opened.leave {i : CallId} {s : Opening} (h : Opened s) : Opened (s.leave i) :=
  ⟨h.there, h.once, h.own, h.told⟩

theorem Opened.insertedBy {i : CallId} {inputs : List StartReconciliationInput} {s : Opening}
    (h : Opened s) (uuid : Nat → String) :
    Opened (s.insertedBy i (s.db.insertRuns (insertionRows inputs uuid))) := by
  have hnew : ∀ x ∈ (s.db.insertRuns (insertionRows inputs uuid)).2.map fun run => (i, run.id),
      x.1 = i ∧ ∀ y ∈ s.inserted, y.2 ≠ x.2 := by
    intro x hx
    obtain ⟨run, hrun, rfl⟩ := List.mem_map.1 hx
    refine ⟨rfl, fun y hy => ?_⟩
    obtain ⟨r, hr, hid⟩ := h.there y hy
    exact hid ▸ (insertRuns_new hrun).2 r hr
  refine ⟨fun x hx => ?_, fun x hx y hy hxy => ?_, fun x hx => ?_, h.told⟩
  · rcases List.mem_append.1 hx with hx | hx
    · obtain ⟨run, hrun, rfl⟩ := List.mem_map.1 hx
      exact ⟨run, mem_insertRuns.2 (.inr hrun), rfl⟩
    · obtain ⟨r, hr, hid⟩ := h.there x hx
      exact ⟨r, mem_insertRuns.2 (.inl hr), hid⟩
  · rcases List.mem_append.1 hx with hx | hx <;> rcases List.mem_append.1 hy with hy | hy
    · rw [(hnew x hx).1, (hnew y hy).1]
    · exact ((hnew x hx).2 y hy hxy.symm).elim
    · exact ((hnew y hy).2 x hx hxy).elim
    · exact h.once x hx y hy hxy
  · exact List.mem_append_right _ (h.own x hx)

/-! ## The contract -/

/-- A caller is told only of runs it has inserted, and executes only those it was told of. -/
def Entitled (i : CallId) : OpeningAction → Opening → Prop
  | .report ids, s => ∀ id ∈ ids, (i, id) ∈ s.inserted
  | .execute id, s => (i, id) ∈ s.reported
  | _, _ => True

def ownership : Contract OpeningAction CallId Opening where
  inv := Opened
  pre := Entitled
  guar i s s' := ∀ j, i ≠ j → Beside j s s'
  rely := Beside
  fresh _ _ := True
  refl := Beside.refl
  trans _ _ _ _ := Beside.trans

/-- **One action** keeps each run to its owner, and the other calls undisturbed. -/
theorem exec_owned {i : CallId} {a : OpeningAction} {input : OpeningInput} {s : Opening}
    (hinv : Opened s) (hpre : Entitled i a s) (ha : undisturbed i a s = true) :
    Opened (s.exec i a input).2 ∧ ∀ j, i ≠ j → Beside j s (s.exec i a input).2 := by
  obtain ⟨uuid, fault⟩ := input
  cases a with
  | accounts ids => cases fault <;> exact ⟨hinv, fun j _ => .refl j s⟩
  | existing keys =>
    cases fault with
    | some f => exact ⟨hinv, fun j _ => .refl j s⟩
    | none =>
      exact ⟨⟨hinv.there, hinv.once, hinv.own, hinv.told⟩, fun j _ =>
        .of_same rfl (fun _ hw => List.mem_cons_of_mem _ hw) rfl fun _ hx => hx⟩
  | insert inputs =>
    have hinserted := @Opened.insertedBy i inputs _ hinv uuid
    have hbeside := fun j (hij : i ≠ j) => insertedBy_beside hij ha uuid
    match fault with
    | some (.rolledBack e) => exact ⟨hinv.leave, fun j hij => leave_beside hij s⟩
    | some (.unacknowledged e) =>
      exact ⟨hinserted.leave, fun j hij => (hbeside j hij).trans (leave_beside hij _)⟩
    | none => exact ⟨hinserted, hbeside⟩
  | runs keys => cases fault <;> exact ⟨hinv.leave, fun j hij => leave_beside hij s⟩
  | report ids =>
    refine ⟨⟨hinv.there, hinv.once, fun x hx => ?_, fun x hx => ?_⟩, fun j _ =>
      .of_same rfl (fun _ hw => hw) rfl fun _ hx => List.mem_append_right _ hx⟩
    · rcases List.mem_append.1 hx with hx | hx
      · obtain ⟨id, hid, rfl⟩ := List.mem_map.1 hx
        exact hpre id hid
      · exact hinv.own x hx
    · exact List.mem_append_right _ (hinv.told x hx)
  | execute id =>
    refine ⟨⟨hinv.there, hinv.once, hinv.own, fun x hx => ?_⟩, fun j _ =>
      .of_same rfl (fun _ hw => hw) rfl fun _ hx => hx⟩
    rcases List.mem_cons.1 hx with rfl | hx
    · exact hpre
    · exact hinv.told x hx

/-- Tables of the same labels have a run for each run of the other. -/
theorem exists_label {t t' : Table reconciliationRunSchema}
    (h : t'.rows.map (·.label) = t.rows.map (·.label)) {r : ReconciliationRun} (hr : r ∈ t) :
    ∃ r' ∈ t', r'.id = r.id ∧ r'.idempotencyKey = r.idempotencyKey := by
  have hmem : r.label ∈ t'.rows.map (·.label) := h ▸ List.mem_map_of_mem hr
  obtain ⟨r', hr', heq⟩ := List.mem_map.1 hmem
  exact ⟨r', hr', (Prod.mk.inj heq).1, (Prod.mk.inj heq).2⟩

theorem Elsewhere.beside {s s' : Opening} (h : Elsewhere s s') (j : CallId) : Beside j s s' := by
  obtain ⟨db, hruns, rfl⟩ := h
  exact ⟨fun _ hr => exists_label hruns hr, fun _ hw => hw,
    fun _ _ _ hr' _ => exists_label hruns.symm hr', fun _ hx => hx, fun _ hx => hx⟩

theorem Elsewhere.opened {s s' : Opening} (h : Elsewhere s s') (hinv : Opened s) : Opened s' := by
  obtain ⟨db, hruns, rfl⟩ := h
  refine ⟨fun x hx => ?_, hinv.once, hinv.own, hinv.told⟩
  obtain ⟨r, hr, hid⟩ := hinv.there x hx
  obtain ⟨r', hr', hid', -⟩ := exists_label hruns hr
  exact ⟨r', hr', hid'.trans hid⟩

/-! ## The calls -/

/-- The calls among which no insertion disturbs a batch. -/
abbrev orderly : System OpeningAction OpeningAction.Result CallId Opening :=
  (openings undisturbed).system

/-- An action that can be performed did what `exec` says. -/
theorem orderly_step {i : CallId} {a : OpeningAction} {b : a.Result} {s s' : Opening}
    (h : orderly.step i a s b s') :
    undisturbed i a s = true ∧ ∃ input, s.exec i a input = (b, s') := by
  obtain ⟨input, hexec⟩ := h
  simp only [openings] at hexec
  split_ifs at hexec with ha
  exact ⟨ha, input, Option.some.inj hexec⟩

/-- The call ensures `Q` of what it returns. -/
abbrev Grants {α : Type} (i : CallId) (Q : α → Opening → Prop) (c : OpeningCall α)
    (s : Opening) : Prop :=
  Spec orderly ownership i Q c s

section Calls

variable {i : CallId} {s : Opening} {α β : Type} {Q : β → Opening → Prop}

theorem served_grants {x : Except ServiceError α} {f : α → OpeningCall β}
    (h : ∀ y, x = .ok y → Grants i Q (f y) s) : Grants i Q (served x >>= f) s := by
  cases x with
  | ok y => exact h y rfl
  | error e => exact Spec.throw

/-- An action that needs no entitlement, then what its answer calls for. -/
theorem act_grants {a : OpeningAction} {f : a.Result → OpeningCall β} (ha : ∀ s, Entitled i a s)
    (h : ∀ s₁, Beside i s s₁ → Opened s₁ → undisturbed i a s₁ = true → ∀ input,
      Opened (s₁.exec i a input).2 →
        Grants i Q (f (s₁.exec i a input).1) (s₁.exec i a input).2) :
    Grants i Q (act a >>= f) s := by
  refine Spec.act fun s₁ hr hi => ⟨ha s₁, fun b s₂ hs h₂ _ => ?_⟩
  obtain ⟨hu, input, hexec⟩ := orderly_step hs
  have hnext := h s₁ hr hi hu input
  rw [hexec] at hnext
  exact hnext h₂

/-- What a batch knows between its two reads: a run under one of its keys was there before, or is
its own. -/
def Known (i : CallId) (keys known : List String) (s : Opening) : Prop :=
  (i, keys) ∈ s.watching ∧ ∀ r ∈ s.db.reconciliationRuns, r.idempotencyKey ∈ keys →
    r.idempotencyKey ∈ known ∨ (i, r.id) ∈ s.inserted

theorem Known.stable {keys known : List String} {s' : Opening} (h : Known i keys known s)
    (hb : Beside i s s') : Known i keys known s' := by
  refine ⟨hb.watching keys h.1, fun r' hr' hkey => ?_⟩
  obtain ⟨r, hr, hid, hrkey⟩ := hb.quiet keys h.1 r' hr' hkey
  have hold := h.2 r hr (hrkey ▸ hkey)
  rw [hid, hrkey] at hold
  exact hold.imp_right (hb.inserted _)

/-- The ids are of runs that call `i` has inserted. -/
def Its (i : CallId) (ids : List String) (s : Opening) : Prop := ∀ id ∈ ids, (i, id) ∈ s.inserted

theorem Its.stable {ids : List String} {s' : Opening} (h : Its i ids s) (hb : Beside i s s') :
    Its i ids s' := fun id hid => hb.inserted _ (h id hid)

theorem mem_runsByKeys {db : Database} {keys : List String} {r : ReconciliationRun} :
    r ∈ db.runsByKeys keys ↔ r ∈ db.reconciliationRuns ∧ r.idempotencyKey ∈ keys := by
  rw [Database.runsByKeys, Table.mem_select, List.contains_iff_mem]

theorem known_existing {keys : List String} {input : OpeningInput}
    {existing : List ReconciliationRun} (h : (s.exec i (.existing keys) input).1 = .ok existing) :
    Known i keys (existing.map (·.idempotencyKey)) (s.exec i (.existing keys) input).2 := by
  obtain ⟨uuid, fault⟩ := input
  cases fault with
  | some f => cases h
  | none =>
    obtain rfl : s.db.runsByKeys keys = existing := Except.ok.inj h
    refine ⟨List.mem_cons_self, fun r hr hkey => .inl ?_⟩
    exact List.mem_map_of_mem (mem_runsByKeys.2 ⟨hr, hkey⟩)

/-- An insertion of its own leaves a batch with what it knows. -/
theorem Known.insert {keys known : List String} {inputs : List StartReconciliationInput}
    {input : OpeningInput} {n : Nat} (hk : Known i keys known s)
    (h : (s.exec i (.insert inputs) input).1 = .ok n) :
    Known i keys known (s.exec i (.insert inputs) input).2 := by
  obtain ⟨uuid, fault⟩ := input
  match fault with
  | some (.rolledBack e) | some (.unacknowledged e) => cases h
  | none =>
    refine ⟨hk.1, fun r hr hkey => ?_⟩
    rcases mem_insertRuns.1 hr with hr | hr
    · exact (hk.2 r hr hkey).imp_right (List.mem_append_right _)
    · exact .inr (List.mem_append_left _ (List.mem_map.2 ⟨r, hr, rfl⟩))

/-- What a batch has not read before is its own. -/
theorem Known.created {keys known : List String} {input : OpeningInput}
    {runs : List ReconciliationRun} (hk : Known i keys known s)
    (h : (s.exec i (.runs keys) input).1 = .ok runs) :
    Its i ((runs.filter fun run => !known.contains run.idempotencyKey).map (·.id))
      (s.exec i (.runs keys) input).2 := by
  obtain ⟨uuid, fault⟩ := input
  cases fault with
  | some f => cases h
  | none =>
    obtain rfl : s.db.runsByKeys keys = runs := Except.ok.inj h
    intro id hid
    obtain ⟨r, hr, rfl⟩ := List.mem_map.1 hid
    obtain ⟨hmem, hnew⟩ := List.mem_filter.1 hr
    obtain ⟨hr, hkey⟩ := mem_runsByKeys.1 hmem
    exact (hk.2 r hr hkey).resolve_left (by simpa using hnew)

/-- There is a run under this key, and call `i` has inserted it. -/
def Owns (i : CallId) (key : String) (s : Opening) : Prop :=
  ∃ r ∈ s.db.reconciliationRuns, r.idempotencyKey = key ∧ (i, r.id) ∈ s.inserted

theorem Owns.stable {key : String} {s' : Opening} (h : Owns i key s) (hb : Beside i s s') :
    Owns i key s' := by
  obtain ⟨r, hr, hkey, hown⟩ := h
  obtain ⟨r', hr', hid, hkey'⟩ := hb.stay r hr
  exact ⟨r', hr', hkey'.trans hkey, hid ▸ hb.inserted _ hown⟩

/-- A single row went in: it is there, under the key as it is stored. -/
theorem owns_insert {input : StartReconciliationInput} {draws : OpeningInput} {n : Nat}
    (h : (s.exec i (.insert [input]) draws).1 = .ok n) (hn : (n == 1) = true) :
    Owns i (storedKey input.key) (s.exec i (.insert [input]) draws).2 := by
  obtain ⟨uuid, fault⟩ := draws
  match fault with
  | some (.rolledBack e) | some (.unacknowledged e) => cases h
  | none =>
    obtain rfl : (s.db.insertRuns (insertionRows [input] uuid)).2.length = n := Except.ok.inj h
    obtain ⟨r, hr⟩ := List.length_eq_one_iff.1 (beq_iff_eq.1 hn)
    have hmem : r ∈ (s.db.insertRuns (insertionRows [input] uuid)).2 := by
      rw [hr]
      exact List.mem_singleton_self r
    obtain ⟨⟨x, hx, hkey, -⟩, -⟩ := insertRuns_new hmem
    rw [List.mem_singleton.1 hx] at hkey
    exact ⟨r, mem_insertRuns.2 (.inr hmem), hkey,
      List.mem_append_left _ (List.mem_map.2 ⟨r, hmem, rfl⟩)⟩

/-- The run that is read under the key is the one that went in. -/
theorem Owns.run {key : String} {draws : OpeningInput} {run : ReconciliationRun}
    {runs : List ReconciliationRun} (ho : Owns i (storedKey key) s)
    (h : (s.exec i (.runs [key]) draws).1 = .ok (run :: runs)) :
    (i, run.id) ∈ (s.exec i (.runs [key]) draws).2.inserted := by
  obtain ⟨uuid, fault⟩ := draws
  cases fault with
  | some f => cases h
  | none =>
    have hread : s.db.runsByKeys [key] = run :: runs := Except.ok.inj h
    have hmem : run ∈ s.db.runsByKeys [key] := by
      rw [hread]
      exact List.mem_cons_self
    obtain ⟨hrun, hkey⟩ := mem_runsByKeys.1 hmem
    obtain ⟨r, hr, hrkey, hown⟩ := ho
    rw [← List.mem_singleton.1 hkey, storedKey_of_run hrun] at hrkey
    rw [run_eq_of_key hrun hr hrkey.symm]
    exact hown

theorem done_grants {x : β} (h : ∀ s₁, Beside i s s₁ → Q x s₁) :
    Grants i Q (pure x : OpeningCall β) s := Spec.pure fun s₁ hb _ => h s₁ hb

/-- **`open` claims a run only when it has inserted it.** -/
theorem openRun_grants {input : StartReconciliationInput} :
    Grants i (fun r s => r.2 = true → (i, r.1.id) ∈ s.inserted) (openRun input) s := by
  rw [openRun]
  refine act_grants (fun _ => trivial) fun s₁ _ _ _ _ _ => served_grants fun found _ => ?_
  split_ifs with hfound
  · refine act_grants (fun _ => trivial) fun s₂ _ _ _ draws₂ _ => served_grants fun n hn => ?_
    refine act_grants (fun _ => trivial) fun s₃ hb₃ _ _ draws₃ _ => served_grants fun runs hruns => ?_
    cases runs with
    | nil => exact Spec.throw
    | cons run runs =>
      refine done_grants fun s₄ hb₄ hone => hb₄.inserted _ ?_
      exact ((owns_insert hn hone).stable hb₃).run hruns
  · exact Spec.throw

/-- **A batch that is not disturbed claims only what it has inserted.** -/
theorem openBatch_grants {inputs : List StartReconciliationInput} :
    Grants i (fun r => Its i r.2) (openBatch inputs) s := by
  rw [openBatch]
  split_ifs with hne
  · exact done_grants fun _ _ _ hid => by cases hid
  refine act_grants (fun _ => trivial) fun s₁ _ _ _ _ _ => served_grants fun found _ => ?_
  split
  · exact Spec.throw
  refine act_grants (fun _ => trivial) fun s₂ _ _ _ input₂ _ =>
    served_grants fun existing hexisting => ?_
  have hknown := known_existing hexisting
  refine act_grants (fun _ => trivial) fun s₃ hb₃ _ _ _ _ => served_grants fun _ hins => ?_
  have hknown₃ := (hknown.stable hb₃).insert hins
  refine act_grants (fun _ => trivial) fun s₄ hb₄ _ _ _ _ => served_grants fun runs hruns => ?_
  exact done_grants fun s₅ hb₅ => ((hknown₃.stable hb₄).created hruns).stable hb₅

/-- The caller is told of what it has inserted. -/
theorem report_grants {ids : List String} {f : Unit → OpeningCall β} (hids : Its i ids s)
    (h : ∀ s₁, (∀ id ∈ ids, (i, id) ∈ s₁.reported) → Opened s₁ → Grants i Q (f ()) s₁) :
    Grants i Q (act (.report ids) >>= f) s := by
  refine Spec.act fun s₁ hb _ => ⟨hids.stable hb, fun b s₂ hs h₂ _ => ?_⟩
  obtain ⟨-, input, hexec⟩ := orderly_step hs
  obtain rfl : (s₁.exec i (.report ids) input).2 = s₂ := congrArg Prod.snd hexec
  exact h _ (fun id hid => List.mem_append_left _ (List.mem_map.2 ⟨id, hid, rfl⟩)) h₂

/-- It executes what it was told of. -/
theorem execute_grants {id : String} {f : Unit → OpeningCall β} (hid : (i, id) ∈ s.reported)
    (h : ∀ s₁, (∀ x ∈ s.reported, x ∈ s₁.reported) → Grants i Q (f ()) s₁) :
    Grants i Q (act (.execute id) >>= f) s := by
  refine Spec.act fun s₁ hb _ => ⟨hb.reported _ hid, fun b s₂ hs _ _ => ?_⟩
  obtain ⟨-, input, hexec⟩ := orderly_step hs
  obtain rfl : (s₁.exec i (.execute id) input).2 = s₂ := congrArg Prod.snd hexec
  exact h _ hb.reported

theorem openAndReport_grants {input : StartReconciliationInput} (hinv : Opened s) :
    Grants i (fun r s => r.2 = true → (i, r.1.id) ∈ s.reported) (openAndReport input) s := by
  refine Spec.bind openRun_grants hinv fun r s₁ hinv₁ hown => ?_
  refine report_grants (fun id hid => ?_) fun s₂ htold _ => done_grants fun s₃ hb₃ hc => ?_
  · split_ifs at hid with hc
    · rw [List.mem_singleton.1 hid]
      exact hown hc
    · cases hid
  · exact hb₃.reported _ (htold r.1.id (by rw [if_pos hc]; exact List.mem_singleton_self _))

theorem startRun_grants {input : StartReconciliationInput} (hinv : Opened s) :
    Grants i (fun _ _ => True) (startRun input) s := by
  refine Spec.bind (openAndReport_grants hinv) hinv fun r s₁ _ htold => ?_
  by_cases hc : r.2 = true
  · simp only [hc, if_true]
    exact execute_grants (f := pure) (htold hc) fun _ _ => done_grants fun _ _ => trivial
  · simp only [hc, Bool.false_eq_true, if_false]
    exact done_grants fun _ _ => trivial

theorem executeBatch_grants {ids : List String} (hids : ∀ id ∈ ids, (i, id) ∈ s.reported) :
    Grants i (fun _ _ => True) (executeBatch ids) s := by
  induction ids generalizing s with
  | nil => exact done_grants fun _ _ => trivial
  | cons id ids ih =>
    refine execute_grants (hids id List.mem_cons_self) fun s₁ hstay => ih fun x hx => ?_
    exact hstay _ (hids x (List.mem_cons_of_mem id hx))

theorem runBatch_grants {inputs : List StartReconciliationInput} (hinv : Opened s) :
    Grants i (fun _ _ => True) (runBatch inputs) s := by
  refine Spec.bind openBatch_grants hinv fun r s₁ _ hown => ?_
  refine report_grants hown fun s₂ htold _ => executeBatch_grants fun id hid => ?_
  exact htold id (List.mem_eraseDups.1 hid)

theorem OpeningEntry.safe (e : OpeningEntry) (hinv : Opened s) :
    Safe orderly ownership i (fun _ _ => True) e.program s := by
  cases e with
  | openRun input =>
    exact Safe.bind (openAndReport_grants hinv) hinv fun _ _ _ _ => Safe.ret fun _ _ _ => trivial
  | start input =>
    exact Safe.bind (startRun_grants hinv) hinv fun _ _ _ _ => Safe.ret fun _ _ _ => trivial
  | openBatch inputs =>
    exact Safe.bind (runBatch_grants hinv) hinv fun _ _ _ _ => Safe.ret fun _ _ _ => trivial

end Calls

theorem ownership_discipline : Discipline orderly ownership where
  entry i p s hp hinv _ := by
    obtain ⟨e, rfl⟩ := hp
    exact e.safe hinv
  step i a b s s' hinv hpre hs := by
    obtain ⟨ha, input, hexec⟩ := orderly_step hs
    obtain rfl : (s.exec i a input).2 = s' := congrArg Prod.snd hexec
    exact exec_owned hinv hpre ha
  compatible i j s s' hij h := h j hij
  fresh _ _ _ _ h := h
  env s s' h hinv := ⟨h.opened hinv, h.beside⟩
  drop i s hinv := ⟨hinv.leave, fun j hij => leave_beside hij s⟩

theorem opened_init (db : Database) : Opened (.init db) :=
  ⟨fun _ h => (List.not_mem_nil h).elim, fun _ h => (List.not_mem_nil h).elim,
    fun _ h => (List.not_mem_nil h).elim, fun _ h => (List.not_mem_nil h).elim⟩

/-- **A run is reported as created to one caller, and executed by one**, in every interleaving in
which no call inserts a run that a batch between its two reads looks for. -/
theorem single_owner {db : Database} {c : Config OpeningAction OpeningAction.Result CallId Opening}
    (h : Reachable (openings undisturbed).system (.init (.init db)) c) (i j : CallId)
    (runId : String) :
    ((i, runId) ∈ c.state.reported → (j, runId) ∈ c.state.reported → i = j) ∧
      ((i, runId) ∈ c.state.executed → (j, runId) ∈ c.state.executed → i = j) := by
  have hinv : Opened c.state :=
    (ownership_discipline.reachable (opened_init db) (fun _ => trivial) h).1
  have hreported : (i, runId) ∈ c.state.reported → (j, runId) ∈ c.state.reported → i = j :=
    fun hi hj => hinv.once _ (hinv.own _ hi) _ (hinv.own _ hj) rfl
  exact ⟨hreported, fun hi hj => hreported (hinv.told _ hi) (hinv.told _ hj)⟩

namespace Sample

/-- The tables after the migrations, with an account. -/
def funded : Database :=
  { Database.migrated "control" with
    accounts := table _ [⟨"account", .known .sandbox, "book", "EUR", 10000, 0, 1⟩] }

/-- The tick of the scheduler in a slot, for the account. -/
def tick : List StartReconciliationInput := [⟨"account", 0, 1000, some "auto:account:0"⟩]

/-- The next action of a call, which draws this id. -/
def next (i : CallId) (id : String) : Pick CallId OpeningInput OpeningEntry :=
  .act i ⟨fun _ => id, none⟩

/-- All six actions of a batch. -/
def wholeBatch (i : CallId) (id : String) : List (Pick CallId OpeningInput OpeningEntry) :=
  .start i (.openBatch tick) :: List.replicate 6 (next i id)

/-- Two batches that both read before they insert. -/
def crossedBatches : List (Pick CallId OpeningInput OpeningEntry) :=
  [.start 0 (.openBatch tick), .start 1 (.openBatch tick), next 0 "", next 0 "", next 1 "",
    next 1 "", next 0 "run", next 1 "other", next 0 "", next 1 "", next 0 "", next 1 "", next 0 "",
    next 1 ""]

end Sample

/-- A batch after another one is told of nothing. -/
theorem single_owner_in_turn : ∃ c : Config OpeningAction OpeningAction.Result CallId Opening,
    (openings undisturbed).replay (Sample.wholeBatch 0 "run" ++ (Sample.wholeBatch 1 "other").take 6)
      (.init (.init Sample.funded)) = some c ∧
    (0, "run") ∈ c.state.executed ∧ ∀ j, (j, "run") ∈ c.state.executed → 0 = j := by
  have hreplay : ((openings undisturbed).replay
      (Sample.wholeBatch 0 "run" ++ (Sample.wholeBatch 1 "other").take 6)
      (.init (.init Sample.funded))).map (fun c => c.state.executed) = some [(0, "run")] := by
    decide +kernel
  obtain ⟨c, hc, hexecuted⟩ := Option.map_eq_some_iff.1 hreplay
  have hmem : (0, "run") ∈ c.state.executed := by
    rw [hexecuted]
    exact List.mem_singleton_self _
  exact ⟨c, hc, hmem, fun j =>
    (single_owner (Machine.replay_reachable .init hc) 0 j "run").2 hmem⟩

/-- **Two batches that both read before they insert are both told to have created the run**, and
both execute it. -/
theorem created_twice : ¬ ∀ (db : Database)
    (c : Config OpeningAction OpeningAction.Result CallId Opening),
    Reachable (openings fun _ _ _ => true).system (.init (.init db)) c →
      ∀ i j runId, ((i, runId) ∈ c.state.reported → (j, runId) ∈ c.state.reported → i = j) ∧
        ((i, runId) ∈ c.state.executed → (j, runId) ∈ c.state.executed → i = j) := by
  intro hall
  have hreplay : ((openings fun _ _ _ => true).replay Sample.crossedBatches
      (.init (.init Sample.funded))).map (fun c => (c.state.reported, c.state.executed)) =
        some ([(1, "run"), (0, "run")], [(1, "run"), (0, "run")]) := by
    decide +kernel
  obtain ⟨c, hc, hstate⟩ := Option.map_eq_some_iff.1 hreplay
  have hboth := (hall Sample.funded c (Machine.replay_reachable .init hc) 0 1 "run").1
    (by rw [(Prod.mk.inj hstate).1]; decide) (by rw [(Prod.mk.inj hstate).1]; decide)
  cases hboth

end ApiScore
