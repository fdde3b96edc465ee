import ApiScore.Lib.Trace
import ApiScore.Recommendations.Coupons

/-!
# One coupon for each suggestion

`saveCoupons` inserts what it has not read.  Whatever another call inserts between its read and its
insertion is not seen, nor is a suggestion that is twice in its own list.  `save` inserts an entity it
does not find: a resolution writes back a coupon that the purge has deleted since it was read.

* `OneEach` — one coupon for a fixture, a team and a market, and none that has been purged.
* `couponsUndisturbed` — no insertion of a target that is twice in the list, or that another call has
  stored since the read; no save of a coupon that has been purged since the resolution read it.
* `one_coupon` — as long as that is so, every run keeps to one coupon for each suggestion.
* `coupon_twice` — two calls that both read before they insert.
-/

set_option autoImplicit false

namespace ApiScore

open Relational Concurrent
open CouponCall (send)
open Trace (since since_append)

/-! ## What the jobs preserve -/

structure OneEach (w : CouponBook) : Prop where
  once : ∀ r ∈ w.coupons, ∀ x ∈ w.coupons, r.target = x.target → r = x
  gone : ∀ r ∈ w.coupons, .purged r.id ∉ w.trace

/-- No insertion of a target that is twice in the list, or of which a coupon is there that has been
stored since the call read; no save of a coupon that has been purged since it was listed. -/
def couponsUndisturbed (i : CallId) (a : CouponAction)
    (_ : CouponInput × Option StatementFault) (w : CouponBook) : Bool :=
  match a with
  | .insert coupons => decide (coupons.map (·.target)).Nodup && w.coupons.rows.all fun r =>
      !((coupons.map (·.target)).contains r.target &&
        (since (.read i) w.trace).contains (.stored r.id))
  | .load id => !(since (.listed i) w.trace).contains (.purged id)
  | _ => true

/-- The same coupon, whatever its result. -/
def SameCoupon (r r' : SmartCoupon) : Prop := r.id = r'.id ∧ r.target = r'.target

/-- What a call relies on: what appears is noted as stored, what disappears as purged, and what it has
read itself stays the last it has read. -/
def CouponBeside (j : CallId) (w w' : CouponBook) : Prop :=
  ∃ newer, w'.trace = newer ++ w.trace ∧ (.read j ∉ newer ∧ .listed j ∉ newer) ∧
    (∀ r ∈ w.coupons, (∃ r' ∈ w'.coupons, SameCoupon r r') ∨ .purged r.id ∈ newer) ∧
    ∀ r' ∈ w'.coupons, (∃ r ∈ w.coupons, SameCoupon r r') ∨ .stored r'.id ∈ newer

theorem CouponBeside.refl (j : CallId) (w : CouponBook) : CouponBeside j w w :=
  ⟨[], rfl, ⟨List.not_mem_nil, List.not_mem_nil⟩, fun r hr => .inl ⟨r, hr, rfl, rfl⟩,
    fun r hr => .inl ⟨r, hr, rfl, rfl⟩⟩

theorem CouponBeside.trans {j : CallId} {w w' w'' : CouponBook} (h : CouponBeside j w w')
    (h' : CouponBeside j w' w'') : CouponBeside j w w'' := by
  obtain ⟨newer, htrace, ⟨hread, hlisted⟩, hstay, hnew⟩ := h
  obtain ⟨newer', htrace', ⟨hread', hlisted'⟩, hstay', hnew'⟩ := h'
  refine ⟨newer' ++ newer, ?_, ⟨?_, ?_⟩, fun r hr => ?_, fun r'' hr'' => ?_⟩
  · rw [htrace', htrace, List.append_assoc]
  · rw [List.mem_append, not_or]
    exact ⟨hread', hread⟩
  · rw [List.mem_append, not_or]
    exact ⟨hlisted', hlisted⟩
  · rcases hstay r hr with ⟨r', hr', hid, htarget⟩ | hpurged
    · rcases hstay' r' hr' with ⟨r'', hr'', hid', htarget'⟩ | hpurged
      · exact .inl ⟨r'', hr'', hid.trans hid', htarget.trans htarget'⟩
      · exact .inr (List.mem_append_left _ (hid ▸ hpurged))
    · exact .inr (List.mem_append_right _ hpurged)
  · rcases hnew' r'' hr'' with ⟨r', hr', hid', htarget'⟩ | hstored
    · rcases hnew r' hr' with ⟨r, hr, hid, htarget⟩ | hstored
      · exact .inl ⟨r, hr, hid.trans hid', htarget.trans htarget'⟩
      · exact .inr (List.mem_append_right _ (hid' ▸ hstored))
    · exact .inr (List.mem_append_left _ hstored)

/-- When a statement is sent. -/
def CouponReady (i : CallId) : CouponAction → CouponBook → Prop
  | .insert coupons, w => ∀ r ∈ w.coupons, ∀ c ∈ coupons, r.target = c.target →
      .stored r.id ∈ since (.read i) w.trace
  | .load id, w => (∃ r ∈ w.coupons, r.id = id) ∨ .purged id ∈ since (.listed i) w.trace
  | .insertEntity _, _ => False
  | _, _ => True

def couponing : Contract CouponAction CallId CouponBook where
  inv := OneEach
  pre := CouponReady
  guar i w w' := ∀ j, i ≠ j → CouponBeside j w w'
  rely := CouponBeside
  fresh _ _ := True
  refl := CouponBeside.refl
  trans _ _ _ _ h h' := h.trans h'

/-! ## What a statement does -/

section Statements

variable {i j : CallId} {w w' : CouponBook} {input : CouponInput}

theorem mem_couponRows {coupons : List NewCoupon} {uuid : Nat → String} {r : SmartCoupon}
    (h : r ∈ couponRows coupons uuid) : r.toNewCoupon ∈ coupons := by
  obtain ⟨⟨coupon, k⟩, hmem, rfl⟩ := List.mem_map.1 h
  exact List.fst_mem_of_mem_zipIdx hmem

theorem targets_couponRows (coupons : List NewCoupon) (uuid : Nat → String) :
    (couponRows coupons uuid).map (·.target) = coupons.map (·.target) := by
  rw [couponRows, List.map_map]
  conv_rhs => rw [← List.zipIdx_map_fst 0 coupons, List.map_map]
  rfl

theorem insert?_eq_some {rows : List SmartCoupon} (h : w.insert? rows = some w') :
    w'.coupons.rows = w.coupons.rows ++ rows ∧
      w'.trace = rows.map (fun r => .stored r.id) ++ w.trace := by
  obtain ⟨coupons, hcoupons, rfl⟩ := Option.map_eq_some_iff.1 h
  exact ⟨Table.ofRows?_eq_some hcoupons, rfl⟩

/-- An insertion is noted. -/
theorem insert?_beside {rows : List SmartCoupon} (h : w.insert? rows = some w') :
    CouponBeside j w w' := by
  obtain ⟨hrows, htrace⟩ := insert?_eq_some h
  have hnot {e : CouponEvent} (he : ∀ id, e ≠ .stored id) : e ∉ rows.map fun r => .stored r.id := by
    intro hmem
    obtain ⟨r, -, hr⟩ := List.mem_map.1 hmem
    exact he r.id hr.symm
  refine ⟨_, htrace, ⟨hnot fun _ => nofun, hnot fun _ => nofun⟩, fun r hr => ?_, fun r hr => ?_⟩
  · refine .inl ⟨r, ?_, rfl, rfl⟩
    rw [Table.mem_def, hrows]
    exact List.mem_append_left _ hr
  · rw [Table.mem_def, hrows] at hr
    rcases List.mem_append.1 hr with hr | hr
    · exact .inl ⟨r, hr, rfl, rfl⟩
    · exact .inr (List.mem_map.2 ⟨r, hr, rfl⟩)

/-- A note of a read leaves the coupons alone. -/
theorem note_beside {e : CouponEvent} (he : e ≠ .read j ∧ e ≠ .listed j) :
    CouponBeside j w (w.note [e]) :=
  ⟨[e], rfl, ⟨fun h => he.1 (List.mem_singleton.1 h).symm,
    fun h => he.2 (List.mem_singleton.1 h).symm⟩, fun r hr => .inl ⟨r, hr, rfl, rfl⟩,
    fun r hr => .inl ⟨r, hr, rfl, rfl⟩⟩

/-- An update changes no target. -/
theorem update_beside {p : SmartCoupon → Bool} {loaded coupon : SmartCoupon}
    {coupons : Table smartCouponSchema}
    (h : w.coupons.update? p (loaded.updated coupon) = some coupons) :
    CouponBeside j w { w with coupons } := by
  refine ⟨[], rfl, ⟨List.not_mem_nil, List.not_mem_nil⟩, fun r hr => .inl ?_, fun r' hr' => .inl ?_⟩
  · refine ⟨if p r then loaded.updated coupon r else r, (Table.mem_update? h).2 ⟨r, hr, rfl⟩, ?_⟩
    split_ifs
    · exact ⟨rfl, rfl⟩
    · exact ⟨rfl, rfl⟩
  · obtain ⟨r, hr, rfl⟩ := (Table.mem_update? h).1 hr'
    refine ⟨r, hr, ?_⟩
    split_ifs
    · exact ⟨rfl, rfl⟩
    · exact ⟨rfl, rfl⟩

/-- A deletion is noted. -/
theorem delete_beside {p : SmartCoupon → Bool} :
    CouponBeside j w ({ w with coupons := w.coupons.delete p }.note
      ((w.coupons.select p).map fun (c : SmartCoupon) => .purged c.id)) := by
  have hnot {e : CouponEvent} (he : ∀ id, e ≠ .purged id) :
      e ∉ (w.coupons.select p).map fun (c : SmartCoupon) => .purged c.id := by
    intro hmem
    obtain ⟨r, -, hr⟩ := List.mem_map.1 hmem
    exact he r.id hr.symm
  refine ⟨_, rfl, ⟨hnot fun _ => nofun, hnot fun _ => nofun⟩, fun r hr => ?_, fun r hr => .inl ?_⟩
  · cases hp : p r with
    | true => exact .inr (List.mem_map.2 ⟨r, Table.mem_select.2 ⟨hr, hp⟩, rfl⟩)
    | false => exact .inl ⟨r, Table.mem_delete.2 ⟨hr, hp⟩, rfl, rfl⟩
  · exact ⟨r, (Table.mem_delete.1 hr).1, rfl, rfl⟩

/-- The statements by which a call reads what it goes by. -/
def CouponAction.isRead : CouponAction → Bool
  | .couponsOf _ | .pending => true
  | _ => false

/-- **What a statement does is noted.** -/
theorem serve_beside {a : CouponAction} {x : a.Answer} (hij : i ≠ j ∨ a.isRead = false)
    (h : couponService.serve i a input w = some (x, w')) : CouponBeside j w w' := by
  cases a with
  | getAllSuggestions | deleteRecommendations | saveRecommendations | fixtures | load
  | staleFixtures =>
    obtain rfl : w = w' := congrArg Prod.snd (Option.some.inj h)
    exact .refl j w
  | couponsOf fixtureIds =>
    obtain rfl : w.note [.read i] = w' := congrArg Prod.snd (Option.some.inj h)
    have hne : i ≠ j := hij.resolve_right nofun
    exact note_beside ⟨fun he => hne (CouponEvent.read.inj he), nofun⟩
  | pending =>
    obtain rfl : w.note [.listed i] = w' := congrArg Prod.snd (Option.some.inj h)
    have hne : i ≠ j := hij.resolve_right nofun
    exact note_beside ⟨nofun, fun he => hne (CouponEvent.listed.inj he)⟩
  | insert coupons =>
    simp only [couponService, CouponBook.serve] at h
    split_ifs at h
    obtain ⟨w₁, hw₁, hpair⟩ := Option.map_eq_some_iff.1 h
    obtain rfl : w₁ = w' := (Prod.mk.inj hpair).2
    exact insert?_beside hw₁
  | insertEntity coupon =>
    obtain ⟨w₁, hw₁, hpair⟩ := Option.map_eq_some_iff.1 h
    obtain rfl : w₁ = w' := (Prod.mk.inj hpair).2
    exact insert?_beside hw₁
  | update loaded coupon =>
    obtain ⟨coupons, hcoupons, hpair⟩ := Option.map_eq_some_iff.1 h
    obtain rfl : { w with coupons } = w' := (Prod.mk.inj hpair).2
    exact update_beside hcoupons
  | deletePending fixtureIds =>
    obtain rfl := congrArg Prod.snd (Option.some.inj h)
    exact delete_beside

/-! ### The invariant -/

variable {rows : List SmartCoupon}

theorem OneEach.note {events : List CouponEvent} (h : OneEach w)
    (hevents : ∀ e ∈ events, ∀ id, e ≠ .purged id) : OneEach (w.note events) where
  once := h.once
  gone r hr hpurged := by
    rcases List.mem_append.1 hpurged with hnew | hold
    · exact hevents _ hnew r.id rfl
    · exact h.gone r hr hold

/-- An insertion of new targets under new ids. -/
theorem OneEach.insert (h : OneEach w) (hins : w.insert? rows = some w')
    (hnodup : (rows.map (·.target)).Nodup)
    (hnew : ∀ r ∈ w.coupons, ∀ c ∈ rows, r.target ≠ c.target)
    (hgone : ∀ r ∈ rows, .purged r.id ∉ w.trace) : OneEach w' := by
  obtain ⟨hrows, htrace⟩ := insert?_eq_some hins
  have hmem {r : SmartCoupon} : r ∈ w'.coupons ↔ r ∈ w.coupons ∨ r ∈ rows := by
    rw [Table.mem_def, hrows, List.mem_append, Table.mem_def]
  refine ⟨fun r hr x hx htarget => ?_, fun r hr hpurged => ?_⟩
  · rcases hmem.1 hr with hr | hr
    · rcases hmem.1 hx with hx | hx
      · exact h.once r hr x hx htarget
      · exact (hnew r hr x hx htarget).elim
    · rcases hmem.1 hx with hx | hx
      · exact (hnew x hx r hr htarget.symm).elim
      · exact List.inj_on_of_nodup_map hnodup hr hx htarget
  · rw [htrace] at hpurged
    rcases List.mem_append.1 hpurged with hstored | hpurged
    · obtain ⟨x, -, hx⟩ := List.mem_map.1 hstored
      cases hx
    · rcases hmem.1 hr with hr | hr
      · exact h.gone r hr hpurged
      · exact hgone r hr hpurged

/-- An update leaves each coupon with its target and its id. -/
theorem OneEach.update {p : SmartCoupon → Bool} {loaded coupon : SmartCoupon}
    {coupons : Table smartCouponSchema} (h : OneEach w)
    (hupdate : w.coupons.update? p (loaded.updated coupon) = some coupons) :
    OneEach { w with coupons } := by
  have hold {r' : SmartCoupon} (hr' : r' ∈ coupons) : ∃ r ∈ w.coupons, SameCoupon r r' ∧
      r' = if p r then loaded.updated coupon r else r := by
    obtain ⟨r, hr, rfl⟩ := (Table.mem_update? hupdate).1 hr'
    refine ⟨r, hr, ?_, rfl⟩
    split_ifs
    · exact ⟨rfl, rfl⟩
    · exact ⟨rfl, rfl⟩
  refine ⟨fun r' hr' x' hx' htarget => ?_, fun r' hr' hpurged => ?_⟩
  · obtain ⟨r, hr, ⟨-, hrt⟩, hreq⟩ := hold hr'
    obtain ⟨x, hx, ⟨-, hxt⟩, hxeq⟩ := hold hx'
    rw [hreq, hxeq, h.once r hr x hx (hrt.trans (htarget.trans hxt.symm))]
  · obtain ⟨r, hr, ⟨hid, -⟩, -⟩ := hold hr'
    exact h.gone r hr (hid ▸ hpurged)

/-- What is deleted has another id than what stays. -/
theorem OneEach.delete {p : SmartCoupon → Bool} (h : OneEach w) :
    OneEach ({ w with coupons := w.coupons.delete p }.note
      ((w.coupons.select p).map fun (c : SmartCoupon) => .purged c.id)) := by
  refine ⟨fun r hr x hx => h.once r (Table.mem_delete.1 hr).1 x (Table.mem_delete.1 hx).1,
    fun r hr hpurged => ?_⟩
  obtain ⟨hmem, hkeep⟩ := Table.mem_delete.1 hr
  rcases List.mem_append.1 hpurged with hnow | hbefore
  · obtain ⟨x, hx, hid⟩ := List.mem_map.1 hnow
    obtain ⟨hx, hp⟩ := Table.mem_select.1 hx
    have hsame : x = r := Table.eq_of_clash hx hmem (beq_iff_eq.2 (CouponEvent.purged.inj hid))
    rw [hsame, hkeep] at hp
    cases hp
  · exact h.gone r hmem hbefore

/-- **A statement that is not disturbed keeps to one coupon for each suggestion.** -/
theorem serve_oneEach {a : CouponAction} {x : a.Answer} {fault : Option StatementFault}
    (hinv : OneEach w) (hpre : CouponReady i a w)
    (hallow : couponsUndisturbed i a (input, fault) w = true)
    (h : couponService.serve i a input w = some (x, w')) : OneEach w' := by
  cases a with
  | getAllSuggestions | deleteRecommendations | saveRecommendations | fixtures | load
  | staleFixtures =>
    obtain rfl : w = w' := congrArg Prod.snd (Option.some.inj h)
    exact hinv
  | couponsOf fixtureIds =>
    obtain rfl : w.note [.read i] = w' := congrArg Prod.snd (Option.some.inj h)
    exact hinv.note fun e he id => by rw [List.mem_singleton.1 he]; nofun
  | pending =>
    obtain rfl : w.note [.listed i] = w' := congrArg Prod.snd (Option.some.inj h)
    exact hinv.note fun e he id => by rw [List.mem_singleton.1 he]; nofun
  | insert coupons =>
    simp only [couponService, CouponBook.serve] at h
    split_ifs at h with hids
    obtain ⟨w₁, hw₁, hpair⟩ := Option.map_eq_some_iff.1 h
    obtain rfl : w₁ = w' := (Prod.mk.inj hpair).2
    simp only [couponsUndisturbed, Bool.and_eq_true, decide_eq_true_eq, List.all_eq_true,
      Bool.not_eq_true', Bool.and_eq_false_iff, List.contains_eq_mem, decide_eq_false_iff_not]
      at hallow
    refine hinv.insert hw₁ ?_ (fun r hr c hc htarget => ?_) fun r hr hpurged => hids ?_
    · rw [targets_couponRows]
      exact hallow.1
    · have hcoupon := mem_couponRows hc
      have hstored := hpre r hr c.toNewCoupon hcoupon htarget
      rcases hallow.2 r hr with hno | hno
      · exact hno (List.mem_map.2 ⟨_, hcoupon, htarget.symm⟩)
      · exact hno hstored
    · exact List.any_eq_true.2 ⟨r, hr, List.contains_iff_mem.2 hpurged⟩
  | insertEntity coupon => exact hpre.elim
  | update loaded coupon =>
    obtain ⟨coupons, hcoupons, hpair⟩ := Option.map_eq_some_iff.1 h
    obtain rfl : { w with coupons } = w' := (Prod.mk.inj hpair).2
    exact hinv.update hcoupons
  | deletePending fixtureIds =>
    obtain rfl := congrArg Prod.snd (Option.some.inj h)
    exact hinv.delete

end Statements

/-! ## The jobs -/

/-- The jobs, as far as they are not disturbed. -/
abbrev undisturbedJobs : System CouponAction (Reply CouponAction.Answer) CallId CouponBook :=
  (couponService.machine couponsUndisturbed).system

section Jobs

variable {i : CallId} {w w' : CouponBook}

/-- A call has read these coupons of the fixtures: what is there besides has been stored since. -/
def CouponsKnown (i : CallId) (fixtureIds : List String) (existing : List SmartCoupon)
    (w : CouponBook) : Prop :=
  ∀ r ∈ w.coupons, r.fixtureId ∈ fixtureIds →
    couponKey r.target ∈ existing.map (fun c => couponKey c.target) ∨
      .stored r.id ∈ since (.read i) w.trace

theorem CouponsKnown.stable {fixtureIds : List String} {existing : List SmartCoupon}
    (h : CouponsKnown i fixtureIds existing w) (hb : CouponBeside i w w') :
    CouponsKnown i fixtureIds existing w' := by
  obtain ⟨newer, htrace, ⟨hread, -⟩, -, hnew⟩ := hb
  intro r' hr' hfixture
  rw [htrace, since_append hread]
  rcases hnew r' hr' with ⟨r, hr, hid, htarget⟩ | hstored
  · have hfixture' : r.fixtureId = r'.fixtureId := congrArg Prod.fst htarget
    refine (h r hr (hfixture' ▸ hfixture)).imp (fun hkey => htarget ▸ hkey) fun hstored => ?_
    exact List.mem_append_right _ (hid ▸ hstored)
  · exact .inr (List.mem_append_left _ hstored)

/-- A call has listed these coupons: one that is not there any more has been purged since. -/
def CouponsHeld (i : CallId) (coupons : List SmartCoupon) (w : CouponBook) : Prop :=
  ∀ c ∈ coupons, (∃ r ∈ w.coupons, r.id = c.id) ∨ .purged c.id ∈ since (.listed i) w.trace

theorem CouponsHeld.stable {coupons : List SmartCoupon} (h : CouponsHeld i coupons w)
    (hb : CouponBeside i w w') : CouponsHeld i coupons w' := by
  obtain ⟨newer, htrace, ⟨-, hlisted⟩, hstay, -⟩ := hb
  intro c hc
  rw [htrace, since_append hlisted]
  rcases h c hc with ⟨r, hr, hid⟩ | hpurged
  · rcases hstay r hr with ⟨r', hr', hid', -⟩ | hpurged
    · exact .inl ⟨r', hr', hid'.symm.trans hid⟩
    · exact .inr (List.mem_append_left _ (hid ▸ hpurged))
  · exact .inr (List.mem_append_right _ hpurged)

/-- What is inserted has not been read. -/
theorem CouponsKnown.ready {suggestions : List SmartSuggestion} {existing : List SmartCoupon}
    (h : CouponsKnown i (suggestions.map (·.fixtureId)).eraseDups existing w) :
    CouponReady i (.insert (toInsert existing suggestions)) w := by
  intro r hr c hc htarget
  obtain ⟨s, hs, rfl⟩ := List.mem_map.1 hc
  obtain ⟨hmem, hnew⟩ := List.mem_filter.1 hs
  simp only [Bool.not_eq_true', List.contains_eq_mem, decide_eq_false_iff_not] at hnew
  have hfixture : r.fixtureId = s.fixtureId := congrArg Prod.fst htarget
  refine (h r hr ?_).resolve_left fun hkey => hnew ?_
  · rw [List.mem_eraseDups, hfixture]
    exact List.mem_map.2 ⟨s, hmem, rfl⟩
  · have hsame : couponKey r.target = couponKey s.target := congrArg couponKey htarget
    exact hsame ▸ hkey

theorem saveCoupons_spec (suggestions : List SmartSuggestion) :
    Spec undisturbedJobs couponing i (fun _ _ => True) (saveCoupons suggestions) w := by
  rw [saveCoupons]
  split_ifs with hnone
  · exact Spec.pure fun _ _ _ => trivial
  refine Spec.stmt fun w₁ _ _ => ⟨trivial, fun input existing w₂ _ hserve _ _ => ?_⟩
  obtain ⟨rfl, rfl⟩ := Prod.mk.inj (Option.some.inj hserve)
  have hknown : CouponsKnown i (suggestions.map (·.fixtureId)).eraseDups
      (w₁.coupons.select fun c => (suggestions.map (·.fixtureId)).eraseDups.contains c.fixtureId)
      (w₁.note [.read i]) := fun r hr hfixture => .inl (List.mem_map.2
    ⟨r, Table.mem_select.2 ⟨hr, List.contains_iff_mem.2 hfixture⟩, rfl⟩)
  dsimp only
  split_ifs
  · exact Spec.pure fun _ _ _ => trivial
  · exact Spec.stmt_last fun w₃ hb _ => ⟨(hknown.stable hb).ready, fun _ _ _ _ _ _ _ _ _ _ => trivial⟩

/-- **A resolution saves what is still there.** -/
theorem saveCoupon_spec {coupon : SmartCoupon} (h : CouponsHeld i [coupon] w) :
    Spec undisturbedJobs couponing i (fun _ w' => CouponBeside i w w') (saveCoupon coupon) w := by
  rw [saveCoupon]
  refine Spec.stmt fun w₁ hb _ => ?_
  have hheld := h.stable hb coupon (List.mem_singleton_self _)
  refine ⟨hheld, fun input found w₂ hallow hserve _ _ => ?_⟩
  obtain ⟨rfl, rfl⟩ := Prod.mk.inj (Option.some.inj hserve)
  have hthere : ∃ r ∈ w₁.coupons, r.id = coupon.id := hheld.resolve_right fun hpurged => by
    simp only [couponsUndisturbed, Bool.not_eq_true', List.contains_eq_mem,
      decide_eq_false_iff_not] at hallow
    exact hallow hpurged
  have hfound : (w₁.coupons.find? (·.id == coupon.id)).isSome := by
    obtain ⟨r, hr, hid⟩ := hthere
    exact Table.find?_isSome_iff.2 ⟨r, hr, beq_iff_eq.2 hid⟩
  obtain ⟨loaded, hloaded⟩ := Option.isSome_iff_exists.1 hfound
  rw [hloaded]
  dsimp only
  split_ifs
  · exact Spec.pure fun w₃ hb₃ _ => hb.trans hb₃
  · refine Spec.stmt_last fun w₃ hb₃ _ => ⟨trivial, fun input₃ _ w₄ _ hserve₄ _ _ w₅ hb₅ _ => ?_⟩
    have hupdate : CouponBeside i w₃ w₄ := serve_beside (.inr rfl) hserve₄
    exact (hb.trans hb₃).trans (hupdate.trans hb₅)

theorem resolveEach_spec {fixtures : List Fixture} {now : Int} {coupons : List SmartCoupon}
    (hinv : OneEach w) (h : CouponsHeld i coupons w) :
    Spec undisturbedJobs couponing i (fun _ _ => True) (resolveEach fixtures now coupons) w := by
  induction coupons generalizing w with
  | nil => exact Spec.pure fun _ _ _ => trivial
  | cons coupon coupons ih =>
    have hrest : CouponsHeld i coupons w := fun c hc => h c (List.mem_cons_of_mem _ hc)
    rw [resolveEach]
    cases hresolved : resolveCoupon fixtures now coupon with
    | none => exact ih hinv hrest
    | some resolved =>
      have hid : resolved.id = coupon.id := by
        simp only [resolveCoupon, Option.bind_eq_bind, Option.bind_eq_some_iff, Option.pure_def,
          Option.some.injEq] at hresolved
        obtain ⟨-, -, -, -, rfl⟩ := hresolved
        rfl
      have hone : CouponsHeld i [resolved] w := by
        intro c hc
        rw [List.mem_singleton.1 hc, hid]
        exact h coupon List.mem_cons_self
      exact Spec.bind (saveCoupon_spec hone) hinv fun _ w₁ h₁ hb => ih h₁ (hrest.stable hb)

theorem resolveSettledCoupons_spec :
    Spec undisturbedJobs couponing i (fun _ _ => True) resolveSettledCoupons w := by
  rw [resolveSettledCoupons]
  refine Spec.stmt fun w₁ _ _ => ⟨trivial, fun input pending w₂ _ hserve hinv₂ _ => ?_⟩
  obtain ⟨rfl, rfl⟩ := Prod.mk.inj (Option.some.inj hserve)
  have hheld : CouponsHeld i (w₁.coupons.select (·.status == .pending)) (w₁.note [.listed i]) :=
    fun c hc => .inl ⟨c, (Table.mem_select.1 hc).1, rfl⟩
  split_ifs
  · exact Spec.pure fun _ _ _ => trivial
  refine Spec.stmt fun w₃ hb _ => ⟨trivial, fun input₃ found w₄ _ hserve₄ hinv₄ _ => ?_⟩
  have hread : CouponBeside i w₃ w₄ := serve_beside (.inr rfl) hserve₄
  exact resolveEach_spec hinv₄ ((hheld.stable hb).stable hread)

theorem evaluate_spec : Spec undisturbedJobs couponing i (fun _ _ => True) evaluate w := by
  rw [evaluate]
  refine Spec.stmt fun w₁ _ _ => ⟨trivial, fun input suggestions w₂ _ _ _ _ => ?_⟩
  split_ifs
  · refine Spec.stmt fun w₃ _ _ => ⟨trivial, fun _ _ w₄ _ _ _ _ => ?_⟩
    refine Spec.stmt fun w₅ _ _ => ⟨trivial, fun _ _ w₆ _ _ _ _ => ?_⟩
    exact saveCoupons_spec suggestions
  · exact saveCoupons_spec suggestions

theorem purge_spec :
    Spec undisturbedJobs couponing i (fun _ _ => True) purgeStaleBettingArtifacts w := by
  rw [purgeStaleBettingArtifacts]
  refine Spec.stmt fun w₁ _ _ => ⟨trivial, fun _ staleIds w₂ _ _ _ _ => ?_⟩
  split_ifs
  · exact Spec.pure fun _ _ _ => trivial
  refine Spec.stmt fun w₃ _ _ => ⟨trivial, fun _ _ w₄ _ _ _ _ => ?_⟩
  exact Spec.stmt_last fun w₅ _ _ => ⟨trivial, fun _ _ _ _ _ _ _ _ _ _ => trivial⟩

theorem CouponJob.safe (job : CouponJob) (hinv : OneEach w) :
    Safe undisturbedJobs couponing i (fun _ _ => True) (couponService.program job) w := by
  cases job with
  | evaluateAndSave =>
    exact StatementCall.start_safe
      (Spec.ensuring evaluate_spec hinv fun _ _ => resolveSettledCoupons_spec) hinv
  | resolveSettledCoupons => exact StatementCall.start_safe resolveSettledCoupons_spec hinv
  | purgeStaleBettingArtifacts => exact StatementCall.start_safe purge_spec hinv

end Jobs

theorem couponing_discipline : Discipline undisturbedJobs couponing where
  entry i p w hp hinv _ := by
    obtain ⟨job, rfl⟩ := hp
    exact job.safe hinv
  step i a b w w' hinv hpre hs := by
    obtain ⟨input, hallow, hserved⟩ := Service.step_cases hs
    rcases hserved.moved with rfl | ⟨x, hserve⟩
    · exact ⟨hinv, fun j _ => .refl j w'⟩
    · exact ⟨serve_oneEach hinv hpre hallow hserve, fun j hij => serve_beside (.inl hij) hserve⟩
  compatible i j w w' hij h := h j hij
  fresh _ _ _ _ h := h
  env w w' h hinv := by
    obtain ⟨fixtures, now, rfl⟩ := h
    exact ⟨⟨hinv.once, hinv.gone⟩, fun j => .refl j w⟩
  drop i w hinv := ⟨hinv, fun j _ => .refl j w⟩

/-- **One coupon for each suggestion**, and none that the purge has deleted, in every run in which no
insertion names a target twice or one of which another call has stored a coupon since the read, and no
resolution saves a coupon that has been purged since it was listed. -/
theorem one_coupon {w : CouponBook} (hw : OneEach w)
    {c : Config CouponAction (Reply CouponAction.Answer) CallId CouponBook}
    (h : Reachable (couponService.machine couponsUndisturbed).system (.init w) c) :
    (∀ r ∈ c.state.coupons, ∀ x ∈ c.state.coupons, r.target = x.target → r = x) ∧
      ∀ r ∈ c.state.coupons, .purged r.id ∉ c.state.trace := by
  have hinv : OneEach c.state := (couponing_discipline.reachable hw (fun _ => trivial) h).1
  exact ⟨hinv.once, hinv.gone⟩

namespace Sample

/-- A suggestion for the home team of the match. -/
def suggestion : SmartSuggestion := ⟨"f", some 1, "Buts match", true⟩

/-- No coupon yet, a match with a goal that has not been synced for a day. -/
def noCoupon : CouponBook where
  coupons := .empty
  fixtures := [{ liveFixture with scoreHome := some 1 }]
  now := 24 * 60 * 60 * 1000 + 1
  trace := []

/-- The next statement of a call, which is served; the ids drawn begin with `id`. -/
def sends (i : CallId) (id : String) :
    Pick CallId (CouponInput × Option StatementFault) CouponJob :=
  .act i (⟨[suggestion], fun k => id ++ toString k⟩, none)

/-- A call that goes as far as its insertion. -/
def inserting (i : CallId) (id : String) :
    List (Pick CallId (CouponInput × Option StatementFault) CouponJob) :=
  .start i .evaluateAndSave :: List.replicate 5 (sends i id)

/-- Two calls that both read before they insert. -/
def bothInsert : List (Pick CallId (CouponInput × Option StatementFault) CouponJob) :=
  (inserting 0 "a").dropLast ++ (inserting 1 "b").dropLast ++ [sends 0 "a", sends 1 "b"]

/-- A resolution that lists a coupon, the purge that deletes it, and the end of the resolution. -/
def writtenBack : List (Pick CallId (CouponInput × Option StatementFault) CouponJob) :=
  inserting 0 "a" ++ [sends 0 "a", sends 0 "a"] ++ .start 1 .purgeStaleBettingArtifacts ::
    List.replicate 3 (sends 1 "") ++ [sends 0 "", sends 0 ""]

end Sample

theorem oneEach_noCoupon : OneEach Sample.noCoupon :=
  ⟨fun _ h => (Table.not_mem_empty _ h).elim, fun _ h => (Table.not_mem_empty _ h).elim⟩

/-- A second call with the same suggestion inserts nothing. -/
theorem one_coupon_in_turn : ∃ c, (couponService.machine couponsUndisturbed).replay
      (Sample.inserting 0 "a" ++ Sample.inserting 1 "b") (.init Sample.noCoupon) = some c ∧
    c.state.coupons.rows.map (·.id) = ["a0"] ∧
    ∀ r ∈ c.state.coupons, ∀ x ∈ c.state.coupons, r.target = x.target → r = x := by
  have hreplay : ((couponService.machine couponsUndisturbed).replay
      (Sample.inserting 0 "a" ++ Sample.inserting 1 "b") (.init Sample.noCoupon)).map
        (fun c => c.state.coupons.rows.map (·.id)) = some ["a0"] := by
    decide +kernel
  obtain ⟨c, hc, hids⟩ := Option.map_eq_some_iff.1 hreplay
  exact ⟨c, hc, hids, (one_coupon oneEach_noCoupon (Machine.replay_reachable .init hc)).1⟩

/-- **Two calls that both read before they insert store two coupons of one suggestion, and a
resolution writes back a coupon that the purge has deleted.** -/
theorem coupon_twice :
    (¬ ∀ (w : CouponBook) c, OneEach w →
      Reachable (couponService.machine fun _ _ _ _ => true).system (.init w) c →
      ∀ r ∈ c.state.coupons, ∀ x ∈ c.state.coupons, r.target = x.target → r = x) ∧
    ¬ ∀ (w : CouponBook) c, OneEach w →
      Reachable (couponService.machine fun _ _ _ _ => true).system (.init w) c →
      ∀ r ∈ c.state.coupons, .purged r.id ∉ c.state.trace := by
  constructor
  · intro hall
    have hreplay : ((couponService.machine fun _ _ _ _ => true).replay Sample.bothInsert
        (.init Sample.noCoupon)).map (fun c => c.state.coupons.rows) =
          some (couponRows [Sample.suggestion.coupon] (fun _ => "a0") ++
            couponRows [Sample.suggestion.coupon] fun _ => "b0") := by
      decide +kernel
    obtain ⟨c, hc, hrows⟩ := Option.map_eq_some_iff.1 hreplay
    have hone := hall _ c oneEach_noCoupon (Machine.replay_reachable .init hc)
    simp only [Table.mem_def, hrows] at hone
    exact absurd (hone _ List.mem_cons_self _ (List.mem_cons_of_mem _ List.mem_cons_self) rfl)
      (by decide)
  · intro hall
    have hreplay : ((couponService.machine fun _ _ _ _ => true).replay Sample.writtenBack
        (.init Sample.noCoupon)).map (fun c => (c.state.coupons.rows.map (·.id), c.state.trace)) =
          some (["a0"], [.stored "a0", .purged "a0", .listed 0, .stored "a0", .read 0]) := by
      decide +kernel
    obtain ⟨c, hc, hstate⟩ := Option.map_eq_some_iff.1 hreplay
    obtain ⟨hids, htrace⟩ := Prod.mk.inj hstate
    have hmem : "a0" ∈ c.state.coupons.rows.map (·.id) := by
      rw [hids]
      exact List.mem_singleton_self _
    obtain ⟨r, hr, hid⟩ := List.mem_map.1 hmem
    refine hall _ c oneEach_noCoupon (Machine.replay_reachable .init hc) r hr ?_
    rw [hid, htrace]
    exact List.mem_cons_of_mem _ List.mem_cons_self

end ApiScore
