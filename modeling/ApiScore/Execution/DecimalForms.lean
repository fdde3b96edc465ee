import ApiScore.Execution.Money
import ApiScore.Lib.Double

/-!
# Amounts in doubles

`toCents` and `fromCents` compute in doubles, and refuse what leaves the safe integers.  Here they
are followed operation by operation, the digits being read as `DECIMAL_PATTERN` reads them; no
rounding happens below the range they refuse, so both are what they are over the integers.

* `DecimalForm` — the texts of the pattern, and the amount each writes.
* `floating_toCents`, `floating_fromCents` — the operations in doubles are exact.
* `money_texts` — what is accepted, the round trip, the canonical form and the order.
-/

set_option autoImplicit false

open Double

namespace ApiScore

/-! ## Operations on numbers -/

namespace JsNumber

/-- What the doubles are below. -/
def overflow : ℚ := 2 ^ 1024

/-- The number an operation gives: the double nearest to its exact result, and an infinity beyond
the largest of them. -/
def ofExact (q : ℚ) : JsNumber :=
  if overflow ≤ double q then .inf else if double q ≤ -overflow then .negInf else .num (double q)

/-- `x * k`, for a positive `k`. -/
def times (k : ℚ) : JsNumber → JsNumber
  | .num q => ofExact (q * k)
  | x => x

/-- `x + k`. -/
def plus (k : ℚ) : JsNumber → JsNumber
  | .num q => ofExact (q + k)
  | x => x

/-- A number beyond the safe integers, above them. -/
def Beyond (x : JsNumber) : Prop := x = .inf ∨ ∃ q, x = .num q ∧ 2 ^ 53 ≤ q

theorem safe_le_overflow : 2 ^ 53 ≤ overflow := pow_le_pow_right₀ (by norm_num) (by norm_num)

theorem ofExact_int {n : Int} (h : |n| < 2 ^ 53) : ofExact n = int n := by
  obtain ⟨hlow, hhigh⟩ := abs_lt.1 (show |(n : ℚ)| < 2 ^ 53 by exact_mod_cast h)
  have hlarge := safe_le_overflow
  rw [ofExact, double_int h, if_neg (by linarith), if_neg (by linarith), int]

theorem beyond_ofExact {q : ℚ} (h : 2 ^ 53 ≤ q) : Beyond (ofExact q) := by
  have hdouble : (2 : ℚ) ^ 53 ≤ double q := pow_le_double (e := 53) h
  have hlarge := safe_le_overflow
  rw [ofExact, if_neg (by linarith : ¬double q ≤ -overflow)]
  split_ifs
  · exact .inl rfl
  · exact .inr ⟨_, rfl, hdouble⟩

theorem Beyond.times {x : JsNumber} {k : ℚ} (hk : 1 ≤ k) (h : Beyond x) : Beyond (x.times k) := by
  obtain rfl | ⟨q, rfl, hq⟩ := h
  · exact .inl rfl
  · refine beyond_ofExact (hq.trans (le_mul_of_one_le_right ?_ hk))
    exact le_trans (by positivity) hq

theorem Beyond.plus {x : JsNumber} {k : ℚ} (hk : 0 ≤ k) (h : Beyond x) : Beyond (x.plus k) := by
  obtain rfl | ⟨q, rfl, hq⟩ := h
  · exact .inl rfl
  · exact beyond_ofExact (hq.trans (le_add_of_nonneg_right hk))

theorem Beyond.safeInteger? {x : JsNumber} (h : Beyond x) : x.safeInteger? = none := by
  obtain rfl | ⟨q, rfl, hq⟩ := h
  · rfl
  · rw [JsNumber.safeInteger?, if_neg]
    rintro ⟨hden, hnum⟩
    have hq' : ((q.num : Int) : ℚ) = q := Rat.coe_int_num_of_den_eq_one hden
    rw [← hq'] at hq
    have hlow : (2 : Int) ^ 53 ≤ q.num := by exact_mod_cast hq
    rw [maxSafeInteger, abs_le] at hnum
    omega

end JsNumber

/-! ## The functions, in doubles -/

/-- `DECIMAL_PATTERN` after its sign: the units and the fraction of a match. -/
def unsignedPattern (cs : List Char) : Option (List Char × List Char) :=
  let units := cs.takeWhile Char.isDigit
  if units = [] then none
  else
    match cs.dropWhile Char.isDigit with
    | [] => some (units, [])
    | '.' :: fraction =>
      if fraction.all Char.isDigit && 1 ≤ fraction.length && fraction.length ≤ 2 then
        some (units, fraction)
      else none
    | _ => none

/-- `DECIMAL_PATTERN.exec`: the sign, the units and the fraction of a match. -/
def decimalPattern : List Char → Option (Bool × List Char × List Char)
  | '-' :: rest => (unsignedPattern rest).map fun found => (true, found)
  | cs => (unsignedPattern cs).map fun found => (false, found)

/-- `fraction.padEnd(2, '0')`. -/
def padEndTwo (fraction : List Char) : List Char :=
  fraction ++ List.replicate (2 - fraction.length) '0'

namespace Floating

/-- `toCents`, its arithmetic in doubles; `none` is either exception. -/
def toCents (value : String) : Option Int := do
  let (sign, units, fraction) ← decimalPattern (jsTrim value.toList)
  let cents :=
    ((JsNumber.ofExact (digitsVal units)).times 100).plus (digitsVal (padEndTwo fraction))
  let cents ← cents.safeInteger?
  return if sign then -cents else cents

/-- `fromCents`, its arithmetic in doubles. -/
def fromCents (cents : Int) : Option String :=
  if isSafeInteger cents then
    let sign := if cents < 0 then "-" else ""
    let absolute := cents.natAbs
    let units := ⌊double (absolute / 100)⌋
    let fraction := padTwo (absolute % 100)
    some (sign ++ toString units ++ "." ++ fraction)
  else none

end Floating

/-! ## The texts of the pattern -/

/-- An optional minus, digits, and an optional fraction of one or two digits. -/
structure DecimalForm where
  negative : Bool
  units : List Char
  fraction : List Char
  units_ne_nil : units ≠ []
  isDigit_units : ∀ c ∈ units, c.isDigit = true
  isDigit_fraction : ∀ c ∈ fraction, c.isDigit = true
  length_fraction : fraction.length ≤ 2

namespace DecimalForm

/-- The text of a form. -/
def text (form : DecimalForm) : List Char :=
  (if form.negative then ['-'] else []) ++ form.units ++
    (if form.fraction = [] then [] else '.' :: form.fraction)

/-- The amount a form writes. -/
def amount (form : DecimalForm) : ℚ :=
  (if form.negative then -1 else 1) *
    (digitsVal form.units + digitsVal form.fraction / 10 ^ form.fraction.length)

/-- The canonical form of an amount: two decimals, no leading zero, no minus before a zero. -/
structure Canonical (form : DecimalForm) : Prop where
  two : form.fraction.length = 2
  leading : form.units.head? = some '0' → form.units = ['0']
  sign : form.negative = true → form.amount ≠ 0

/-- The cents a form writes. -/
def cents (form : DecimalForm) : Int :=
  (if form.negative then -1 else 1) *
    (digitsVal form.units * 100 + digitsVal (padEndTwo form.fraction) : Nat)

end DecimalForm

theorem digitsVal_append (cs ds : List Char) :
    digitsVal (cs ++ ds) = 10 ^ ds.length * digitsVal cs + digitsVal ds := by
  show Nat.ofDigitChars 10 (cs ++ ds) 0 = 10 ^ ds.length * Nat.ofDigitChars 10 cs 0 +
    Nat.ofDigitChars 10 ds 0
  rw [Nat.ofDigitChars_append, Nat.ofDigitChars_eq_ofDigitChars_zero]

theorem digitsVal_padEndTwo {fraction : List Char} (h : fraction.length ≤ 2) :
    (digitsVal (padEndTwo fraction) : ℚ) =
      digitsVal fraction / 10 ^ fraction.length * 100 := by
  have hzeros : digitsVal (List.replicate (2 - fraction.length) '0') = 0 :=
    Nat.ofDigitChars_replicate_zero.trans (Nat.mul_zero _)
  have hpow : (10 : ℚ) ^ (2 - fraction.length) * 10 ^ fraction.length = 100 := by
    rw [← pow_add, Nat.sub_add_cancel h]
    norm_num
  rw [padEndTwo, digitsVal_append, hzeros, List.length_replicate, Nat.add_zero]
  push_cast
  rw [div_mul_eq_mul_div, eq_div_iff (by positivity), ← hpow]
  ring

theorem digitsVal_padEndTwo_lt {fraction : List Char} (hdigits : ∀ c ∈ fraction, c.isDigit = true)
    (h : fraction.length ≤ 2) : digitsVal (padEndTwo fraction) < 100 := by
  have hlength : (padEndTwo fraction).length = 2 := by
    rw [padEndTwo, List.length_append, List.length_replicate]
    omega
  have hlt : digitsVal (padEndTwo fraction) < 10 ^ (padEndTwo fraction).length := by
    refine digitsVal_lt fun c hc => ?_
    rcases List.mem_append.1 hc with hc | hc
    · exact hdigits c hc
    · rw [(List.mem_replicate.1 hc).2]
      decide
  rwa [hlength] at hlt

/-- The cents of a form are its amount. -/
theorem DecimalForm.cents_eq (form : DecimalForm) : (form.cents : ℚ) = form.amount * 100 := by
  rw [cents, amount, Int.cast_mul, Int.cast_natCast, Nat.cast_add,
    digitsVal_padEndTwo form.length_fraction]
  push_cast
  split_ifs <;> ring

/-! ## The pattern reads the forms -/

theorem unsignedPattern_append {units fraction : List Char} (hne : units ≠ [])
    (hunits : ∀ c ∈ units, c.isDigit = true) (hfraction : ∀ c ∈ fraction, c.isDigit = true)
    (hlength : fraction.length ≤ 2) :
    unsignedPattern (units ++ if fraction = [] then [] else '.' :: fraction) =
      some (units, fraction) := by
  have htake : ∀ rest, (∀ c ∈ rest.head?, c.isDigit = false) →
      (units ++ rest).takeWhile Char.isDigit = units ∧
        (units ++ rest).dropWhile Char.isDigit = rest := by
    intro rest hrest
    rw [List.takeWhile_append_of_pos hunits, List.dropWhile_append_of_pos hunits]
    cases rest with
    | nil => simp
    | cons c rest => simp [hrest c rfl]
  by_cases hnil : fraction = []
  · obtain ⟨ht, hd⟩ := htake [] (by simp)
    rw [if_pos hnil, unsignedPattern, ht, hd]
    simp [hne, hnil]
  · obtain ⟨ht, hd⟩ := htake ('.' :: fraction) (by simp)
    have hall : fraction.all Char.isDigit = true := List.all_eq_true.2 hfraction
    rw [if_neg hnil, unsignedPattern, ht, hd]
    simp [hne, hall, hlength, Nat.one_le_iff_ne_zero, hnil]

/-- **The pattern reads the text of a form.** -/
theorem decimalPattern_text (form : DecimalForm) :
    decimalPattern form.text = some (form.negative, form.units, form.fraction) := by
  have hread := unsignedPattern_append form.units_ne_nil form.isDigit_units form.isDigit_fraction
    form.length_fraction
  cases hsign : form.negative with
  | true => simp [DecimalForm.text, hsign, decimalPattern, hread]
  | false =>
    have hminus : ∀ rest, form.text ≠ '-' :: rest := by
      intro rest heq
      obtain ⟨c, cs, hunits⟩ := List.exists_cons_of_ne_nil form.units_ne_nil
      have hc := form.isDigit_units c (by rw [hunits]; exact List.mem_cons_self)
      rw [DecimalForm.text, hsign, hunits] at heq
      simp only [Bool.false_eq_true, if_false, List.nil_append, List.cons_append,
        List.cons.injEq] at heq
      rw [heq.1] at hc
      exact absurd hc (by decide)
    rw [decimalPattern]
    · simp [DecimalForm.text, hsign, hread]
    · exact fun rest heq => hminus rest heq

theorem unsignedPattern_eq_some {cs units fraction : List Char}
    (h : unsignedPattern cs = some (units, fraction)) :
    cs = units ++ (if fraction = [] then [] else '.' :: fraction) ∧ units ≠ [] ∧
      (∀ c ∈ units, c.isDigit = true) ∧ (∀ c ∈ fraction, c.isDigit = true) ∧
      fraction.length ≤ 2 := by
  have hparts := List.takeWhile_append_dropWhile (p := Char.isDigit) (l := cs)
  have hunits : ∀ c ∈ cs.takeWhile Char.isDigit, c.isDigit = true := fun c hc =>
    List.mem_takeWhile_imp hc
  rw [unsignedPattern] at h
  split_ifs at h with hne
  split at h
  · obtain ⟨rfl, rfl⟩ := Prod.mk.inj (Option.some.inj h)
    rename_i hrest
    rw [hrest] at hparts
    exact ⟨hparts.symm, hne, hunits, by simp, by simp⟩
  · split_ifs at h with hfraction
    obtain ⟨rfl, rfl⟩ := Prod.mk.inj (Option.some.inj h)
    rename_i hrest
    rw [hrest] at hparts
    simp only [Bool.and_eq_true, decide_eq_true_eq] at hfraction
    obtain ⟨⟨hall, hpos⟩, hlength⟩ := hfraction
    refine ⟨?_, hne, hunits, List.all_eq_true.1 hall, hlength⟩
    rw [if_neg (List.length_pos_iff.1 hpos)]
    exact hparts.symm
  · cases h

/-- **The pattern reads nothing but the text of a form.** -/
theorem decimalPattern_eq_some {cs units fraction : List Char} {negative : Bool}
    (h : decimalPattern cs = some (negative, units, fraction)) :
    ∃ form : DecimalForm, form.text = cs ∧ form.negative = negative ∧ form.units = units ∧
      form.fraction = fraction := by
  rw [decimalPattern.eq_def] at h
  split at h
  all_goals
    obtain ⟨⟨u, f⟩, hfound, heq⟩ := Option.map_eq_some_iff.1 h
    simp only [Prod.mk.injEq] at heq
    obtain ⟨rfl, rfl, rfl⟩ := heq
    obtain ⟨hcs, hne, hunits, hfraction, hlength⟩ := unsignedPattern_eq_some hfound
    refine ⟨⟨_, u, f, hne, hunits, hfraction, hlength⟩, ?_, rfl, rfl, rfl⟩
    simp [DecimalForm.text, hcs]

/-! ## No rounding happens -/

/-- The sum that `toCents` forms is exact as long as it is safe, and beyond the safe integers else.
-/
theorem safeInteger?_sum {u w : Nat} (hw : w < 100) :
    (((JsNumber.ofExact u).times 100).plus w).safeInteger? =
      if u * 100 + w < 2 ^ 53 then some (u * 100 + w : Int) else none := by
  have hexact : ∀ n : Nat, n < 2 ^ 53 → JsNumber.ofExact n = .num n := fun n hn => by
    have habs : |(n : Int)| < 2 ^ 53 := by
      rw [Nat.abs_cast]
      exact_mod_cast hn
    simpa [JsNumber.int] using JsNumber.ofExact_int habs
  have hbeyond : ∀ n : Nat, 2 ^ 53 ≤ n → (JsNumber.ofExact n).Beyond := fun n hn =>
    JsNumber.beyond_ofExact (by exact_mod_cast hn)
  have htimes : u < 2 ^ 53 → (JsNumber.ofExact u).times 100 = JsNumber.ofExact (u * 100 : Nat) :=
    fun hu => by rw [hexact u hu, JsNumber.times, Nat.cast_mul, Nat.cast_ofNat]
  have hplus : u * 100 < 2 ^ 53 →
      ((JsNumber.ofExact u).times 100).plus w = JsNumber.ofExact (u * 100 + w : Nat) := fun hu => by
    rw [htimes (by omega), hexact _ hu, JsNumber.plus, Nat.cast_add]
  split_ifs with hsum
  · rw [hplus (by omega), hexact _ hsum]
    have hsafe := JsNumber.safeInteger?_int (n := (u * 100 + w : Nat))
      (by rw [JsNumber.maxSafeInteger, Nat.abs_cast]; omega)
    simpa [JsNumber.int] using hsafe
  · refine JsNumber.Beyond.safeInteger? ?_
    rcases Nat.lt_or_ge (u * 100) (2 ^ 53) with hu | hu
    · rw [hplus hu]
      exact hbeyond _ (by omega)
    · refine JsNumber.Beyond.plus w.cast_nonneg ?_
      rcases Nat.lt_or_ge u (2 ^ 53) with hu' | hu'
      · rw [htimes hu']
        exact hbeyond _ hu
      · exact (hbeyond u hu').times (by norm_num)

theorem parseUnsigned_eq (cs : List Char) :
    parseUnsigned cs = (unsignedPattern cs).map fun found =>
      digitsVal found.1 * 100 + digitsVal (padEndTwo found.2) := by
  have hone : ∀ d, digitsVal (padEndTwo [d]) = digitsVal [d] * 10 := fun d => by
    simp [padEndTwo, digitsVal]
    omega
  rw [parseUnsigned, unsignedPattern]
  split_ifs with hne
  · rfl
  · rcases cs.dropWhile Char.isDigit with _ | ⟨c, rest⟩
    · rfl
    · by_cases hc : c = '.'
      · subst hc
        rcases rest with _ | ⟨d, _ | ⟨e, _ | ⟨x, rest⟩⟩⟩
        · rfl
        · by_cases hd : d.isDigit = true <;> simp [hd, hone]
        · by_cases hde : d.isDigit = true ∧ e.isDigit = true <;> simp [hde, padEndTwo]
        · simp
      · simp [hc]

/-- What `toCents` makes of the text of a form. -/
theorem Floating.toCents_text {value : String} {form : DecimalForm}
    (h : form.text = jsTrim value.toList) :
    Floating.toCents value = if isSafeInteger form.cents then some form.cents else none := by
  have hlt := digitsVal_padEndTwo_lt form.isDigit_fraction form.length_fraction
  have hsafe : isSafeInteger form.cents = true ↔
      digitsVal form.units * 100 + digitsVal (padEndTwo form.fraction) < 2 ^ 53 := by
    rw [isSafeInteger, decide_eq_true_eq, JsNumber.maxSafeInteger, DecimalForm.cents, abs_le]
    split_ifs <;> omega
  rw [Floating.toCents, ← h, decimalPattern_text]
  simp only [Option.bind_eq_bind, Option.bind_some, safeInteger?_sum hlt, hsafe]
  by_cases hsum : digitsVal form.units * 100 + digitsVal (padEndTwo form.fraction) < 2 ^ 53
  · rw [if_pos hsum, if_pos hsum]
    cases hneg : form.negative <;> simp [DecimalForm.cents, hneg]
  · rw [if_neg hsum, if_neg hsum]
    rfl

/-- **The arithmetic of `toCents` is exact.** -/
theorem floating_toCents (value : String) : Floating.toCents value = toCents value := by
  have hexact : toCents value = ((decimalPattern (jsTrim value.toList)).map fun found =>
      (if found.1 then -1 else 1) *
        ((digitsVal found.2.1 * 100 + digitsVal (padEndTwo found.2.2) : Nat) : Int)).filter
          isSafeInteger := by
    rw [toCents]
    congr 1
    generalize jsTrim value.toList = cs
    rw [decimalPattern.eq_def]
    split
    all_goals
      simp only [parseUnsigned_eq, Option.map_map]
      generalize unsignedPattern _ = found
      cases found <;> simp
  cases hfound : decimalPattern (jsTrim value.toList) with
  | none => rw [hexact, Floating.toCents, hfound]; rfl
  | some found =>
    obtain ⟨negative, units, fraction⟩ := found
    obtain ⟨form, htext, rfl, rfl, rfl⟩ := decimalPattern_eq_some hfound
    rw [hexact, hfound, Floating.toCents_text htext]
    rfl

/-- The quotient by a hundred keeps its whole part. -/
theorem floor_double_div_hundred {n : Nat} (h : n < 2 ^ 53) :
    ⌊double ((n : ℚ) / 100)⌋ = (n / 100 : Nat) := by
  by_cases hzero : n = 0
  · simp [hzero, double_zero]
  have hn : (n : ℚ) < 2 ^ 53 := by exact_mod_cast h
  have hpos : 0 < (n : ℚ) / 100 := by positivity
  have hulp : ulp ((n : ℚ) / 100) ≤ 2 ^ (47 - 53 : Int) :=
    ulp_le hpos.ne' (by rw [abs_of_pos hpos, zpow_ofNat]; linarith)
  have herr := abs_le.1 (abs_double_sub_le ((n : ℚ) / 100))
  -- half a unit is less than a cent
  have hhalf : ulp ((n : ℚ) / 100) / 2 < 1 / 100 := by
    have : (2 : ℚ) ^ (47 - 53 : Int) = 1 / 64 := by norm_num
    linarith
  have hparts : (n : ℚ) = 100 * (n / 100 : Nat) + (n % 100 : Nat) := by
    exact_mod_cast (Nat.div_add_mod n 100).symm
  have hmod : ((n % 100 : Nat) : ℚ) ≤ 99 := by
    exact_mod_cast Nat.le_of_lt_succ (Nat.mod_lt n (by norm_num))
  rw [Int.floor_eq_iff, Int.cast_natCast]
  refine ⟨?_, by linarith⟩
  by_cases hmod0 : n % 100 = 0
  · have hwhole : (n : ℚ) / 100 = ((n / 100 : Nat) : Int) := by
      rw [hmod0, Nat.cast_zero, add_zero] at hparts
      rw [div_eq_iff (by norm_num), Int.cast_natCast, mul_comm]
      exact hparts
    rw [hwhole, double_int (by rw [Nat.abs_cast]; omega), Int.cast_natCast]
  · have hone : (1 : ℚ) ≤ (n % 100 : Nat) := by exact_mod_cast Nat.one_le_iff_ne_zero.2 hmod0
    linarith

/-- **The arithmetic of `fromCents` is exact.** -/
theorem floating_fromCents (cents : Int) : Floating.fromCents cents = fromCents cents := by
  rw [Floating.fromCents, fromCents]
  by_cases hsafe : isSafeInteger cents = true
  · rw [if_pos hsafe, if_pos hsafe]
    rw [isSafeInteger, decide_eq_true_eq, JsNumber.maxSafeInteger] at hsafe
    have hlt : cents.natAbs < 2 ^ 53 := by
      rw [abs_le] at hsafe
      omega
    simp only [floor_double_div_hundred hlt, decimalText]
    rfl
  · rw [if_neg hsafe, if_neg hsafe]

/-! ## The canonical form -/

theorem digitChar_toNat_sub {c : Char} (h : c.isDigit = true) :
    c.toNat - 48 < 10 ∧ (c.toNat - 48).digitChar = c := by
  have hc : 48 ≤ c.toNat ∧ c.toNat ≤ 57 := by
    rw [Char.isDigit, Bool.and_eq_true, decide_eq_true_eq, decide_eq_true_eq] at h
    exact ⟨UInt32.le_iff_toNat_le.1 h.1, UInt32.le_iff_toNat_le.1 h.2⟩
  refine ⟨by omega, Char.toNat_inj.1 ?_⟩
  rw [Nat.toNat_digitChar_of_lt_ten (by omega)]
  omega

/-- Digits without a leading zero are those of the number they write. -/
theorem toDigits_digitsVal {units : List Char} (hdigits : ∀ c ∈ units, c.isDigit = true)
    (hne : units ≠ []) (hleading : units.head? = some '0' → units = ['0']) :
    Nat.toDigits 10 (digitsVal units) = units := by
  induction units using List.reverseRecOn with
  | nil => exact absurd rfl hne
  | append_singleton units c ih =>
    obtain ⟨hlt, hchar⟩ :=
      digitChar_toNat_sub (hdigits c (List.mem_append_right _ List.mem_cons_self))
    have hval : digitsVal (units ++ [c]) = 10 * digitsVal units + (c.toNat - 48) := by
      rw [digitsVal_append, List.length_singleton, pow_one]
      simp [digitsVal]
    by_cases hnil : units = []
    · rw [hval, hnil, show digitsVal [] = 0 from rfl, Nat.mul_zero, Nat.zero_add,
        Nat.toDigits_of_lt_base hlt, hchar]
      rfl
    · have hlead : units.head? ≠ some '0' := fun hzero => by
        have hall := hleading (by rw [List.head?_append_of_ne_nil _ hnil]; exact hzero)
        have hlength := congrArg List.length hall
        rw [List.length_append, List.length_singleton, List.length_singleton] at hlength
        exact hnil (List.length_eq_zero_iff.1 (by omega))
      have hrest := ih (fun x hx => hdigits x (List.mem_append_left _ hx)) hnil
        fun hzero => absurd hzero hlead
      have hpos : 0 < digitsVal units := Nat.pos_of_ne_zero fun hzero => by
        rw [hzero, Nat.toDigits_zero] at hrest
        exact hlead (hrest ▸ rfl)
      rw [hval, ← Nat.toDigits_append_toDigits (by norm_num) hpos hlt, hrest,
        Nat.toDigits_of_lt_base hlt, hchar]

theorem head?_toDigits {n : Nat} (hn : 0 < n) : (Nat.toDigits 10 n).head? ≠ some '0' := by
  induction n using Nat.strongRecOn with
  | ind n ih =>
    rcases Nat.lt_or_ge n 10 with hlt | hge
    · rw [Nat.toDigits_of_lt_base hlt, List.head?_cons, ne_eq, Option.some.injEq,
        Nat.digitChar_eq_zero]
      exact hn.ne'
    · rw [Nat.toDigits_of_base_le (by norm_num) hge,
        List.head?_append_of_ne_nil _ Nat.toDigits_ne_nil]
      exact ih (n / 10) (by omega) (by omega)

/-- Two digits are those of the number they write. -/
theorem two_digits_inj {d e d' e' : Char} (hd : d.isDigit = true) (he : e.isDigit = true)
    (hd' : d'.isDigit = true) (he' : e'.isDigit = true) (h : digitsVal [d, e] = digitsVal [d', e']) :
    d = d' ∧ e = e' := by
  obtain ⟨hdl, hdc⟩ := digitChar_toNat_sub hd
  obtain ⟨hel, hec⟩ := digitChar_toNat_sub he
  obtain ⟨hdl', hdc'⟩ := digitChar_toNat_sub hd'
  obtain ⟨hel', hec'⟩ := digitChar_toNat_sub he'
  simp only [digitsVal, List.foldl_cons, List.foldl_nil] at h
  rw [← hdc, ← hec, ← hdc', ← hec', show d.toNat - 48 = d'.toNat - 48 by omega,
    show e.toNat - 48 = e'.toNat - 48 by omega]
  exact ⟨rfl, rfl⟩

namespace DecimalForm

theorem amount_eq_iff (form : DecimalForm) (n : Int) : form.amount * 100 = n ↔ form.cents = n := by
  rw [← form.cents_eq, Int.cast_inj]

/-- **A canonical form is the text of its cents.** -/
theorem Canonical.text_eq {form : DecimalForm} (h : form.Canonical) :
    form.text = (decimalText form.cents).toList := by
  obtain ⟨d, e, hfraction⟩ := List.length_eq_two.1 h.two
  have hde : d.isDigit = true ∧ e.isDigit = true := by
    have := form.isDigit_fraction
    rw [hfraction] at this
    exact ⟨this d (by simp), this e (by simp)⟩
  have hlt := digitsVal_padEndTwo_lt form.isDigit_fraction form.length_fraction
  have hunits := toDigits_digitsVal form.isDigit_units form.units_ne_nil h.leading
  have hcents := form.cents_eq
  obtain ⟨k, hk⟩ : ∃ k, k = digitsVal form.units * 100 + digitsVal [d, e] := ⟨_, rfl⟩
  have hpad : padEndTwo form.fraction = [d, e] := by rw [padEndTwo, hfraction]; rfl
  rw [hpad] at hlt
  have htext : form.units ++ ['.', d, e] = (decimalText k).toList := by
    obtain ⟨d', e', htext, hd', he', hval⟩ := toList_decimalText (n := k)
    obtain ⟨rfl, rfl⟩ := two_digits_inj hde.1 hde.2 hd' he' (by omega)
    rw [htext, show k / 100 = digitsVal form.units by omega, hunits]
  rw [text, hfraction, cents, hpad, ← hk]
  cases hneg : form.negative with
  | true =>
    have hpos : 0 < k := Nat.pos_of_ne_zero fun hzero => h.sign hneg <| by
      rw [cents, hpad, ← hk, hzero] at hcents
      simpa using hcents.symm
    simpa [← toList_decimalText_neg hpos] using congrArg ('-' :: ·) htext
  | false => simpa using htext

/-- The form that `fromCents` writes. -/
theorem exists_canonical (n : Int) :
    ∃ form : DecimalForm, form.Canonical ∧ form.cents = n := by
  obtain ⟨d, e, -, hd, he, hval⟩ := toList_decimalText (n := n.natAbs)
  have hdigits : ∀ c ∈ [d, e], c.isDigit = true := by simp [hd, he]
  let form : DecimalForm := ⟨decide (n < 0), Nat.toDigits 10 (n.natAbs / 100), [d, e],
    Nat.toDigits_ne_nil, fun _ hc => isDigit_of_mem_toDigits hc, hdigits, le_rfl⟩
  have hcents : form.cents = n := by
    have hpad : padEndTwo [d, e] = [d, e] := rfl
    simp only [form, cents, digitsVal_toDigits, hpad, hval, decide_eq_true_eq]
    split_ifs <;> omega
  refine ⟨form, ⟨rfl, fun hzero => ?_, fun hneg hzero => ?_⟩, hcents⟩
  · rcases Nat.eq_zero_or_pos (n.natAbs / 100) with hunits | hunits
    · simp only [form, hunits, Nat.toDigits_zero]
    · exact absurd hzero (head?_toDigits hunits)
  · have hamount := form.cents_eq
    rw [hcents, hzero, zero_mul, Int.cast_eq_zero] at hamount
    exact absurd (of_decide_eq_true hneg) (by omega)

end DecimalForm

/-! ## The texts of money -/

/-- **What is accepted**: the texts of the forms whose amount is safe. -/
theorem Floating.toCents_eq_some_iff {text : String} {n : Int} :
    Floating.toCents text = some n ↔
      ∃ form : DecimalForm, form.text = jsTrim text.toList ∧ form.amount * 100 = n ∧
        |n| ≤ JsNumber.maxSafeInteger := by
  constructor
  · intro h
    cases hfound : decimalPattern (jsTrim text.toList) with
    | none =>
      rw [Floating.toCents, hfound] at h
      cases h
    | some found =>
      obtain ⟨form, htext, -⟩ := decimalPattern_eq_some hfound
      rw [Floating.toCents_text htext] at h
      split_ifs at h with hsafe
      obtain rfl := Option.some.inj h
      exact ⟨form, htext, (form.amount_eq_iff _).2 rfl, of_decide_eq_true hsafe⟩
  · rintro ⟨form, htext, hamount, hsafe⟩
    obtain rfl := (form.amount_eq_iff n).1 hamount
    rw [Floating.toCents_text htext, isSafeInteger, if_pos (decide_eq_true hsafe)]

/-- **Money parsing and printing.**  Every safe amount is read back; what is accepted is the texts
of the pattern whose amount is safe; an accepted text is printed in the one canonical form of its
amount; and amounts are ordered as their cents. -/
theorem money_texts :
    (∀ n : Int, isSafeInteger n = true →
      ∃ text, Floating.fromCents n = some text ∧ Floating.toCents text = some n) ∧
    (∀ text n, Floating.toCents text = some n ↔
      ∃ form : DecimalForm, form.text = jsTrim text.toList ∧ form.amount * 100 = n ∧
        |n| ≤ JsNumber.maxSafeInteger) ∧
    (∀ text n, Floating.toCents text = some n →
      ∃ printed, ∃ form : DecimalForm, Floating.fromCents n = some printed ∧
        form.text = printed.toList ∧ form.Canonical ∧ form.amount * 100 = n ∧
        ∀ other : DecimalForm, other.Canonical → other.amount * 100 = n →
          other.text = printed.toList) ∧
    (∀ text text' n n', ∀ form form' : DecimalForm, Floating.toCents text = some n →
      Floating.toCents text' = some n' → form.text = jsTrim text.toList →
      form'.text = jsTrim text'.toList → (form.amount < form'.amount ↔ n < n')) := by
  refine ⟨fun n hn => ?_, fun text n => Floating.toCents_eq_some_iff, fun text n h => ?_,
    fun text text' n n' form form' h h' htext htext' => ?_⟩
  · refine ⟨decimalText n, ?_, ?_⟩
    · rw [floating_fromCents, fromCents, if_pos hn]
    · rw [floating_toCents, toCents_decimalText hn]
  · obtain ⟨-, -, -, hsafe⟩ := Floating.toCents_eq_some_iff.1 h
    obtain ⟨form, hcanonical, rfl⟩ := DecimalForm.exists_canonical n
    refine ⟨decimalText form.cents, form, ?_, hcanonical.text_eq, hcanonical,
      (form.amount_eq_iff _).2 rfl, fun other hother hamount => ?_⟩
    · rw [floating_fromCents, fromCents, isSafeInteger, if_pos (decide_eq_true hsafe)]
    · rw [hother.text_eq, (other.amount_eq_iff _).1 hamount]
  · have hcents : ∀ {text n} {form : DecimalForm}, Floating.toCents text = some n →
        form.text = jsTrim text.toList → (n : ℚ) = form.amount * 100 := by
      intro text n form h htext
      rw [Floating.toCents_text htext] at h
      split_ifs at h
      rw [← Option.some.inj h, form.cents_eq]
    have hn := hcents h htext
    have hn' := hcents h' htext'
    rw [← Int.cast_lt (R := ℚ), hn, hn']
    constructor <;> intro hlt <;> linarith

end ApiScore
