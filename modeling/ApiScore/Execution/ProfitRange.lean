import ApiScore.Execution.DecimalForms
import ApiScore.Execution.SettlementAgreement

/-!
# The range of a profit

`winningProfitCents` multiplies a stake in cents by an odd in thousandths, in doubles.  As long as
the product is a safe integer nothing is rounded before the quotient, and the quotient keeps its
nearest whole number; the stakes and the odds that are admitted reach products four orders of
magnitude above.

* `floating_winningProfitCents` — up to a safe product the arithmetic is exact.
* `profit_in_range_iff` — which stakes and odds keep every promise of the function.
-/

set_option autoImplicit false

open Double

namespace ApiScore

/-- `POSITIVE_AMOUNT`: one to ten digits, then one or two after a point, and not only zeros. -/
def isPositiveAmount (text : String) : Bool :=
  match unsignedPattern text.toList with
  | some (units, fraction) =>
    decide (units.length ≤ 10) && !(units.all (· == '0') && fraction.all (· == '0'))
  | none => false

/-- `winningProfitCents`, its arithmetic in doubles. -/
def Floating.winningProfitCents (stakeCents : Int) (odd : ℚ) : Int :=
  let oddMillis := jsRound (double (odd * 1000))
  jsRound (double (double (stakeCents * (oddMillis - 1000) : Int) / 1000))

/-- An odd as it is read from its column: the nearest double. -/
def floatingOdd (millis : Int) : ℚ := double (oddValue millis)

example : isPositiveAmount "9999999999.99" = true := by decide
example : isPositiveAmount "00.0" = false := by decide

/-! ## What is admitted -/

theorem digitsVal_pos {cs : List Char} (hdigits : ∀ c ∈ cs, c.isDigit = true)
    (h : cs.all (· == '0') = false) : 0 < digitsVal cs := by
  induction cs using List.reverseRecOn with
  | nil => cases h
  | append_singleton cs c ih =>
    have hval : digitsVal (cs ++ [c]) = 10 * digitsVal cs + (c.toNat - 48) := by
      rw [digitsVal_append, List.length_singleton, pow_one]
      simp [digitsVal]
    rw [List.all_append, Bool.and_eq_false_iff] at h
    rcases h with h | h
    · have := ih (fun x hx => hdigits x (List.mem_append_left _ hx)) h
      omega
    · have hc : c ≠ '0' := by simpa using h
      have hchar := (digitChar_toNat_sub (hdigits c (by simp))).2
      have hne : c.toNat - 48 ≠ 0 := fun hzero => hc (by rw [← hchar, hzero]; rfl)
      omega

/-- **An admitted stake is a positive number of cents**, of at most twelve digits. -/
theorem toCents_of_isPositiveAmount {text : String} (h : isPositiveAmount text = true) :
    ∃ stake, Floating.toCents text = some stake ∧ 0 < stake ∧ stake < 10 ^ 12 := by
  rw [isPositiveAmount] at h
  split at h
  · rename_i units fraction hfound
    obtain ⟨htext, hne, hunits, hfraction, hlength⟩ := unsignedPattern_eq_some hfound
    simp only [Bool.and_eq_true, decide_eq_true_eq, Bool.not_eq_true', Bool.and_eq_false_iff] at h
    obtain ⟨hten, hzeros⟩ := h
    let form : DecimalForm := ⟨false, units, fraction, hne, hunits, hfraction, hlength⟩
    have htrim : jsTrim text.toList = form.text := by
      rw [htext, DecimalForm.text]
      refine (jsTrim_of_forall fun c hc => ?_).trans (by simp [form])
      rcases List.mem_append.1 hc with hc | hc
      · exact isJsSpace_of_isDigit (hunits c hc)
      · split_ifs at hc
        · cases hc
        · rcases List.mem_cons.1 hc with rfl | hc
          · decide
          · exact isJsSpace_of_isDigit (hfraction c hc)
    have hcents : form.cents = digitsVal units * 100 + digitsVal (padEndTwo fraction) := by
      simp [DecimalForm.cents, form]
    have hu : digitsVal units < 10 ^ 10 :=
      (digitsVal_lt hunits).trans_le (Nat.pow_le_pow_right (by norm_num) hten)
    have hw := digitsVal_padEndTwo_lt hfraction hlength
    have hpos : 0 < digitsVal units * 100 + digitsVal (padEndTwo fraction) := by
      rcases hzeros with hzeros | hzeros
      · have := digitsVal_pos hunits hzeros
        omega
      · have hpad : 10 ^ (2 - fraction.length) * digitsVal fraction ≤
            digitsVal (padEndTwo fraction) := by
          rw [padEndTwo, digitsVal_append, List.length_replicate]
          exact Nat.le_add_right _ _
        have := Nat.mul_pos (Nat.pow_pos (n := 2 - fraction.length) (by norm_num : 0 < 10))
          (digitsVal_pos hfraction hzeros)
        omega
    have hsafe : isSafeInteger form.cents = true := by
      rw [isSafeInteger, decide_eq_true_eq, JsNumber.maxSafeInteger, hcents, abs_le]
      omega
    refine ⟨form.cents, ?_, by omega, by omega⟩
    rw [Floating.toCents_text htrim.symm, if_pos hsafe]
  · cases h

/-! ## Rounding of the quotient -/

theorem jsRound_eq {q : ℚ} {n : Int} (h : |q - n| < 1 / 2) : jsRound q = n := by
  rw [abs_lt] at h
  rw [jsRound, Int.floor_eq_iff]
  constructor <;> linarith

/-- An odd is read back in whole thousandths. -/
theorem jsRound_floatingOdd {odd : Int} (hpos : 0 < odd) (hcolumn : odd < 10 ^ 8) :
    jsRound (double (floatingOdd odd * 1000)) = odd := by
  have hodd : (0 : ℚ) < odd := by exact_mod_cast hpos
  have hlt : (odd : ℚ) < 10 ^ 8 := by exact_mod_cast hcolumn
  have hvalue : (0 : ℚ) < oddValue odd := div_pos hodd (by norm_num)
  have hthousand : oddValue odd * 1000 = odd := div_mul_cancel₀ _ (by norm_num)
  have hone : (1 : ℚ) ≤ odd := by exact_mod_cast hpos
  have hulp : ulp (oddValue odd) ≤ 1 / 10 ^ 10 := by
    have hunit : (2 : ℚ) ^ (17 - 53 : Int) ≤ 1 / 10 ^ 10 := by norm_num
    exact (ulp_le hvalue.ne' (by rw [abs_of_pos hvalue, zpow_ofNat]; linarith)).trans hunit
  obtain ⟨hlow, hhigh⟩ := abs_le.1 (abs_double_sub_le (oddValue odd))
  rw [← floatingOdd] at hlow hhigh
  have hproduct : 0 < floatingOdd odd * 1000 := by linarith
  have hulp' : ulp (floatingOdd odd * 1000) ≤ 1 / 10 ^ 7 := by
    have hunit : (2 : ℚ) ^ (27 - 53 : Int) ≤ 1 / 10 ^ 7 := by norm_num
    exact (ulp_le hproduct.ne' (by rw [abs_of_pos hproduct, zpow_ofNat]; linarith)).trans hunit
  obtain ⟨hlow', hhigh'⟩ := abs_le.1 (abs_double_sub_le (floatingOdd odd * 1000))
  refine jsRound_eq (abs_lt.2 ⟨?_, ?_⟩) <;> linarith

/-- **The quotient by a thousand keeps its nearest whole number.** -/
theorem jsRound_double_div_thousand {n : Int} (hpos : 0 < n) (hsafe : n < 2 ^ 53) :
    jsRound (double ((n : ℚ) / 1000)) = jsRound ((n : ℚ) / 1000) := by
  have hn : (0 : ℚ) < n := by exact_mod_cast hpos
  have hlt : (n : ℚ) < 2 ^ 53 := by exact_mod_cast hsafe
  have hquotient : (0 : ℚ) < (n : ℚ) / 1000 := by positivity
  have hulp : ulp ((n : ℚ) / 1000) ≤ 2 ^ (44 - 53 : Int) :=
    ulp_le hquotient.ne' (by rw [abs_of_pos hquotient, zpow_ofNat]; linarith)
  have hunit : (2 : ℚ) ^ (44 - 53 : Int) = 1 / 512 := by norm_num
  have herr := abs_le.1 (abs_double_sub_le ((n : ℚ) / 1000))
  -- half a unit is less than the thousandth that separates a quotient from a half
  have hsame : ∀ k : Int, k ≤ jsRound (double ((n : ℚ) / 1000)) ↔ k ≤ jsRound ((n : ℚ) / 1000) := by
    intro k
    have hscale (q : ℚ) : (k : ℚ) - 1 / 2 ≤ q / 1000 ↔ ((1000 * k - 500 : Int) : ℚ) ≤ q := by
      rw [le_div_iff₀ (by norm_num)]
      push_cast
      constructor <;> intro h <;> linarith
    rw [le_jsRound, le_jsRound, hscale, Int.cast_le]
    rcases lt_trichotomy n (1000 * k - 500) with hbelow | hhalf | habove
    · have hgap : (n : ℚ) + 1 ≤ 1000 * k - 500 := by exact_mod_cast hbelow
      exact iff_of_false (by linarith) (by omega)
    · have hgrid : double ((n : ℚ) / 1000) = n / 1000 := by
        refine double_of_grid (j := 2 * k - 1) (a := -1) ?_ ?_
        · rw [hhalf]
          push_cast
          norm_num
          ring
        · rw [abs_of_pos hquotient]
          norm_num
          linarith
      rw [hgrid, hscale, Int.cast_le]
    · have hgap : (1000 * k - 500 : ℚ) + 1 ≤ n := by exact_mod_cast habove
      exact iff_of_true (by linarith) (by omega)
  exact le_antisymm ((hsame _).1 le_rfl) ((hsame _).2 le_rfl)

/-! ## The profit -/

/-- **Up to a safe product the arithmetic is exact.** -/
theorem floating_winningProfitCents {stake odd : Int} (hstake : 0 < stake) (hodd : 1000 < odd)
    (hcolumn : odd < 10 ^ 8) (hsafe : stake * (odd - 1000) < 2 ^ 53) :
    Floating.winningProfitCents stake (floatingOdd odd) =
      winningProfitCents stake (oddValue odd) := by
  have hpos : 0 < stake * (odd - 1000) := Int.mul_pos hstake (by omega)
  have hproduct : double ((stake * (odd - 1000) : Int) : ℚ) = (stake * (odd - 1000) : Int) :=
    double_int (by rwa [abs_of_pos hpos])
  rw [Floating.winningProfitCents, winningProfitCents, jsRound_oddValue,
    jsRound_floatingOdd (by omega) hcolumn]
  show jsRound (double (double ((stake * (odd - 1000) : Int) : ℚ) / 1000)) = _
  rw [hproduct, jsRound_double_div_thousand hpos hsafe]

/-- What `winningProfitCents` promises of a stake and of an odd: a product that is a safe integer,
the nearest cent, the order of both arguments, and a payout that is accepted. -/
structure ExactProfit (stake odd : Int) : Prop where
  safe : isSafeInteger (stake * (odd - 1000)) = true
  nearest : |1000 * Floating.winningProfitCents stake (floatingOdd odd) - stake * (odd - 1000)| ≤ 500
  monotone : ∀ stake' odd', 0 < stake' → stake' ≤ stake → 1000 < odd' → odd' ≤ odd →
    Floating.winningProfitCents stake' (floatingOdd odd') ≤
      Floating.winningProfitCents stake (floatingOdd odd)
  payout : ∃ payout,
    Floating.fromCents (stake + Floating.winningProfitCents stake (floatingOdd odd)) = some payout ∧
      isAmountText payout = true ∧
      fitsDecimal14 (stake + Floating.winningProfitCents stake (floatingOdd odd)) = true

/-- **Which stakes and odds keep every promise.**  A stake that the pattern of the amounts admits,
at an odd above one of its column, keeps them exactly when the stake times the gain of the odd stays
within the safe integers. -/
theorem profit_in_range_iff {text : String} {stake odd : Int}
    (htext : isPositiveAmount text = true) (hstake : Floating.toCents text = some stake)
    (hodd : 1000 < odd) (hcolumn : fitsDecimal8 odd = true) :
    ExactProfit stake odd ↔ stake * (odd - 1000) ≤ 9007199254740991 := by
  obtain ⟨_, hstake', hpos, hlt⟩ := toCents_of_isPositiveAmount htext
  obtain rfl := Option.some.inj (hstake.symm.trans hstake')
  have hmax : odd < 10 ^ 8 := by
    rw [fitsDecimal8, decide_eq_true_eq, abs_le] at hcolumn
    omega
  constructor
  · rintro ⟨hsafe, -, -, -⟩
    rw [isSafeInteger, decide_eq_true_eq, JsNumber.maxSafeInteger, abs_le] at hsafe
    omega
  · intro hsafe
    have hexact : ∀ stake' odd', 0 < stake' → stake' ≤ stake → 1000 < odd' → odd' ≤ odd →
        stake' * (odd' - 1000) ≤ stake * (odd - 1000) ∧
          Floating.winningProfitCents stake' (floatingOdd odd') =
            winningProfitCents stake' (oddValue odd') := by
      intro stake' odd' hpos' hle hodd' hle'
      have hproduct : stake' * (odd' - 1000) ≤ stake * (odd - 1000) :=
        Int.mul_le_mul hle (by omega) (by omega) hpos.le
      exact ⟨hproduct, floating_winningProfitCents hpos' hodd' (by omega) (by omega)⟩
    have hself := (hexact stake odd hpos le_rfl hodd le_rfl).2
    obtain ⟨profit, hprofit⟩ : ∃ profit, winningProfitCents stake (oddValue odd) = profit := ⟨_, rfl⟩
    have hlow := (le_winningProfitCents (n := profit)).1 hprofit.ge
    have hhigh : stake * (odd - 1000) < 1000 * (profit + 1) - 500 := by
      refine lt_of_not_ge fun hle => ?_
      have := le_winningProfitCents.2 hle
      omega
    have hgain : 0 < stake * (odd - 1000) := Int.mul_pos hpos (by omega)
    have hpayout : 0 ≤ stake + profit ∧ stake + profit < 10 ^ 14 := by omega
    refine ⟨?_, ?_, ?_, ?_⟩
    · rw [isSafeInteger, decide_eq_true_eq, JsNumber.maxSafeInteger, abs_le]
      omega
    · rw [hself, hprofit, abs_le]
      omega
    · intro stake' odd' hpos' hle hodd' hle'
      obtain ⟨hproduct, hexact'⟩ := hexact stake' odd' hpos' hle hodd' hle'
      rw [hexact', hself, le_winningProfitCents]
      exact (le_winningProfitCents.1 le_rfl).trans hproduct
    · rw [hself, hprofit]
      refine ⟨decimalText (stake + profit), ?_, (isAmountText_decimalText hpayout.1).2 hpayout.2, ?_⟩
      · rw [floating_fromCents, fromCents, if_pos]
        rw [isSafeInteger, decide_eq_true_eq, JsNumber.maxSafeInteger, abs_le]
        omega
      · rw [fitsDecimal14, maxDecimal14, decide_eq_true_eq, abs_le]
        omega

/-- A stake of 10.00 at an odd of 2. -/
theorem profit_in_range_ten : ExactProfit 1000 2000 :=
  have htext : isPositiveAmount "10.00" = true := by decide
  (profit_in_range_iff htext ((floating_toCents "10.00").trans (by decide)) (by norm_num)
    (by decide)).2 (by norm_num)

/-- The largest stake, at an odd of 10.501: the product is rounded to a half, and the profit is a
cent too much.  At the largest odd the payout is no amount at all. -/
theorem profit_out_of_range :
    isPositiveAmount "9999999999.99" = true ∧
    Floating.toCents "9999999999.99" = some 999999999999 ∧
    ¬ExactProfit 999999999999 10501 ∧
    999999999999 * (10501 - 1000) = (9500999999990499 : Int) ∧
    Floating.winningProfitCents 999999999999 (floatingOdd 10501) = 9500999999991 ∧
    ¬ExactProfit 999999999999 99999999 ∧
    Floating.fromCents
      (999999999999 + Floating.winningProfitCents 999999999999 (floatingOdd 99999999)) = none := by
  refine ⟨by decide, (floating_toCents _).trans (by decide), fun h => absurd h.safe (by decide),
    by norm_num, ?_, fun h => absurd h.safe (by decide), ?_⟩
  · have hproduct : double (9500999999990499 : ℚ) = 9500999999990500 := by
      have hunit : ulp (9500999999990499 : ℚ) = 2 := by
        rw [ulp_eq (e := 53) (by norm_num) (by norm_num)]
        norm_num
      have hfloor : ⌊(9500999999990499 / 2 : ℚ)⌋ = 4750499999995249 := by norm_num
      rw [double, hunit, roundEven, hfloor]
      norm_num
    have hquotient : double (19001999999981 / 2 : ℚ) = 19001999999981 / 2 :=
      double_of_grid (j := 19001999999981) (a := -1) (by norm_num) (by norm_num [abs_of_pos])
    rw [Floating.winningProfitCents, jsRound_floatingOdd (by norm_num) (by norm_num)]
    norm_num [hproduct, hquotient, jsRound]
  · have hproduct : (2 : ℚ) ^ (66 : Int) ≤ double (99998998999900001001 : ℚ) :=
      pow_le_double (by norm_num)
    have hquotient : (2 : ℚ) ^ (56 : Int) ≤ double (double (99998998999900001001 : ℚ) / 1000) := by
      refine pow_le_double ?_
      norm_num at hproduct ⊢
      linarith
    have hprofit : 2 ^ 56 ≤ Floating.winningProfitCents 999999999999 (floatingOdd 99999999) := by
      rw [Floating.winningProfitCents, jsRound_floatingOdd (by norm_num) (by norm_num), le_jsRound]
      norm_num at hquotient ⊢
      linarith
    rw [floating_fromCents, fromCents, if_neg]
    rw [isSafeInteger, decide_eq_true_eq, JsNumber.maxSafeInteger, abs_le]
    omega

end ApiScore
