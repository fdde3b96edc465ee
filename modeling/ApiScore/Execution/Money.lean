import Mathlib.Data.List.Induction
import Mathlib.Data.List.TakeWhile
import ApiScore.Execution.Types

/-!
# Amounts as texts

What `fromCents` writes, `toCents` reads back, and the pattern of an amount received from an operator
accepts it exactly when it has at most twelve digits before the point.

* `toCents_decimalText` — the round trip.
* `isAmountText_decimalText` — which amounts have the pattern.
-/

set_option autoImplicit false

namespace ApiScore

/-! ## Digits -/

theorem digitsVal_toDigits (n : Nat) : digitsVal (Nat.toDigits 10 n) = n :=
  Nat.ofDigitChars_ten_toDigits

theorem isDigit_of_mem_toDigits {n : Nat} {c : Char} (h : c ∈ Nat.toDigits 10 n) :
    c.isDigit = true :=
  Nat.isDigit_of_mem_toDigits (by omega) (by omega) h

/-- The two digits that `padTwo` writes. -/
theorem toList_padTwo {n : Nat} (h : n < 100) :
    ∃ d e, (padTwo n).toList = [d, e] ∧ d.isDigit = true ∧ e.isDigit = true ∧
      digitsVal [d, e] = n := by
  have hlast : Nat.toDigits 10 (n % 10) = [(n % 10).digitChar] :=
    Nat.toDigits_of_lt_base (Nat.mod_lt n (by omega))
  have htwo : (padTwo n).toList = [(n / 10).digitChar, (n % 10).digitChar] := by
    rw [padTwo]
    split_ifs with hn
    · rw [String.toList_append, Nat.toString_eq_repr, Nat.toList_repr,
        Nat.toDigits_of_lt_base hn, Nat.div_eq_of_lt hn, Nat.mod_eq_of_lt hn]
      rfl
    · rw [Nat.toString_eq_repr, Nat.toList_repr, Nat.toDigits_of_base_le (by omega) (by omega),
        Nat.toDigits_of_lt_base (by omega : n / 10 < 10)]
      rfl
  refine ⟨_, _, htwo, ?_, ?_, ?_⟩
  · refine isDigit_of_mem_toDigits (n := n / 10) ?_
    rw [Nat.toDigits_of_lt_base (by omega : n / 10 < 10)]
    exact List.mem_cons_self
  · refine isDigit_of_mem_toDigits (n := n % 10) ?_
    rw [hlast]
    exact List.mem_cons_self
  · show Nat.ofDigitChars 10 _ 0 = n
    rw [Nat.ofDigitChars_cons_digitChar_of_lt_ten (by omega),
      Nat.ofDigitChars_cons_digitChar_of_lt_ten (by omega), Nat.ofDigitChars_nil]
    omega

/-! ## The text of an amount -/

/-- The text of an amount that is not negative: its units, a point and two digits. -/
theorem toList_decimalText {n : Nat} :
    ∃ d e, (decimalText n).toList = Nat.toDigits 10 (n / 100) ++ ['.', d, e] ∧
      d.isDigit = true ∧ e.isDigit = true ∧ digitsVal [d, e] = n % 100 := by
  obtain ⟨d, e, hde, hd, he, hval⟩ := toList_padTwo (Nat.mod_lt n (by omega : 100 > 0))
  refine ⟨d, e, ?_, hd, he, hval⟩
  rw [decimalText, if_neg (by omega), Int.natAbs_natCast]
  simp [String.toList_append, hde]

/-- The text of a negative amount. -/
theorem toList_decimalText_neg {n : Nat} (h : 0 < n) :
    (decimalText (-n)).toList = '-' :: (decimalText n).toList := by
  rw [decimalText, if_pos (by omega), decimalText, if_neg (by omega), Int.natAbs_neg]
  simp [String.toList_append]

section Parsing

variable {units : List Char} {d e : Char}

theorem takeWhile_units (hunits : ∀ c ∈ units, c.isDigit = true) :
    (units ++ ['.', d, e]).takeWhile Char.isDigit = units := by
  rw [List.takeWhile_append_of_pos hunits]
  simp [Char.isDigit]

theorem dropWhile_units (hunits : ∀ c ∈ units, c.isDigit = true) :
    (units ++ ['.', d, e]).dropWhile Char.isDigit = ['.', d, e] := by
  rw [List.dropWhile_append_of_pos hunits]
  simp [Char.isDigit]

theorem parseUnsigned_units (hunits : ∀ c ∈ units, c.isDigit = true) (hne : units ≠ [])
    (hd : d.isDigit = true) (he : e.isDigit = true) :
    parseUnsigned (units ++ ['.', d, e]) = some (digitsVal units * 100 + digitsVal [d, e]) := by
  simp [parseUnsigned, takeWhile_units hunits, dropWhile_units hunits, hne, hd, he]

end Parsing

theorem parseUnsigned_decimalText (n : Nat) : parseUnsigned (decimalText n).toList = some n := by
  obtain ⟨d, e, htext, hd, he, hval⟩ := toList_decimalText (n := n)
  rw [htext, parseUnsigned_units (fun _ hc => isDigit_of_mem_toDigits hc) Nat.toDigits_ne_nil hd he,
    digitsVal_toDigits, hval, Option.some.injEq]
  omega

/-! ## The round trip -/

/-- A text without spaces is left alone. -/
theorem jsTrim_of_forall {cs : List Char} (h : ∀ c ∈ cs, isJsSpace c = false) : jsTrim cs = cs := by
  have hdrop : ∀ l : List Char, (∀ c ∈ l, isJsSpace c = false) → l.dropWhile isJsSpace = l := by
    intro l hl
    cases l with
    | nil => rfl
    | cons c l => rw [List.dropWhile_cons_of_neg (by simp [hl c])]
  rw [jsTrim, hdrop cs h, hdrop cs.reverse fun c hc => h c (List.mem_reverse.1 hc),
    List.reverse_reverse]

/-- The characters an amount is written with. -/
theorem isJsSpace_of_isDigit {c : Char} (h : c.isDigit = true) : isJsSpace c = false := by
  have hc : 48 ≤ c.toNat ∧ c.toNat ≤ 57 := by
    rw [Char.isDigit, Bool.and_eq_true, decide_eq_true_eq, decide_eq_true_eq] at h
    exact ⟨UInt32.le_iff_toNat_le.1 h.1, UInt32.le_iff_toNat_le.1 h.2⟩
  rw [isJsSpace]
  generalize c.toNat = k at hc
  simp only [List.mem_cons, List.not_mem_nil, or_false, Bool.or_eq_false_iff, decide_eq_false_iff_not,
    Bool.and_eq_false_iff]
  omega

theorem isJsSpace_decimalText (n : Nat) :
    ∀ c ∈ (decimalText n).toList, isJsSpace c = false := by
  obtain ⟨d, e, htext, hd, he, -⟩ := toList_decimalText (n := n)
  intro c hc
  rw [htext, List.mem_append] at hc
  rcases hc with hc | hc
  · exact isJsSpace_of_isDigit (isDigit_of_mem_toDigits hc)
  · simp only [List.mem_cons, List.not_mem_nil, or_false] at hc
    rcases hc with rfl | rfl | rfl
    · decide
    · exact isJsSpace_of_isDigit hd
    · exact isJsSpace_of_isDigit he

/-- **`toCents` reads back what `fromCents` writes.** -/
theorem toCents_decimalText {n : Int} (h : isSafeInteger n = true) :
    toCents (decimalText n) = some n := by
  rcases Int.lt_or_le n 0 with hn | hn
  · obtain ⟨k, rfl⟩ : ∃ k : Nat, n = -k := ⟨n.natAbs, by omega⟩
    have htrim : jsTrim (decimalText (-k)).toList = '-' :: (decimalText k).toList := by
      rw [toList_decimalText_neg (by omega)]
      refine jsTrim_of_forall fun c hc => ?_
      rcases List.mem_cons.1 hc with rfl | hc
      · decide
      · exact isJsSpace_decimalText k c hc
    simp [toCents, htrim, parseUnsigned_decimalText, h]
  · obtain ⟨k, rfl⟩ := Int.eq_ofNat_of_zero_le hn
    have htrim : jsTrim (decimalText k).toList = (decimalText k).toList :=
      jsTrim_of_forall (isJsSpace_decimalText k)
    obtain ⟨d, e, htext, -⟩ := toList_decimalText (n := k)
    have hsign : ∀ rest, (decimalText k).toList ≠ '-' :: rest := by
      intro rest heq
      cases hdigits : Nat.toDigits 10 (k / 100) with
      | nil => exact Nat.toDigits_ne_nil hdigits
      | cons c cs =>
        rw [htext, hdigits, List.cons_append] at heq
        have hc : c.isDigit = true :=
          isDigit_of_mem_toDigits (n := k / 100) (hdigits ▸ List.mem_cons_self)
        rw [(List.cons.inj heq).1] at hc
        exact absurd hc (by decide)
    rw [toCents, htrim]
    split
    · exact absurd ‹_› (hsign _)
    · rw [parseUnsigned_decimalText]
      simp [h]

theorem toCents_fromCents {n : Int} {text : String} (h : fromCents n = some text) :
    toCents text = some n := by
  rw [fromCents] at h
  split_ifs at h with hs
  rw [← Option.some.inj h]
  exact toCents_decimalText hs

/-- **The pattern of an amount accepts twelve digits before the point.** -/
theorem isAmountText_decimalText {n : Int} (hn : 0 ≤ n) :
    isAmountText (decimalText n) = true ↔ n < 10 ^ 14 := by
  obtain ⟨k, rfl⟩ := Int.eq_ofNat_of_zero_le hn
  obtain ⟨d, e, htext, -⟩ := toList_decimalText (n := k)
  have hlength := Nat.length_toDigits_le_iff (n := k / 100) (by omega : 1 < 10) (by omega : 0 < 12)
  have hpos : 0 < (Nat.toDigits 10 (k / 100)).length := Nat.length_toDigits_pos
  rw [isAmountText, parseUnsigned_decimalText, htext,
    takeWhile_units fun _ hc => isDigit_of_mem_toDigits hc]
  simp only [Option.isSome_some, Bool.and_true, Bool.and_eq_true, decide_eq_true_eq, hlength]
  omega

/-! ## Amounts received from the operator -/

/-- A text of `k` digits writes a number below `10 ^ k`. -/
theorem digitsVal_lt {cs : List Char} (h : ∀ c ∈ cs, c.isDigit = true) :
    digitsVal cs < 10 ^ cs.length := by
  induction cs using List.reverseRecOn with
  | nil => decide
  | append_singleton cs c ih =>
    have hcs := ih fun x hx => h x (List.mem_append_left _ hx)
    have hc : c.toNat ≤ 57 := by
      have hdigit := h c (List.mem_append_right _ List.mem_cons_self)
      rw [Char.isDigit, Bool.and_eq_true, decide_eq_true_eq, decide_eq_true_eq] at hdigit
      exact UInt32.le_iff_toNat_le.1 hdigit.2
    have hval : digitsVal (cs ++ [c]) = 10 * digitsVal cs + (c.toNat - 48) := by
      rw [digitsVal, List.foldl_append]
      rfl
    rw [hval, List.length_append, List.length_singleton, pow_succ]
    omega

/-- What a parsed text is made of: digits, and at most two more after a point. -/
theorem parseUnsigned_eq_some {cs : List Char} {n : Nat} (h : parseUnsigned cs = some n) :
    cs.takeWhile Char.isDigit ≠ [] ∧ (∀ c ∈ cs, c.isDigit = true ∨ c = '.') ∧
      n < (digitsVal (cs.takeWhile Char.isDigit) + 1) * 100 := by
  have hparts : ∀ c ∈ cs, c ∈ cs.takeWhile Char.isDigit ∨ c ∈ cs.dropWhile Char.isDigit := by
    intro c hc
    rw [← List.takeWhile_append_dropWhile (p := Char.isDigit) (l := cs), List.mem_append] at hc
    exact hc
  have hunits : ∀ c ∈ cs.takeWhile Char.isDigit, c.isDigit = true := fun c hc =>
    List.mem_takeWhile_imp hc
  have hone : ∀ {d : Char}, d.isDigit = true → digitsVal [d] < 10 := fun hd =>
    digitsVal_lt (List.forall_mem_singleton.2 hd)
  have htwo : ∀ {d e : Char}, d.isDigit = true → e.isDigit = true → digitsVal [d, e] < 100 :=
    fun hd he => digitsVal_lt (List.forall_mem_cons.2 ⟨hd, List.forall_mem_singleton.2 he⟩)
  unfold parseUnsigned at h
  generalize cs.takeWhile Char.isDigit = units at *
  generalize cs.dropWhile Char.isDigit = rest at *
  by_cases hnil : units = []
  · simp [hnil] at h
  · simp only [hnil, if_false] at h
    refine ⟨hnil, ?_⟩
    split at h
    · cases h
      exact ⟨fun c hc => (hparts c hc).elim (fun hu => .inl (hunits c hu)) (by simp), by omega⟩
    · rename_i d
      split_ifs at h with hd
      cases h
      refine ⟨fun c hc => ?_, by have := hone hd; omega⟩
      rcases hparts c hc with hu | hr
      · exact .inl (hunits c hu)
      · simp only [List.mem_cons, List.not_mem_nil, or_false] at hr
        rcases hr with rfl | rfl
        · exact .inr rfl
        · exact .inl hd
    · rename_i d e
      split_ifs at h with hde
      obtain ⟨hd, he⟩ := (Bool.and_eq_true _ _).mp hde
      cases h
      refine ⟨fun c hc => ?_, by have := htwo hd he; omega⟩
      rcases hparts c hc with hu | hr
      · exact .inl (hunits c hu)
      · simp only [List.mem_cons, List.not_mem_nil, or_false] at hr
        rcases hr with rfl | rfl | rfl
        · exact .inr rfl
        · exact .inl hd
        · exact .inl he
    · cases h

/-- **An amount received from the operator is a number of cents**, of at most fourteen digits. -/
theorem toCents_of_isAmountText {text : String} (h : isAmountText text = true) :
    ∃ n, toCents text = some n ∧ 0 ≤ n ∧ n < 10 ^ 14 := by
  simp only [isAmountText, Bool.and_eq_true, decide_eq_true_eq] at h
  obtain ⟨⟨-, hlength⟩, hsome⟩ := h
  obtain ⟨n, hn⟩ := Option.isSome_iff_exists.1 hsome
  obtain ⟨hunits, hchars, hlt⟩ := parseUnsigned_eq_some hn
  have htrim : jsTrim text.toList = text.toList := by
    refine jsTrim_of_forall fun c hc => ?_
    rcases hchars c hc with hdigit | rfl
    · exact isJsSpace_of_isDigit hdigit
    · decide
  have hsign : ∀ rest, text.toList ≠ '-' :: rest := by
    intro rest heq
    rcases hchars '-' (heq ▸ List.mem_cons_self) with hdigit | hpoint
    · exact absurd hdigit (by decide)
    · exact absurd hpoint (by decide)
  have hunits_lt : digitsVal (text.toList.takeWhile Char.isDigit) < 10 ^ 12 :=
    (digitsVal_lt fun c hc => List.mem_takeWhile_imp hc).trans_le
      (Nat.pow_le_pow_right (by decide) hlength)
  have hsafe : isSafeInteger (n : Int) = true := by
    rw [isSafeInteger, decide_eq_true_eq, JsNumber.maxSafeInteger, abs_le]
    omega
  refine ⟨n, ?_, by omega, by omega⟩
  rw [toCents, htrim]
  split
  · exact absurd ‹_› (hsign _)
  · rw [hn]
    simp [hsafe]

end ApiScore
