import ApiScore.Execution.DecimalForms
import ApiScore.Execution.RunOpening

/-!
# Dates and their texts

`toISOString` names a day by its year, month and day, and the day can be found again from these; so
the text of an instant tells which instant it is.

* `daysOf`, `daysOf_civilDate` — the day of a year, a month and a day.
* `instantOf`, `instantOf_toISOString` — the instant of a text.
-/

set_option autoImplicit false

namespace ApiScore

/-! ## Days -/

/-- The year of a day of an era of four hundred years, counted from 1 March. -/
def yearOfEra (doe : Nat) : Nat := (doe - doe / 1460 + doe / 36524 - doe / 146096) / 365

/-- The days of an era before its years. -/
def daysBefore (yoe : Nat) : Nat := 365 * yoe + yoe / 4 - yoe / 100

/-- The number of a day, by its year, month and day. -/
def daysOf (year : Int) (month day : Nat) : Int :=
  -- a year begins with its month of March
  let y := if month ≤ 2 then year - 1 else year
  let mp := if month ≤ 2 then month + 9 else month - 3
  y / 400 * 146097 + daysBefore (y % 400).toNat + ((153 * mp + 2) / 5 + (day - 1) : Nat) - 719468

/-- The days without those that are added to leap years. -/
def plainDays (doe : Nat) : Nat := doe - doe / 1460 + doe / 36524 - doe / 146096

theorem plainDays_mono : Monotone plainDays := by
  refine monotone_nat_of_le_succ fun n => ?_
  simp only [plainDays]
  omega

/-- A year begins where its plain days begin. -/
theorem plainDays_daysBefore : ∀ y < 400, 365 * y ≤ plainDays (daysBefore y) ∧
    (0 < y → plainDays (daysBefore y - 1) < 365 * y) := by
  decide +kernel

section Year

variable {doe : Nat} (h : doe < 146097)

include h

theorem yearOfEra_le : yearOfEra doe ≤ 399 := by
  rw [yearOfEra]
  omega

theorem daysBefore_yearOfEra_le : daysBefore (yearOfEra doe) ≤ doe := by
  have hyear := yearOfEra_le h
  obtain ⟨-, hbegin⟩ := plainDays_daysBefore (yearOfEra doe) (by omega)
  have hdays : 365 * yearOfEra doe ≤ plainDays doe := Nat.mul_div_le _ _
  by_contra hlt
  have hmono := plainDays_mono (show doe ≤ daysBefore (yearOfEra doe) - 1 by omega)
  rcases Nat.eq_zero_or_pos (yearOfEra doe) with hzero | hpos
  · rw [hzero] at hlt
    exact hlt (Nat.zero_le doe)
  · have := hbegin hpos
    omega

theorem le_daysBefore_yearOfEra : doe ≤ daysBefore (yearOfEra doe) + 365 := by
  have hyear := yearOfEra_le h
  by_contra hlt
  have hnext : daysBefore (yearOfEra doe + 1) ≤ doe := by
    simp only [daysBefore] at hlt ⊢
    omega
  rcases Nat.lt_or_ge (yearOfEra doe + 1) 400 with hin | hlast
  · have hbegin := (plainDays_daysBefore _ hin).1
    have hmono := plainDays_mono hnext
    have hdays : plainDays doe < 365 * (yearOfEra doe + 1) := Nat.lt_mul_div_succ _ (by decide)
    omega
  · have heq : yearOfEra doe = 399 := by omega
    rw [heq] at hlt
    simp only [daysBefore] at hlt
    omega

end Year

/-- A day of a year that begins in March. -/
theorem daysOf_eq (era : Int) {yoe doy mp : Nat} (hyoe : yoe ≤ 399) (hdoy : doy ≤ 365)
    (hmp : mp = (5 * doy + 2) / 153) :
    daysOf (yoe + era * 400 + if (if mp < 10 then mp + 3 else mp - 9) ≤ 2 then 1 else 0)
        (if mp < 10 then mp + 3 else mp - 9) (doy - (153 * mp + 2) / 5 + 1) =
      era * 146097 + daysBefore yoe + doy - 719468 := by
  have hyear : ((yoe : Int) + era * 400) / 400 = era ∧
      (((yoe : Int) + era * 400) % 400).toNat = yoe := by omega
  have hday : (153 * mp + 2) / 5 + (doy - (153 * mp + 2) / 5) = doy := by omega
  by_cases hspring : mp < 10
  · simp only [daysOf, if_pos hspring, if_neg (show ¬mp + 3 ≤ 2 by omega), add_zero, hyear.1,
      hyear.2, Nat.add_sub_cancel, hday]
  · have hmonth : mp - 9 ≤ 2 := by omega
    simp only [daysOf, if_neg hspring, if_pos hmonth, add_sub_cancel_right, hyear.1, hyear.2,
      Nat.sub_add_cancel (show 9 ≤ mp by omega), Nat.add_sub_cancel, hday]

/-- **The day of a date.** -/
theorem daysOf_civilDate (days : Int) :
    daysOf (civilDate days).1 (civilDate days).2.1 (civilDate days).2.2 = days := by
  obtain ⟨doe, hdoe⟩ : ∃ doe : Nat, doe = ((days + 719468) % 146097).toNat := ⟨_, rfl⟩
  have hlt : doe < 146097 := by omega
  have hle := daysBefore_yearOfEra_le hlt
  have hge := le_daysBefore_yearOfEra hlt
  have heq := daysOf_eq ((days + 719468) / 146097) (yearOfEra_le hlt)
    (show doe - daysBefore (yearOfEra doe) ≤ 365 by omega) rfl
  rw [hdoe] at heq hle
  refine Eq.trans heq ?_
  omega

/-! ## Texts -/

/-- The year at the beginning of a text, with its sign if it has more than four digits. -/
def yearOf : List Char → Int
  | '-' :: digits => -digitsVal digits
  | '+' :: digits => digitsVal digits
  | digits => digitsVal digits

/-- The instant of the numbers that stand where `toISOString` writes them. -/
def instantAt (text : List Char) : Int :=
  let rest := text.drop (text.length - 20)
  let number (start width : Nat) : Nat := digitsVal ((rest.drop start).take width)
  daysOf (yearOf (text.take (text.length - 20))) (number 1 2) (number 4 2) * 86400000 +
    (number 7 2 * 3600000 + number 10 2 * 60000 + number 13 2 * 1000 + number 16 3 : Nat)

/-- The instant of a text that `toISOString` writes. -/
def instantOf (text : List Char) : Option Int :=
  if (toISOString (instantAt text)).toList = text then some (instantAt text) else none

section PadStart

variable {width n : Nat}

theorem padStart_toList (width n : Nat) : (padStart width n).toList =
    List.replicate (width - (Nat.toDigits 10 n).length) '0' ++ Nat.toDigits 10 n := by
  rw [padStart, String.toList_append, String.toList_ofList, Nat.toString_eq_repr, Nat.toList_repr,
    ← Nat.toList_repr, String.length_toList]

theorem digitsVal_padStart (width n : Nat) : digitsVal (padStart width n).toList = n := by
  have hzeros (k : Nat) : digitsVal (List.replicate k '0') = 0 := by
    induction k with
    | zero => rfl
    | succ k ih => rw [List.replicate_succ', digitsVal_append, ih]; rfl
  rw [padStart_toList, digitsVal_append, hzeros, digitsVal_toDigits, Nat.mul_zero, Nat.zero_add]

theorem isDigit_padStart : ∀ c ∈ (padStart width n).toList, c.isDigit = true := by
  rw [padStart_toList]
  refine List.forall_mem_append.2 ⟨fun c hc => ?_, fun c hc => isDigit_of_mem_toDigits hc⟩
  rw [(List.mem_replicate.1 hc).2]
  decide

theorem length_padStart (hpos : 0 < width) (h : n < 10 ^ width) :
    (padStart width n).toList.length = width := by
  have hdigits := (Nat.length_toDigits_le_iff (by omega : 1 < 10) hpos).2 h
  rw [padStart_toList, List.length_append, List.length_replicate]
  omega

/-- A number of two digits. -/
theorem padStart_two (h : n < 100) :
    ∃ d e, (padStart 2 n).toList = [d, e] ∧ digitsVal [d, e] = n := by
  obtain ⟨d, e, hde⟩ := List.length_eq_two.1 (length_padStart two_pos h)
  exact ⟨d, e, hde, hde ▸ digitsVal_padStart 2 n⟩

theorem padStart_three (h : n < 1000) :
    ∃ d e f, (padStart 3 n).toList = [d, e, f] ∧ digitsVal [d, e, f] = n := by
  obtain ⟨d, e, f, hdef⟩ := List.length_eq_three.1 (length_padStart three_pos h)
  exact ⟨d, e, f, hdef, hdef ▸ digitsVal_padStart 3 n⟩

end PadStart

/-! ## The text of an instant -/

/-- How a year is written. -/
def yearText (year : Int) : List Char :=
  if year < 0 then '-' :: (padStart 6 year.natAbs).toList
  else if year ≤ 9999 then (padStart 4 year.natAbs).toList
  else '+' :: (padStart 6 year.natAbs).toList

theorem yearOf_of_isDigit {digits : List Char} (h : ∀ c ∈ digits, c.isDigit = true) :
    yearOf digits = digitsVal digits := by
  rw [yearOf.eq_def]
  split
  · exact absurd (h _ List.mem_cons_self) (by decide)
  · exact absurd (h _ List.mem_cons_self) (by decide)
  · rfl

theorem yearOf_yearText (year : Int) : yearOf (yearText year) = year := by
  rw [yearText]
  split_ifs with hneg hfour
  · rw [yearOf, digitsVal_padStart]
    omega
  · rw [yearOf_of_isDigit isDigit_padStart, digitsVal_padStart]
    omega
  · rw [yearOf, digitsVal_padStart]
    omega

theorem civilDate_lt (days : Int) : (civilDate days).2.1 < 100 ∧ (civilDate days).2.2 < 100 := by
  obtain ⟨doe, hdoe⟩ : ∃ doe : Nat, doe = ((days + 719468) % 146097).toNat := ⟨_, rfl⟩
  have hlt : doe < 146097 := by omega
  have hle := daysBefore_yearOfEra_le hlt
  have hge := le_daysBefore_yearOfEra hlt
  obtain ⟨doy, hdoy⟩ : ∃ doy : Nat, doy = doe - daysBefore (yearOfEra doe) := ⟨_, rfl⟩
  have hmonth : (civilDate days).2.1 =
      if (5 * doy + 2) / 153 < 10 then (5 * doy + 2) / 153 + 3 else (5 * doy + 2) / 153 - 9 := by
    rw [hdoy, hdoe]
    rfl
  have hday : (civilDate days).2.2 = doy - (153 * ((5 * doy + 2) / 153) + 2) / 5 + 1 := by
    rw [hdoy, hdoe]
    rfl
  rw [hmonth, hday]
  constructor
  · split_ifs <;> omega
  · omega

theorem toISOString_toList (ms : Int) : (toISOString ms).toList =
    yearText (civilDate (ms / 86400000)).1 ++
      ('-' :: ((padStart 2 (civilDate (ms / 86400000)).2.1).toList ++
        '-' :: ((padStart 2 (civilDate (ms / 86400000)).2.2).toList ++
          'T' :: ((padStart 2 ((ms % 86400000).toNat / 3600000)).toList ++
            ':' :: ((padStart 2 ((ms % 86400000).toNat / 60000 % 60)).toList ++
              ':' :: ((padStart 2 ((ms % 86400000).toNat / 1000 % 60)).toList ++
                '.' :: ((padStart 3 ((ms % 86400000).toNat % 1000)).toList ++ ['Z']))))))) := by
  have hyear (year : Int) : (if year < 0 then "-" ++ padStart 6 year.natAbs
      else if year ≤ 9999 then padStart 4 year.natAbs
      else "+" ++ padStart 6 year.natAbs).toList = yearText year := by
    rw [yearText]
    split_ifs <;> simp
  rw [toISOString]
  simp [hyear]

/-- **The instant of its text.** -/
theorem instantAt_toISOString (ms : Int) : instantAt (toISOString ms).toList = ms := by
  have hdays := daysOf_civilDate (ms / 86400000)
  have hyear := yearOf_yearText (civilDate (ms / 86400000)).1
  obtain ⟨hmonth, hday⟩ := civilDate_lt (ms / 86400000)
  rw [toISOString_toList]
  generalize (civilDate (ms / 86400000)).1 = year at *
  generalize (civilDate (ms / 86400000)).2.1 = month at *
  generalize (civilDate (ms / 86400000)).2.2 = day at *
  obtain ⟨time, htime⟩ : ∃ time : Nat, time = (ms % 86400000).toNat := ⟨_, rfl⟩
  rw [← htime]
  obtain ⟨m₁, m₂, hm, hmval⟩ := padStart_two hmonth
  obtain ⟨d₁, d₂, hd, hdval⟩ := padStart_two hday
  obtain ⟨h₁, h₂, hh, hhval⟩ := padStart_two (n := time / 3600000) (by omega)
  obtain ⟨n₁, n₂, hn, hnval⟩ := padStart_two (n := time / 60000 % 60) (by omega)
  obtain ⟨s₁, s₂, hs, hsval⟩ := padStart_two (n := time / 1000 % 60) (by omega)
  obtain ⟨f₁, f₂, f₃, hf, hfval⟩ := padStart_three (n := time % 1000) (by omega)
  rw [hm, hd, hh, hn, hs, hf]
  simp only [List.cons_append, List.nil_append, instantAt, List.length_append, List.length_cons,
    List.length_nil, Nat.add_sub_cancel, List.take_left', List.drop_left', hyear]
  simp only [List.drop, List.take, hmval, hdval, hhval, hnval, hsval, hfval, hdays]
  omega

theorem instantOf_toISOString (ms : Int) : instantOf (toISOString ms).toList = some ms := by
  rw [instantOf, instantAt_toISOString, if_pos rfl]

/-- The characters of a date. -/
theorem isDigit_or_of_mem_toISOString {ms : Int} :
    ∀ c ∈ (toISOString ms).toList, c.isDigit = true ∨ c ∈ ['-', '+', 'T', ':', '.', 'Z'] := by
  have hpad (width n : Nat) : ∀ c ∈ (padStart width n).toList,
      c.isDigit = true ∨ c ∈ ['-', '+', 'T', ':', '.', 'Z'] :=
    fun c hc => .inl (isDigit_padStart c hc)
  have hyear : ∀ c ∈ yearText (civilDate (ms / 86400000)).1,
      c.isDigit = true ∨ c ∈ ['-', '+', 'T', ':', '.', 'Z'] := by
    rw [yearText]
    split_ifs
    · exact List.forall_mem_cons.2 ⟨by decide, hpad _ _⟩
    · exact hpad _ _
    · exact List.forall_mem_cons.2 ⟨by decide, hpad _ _⟩
  rw [toISOString_toList]
  simp only [List.forall_mem_append, List.forall_mem_cons]
  refine ⟨hyear, by decide, hpad _ _, by decide, hpad _ _, by decide, hpad _ _, by decide, hpad _ _,
    by decide, hpad _ _, by decide, hpad _ _, by decide, fun _ h => nomatch h⟩

end ApiScore
