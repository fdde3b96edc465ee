import ApiScore.Backtest.JsonTexts
import ApiScore.Lib.Base64
import ApiScore.Odds.Quotes
import ApiScore.Simulation.IsoDates

/-!
# The cursor of the decisions

`encodeCursor` writes the instant and the identifier of a decision as a JSON array of two strings,
in base64url, and `decodeCursor` reads them back.  Anything else it is given is refused, unless it
is such an array of a date and of something that looks like an identifier.

* `readPair` — `JSON.parse`, as far as an array of two strings.
* `encodeCursor`, `decodeCursor` — the cursor.
* `decodeCursor_encodeCursor` — what is written is read back, to the millisecond.
-/

set_option autoImplicit false

open Base64

namespace ApiScore

/-! ## Bytes -/

/-- The bytes of a code unit, unless it is one of a pair of surrogates. -/
def unitBytes (c : UInt16) : List UInt8 :=
  let n := c.toNat
  if n < 0x80 then [n.toUInt8]
  else if n < 0x800 then [(0xC0 + n / 64).toUInt8, (0x80 + n % 64).toUInt8]
  else if isHighSurrogate c ∨ isLowSurrogate c then [0xEF, 0xBF, 0xBD]
  else [(0xE0 + n / 4096).toUInt8, (0x80 + n / 64 % 64).toUInt8, (0x80 + n % 64).toUInt8]

/-- The bytes of a pair of surrogates. -/
def pairBytes (c d : UInt16) : List UInt8 :=
  let n := 0x10000 + (c.toNat - 0xD800) * 0x400 + (d.toNat - 0xDC00)
  [(0xF0 + n / 262144).toUInt8, (0x80 + n / 4096 % 64).toUInt8, (0x80 + n / 64 % 64).toUInt8,
    (0x80 + n % 64).toUInt8]

/-- `Buffer.from(text)`. -/
def utf8Bytes : JsText → List UInt8
  | c :: d :: rest =>
    if isHighSurrogate c && isLowSurrogate d then pairBytes c d ++ utf8Bytes rest
    else unitBytes c ++ utf8Bytes (d :: rest)
  | [c] => unitBytes c
  | [] => []

/-- `base64url`; the reader takes the letters of plain base 64 as well. -/
def base64url : Alphabet Char where
  letter n :=
    if n < 26 then Char.ofNat (65 + n)
    else if n < 52 then Char.ofNat (71 + n)
    else if n < 62 then Char.ofNat (n - 4)
    else if n = 62 then '-'
    else '_'
  value c :=
    if c.isUpper then some (c.toNat - 65)
    else if c.isLower then some (c.toNat - 71)
    else if c.isDigit then some (c.toNat + 4)
    else if c = '-' ∨ c = '+' then some 62
    else if c = '_' ∨ c = '/' then some 63
    else none
  value_letter := by decide

/-! ## An array of two strings -/

/-- The white space of a JSON text. -/
def jsonSpace (c : UInt16) : Bool := among " \t\n\r" c

def skipSpace (text : JsText) : JsText := text.dropWhile jsonSpace

/-- The value of a digit of a `\u` escape. -/
def hexValue (c : UInt16) : Option Nat :=
  if digit c then some (c.toNat - 48)
  else if between 'a' 'f' c then some (c.toNat - 87)
  else if between 'A' 'F' c then some (c.toNat - 55)
  else none

/-- What a character stands for after a backslash. -/
def escaped (c : UInt16) : Option UInt16 :=
  if c = unit '"' ∨ c = unit '\\' ∨ c = unit '/' then some c
  else if c = unit 'b' then some 8
  else if c = unit 't' then some 9
  else if c = unit 'n' then some 10
  else if c = unit 'f' then some 12
  else if c = unit 'r' then some 13
  else none

/-- A string after its first quotation mark, and what follows it. -/
def readString : JsText → Option (JsText × JsText)
  | [] => none
  | c :: rest =>
    if c = unit '"' then some ([], rest)
    else if c = unit '\\' then
      match rest with
      | [] => none
      | e :: rest =>
        if e = unit 'u' then
          match rest with
          | h₁ :: h₂ :: h₃ :: h₄ :: rest => do
            let code := (← hexValue h₁) * 4096 + (← hexValue h₂) * 256 + (← hexValue h₃) * 16 +
              (← hexValue h₄)
            (readString rest).map fun read => (code.toUInt16 :: read.1, read.2)
          | _ => none
        else do
          let unit ← escaped e
          (readString rest).map fun read => (unit :: read.1, read.2)
    else if c.toNat < 32 then none
    else (readString rest).map fun read => (c :: read.1, read.2)

/-- What follows a character, after white space. -/
def expect (c : Char) (text : JsText) : Option JsText :=
  match skipSpace text with
  | [] => none
  | d :: rest => if d = unit c then some rest else none

/-- `JSON.parse`, of an array of two strings; any other text is refused by the caller, whatever it
is. -/
def readPair (text : JsText) : Option (JsText × JsText) := do
  let (first, text) ← readString (← expect '"' (← expect '[' text))
  let (second, text) ← readString (← expect '"' (← expect ',' text))
  if skipSpace (← expect ']' text) = [] then some (first, second) else none

/-! ## The cursor -/

structure DecisionCursor where
  decidedAt : Int
  id : String
  deriving DecidableEq

/-- `JSON.stringify`, of an array of two strings. -/
def pairText (first second : JsText) : JsText :=
  unit '[' :: (quoted first ++ unit ',' :: (quoted second ++ [unit ']']))

/-- `encodeCursor`. -/
def encodeCursor (cursor : DecisionCursor) : String :=
  String.ofList (base64url.encode (utf8Bytes
    (pairText (jsText (toISOString cursor.decidedAt)) (jsText cursor.id))))

/-- What `decodeCursor` uses of the platform. -/
structure CursorReader where
  /-- `Buffer.toString('utf8')`. -/
  utf8Text : List UInt8 → JsText
  /-- `new Date(text).getTime()`, where it is a number. -/
  dateOf : JsText → Option Int
  utf8Text_ascii : ∀ text : JsText, (∀ c ∈ text, c.toNat < 128) →
    utf8Text (text.map fun c => c.toNat.toUInt8) = text
  /-- The dates are those up to 100 000 000 days from 1970. -/
  dateOf_toISOString : ∀ ms : Int, |ms| ≤ 8640000000000000 →
    dateOf (jsText (toISOString ms)) = some ms

/-- `/^[0-9a-f-]{36}$/i`, of the text that was read. -/
def isCursorText (id : JsText) : Bool :=
  id.length == 36 &&
    id.all fun c => digit c || between 'a' 'f' c || between 'A' 'F' c || among "-" c

/-- `decodeCursor`. -/
def decodeCursor (reader : CursorReader) (cursor : String) : Except ServiceError DecisionCursor :=
  let invalid := .error (.http "Curseur invalide")
  match readPair (reader.utf8Text (base64url.decode cursor.toList)) with
  | none => invalid
  | some (date, id) =>
    if isCursorText id then
      match reader.dateOf date with
      | some decidedAt =>
        .ok { decidedAt, id := String.ofList (id.map fun c => Char.ofNat c.toNat) }
      | none => invalid
    else invalid

/-! ## Plain texts -/

/-- A code unit of printable ASCII that stands for itself in a string. -/
structure PlainUnit (c : UInt16) : Prop where
  printable : 32 ≤ c.toNat
  ascii : c.toNat < 128
  quote : c ≠ unit '"'
  backslash : c ≠ unit '\\'

section Plain

variable {text rest : JsText} {c : UInt16}

theorem PlainUnit.unitText (h : PlainUnit c) : unitText c = [c] := by
  have hprintable := h.printable
  have hascii := h.ascii
  have hhigh : isHighSurrogate c = false := decide_eq_false (by omega)
  have hlow : isLowSurrogate c = false := decide_eq_false (by omega)
  have hcontrol : ¬(c.toNat < 32 ∨ isHighSurrogate c = true ∨ isLowSurrogate c = true) := by
    rw [hhigh, hlow]
    rintro (hlt | heq | heq)
    · omega
    · cases heq
    · cases heq
  rw [ApiScore.unitText, if_neg (not_or.2 ⟨h.quote, h.backslash⟩), if_neg (by omega),
    if_neg (by omega), if_neg (by omega), if_neg (by omega), if_neg (by omega), if_neg hcontrol]

theorem quotedUnits_plain (h : ∀ c ∈ text, PlainUnit c) : quotedUnits text = text := by
  fun_induction quotedUnits text with
  | case1 c d rest hpair ih =>
    have hascii := (h c List.mem_cons_self).ascii
    simp only [isHighSurrogate, Bool.and_eq_true, decide_eq_true_eq] at hpair
    omega
  | case2 c d rest _ ih =>
    rw [(h c List.mem_cons_self).unitText, ih fun x hx => h x (List.mem_cons_of_mem _ hx)]
    rfl
  | case3 c => exact (h c List.mem_cons_self).unitText
  | case4 => rfl

/-- A plain string is read up to its end. -/
theorem readString_plain (h : ∀ c ∈ text, PlainUnit c) (rest : JsText) :
    readString (text ++ unit '"' :: rest) = some (text, rest) := by
  induction text with
  | nil =>
    rw [List.nil_append, readString.eq_def]
    exact if_pos rfl
  | cons c text ih =>
    have hc := h c List.mem_cons_self
    have hprintable := hc.printable
    have ih := ih fun x hx => h x (List.mem_cons_of_mem _ hx)
    rw [List.cons_append, readString.eq_def]
    dsimp only
    rw [if_neg hc.quote, if_neg hc.backslash, if_neg (by omega), ih]
    rfl

/-- **Two plain strings are read back.** -/
theorem readPair_pairText {first second : JsText} (hfirst : ∀ c ∈ first, PlainUnit c)
    (hsecond : ∀ c ∈ second, PlainUnit c) :
    readPair (pairText first second) = some (first, second) := by
  have hbracket (rest : JsText) : expect '[' (unit '[' :: rest) = some rest := rfl
  have hquote (rest : JsText) : expect '"' (unit '"' :: rest) = some rest := rfl
  have hcomma (rest : JsText) : expect ',' (unit ',' :: rest) = some rest := rfl
  have hclose : expect ']' [unit ']'] = some [] := rfl
  simp only [readPair, pairText, quoted, quotedUnits_plain hfirst, quotedUnits_plain hsecond,
    List.cons_append, List.append_assoc, List.nil_append, hbracket, hquote, Option.bind_eq_bind,
    Option.bind_some, readString_plain hfirst, hcomma, readString_plain hsecond, hclose]
  rfl

theorem utf8Bytes_ascii (h : ∀ c ∈ text, c.toNat < 128) :
    utf8Bytes text = text.map fun c => c.toNat.toUInt8 := by
  have hunit : ∀ c ∈ text, unitBytes c = [c.toNat.toUInt8] := fun c hc => if_pos (h c hc)
  fun_induction utf8Bytes text with
  | case1 c d rest hpair ih =>
    have hascii := h c List.mem_cons_self
    simp only [isHighSurrogate, Bool.and_eq_true, decide_eq_true_eq] at hpair
    omega
  | case2 c d rest _ ih =>
    rw [hunit c List.mem_cons_self, ih (fun x hx => h x (List.mem_cons_of_mem _ hx))
      fun x hx => hunit x (List.mem_cons_of_mem _ hx)]
    rfl
  | case3 c => exact hunit c List.mem_cons_self
  | case4 => rfl

theorem ascii_pairText {first second : JsText} (hfirst : ∀ c ∈ first, PlainUnit c)
    (hsecond : ∀ c ∈ second, PlainUnit c) : ∀ c ∈ pairText first second, c.toNat < 128 := by
  rw [pairText, quoted, quoted, quotedUnits_plain hfirst, quotedUnits_plain hsecond]
  simp only [List.cons_append, List.append_assoc, List.nil_append, List.forall_mem_cons,
    List.forall_mem_append]
  exact ⟨by decide, by decide, fun c hc => (hfirst c hc).ascii, by decide, by decide, by decide,
    fun c hc => (hsecond c hc).ascii, by decide, by decide, List.forall_mem_nil _⟩

end Plain

/-! ## Reading a cursor -/

/-- The code unit of an ASCII character. -/
theorem charUnits_ascii {c : Char} (h : c.toNat < 128) :
    charUnits c = [unit c] ∧ (unit c).toNat = c.toNat := by
  refine ⟨?_, ?_⟩
  · rw [charUnits, if_pos (by omega)]
    rfl
  · exact Nat.mod_eq_of_lt (by omega)

theorem jsText_ascii {s : String} (h : ∀ c ∈ s.toList, c.toNat < 128) :
    jsText s = s.toList.map unit := by
  rw [jsText, List.map_eq_flatMap]
  exact List.flatMap_congr fun c hc => (charUnits_ascii (h c hc)).1

/-- The characters of an ASCII text. -/
theorem chars_jsText {s : String} (h : ∀ c ∈ s.toList, c.toNat < 128) :
    (jsText s).map (fun c => Char.ofNat c.toNat) = s.toList := by
  rw [jsText_ascii h, List.map_map]
  refine (List.map_congr_left fun c hc => ?_).trans (List.map_id _)
  rw [Function.comp_apply, (charUnits_ascii (h c hc)).2, Char.ofNat_toNat, id_eq]

theorem plain_jsText {s : String} (h : ∀ c ∈ s.toList, PlainUnit (unit c) ∧ c.toNat < 128) :
    ∀ c ∈ jsText s, PlainUnit c := by
  rw [jsText_ascii fun c hc => (h c hc).2]
  exact List.forall_mem_map.2 fun c hc => (h c hc).1

/-- The characters that a date or an identifier is made of. -/
def cursorChars : List Char :=
  ['0', '1', '2', '3', '4', '5', '6', '7', '8', '9', 'a', 'b', 'c', 'd', 'e', 'f', '-', '+', 'T',
    ':', '.', 'Z']

theorem plainUnit_of_mem : ∀ c ∈ cursorChars, PlainUnit (unit c) ∧ c.toNat < 128 := by
  have hall : (cursorChars.all fun c => decide ((32 ≤ (unit c).toNat ∧ (unit c).toNat < 128 ∧
      unit c ≠ unit '"' ∧ unit c ≠ unit '\\') ∧ c.toNat < 128)) = true := by
    decide
  intro c hc
  obtain ⟨⟨hprintable, hascii, hquote, hbackslash⟩, hchar⟩ :=
    of_decide_eq_true (List.all_eq_true.1 hall c hc)
  exact ⟨⟨hprintable, hascii, hquote, hbackslash⟩, hchar⟩

/-- A character between two others is one of those between them. -/
theorem mem_cursorChars_of_between (lo hi : Nat) {c : Char} (hlo : lo ≤ c.toNat)
    (hhi : c.toNat ≤ hi) (h : ∀ n ≤ hi, lo ≤ n → Char.ofNat n ∈ cursorChars) : c ∈ cursorChars := by
  rw [← Char.ofNat_toNat c]
  exact h _ hhi hlo

theorem mem_cursorChars_of_isDigit {c : Char} (h : c.isDigit = true) : c ∈ cursorChars := by
  rw [Char.isDigit, Bool.and_eq_true, decide_eq_true_eq, decide_eq_true_eq] at h
  exact mem_cursorChars_of_between 48 57 h.1 h.2 (by decide)

theorem mem_cursorChars_of_generated {id : String} (h : isGeneratedId id = true) :
    ∀ c ∈ id.toList, c ∈ cursorChars := by
  intro c hc
  have hchar := List.all_eq_true.1 h c hc
  simp only [Bool.or_eq_true, Bool.and_eq_true, decide_eq_true_eq, beq_iff_eq] at hchar
  rcases hchar with (hdigit | ⟨hlo, hhi⟩) | rfl
  · exact mem_cursorChars_of_isDigit hdigit
  · exact mem_cursorChars_of_between 97 102 hlo hhi (by decide)
  · decide

theorem mem_cursorChars_of_date {ms : Int} : ∀ c ∈ (toISOString ms).toList, c ∈ cursorChars := by
  intro c hc
  rcases isDigit_or_of_mem_toISOString c hc with hdigit | hmem
  · exact mem_cursorChars_of_isDigit hdigit
  · have hall : (['-', '+', 'T', ':', '.', 'Z'].all fun c => decide (c ∈ cursorChars)) = true := by
      decide
    exact of_decide_eq_true (List.all_eq_true.1 hall c hmem)

theorem ascii_date (ms : Int) : ∀ c ∈ (toISOString ms).toList, c.toNat < 128 := fun c hc =>
  (plainUnit_of_mem c (mem_cursorChars_of_date c hc)).2

theorem plain_date (ms : Int) : ∀ c ∈ jsText (toISOString ms), PlainUnit c :=
  plain_jsText fun c hc => plainUnit_of_mem c (mem_cursorChars_of_date c hc)

theorem ascii_id {id : String} (h : isGeneratedId id = true) : ∀ c ∈ id.toList, c.toNat < 128 :=
  fun c hc => (plainUnit_of_mem c (mem_cursorChars_of_generated h c hc)).2

theorem plain_id {id : String} (h : isGeneratedId id = true) : ∀ c ∈ jsText id, PlainUnit c :=
  plain_jsText fun c hc => plainUnit_of_mem c (mem_cursorChars_of_generated h c hc)

/-- The identifier of a decision passes the check of the cursor. -/
theorem isCursorText_id {id : String} (h : isGeneratedId id = true) (hlength : id.length = 36) :
    isCursorText (jsText id) = true := by
  rw [isCursorText, jsText_ascii (ascii_id h), List.length_map, String.length_toList, hlength,
    Bool.and_eq_true, List.all_map, List.all_eq_true]
  refine ⟨rfl, fun c hc => ?_⟩
  have hunit := (charUnits_ascii (ascii_id h c hc)).2
  have hchar := List.all_eq_true.1 h c hc
  simp only [Bool.or_eq_true, Bool.and_eq_true, decide_eq_true_eq, beq_iff_eq] at hchar
  rw [Function.comp_apply]
  rcases hchar with (hdigit | hletter) | rfl
  · rw [Char.isDigit, Bool.and_eq_true, decide_eq_true_eq, decide_eq_true_eq] at hdigit
    have hin : digit (unit c) = true := by
      rw [digit, between, hunit, Bool.and_eq_true, decide_eq_true_eq, decide_eq_true_eq]
      exact hdigit
    rw [hin]
    rfl
  · have hin : between 'a' 'f' (unit c) = true := by
      rw [between, hunit, Bool.and_eq_true, decide_eq_true_eq, decide_eq_true_eq]
      exact hletter
    rw [hin, Bool.or_true]
    rfl
  · rfl

/-- The identifier is read as it was. -/
theorem ofList_jsText {id : String} (h : isGeneratedId id = true) :
    String.ofList ((jsText id).map fun c => Char.ofNat c.toNat) = id := by
  rw [chars_jsText (ascii_id h), String.ofList_toList]

/-- **What is written is read back**, to the millisecond. -/
theorem decodeCursor_encodeCursor (reader : CursorReader) {cursor : DecisionCursor}
    (hid : isGeneratedId cursor.id = true) (hlength : cursor.id.length = 36)
    (hdate : |cursor.decidedAt| ≤ 8640000000000000) :
    decodeCursor reader (encodeCursor cursor) = .ok cursor := by
  have hfirst := plain_date cursor.decidedAt
  have hsecond := plain_id hid
  have hascii := ascii_pairText hfirst hsecond
  have hpair : readPair (reader.utf8Text (base64url.decode (encodeCursor cursor).toList)) =
      some (jsText (toISOString cursor.decidedAt), jsText cursor.id) := by
    rw [encodeCursor, String.toList_ofList, base64url.decode_encode, utf8Bytes_ascii hascii,
      reader.utf8Text_ascii _ hascii, readPair_pairText hfirst hsecond]
  rw [decodeCursor, hpair]
  dsimp only
  rw [if_pos (isCursorText_id hid hlength), reader.dateOf_toISOString _ hdate, ofList_jsText hid]

end ApiScore
