import ApiScore.Matches.Json
import ApiScore.Odds.Quotes

/-!
# Canonical JSON

The text that a data set is hashed as: `canonicalJson` (`backtest-engine.service.ts`) prints a value
with the fields of every object sorted by their names.

* `canonicalJson` — the text of a value.
* `canonicalJson_arr_congr`, `canonicalJson_obj_congr` — the text of a value is made of the texts of
  its parts.
* `isPlainText_canonicalJson_arr` — a list of plain texts is printed as a plain text.
-/

set_option autoImplicit false

namespace ApiScore

open Ranked

/-! ## What JavaScript gives -/

/-- The library of the language, as far as the replay uses it. -/
structure Runtime where
  /-- `localeCompare`. -/
  collation : Collation
  /-- `Number`. -/
  number : JsValue → JsNumber
  /-- `String`, of a number. -/
  numberText : JsNumber → String
  /-- A number is printed in digits, signs and points. -/
  plainNumber : ∀ x, isPlainText (numberText x) = true
  /-- `toISOString`. -/
  isoText : Int → String
  /-- `createHash('sha256')`, in hexadecimal. -/
  sha256 : String → String

/-! ## Texts -/

def hexDigits : List Char :=
  ['0', '1', '2', '3', '4', '5', '6', '7', '8', '9', 'a', 'b', 'c', 'd', 'e', 'f']

/-- How a character stands in a JSON text. -/
def jsonChar (c : Char) : List Char :=
  if c = '"' then ['\\', '"']
  else if c = '\\' then ['\\', '\\']
  else if c.toNat = 8 then ['\\', 'b']
  else if c.toNat = 9 then ['\\', 't']
  else if c.toNat = 10 then ['\\', 'n']
  else if c.toNat = 12 then ['\\', 'f']
  else if c.toNat = 13 then ['\\', 'r']
  else if c.toNat < 32 then
    ['\\', 'u', '0', '0', hexDigits[c.toNat / 16]?.getD '0', hexDigits[c.toNat % 16]?.getD '0']
  else [c]

/-- A text between quotation marks. -/
def jsonString (text : String) : String :=
  "\"" ++ String.ofList (text.toList.flatMap jsonChar) ++ "\""

/-! ## Objects -/

/-- The name of an element of an array: a decimal number below 2^32 - 1 without leading zeros. -/
def arrayIndex? (key : String) : Option Nat :=
  key.toNat?.filter fun n => n < 2 ^ 32 - 1 && toString n == key

/-- The code units of a text in UTF-16. -/
def codeUnits (text : String) : List Nat :=
  text.toList.flatMap fun c =>
    if c.toNat < 65536 then [c.toNat]
    else [55296 + (c.toNat - 65536) / 1024, 56320 + (c.toNat - 65536) % 1024]

/-- The order in which an object filled in the order of `Object.keys(…).sort()` lists its fields: the
indices come first. -/
def fieldOrder (a b : String) : Ordering :=
  match arrayIndex? a, arrayIndex? b with
  | some m, some n => compare m n
  | some _, none => .lt
  | none, some _ => .gt
  | none, none => compare (codeUnits a) (codeUnits b)

section Json

variable (numberText : JsNumber → String)

mutual

/-- `canonicalJson`. -/
def canonicalJson : JsValue → String
  | .undefined | .null => "null"
  | .bool b => if b then "true" else "false"
  | .num (.num q) => numberText (.num q)
  | .num _ => "null"
  | .str text => jsonString text
  | .arr items => "[" ++ ",".intercalate (itemTexts items) ++ "]"
  | .obj fields =>
    "\x7b" ++ ",".intercalate ((sort (comparing fieldOrder (·.1)) (fieldTexts fields)).map
      fun field => jsonString field.1 ++ ":" ++ field.2) ++ "\x7d"

/-- The texts of the elements of an array. -/
def itemTexts : List JsValue → List String
  | [] => []
  | item :: items => canonicalJson item :: itemTexts items

/-- The fields of an object with their texts; those that are `undefined` are left out.  None is named
`__proto__`. -/
def fieldTexts : List (String × JsValue) → List (String × String)
  | [] => []
  | (_, .undefined) :: fields => fieldTexts fields
  | (key, value) :: fields => (key, canonicalJson value) :: fieldTexts fields

end

variable {numberText}

theorem itemTexts_eq_map (items : List JsValue) :
    itemTexts numberText items = items.map (canonicalJson numberText) := by
  induction items with
  | nil => rw [itemTexts, List.map_nil]
  | cons item items ih => rw [itemTexts, List.map_cons, ih]

/-- **The text of an array is made of the texts of its elements.** -/
theorem canonicalJson_arr_congr {items items' : List JsValue}
    (h : items.map (canonicalJson numberText) = items'.map (canonicalJson numberText)) :
    canonicalJson numberText (.arr items) = canonicalJson numberText (.arr items') := by
  rw [canonicalJson, canonicalJson, itemTexts_eq_map, itemTexts_eq_map, h]

/-- **The text of an object is made of the texts of its fields.** -/
theorem canonicalJson_obj_congr {fields fields' : List (String × JsValue)}
    (h : fieldTexts numberText fields = fieldTexts numberText fields') :
    canonicalJson numberText (.obj fields) = canonicalJson numberText (.obj fields') := by
  rw [canonicalJson, canonicalJson, h]

/-! ## Plain texts -/

theorem isPlainText_append {a b : String} :
    isPlainText (a ++ b) = true ↔ isPlainText a = true ∧ isPlainText b = true := by
  rw [isPlainText, isPlainText, isPlainText, String.toList_append, List.all_append,
    Bool.and_eq_true]

theorem isPlainText_intercalate {texts : List String}
    (h : ∀ text ∈ texts, isPlainText text = true) : isPlainText (",".intercalate texts) = true := by
  induction texts with
  | nil => decide
  | cons text texts ih =>
    have htext := h text List.mem_cons_self
    have hrest := ih fun x hx => h x (List.mem_cons_of_mem text hx)
    cases texts with
    | nil => simpa using htext
    | cons next rest =>
      rw [String.intercalate_cons_cons, isPlainText_append, isPlainText_append]
      exact ⟨⟨htext, by decide⟩, hrest⟩

/-- A plain character stays as it is, or takes a backslash. -/
theorem jsonChar_of_plain {c : Char} (h : 32 ≤ c.toNat) :
    jsonChar c = [c] ∨ jsonChar c = ['\\', c] := by
  rw [jsonChar]
  split_ifs with h1 h2 h3 h4 h5 h6 h7 h8
  · rw [h1]
    exact Or.inr rfl
  · rw [h2]
    exact Or.inr rfl
  all_goals first | omega | exact Or.inl rfl

theorem isPlainText_jsonString {text : String} (h : isPlainText text = true) :
    isPlainText (jsonString text) = true := by
  rw [isPlainText, List.all_eq_true] at h
  rw [jsonString, isPlainText_append, isPlainText_append]
  refine ⟨⟨by decide, ?_⟩, by decide⟩
  rw [isPlainText, String.toList_ofList, List.all_eq_true]
  intro x hx
  obtain ⟨c, hc, hx⟩ := List.mem_flatMap.1 hx
  have hplain := h c hc
  rcases jsonChar_of_plain (c := c) (by simpa using (Bool.and_eq_true_iff.1 hplain).1) with
    heq | heq
  · rw [heq, List.mem_singleton] at hx
    rw [hx]
    exact hplain
  · rw [heq, List.mem_pair] at hx
    rcases hx with rfl | rfl
    · decide
    · exact hplain

/-- **An array of plain texts is printed as a plain text.** -/
theorem isPlainText_canonicalJson_arr {items : List JsValue}
    (h : ∀ item ∈ items, isPlainText (canonicalJson numberText item) = true) :
    isPlainText (canonicalJson numberText (.arr items)) = true := by
  rw [canonicalJson, itemTexts_eq_map, isPlainText_append, isPlainText_append]
  refine ⟨⟨by decide, isPlainText_intercalate fun text htext => ?_⟩, by decide⟩
  obtain ⟨item, hitem, rfl⟩ := List.mem_map.1 htext
  exact h item hitem

end Json

/-- `sha256Canonical`. -/
def sha256Canonical (R : Runtime) (value : JsValue) : String :=
  R.sha256 (canonicalJson R.numberText value)

namespace Sample

/-- The library of the language, as it is on the texts and the instants of the samples. -/
def runtime : Runtime where
  collation := .codePoints
  number _ := .nan
  numberText _ := "0"
  plainNumber _ := by decide
  isoText _ := "1970-01-01T00:00:00.000Z"
  sha256 _ := "ddc252729a4106fcca77447aea62e63098f43dcd32b11139e50736e22934270e"

end Sample

end ApiScore
