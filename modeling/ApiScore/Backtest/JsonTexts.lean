import Mathlib.Data.Rat.Encodable
import ApiScore.Execution.ReceiptRedactor
import ApiScore.Lib.Delimited
import ApiScore.Lib.Double
import ApiScore.Lib.Sorting

/-!
# Canonical texts of JSON values

`canonicalJson` of `backtest-engine.service.ts`, on the values that `JSON.parse` makes: every object
is rebuilt with its keys sorted, and the result is printed.  To assign to the key `__proto__` of a
fresh object makes no field of it, and a number beyond the doubles, which `JSON.parse` reads as an
infinity, is printed as `null`.

* `canonicalize`, `stringify`, `JsonValue.canonicalJson` — the text of a value, in code units.
* `JsonValue.Same` — two values are equal up to the order of the keys.
* `JsonValue.canonicalJson_eq_iff` — two texts are equal exactly when the values are, but for what
  the text loses.
* `JsonValue.canonicalJson_canonical_iff` — when the texts of two values tell whether they are
  equal.
-/

set_option autoImplicit false

open Delimited Double Ranked

namespace ApiScore

/-! ## Values -/

/-- A value that `JSON.parse` makes. -/
inductive JsonValue
  | null
  | bool (b : Bool)
  | num (n : JsNumber)
  | str (text : JsText)
  | arr (items : List JsonValue)
  | obj (fields : List (JsText × JsonValue))

def unit (c : Char) : UInt16 := c.toNat.toUInt16

/-- The characters of a number. -/
def numericUnit (c : UInt16) : Bool := digit c || among "+-.e" c

/-- How finite numbers are printed: different doubles have different texts. -/
structure NumberPrinter where
  text : ℚ → JsText
  ne_nil : ∀ q, text q ≠ []
  numeric : ∀ q, ∀ c ∈ text q, numericUnit c = true
  injective : ∀ p q, double p = p → double q = q → text p = text q → p = q

/-- `__proto__`. -/
def protoKey : JsText := jsText "__proto__"

/-! ## Keys -/

/-- The number of an index of an array: a number below 2^32 - 1, as it is printed. -/
def indexOfKey (key : JsText) : Option Nat :=
  let n := key.foldl (fun n c => 10 * n + (c.toNat - 48)) 0
  if n < 2 ^ 32 - 1 ∧ jsText (toString n) = key then some n else none

/-- Where a key stands among those of an object that is filled in the order of
`Object.keys(…).sort()`: the indices come first, by their numbers, and then the others, by their
code units. -/
def keyRank (key : JsText) : List Nat :=
  match indexOfKey key with
  | some n => [0, n]
  | none => 1 :: key.map (·.toNat)

def keyOrder (a b : JsText) : Ordering := comparing compare keyRank a b

/-! ## Texts -/

/-- A digit of a `\u` escape. -/
def hexUnit (n : Nat) : UInt16 := (if n < 10 then 48 + n else 87 + n).toUInt16

def isHighSurrogate (c : UInt16) : Bool := decide (0xD800 ≤ c.toNat ∧ c.toNat ≤ 0xDBFF)

def isLowSurrogate (c : UInt16) : Bool := decide (0xDC00 ≤ c.toNat ∧ c.toNat ≤ 0xDFFF)

/-- How a code unit stands in a text, unless it is one of a pair of surrogates. -/
def unitText (c : UInt16) : JsText :=
  if c = unit '"' ∨ c = unit '\\' then [unit '\\', c]
  else if c.toNat = 8 then [unit '\\', unit 'b']
  else if c.toNat = 9 then [unit '\\', unit 't']
  else if c.toNat = 10 then [unit '\\', unit 'n']
  else if c.toNat = 12 then [unit '\\', unit 'f']
  else if c.toNat = 13 then [unit '\\', unit 'r']
  else if c.toNat < 32 ∨ isHighSurrogate c ∨ isLowSurrogate c then
    [unit '\\', unit 'u', hexUnit (c.toNat / 4096), hexUnit (c.toNat / 256 % 16),
      hexUnit (c.toNat / 16 % 16), hexUnit (c.toNat % 16)]
  else [c]

/-- What stands between the quotation marks. -/
def quotedUnits : JsText → JsText
  | c :: d :: rest =>
    if isHighSurrogate c && isLowSurrogate d then c :: d :: quotedUnits rest
    else unitText c ++ quotedUnits (d :: rest)
  | [c] => unitText c
  | [] => []

def quoted (text : JsText) : JsText := unit '"' :: (quotedUnits text ++ [unit '"'])

namespace JsonValue

/-! ## The canonical value -/

mutual

/-- `canonicalize`. -/
def canonicalize : JsonValue → JsonValue
  | .arr items => .arr (canonicalizeItems items)
  | .obj fields => .obj (sort (comparing keyOrder (·.1)) (canonicalizeFields fields))
  | value => value

def canonicalizeItems : List JsonValue → List JsonValue
  | [] => []
  | item :: items => canonicalize item :: canonicalizeItems items

/-- `acc[key] = canonicalize(record[key])`, which for `__proto__` adds no field. -/
def canonicalizeFields : List (JsText × JsonValue) → List (JsText × JsonValue)
  | [] => []
  | (key, value) :: fields =>
    if key = protoKey then canonicalizeFields fields
    else (key, canonicalize value) :: canonicalizeFields fields

end

/-! ## Printing -/

section Printing

variable (N : NumberPrinter)

mutual

/-- `JSON.stringify`. -/
def stringify : JsonValue → JsText
  | .null => jsText "null"
  | .bool b => jsText (if b then "true" else "false")
  | .num (.num q) => N.text q
  | .num _ => jsText "null"
  | .str text => quoted text
  | .arr items => unit '[' :: (joined (unit ',') (stringifyItems items) ++ [unit ']'])
  | .obj fields => unit '\x7b' :: (joined (unit ',') (stringifyFields fields) ++ [unit '\x7d'])

def stringifyItems : List JsonValue → List JsText
  | [] => []
  | item :: items => stringify item :: stringifyItems items

def stringifyFields : List (JsText × JsonValue) → List JsText
  | [] => []
  | (key, value) :: fields => (quoted key ++ unit ':' :: stringify value) :: stringifyFields fields

end

/-- `canonicalJson`. -/
def canonicalJson (value : JsonValue) : JsText := stringify N (canonicalize value)

end Printing

/-! ## Values that are parsed, and values that are the same -/

mutual

/-- What `JSON.parse` makes: numbers that are doubles or infinite, and objects whose keys differ. -/
def Parsed : JsonValue → Prop
  | .num (.num q) => double q = q
  | .num n => n ≠ .nan
  | .arr items => ParsedItems items
  | .obj fields => (fields.map (·.1)).Nodup ∧ ParsedFields fields
  | _ => True

def ParsedItems : List JsonValue → Prop
  | [] => True
  | item :: items => Parsed item ∧ ParsedItems items

def ParsedFields : List (JsText × JsonValue) → Prop
  | [] => True
  | (_, value) :: fields => Parsed value ∧ ParsedFields fields

end

mutual

/-- The values are equal up to the order of the keys of objects, at every depth. -/
def Same : JsonValue → JsonValue → Prop
  | .null, .null => True
  | .bool b, .bool b' => b = b'
  | .num n, .num n' => n = n'
  | .str text, .str text' => text = text'
  | .arr items, .arr items' => SameItems items items'
  | .obj fields, .obj fields' => fields.length = fields'.length ∧ SameFields fields fields'
  | _, _ => False

def SameItems : List JsonValue → List JsonValue → Prop
  | [], [] => True
  | item :: items, item' :: items' => Same item item' ∧ SameItems items items'
  | _, _ => False

/-- Every field has its key among the others, with the same value. -/
def SameFields : List (JsText × JsonValue) → List (JsText × JsonValue) → Prop
  | [], _ => True
  | (key, value) :: fields, fields' =>
    (∃ value', (key, value') ∈ fields' ∧ Same value value') ∧ SameFields fields fields'

end

mutual

/-- What the text keeps of a value: the fields named `__proto__` are lost, and an infinite number is
`null`. -/
def told : JsonValue → JsonValue
  | .num (.num q) => .num (.num q)
  | .num _ => .null
  | .arr items => .arr (toldItems items)
  | .obj fields => .obj (toldFields fields)
  | value => value

def toldItems : List JsonValue → List JsonValue
  | [] => []
  | item :: items => told item :: toldItems items

def toldFields : List (JsText × JsonValue) → List (JsText × JsonValue)
  | [] => []
  | (key, value) :: fields =>
    if key = protoKey then toldFields fields else (key, told value) :: toldFields fields

end

end JsonValue

/-! ## Texts are read back -/

/-- The code unit that a quoted text begins with, and what follows. -/
def readUnit : JsText → Option (UInt16 × JsText)
  | [] => none
  | c :: rest =>
    if c ≠ unit '\\' then some (c, rest)
    else
      match rest with
      | [] => none
      | x :: rest =>
        if x = unit 'u' then
          match rest with
          | h :: i :: j :: k :: rest =>
            some ((hexValue h * 4096 + hexValue i * 256 + hexValue j * 16 + hexValue k).toUInt16,
              rest)
          | _ => none
        else some (escaped x, rest)
where
  hexValue (c : UInt16) : Nat := if c.toNat < 58 then c.toNat - 48 else c.toNat - 87
  escaped (x : UInt16) : UInt16 :=
    if x = unit 'b' then 8 else if x = unit 't' then 9 else if x = unit 'n' then 10
    else if x = unit 'f' then 12 else if x = unit 'r' then 13 else x

theorem hexValue_hexUnit {n : Nat} (h : n < 16) : readUnit.hexValue (hexUnit n) = n := by
  have hall : ∀ k : Fin 16, readUnit.hexValue (hexUnit k) = k := by decide
  exact hall ⟨n, h⟩

theorem readUnit_plain {c : UInt16} (h : c ≠ unit '\\') (rest : JsText) :
    readUnit (c :: rest) = some (c, rest) := by
  unfold readUnit
  exact if_pos h

/-- **A code unit is read back.** -/
theorem readUnit_unitText (c : UInt16) (rest : JsText) :
    readUnit (unitText c ++ rest) = some (c, rest) := by
  have hlt := c.toNat_lt
  have heq : ∀ n : UInt16, c.toNat = n.toNat → c = n := fun n h => UInt16.toNat_inj.1 h
  rw [unitText]
  split_ifs with hquote h8 h9 h10 h12 h13 hescape
  · rcases hquote with rfl | rfl <;> rfl
  · rw [heq 8 h8]; rfl
  · rw [heq 9 h9]; rfl
  · rw [heq 10 h10]; rfl
  · rw [heq 12 h12]; rfl
  · rw [heq 13 h13]; rfl
  · show some ((readUnit.hexValue _ * 4096 + readUnit.hexValue _ * 256 +
      readUnit.hexValue _ * 16 + readUnit.hexValue _).toUInt16, rest) = _
    rw [hexValue_hexUnit (by omega), hexValue_hexUnit (by omega), hexValue_hexUnit (by omega),
      hexValue_hexUnit (by omega)]
    congr 2
    apply UInt16.toNat_inj.1
    rw [Nat.toUInt16_eq, UInt16.toNat_ofNat']
    omega
  · rw [List.singleton_append]
    exact readUnit_plain (fun h => hquote (.inr h)) rest

/-- No code unit is quoted as a quotation mark. -/
theorem head?_unitText (c : UInt16) : (unitText c).head? ≠ some (unit '"') ∧ unitText c ≠ [] := by
  rw [unitText]
  split_ifs with hquote
  case neg => exact ⟨fun h => hquote (.inl (Option.some.inj h)), by simp⟩
  all_goals exact ⟨fun h => absurd (Option.some.inj h) (by decide), by simp⟩

/-- What a quoted text is read as, up to its quotation mark, and what follows. -/
inductive Reads : JsText → JsText → JsText → Prop
  | stop (rest : JsText) : Reads (unit '"' :: rest) [] rest
  | unit {t t' text rest : JsText} {c : UInt16} (hmark : t.head? ≠ some (unit '"'))
      (hunit : readUnit t = some (c, t')) (h : Reads t' text rest) : Reads t (c :: text) rest

theorem Reads.unique {t text rest text' rest' : JsText} (h : Reads t text rest)
    (h' : Reads t text' rest') : text = text' ∧ rest = rest' := by
  induction h generalizing text' with
  | stop rest =>
    cases h' with
    | stop => exact ⟨rfl, rfl⟩
    | unit hmark => exact absurd rfl hmark
  | unit hmark hunit _ ih =>
    cases h' with
    | stop => exact absurd rfl hmark
    | unit hmark' hunit' h' =>
      rw [hunit, Option.some.injEq, Prod.mk.injEq] at hunit'
      obtain ⟨rfl, rfl⟩ := hunit'
      obtain ⟨rfl, rfl⟩ := ih h'
      exact ⟨rfl, rfl⟩

theorem Reads.unitText {c : UInt16} {t text rest : JsText} (h : Reads t text rest) :
    Reads (ApiScore.unitText c ++ t) (c :: text) rest := by
  refine .unit ?_ (readUnit_unitText c t) h
  rw [List.head?_append_of_ne_nil _ (head?_unitText c).2]
  exact (head?_unitText c).1

/-- **A text is read back.** -/
theorem reads_quotedUnits (text rest : JsText) :
    Reads (quotedUnits text ++ unit '"' :: rest) text rest := by
  induction text using quotedUnits.induct with
  | case1 c d text hpair ih =>
    rw [quotedUnits, if_pos hpair, List.cons_append, List.cons_append]
    simp only [Bool.and_eq_true, isHighSurrogate, isLowSurrogate, decide_eq_true_eq] at hpair
    -- a surrogate is neither a quotation mark nor a backslash
    have hplain : ∀ x : UInt16, 0xD800 ≤ x.toNat → x ≠ unit '"' ∧ x ≠ unit '\\' := by
      rintro x hx
      constructor <;> rintro rfl <;> exact absurd hx (by decide)
    have hc := hplain c (by omega)
    have hd := hplain d (by omega)
    exact .unit (fun heq => hc.1 (Option.some.inj heq)) (readUnit_plain hc.2 _)
      (.unit (fun heq => hd.1 (Option.some.inj heq)) (readUnit_plain hd.2 _) ih)
  | case2 c d text hpair ih =>
    rw [quotedUnits, if_neg hpair, List.append_assoc]
    exact ih.unitText
  | case3 c =>
    exact (Reads.stop rest).unitText
  | case4 => exact .stop rest

theorem quoted_inj {text text' rest rest' : JsText}
    (h : quoted text ++ rest = quoted text' ++ rest') : text = text' ∧ rest = rest' := by
  rw [quoted, quoted, List.cons_append, List.cons_append, List.cons.injEq, List.append_assoc,
    List.append_assoc] at h
  exact (reads_quotedUnits text rest).unique (h.2 ▸ reads_quotedUnits text' rest')

/-! ## The text of a value, from the texts of its parts -/

namespace JsonValue

/-- Induction on a value, over all its elements or fields at once. -/
theorem induction {motive : JsonValue → Prop} (null : motive .null) (bool : ∀ b, motive (.bool b))
    (num : ∀ n, motive (.num n)) (str : ∀ text, motive (.str text))
    (arr : ∀ items, (∀ item ∈ items, motive item) → motive (.arr items))
    (obj : ∀ fields, (∀ field ∈ fields, motive field.2) → motive (.obj fields)) (v : JsonValue) :
    motive v :=
  @JsonValue.rec motive (fun items => ∀ item ∈ items, motive item)
    (fun fields => ∀ field ∈ fields, motive field.2) (fun field => motive field.2)
    null bool num str arr obj (List.forall_mem_nil _)
    (fun _ _ hitem hitems => List.forall_mem_cons.2 ⟨hitem, hitems⟩) (List.forall_mem_nil _)
    (fun _ _ hfield hfields => List.forall_mem_cons.2 ⟨hfield, hfields⟩) (fun _ _ h => h) v

/-- The fields that are kept. -/
def kept {α : Type} (fields : List (JsText × α)) : List (JsText × α) :=
  fields.filter fun field => field.1 ≠ protoKey

theorem kept_cons {α : Type} (key : JsText) (value : α) (fields : List (JsText × α)) :
    kept ((key, value) :: fields) =
      if key = protoKey then kept fields else (key, value) :: kept fields := by
  rw [kept, List.filter_cons]
  by_cases h : key = protoKey <;> simp [h, kept]

section Parts

variable {N : NumberPrinter}

theorem canonicalizeItems_eq (items : List JsonValue) :
    canonicalizeItems items = items.map canonicalize := by
  induction items with
  | nil => rw [canonicalizeItems, List.map_nil]
  | cons item items ih => rw [canonicalizeItems, List.map_cons, ih]

theorem canonicalizeFields_eq (fields : List (JsText × JsonValue)) :
    canonicalizeFields fields = (kept fields).map fun field => (field.1, canonicalize field.2) := by
  induction fields with
  | nil => rw [canonicalizeFields]; rfl
  | cons field fields ih =>
    rw [canonicalizeFields, kept_cons, ih]
    split_ifs <;> rfl

theorem stringifyItems_eq (items : List JsonValue) :
    stringifyItems N items = items.map (stringify N) := by
  induction items with
  | nil => rw [stringifyItems, List.map_nil]
  | cons item items ih => rw [stringifyItems, List.map_cons, ih]

/-- A field as it is printed. -/
def fieldText (field : JsText × JsText) : JsText := quoted field.1 ++ unit ':' :: field.2

theorem stringifyFields_eq (fields : List (JsText × JsonValue)) :
    stringifyFields N fields =
      fields.map fun field => fieldText (field.1, stringify N field.2) := by
  induction fields with
  | nil => rw [stringifyFields, List.map_nil]
  | cons field fields ih => rw [stringifyFields, List.map_cons, ih, fieldText]

theorem toldItems_eq (items : List JsonValue) : toldItems items = items.map told := by
  induction items with
  | nil => rw [toldItems, List.map_nil]
  | cons item items ih => rw [toldItems, List.map_cons, ih]

theorem toldFields_eq (fields : List (JsText × JsonValue)) :
    toldFields fields = (kept fields).map fun field => (field.1, told field.2) := by
  induction fields with
  | nil => rw [toldFields]; rfl
  | cons field fields ih =>
    rw [toldFields, kept_cons, ih]
    split_ifs <;> rfl

theorem parsedItems_iff {items : List JsonValue} :
    ParsedItems items ↔ ∀ item ∈ items, Parsed item := by
  induction items with
  | nil => simp [ParsedItems]
  | cons item items ih => rw [ParsedItems, List.forall_mem_cons, ih]

theorem parsedFields_iff {fields : List (JsText × JsonValue)} :
    ParsedFields fields ↔ ∀ field ∈ fields, Parsed field.2 := by
  induction fields with
  | nil => simp [ParsedFields]
  | cons field fields ih => rw [ParsedFields, List.forall_mem_cons, ih]

theorem sameFields_iff {fields fields' : List (JsText × JsonValue)} :
    SameFields fields fields' ↔
      ∀ field ∈ fields, ∃ value', (field.1, value') ∈ fields' ∧ Same field.2 value' := by
  induction fields with
  | nil => simp [SameFields]
  | cons field fields ih => rw [SameFields, List.forall_mem_cons, ih]

variable (N)

/-- The fields of an object with the texts of their values, in no particular order. -/
def textFields (fields : List (JsText × JsonValue)) : List (JsText × JsText) :=
  (kept fields).map fun field => (field.1, canonicalJson N field.2)

theorem canonicalJson_arr (items : List JsonValue) :
    canonicalJson N (.arr items) =
      unit '[' :: (joined (unit ',') (items.map (canonicalJson N)) ++ [unit ']']) := by
  rw [canonicalJson, canonicalize, stringify, stringifyItems_eq, canonicalizeItems_eq, List.map_map]
  rfl

/-- **The text of an object is made of those of its fields, sorted by their keys.** -/
theorem canonicalJson_obj (fields : List (JsText × JsonValue)) :
    canonicalJson N (.obj fields) =
      unit '\x7b' :: (joined (unit ',')
        ((sort (comparing keyOrder (·.1)) (textFields N fields)).map fieldText) ++
          [unit '\x7d']) := by
  have hsort := map_sort (comparing keyOrder Prod.fst)
    (fun field : JsText × JsonValue => (field.1, stringify N field.2)) (canonicalizeFields fields)
  rw [canonicalJson, canonicalize, stringify, stringifyFields_eq]
  have htexts : textFields N fields =
      (canonicalizeFields fields).map fun field => (field.1, stringify N field.2) := by
    rw [canonicalizeFields_eq, List.map_map]
    rfl
  rw [htexts, ← hsort, List.map_map]
  rfl

end Parts

/-! ## Texts are told from each other -/

/-- What follows a value in a text: a comma or a closing bracket. -/
def Closing (c : UInt16) : Prop := c = unit ',' ∨ c = unit ']' ∨ c = unit '\x7d'

instance : DecidablePred Closing := fun c => by unfold Closing; infer_instance

variable (N : NumberPrinter)

theorem numericUnit_not_closing {c : UInt16} (h : numericUnit c = true) : ¬Closing c := by
  rintro (rfl | rfl | rfl) <;> exact absurd h (by decide)

/-- A field that begins a text is read back. -/
theorem told_fieldText {field field' : JsText × JsText} (h : Told Closing field.2 field'.2) :
    ∀ r r', Ends Closing r → Ends Closing r' → fieldText field ++ r = fieldText field' ++ r' →
      field = field' ∧ r = r' := by
  intro r r' hr hr' heq
  rw [fieldText, fieldText, List.append_assoc, List.append_assoc] at heq
  obtain ⟨hkey, hrest⟩ := quoted_inj heq
  obtain ⟨hvalue, hend⟩ := h r r' hr hr' (List.cons.inj hrest).2
  exact ⟨Prod.ext hkey hvalue, hend⟩

theorem fieldText_inj {field field' : JsText × JsText} (h : fieldText field = fieldText field') :
    field = field' := by
  obtain ⟨hkey, hrest⟩ := quoted_inj h
  exact Prod.ext hkey (List.cons.inj hrest).2

theorem exists_cons_fieldText (field : JsText × JsText) :
    ∃ c t, fieldText field = c :: t ∧ ¬Closing c :=
  ⟨unit '"', _, rfl, by decide⟩

/-- The kind of a value: those of different kinds are printed differently from the first character
on. -/
def kind : JsonValue → Nat
  | .num (.num _) => 0
  | .null | .num _ => 1
  | .bool true => 2
  | .bool false => 3
  | .str _ => 4
  | .arr _ => 5
  | .obj _ => 6

/-- The kind of the values whose texts begin with a character. -/
def openingKind (c : UInt16) : Nat :=
  if numericUnit c then 0
  else if c = unit 'n' then 1
  else if c = unit 't' then 2
  else if c = unit 'f' then 3
  else if c = unit '"' then 4
  else if c = unit '[' then 5
  else 6

/-- The text of a value begins with a character of its kind, which no text ends at. -/
theorem exists_opening (a : JsonValue) :
    ∃ c t, canonicalJson N a = c :: t ∧ openingKind c = kind a ∧ ¬Closing c := by
  cases a with
  | null => exact ⟨unit 'n', _, rfl, by decide, by decide⟩
  | bool b => cases b <;> exact ⟨_, _, rfl, by decide, by decide⟩
  | num n =>
    cases n with
    | num q =>
      obtain ⟨c, t, ht⟩ := List.exists_cons_of_ne_nil (N.ne_nil q)
      have hc := N.numeric q c (ht ▸ List.mem_cons_self)
      exact ⟨c, t, ht, if_pos hc, numericUnit_not_closing hc⟩
    | inf => exact ⟨unit 'n', _, rfl, by decide, by decide⟩
    | negInf => exact ⟨unit 'n', _, rfl, by decide, by decide⟩
    | nan => exact ⟨unit 'n', _, rfl, by decide, by decide⟩
  | str text => exact ⟨unit '"', _, rfl, (by decide : openingKind (unit '"') = 4), by decide⟩
  | arr items =>
    exact ⟨unit '[', _, canonicalJson_arr N items, (by decide : openingKind (unit '[') = 5),
      by decide⟩
  | obj fields =>
    exact ⟨unit '\x7b', _, canonicalJson_obj N fields, (by decide : openingKind (unit '\x7b') = 6),
      by decide⟩

theorem exists_cons_canonicalJson (a : JsonValue) :
    ∃ c t, canonicalJson N a = c :: t ∧ ¬Closing c := by
  obtain ⟨c, t, ha, -, hc⟩ := exists_opening N a
  exact ⟨c, t, ha, hc⟩

theorem told_of_kind_ne {a b : JsonValue} (h : kind a ≠ kind b) :
    Told Closing (canonicalJson N a) (canonicalJson N b) := by
  obtain ⟨c, t, ha, hc, -⟩ := exists_opening N a
  obtain ⟨c', t', hb, hc', -⟩ := exists_opening N b
  rw [ha, hb]
  exact Told.of_head fun heq => h (by rw [← hc, ← hc', heq])

theorem closing_comma : Closing (unit ',') := .inl rfl

theorem mem_textFields {fields : List (JsText × JsonValue)} {field : JsText × JsText} :
    field ∈ textFields N fields ↔
      ∃ value, (field.1, value) ∈ kept fields ∧ canonicalJson N value = field.2 := by
  rw [textFields, List.mem_map]
  constructor
  · rintro ⟨⟨key, value⟩, hmem, rfl⟩
    exact ⟨value, hmem, rfl⟩
  · rintro ⟨value, hmem, htext⟩
    exact ⟨_, hmem, Prod.ext rfl htext⟩

/-- The texts of two arrays, with what follows, in terms of those of their elements. -/
theorem arr_inj {items items' : List JsonValue}
    (h : ∀ item ∈ items, ∀ item' ∈ items',
      Told Closing (canonicalJson N item) (canonicalJson N item')) {r r' : JsText}
    (heq : canonicalJson N (.arr items) ++ r = canonicalJson N (.arr items') ++ r') :
    items.map (canonicalJson N) = items'.map (canonicalJson N) ∧ r = r' := by
  rw [canonicalJson_arr, canonicalJson_arr, List.cons_append, List.cons_append, List.append_assoc,
    List.append_assoc] at heq
  refine joined_inj closing_comma (.inr (.inl rfl)) (by decide) ?_ ?_ ?_ (List.cons.inj heq).2
  · exact List.forall_mem_map.2 fun item _ => exists_cons_canonicalJson N item
  · exact List.forall_mem_map.2 fun item _ => exists_cons_canonicalJson N item
  · exact List.forall_mem_map.2 fun item hitem =>
      List.forall_mem_map.2 fun item' hitem' => h item hitem item' hitem'

/-- The texts of two objects, with what follows, in terms of those of their fields. -/
theorem obj_inj {fields fields' : List (JsText × JsonValue)}
    (h : ∀ field ∈ fields, ∀ field' ∈ fields',
      Told Closing (canonicalJson N field.2) (canonicalJson N field'.2)) {r r' : JsText}
    (heq : canonicalJson N (.obj fields) ++ r = canonicalJson N (.obj fields') ++ r') :
    sort (comparing keyOrder (·.1)) (textFields N fields) =
      sort (comparing keyOrder (·.1)) (textFields N fields') ∧ r = r' := by
  rw [canonicalJson_obj, canonicalJson_obj, List.cons_append, List.cons_append, List.append_assoc,
    List.append_assoc] at heq
  have hlists := joined_inj closing_comma (.inr (.inr rfl)) (by decide)
    (List.forall_mem_map.2 fun field _ => exists_cons_fieldText field)
    (List.forall_mem_map.2 fun field _ => exists_cons_fieldText field)
    (List.forall_mem_map.2 fun field hfield => List.forall_mem_map.2 fun field' hfield' => ?_)
    (List.cons.inj heq).2
  · exact ⟨List.map_injective_iff.2 (fun _ _ => fieldText_inj) hlists.1, hlists.2⟩
  · obtain ⟨value, hmem, htext⟩ := (mem_textFields N).1 (mem_sort.1 hfield)
    obtain ⟨value', hmem', htext'⟩ := (mem_textFields N).1 (mem_sort.1 hfield')
    have htold := h _ (List.mem_of_mem_filter hmem) _ (List.mem_of_mem_filter hmem')
    rw [htext, htext'] at htold
    intro r r' hr hr' heq
    obtain ⟨rfl, hrest⟩ := told_fieldText htold r r' hr hr' heq
    exact ⟨rfl, hrest⟩

/-- Induction on two values at once: of different kinds, words, or of the same kind. -/
theorem pair_induction {motive : JsonValue → JsonValue → Prop}
    (apart : ∀ a b, kind a ≠ kind b → motive a b)
    (word : ∀ a b, (∀ N, canonicalJson N a = canonicalJson N b) → Same (told a) (told b) →
      motive a b)
    (num : ∀ q q', motive (.num (.num q)) (.num (.num q')))
    (str : ∀ text text', motive (.str text) (.str text'))
    (arr : ∀ items items', (∀ item ∈ items, ∀ item' ∈ items', motive item item') →
      motive (.arr items) (.arr items'))
    (obj : ∀ fields fields', (∀ field ∈ fields, ∀ field' ∈ fields', motive field.2 field'.2) →
      motive (.obj fields) (.obj fields')) (a b : JsonValue) : motive a b := by
  induction a using JsonValue.induction generalizing b with
  | null =>
    cases b with
    | null => exact word _ _ (fun _ => rfl) trivial
    | num n =>
      cases n <;> first
        | exact word _ _ (fun _ => rfl) trivial
        | exact apart _ _ (fun h => by cases h)
    | bool b => cases b <;> exact apart _ _ (fun h => by cases h)
    | _ => exact apart _ _ (fun h => by cases h)
  | bool b' =>
    cases b with
    | bool b =>
      cases b <;> cases b' <;> first
        | exact word _ _ (fun _ => rfl) rfl
        | exact apart _ _ (fun h => by cases h)
    | num n => cases n <;> cases b' <;> exact apart _ _ (fun h => by cases h)
    | _ => cases b' <;> exact apart _ _ (fun h => by cases h)
  | num n =>
    cases n with
    | num q =>
      cases b with
      | num n' => cases n' <;> first | exact num _ _ | exact apart _ _ (fun h => by cases h)
      | bool b => cases b <;> exact apart _ _ (fun h => by cases h)
      | _ => exact apart _ _ (fun h => by cases h)
    | _ =>
      cases b with
      | null => exact word _ _ (fun _ => rfl) trivial
      | num n' =>
        cases n' <;> first
          | exact word _ _ (fun _ => rfl) trivial
          | exact apart _ _ (fun h => by cases h)
      | bool b => cases b <;> exact apart _ _ (fun h => by cases h)
      | _ => exact apart _ _ (fun h => by cases h)
  | str text =>
    cases b with
    | str text' => exact str _ _
    | num n => cases n <;> exact apart _ _ (fun h => by cases h)
    | bool b => cases b <;> exact apart _ _ (fun h => by cases h)
    | _ => exact apart _ _ (fun h => by cases h)
  | arr items ih =>
    cases b with
    | arr items' => exact arr _ _ fun item hitem item' _ => ih item hitem item'
    | num n => cases n <;> exact apart _ _ (fun h => by cases h)
    | bool b => cases b <;> exact apart _ _ (fun h => by cases h)
    | _ => exact apart _ _ (fun h => by cases h)
  | obj fields ih =>
    cases b with
    | obj fields' => exact obj _ _ fun field hfield field' _ => ih field hfield field'.2
    | num n => cases n <;> exact apart _ _ (fun h => by cases h)
    | bool b => cases b <;> exact apart _ _ (fun h => by cases h)
    | _ => exact apart _ _ (fun h => by cases h)

/-- **The texts of two values are told from each other.** -/
theorem told_canonicalJson (a b : JsonValue) :
    Told Closing (canonicalJson N a) (canonicalJson N b) := by
  induction a, b using pair_induction with
  | apart a b h => exact told_of_kind_ne N h
  | word a b htext hsame =>
    rw [htext N]
    exact .refl _
  | num q q' =>
    exact .of_all (fun c hc => numericUnit_not_closing (N.numeric q c hc))
      fun c hc => numericUnit_not_closing (N.numeric q' c hc)
  | str text text' => exact .of_forall fun r r' heq => (quoted_inj heq).2
  | arr items items' ih => exact .of_forall fun r r' heq => (arr_inj N ih heq).2
  | obj fields fields' ih => exact .of_forall fun r r' heq => (obj_inj N ih heq).2

/-! ## What a text tells -/

theorem keyRank_inj {a b : JsText} (h : keyRank a = keyRank b) : a = b := by
  have hindex : ∀ {key : JsText} {n}, indexOfKey key = some n → jsText (toString n) = key := by
    intro key n hn
    rw [indexOfKey] at hn
    split_ifs at hn with hkey
    rw [← Option.some.inj hn]
    exact hkey.2
  rw [keyRank, keyRank] at h
  cases ha : indexOfKey a with
  | some n =>
    cases hb : indexOfKey b with
    | some m =>
      simp only [ha, hb, List.cons.injEq, and_true, true_and] at h
      rw [← hindex ha, ← hindex hb, h]
    | none => simp [ha, hb] at h
  | none =>
    cases hb : indexOfKey b with
    | some m => simp [ha, hb] at h
    | none =>
      simp only [ha, hb, List.cons.injEq, true_and] at h
      exact List.map_injective_iff.2 (fun _ _ => UInt16.toNat_inj.1) h

instance : Std.TransCmp keyOrder :=
  inferInstanceAs (Std.TransCmp (comparing (compare : List Nat → List Nat → Ordering) keyRank))

theorem nodup_textFields {fields : List (JsText × JsonValue)}
    (h : (fields.map (·.1)).Nodup) : ((textFields N fields).map (·.1)).Nodup := by
  rw [textFields, List.map_map]
  exact h.sublist (List.filter_sublist.map _)

theorem separates_textFields {fields : List (JsText × JsonValue)}
    (h : (fields.map (·.1)).Nodup) :
    Separates (comparing keyOrder (·.1)) (textFields N fields) := by
  intro field hfield field' hfield' heq
  have hkey : field.1 = field'.1 := keyRank_inj (Std.LawfulEqCmp.eq_of_compare heq)
  exact List.inj_on_of_nodup_map (nodup_textFields N h) hfield hfield' hkey

theorem kind_told (a : JsonValue) : kind (told a) = kind a := by
  cases a with
  | num n => cases n <;> rfl
  | bool b => cases b <;> rfl
  | _ => rfl

theorem kind_eq_of_same {a b : JsonValue} (h : Same a b) : kind a = kind b := by
  cases a <;> cases b <;> first | rfl | exact h.elim | (obtain rfl := h; rfl)

theorem kind_eq_of_text {a b : JsonValue} (h : canonicalJson N a = canonicalJson N b) :
    kind a = kind b := by
  obtain ⟨c, t, ha, hc, -⟩ := exists_opening N a
  obtain ⟨c', t', hb, hc', -⟩ := exists_opening N b
  rw [ha, hb] at h
  rw [← hc, ← hc', (List.cons.inj h).1]

theorem told_arr (items : List JsonValue) : told (.arr items) = .arr (items.map told) := by
  rw [told, toldItems_eq]

theorem told_obj (fields : List (JsText × JsonValue)) :
    told (.obj fields) = .obj ((kept fields).map fun field => (field.1, told field.2)) := by
  rw [told, toldFields_eq]

/-- The texts of the elements, one by one. -/
theorem map_canonicalJson_eq_iff {items items' : List JsonValue}
    (h : ∀ item ∈ items, ∀ item' ∈ items',
      (canonicalJson N item = canonicalJson N item' ↔ Same (told item) (told item'))) :
    items.map (canonicalJson N) = items'.map (canonicalJson N) ↔
      SameItems (items.map told) (items'.map told) := by
  induction items generalizing items' with
  | nil => cases items' <;> simp [SameItems]
  | cons item items ih =>
    cases items' with
    | nil => simp [SameItems]
    | cons item' items' =>
      rw [List.map_cons, List.map_cons, List.map_cons, List.map_cons, SameItems, List.cons.injEq,
        h item List.mem_cons_self item' List.mem_cons_self,
        ih fun x hx y hy => h x (List.mem_cons_of_mem _ hx) y (List.mem_cons_of_mem _ hy)]

/-- The texts of the fields, in any order. -/
theorem perm_textFields_iff {fields fields' : List (JsText × JsonValue)}
    (hnodup : (fields.map (·.1)).Nodup)
    (h : ∀ field ∈ fields, ∀ field' ∈ fields',
      (canonicalJson N field.2 = canonicalJson N field'.2 ↔ Same (told field.2) (told field'.2))) :
    (textFields N fields).Perm (textFields N fields') ↔
      Same (told (.obj fields)) (told (.obj fields')) := by
  have hvalues : (∀ field ∈ textFields N fields, field ∈ textFields N fields') ↔
      SameFields ((kept fields).map fun field => (field.1, told field.2))
        ((kept fields').map fun field => (field.1, told field.2)) := by
    rw [sameFields_iff, textFields, List.forall_mem_map, List.forall_mem_map]
    refine forall₂_congr fun field hfield => ?_
    rw [mem_textFields]
    simp only [List.mem_map, Prod.mk.injEq]
    constructor
    · rintro ⟨value, hmem, htext⟩
      exact ⟨told value, ⟨_, hmem, rfl, rfl⟩, (h _ (List.mem_of_mem_filter hfield) _
        (List.mem_of_mem_filter hmem)).1 htext.symm⟩
    · rintro ⟨-, ⟨⟨key, value⟩, hmem, rfl, rfl⟩, hsame⟩
      exact ⟨value, hmem, ((h _ (List.mem_of_mem_filter hfield) _
        (List.mem_of_mem_filter hmem)).2 hsame).symm⟩
  rw [told_obj, told_obj, Same, ← hvalues, List.length_map, List.length_map]
  have hlength : ∀ fs : List (JsText × JsonValue), (textFields N fs).length = (kept fs).length :=
    fun fs => List.length_map _
  constructor
  · intro hperm
    exact ⟨by rw [← hlength, ← hlength, hperm.length_eq], fun field hfield => hperm.mem_iff.1 hfield⟩
  · rintro ⟨heq, hsub⟩
    have hnodup' := (nodup_textFields N hnodup).of_map
    exact (List.subperm_of_subset hnodup' hsub).perm_of_length_le (by rw [hlength, hlength, heq])

/-- **Two texts are equal exactly when the values are, but for what the text loses.** -/
theorem canonicalJson_eq_iff {a b : JsonValue} (ha : Parsed a) (hb : Parsed b) :
    canonicalJson N a = canonicalJson N b ↔ Same (told a) (told b) := by
  induction a, b using pair_induction with
  | apart a b h =>
    refine iff_of_false (fun htext => h (kind_eq_of_text N htext)) fun hsame => h ?_
    rw [← kind_told, ← kind_told b, kind_eq_of_same hsame]
  | word a b htext hsame => exact iff_of_true (htext N) hsame
  | num q q' =>
    constructor
    · intro htext
      obtain rfl := N.injective q q' ha hb htext
      exact rfl
    · intro hsame
      rw [show JsNumber.num q = JsNumber.num q' from hsame]
  | str text text' =>
    constructor
    · intro htext
      exact (quoted_inj (congrArg (· ++ []) htext)).1
    · intro hsame
      rw [show text = text' from hsame]
  | arr items items' ih =>
    have ha' := parsedItems_iff.1 ha
    have hb' := parsedItems_iff.1 hb
    have hitems := map_canonicalJson_eq_iff N fun item hitem item' hitem' =>
      ih item hitem item' hitem' (ha' item hitem) (hb' item' hitem')
    rw [told_arr, told_arr, Same, ← hitems]
    constructor
    · intro htext
      exact (arr_inj N (fun item _ item' _ => told_canonicalJson N item item')
        (congrArg (· ++ []) htext)).1
    · intro hmap
      rw [canonicalJson_arr, canonicalJson_arr, hmap]
  | obj fields fields' ih =>
    obtain ⟨hnodup, ha'⟩ := ha
    obtain ⟨hnodup', hb'⟩ := hb
    rw [parsedFields_iff] at ha' hb'
    have hfields := perm_textFields_iff N hnodup fun field hfield field' hfield' =>
      ih field hfield field' hfield' (ha' field hfield) (hb' field' hfield')
    rw [← hfields]
    constructor
    · intro htext
      have hsorted := (obj_inj N (fun field _ field' _ => told_canonicalJson N field.2 field'.2)
        (congrArg (· ++ []) htext)).1
      have hperm := perm_sort (comparing keyOrder Prod.fst) (textFields N fields)
      exact hperm.symm.trans (hsorted ▸ perm_sort _ _)
    · intro hperm
      rw [canonicalJson_obj, canonicalJson_obj,
        sort_eq_of_perm (separates_textFields N hnodup) hperm]

/-! ## Canonical texts -/

/-- Two objects that are the same have the same keys. -/
theorem perm_keys {fields fields' : List (JsText × JsonValue)} (hnodup : (fields.map (·.1)).Nodup)
    (h : Same (.obj fields) (.obj fields')) : (fields.map (·.1)).Perm (fields'.map (·.1)) := by
  obtain ⟨hlength, hfields⟩ := h
  rw [sameFields_iff] at hfields
  refine (List.subperm_of_subset hnodup fun key hkey => ?_).perm_of_length_le (by simp [hlength])
  obtain ⟨field, hfield, rfl⟩ := List.mem_map.1 hkey
  obtain ⟨value', hmem, -⟩ := hfields field hfield
  exact List.mem_map.2 ⟨_, hmem, rfl⟩

theorem map_kept (fields : List (JsText × JsonValue)) :
    (kept fields).map (·.1) = (fields.map (·.1)).filter fun key => key ≠ protoKey := by
  rw [kept, List.filter_map]
  rfl

theorem map_sameItems {items items' : List JsonValue}
    (himage : ∀ item ∈ items, ∀ item' ∈ items', Same item item' → Same (told item) (told item'))
    (h : SameItems items items') : SameItems (items.map told) (items'.map told) := by
  induction items generalizing items' with
  | nil =>
    cases items' with
    | nil => trivial
    | cons => exact h.elim
  | cons item items ih =>
    cases items' with
    | nil => exact h.elim
    | cons item' items' =>
      exact ⟨himage item List.mem_cons_self item' List.mem_cons_self h.1,
        ih (fun x hx y hy => himage x (List.mem_cons_of_mem _ hx) y (List.mem_cons_of_mem _ hy)) h.2⟩

/-- The text loses the same of values that are the same. -/
theorem same_told {a b : JsonValue} (ha : Parsed a) (hb : Parsed b) (h : Same a b) :
    Same (told a) (told b) := by
  induction a, b using pair_induction with
  | apart a b hkind => exact absurd (kind_eq_of_same h) hkind
  | word a b htext hsame => exact hsame
  | num q q' => exact h
  | str text text' => exact h
  | arr items items' ih =>
    have ha' := parsedItems_iff.1 ha
    have hb' := parsedItems_iff.1 hb
    rw [told_arr, told_arr]
    exact map_sameItems (fun item hitem item' hitem' hsame =>
      ih item hitem item' hitem' (ha' item hitem) (hb' item' hitem') hsame) h
  | obj fields fields' ih =>
    obtain ⟨hnodup, ha'⟩ := ha
    obtain ⟨-, hb'⟩ := hb
    rw [parsedFields_iff] at ha' hb'
    have hlength := ((perm_keys hnodup h).filter fun key => key ≠ protoKey).length_eq
    rw [← map_kept, ← map_kept, List.length_map, List.length_map] at hlength
    obtain ⟨-, hfields⟩ := h
    rw [sameFields_iff] at hfields
    rw [told_obj, told_obj]
    refine ⟨by rw [List.length_map, List.length_map, hlength], sameFields_iff.2 ?_⟩
    refine List.forall_mem_map.2 fun field hfield => ?_
    obtain ⟨hmem, hkey⟩ := List.mem_filter.1 hfield
    obtain ⟨value', hmem', hsame⟩ := hfields field hmem
    exact ⟨told value', List.mem_map.2 ⟨_, List.mem_filter.2 ⟨hmem', hkey⟩, rfl⟩,
      ih field hmem _ hmem' (ha' field hmem) (hb' _ hmem') hsame⟩

/-- **When texts tell values apart.**  The texts of two values, or their hashes, are equal exactly
when the values are, unless the values differ in nothing but what the text loses. -/
theorem canonicalJson_canonical_iff {a b : JsonValue} (ha : Parsed a) (hb : Parsed b) :
    ((canonicalJson N a = canonicalJson N b ↔ Same a b) ↔ (Same (told a) (told b) → Same a b)) ∧
      ∀ sha256 : JsText → String, Function.Injective sha256 →
        ((sha256 (canonicalJson N a) = sha256 (canonicalJson N b) ↔ Same a b) ↔
          (Same (told a) (told b) → Same a b)) := by
  have htext : (canonicalJson N a = canonicalJson N b ↔ Same a b) ↔
      (Same (told a) (told b) → Same a b) := by
    rw [canonicalJson_eq_iff N ha hb]
    exact ⟨fun h => h.1, fun h => ⟨h, same_told ha hb⟩⟩
  exact ⟨htext, fun sha256 hinjective => by rw [hinjective.eq_iff]; exact htext⟩

namespace Sample

/-- A text for every number, where no number is printed. -/
def numberPrinter : NumberPrinter where
  text q := List.replicate (Encodable.encode q + 1) (unit '1')
  ne_nil q := by simp
  numeric q c hc := by
    rw [(List.mem_replicate.1 hc).2]
    decide
  injective p q _ _ h := by
    have hlength := congrArg List.length h
    rw [List.length_replicate, List.length_replicate, Nat.add_right_cancel_iff] at hlength
    exact Encodable.encode_injective hlength

/-- An object with two fields, in both orders. -/
def ordered : JsonValue := .obj [(jsText "name", .str (jsText "run")), (jsText "live", .bool true)]

def reordered : JsonValue :=
  .obj [(jsText "live", .bool true), (jsText "name", .str (jsText "run"))]

/-- An object that `JSON.parse` gives a field `__proto__`, and a number beyond the doubles. -/
def withProto : JsonValue := .obj [(protoKey, .bool true)]

def withInfinity : JsonValue := .obj [(jsText "odd", .num .inf)]

def withNull : JsonValue := .obj [(jsText "odd", .null)]

end Sample

/-- The order of the keys does not matter. -/
theorem canonicalJson_canonical_reordered :
    canonicalJson Sample.numberPrinter Sample.ordered =
      canonicalJson Sample.numberPrinter Sample.reordered ↔
        Same Sample.ordered Sample.reordered := by
  have hparsed : Parsed Sample.ordered := ⟨by decide, trivial, trivial, trivial⟩
  have hparsed' : Parsed Sample.reordered := ⟨by decide, trivial, trivial, trivial⟩
  have hsame : Same Sample.ordered Sample.reordered :=
    ⟨rfl, ⟨_, List.mem_cons_of_mem _ List.mem_cons_self, rfl⟩, ⟨_, List.mem_cons_self, rfl⟩, trivial⟩
  exact (canonicalJson_canonical_iff Sample.numberPrinter hparsed hparsed').1.2 fun _ => hsame

/-- **Values that differ have the same text**: a field `__proto__` is lost, and an infinite number
is `null`. -/
theorem canonicalJson_confuses :
    Parsed Sample.withProto ∧ Parsed (.obj []) ∧
    canonicalJson Sample.numberPrinter Sample.withProto =
      canonicalJson Sample.numberPrinter (.obj []) ∧
    ¬Same Sample.withProto (.obj []) ∧
    Parsed Sample.withInfinity ∧ Parsed Sample.withNull ∧
    canonicalJson Sample.numberPrinter Sample.withInfinity =
      canonicalJson Sample.numberPrinter Sample.withNull ∧
    ¬Same Sample.withInfinity Sample.withNull := by
  have hproto : Parsed Sample.withProto := ⟨by decide, trivial, trivial⟩
  have hempty : Parsed (.obj []) := ⟨by decide, trivial⟩
  have hinfinity : Parsed Sample.withInfinity := ⟨by decide, JsNumber.noConfusion, trivial⟩
  have hnull : Parsed Sample.withNull := ⟨by decide, trivial, trivial⟩
  refine ⟨hproto, hempty, ?_, fun h => ?_, hinfinity, hnull, ?_, fun h => ?_⟩
  · exact (canonicalJson_obj _ _).trans (canonicalJson_obj _ _).symm
  · exact absurd h.1 (by decide)
  · exact (canonicalJson_obj _ _).trans (canonicalJson_obj _ _).symm
  · obtain ⟨-, ⟨value', hmem, hsame⟩, -⟩ := h
    rw [(Prod.mk.inj (List.mem_singleton.1 hmem)).2] at hsame
    exact hsame

end JsonValue

end ApiScore
