import ApiScore.Lib.Regex
import ApiScore.Execution.Types

/-!
# Redacted receipts

`operator-receipt-redactor.ts`: what an operator answers is redacted before it is stored.  The values
of sensitive keys are masked, and so are the texts that look like a secret; what is too long or too
deep is cut.

* `secretValuePatterns`, `sensitiveKey`, `allowedKeys` — what looks like a secret.
* `redactReceipt` — the redactor, on any value of JavaScript.
* `Exposes` — what can be read in a value.
* `redactReceipt_hides_iff` — when nothing that looks like a secret can be read in what is stored.
* `redactReceipt_eq_of_same` — what is stored does not depend on the masked values.
-/

set_option autoImplicit false

namespace ApiScore

/-! ## Texts -/

/-- The code units of a text. -/
abbrev JsText : Type := List UInt16

/-- The code units of a character. -/
def charUnits (c : Char) : JsText :=
  if c.toNat < 0x10000 then [c.toNat.toUInt16]
  else [(0xD800 + (c.toNat - 0x10000) / 0x400).toUInt16,
    (0xDC00 + (c.toNat - 0x10000) % 0x400).toUInt16]

def jsText (s : String) : JsText := s.toList.flatMap charUnits

/-! ## Patterns -/

section Classes

/-- The code units of a text. -/
def among (s : String) (c : UInt16) : Bool := (jsText s).contains c

/-- `[lo-hi]`. -/
def between (lo hi : Char) (c : UInt16) : Bool :=
  decide (lo.toNat ≤ c.toNat) && decide (c.toNat ≤ hi.toNat)

def digit (c : UInt16) : Bool := between '0' '9' c

def upper (c : UInt16) : Bool := between 'A' 'Z' c

def letter (c : UInt16) : Bool := upper c || between 'a' 'z' c

/-- `\w`. -/
def wordUnit (c : UInt16) : Bool := letter c || digit c || among "_" c

/-- `\s`. -/
def space (c : UInt16) : Bool :=
  decide (9 ≤ c.toNat ∧ c.toNat ≤ 13) || decide (0x2000 ≤ c.toNat ∧ c.toNat ≤ 0x200A) ||
    [0x20, 0xA0, 0x1680, 0x2028, 0x2029, 0x202F, 0x205F, 0x3000, 0xFEFF].contains c.toNat

/-- A letter, of either case. -/
def sameLetter (c x : UInt16) : Bool :=
  x == c || (letter c && letter x && x.toNat % 32 == c.toNat % 32)

/-- A text, letter by letter; with the flag `i`. -/
def literal (s : String) : Regex UInt16 := .cat ((jsText s).map fun c => .char (sameLetter c))

/-- A text as it stands. -/
def exactly (s : String) : Regex UInt16 := .cat ((jsText s).map fun c => .char (· == c))

end Classes

open Regex in
/-- `SECRET_VALUE_PATTERNS`. -/
def secretValuePatterns : List (Regex UInt16) :=
  let token (c : UInt16) := letter c || digit c || among "_-" c
  let address (c : UInt16) := !space c && !among "@" c
  [cat [boundary, literal "Bearer", many space 1 none, many (!space ·) 1 none],
    cat [boundary, literal "Basic", many space 1 none, many (!space ·) 1 none],
    cat [start, exactly "eyJ", many token 1 none, exactly ".", many token 1 none, exactly ".",
      many token 0 none, stop],
    cat [boundary, many digit 13 (some 6), boundary],
    cat [boundary, many upper 2 (some 0), many digit 2 (some 0),
      many (fun c => upper c || digit c) 11 (some 19), boundary],
    cat [many (fun c => letter c || digit c || among "+/_-" c) 40 none, many (among "=") 0 (some 2)],
    cat [many address 1 none, exactly "@", many address 1 none, exactly ".", many address 1 none]]

/-- One of the patterns matches the text. -/
def secretShaped (text : JsText) : Bool := secretValuePatterns.any fun r => r.test wordUnit text

open Regex in
/-- `SENSITIVE_KEY`. -/
def sensitiveKey : Regex UInt16 :=
  Regex.any [cat [literal "pass", opt (literal "word")], literal "secret", literal "token",
    cat [literal "api", many (among "-_") 0 (some 1), literal "key"], literal "auth",
    literal "cookie", literal "session", literal "signature", literal "credential",
    literal "private", literal "iban", literal "bic", literal "card", literal "pan", literal "cvv",
    cat [literal "account", opt (alt (literal "number") (literal "no")), stop], literal "email",
    literal "phone", literal "address", literal "birth", literal "ssn"] (literal "document")

/-- `ALLOWED_KEYS`. -/
def allowedKeys : List JsText :=
  ["externalOrderId", "idempotencyKey", "orderId", "status", "odd", "acceptedOdd", "requestedOdd",
    "stake", "acceptedStake", "payout", "currency", "marketKey", "selectionKey", "acceptedAt",
    "settledAt", "reasonCode", "receiptHash"].map jsText

/-- The value of the key is masked, whatever it is. -/
def masked (key : JsText) : Bool := !allowedKeys.contains key && sensitiveKey.test wordUnit key

/-- The keys that are dropped. -/
def droppedKeys : List JsText := ["__proto__", "constructor", "prototype"].map jsText

/-! ## The redactor -/

/-- A value of JavaScript. -/
inductive Receipt
  | undefined
  | null
  | str (text : JsText)
  | num (n : JsNumber)
  | bool (b : Bool)
  /-- A date, in milliseconds; `none` if it is not valid. -/
  | date (time : Option Int)
  | arr (items : List Receipt)
  | obj (fields : List (JsText × Receipt))
  /-- A function, a symbol or a bigint. -/
  | other

/-- `REDACTED`. -/
def redactedText : JsText := jsText "[REDACTED]"

/-- `MAX_DEPTH`. -/
def maxDepth : Nat := 5

/-- `MAX_ARRAY`. -/
def maxArray : Nat := 50

/-- `MAX_STRING`. -/
def maxString : Nat := 256

/-- `MAX_KEYS`. -/
def maxKeys : Nat := 100

/-- `${value.slice(0, MAX_STRING)}…`. -/
def cutText (value : JsText) : JsText := value.take maxString ++ jsText "…"

def redactString (value : JsText) : JsText :=
  if secretShaped value then redactedText
  else if maxString < value.length then cutText value
  else value

/-- The value of a key that is not masked; a text under an allowed key is redacted at once. -/
def redactField (redact : Receipt → Receipt) (key : JsText) (value : Receipt) : Receipt :=
  match allowedKeys.contains key, value with
  | true, .str text => .str (redactString text)
  | _, value => redact value

section Redact

variable (isoText : Int → JsText)

/-- `redactReceipt`, with room for so many more levels; `isoText` is `toISOString`. -/
def redactWithin : (room : Nat) → Receipt → Receipt
  | _, .undefined | _, .null => .null
  | _, .str text => .str (redactString text)
  | _, .num n => if n.finite?.isSome then .num n else .null
  | _, .bool b => .bool b
  | _, .date time => (time.map fun t => Receipt.str (isoText t)).getD .null
  | 0, .arr _ | 0, .obj _ | 0, .other => .str redactedText
  | room + 1, .arr items => .arr ((items.take maxArray).map (redactWithin room))
  | room + 1, .obj fields => .obj ((fields.take maxKeys).filterMap fun (key, value) =>
      if key ∈ droppedKeys then none
      else if masked key then some (key, .str redactedText)
      else some (key, redactField (redactWithin room) key value))
  | _ + 1, .other => .null

/-- `redactReceipt`. -/
def redactReceipt (input : Receipt) (depth : Nat) : Receipt :=
  redactWithin isoText (maxDepth - depth) input

end Redact

/-! ## What can be read in the result -/

/-- What can be read in a value: a text, a number as it is written, or a key. -/
inductive Exposes (numberText : JsNumber → JsText) : Receipt → JsText → Prop
  | str (text : JsText) : Exposes numberText (.str text) text
  | num (n : JsNumber) : Exposes numberText (.num n) (numberText n)
  | item {items : List Receipt} {x : Receipt} {t : JsText} (hx : x ∈ items)
      (h : Exposes numberText x t) : Exposes numberText (.arr items) t
  | key {fields : List (JsText × Receipt)} {key : JsText} {value : Receipt}
      (h : (key, value) ∈ fields) : Exposes numberText (.obj fields) key
  | field {fields : List (JsText × Receipt)} {key t : JsText} {value : Receipt}
      (hf : (key, value) ∈ fields) (h : Exposes numberText value t) :
      Exposes numberText (.obj fields) t

/-- What the redactor may take over from a value. -/
inductive Part
  | text (t : JsText)
  | number (n : JsNumber)
  | date (time : Int)
  | key (k : JsText)

/-- The redactor, with room for so many more levels, comes to this part of a value. -/
inductive Visits : Nat → Receipt → Part → Prop
  | text (room : Nat) (t : JsText) : Visits room (.str t) (.text t)
  | number (room : Nat) {n : JsNumber} (hn : n.finite?.isSome = true) :
      Visits room (.num n) (.number n)
  | date (room : Nat) (time : Int) : Visits room (.date (some time)) (.date time)
  | item {room : Nat} {items : List Receipt} {x : Receipt} {part : Part}
      (hx : x ∈ items.take maxArray) (h : Visits room x part) : Visits (room + 1) (.arr items) part
  | key {room : Nat} {fields : List (JsText × Receipt)} {key : JsText} {value : Receipt}
      (hf : (key, value) ∈ fields.take maxKeys) (hkept : key ∉ droppedKeys) :
      Visits (room + 1) (.obj fields) (.key key)
  | field {room : Nat} {fields : List (JsText × Receipt)} {key : JsText} {value : Receipt}
      {part : Part} (hf : (key, value) ∈ fields.take maxKeys) (hkept : key ∉ droppedKeys)
      (hmasked : masked key = false) (h : Visits room value part) :
      Visits (room + 1) (.obj fields) part

section Shown

variable (numberText : JsNumber → JsText) (isoText : Int → JsText)

/-- What becomes of a part. -/
def Part.shown : Part → JsText
  | .text t => redactString t
  | .number n => numberText n
  | .date time => isoText time
  | .key k => k

/-- The part does not look like a secret, nor is it a text that does once it is cut. -/
def Part.plain : Part → Prop
  | .text t => secretShaped t = false → maxString < t.length → secretShaped (cutText t) = false
  | .number n => secretShaped (numberText n) = false
  | .date time => secretShaped (isoText time) = false
  | .key k => secretShaped k = false

end Shown

section

variable {numberText : JsNumber → JsText} {isoText : Int → JsText} {room : Nat} {v : Receipt}
  {t : JsText} {part : Part}

theorem secretShaped_redactedText : secretShaped redactedText = false := by decide +kernel

theorem plain_iff : part.plain numberText isoText ↔
    secretShaped (part.shown numberText isoText) = false := by
  cases part with
  | text t =>
    simp only [Part.plain, Part.shown, redactString]
    by_cases hsecret : secretShaped t = true
    · simp [hsecret, secretShaped_redactedText]
    · rw [Bool.not_eq_true] at hsecret
      simp only [hsecret, Bool.false_eq_true, if_false, true_implies]
      split_ifs with hlong
      · simp [hlong]
      · simp [hlong, hsecret]
  | number | date | key => exact Iff.rfl

/-- A text is redacted alike at any depth. -/
theorem redactField_eq (key : JsText) (value : Receipt) :
    redactField (redactWithin isoText room) key value = redactWithin isoText room value := by
  unfold redactField
  split
  · rw [redactWithin]
  · rfl

theorem redactWithin_obj (fields : List (JsText × Receipt)) :
    redactWithin isoText (room + 1) (.obj fields) =
      .obj ((fields.take maxKeys).filterMap fun f =>
        if f.1 ∈ droppedKeys then none
        else some (f.1, if masked f.1 then .str redactedText else redactWithin isoText room f.2)) := by
  rw [redactWithin]
  congr 2
  funext f
  simp only [redactField_eq]
  split_ifs <;> rfl

theorem mem_redactFields {fields : List (JsText × Receipt)} {key : JsText} {x : Receipt} :
    (key, x) ∈ (fields.take maxKeys).filterMap (fun f =>
      if f.1 ∈ droppedKeys then none
      else some (f.1, if masked f.1 then .str redactedText else redactWithin isoText room f.2)) ↔
    ∃ value, (key, value) ∈ fields.take maxKeys ∧ key ∉ droppedKeys ∧
      x = if masked key then .str redactedText else redactWithin isoText room value := by
  rw [List.mem_filterMap]
  constructor
  · rintro ⟨⟨k, value⟩, hmem, heq⟩
    split_ifs at heq with hdropped
    · obtain ⟨rfl, rfl⟩ := Prod.mk.inj (Option.some.inj heq)
      exact ⟨value, hmem, hdropped, (if_pos ‹_›).symm⟩
    · obtain ⟨rfl, rfl⟩ := Prod.mk.inj (Option.some.inj heq)
      exact ⟨value, hmem, hdropped, (if_neg ‹_›).symm⟩
  · rintro ⟨value, hmem, hkept, rfl⟩
    exact ⟨(key, value), hmem, if_neg hkept⟩

theorem exposes_str {s : JsText} (h : Exposes numberText (.str s) t) : t = s := by
  cases h
  rfl

/-- A value with no parts shows nothing but itself, or the mask. -/
theorem exposes_leaf (hv : (∀ items, v ≠ .arr items) ∧ ∀ fields, v ≠ .obj fields)
    (h : Exposes numberText (redactWithin isoText room v) t) :
    t = redactedText ∨ ∃ part, Visits room v part ∧ part.shown numberText isoText = t := by
  cases v with
  | undefined | null | bool =>
    simp only [redactWithin] at h
    cases h
  | arr items => exact (hv.1 items rfl).elim
  | obj fields => exact (hv.2 fields rfl).elim
  | other =>
    cases room with
    | zero =>
      simp only [redactWithin] at h
      exact .inl (exposes_str h)
    | succ room =>
      simp only [redactWithin] at h
      cases h
  | str s =>
    simp only [redactWithin] at h
    exact .inr ⟨_, .text room s, (exposes_str h).symm⟩
  | num n =>
    simp only [redactWithin] at h
    split_ifs at h with hn
    · cases h
      exact .inr ⟨_, .number room hn, rfl⟩
    · cases h
  | date time =>
    cases time with
    | none =>
      simp only [redactWithin] at h
      cases h
    | some time =>
      simp only [redactWithin] at h
      exact .inr ⟨_, .date room time, (exposes_str h).symm⟩

/-- **What can be read in the result** is what the redactor came to, or the mask. -/
theorem exposes_redactWithin (h : Exposes numberText (redactWithin isoText room v) t) :
    t = redactedText ∨ ∃ part, Visits room v part ∧ part.shown numberText isoText = t := by
  induction room generalizing v t with
  | zero =>
    cases v with
    | arr | obj =>
      simp only [redactWithin] at h
      exact .inl (exposes_str h)
    | _ => exact exposes_leaf ⟨nofun, nofun⟩ h
  | succ room ih =>
    cases v with
    | arr items =>
      simp only [redactWithin] at h
      cases h with
      | item hx h =>
        obtain ⟨x, hmem, rfl⟩ := List.mem_map.1 hx
        exact (ih h).imp_right fun ⟨part, hvisit, hshown⟩ => ⟨part, .item hmem hvisit, hshown⟩
    | obj fields =>
      rw [redactWithin_obj] at h
      cases h with
      | key hf =>
        obtain ⟨value, hmem, hkept, -⟩ := mem_redactFields.1 hf
        exact .inr ⟨_, .key hmem hkept, rfl⟩
      | field hf h =>
        obtain ⟨value, hmem, hkept, rfl⟩ := mem_redactFields.1 hf
        split_ifs at h with hmasked
        · exact .inl (exposes_str h)
        · rw [Bool.not_eq_true] at hmasked
          exact (ih h).imp_right fun ⟨part, hvisit, hshown⟩ =>
            ⟨part, .field hmem hkept hmasked hvisit, hshown⟩
    | _ => exact exposes_leaf ⟨nofun, nofun⟩ h

theorem Visits.exposes (h : Visits room v part) :
    Exposes numberText (redactWithin isoText room v) (part.shown numberText isoText) := by
  induction h with
  | text room t =>
    rw [redactWithin]
    exact .str _
  | number room hn =>
    rw [redactWithin, if_pos hn]
    exact .num _
  | date room time =>
    rw [redactWithin]
    exact .str _
  | item hx h ih =>
    rw [redactWithin]
    exact .item (List.mem_map_of_mem hx) ih
  | key hf hkept =>
    rw [redactWithin_obj]
    exact .key (mem_redactFields.2 ⟨_, hf, hkept, rfl⟩)
  | field hf hkept hmasked h ih =>
    rw [redactWithin_obj]
    refine .field (mem_redactFields.2 ⟨_, hf, hkept, rfl⟩) ?_
    rwa [hmasked, if_neg Bool.false_ne_true]

/-- **When nothing in the result looks like a secret**: where no kept number or key does, and no long
text begins to when it is cut. -/
theorem redactReceipt_hides_iff (numberText : JsNumber → JsText) (isoText : Int → JsText)
    (input : Receipt) (depth : Nat) :
    (∀ t, Exposes numberText (redactReceipt isoText input depth) t → secretShaped t = false) ↔
      ∀ part, Visits (maxDepth - depth) input part → part.plain numberText isoText := by
  constructor
  · intro h part hvisit
    exact plain_iff.2 (h _ hvisit.exposes)
  · intro h t hexposes
    rcases exposes_redactWithin hexposes with rfl | ⟨part, hvisit, rfl⟩
    · exact secretShaped_redactedText
    · exact plain_iff.1 (h part hvisit)

end

namespace Sample

/-- How a whole number below 10^21 is written. -/
def integerText : JsNumber → JsText
  | .num q => jsText (toString q.num)
  | _ => jsText "NaN"

def isoText (_ : Int) : JsText := jsText "1970-01-01T00:00:00.000Z"

/-- A card number, as a number. -/
def numberedReceipt : Receipt := .obj [(jsText "reference", .num (.num 4111111111111111))]

/-- A card number, as a key. -/
def keyedReceipt : Receipt := .obj [(jsText "4111111111111111", .bool true)]

/-- Too many digits for a card number, until the text is cut. -/
def longText : JsText := List.replicate 240 32 ++ jsText "41111111111111112222222222"

end Sample

/-- **A number, a key, and a text that looks like a secret once it is cut.** -/
theorem redactReceipt_leaks :
    (∃ t, Exposes Sample.integerText (redactReceipt Sample.isoText Sample.numberedReceipt 0) t ∧
      secretShaped t = true) ∧
    (∃ t, Exposes Sample.integerText (redactReceipt Sample.isoText Sample.keyedReceipt 0) t ∧
      secretShaped t = true) ∧
    ∃ t, Exposes Sample.integerText (redactReceipt Sample.isoText (.str Sample.longText) 0) t ∧
      secretShaped t = true := by
  have hnumber : Visits 5 Sample.numberedReceipt (.number (.num 4111111111111111)) :=
    .field List.mem_cons_self (by decide +kernel) (by decide +kernel) (.number _ rfl)
  have hkey : Visits 5 Sample.keyedReceipt (.key (jsText "4111111111111111")) :=
    .key List.mem_cons_self (by decide +kernel)
  exact ⟨⟨_, hnumber.exposes, by decide +kernel⟩, ⟨_, hkey.exposes, by decide +kernel⟩,
    ⟨_, (Visits.text 5 _).exposes, by decide +kernel⟩⟩

/-! ## What is masked does not matter -/

mutual

/-- Two values are the same but for the values of masked keys, at any depth. -/
inductive SameButMasked : Receipt → Receipt → Prop
  | refl (v : Receipt) : SameButMasked v v
  | arr {items items' : List Receipt} (h : SameItems items items') :
      SameButMasked (.arr items) (.arr items')
  | obj {fields fields' : List (JsText × Receipt)} (h : SameFields fields fields') :
      SameButMasked (.obj fields) (.obj fields')

inductive SameItems : List Receipt → List Receipt → Prop
  | nil : SameItems [] []
  | cons {v v' : Receipt} {items items' : List Receipt} (h : SameButMasked v v')
      (hs : SameItems items items') : SameItems (v :: items) (v' :: items')

inductive SameFields : List (JsText × Receipt) → List (JsText × Receipt) → Prop
  | nil : SameFields [] []
  /-- The value of a masked key may be any other one. -/
  | mask {key : JsText} (hmasked : masked key = true) (v v' : Receipt)
      {fields fields' : List (JsText × Receipt)} (hs : SameFields fields fields') :
      SameFields ((key, v) :: fields) ((key, v') :: fields')
  | cons (key : JsText) {v v' : Receipt} {fields fields' : List (JsText × Receipt)}
      (h : SameButMasked v v') (hs : SameFields fields fields') :
      SameFields ((key, v) :: fields) ((key, v') :: fields')

end

section

variable {isoText : Int → JsText} {room : Nat}

/-- The first items are redacted alike, if what is the same but for masked values is. -/
theorem redactItems_same {items items' : List Receipt}
    (ih : ∀ v v', SameButMasked v v' → redactWithin isoText room v = redactWithin isoText room v')
    (h : SameItems items items') (n : Nat) :
    (items.take n).map (redactWithin isoText room) =
      (items'.take n).map (redactWithin isoText room) := by
  induction items generalizing items' n with
  | nil =>
    cases h
    rfl
  | cons v items ihs =>
    cases h with
    | cons h hs =>
      cases n with
      | zero => rfl
      | succ n => rw [List.take_succ_cons, List.take_succ_cons, List.map_cons, List.map_cons,
          ih _ _ h, ihs hs n]

theorem redactFields_same {fields fields' : List (JsText × Receipt)}
    (ih : ∀ v v', SameButMasked v v' → redactWithin isoText room v = redactWithin isoText room v')
    (h : SameFields fields fields') (n : Nat) :
    ((fields.take n).filterMap fun f =>
      if f.1 ∈ droppedKeys then none
      else some (f.1, if masked f.1 then .str redactedText else redactWithin isoText room f.2)) =
    (fields'.take n).filterMap fun f =>
      if f.1 ∈ droppedKeys then none
      else some (f.1, if masked f.1 then .str redactedText else redactWithin isoText room f.2) := by
  induction fields generalizing fields' n with
  | nil =>
    cases h
    rfl
  | cons f fields ihs =>
    cases n with
    | zero => rfl
    | succ n =>
      cases h with
      | mask hmasked v v' hs =>
        simp only [List.take_succ_cons, List.filterMap_cons, ihs hs n, hmasked, if_true]
      | cons key h hs =>
        simp only [List.take_succ_cons, List.filterMap_cons, ihs hs n, ih _ _ h]

theorem redactWithin_same {v v' : Receipt} (h : SameButMasked v v') :
    redactWithin isoText room v = redactWithin isoText room v' := by
  induction room generalizing v v' with
  | zero =>
    cases h with
    | refl => rfl
    | arr | obj => simp only [redactWithin]
  | succ room ih =>
    cases h with
    | refl => rfl
    | arr h =>
      rw [redactWithin, redactWithin, redactItems_same (fun _ _ => ih) h]
    | obj h =>
      rw [redactWithin_obj, redactWithin_obj, redactFields_same (fun _ _ => ih) h]

end

/-- **What is stored does not depend on the masked values.** -/
theorem redactReceipt_eq_of_same (isoText : Int → JsText) (depth : Nat) {v v' : Receipt}
    (h : SameButMasked v v') : redactReceipt isoText v depth = redactReceipt isoText v' depth :=
  redactWithin_same h

/-- Two receipts with different card numbers, one of them with more in it. -/
theorem redactReceipt_eq_card :
    redactReceipt Sample.isoText (.obj [(jsText "status", .str (jsText "ACCEPTED")),
      (jsText "cardNumber", .num (.num 4111111111111111))]) 0 =
    redactReceipt Sample.isoText (.obj [(jsText "status", .str (jsText "ACCEPTED")),
      (jsText "cardNumber", .obj [(jsText "digits", .arr [.null])])]) 0 := by
  refine redactReceipt_eq_of_same Sample.isoText 0 (.obj (.cons _ (.refl _) (.mask ?_ _ _ .nil)))
  decide +kernel

end ApiScore
