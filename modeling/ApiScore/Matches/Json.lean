import ApiScore.Execution.Types

/-!
# JSON values

A payload of the provider is read field by field, and a field may be missing, `null`, a text where a
number was expected, or anything else.  `JsValue` is such a value, `undefined` among them.

* `JsValue.get` — a field, or `undefined`.
* `JsValue.orElse`, `JsValue.truthy` — `??`, and a condition.
* `toNumber` — the number a field holds, if it holds one (`stats.utils.ts`).
-/

set_option autoImplicit false

namespace ApiScore

inductive JsValue
  | undefined
  | null
  | bool (b : Bool)
  | num (n : JsNumber)
  | str (text : String)
  | arr (items : List JsValue)
  | obj (fields : List (String × JsValue))

namespace JsValue

/-- `value[key]`, also `value?.key`. -/
def get (value : JsValue) (key : String) : JsValue :=
  match value with
  | .obj fields => (fields.lookup key).getD .undefined
  | _ => .undefined

/-- `value ?? other`. -/
def orElse (value other : JsValue) : JsValue :=
  match value with
  | .undefined | .null => other
  | _ => value

/-- What a condition makes of a value. -/
def truthy : JsValue → Bool
  | .undefined | .null => false
  | .bool b => b
  | .num n => !(n == .num 0 || n == .nan)
  | .str text => text != ""
  | .arr _ | .obj _ => true

/-- `Array.isArray(value) ? value : []`. -/
def items : JsValue → List JsValue
  | .arr items => items
  | _ => []

/-- A text, where the value is one. -/
def text? : JsValue → Option String
  | .str text => some text
  | _ => none

/-- `number | null`. -/
def ofNumber : Option JsNumber → JsValue
  | some n => .num n
  | none => .null

@[simp] theorem orElse_ofNumber_null (n : Option JsNumber) :
    (ofNumber n).orElse .null = ofNumber n := by
  cases n <;> rfl

end JsValue

/-- `toNumber`; `number` is JavaScript's `Number`. -/
def toNumber (number : JsValue → JsNumber) (value : JsValue) : Option JsNumber :=
  match value with
  | .undefined | .null | .str "" => none
  | _ => if number value = .nan then none else some (number value)

end ApiScore
