import AvantimePlatform.Lib.JsNumber

/-!
# JSON values

The value that `JSON.parse` gives.  A text is not modelled: `JSON.parse` undoes
`JSON.stringify` on the values here, and what `JSON.stringify` loses (a number that
is not finite becomes `null`, a member that is `undefined` is left out) is in the
functions that build a value.

A member read off a parsed object is an `Option Json`, with `none` for `undefined`.
Nothing here names a component of the platform.
-/

namespace AvantimePlatform

inductive Json where
  | null
  | boolean (value : Bool)
  | number (value : JsNumber)
  | string (value : String)
  | array (items : List Json)
  | object (members : List (String × Json))

namespace Json

/-- `value[name]` of a parsed object, in which no two members have one name. -/
def member? (name : String) : Json → Option Json
  | .object members => members.lookup name
  | _ => none

/-- `left ?? right`. -/
def orElse (left right : Option Json) : Option Json :=
  match left with
  | none => right
  | some .null => right
  | some value => some value

/-- `typeof value === 'string'`, with the string. -/
def asString? : Option Json → Option String
  | some (.string value) => some value
  | _ => none

/-- What a number is written as. -/
def ofNumber (value : JsNumber) : Json :=
  if value.isFinite then .number value else .null

/-- What a value or `null` is written as. -/
def ofNullable {α : Type} (write : α → Json) : Option α → Json
  | none => .null
  | some value => write value

/-- What an optional member is written as: nothing when it is `undefined`. -/
def ofOptional {α : Type} (write : α → Json) : Option α → Option Json
  | none => none
  | some value => some (write value)

/-- The value of an enumeration that a string names, as the membership tests of the
source decide it. -/
def asEnum {α : Type} (name : α → String) (all : List α) : Option Json → Option α
  | some (.string value) => all.find? fun a => name a == value
  | _ => none

end Json

end AvantimePlatform
