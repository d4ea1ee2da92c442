import Mathlib.Data.Rat.Defs

/-! # JSON values

Values as a JavaScript program sees them. A property that is missing is
`undefined`, which is `none` here.
-/

namespace BankingBackend.Foundation

inductive Number
  | finite (value : ℚ)
  | infinite (negative : Bool)
  | nan

/-- The names of the fields of an object are distinct. -/
inductive Json
  | null
  | boolean (value : Bool)
  | number (value : Number)
  | string (text : String)
  | array (elements : List Json)
  | object (fields : List (String × Json))

namespace Json

/-- Access to a property of a value that is not `null`. -/
def property (json : Json) (name : String) : Option Json :=
  match json with
  | .object fields => (fields.find? fun field => field.1 == name).map Prod.snd
  | _ => none

def truthy : Json → Bool
  | .null => false
  | .boolean value => value
  | .number (.finite value) => value ≠ 0
  | .number (.infinite _) => true
  | .number .nan => false
  | .string text => text ≠ ""
  | .array _ | .object _ => true

/-- A value of type `object` other than `null`. -/
def isObject : Json → Bool
  | .array _ | .object _ => true
  | _ => false

def string? : Json → Option String
  | .string text => some text
  | _ => none

/-- Strict equality with a string. -/
def isText (text : String) (json : Json) : Bool := json.string? == some text

end Json

end BankingBackend.Foundation
