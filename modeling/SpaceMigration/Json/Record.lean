import SpaceMigration.Json.Value
import SpaceMigration.StringMap

/-!
# Typed reading of JSON values

A record is written as an object or as an array of its fields in declaration order.

* In an object, unknown keys are ignored however often they occur, and a known key may occur once.
* In an array, fields may be absent at the end only, and nothing may follow the last field.

What an absent field means is up to the field: a required one is an error, one with a default takes
it, and an optional one is absent in an object but must be written in an array. An explicit null is
a value like any other: it stands for an absent optional value and never for a default.
-/

namespace SpaceMigration.Json

/-! ### Plain values -/

namespace Value

/-- The text of a string value. -/
def asText : Value → Option String
  | .string s => s
  | _ => none

/-- A truth value. -/
def asBool : Value → Option Bool
  | .bool b => some b
  | _ => none

/-- The greatest number a counter holds. -/
def counterMax : Nat := Nat.pow 2 64 - 1

/-- A counter: digits alone, at most `counterMax`. -/
def asCounter : Value → Option Nat
  | .natural n => if n ≤ counterMax then some n else none
  | _ => none

/-- An optional value, absent when null. -/
def asOption {α : Type} (read : Value → Option α) : Value → Option (Option α)
  | .null => some none
  | v => (read v).map some

/-- The items of an array. -/
def asList {α : Type} (read : Value → Option α) : Value → Option (List α)
  | .array items => items.mapM read
  | _ => none

/-- The two items of an array of two. -/
def asPair {α β : Type} (first : Value → Option α) (second : Value → Option β) :
    Value → Option (α × β)
  | .array [v, w] => do return (← first v, ← second w)
  | _ => none

/-- The entry with its key read as text. -/
def textKey : Option String × Value → Option (String × Value)
  | (key, v) => key.map (·, v)

/-- The entries of an object as a map; of a repeated key the last entry wins. -/
def asMap {α : Type} (read : Value → Option α) : Value → Option (StringMap α)
  | .object entries => do
    let entries ← entries.mapM fun entry => do
      let (key, v) ← textKey entry
      return (key, ← read v)
    return .ofList entries
  | _ => none

/-- The case of an enumeration without arguments: its name, or an object that maps the name to
null. -/
def asName : Value → Option String
  | .string s => s
  | .object [(key, .null)] => key
  | _ => none

/-- The case of an enumeration with one argument: an object that maps its name to the argument. -/
def asCase : Value → Option (String × Value)
  | .object [entry] => textKey entry
  | _ => none

end Value

/-! ### Records -/

/-- The known fields found in the text of a record. -/
structure Fields where
  /-- Whether the record was written as an array. -/
  positional : Bool
  /-- The fields found, at most one of each name. -/
  found : List (String × Value)

/-- The fields of a record with the given field names. -/
def Value.fields? (names : List String) : Value → Option Fields
  | .array items =>
    if items.length ≤ names.length then some ⟨true, names.zip items⟩ else none
  | .object entries => do
    let entries ← entries.mapM textKey
    let known := entries.filter fun entry => names.contains entry.1
    if (known.map Prod.fst).Nodup then some ⟨false, known⟩ else none
  | _ => none

namespace Fields

/-- The value of a field, if it was written. -/
def get? (fields : Fields) (name : String) : Option Value :=
  StringMap.lookup name fields.found

/-- A field that has to be written. -/
def required {α : Type} (fields : Fields) (name : String) (read : Value → Option α) : Option α :=
  (fields.get? name).bind read

/-- A field with a default. -/
def withDefault {α : Type} (fields : Fields) (name : String) (default : α)
    (read : Value → Option α) : Option α :=
  match fields.get? name with
  | none => some default
  | some v => read v

/-- An optional field without a default: it may be left out of an object, not of an array. -/
def optional {α : Type} (fields : Fields) (name : String) (read : Value → Option α) :
    Option (Option α) :=
  match fields.get? name with
  | none => if fields.positional then none else some none
  | some v => v.asOption read

end Fields

end SpaceMigration.Json
