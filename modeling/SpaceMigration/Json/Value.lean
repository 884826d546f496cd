/-!
# JSON values

The tree of a JSON text, with what the readers of typed records need to tell apart:

* an object keeps its entries in order, repeated keys included;
* a number is `natural` when it is written as digits alone, and keeps its literal otherwise, since
  the counters of this library accept digits alone;
* a string literal may escape one half of a surrogate pair. Such a literal is grammatical but
  denotes no text, so the text of a string or key is optional.
-/

namespace SpaceMigration.Json

/-- The tree of a JSON text. -/
inductive Value where
  | null
  | bool (b : Bool)
  | natural (n : Nat)
  | decimal (literal : String)
  | string (text : Option String)
  | array (items : List Value)
  | object (entries : List (Option String × Value))
deriving Inhabited

namespace Value

/-- A string value. -/
def text (s : String) : Value :=
  .string (some s)

/-- An array of strings. -/
def texts (ss : List String) : Value :=
  .array (ss.map text)

/-- An object with the given entries. -/
def record (entries : List (String × Value)) : Value :=
  .object (entries.map fun (key, value) => (some key, value))

/-- A string value, or null. -/
def text? : Option String → Value
  | none => null
  | some s => text s

end Value

end SpaceMigration.Json
