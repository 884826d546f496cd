import SpaceMigration.Error
import SpaceMigration.Json.Record
import SpaceMigration.Macro.Call

/-!
# Macros of the source and what becomes of them

An `Occurrence` is a macro as a source document holds it; its identifier is never empty. A
`Replacement` is a macro of the target. Both can be written as a macro call.
-/

namespace SpaceMigration

/-- A macro found in a source document. -/
structure Occurrence where
  id : String
  parameters : Parameters
  body : String
  id_ne_empty : id ≠ ""

namespace Occurrence

/-- The occurrence with the given parts; an empty identifier is refused. -/
def ofParts (id : String) (parameters : Parameters) (body : String) :
    Except MigrationError Occurrence :=
  if h : id = "" then .error ⟨.conversion, "macro identifier must not be empty"⟩
  else .ok ⟨id, parameters, body, h⟩

/-- The value of a parameter. -/
def parameter? (o : Occurrence) (name : String) : Option String :=
  o.parameters.get? name

/-- The occurrence as a macro call of the target, unchanged. -/
def toCall (o : Occurrence) : String :=
  MacroCall.format o.id o.parameters o.body

end Occurrence

/-- A macro of the target that replaces an occurrence. -/
structure Replacement where
  targetId : String
  parameters : Parameters
  body : String

/-- The replacement as a macro call of the target. -/
def Replacement.toCall (r : Replacement) : String :=
  MacroCall.format r.targetId r.parameters r.body

/-- The result of offering an occurrence to its converter. -/
inductive Conversion where
  | replaced (r : Replacement)
  /-- No converter applies: the occurrence passes through as it is. -/
  | unchanged

/-! ### Layout -/

/-- Parameters are written as an object. -/
def Parameters.toJson (parameters : Parameters) : Json.Value :=
  .record (parameters.entries.map fun entry => (entry.1, .text entry.2))

/-- Parameters are read from an object; of a repeated name the last value counts. -/
def Parameters.ofJson? (v : Json.Value) : Option Parameters :=
  v.asMap (·.asText)

/-- An occurrence is written with all its parts. -/
def Occurrence.toJson (o : Occurrence) : Json.Value :=
  .record [("macro_id", .text o.id), ("parameters", Parameters.toJson o.parameters),
    ("body", .text o.body)]

/-- Parameters and body of an occurrence may be left out; its identifier may not be empty. -/
def Occurrence.ofJson? (v : Json.Value) : Option Occurrence := do
  let fields ← v.fields? ["macro_id", "parameters", "body"]
  let id ← fields.required "macro_id" (·.asText)
  let parameters ← fields.withDefault "parameters" .empty Parameters.ofJson?
  let body ← fields.withDefault "body" "" (·.asText)
  (Occurrence.ofParts id parameters body).toOption

/-- A replacement is written with all its parts. -/
def Replacement.toJson (r : Replacement) : Json.Value :=
  .record [("target_macro_id", .text r.targetId), ("parameters", Parameters.toJson r.parameters),
    ("body", .text r.body)]

/-- All parts of a replacement are required. -/
def Replacement.ofJson? (v : Json.Value) : Option Replacement := do
  let fields ← v.fields? ["target_macro_id", "parameters", "body"]
  let targetId ← fields.required "target_macro_id" (·.asText)
  let parameters ← fields.required "parameters" Parameters.ofJson?
  let body ← fields.required "body" (·.asText)
  return ⟨targetId, parameters, body⟩

end SpaceMigration
