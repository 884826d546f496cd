import SpaceMigration.Macro.Occurrence

/-!
# Converters and their registry

A converter is the rule for one macro family: whether an occurrence is eligible, and how its
identifier, parameters and body are mapped. Parameters are mapped before the body, so when both
mappings fail the error is that of the parameters.

A registry binds identifiers, with case, to converters.
-/

namespace SpaceMigration

/-- The rule for one macro family. Every mapping keeps its part by default. -/
structure Converter where
  /-- Whether the occurrence is eligible. -/
  accepts : Occurrence → Bool := fun _ => true
  /-- The identifier of the replacement. -/
  targetId : Occurrence → String := fun o => o.id
  /-- The parameters of the replacement. -/
  mapParameters : Occurrence → Except MigrationError Parameters := fun o => .ok o.parameters
  /-- The body of the replacement. -/
  mapBody : Occurrence → Except MigrationError String := fun o => .ok o.body

/-- The replacement of an eligible occurrence. -/
def Converter.replace (c : Converter) (o : Occurrence) : Except MigrationError Replacement :=
  match c.mapParameters o with
  | .error e => .error e
  | .ok parameters =>
    match c.mapBody o with
    | .error e => .error e
    | .ok body => .ok ⟨c.targetId o, parameters, body⟩

/-- Converters by the identifier of the macros they convert. -/
abbrev Registry := StringMap Converter

namespace Registry

/-- Binds a converter to an identifier, and returns the converter it replaces. -/
def register (registry : Registry) (id : String) (c : Converter) : Option Converter × Registry :=
  (registry.get? id, registry.insert id c)

/-- Offers an occurrence to the converter bound to its identifier. -/
def convert (registry : Registry) (o : Occurrence) : Except MigrationError Conversion :=
  match registry.get? o.id with
  | none => .ok .unchanged
  | some c => if c.accepts o then (c.replace o).map .replaced else .ok .unchanged

end Registry

end SpaceMigration
