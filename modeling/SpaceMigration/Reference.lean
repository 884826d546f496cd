import SpaceMigration.Json.Value
import SpaceMigration.Text.Segment

/-!
# References to entities of the target

A reference is a path such as `Migrated.Engineering`: segments separated by dots. A dot inside the
name of a child is escaped, so that the name stays one segment.
-/

namespace SpaceMigration

/-- A reference to an entity of the target. -/
structure EntityReference where
  path : String
deriving DecidableEq, Repr

namespace EntityReference

/-- The segment of a child name: dots are preceded by a backslash. -/
def segment (name : String) : String :=
  String.ofList (Text.replaceChar '.' ['\\', '.'] name.toList)

/-- The reference to a child entity. -/
def child (parent : EntityReference) (name : String) : EntityReference :=
  ⟨parent.path ++ "." ++ segment name⟩

/-- A reference is written as its path. -/
def toJson (r : EntityReference) : Json.Value :=
  .text r.path

end EntityReference

end SpaceMigration
