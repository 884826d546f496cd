import SpaceMigration.Error
import SpaceMigration.Store.Tables
import SpaceMigration.Text.Percent

/-!
# Where a store is kept

A database URL names a store: `sqlite://` or `sqlite:`, or neither, then a percent-encoded path, and
perhaps a query of settings behind the first `?`. The path `:memory:` stands for a store that is
forgotten when it is closed, and so does the empty path.

| Setting     | Values                       | Meaning                            |
|-------------|------------------------------|------------------------------------|
| `mode`      | `ro`, `rw`, `rwc`, `memory`  | read only; as usual; not in a file |
| `cache`     | `private`, `shared`          | nothing for a single reader        |
| `immutable` | `true`, `1`, `false`, `0`    | read only                          |
| `vfs`       | `unix`                       | as usual                           |

Any other setting or value makes the URL unusable.
-/

namespace SpaceMigration

/-- Where the rows of a store are kept. -/
inductive StorePlace where
  /-- Nowhere: the store is forgotten when it is closed. -/
  | memory
  | file (path : String)
deriving DecidableEq, Repr

/-- What may be done with a store. -/
inductive Access where
  | readOnly
  | readWrite
deriving DecidableEq, Repr

/-- A step that writes to a store, as far as the access allows. A refused step leaves the store
alone. -/
def Access.write {α : Type} (access : Access)
    (step : Store → Except MigrationError α × Store) (store : Store) :
    Except MigrationError α × Store :=
  match access with
  | .readWrite => step store
  | .readOnly => (.error ⟨.database, "the database is open for reading only"⟩, store)

/-- A place with the access that is asked for. -/
structure StoreLocation where
  place : StorePlace
  access : Access
deriving DecidableEq, Repr

namespace StoreLocation

/-- The text without the repetitions of a pattern at its start. -/
def dropLeading (pattern text : List Char) : List Char :=
  if h : pattern ≠ [] ∧ text ≠ [] ∧ pattern.isPrefixOf text then
    have : text.length - pattern.length < text.length :=
      Nat.sub_lt (List.length_pos_iff.2 h.2.1) (List.length_pos_iff.2 h.1)
    dropLeading pattern (text.drop pattern.length)
  else text
termination_by text.length

/-- The location with one setting of the query applied. -/
def applySetting (location : StoreLocation) : String × String → Option StoreLocation
  | ("mode", "ro") => some { location with access := .readOnly }
  | ("mode", "memory") => some { location with place := .memory }
  | ("mode", value) => if value ∈ ["rw", "rwc"] then some location else none
  | ("cache", value) => if value ∈ ["private", "shared"] then some location else none
  | ("immutable", value) =>
    if value ∈ ["true", "1"] then some { location with access := .readOnly }
    else if value ∈ ["false", "0"] then some location
    else none
  | ("vfs", "unix") => some location
  | _ => none

/-- The place that a path stands for. No path holds a null character. -/
def placeOf (path : String) : Option StorePlace :=
  if path = ":memory:" ∨ path = "" then some .memory
  else if '\x00' ∈ path.toList then none
  else some (.file path)

/-- The location that a URL names. -/
def ofUrl? (url : String) : Option StoreLocation := do
  let rest := dropLeading "sqlite:".toList (dropLeading "sqlite://".toList url.toList)
  let (path, query) := (Text.cutAt '?' rest).getD (rest, [])
  let place ← placeOf (← Text.percentDecode? (String.ofList path))
  (← Text.querySettings? query).foldlM applySetting ⟨place, .readWrite⟩

/-- Reads a database URL. -/
def parse (url : String) : Except MigrationError StoreLocation :=
  match ofUrl? url with
  | some location => .ok location
  | none => .error ⟨.database, "the database URL cannot be used"⟩

end StoreLocation

end SpaceMigration
