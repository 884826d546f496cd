/-!
# TOML tables under construction

A TOML document defines its tables piece by piece: by headers, by dotted keys and by inline tables.
Which pieces may extend a table depends on how it came to be, so a table under construction
remembers two things:

* it is *implicit* when only paths through it have been written, and
* it is *dotted* when it was opened by a dotted key.

A header may complete an implicit table that is not dotted. A dotted key may pass through implicit
tables only, and may end in dotted ones only. Values, inline tables among them, are closed.
-/

namespace SpaceMigration.Toml

/-- A finished value. Of numbers that are not integers and of dates only the kind is kept. -/
inductive Value where
  | string (s : String)
  | integer (n : Int)
  | float
  | boolean (b : Bool)
  | datetime
  | array (items : List Value)
  | table (entries : List (String × Value))
deriving Inhabited

/-- An entry under construction. -/
inductive Node where
  | value (v : Value)
  | table (implicit dotted : Bool) (entries : List (String × Node))
  /-- An array of tables, each opened by its own header. -/
  | tables (elements : List (List (String × Node)))

/-- The entries of a table under construction. -/
abbrev Entries := List (String × Node)

mutual

/-- The finished value of an entry. -/
def Node.finish : Node → Value
  | .value v => v
  | .table _ _ entries => .table (finishEntries entries)
  | .tables elements => .array (finishElements elements)

/-- The finished values of the entries of a table. -/
def finishEntries : List (String × Node) → List (String × Value)
  | [] => []
  | (key, node) :: rest => (key, node.finish) :: finishEntries rest

/-- The finished tables of an array of tables. -/
def finishElements : List (List (String × Node)) → List Value
  | [] => []
  | entries :: rest => .table (finishEntries entries) :: finishElements rest

end

namespace Entries

/-- The entry with a key. -/
def find? (entries : Entries) (key : String) : Option Node :=
  entries.lookup key

/-- The entries with that of a key replaced. -/
def replace (entries : Entries) (key : String) (node : Node) : Entries :=
  entries.map fun entry => if entry.1 = key then (key, node) else entry

/-- Changes the table at the end of a path, and opens the tables on the way that do not exist. The
change is told whether the table is dotted. The flag `byKey` says whether the path is that of a
dotted key or of a header. -/
def changeAt (byKey : Bool) (change : (dotted : Bool) → Entries → Option Entries) :
    List String → (dotted : Bool) → Entries → Option Entries
  | [], dotted, entries => change dotted entries
  | key :: path, _, entries =>
    match entries.find? key with
    | none => do
      let inner ← changeAt byKey change path byKey []
      return entries ++ [(key, .table true byKey inner)]
    | some (.value _) => none
    | some (.table implicit dotted inner) =>
      if byKey && !implicit then none
      else do
        let inner ← changeAt byKey change path dotted inner
        return entries.replace key (.table implicit dotted inner)
    | some (.tables elements) => do
      let last ← elements.getLast?
      let inner ← changeAt byKey change path false last
      return entries.replace key (.tables (elements.dropLast ++ [inner]))

/-- Sets the value of a key, given as its path and its last part. -/
def setValue (path : List String) (key : String) (v : Value) (entries : Entries) :
    Option Entries :=
  changeAt true
    (fun dotted inner =>
      if !path.isEmpty && !dotted then none
      else if (inner.find? key).isSome then none
      else some (inner ++ [(key, .value v)]))
    path false entries

/-- Opens the table of a header. -/
def openTable (path : List String) (key : String) (entries : Entries) : Option Entries :=
  changeAt false
    (fun _ inner =>
      match inner.find? key with
      | none => some (inner ++ [(key, .table false false [])])
      | some (.table true false found) => some (inner.replace key (.table false false found))
      | some _ => none)
    path false entries

/-- Opens a further table of an array of tables. -/
def openElement (path : List String) (key : String) (entries : Entries) : Option Entries :=
  changeAt false
    (fun _ inner =>
      match inner.find? key with
      | none => some (inner ++ [(key, .tables [[]])])
      | some (.tables elements) => some (inner.replace key (.tables (elements ++ [[]])))
      | some _ => none)
    path false entries

/-- Sets the value of a key inside the table of the current header. -/
def setValueIn (header path : List String) (key : String) (v : Value) (entries : Entries) :
    Option Entries :=
  changeAt false (fun _ inner => inner.setValue path key v) header false entries

end Entries

/-- The inline table of a list of keys and values. -/
def Value.inlineTable (pairs : List (List String × String × Value)) : Option Value := do
  let entries ← pairs.foldlM (fun entries (path, key, v) => Entries.setValue path key v entries)
    ([] : Entries)
  return .table (finishEntries entries)

end SpaceMigration.Toml
