import SpaceMigration.CommandLine.Session

/-!
# Directories as values

A directory held as a value: the contents of its files by their paths. It is the world of the
command line in statements and in tests. Absolute paths, and paths that step out with `..`, lead to
nothing. A directory within the directory is there as long as a file is in it.
-/

namespace SpaceMigration.CommandLine

/-- The contents of the files of a directory, by their paths. -/
abbrev Directory := StringMap ByteArray

namespace Directory

/-- The names along a path that stays inside, without those that stay in place. -/
def names? (path : String) : Option (List String) :=
  let parts := (Text.segments '/' path.toList).map String.ofList
  if parts.head? = some "" ∨ ".." ∈ parts then none
  else some (parts.filter fun part => part ≠ "" ∧ part ≠ ".")

/-- Whether a path ends like that of a directory. -/
def endsAsDirectory (path : String) : Bool :=
  match ((Text.segments '/' path.toList).map String.ofList).getLast? with
  | some last => last = "" ∨ last = "."
  | none => false

/-- Whether there is a directory at the end of the names. -/
def hasDirectory (files : Directory) (names : List String) : Bool :=
  names.isEmpty ||
    files.keys.any fun key => ("/".intercalate names ++ "/").toList.isPrefixOf key.toList

/-- What a path leads to. -/
def look (files : Directory) (path : String) : PathContent :=
  match names? path with
  | none => .nothing
  | some names =>
    if files.hasDirectory names then .directory
    else if endsAsDirectory path then .nothing
    else match files.get? ("/".intercalate names) with
      | some bytes => .file bytes
      | none => .nothing

/-- The directory with a file written, if the path can lead to a file. -/
def write (path : String) (bytes : ByteArray) (files : Directory) : Bool × Directory :=
  match names? path with
  | none => (false, files)
  | some names =>
    if files.hasDirectory names || endsAsDirectory path || !files.hasDirectory names.dropLast then
      (false, files)
    else (true, files.insert ("/".intercalate names) bytes)

/-- The directory as an environment, with a fixed time and a fixed job identifier. -/
def environment (now : Timestamp) (jobId : String) : Environment (StateM Directory) where
  look path := fun files => (files.look path, files)
  write path bytes := write path bytes
  clock := pure now
  newJobId := pure jobId

end Directory

end SpaceMigration.CommandLine
