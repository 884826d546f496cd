/-!
# Files

What a path leads to, and what a file says to a reader of text.
-/

namespace SpaceMigration

/-- What a path leads to. -/
inductive PathContent where
  | nothing
  | directory
  | file (bytes : ByteArray)

/-- What a path says to a reader of text. -/
inductive FileContent where
  /-- There is nothing to read. -/
  | missing
  /-- There is something, but not a text in UTF-8. -/
  | binary
  | text (content : String)
deriving DecidableEq, Repr

/-- The reading of a path as text. -/
def FileContent.ofPath : PathContent → FileContent
  | .nothing => .missing
  | .directory => .binary
  | .file bytes =>
    match String.fromUTF8? bytes with
    | some content => .text content
    | none => .binary

end SpaceMigration
