import SpaceMigration.Toml.Scalar

/-!
# Reading TOML documents

A document is a sequence of lines: key–value pairs, headers of tables and of elements of arrays of
tables, comments, and empty lines. `Value.parse?` gives the table of a document.

Values are read with a fuel that bounds the number of nested reader calls; the length of the text
is enough. Independently of it, arrays and inline tables nest less than `nestingLimit` levels deep,
and a dotted key has fewer parts than that.
-/

namespace SpaceMigration.Toml

/-- The bound on nested values and on the parts of a key. -/
def nestingLimit : Nat := 80

/-! ### Blanks, comments and line ends -/

/-- Reads a comment up to the end of its line. -/
def readComment : List Char → Option (List Char)
  | '#' :: rest =>
    let after := rest.dropWhile isTextChar
    if after.isEmpty || startsLine after then some after else none
  | text => some text

/-- Reads what may stand at the end of a line: blanks, a comment, and the line break. -/
def readLineEnd (text : List Char) : Option (List Char) := do
  let rest ← readComment (skipSpaces text)
  if rest.isEmpty then return rest
  else if startsLine rest then return dropLineBreak rest
  else none

/-- Skips blanks, comments and line breaks between the items of an array. -/
def skipLines : Nat → List Char → Option (List Char)
  | 0, text => some text
  | fuel + 1, text =>
    match skipSpaces text with
    | '#' :: rest => do
      let after ← readComment ('#' :: rest)
      skipLines fuel after
    | rest => if startsLine rest then skipLines fuel (dropLineBreak rest) else some rest

/-! ### Keys -/

/-- The characters of a bare key. -/
def isBareKeyChar (c : Char) : Bool :=
  ('A' ≤ c && c ≤ 'Z') || ('a' ≤ c && c ≤ 'z') || c.isDigit || c == '_' || c == '-'

/-- Reads one part of a key: bare, basic or literal. -/
def readKeyPart : List Char → StringPart
  | '"' :: rest => readBasic rest
  | '\'' :: rest => readLiteral rest
  | text =>
    let part := text.takeWhile isBareKeyChar
    if part.isEmpty then none else some (part, text.dropWhile isBareKeyChar)

/-- Reads the parts of a key and the blanks around them. -/
def readKeyParts : Nat → List Char → Option (List String × List Char)
  | 0, _ => none
  | fuel + 1, text => do
    let (part, rest) ← readKeyPart (skipSpaces text)
    match skipSpaces rest with
    | '.' :: rest => do
      let (parts, rest) ← readKeyParts fuel rest
      return (String.ofList part :: parts, rest)
    | rest => return ([String.ofList part], rest)

/-- Reads a key: its path and its last part. -/
def readKey (text : List Char) : Option (List String × String × List Char) := do
  let (parts, rest) ← readKeyParts (nestingLimit - 1) text
  let key ← parts.getLast?
  return (parts.dropLast, key, rest)

/-! ### Values -/

mutual

/-- Reads a value that may nest `depth` levels. -/
def readValue : (fuel depth : Nat) → List Char → Option (Value × List Char)
  | 0, _, _ => none
  | fuel + 1, depth, text =>
    match text with
    | '[' :: rest =>
      match depth with
      | 0 => none
      | depth + 1 => do
        let rest ← skipLines rest.length rest
        match rest with
        | ']' :: rest => return (.array [], rest)
        | rest => do
          let (items, rest) ← readItems fuel depth rest
          return (.array items, rest)
    | '{' :: rest =>
      match depth with
      | 0 => none
      | depth + 1 =>
        match skipSpaces rest with
        | '}' :: rest => some (.table [], rest)
        | rest => do
          let (pairs, rest) ← readPairs fuel depth rest
          let v ← Value.inlineTable pairs
          return (v, rest)
    | 't' :: 'r' :: 'u' :: 'e' :: rest => some (.boolean true, rest)
    | 'f' :: 'a' :: 'l' :: 's' :: 'e' :: rest => some (.boolean false, rest)
    | 'i' :: 'n' :: 'f' :: rest => some (.float, rest)
    | 'n' :: 'a' :: 'n' :: rest => some (.float, rest)
    | c :: rest =>
      if c = '"' || c = '\'' then do
        let (s, rest) ← readString (c :: rest)
        return (.string (String.ofList s), rest)
      else readNumeric (c :: rest)
    | [] => none

/-- Reads the items of a nonempty array, with an optional comma at the end, and its closing
bracket. -/
def readItems : (fuel depth : Nat) → List Char → Option (List Value × List Char)
  | 0, _, _ => none
  | fuel + 1, depth, text => do
    let (v, rest) ← readValue fuel depth text
    let rest ← skipLines rest.length rest
    match rest with
    | ']' :: rest => return ([v], rest)
    | ',' :: rest => do
      let rest ← skipLines rest.length rest
      match rest with
      | ']' :: rest => return ([v], rest)
      | rest => do
        let (items, rest) ← readItems fuel depth rest
        return (v :: items, rest)
    | _ => none

/-- Reads the keys and values of a nonempty inline table, which stands on one line and ends without
a comma, and its closing brace. -/
def readPairs : (fuel depth : Nat) → List Char →
    Option (List (List String × String × Value) × List Char)
  | 0, _, _ => none
  | fuel + 1, depth, text => do
    let (path, key, rest) ← readKey text
    let rest ← readMark '=' rest
    let (v, rest) ← readValue fuel depth (skipSpaces rest)
    match skipSpaces rest with
    | '}' :: rest => return ([(path, key, v)], rest)
    | ',' :: rest => do
      let (pairs, rest) ← readPairs fuel depth rest
      return ((path, key, v) :: pairs, rest)
    | _ => none

end

/-! ### Lines -/

/-- Reads one line that is not empty, and returns the entries with the line taken in, the path of
the header then current, and the rest. -/
def readLine (header : List String) (entries : Entries) (text : List Char) :
    Option (Entries × List String × List Char) :=
  match text with
  | '[' :: '[' :: rest => do
    let (path, key, rest) ← readKey rest
    let rest ← readMark ']' rest
    let rest ← readMark ']' rest
    let rest ← readLineEnd rest
    let entries ← entries.openElement path key
    return (entries, path ++ [key], rest)
  | '[' :: rest => do
    let (path, key, rest) ← readKey rest
    let rest ← readMark ']' rest
    let rest ← readLineEnd rest
    let entries ← entries.openTable path key
    return (entries, path ++ [key], rest)
  | text => do
    let (path, key, rest) ← readKey text
    let rest ← readMark '=' rest
    let (v, rest) ← readValue (2 * text.length + 2) (nestingLimit - 1) (skipSpaces rest)
    let rest ← readLineEnd rest
    let entries ← entries.setValueIn header path key v
    return (entries, header, rest)

/-- Reads the lines of a document. -/
def readLines : (fuel : Nat) → (header : List String) → Entries → List Char → Option Entries
  | 0, _, _, _ => none
  | fuel + 1, header, entries, text =>
    match skipSpaces text with
    | [] => some entries
    | '#' :: rest => do
      let rest ← readLineEnd ('#' :: rest)
      readLines fuel header entries rest
    | rest =>
      if startsLine rest then readLines fuel header entries (dropLineBreak rest)
      else do
        let (entries, header, rest) ← readLine header entries rest
        readLines fuel header entries rest

/-- The entries of the table of a document. A byte-order mark at the start is skipped. -/
def parse? (text : String) : Option (List (String × Value)) :=
  let text := match text.toList with
    | '\uFEFF' :: rest => rest
    | text => text
  (readLines (text.length + 1) [] [] text).map finishEntries

end SpaceMigration.Toml
