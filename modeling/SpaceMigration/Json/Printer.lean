import SpaceMigration.Json.Value

/-!
# Writing JSON

Two layouts of one value: `compact`, without any space, and `pretty`, one entry a line and two
spaces a level. Both keep the order of entries and escape only what JSON requires: the quote, the
backslash and the control characters below `U+0020`.
-/

namespace SpaceMigration.Json

/-- The hexadecimal digit of a number below 16, in lower case. -/
def hexDigit (n : Nat) : Char :=
  if n < 10 then Char.ofNat ('0'.toNat + n) else Char.ofNat ('a'.toNat + (n - 10))

/-- A character inside a string literal. -/
def escape (c : Char) : List Char :=
  if c = '"' then ['\\', '"']
  else if c = '\\' then ['\\', '\\']
  else if c = '\x08' then ['\\', 'b']
  else if c = '\x0c' then ['\\', 'f']
  else if c = '\n' then ['\\', 'n']
  else if c = '\r' then ['\\', 'r']
  else if c = '\t' then ['\\', 't']
  else if c.toNat < 0x20 then
    ['\\', 'u', '0', '0', hexDigit (c.toNat / 16), hexDigit (c.toNat % 16)]
  else [c]

/-- The string literal of a text. -/
def quoted (s : String) : List Char :=
  '"' :: (s.toList.flatMap escape ++ ['"'])

/-- The literal of an optional text; a missing text is written as a lone surrogate. -/
def literal : Option String → List Char
  | none => ['"', '\\', 'u', 'd', '8', '0', '0', '"']
  | some s => quoted s

/-- The decimal digits of a number. -/
def digits (n : Nat) : List Char :=
  Nat.toDigits 10 n

mutual

/-- The compact text of a value. -/
def Value.render : Value → List Char
  | .null => ['n', 'u', 'l', 'l']
  | .bool true => ['t', 'r', 'u', 'e']
  | .bool false => ['f', 'a', 'l', 's', 'e']
  | .natural n => digits n
  | .decimal text => text.toList
  | .string s => literal s
  | .array items => '[' :: (renderItems items ++ [']'])
  | .object entries => '{' :: (renderEntries entries ++ ['}'])

/-- The items of an array, separated by commas. -/
def renderItems : List Value → List Char
  | [] => []
  | [v] => v.render
  | v :: w :: rest => v.render ++ ',' :: renderItems (w :: rest)

/-- The entries of an object, separated by commas. -/
def renderEntries : List (Option String × Value) → List Char
  | [] => []
  | [(k, v)] => literal k ++ ':' :: v.render
  | (k, v) :: e :: rest => literal k ++ ':' :: v.render ++ ',' :: renderEntries (e :: rest)

end

/-- The compact text of a value. -/
def Value.compact (v : Value) : String :=
  String.ofList v.render

/-! ### The indented layout -/

/-- A line break followed by the indentation of a level. -/
def newLine (level : Nat) : List Char :=
  '\n' :: List.replicate (2 * level) ' '

mutual

/-- The indented text of a value that starts at the given level. -/
def Value.layout (level : Nat) : Value → List Char
  | .array (v :: rest) =>
    '[' :: (newLine (level + 1) ++ layoutItems (level + 1) (v :: rest) ++ newLine level ++ [']'])
  | .object (e :: rest) =>
    '{' :: (newLine (level + 1) ++ layoutEntries (level + 1) (e :: rest) ++ newLine level ++ ['}'])
  | .null => ['n', 'u', 'l', 'l']
  | .bool true => ['t', 'r', 'u', 'e']
  | .bool false => ['f', 'a', 'l', 's', 'e']
  | .natural n => digits n
  | .decimal text => text.toList
  | .string s => literal s
  | .array [] => ['[', ']']
  | .object [] => ['{', '}']

/-- The items of an array, each on its line. -/
def layoutItems (level : Nat) : List Value → List Char
  | [] => []
  | [v] => v.layout level
  | v :: w :: rest => v.layout level ++ ',' :: newLine level ++ layoutItems level (w :: rest)

/-- The entries of an object, each on its line. -/
def layoutEntries (level : Nat) : List (Option String × Value) → List Char
  | [] => []
  | [(k, v)] => literal k ++ ':' :: ' ' :: v.layout level
  | (k, v) :: e :: rest =>
    literal k ++ ':' :: ' ' :: v.layout level ++ ',' :: newLine level ++
      layoutEntries level (e :: rest)

end

/-- The indented text of a value. -/
def Value.pretty (v : Value) : String :=
  String.ofList (v.layout 0)

end SpaceMigration.Json
