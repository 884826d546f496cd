import SpaceMigration.Json.Value

/-!
# Reading JSON

`Value.parse?` reads one value surrounded by optional blanks and nothing else. The readers of the
parts return the rest of the text. They take a fuel that bounds the number of nested reader calls;
every call consumes a character, so the length of the text is enough, and `Value.parse?` supplies
it.
-/

namespace SpaceMigration.Json

/-- The four blanks allowed between tokens. -/
def isBlank (c : Char) : Bool :=
  c == ' ' || c == '\n' || c == '\t' || c == '\r'

/-- The text from its first character that is not a blank. -/
def skipBlanks (text : List Char) : List Char :=
  text.dropWhile isBlank

/-! ### Strings -/

/-- The value of a hexadecimal digit of either case. -/
def hexValue? (c : Char) : Option Nat :=
  if '0' ≤ c ∧ c ≤ '9' then some (c.toNat - '0'.toNat)
  else if 'a' ≤ c ∧ c ≤ 'f' then some (c.toNat - 'a'.toNat + 10)
  else if 'A' ≤ c ∧ c ≤ 'F' then some (c.toNat - 'A'.toNat + 10)
  else none

/-- The 16-bit unit of four hexadecimal digits. -/
def unit? (a b c d : Char) : Option Nat := do
  let a ← hexValue? a
  let b ← hexValue? b
  let c ← hexValue? c
  let d ← hexValue? d
  return ((a * 16 + b) * 16 + c) * 16 + d

/-- Whether the unit opens a surrogate pair. -/
def isLeading (unit : Nat) : Bool :=
  0xD800 ≤ unit && unit < 0xDC00

/-- Whether the unit closes a surrogate pair. -/
def isTrailing (unit : Nat) : Bool :=
  0xDC00 ≤ unit && unit < 0xE000

/-- The character of a surrogate pair. -/
def pairChar (leading trailing : Nat) : Char :=
  Char.ofNat (0x10000 + (leading - 0xD800) * 0x400 + (trailing - 0xDC00))

/-- The character of an escape of one letter. -/
def shortEscape? (c : Char) : Option Char :=
  if c = '"' then some '"'
  else if c = '\\' then some '\\'
  else if c = '/' then some '/'
  else if c = 'b' then some '\x08'
  else if c = 'f' then some '\x0c'
  else if c = 'n' then some '\n'
  else if c = 'r' then some '\r'
  else if c = 't' then some '\t'
  else none

/-- A string literal read so far: its text, if it denotes one, and the rest. -/
abbrev Literal := Option (List Char) × List Char

/-- The literal with one more character in front. -/
def Literal.cons (c : Char) (l : Literal) : Literal :=
  (l.1.map (c :: ·), l.2)

/-- The literal with an unpaired surrogate in front: it denotes no text. -/
def Literal.unpaired (l : Literal) : Literal :=
  (none, l.2)

/-- Reads a string literal after its opening quote. -/
def readLiteral : List Char → Option Literal
  | [] => none
  | '"' :: rest => some (some [], rest)
  | '\\' :: 'u' :: a :: b :: c :: d :: '\\' :: 'u' :: e :: f :: g :: h :: rest =>
    match unit? a b c d, unit? e f g h with
    | some unit, some next =>
      if isLeading unit && isTrailing next then
        (readLiteral rest).map (·.cons (pairChar unit next))
      else
        let tail := readLiteral ('\\' :: 'u' :: e :: f :: g :: h :: rest)
        if isLeading unit || isTrailing unit then tail.map (·.unpaired)
        else tail.map (·.cons (Char.ofNat unit))
    | _, _ => none
  | '\\' :: 'u' :: a :: b :: c :: d :: rest =>
    match unit? a b c d with
    | some unit =>
      if isLeading unit || isTrailing unit then (readLiteral rest).map (·.unpaired)
      else (readLiteral rest).map (·.cons (Char.ofNat unit))
    | none => none
  | '\\' :: c :: rest =>
    match shortEscape? c with
    | some d => (readLiteral rest).map (·.cons d)
    | none => none
  | c :: rest =>
    if c = '\\' || c.toNat < 0x20 then none else (readLiteral rest).map (·.cons c)

/-- Reads a string literal after its opening quote, as a text. -/
def readString (text : List Char) : Option (Option String × List Char) :=
  (readLiteral text).map fun (content, rest) => (content.map String.ofList, rest)

/-! ### Numbers -/

/-- The leading decimal digits and the rest. -/
def spanDigits (text : List Char) : List Char × List Char :=
  (text.takeWhile Char.isDigit, text.dropWhile Char.isDigit)

/-- The number written by decimal digits. -/
def numberOf (ds : List Char) : Nat :=
  ds.foldl (fun n d => n * 10 + (d.toNat - '0'.toNat)) 0

/-- Reads the fraction of a number: nothing, or a point and digits. -/
def readFraction : List Char → Option (List Char × List Char)
  | '.' :: rest =>
    let (ds, after) := spanDigits rest
    if ds.isEmpty then none else some ('.' :: ds, after)
  | text => some ([], text)

/-- Reads the exponent of a number: nothing, or `e`, an optional sign and digits. -/
def readExponent : List Char → Option (List Char × List Char)
  | [] => some ([], [])
  | e :: rest =>
    if e = 'e' || e = 'E' then
      let (sign, unsigned) := match rest with
        | '+' :: after => (['+'], after)
        | '-' :: after => (['-'], after)
        | after => ([], after)
      let (ds, after) := spanDigits unsigned
      if ds.isEmpty then none else some (e :: sign ++ ds, after)
    else some ([], e :: rest)

/-- Reads a number without its sign: no leading zero before another digit. -/
def readMagnitude (text : List Char) : Option (List Char × List Char × List Char) := do
  let (whole, rest) := spanDigits text
  if whole.isEmpty || (whole.head? == some '0' && whole.length ≠ 1) then none
  let (fraction, rest) ← readFraction rest
  let (exponent, rest) ← readExponent rest
  return (whole, fraction ++ exponent, rest)

/-- Reads a number. -/
def readNumber : List Char → Option (Value × List Char)
  | '-' :: text => do
    let (whole, tail, rest) ← readMagnitude text
    return (.decimal (String.ofList ('-' :: whole ++ tail)), rest)
  | text => do
    let (whole, tail, rest) ← readMagnitude text
    if tail.isEmpty then return (.natural (numberOf whole), rest)
    return (.decimal (String.ofList (whole ++ tail)), rest)

/-! ### Values -/

mutual

/-- Reads a value after optional blanks. -/
def readValue : Nat → List Char → Option (Value × List Char)
  | 0, _ => none
  | fuel + 1, text =>
    match skipBlanks text with
    | 'n' :: 'u' :: 'l' :: 'l' :: rest => some (.null, rest)
    | 't' :: 'r' :: 'u' :: 'e' :: rest => some (.bool true, rest)
    | 'f' :: 'a' :: 'l' :: 's' :: 'e' :: rest => some (.bool false, rest)
    | '"' :: rest => (readString rest).map fun (s, rest) => (.string s, rest)
    | '[' :: rest =>
      match skipBlanks rest with
      | ']' :: rest => some (.array [], rest)
      | rest => (readItems fuel rest).map fun (items, rest) => (.array items, rest)
    | '{' :: rest =>
      match skipBlanks rest with
      | '}' :: rest => some (.object [], rest)
      | rest => (readEntries fuel rest).map fun (entries, rest) => (.object entries, rest)
    | rest => readNumber rest

/-- Reads the items of a nonempty array and its closing bracket. -/
def readItems : Nat → List Char → Option (List Value × List Char)
  | 0, _ => none
  | fuel + 1, text =>
    match readValue fuel text with
    | none => none
    | some (v, rest) =>
      match skipBlanks rest with
      | ']' :: rest => some ([v], rest)
      | ',' :: rest => (readItems fuel rest).map fun (items, rest) => (v :: items, rest)
      | _ => none

/-- Reads the entries of a nonempty object and its closing brace. -/
def readEntries : Nat → List Char → Option (List (Option String × Value) × List Char)
  | 0, _ => none
  | fuel + 1, text =>
    match skipBlanks text with
    | '"' :: rest =>
      match readString rest with
      | none => none
      | some (key, rest) =>
        match skipBlanks rest with
        | ':' :: rest =>
          match readValue fuel rest with
          | none => none
          | some (v, rest) =>
            match skipBlanks rest with
            | '}' :: rest => some ([(key, v)], rest)
            | ',' :: rest =>
              (readEntries fuel rest).map fun (entries, rest) => ((key, v) :: entries, rest)
            | _ => none
        | _ => none
    | _ => none

end

/-- The value of a JSON text. -/
def Value.parse? (text : String) : Option Value :=
  match readValue (2 * text.length + 2) text.toList with
  | some (v, rest) => if (skipBlanks rest).isEmpty then some v else none
  | none => none

end SpaceMigration.Json
