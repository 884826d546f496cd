import SpaceMigration.Json.Parser
import SpaceMigration.Time.Date
import SpaceMigration.Toml.Table

/-!
# TOML scalars

Readers of the values that hold no further values: strings in their four forms, integers, floats,
dates and times. Every reader takes its value from the front of a text and returns the rest.

Texts may hold a tab but no other control character; a line break is `\n` or `\r\n`, and is read as
`\n` inside a string.
-/

namespace SpaceMigration.Toml

open SpaceMigration.Json (hexValue? spanDigits numberOf)

/-! ### Characters -/

/-- A blank inside a line. -/
def isSpace (c : Char) : Bool :=
  c == ' ' || c == '\t'

/-- The characters of comments and strings: no control characters but the tab. -/
def isTextChar (c : Char) : Bool :=
  c == '\t' || (0x20 ≤ c.toNat && c.toNat != 0x7F)

/-- The text from its first character that is not a blank. -/
def skipSpaces (text : List Char) : List Char :=
  text.dropWhile isSpace

/-- Whether the text starts with a line break. -/
def startsLine : List Char → Bool
  | '\n' :: _ => true
  | '\r' :: '\n' :: _ => true
  | _ => false

/-- The text after an optional line break. -/
def dropLineBreak : List Char → List Char
  | '\n' :: rest => rest
  | '\r' :: '\n' :: rest => rest
  | text => text

/-! ### Strings -/

/-- A string read so far, and the rest of the text. -/
abbrev StringPart := Option (List Char × List Char)

/-- The string with one more character in front. -/
def StringPart.cons (c : Char) (part : StringPart) : StringPart :=
  part.map fun (s, rest) => (c :: s, rest)

/-- The character of an escape of one letter. -/
def shortEscape? (c : Char) : Option Char :=
  if c = 'b' then some '\x08'
  else if c = 't' then some '\t'
  else if c = 'n' then some '\n'
  else if c = 'f' then some '\x0c'
  else if c = 'r' then some '\r'
  else if c = '"' then some '"'
  else if c = '\\' then some '\\'
  else none

/-- The character with the code written by hexadecimal digits, if it is one. -/
def scalar? (ds : List Char) : Option Char := do
  let code ← ds.foldlM (fun n d => (hexValue? d).map fun v => n * 16 + v) 0
  if code < 0xD800 || (0xE000 ≤ code && code < 0x110000) then some (Char.ofNat code) else none

/-- Reads a basic string after its opening quote. -/
def readBasic : List Char → StringPart
  | [] => none
  | '"' :: rest => some ([], rest)
  | '\\' :: 'u' :: a :: b :: c :: d :: rest =>
    match scalar? [a, b, c, d] with
    | some x => (readBasic rest).cons x
    | none => none
  | '\\' :: 'U' :: a :: b :: c :: d :: e :: f :: g :: h :: rest =>
    match scalar? [a, b, c, d, e, f, g, h] with
    | some x => (readBasic rest).cons x
    | none => none
  | '\\' :: c :: rest =>
    match shortEscape? c with
    | some x => (readBasic rest).cons x
    | none => none
  | c :: rest => if isTextChar c && c != '\\' then (readBasic rest).cons c else none

/-- Reads a basic string of several lines after its opening quotes. With `skipping`, blanks and line
breaks at the front are dropped: they follow a backslash at the end of a line. -/
def readBasicLines : (skipping : Bool) → List Char → StringPart
  | _, [] => none
  | true, ' ' :: rest => readBasicLines true rest
  | true, '\t' :: rest => readBasicLines true rest
  | true, '\n' :: rest => readBasicLines true rest
  | true, '\r' :: '\n' :: rest => readBasicLines true rest
  | _, '"' :: '"' :: '"' :: '"' :: '"' :: rest => some (['"', '"'], rest)
  | _, '"' :: '"' :: '"' :: '"' :: rest => some (['"'], rest)
  | _, '"' :: '"' :: '"' :: rest => some ([], rest)
  | _, '\n' :: rest => (readBasicLines false rest).cons '\n'
  | _, '\r' :: '\n' :: rest => (readBasicLines false rest).cons '\n'
  | _, '\\' :: 'u' :: a :: b :: c :: d :: rest =>
    match scalar? [a, b, c, d] with
    | some x => (readBasicLines false rest).cons x
    | none => none
  | _, '\\' :: 'U' :: a :: b :: c :: d :: e :: f :: g :: h :: rest =>
    match scalar? [a, b, c, d, e, f, g, h] with
    | some x => (readBasicLines false rest).cons x
    | none => none
  | _, '\\' :: c :: rest =>
    match shortEscape? c with
    | some x => (readBasicLines false rest).cons x
    | none => if startsLine (skipSpaces (c :: rest)) then readBasicLines true (c :: rest) else none
  | _, c :: rest => if isTextChar c && c != '\\' then (readBasicLines false rest).cons c else none

/-- Reads a literal string after its opening quote. -/
def readLiteral : List Char → StringPart
  | [] => none
  | '\'' :: rest => some ([], rest)
  | c :: rest => if isTextChar c then (readLiteral rest).cons c else none

/-- Reads a literal string of several lines after its opening quotes. -/
def readLiteralLines : List Char → StringPart
  | [] => none
  | '\'' :: '\'' :: '\'' :: '\'' :: '\'' :: rest => some (['\'', '\''], rest)
  | '\'' :: '\'' :: '\'' :: '\'' :: rest => some (['\''], rest)
  | '\'' :: '\'' :: '\'' :: rest => some ([], rest)
  | '\n' :: rest => (readLiteralLines rest).cons '\n'
  | '\r' :: '\n' :: rest => (readLiteralLines rest).cons '\n'
  | c :: rest => if isTextChar c then (readLiteralLines rest).cons c else none

/-- Reads a string in any of its four forms. -/
def readString : List Char → StringPart
  | '"' :: '"' :: '"' :: rest => readBasicLines false (dropLineBreak rest)
  | '"' :: rest => readBasic rest
  | '\'' :: '\'' :: '\'' :: rest => readLiteralLines (dropLineBreak rest)
  | '\'' :: rest => readLiteral rest
  | _ => none

/-! ### Numbers -/

/-- Reads digits that may be separated by single underscores, and returns the digits alone. -/
def readGroup (isDigit : Char → Bool) : List Char → StringPart
  | [] => none
  | c :: '_' :: rest => if isDigit c then (readGroup isDigit rest).cons c else none
  | c :: rest =>
    if !isDigit c then none
    else if rest.head?.any isDigit then (readGroup isDigit rest).cons c
    else some ([c], rest)

/-- Reads an optional sign; says whether it is a minus. -/
def readSign : List Char → Bool × List Char
  | '+' :: rest => (false, rest)
  | '-' :: rest => (true, rest)
  | text => (false, text)

/-- Reads the whole part of a decimal number: a single zero stands alone. -/
def readWhole : List Char → StringPart
  | '0' :: rest => some (['0'], rest)
  | text => readGroup Char.isDigit text

/-- An integer in the range of 64 bits with sign. -/
def integer? (n : Int) : Option Value :=
  if -Int.pow 2 63 ≤ n && n < Int.pow 2 63 then some (.integer n) else none

/-- The value of digits in a base. -/
def numberIn (base : Nat) (ds : List Char) : Nat :=
  ds.foldl (fun n d => n * base + (hexValue? d).getD 0) 0

/-- Reads the digits of an integer after the mark of its base. -/
def readBased (base : Nat) (text : List Char) : Option (Value × List Char) := do
  let isDigit (c : Char) : Bool := (hexValue? c).any (· < base)
  let (ds, rest) ← readGroup isDigit text
  let v ← integer? (numberIn base ds)
  return (v, rest)

/-- Reads an integer: decimal with an optional sign, or in base 16, 8 or 2 without one. -/
def readInteger : List Char → Option (Value × List Char)
  | '0' :: 'x' :: rest => readBased 16 rest
  | '0' :: 'o' :: rest => readBased 8 rest
  | '0' :: 'b' :: rest => readBased 2 rest
  | text => do
    let (negative, rest) := readSign text
    let (ds, rest) ← readWhole rest
    let n : Int := numberOf ds
    let v ← integer? (if negative then -n else n)
    return (v, rest)

/-- Reads the exponent of a float. -/
def readExponent : List Char → Option (Int × List Char)
  | [] => none
  | c :: rest =>
    if c = 'e' || c = 'E' then do
      let (negative, rest) := readSign rest
      let (ds, rest) ← readGroup Char.isDigit rest
      let n : Int := numberOf ds
      return (if negative then -n else n, rest)
    else none

/-- Reads the fraction of a float. -/
def readFraction : List Char → StringPart
  | '.' :: rest => readGroup Char.isDigit rest
  | _ => none

/-- Whether `mantissa · 10 ^ exponent` rounds to infinity in double precision. -/
def overflows (mantissa : Nat) (exponent : Int) : Bool :=
  if mantissa = 0 then false
  else if 400 < exponent then true
  else
    let limit := Nat.pow 2 1024 - Nat.pow 2 970
    if 0 ≤ exponent then limit ≤ mantissa * Nat.pow 10 exponent.toNat
    else if (mantissa.log2 : Int) < -exponent then false
    else limit * Nat.pow 10 (-exponent).toNat ≤ mantissa

/-- Reads a float: a whole part with a fraction, an exponent or both; or `inf` or `nan`. A positive
float beyond double precision is refused. -/
def readFloat (text : List Char) : Option (Value × List Char) :=
  let (negative, unsigned) := readSign text
  match unsigned with
  | 'i' :: 'n' :: 'f' :: rest => some (.float, rest)
  | 'n' :: 'a' :: 'n' :: rest => some (.float, rest)
  | _ => do
    let (whole, rest) ← readWhole unsigned
    match readExponent rest with
    | some (exponent, rest) =>
      if !negative && overflows (numberOf whole) exponent then none else return (.float, rest)
    | none => do
      let (fraction, rest) ← readFraction rest
      let (exponent, rest) := (readExponent rest).getD (0, rest)
      let digits := numberOf (whole ++ fraction)
      if !negative && overflows digits (exponent - fraction.length) then none
      else return (.float, rest)

/-! ### Dates and times -/

/-- Reads a number of exactly the given number of digits. -/
def readFixed (width : Nat) (text : List Char) : Option (Nat × List Char) :=
  let ds := text.take width
  if ds.length = width && ds.all Char.isDigit then some (numberOf ds, text.drop width) else none

/-- Reads a given character. -/
def readMark (c : Char) : List Char → Option (List Char)
  | [] => none
  | d :: rest => if d = c then some rest else none

/-- Reads a date that names a day. -/
def readDate (text : List Char) : Option (List Char) := do
  let (year, rest) ← readFixed 4 text
  let rest ← readMark '-' rest
  let (month, rest) ← readFixed 2 rest
  let rest ← readMark '-' rest
  let (day, rest) ← readFixed 2 rest
  if 1 ≤ day && day ≤ daysInMonth year month then some rest else none

/-- Reads hours and minutes. -/
def readClock (text : List Char) : Option (List Char) := do
  let (hour, rest) ← readFixed 2 text
  let rest ← readMark ':' rest
  let (minute, rest) ← readFixed 2 rest
  if hour < 24 && minute < 60 then some rest else none

/-- Reads a time of day with seconds, of which there may be 60, and an optional fraction. -/
def readTime (text : List Char) : Option (List Char) := do
  let rest ← readClock text
  let rest ← readMark ':' rest
  let (second, rest) ← readFixed 2 rest
  if 60 < second then none
  match rest with
  | '.' :: after =>
    let (ds, after) := spanDigits after
    if ds.isEmpty then none else return after
  | _ => return rest

/-- Reads an offset. -/
def readOffset : List Char → Option (List Char)
  | [] => none
  | c :: rest =>
    if c = 'Z' || c = 'z' then some rest
    else if c = '+' || c = '-' then readClock rest
    else none

/-- Reads what may follow a date: a time with an optional offset. -/
def readTimePart : List Char → Option (List Char)
  | [] => none
  | c :: rest =>
    if c = 'T' || c = 't' || c = ' ' then do
      let rest ← readTime rest
      match rest with
      | [] => return rest
      | d :: _ => if d = '+' || d = '-' then readOffset rest else return (readOffset rest).getD rest
    else none

/-- Reads a date, a time, or both with an optional offset. -/
def readDatetime (text : List Char) : Option (Value × List Char) :=
  match readDate text with
  | some rest => some (.datetime, (readTimePart rest).getD rest)
  | none => (readTime text).map fun rest => (.datetime, rest)

/-- Reads a value that starts with a digit or a sign. -/
def readNumeric (text : List Char) : Option (Value × List Char) :=
  (readDatetime text).or ((readFloat text).or (readInteger text))

end SpaceMigration.Toml
