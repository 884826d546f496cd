import SpaceMigration.Text.WhiteSpace
import SpaceMigration.Time.Timestamp

/-!
# Timestamps as text

The format of RFC 3339 is written in one way and read in two.

* Written: UTC, with `Z` or `+00:00`, and the fewest of 0, 3, 6 or 9 fraction digits that lose
  nothing. A year outside 0–9999 carries a sign. A leap second is written as second 60.
* `readStrict` accepts the fixed-width format with any offset, and nothing around it. It reads
  years of four digits only.
* `readLenient` accepts in addition numbers without leading zeros, signed years of any width, white
  space before numbers and separators and at the end, `UTC` for the offset, and an offset written
  without its colon.

Both keep the second 60 as a leap second, whatever the minute, and cut fractions after nine digits.
-/

namespace SpaceMigration.Timestamp

open SpaceMigration.Text (isWhiteSpace)

/-! ### Writing -/

/-- The digits of a number, with zeros in front up to the width. -/
def padded (width n : Nat) : List Char :=
  let ds := Nat.toDigits 10 n
  List.replicate (width - ds.length) '0' ++ ds

/-- A year: four digits from 0 to 9999, otherwise a sign and at least four digits. -/
def renderYear (year : Int) : List Char :=
  if 0 ≤ year ∧ year ≤ 9999 then padded 4 year.toNat
  else (if year < 0 then '-' else '+') :: padded 4 year.natAbs

/-- A fraction of a second with the fewest digits of 0, 3, 6 or 9. -/
def renderFraction (nanos : Nat) : List Char :=
  if nanos = 0 then []
  else if nanos % 1000000 = 0 then '.' :: padded 3 (nanos / 1000000)
  else if nanos % 1000 = 0 then '.' :: padded 6 (nanos / 1000)
  else '.' :: padded 9 nanos

/-- The text of a timestamp before its offset. -/
def renderLocal (t : Timestamp) : List Char :=
  let (second, nanos) :=
    if t.nanos < nanosPerSecond then (t.second, t.nanos)
    else (t.second + 1, t.nanos - nanosPerSecond)
  renderYear t.date.year ++ '-' :: padded 2 t.date.month ++ '-' :: padded 2 t.date.day ++
    'T' :: padded 2 t.hour ++ ':' :: padded 2 t.minute ++ ':' :: padded 2 second ++
    renderFraction nanos

/-- The text of a timestamp, with `Z` for UTC. -/
def toText (t : Timestamp) : String :=
  String.ofList (t.renderLocal ++ ['Z'])

/-- The text of a timestamp, with a numeric offset. -/
def toOffsetText (t : Timestamp) : String :=
  String.ofList (t.renderLocal ++ ['+', '0', '0', ':', '0', '0'])

/-! ### Reading the parts

Each reader takes its part from the front of a text and returns it with the rest. -/

/-- Reads a number of at least `least` and at most `most` digits, as many as there are. -/
def readDigits (least most : Nat) (text : List Char) : Option (Nat × List Char) :=
  let ds := (text.take most).takeWhile Char.isDigit
  if ds.length < least then none
  else some (ds.foldl (fun n d => n * 10 + (d.toNat - '0'.toNat)) 0, text.drop ds.length)

/-- Reads the given character. -/
def readChar (c : Char) : List Char → Option (List Char)
  | [] => none
  | d :: rest => if d = c then some rest else none

/-- Reads the separator of date and time. -/
def readSeparator : List Char → Option (List Char)
  | [] => none
  | c :: rest => if c = 'T' || c = 't' || c = ' ' then some rest else none

/-- Reads a fraction of a second, if there is one: at least one digit, of which the first nine
count. -/
def readFraction : List Char → Option (Nat × List Char)
  | '.' :: rest => do
    let (n, after) ← readDigits 1 9 rest
    return (n * Nat.pow 10 (9 - (rest.length - after.length)), after.dropWhile Char.isDigit)
  | text => some (0, text)

/-- Reads an offset in minutes: `Z`, or a sign, two digits of hours, a separator read by `colon`,
and two digits of minutes below 60. The minus sign `U+2212` is a sign as well. -/
def readOffset (colon : List Char → Option (List Char)) : List Char → Option (Int × List Char)
  | [] => none
  | c :: rest =>
    if c = 'Z' || c = 'z' then some (0, rest)
    else if c = '+' || c = '-' || c = '\u2212' then do
      let (hours, rest) ← readDigits 2 2 rest
      let rest ← colon rest
      let (minutes, rest) ← readDigits 2 2 rest
      if 59 < minutes || 23 < hours then none
      let offset : Int := hours * 60 + minutes
      return (if c = '+' then offset else -offset, rest)
    else none

/-- The timestamp of parts as they are written: the second may be 60. -/
def ofWritten? (year : Int) (month day hour minute second nanos : Nat) (offset : Int) :
    Option Timestamp := do
  let date ← Date.ofParts? year month day
  if 23 < hour || 59 < minute then none
  else if second = 60 then ofLocal? date hour minute 59 (nanos + nanosPerSecond) offset
  else ofLocal? date hour minute second nanos offset

/-! ### The two readers -/

/-- Reads a timestamp in the fixed-width format. -/
def readStrict (text : String) : Option Timestamp := do
  let (year, rest) ← readDigits 4 4 text.toList
  let rest ← readChar '-' rest
  let (month, rest) ← readDigits 2 2 rest
  let rest ← readChar '-' rest
  let (day, rest) ← readDigits 2 2 rest
  let rest ← readSeparator rest
  let (hour, rest) ← readDigits 2 2 rest
  let rest ← readChar ':' rest
  let (minute, rest) ← readDigits 2 2 rest
  let rest ← readChar ':' rest
  let (second, rest) ← readDigits 2 2 rest
  let (nanos, rest) ← readFraction rest
  let (offset, rest) ← readOffset (readChar ':') rest
  if rest.isEmpty then ofWritten? year month day hour minute second nanos offset else none

/-- The text from its first character that is not white space. -/
def skipSpace (text : List Char) : List Char :=
  text.dropWhile isWhiteSpace

/-- Reads a year: a sign and any number of digits, or at most four digits. -/
def readYear (text : List Char) : Option (Int × List Char) :=
  match skipSpace text with
  | '-' :: rest => (readDigits 1 rest.length rest).map fun (n, rest) => (-(n : Int), rest)
  | '+' :: rest => (readDigits 1 rest.length rest).map fun (n, rest) => ((n : Int), rest)
  | rest => (readDigits 1 4 rest).map fun (n, rest) => ((n : Int), rest)

/-- Reads a number of one or two digits after optional white space. -/
def readShort (text : List Char) : Option (Nat × List Char) :=
  readDigits 1 2 (skipSpace text)

/-- Skips the colons and white space inside an offset. -/
def skipColons (text : List Char) : List Char :=
  text.dropWhile fun c => c == ':' || isWhiteSpace c

/-- Reads an offset in minutes, or `UTC` in any case. -/
def readZone (text : List Char) : Option (Int × List Char) :=
  if (text.take 3).map Char.toUpper = ['U', 'T', 'C'] then some (0, text.drop 3)
  else readOffset (fun rest => some (skipColons rest)) text

/-- Reads a timestamp in the lenient format. -/
def readLenient (text : String) : Option Timestamp := do
  let (year, rest) ← readYear text.toList
  let rest ← readChar '-' (skipSpace rest)
  let (month, rest) ← readShort rest
  let rest ← readChar '-' (skipSpace rest)
  let (day, rest) ← readShort rest
  let rest ← readSeparator rest
  let (hour, rest) ← readShort rest
  let rest ← readChar ':' (skipSpace rest)
  let (minute, rest) ← readShort rest
  let rest ← readChar ':' (skipSpace rest)
  let (second, rest) ← readShort rest
  let (nanos, rest) ← readFraction rest
  let (offset, rest) ← readZone (skipSpace rest)
  if (skipSpace rest).isEmpty then ofWritten? year month day hour minute second nanos offset
  else none

end SpaceMigration.Timestamp
