/-!
# Cutting and searching text

Lines, segments between separators, and occurrences of a pattern. Everything here is stated for
lists; the only lists the library cuts are texts.

`lines` and `segments` differ at the end: a final line break closes the last line, while a final
separator opens an empty last segment.
-/

namespace SpaceMigration.Text

/-! ### Lines and segments -/

/-- The lines of a text. A line ends before `\n` or `\r\n`; a carriage return elsewhere belongs to
its line, and a line break at the very end opens no further line. -/
def lines : List Char → List (List Char)
  | [] => []
  | '\n' :: rest => [] :: lines rest
  | '\r' :: '\n' :: rest => [] :: lines rest
  | c :: rest =>
    match lines rest with
    | [] => [[c]]
    | line :: more => (c :: line) :: more

/-- The segments between the separators: one more than there are separators. -/
def segments (separator : Char) : List Char → List (List Char)
  | [] => [[]]
  | c :: rest =>
    if c = separator then [] :: segments separator rest
    else match segments separator rest with
      | [] => [[c]]
      | segment :: more => (c :: segment) :: more

theorem segments_ne_nil (separator : Char) (text : List Char) : segments separator text ≠ [] := by
  cases text with
  | nil => simp [segments]
  | cons c rest =>
    rw [segments]
    split
    · simp
    · split <;> simp

/-- The text before and after the first separator, if there is one. -/
def cutAt (separator : Char) : List Char → Option (List Char × List Char)
  | [] => none
  | c :: rest =>
    if c = separator then some ([], rest)
    else (cutAt separator rest).map fun (before, after) => (c :: before, after)

/-! ### Occurrences of a pattern -/

/-- Whether the pattern occurs in the text. The empty pattern occurs in every text. -/
def occursIn (pattern : List Char) : List Char → Bool
  | [] => pattern.isEmpty
  | c :: rest => pattern.isPrefixOf (c :: rest) || occursIn pattern rest

/-- Drops `skip` characters, and from there on every occurrence of the pattern, scanning from the
left. -/
def removeFrom (pattern : List Char) : Nat → List Char → List Char
  | _, [] => []
  | skip + 1, _ :: rest => removeFrom pattern skip rest
  | 0, c :: rest =>
    if !pattern.isEmpty && pattern.isPrefixOf (c :: rest) then
      removeFrom pattern (pattern.length - 1) rest
    else c :: removeFrom pattern 0 rest

/-- The text without the occurrences of the pattern, found from left to right without overlap.
What the removal brings together is not searched again. The empty pattern removes nothing. -/
def removeAll (pattern text : List Char) : List Char :=
  removeFrom pattern 0 text

/-- The text with every occurrence of the character replaced by the given text. -/
def replaceChar (c : Char) (replacement : List Char) (text : List Char) : List Char :=
  text.flatMap fun d => if d = c then replacement else [d]

end SpaceMigration.Text
