import SpaceMigration.Text.CaseTable

/-!
# Lower case

The full Unicode lower-case mapping of a text. It is character by character with two exceptions:
the dotted capital `İ` becomes two characters, and the capital sigma depends on its neighbours: it
is written `ς` at the end of a word and `σ` elsewhere.
-/

namespace SpaceMigration.Text

/-- Whether the character is skipped when the neighbours of a sigma are looked at. -/
def isCaseIgnorable (c : Char) : Bool :=
  inRanges caseIgnorableRanges c.toNat

/-- Whether the character, which is not case-ignorable, has a case. -/
def isCased (c : Char) : Bool :=
  inRanges casedRanges c.toNat

/-- Whether the first character that is not case-ignorable exists and is cased. -/
def startsCased (text : List Char) : Bool :=
  match text.dropWhile isCaseIgnorable with
  | [] => false
  | c :: _ => isCased c

/-- The lower-case form of a character that has a single one. -/
def lowerLetter (c : Char) : Char :=
  if c.toNat < 0x80 then c.toLower
  else match caseRows.find? (·.covers c.toNat) with
    | none => c
    | some row => Char.ofNat (row.lower c.toNat)

/-- The lower-case form of one character between the reversed text before it and the text after
it. -/
def lowerChar (before : List Char) (c : Char) (after : List Char) : List Char :=
  if c = 'Σ' then
    if startsCased before && !startsCased after then ['ς'] else ['σ']
  else if c = 'İ' then ['i', '\u0307']
  else [lowerLetter c]

/-- The lower-case form of a text that follows the reversed text `before`. -/
def lowerAfter (before : List Char) : List Char → List Char
  | [] => []
  | c :: rest => lowerChar before c rest ++ lowerAfter (c :: before) rest

/-- The lower-case form of a text. -/
def lowercase (text : String) : String :=
  String.ofList (lowerAfter [] text.toList)

end SpaceMigration.Text
