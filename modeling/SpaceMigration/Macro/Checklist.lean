import SpaceMigration.Text.Segment
import SpaceMigration.Text.WhiteSpace

/-!
# Checklists from legacy task lists

A legacy task list has one task a line. A line may carry the exporter's marker anywhere, a bullet
(`* ` or `- `) and a box (`[x]` or `[ ]`). Its item in the checklist is `- [x] ` or `- [ ] `
followed by the words of the line, one space apart. A line without words has no item.
-/

namespace SpaceMigration.Checklist

open SpaceMigration.Text

/-- A task: whether it is done, and its words. -/
structure Item where
  done : Bool
  words : List (List Char)
deriving DecidableEq, Repr

/-- The line without a leading bullet. -/
def stripBullet (line : List Char) : List Char :=
  match line with
  | '*' :: ' ' :: rest => rest
  | '-' :: ' ' :: rest => rest
  | _ => line

/-- The state of a leading box, and the line without it. A line without a box is not done. -/
def readBox (line : List Char) : Bool × List Char :=
  match line with
  | '[' :: 'x' :: ']' :: rest => (true, rest)
  | '[' :: ' ' :: ']' :: rest => (false, rest)
  | _ => (false, line)

/-- The item of a line, if the line has words. -/
def itemOfLine? (marker line : List Char) : Option Item :=
  let (done, text) := readBox (stripBullet (trim (removeAll marker line)))
  let found := words text
  if found.isEmpty then none else some ⟨done, found⟩

/-- The items of a task list, in order. -/
def items (marker body : List Char) : List Item :=
  (lines body).filterMap (itemOfLine? marker)

/-- The line of an item. -/
def Item.render (item : Item) : List Char :=
  '-' :: ' ' :: '[' :: (if item.done then 'x' else ' ') :: ']' :: ' ' ::
    [' '].intercalate item.words

/-- The checklist of a task list. -/
def ofTaskList (marker body : List Char) : List Char :=
  ['\n'].intercalate ((items marker body).map Item.render)

end SpaceMigration.Checklist
