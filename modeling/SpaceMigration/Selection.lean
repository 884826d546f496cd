import SpaceMigration.Distinct
import SpaceMigration.Document

/-!
# Choosing targets for the selected spaces

Before a job runs, the question which target each selected space goes to is answered. The question
asks every selected key once; an answer is accepted when it maps each asked key exactly once
(`SpaceQuestion.check`), and the default answer puts every space under a root.
-/

namespace SpaceMigration

/-- A source space chosen for migration: its key and its display name. -/
structure SpaceSelection where
  key : String
  name : String
deriving DecidableEq, Repr

/-- A target for each selected space. -/
structure SpaceAnswer where
  entries : List (SpaceSelection × EntityReference)
deriving DecidableEq, Repr

/-- The selected spaces, which wait for their targets. -/
structure SpaceQuestion where
  spaces : List SpaceSelection
deriving DecidableEq, Repr

/-- What is wrong with an answer. -/
inductive AnswerFault where
  /-- The answer maps a key that is not asked. -/
  | notSelected (key : String)
  /-- The answer maps a key a second time. -/
  | answeredTwice (key : String)
  /-- The answer does not map an asked key. -/
  | unanswered (key : String)
deriving DecidableEq, Repr

/-- The words for a fault. -/
def AnswerFault.message : AnswerFault → String
  | notSelected key => "space " ++ key ++ " was not selected"
  | answeredTwice key => "space " ++ key ++ " answered twice"
  | unanswered key => "no target chosen for space " ++ key

/-- A faulty answer does not fit the state of the job. -/
def AnswerFault.toError (fault : AnswerFault) : MigrationError :=
  ⟨.invalidState, fault.message⟩

namespace SpaceAnswer

/-- The answer without entries. -/
def empty : SpaceAnswer := ⟨[]⟩

/-- The keys that the answer maps, in order. -/
def keys (answer : SpaceAnswer) : List String :=
  answer.entries.map fun entry => entry.1.key

/-- The target of a space key: that of the first entry with the key. -/
def targetFor? (answer : SpaceAnswer) (spaceKey : String) : Option EntityReference :=
  (answer.entries.find? fun entry => entry.1.key == spaceKey).map (·.2)

end SpaceAnswer

namespace SpaceQuestion

/-- The question over the selected spaces. A key selected twice is asked once, with its first
name. -/
def new (spaces : List SpaceSelection) : SpaceQuestion :=
  ⟨distinctBy (·.key) spaces⟩

/-- The keys that are asked, in order. -/
def keys (question : SpaceQuestion) : List String :=
  question.spaces.map (·.key)

/-- The first entry key that is not asked or was mapped before. -/
def findExcess (asked : List String) : (answered keys : List String) → Option AnswerFault
  | _, [] => none
  | answered, key :: rest =>
    if key ∉ asked then some (.notSelected key)
    else if key ∈ answered then some (.answeredTwice key)
    else findExcess asked (key :: answered) rest

/-- The first asked key that is not mapped. -/
def findMissing (asked answered : List String) : Option AnswerFault :=
  (asked.find? fun key => key ∉ answered).map .unanswered

/-- The fault of an answer, if it has one. -/
def fault? (question : SpaceQuestion) (answer : SpaceAnswer) : Option AnswerFault :=
  (findExcess question.keys [] answer.keys).or (findMissing question.keys answer.keys)

/-- Accepts an answer that maps exactly the asked keys, each once. -/
def check (question : SpaceQuestion) (answer : SpaceAnswer) : Except MigrationError Unit :=
  match question.fault? answer with
  | none => .ok ()
  | some fault => .error fault.toError

/-- The answer that puts each space under the root, as a child named by its key. -/
def defaultAnswer (question : SpaceQuestion) (root : EntityReference) : SpaceAnswer :=
  ⟨question.spaces.map fun space => (space, root.child space.key)⟩

end SpaceQuestion

/-! ### Layout -/

/-- A selection is written with key and name. -/
def SpaceSelection.toJson (s : SpaceSelection) : Json.Value :=
  .record [("key", .text s.key), ("name", .text s.name)]

/-- Key and name of a selection are required. -/
def SpaceSelection.ofJson? (v : Json.Value) : Option SpaceSelection := do
  let fields ← v.fields? ["key", "name"]
  let key ← fields.required "key" (·.asText)
  let name ← fields.required "name" (·.asText)
  return ⟨key, name⟩

/-- A question is written as the spaces it asks. -/
def SpaceQuestion.toJson (q : SpaceQuestion) : Json.Value :=
  .record [("spaces", .array (q.spaces.map SpaceSelection.toJson))]

/-- An answer is written as pairs of a space and its target. -/
def SpaceAnswer.toJson (answer : SpaceAnswer) : Json.Value :=
  .record [("entries",
    .array (answer.entries.map fun entry => .array [entry.1.toJson, entry.2.toJson]))]

/-- The entries of an answer are required. -/
def SpaceAnswer.ofJson? (v : Json.Value) : Option SpaceAnswer := do
  let fields ← v.fields? ["entries"]
  let entries ← fields.required "entries"
    (·.asList (·.asPair SpaceSelection.ofJson? EntityReference.ofJson?))
  return ⟨entries⟩

end SpaceMigration
