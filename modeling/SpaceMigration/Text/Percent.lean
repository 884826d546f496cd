import SpaceMigration.Json.Parser
import SpaceMigration.Text.Segment

/-!
# Percent-encoded text

In a percent-encoded text, `%` and two hexadecimal digits stand for a byte. A `%` without two
digits behind it stands for itself.
-/

namespace SpaceMigration.Text

/-- The bytes of a percent-encoded text, given by its own bytes. -/
def percentBytes : List UInt8 → List UInt8
  | [] => []
  | 0x25 :: high :: low :: rest =>
    match Json.hexValue? (Char.ofNat high.toNat), Json.hexValue? (Char.ofNat low.toNat) with
    | some h, some l => UInt8.ofNat (16 * h + l) :: percentBytes rest
    | _, _ => 0x25 :: percentBytes (high :: low :: rest)
  | byte :: rest => byte :: percentBytes rest

/-- The text that a percent-encoded text stands for, if its bytes are UTF-8. -/
def percentDecode? (text : String) : Option String :=
  String.fromUTF8? ⟨(percentBytes text.toUTF8.data.toList).toArray⟩

/-- The text that a part of a query stands for: as `percentDecode?`, with `+` for a space. -/
def queryDecode? (text : List Char) : Option String :=
  percentDecode? (String.ofList (text.map fun c => if c = '+' then ' ' else c))

/-- The settings of a query: the parts between ampersands as far as they are not empty, each cut at
its first equals sign. A setting without an equals sign has an empty value. -/
def querySettings? (query : List Char) : Option (List (String × String)) :=
  ((segments '&' query).filter fun part => !part.isEmpty).mapM fun part => do
    let (name, value) := (cutAt '=' part).getD (part, [])
    return (← queryDecode? name, ← queryDecode? value)

end SpaceMigration.Text
