import SpaceMigration.StringMap

/-!
# Macro calls of the target

The text of a macro call: an opening tag with the parameters in key order, the body, and a closing
tag; or a single self-closing tag when the body is empty.

```
{{code language="lean"}}…{{/code}}        {{toc/}}
```

Parameter values are quoted, with a backslash before every quote and backslash. Names and bodies
are written as they are.
-/

namespace SpaceMigration

/-- The parameters of a macro, in key order. -/
abbrev Parameters := StringMap String

namespace MacroCall

/-- A character of a quoted parameter value. -/
def escape (c : Char) : List Char :=
  if c = '"' || c = '\\' then ['\\', c] else [c]

/-- A parameter with the space in front of it. -/
def parameter (name value : String) : List Char :=
  ' ' :: (name.toList ++ '=' :: '"' :: (value.toList.flatMap escape ++ ['"']))

/-- The text of a macro call. -/
def format (id : String) (parameters : Parameters) (body : String) : String :=
  let opening := '{' :: '{' :: (id.toList ++
    parameters.entries.flatMap fun entry => parameter entry.1 entry.2)
  String.ofList <|
    if body.isEmpty then opening ++ ['/', '}', '}']
    else opening ++ '}' :: '}' :: (body.toList ++ '{' :: '{' :: '/' :: (id.toList ++ ['}', '}']))

end MacroCall

end SpaceMigration
