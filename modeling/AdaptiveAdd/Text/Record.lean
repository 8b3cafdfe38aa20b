/-!
# One-line forms of structured data

`record`, `optional` and `sequence` lay out the texts of the parts of a
structure, an optional value and a list on one line.
-/

namespace AdaptiveAdd.Text

/-- A named structure: each field's text after its label, all in braces. -/
def record (name : String) (fields : List (String × String)) : String :=
  name ++ " \x7b " ++ ", ".intercalate (fields.map fun field => field.1 ++ ": " ++ field.2) ++ " \x7d"

/-- A value that may be absent. -/
def optional : Option String → String
  | none => "None"
  | some text => "Some(" ++ text ++ ")"

/-- A list, in brackets. -/
def sequence (texts : List String) : String :=
  "[" ++ ", ".intercalate texts ++ "]"

end AdaptiveAdd.Text
