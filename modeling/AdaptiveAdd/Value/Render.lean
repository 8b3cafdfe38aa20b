import AdaptiveAdd.Text.Quoted
import AdaptiveAdd.Value.Basic

/-!
# Texts of values

Three texts of a value.  `render` is its text in the language: what a join with
a text appends.  `diagnostic` is how a message shows an operand: the name of
its type as users know it, then its text.  `debug` names the representation and
is quoted where a text could be mistaken for something else.

Decimal numerals are canonical, so both representations of an integer have the
same `render` and the same `diagnostic`.
-/

namespace AdaptiveAdd

namespace Foreign

/-- The text of the value in the language. -/
def render : Foreign → String
  | .bool b => toString b
  | .null => "NULL"
  | .function name => name
  | .object _ rendering => rendering

/-- The name of the value's type as users know it.  The null value has none. -/
def metaName? : Foreign → Option String
  | .bool _ => some "Boolean"
  | .null => none
  | .function _ => some "Function"
  | .object typeName _ => some typeName

/-- The representation, with texts quoted by `quote`.  The name of a function and of an object's
type are written as they are. -/
def debugWith (quote : String → String) : Foreign → String
  | .bool b => "Boolean(" ++ toString b ++ ")"
  | .null => "Null"
  | .function name => "Function(" ++ name ++ ")"
  | .object typeName rendering => "Object(" ++ typeName ++ ": " ++ quote rendering ++ ")"

end Foreign

namespace Value

/-- The text of the value in the language. -/
def render : Value → String
  | .int n => toString n.toInt
  | .big n => toString n
  | .text s => s
  | .foreign f => f.render

/-- The name of the value's type as users know it.  Both kinds of number share one. -/
def metaName? : Value → Option String
  | .int _ | .big _ => some "Number"
  | .text _ => some "String"
  | .foreign f => f.metaName?

/-- The value as a message shows it.  A text stands between quotes, and is not escaped. -/
def diagnostic (v : Value) : String :=
  match v.metaName? with
  | none => v.render
  | some name => name ++ " " ++ if v.isText then "\"" ++ v.render ++ "\"" else v.render

/-- The representation, with texts quoted by `quote`. -/
def debugWith (quote : String → String) : Value → String
  | .int n => "Integer(" ++ toString n.toInt ++ ")"
  | .big n => "BigNumber(" ++ toString n ++ ")"
  | .text s => "Text(" ++ quote s ++ ")"
  | .foreign f => "Other(" ++ f.debugWith quote ++ ")"

/-- The representation. -/
def debug : Value → String :=
  debugWith Text.quote

theorem render_of_toInt? {v : Value} {n : Int} (h : v.toInt? = some n) :
    v.render = toString n := by
  cases v <;> simp_all [toInt?, render]

end Value

end AdaptiveAdd
