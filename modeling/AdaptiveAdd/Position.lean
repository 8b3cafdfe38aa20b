import AdaptiveAdd.Text.Quoted
import AdaptiveAdd.Text.Record

/-!
# Source positions

Where an expression starts: the name of its source, and a line and a column
counted from one.
-/

namespace AdaptiveAdd

/-- The place in a source where an expression starts. -/
structure Position where
  source : String
  line : UInt32
  column : UInt32
  deriving DecidableEq, Hashable

namespace Position

/-- The position as messages show it.  The name of the source is written as it is. -/
def render (p : Position) : String :=
  p.source ++ " line " ++ toString p.line.toNat ++ " col " ++ toString p.column.toNat

/-- The position as the one-line form of a structure shows it, with its source quoted by `quote`. -/
def debugWith (quote : String → String) (p : Position) : String :=
  Text.record "SourceLocation" [
    ("source_name", quote p.source),
    ("line", toString p.line.toNat),
    ("column", toString p.column.toNat)]

/-- The position as the one-line form of a structure shows it. -/
def debug : Position → String :=
  debugWith Text.quote

end Position

end AdaptiveAdd
