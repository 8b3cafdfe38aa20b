import AdaptiveAdd.Position
import AdaptiveAdd.SiteId
import AdaptiveAdd.Value.Render

/-!
# Type errors

The one way in which an operation fails: its operands lie outside its domain.
The error keeps the operands, and the identity of the site where it arose.
-/

namespace AdaptiveAdd

/-- An operation applied to operands that it is not defined for. -/
structure TypeError where
  operation : String
  site : SiteId := .unnumbered
  position : Option Position := none
  operands : List Value
  deriving DecidableEq

namespace TypeError

/-- The operands from left to right, with a blank in front where there are any. -/
def operandList : List Value → String
  | [] => ""
  | operands => " " ++ ", ".intercalate (operands.map Value.diagnostic)

/-- The message shown to users: the position if there is one, the operation, and the operands. -/
def message (e : TypeError) : String :=
  "Type error" ++ (e.position.map (" at " ++ ·.render)).getD "" ++
    ": operation \"" ++ e.operation ++ "\" not defined for" ++ operandList e.operands

/-- The error on one line, with the representation of every operand. -/
def debug (e : TypeError) : String :=
  Text.record "TypeError" [
    ("operation", Text.quote e.operation),
    ("node", e.site.debug),
    ("location", Text.optional (e.position.map Position.debug)),
    ("operands", Text.sequence (e.operands.map Value.debug))]

end TypeError

end AdaptiveAdd
