import AdaptiveAdd.Integer
import AdaptiveAdd.Value.Render

/-!
# The three sums of two values

`wordSum?` adds two words unless the sum overflows, `bigSum?` adds two numbers
without bound, and `joined?` appends the texts of two values one of which is a
text.  Each answers exactly the operands that it is meant for.
-/

namespace AdaptiveAdd.Value

/-- Both values as words, if both are. -/
def words? : Value → Value → Option (Int64 × Int64)
  | .int a, .int b => some (a, b)
  | _, _ => none

/-- The sum of two words, unless it overflows. -/
def wordSum? (l r : Value) : Option Value :=
  (words? l r).bind fun (a, b) => (Integer.sum? a b).map .int

/-- The sum of two numbers, as an unbounded integer. -/
def bigSum? (l r : Value) : Option Value :=
  match l.toInt?, r.toInt? with
  | some a, some b => some (.big (a + b))
  | _, _ => none

/-- The texts of two values one after the other, if one of the values is a text. -/
def joined? (l r : Value) : Option Value :=
  if l.isText || r.isText then some (.text (l.render ++ r.render)) else none

theorem wordSum?_eq_some_iff {l r v : Value} :
    wordSum? l r = some v ↔
      ∃ a b w, l = .int a ∧ r = .int b ∧ a.toInt + b.toInt = w.toInt ∧ v = .int w := by
  cases l <;> cases r <;>
    simp [wordSum?, words?, Integer.sum?_eq_some_iff, @eq_comm _ (int _) v]

theorem bigSum?_eq_some_iff {l r v : Value} :
    bigSum? l r = some v ↔ ∃ a b, l.toInt? = some a ∧ r.toInt? = some b ∧ v = .big (a + b) := by
  cases l <;> cases r <;> simp [bigSum?, toInt?, @eq_comm _ (big _) v]

theorem joined?_eq_some_iff {l r v : Value} :
    joined? l r = some v ↔ (l.isText ∨ r.isText) ∧ v = .text (l.render ++ r.render) := by
  simp [joined?, @eq_comm _ (text _) v]

end AdaptiveAdd.Value
