import AdaptiveAdd.Integer
import AdaptiveAdd.Value.Basic

/-!
# Equality of values as programs see it

Two numbers are equivalent when they stand for the same integer, whatever their
representations; all other values only when they are the same.  A word is
compared with an unbounded integer by narrowing the latter, which fails out of
range, so integers that differ by a multiple of `2 ^ 64` are never confused.

`equiv_iff` says this without the cases of the definition.
-/

namespace AdaptiveAdd.Value

/-- Whether programs see the two values as equal. -/
def equiv : Value → Value → Bool
  | .int a, .int b => a == b
  | .big a, .big b => a == b
  | .int a, .big b | .big b, .int a => Integer.equalsWord b a
  | .text a, .text b => a == b
  | .foreign a, .foreign b => a == b
  | _, _ => false

instance : HasEquiv Value where
  Equiv a b := equiv a b = true

instance (a b : Value) : Decidable (a ≈ b) :=
  inferInstanceAs (Decidable (equiv a b = true))

theorem equiv_iff {a b : Value} : a ≈ b ↔ a = b ∨ ∃ n, a.toInt? = some n ∧ b.toInt? = some n := by
  change equiv a b = true ↔ _
  cases a <;> cases b <;> simp [equiv, toInt?, Integer.equalsWord_iff]
  all_goals grind [Int64.toInt_inj]

/-- Narrowing does not wrap around. -/
example : equiv (.int 0) (.big 0x10000000000000000) = false :=
  rfl

end AdaptiveAdd.Value
