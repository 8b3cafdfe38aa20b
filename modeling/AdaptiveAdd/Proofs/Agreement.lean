import AdaptiveAdd.TypeError
import AdaptiveAdd.Value.Equiv
import Mathlib.Data.List.Forall2

/-!
# Outcomes that agree

Two outcomes agree up to a relation of values when both are values that the
relation holds of, or both are errors whose operands it holds of in pairs.  Up to
`=` they have the same representation, up to `≈` programs see them as equal.
-/

namespace AdaptiveAdd

/-- Both outcomes are values, or both are errors, and `R` relates the values or the operands. -/
inductive AgreeUpTo (R : Value → Value → Prop) :
    Except TypeError Value → Except TypeError Value → Prop
  | ok {v w : Value} (h : R v w) : AgreeUpTo R (.ok v) (.ok w)
  | error {e f : TypeError} (h : List.Forall₂ R e.operands f.operands) :
      AgreeUpTo R (.error e) (.error f)

namespace Value

theorem equiv_refl (v : Value) : v ≈ v :=
  equiv_iff.2 (.inl rfl)

/-- A word and the unbounded integer that it stands for are seen as equal. -/
theorem int_equiv_big (w : Int64) : Value.int w ≈ Value.big w.toInt :=
  equiv_iff.2 (.inr ⟨w.toInt, rfl, rfl⟩)

theorem big_equiv_int (w : Int64) : Value.big w.toInt ≈ Value.int w :=
  equiv_iff.2 (.inr ⟨w.toInt, rfl, rfl⟩)

end Value

namespace AgreeUpTo

theorem mono {R S : Value → Value → Prop} (hRS : ∀ v w, R v w → S v w)
    {x y : Except TypeError Value} (h : AgreeUpTo R x y) : AgreeUpTo S x y := by
  cases h with
  | ok h => exact .ok (hRS _ _ h)
  | error h => exact .error (h.imp hRS)

/-- Outcomes of the same representation are seen as equal. -/
theorem equiv_of_eq {x y : Except TypeError Value} (h : AgreeUpTo (· = ·) x y) :
    AgreeUpTo (· ≈ ·) x y :=
  h.mono fun v _ hvw => hvw ▸ v.equiv_refl

end AgreeUpTo

end AdaptiveAdd
