import AdaptiveAdd.Proofs.Agreement
import AdaptiveAdd.Proofs.Commitment

/-!
# Words and integers agree

A site may add two numbers as words or as integers without bound, and a word may
be compared with an integer.  This module says that it does not matter which, up
to the ends of the range of words and beyond them.

* Numbers.  Adding words is adding the integers that they stand for and
  narrowing the sum (`Integer.sum?_eq_toWord?`); narrowing and comparison know
  an integer from all others, those that wrap around to it included
  (`Integer.equalsWord_add_mul_iff`); and words are ordered as integers are
  (`Integer.compare_toInt`).
* Values.  Where words have a sum, the integer path of a site and the path without
  bound have equivalent answers (`Value.sums_of_sum?`).
-/

namespace AdaptiveAdd

namespace Integer

/-- The integers without a word are those past the ends of the range. -/
theorem not_fits_iff {n : Int} :
    ¬ Fits n ↔ n < -0x8000000000000000 ∨ 0x7fffffffffffffff < n := by
  unfold Fits
  omega

/-- Of the integers that are the same modulo the number of words, one is the word's own. -/
theorem equalsWord_add_mul_iff {w : Int64} {k : Int} :
    equalsWord (w.toInt + k * 0x10000000000000000) w = true ↔ k = 0 := by
  rw [equalsWord_iff]
  omega

theorem compare_toInt (a b : Int64) : compare a b = compare a.toInt b.toInt := by
  show compareOfLessAndEq a b = compareOfLessAndEq a.toInt b.toInt
  simp only [compareOfLessAndEq, Int64.lt_iff_toInt_lt, Int64.toInt_inj]

end Integer

/-- Where words have a sum, the integer path and the path without bound have equivalent answers. -/
theorem Value.sums_of_sum? {a b sum : Int64} (h : Integer.sum? a b = some sum) :
    wordSum? (.int a) (.int b) = some (.int sum) ∧
      bigSum? (.int a) (.int b) = some (.big sum.toInt) ∧
      Value.int sum ≈ Value.big sum.toInt := by
  have hsum : a.toInt + b.toInt = sum.toInt := Integer.sum?_eq_some_iff.1 h
  refine ⟨?_, ?_, int_equiv_big sum⟩
  · exact wordSum?_eq_some_iff.2 ⟨a, b, sum, rfl, rfl, hsum, rfl⟩
  · rw [← hsum]
    rfl

/-- Arithmetic of words `a` and `b` and arithmetic of integers `x` and `y`.

The sum of the words is the sum of the integers they stand for, narrowed, and neither is there when
that sum is out of range.  An integer narrows to the word that stands for it, and equals no other
word, not even one that it wraps around to.  The orders are the same.  And where the words have a
sum, the integer path of a site and the path without bound answer them with values that programs see
as equal. -/
theorem Integer.words_agree (a b n : Int64) (x y : Int) :
    (∀ s, toWord? (a.toInt + b.toInt) = some s ↔ sum? a b = some s) ∧
    (∀ s, sum? a b = some s → s.toInt = a.toInt + b.toInt) ∧
    (toWord? (a.toInt + b.toInt) = none ↔
      a.toInt + b.toInt < -0x8000000000000000 ∨ 0x7fffffffffffffff < a.toInt + b.toInt) ∧
    (sum? a b = none ↔
      a.toInt + b.toInt < -0x8000000000000000 ∨ 0x7fffffffffffffff < a.toInt + b.toInt) ∧
    (toWord? x = some n ↔ x = n.toInt) ∧
    (equalsWord x n = true ↔ x = n.toInt) ∧
    (∀ k : Int, equalsWord (n.toInt + k * 0x10000000000000000) n = true ↔ k = 0) ∧
    (equalsWord (x + y) n = true ↔ x + y = n.toInt) ∧
    compare a b = compare a.toInt b.toInt ∧
    ∀ s, sum? a b = some s →
      ∃ v w, Value.wordSum? (.int a) (.int b) = some v ∧
        Value.bigSum? (.int a) (.int b) = some w ∧ v ≈ w ∧
        dispatch false (.int a) (.int b) =
          some { path := .integer, value := v, matched := .integer } ∧
        dispatch true (.int a) (.int b) =
          some { path := .bigNumber, value := w, matched := .bigNumber } := by
  refine ⟨?_, ?_, ?_, ?_, toWord?_eq_some_iff, equalsWord_iff, ?_, equalsWord_iff,
    compare_toInt a b, ?_⟩
  · intro s
    rw [sum?_eq_toWord?]
  · intro s hs
    exact (sum?_eq_some_iff.1 hs).symm
  · exact toWord?_eq_none_iff.trans not_fits_iff
  · exact sum?_eq_none_iff.trans not_fits_iff
  · intro k
    exact equalsWord_add_mul_iff
  · intro s hs
    obtain ⟨hword, hbig, hequiv⟩ := Value.sums_of_sum? hs
    exact ⟨_, _, hword, hbig, hequiv, dispatch_of_wordSum? hword,
      dispatch_of_bigSum? (.inl rfl) hbig⟩

end AdaptiveAdd
