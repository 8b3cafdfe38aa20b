/-!
# Word integers and unbounded integers

Integers are computed with in two forms: as 64-bit signed words, quick but
bounded, and as integers without bound.  `sum?` adds two words unless the sum
overflows, and `toWord?` narrows an integer unless it lies outside the range of
words; neither ever wraps around.

Both are pinned down by the integer that a word stands for:
`sum?_eq_some_iff`, `toWord?_eq_some_iff`, and their common domain `Fits`
(`sum?_eq_none_iff`, `toWord?_eq_none_iff`).
-/

namespace AdaptiveAdd.Integer

/-- Whether `n` lies in the range of 64-bit signed words. -/
def Fits (n : Int) : Prop :=
  -0x8000000000000000 ≤ n ∧ n ≤ 0x7fffffffffffffff

instance (n : Int) : Decidable (Fits n) :=
  inferInstanceAs (Decidable (_ ∧ _))

/-- The sum of two words, unless it overflows.  The wrapped sum is the true one exactly when it
moves away from `a` in the direction of `b`. -/
def sum? (a b : Int64) : Option Int64 :=
  if decide (a + b < a) = decide (b < 0) then some (a + b) else none

/-- The word that stands for `n`, if `n` is in range. -/
def toWord? (n : Int) : Option Int64 :=
  if Fits n then some (Int64.ofInt n) else none

/-- Whether the word `w` stands for `n`. -/
def equalsWord (n : Int) (w : Int64) : Bool :=
  toWord? n == some w

/-- An unbounded integer marked as one: its decimal digits and `n`. -/
def debug (n : Int) : String :=
  toString n ++ "n"

theorem fits_toInt (w : Int64) : Fits w.toInt := by
  have hle := w.le_toInt
  have hlt := w.toInt_lt
  unfold Fits
  omega

theorem toInt_ofInt_of_fits {n : Int} (h : Fits n) : (Int64.ofInt n).toInt = n := by
  unfold Fits at h
  exact Int64.toInt_ofInt_of_le (by omega) (by omega)

theorem toWord?_eq_some_iff {n : Int} {w : Int64} : toWord? n = some w ↔ n = w.toInt := by
  unfold toWord?
  constructor
  · intro h
    split at h
    · rename_i hfits
      cases h
      exact (toInt_ofInt_of_fits hfits).symm
    · cases h
  · rintro rfl
    simp [fits_toInt]

theorem toWord?_eq_none_iff {n : Int} : toWord? n = none ↔ ¬ Fits n := by
  simp [toWord?]

theorem equalsWord_iff {n : Int} {w : Int64} : equalsWord n w = true ↔ n = w.toInt := by
  simp [equalsWord, toWord?_eq_some_iff]

/-- Adding words and narrowing the sum of the integers they stand for are the same. -/
theorem sum?_eq_toWord? (a b : Int64) : sum? a b = toWord? (a.toInt + b.toInt) := by
  have ha := fits_toInt a
  have hb := fits_toInt b
  have hsum : (a + b).toInt = (a.toInt + b.toInt).bmod (2 ^ 64) := Int64.toInt_add a b
  have hlt : a + b < a ↔ (a + b).toInt < a.toInt := Int64.lt_iff_toInt_lt
  have hneg : b < 0 ↔ b.toInt < 0 := by simp [Int64.lt_iff_toInt_lt]
  unfold Fits at ha hb
  by_cases hfits : Fits (a.toInt + b.toInt)
  · have heq : (a + b).toInt = a.toInt + b.toInt := by
      unfold Fits at hfits
      rw [hsum]
      exact Int.bmod_eq_of_le (by omega) (by omega)
    have hsome : sum? a b = some (a + b) := by
      rw [sum?, if_pos]
      simp only [decide_eq_decide, hlt, hneg]
      omega
    rw [hsome, eq_comm, toWord?_eq_some_iff, heq]
  · have hnone : sum? a b = none := by
      rw [sum?, if_neg]
      simp only [decide_eq_decide, hlt, hneg, hsum, Int.bmod_def]
      unfold Fits at hfits
      omega
    rw [hnone, eq_comm, toWord?_eq_none_iff]
    exact hfits

theorem sum?_eq_some_iff {a b w : Int64} : sum? a b = some w ↔ a.toInt + b.toInt = w.toInt := by
  rw [sum?_eq_toWord?, toWord?_eq_some_iff]

theorem sum?_eq_none_iff {a b : Int64} : sum? a b = none ↔ ¬ Fits (a.toInt + b.toInt) := by
  rw [sum?_eq_toWord?, toWord?_eq_none_iff]

end AdaptiveAdd.Integer
