/-!
# Character sets

A `CharSet` is a set of characters written as inclusive ranges of code points,
the form in which character properties are published.  Membership is decidable
and `mem_iff` is its only law: some range holds the code point.
-/

namespace AdaptiveAdd

/-- A set of characters, as inclusive ranges of code points. -/
structure CharSet where
  ranges : List (Nat × Nat)

namespace CharSet

/-- Whether some range holds the code point of `c`. -/
def contains (set : CharSet) (c : Char) : Bool :=
  set.ranges.any fun range => range.1 ≤ c.toNat && c.toNat ≤ range.2

instance : Membership Char CharSet where
  mem set c := set.contains c = true

instance (set : CharSet) (c : Char) : Decidable (c ∈ set) :=
  inferInstanceAs (Decidable (set.contains c = true))

theorem mem_iff {set : CharSet} {c : Char} :
    c ∈ set ↔ ∃ range ∈ set.ranges, range.1 ≤ c.toNat ∧ c.toNat ≤ range.2 := by
  simp [Membership.mem, contains]

end CharSet

end AdaptiveAdd
