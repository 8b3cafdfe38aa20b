/-!
# Specializations

What a site has found its operands to be.  The five specializations form a
join-semilattice,

```text
                generic
               /       \
         bigNumber     text
             |          |
          integer       |
               \       /
              uncommitted
```

and a site only moves to the join of where it is and what it has just met.
`a ≤ b` says that `b` covers `a`: every combination of operands that `a` stands
for is among those of `b`.
-/

namespace AdaptiveAdd

/-- What the operands of a site have been so far. -/
inductive Specialization where
  /-- Nothing was added yet. -/
  | uncommitted
  /-- Words only, and no sum overflowed. -/
  | integer
  /-- Numbers only, and some sum needed an unbounded integer. -/
  | bigNumber
  /-- A text in every call. -/
  | text
  /-- Both numbers and texts. -/
  | generic
  deriving DecidableEq

namespace Specialization

/-- The name of the specialization in logs. -/
def name : Specialization → String
  | uncommitted => "Uncommitted"
  | integer => "CommittedInteger"
  | bigNumber => "CommittedBigNumber"
  | text => "CommittedString"
  | generic => "Generic"

/-- The least specialization that covers both. -/
def join : Specialization → Specialization → Specialization
  | uncommitted, b => b
  | a, uncommitted => a
  | integer, integer => integer
  | integer, bigNumber | bigNumber, integer | bigNumber, bigNumber => bigNumber
  | text, text => text
  | _, _ => generic

/-- Whether `a` covers `b`. -/
def covers (a b : Specialization) : Bool :=
  a.join b == a

instance : LE Specialization where
  le a b := b.covers a = true

instance (a b : Specialization) : Decidable (a ≤ b) :=
  inferInstanceAs (Decidable (b.covers a = true))

def isCommitted : Specialization → Bool
  | uncommitted => false
  | _ => true

theorem join_comm (a b : Specialization) : a.join b = b.join a := by
  cases a <;> cases b <;> rfl

theorem join_self (a : Specialization) : a.join a = a := by
  cases a <;> rfl

theorem le_iff_join_eq {a b : Specialization} : a ≤ b ↔ b.join a = b := by
  simp [LE.le, covers]

/-- The join is a least upper bound. -/
theorem join_le_iff {a b c : Specialization} : a.join b ≤ c ↔ a ≤ c ∧ b ≤ c := by
  cases a <;> cases b <;> cases c <;> decide

end Specialization

end AdaptiveAdd
