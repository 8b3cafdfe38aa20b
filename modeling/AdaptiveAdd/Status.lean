import AdaptiveAdd.Specialization

/-!
# The status of a site

A specialization and one flag: once a sum of words has overflowed at a site, the
integer path is excluded there for good.  A status fits into one byte, with the
number of the specialization in the three low bits and the flag in the high one.

Every status is read back from its byte (`ofByte_toByte`).  The converse fails:
the four bits between are ignored, and the numbers that no specialization has
are read as `generic`.

A status changes by widening only, and what many widenings come to is a least
upper bound (`specialization_foldl_widened_le_iff`) and a disjunction
(`integerExcluded_foldl_widened`).
-/

namespace AdaptiveAdd

/-- What a site remembers between calls. -/
structure Status where
  specialization : Specialization
  integerExcluded : Bool := false
  deriving DecidableEq

namespace Specialization

/-- The number of the specialization. -/
def toBits : Specialization → UInt8
  | uncommitted => 0
  | integer => 1
  | bigNumber => 2
  | text => 3
  | generic => 4

/-- The specialization with the number.  A number that none has means the most general one. -/
def ofBits : UInt8 → Specialization
  | 0 => uncommitted
  | 1 => integer
  | 2 => bigNumber
  | 3 => text
  | _ => generic

end Specialization

namespace Status

/-- The status in one byte. -/
def toByte (s : Status) : UInt8 :=
  s.specialization.toBits ||| (if s.integerExcluded then 0x80 else 0)

/-- The status that a byte stands for. -/
def ofByte (byte : UInt8) : Status where
  specialization := .ofBits (byte &&& 0x07)
  integerExcluded := byte &&& 0x80 != 0

/-- The status once operands of the specialization `matched` were added, or once the integer path
was excluded as well.  It never narrows. -/
def widened (s : Status) (matched : Specialization) (exclude : Bool) : Status where
  specialization := s.specialization.join matched
  integerExcluded := s.integerExcluded || exclude

/-- A status that is widened again and again ends with the least specialization that covers the one
at the start and all that were matched. -/
theorem specialization_foldl_widened_le_iff {α : Type} (matched : α → Specialization)
    (exclude : α → Bool) (s : Status) (xs : List α) {bound : Specialization} :
    (xs.foldl (fun s x => s.widened (matched x) (exclude x)) s).specialization ≤ bound ↔
      s.specialization ≤ bound ∧ ∀ x ∈ xs, matched x ≤ bound := by
  induction xs generalizing s with
  | nil => exact (and_iff_left fun _ => nofun).symm
  | cons x xs ih =>
    have hjoin : (s.widened (matched x) (exclude x)).specialization =
        s.specialization.join (matched x) := rfl
    rw [List.foldl_cons, ih, hjoin, Specialization.join_le_iff, List.forall_mem_cons, and_assoc]

/-- A status that is widened again and again ends with the flag if it had it or was asked to exclude
the integer path. -/
theorem integerExcluded_foldl_widened {α : Type} (matched : α → Specialization)
    (exclude : α → Bool) (s : Status) (xs : List α) :
    (xs.foldl (fun s x => s.widened (matched x) (exclude x)) s).integerExcluded = true ↔
      s.integerExcluded = true ∨ ∃ x ∈ xs, exclude x = true := by
  induction xs generalizing s with
  | nil => simp
  | cons x xs ih =>
    have hflag : (s.widened (matched x) (exclude x)).integerExcluded =
        (s.integerExcluded || exclude x) := rfl
    rw [List.foldl_cons, ih, hflag, Bool.or_eq_true, or_assoc]
    simp only [List.mem_cons, exists_eq_or_imp]

theorem ofByte_toByte (s : Status) : ofByte s.toByte = s := by
  obtain ⟨specialization, integerExcluded⟩ := s
  cases specialization <;> cases integerExcluded <;> rfl

end Status

end AdaptiveAdd
