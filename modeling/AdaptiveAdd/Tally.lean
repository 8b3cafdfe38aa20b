import AdaptiveAdd.Text.Record

/-!
# Tallies

A site counts its calls by the path that answered them, the calls that had to
try every path, and the changes of its status.  The counters are 64-bit words
and wrap around; the number of evaluations is a sum of four of them that stops
at the largest word.
-/

namespace AdaptiveAdd

/-- The four ways in which a call is answered. -/
inductive Path where
  | integer
  | bigNumber
  | text
  | typeError
  deriving DecidableEq

/-- The counters of a site. -/
structure Tally where
  /-- Calls answered with a word. -/
  integer : UInt64 := 0
  /-- Calls answered with an unbounded integer. -/
  bigNumber : UInt64 := 0
  /-- Calls answered with a text. -/
  text : UInt64 := 0
  /-- Calls that failed. -/
  typeErrors : UInt64 := 0
  /-- Calls that had to try every path. -/
  slow : UInt64 := 0
  /-- Changes of the status. -/
  transitions : UInt64 := 0
  deriving DecidableEq

namespace Tally

/-- The tally after one more call answered by `path`. -/
def record (t : Tally) : Path → Tally
  | .integer => { t with integer := t.integer + 1 }
  | .bigNumber => { t with bigNumber := t.bigNumber + 1 }
  | .text => { t with text := t.text + 1 }
  | .typeError => { t with typeErrors := t.typeErrors + 1 }

/-- The tally after one more call that had to try every path. -/
def recordSlow (t : Tally) : Tally :=
  { t with slow := t.slow + 1 }

/-- The tally after one more change of the status. -/
def recordTransition (t : Tally) : Tally :=
  { t with transitions := t.transitions + 1 }

/-- The sum of two counters, or the largest word where it overflows. -/
def saturatingAdd (a b : UInt64) : UInt64 :=
  if a + b < a then 0xffffffffffffffff else a + b

/-- The number of calls that were answered, whatever the path. -/
def evaluations (t : Tally) : UInt64 :=
  saturatingAdd (saturatingAdd (saturatingAdd t.integer t.bigNumber) t.text) t.typeErrors

/-- The counters of a live site on one line. -/
def debugLive (t : Tally) : String :=
  Text.record "DispatchProfile" [
    ("integer", toString t.integer.toNat),
    ("big_number", toString t.bigNumber.toNat),
    ("string", toString t.text.toNat),
    ("type_errors", toString t.typeErrors.toNat),
    ("slow_path", toString t.slow.toNat),
    ("transitions", toString t.transitions.toNat)]

/-- A copy of the counters on one line. -/
def debug (t : Tally) : String :=
  Text.record "ProfileSnapshot" [
    ("integer_fast_path", toString t.integer.toNat),
    ("big_number_path", toString t.bigNumber.toNat),
    ("string_path", toString t.text.toNat),
    ("type_errors", toString t.typeErrors.toNat),
    ("slow_path_entries", toString t.slow.toNat),
    ("transitions", toString t.transitions.toNat)]

theorem toNat_saturatingAdd (a b : UInt64) :
    (saturatingAdd a b).toNat = min (a.toNat + b.toNat) 0xffffffffffffffff := by
  have ha := a.toNat_lt
  have hb := b.toNat_lt
  have hsum : (a + b).toNat = (a.toNat + b.toNat) % 2 ^ 64 := UInt64.toNat_add a b
  unfold saturatingAdd
  split <;> rename_i h <;> rw [UInt64.lt_iff_toNat_lt] at h
  · have : (0xffffffffffffffff : UInt64).toNat = 0xffffffffffffffff := rfl
    omega
  · omega

end Tally

end AdaptiveAdd
