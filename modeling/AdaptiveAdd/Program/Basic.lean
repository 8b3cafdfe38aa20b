import AdaptiveAdd.Value.Basic

/-!
# Straight-line programs

A program is a list of commands without jumps.  An operand is a value that
stands in the program or the result of an earlier step, named by its place in
the program counted from zero.
-/

namespace AdaptiveAdd.Program

/-- Where a command takes a value from. -/
inductive Operand where
  | value (v : Value)
  | result (step : Nat)

/-- Which operand of `+` the accumulator is. -/
inductive Side where
  | left
  | right

/-- What a repeated addition adds to its accumulator. -/
inductive Addend where
  | operand (o : Operand)
  | accumulator

/-- One step of a program, apart from the site where it happens. -/
inductive Command where
  /-- Add two operands. -/
  | add (left right : Operand)
  /-- Add `addend` to an accumulator that starts as `start`, `times` times over. -/
  | fold (start : Operand) (addend : Addend) (times : Nat) (accumulator : Side)
  /-- Look at the site. -/
  | inspect

/-- The value of the operand after the steps with these results, if it has one. -/
def Operand.resolve (results : Array (Option Value)) : Operand → Option Value
  | .value v => some v
  | .result step => results[step]?.join

/-- What is added, given the results so far: `some none` is the accumulator itself. -/
def Addend.resolve (results : Array (Option Value)) : Addend → Option (Option Value)
  | .operand o => (o.resolve results).map some
  | .accumulator => some none

end AdaptiveAdd.Program
