import AdaptiveAdd.Program.Basic
import AdaptiveAdd.Value.Render

/-!
# The meaning of programs without sites

What a program computes when nothing is remembered between calls.  Numbers are
mathematical integers, so a value has no representation to choose, and addition
is one function of its operands (`Meaning.add`).
-/

namespace AdaptiveAdd

/-- A value apart from the representation of numbers. -/
inductive Meaning where
  | number (n : Int)
  | text (s : String)
  | foreign (f : Foreign)
  deriving DecidableEq

/-- What the value means. -/
def Value.meaning : Value → Meaning
  | .int n => .number n.toInt
  | .big n => .number n
  | .text s => .text s
  | .foreign f => .foreign f

namespace Meaning

/-- The text of the value in the language. -/
def render : Meaning → String
  | number n => toString n
  | text s => s
  | foreign f => f.render

def isText : Meaning → Bool
  | text _ => true
  | _ => false

/-- Numbers are added, texts are joined to anything, and nothing else can be added: the operands
are then the error. -/
def add (l r : Meaning) : Except (List Meaning) Meaning :=
  match l, r with
  | number a, number b => .ok (number (a + b))
  | l, r => if l.isText || r.isText then .ok (text (l.render ++ r.render)) else .error [l, r]

/-- Adds repeatedly to an accumulator, until an addition fails. -/
def iterate (step : Meaning → Except (List Meaning) Meaning) :
    Nat → Meaning → Except (List Meaning) Meaning
  | 0, acc => .ok acc
  | n + 1, acc => step acc >>= iterate step n

end Meaning

namespace Program

/-- The meaning of the operand after the steps with these results, if it has one. -/
def Operand.meaning? (results : Array (Option Meaning)) : Operand → Option Meaning
  | .value v => some v.meaning
  | .result step => results[step]?.join

/-- The result of the command after steps with these results, if it has one. -/
def Command.meaning? (results : Array (Option Meaning)) :
    Command → Option (Except (List Meaning) Meaning)
  | .inspect => none
  | .add left right =>
      match left.meaning? results, right.meaning? results with
      | some l, some r => some (l.add r)
      | _, _ => none
  | .fold start addend times side =>
      let add (acc other : Meaning) : Except (List Meaning) Meaning :=
        match side with
        | .left => acc.add other
        | .right => other.add acc
      match start.meaning? results, addend with
      | some first, .accumulator => some (Meaning.iterate (fun acc => add acc acc) times first)
      | some first, .operand o =>
          (o.meaning? results).map fun other => Meaning.iterate (add · other) times first
      | none, _ => none

/-- The results of the commands, after steps with the given results. -/
def meaningFrom (results : Array (Option Meaning)) :
    List Command → List (Option (Except (List Meaning) Meaning))
  | [] => []
  | command :: commands =>
      let result := command.meaning? results
      result :: meaningFrom (results.push (result.bind Except.toOption)) commands

/-- The results of a program. -/
def meaning (commands : List Command) : List (Option (Except (List Meaning) Meaning)) :=
  meaningFrom #[] commands

end Program

end AdaptiveAdd
