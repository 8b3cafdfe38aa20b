import AdaptiveAdd.Program.Basic
import AdaptiveAdd.Site.Run

/-!
# Running programs on sites

Every step of a program happens at one of the program's sites.  A step reports
how it ended, the site after it, and the events on the way.  A step with an
operand that has no value leaves its site alone.
-/

namespace AdaptiveAdd.Program

/-- How a step ended. -/
inductive Ending where
  /-- The site was looked at. -/
  | inspected
  /-- One addition was made. -/
  | added (outcome : Except TypeError Value)
  /-- A repeated addition was made, with `count` additions that succeeded. -/
  | folded (outcome : Except TypeError Value) (count : Nat)
  /-- An operand had no value. -/
  | noValue

/-- The value that later steps see. -/
def Ending.result? : Ending → Option Value
  | .added (.ok v) | .folded (.ok v) _ => some v
  | _ => none

/-- The report of a step. -/
structure Report where
  ending : Ending
  site : Site
  events : List Event

/-- The operands of the next addition of a repeated one. -/
def nextCall (addend : Option Value) (side : Side) (acc : Value) : Call :=
  let other := addend.getD acc
  match side with
  | .left => (acc, other)
  | .right => (other, acc)

/-- The command at the site, after steps with these results. -/
def Command.perform (results : Array (Option Value)) (s : Site) : Command → Report
  | .inspect => { ending := .inspected, site := s, events := [] }
  | .add left right =>
      match left.resolve results, right.resolve results with
      | some l, some r =>
          let evaluation := s.eval l r
          { ending := .added evaluation.outcome, site := evaluation.site
            events := evaluation.events }
      | _, _ => { ending := .noValue, site := s, events := [] }
  | .fold start addend times side =>
      match start.resolve results, addend.resolve results with
      | some first, some addend =>
          let total := s.accumulate (fun acc () => nextCall addend side acc) first
            (List.replicate times ())
          { ending := .folded total.outcome total.count, site := total.site
            events := total.events }
      | _, _ => { ending := .noValue, site := s, events := [] }

/-- A command and the site, of `n`, where it happens. -/
structure Step (n : Nat) where
  site : Fin n
  command : Command

/-- The reports of the steps, after steps with the given results. -/
def runFrom {n : Nat} (sites : Vector Site n) (results : Array (Option Value)) :
    List (Step n) → List Report
  | [] => []
  | step :: steps =>
      let report := step.command.perform results sites[step.site]
      report ::
        runFrom (sites.set step.site report.site) (results.push report.ending.result?) steps

/-- The reports of a program that starts with the given sites. -/
def run {n : Nat} (sites : Vector Site n) (steps : List (Step n)) : List Report :=
  runFrom sites #[] steps

end AdaptiveAdd.Program
