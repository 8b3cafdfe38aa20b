import AdaptiveAdd.Site.Basic
import AdaptiveAdd.TypeError
import AdaptiveAdd.Value.Sum

/-!
# Evaluation at a site

A call `l + r` is answered by the first path, in this order, that its operands
are fit for: words, unless their sum overflows or the site excludes the path;
numbers without bound; texts.  If none is, the call fails with a type error.

`dispatch` is that order.  A site that is committed first tries the path of its
specialization (`committed?`); whatever the site has learned, that path answers
only operands that `dispatch` answers in the same way.  Where the committed path
does not answer, every path is tried, and the status is widened to the operands
of the path that does (`widen`).
-/

namespace AdaptiveAdd

/-- A path that is fit for the operands of a call. -/
structure Answer where
  path : Path
  value : Value
  /-- The specialization whose operands these are. -/
  matched : Specialization
  /-- Whether the sum of two words overflowed on the way. -/
  overflowed : Bool := false
  deriving DecidableEq

/-- The answer of the first path that is fit for the operands, words being left out where they are
excluded. -/
def dispatch (integerExcluded : Bool) (l r : Value) : Option Answer :=
  let viaWords := if integerExcluded then none else Value.words? l r
  let integer := (viaWords.bind fun (a, b) => Integer.sum? a b).map fun sum =>
    { path := .integer, value := .int sum, matched := .integer }
  let bigNumber := (Value.bigSum? l r).map fun sum =>
    { path := .bigNumber, value := sum, matched := .bigNumber, overflowed := viaWords.isSome }
  let text := (Value.joined? l r).map fun joined =>
    { path := .text, value := joined, matched := .text }
  integer <|> bigNumber <|> text

/-- The answer of the path that the status is committed to, if that path is fit for the operands. -/
def Status.committed? (s : Status) (l r : Value) : Option (Path × Value) :=
  match s.specialization with
  | .integer => (Value.wordSum? l r).map (.integer, ·)
  | .bigNumber =>
      if !s.integerExcluded && (Value.words? l r).isSome then
        (Value.wordSum? l r).map (.integer, ·)
      else
        (Value.bigSum? l r).map (.bigNumber, ·)
  | .text => (Value.joined? l r).map (.text, ·)
  | .uncommitted | .generic => none

/-- The outcome of a call, the site after it, and the events on the way. -/
structure Evaluation where
  outcome : Except TypeError Value
  site : Site
  events : List Event

namespace Site

/-- The name of the operation. -/
def operation : String :=
  "+"

/-- The site with its status widened.  A change is counted and reported; without one, nothing
happens. -/
def widen (s : Site) (matched : Specialization) (exclude : Bool) : Site × List Event :=
  let status := s.status.widened matched exclude
  if status = s.status then (s, [])
  else
    ({ s with status := status, tally := s.tally.recordTransition },
      [.specialized s.id s.status.specialization status.specialization status.integerExcluded])

/-- The error of a call with operands that no path is fit for. -/
def typeError (s : Site) (l r : Value) : TypeError where
  operation := operation
  site := s.id
  position := s.position
  operands := [l, r]

/-- The call, tried on every path. -/
def evalSlow (s : Site) (l r : Value) : Evaluation :=
  let s := s.recordSlow
  match dispatch s.status.integerExcluded l r with
  | some answer =>
      let (s, events) := s.widen answer.matched answer.overflowed
      { outcome := .ok answer.value, site := s.record answer.path, events := events }
  | none =>
      { outcome := .error (s.typeError l r)
        site := s.record .typeError
        events := [.unsupported s.id l.kind r.kind] }

/-- The call `l + r` at the site. -/
def eval (s : Site) (l r : Value) : Evaluation :=
  match s.status.committed? l r with
  | some (path, value) => { outcome := .ok value, site := s.record path, events := [] }
  | none => s.evalSlow l r

/-! ## What a call leaves as it is -/

theorem config_widen (s : Site) (matched : Specialization) (exclude : Bool) :
    (s.widen matched exclude).1.config = s.config := by
  unfold widen
  dsimp only
  split <;> rfl

theorem config_eval (s : Site) (l r : Value) : (s.eval l r).site.config = s.config := by
  unfold eval
  split
  · rfl
  · unfold evalSlow
    dsimp only
    split
    · exact config_widen s.recordSlow _ _
    · rfl

/-- Sites that were built in the same way raise the same errors. -/
theorem typeError_congr {s t : Site} (hconfig : s.config = t.config) (l r : Value) :
    s.typeError l r = t.typeError l r := by
  have hid : s.id = t.id := congrArg Config.id hconfig
  have hposition : s.position = t.position := congrArg Config.position hconfig
  rw [typeError, typeError, hid, hposition]

end Site

end AdaptiveAdd
