import AdaptiveAdd.Site.Dispatch

/-!
# Many calls at one site

`Site.trace` evaluates a list of calls one after the other, each at the site
that the calls before it left behind, and `Site.run` is the site after all of
them.  `Site.accumulate` feeds every result into the next call, until a call
fails or the list ends; `Site.chain` is the case that adds the elements of a list
to an accumulator on its left.
-/

namespace AdaptiveAdd

/-- The operands of a call. -/
abbrev Call := Value × Value

/-- What a sequence of calls with an accumulator comes to. -/
structure Accumulation where
  /-- The last accumulator, or the error of the call that failed. -/
  outcome : Except TypeError Value
  /-- The number of calls that succeeded. -/
  count : Nat
  site : Site
  events : List Event

namespace Site

/-- The evaluations of the calls, in order. -/
def trace (s : Site) : List Call → List Evaluation
  | [] => []
  | (l, r) :: calls =>
      let evaluation := s.eval l r
      evaluation :: trace evaluation.site calls

/-- The site after the calls. -/
def run (s : Site) (calls : List Call) : Site :=
  calls.foldl (fun s call => (s.eval call.1 call.2).site) s

/-- Evaluates one call for each element of a list.  The operands of a call come from the element
and the accumulator, and its result is the accumulator of the next call. -/
def accumulate {α : Type} (operands : Value → α → Call) (s : Site) (acc : Value) :
    List α → Accumulation
  | [] => { outcome := .ok acc, count := 0, site := s, events := [] }
  | x :: xs =>
      let call := operands acc x
      let evaluation := s.eval call.1 call.2
      match evaluation.outcome with
      | .error e =>
          { outcome := .error e, count := 0, site := evaluation.site, events := evaluation.events }
      | .ok sum =>
          let rest := accumulate operands evaluation.site sum xs
          { rest with count := rest.count + 1, events := evaluation.events ++ rest.events }

/-- Adds the elements of a list, from left to right, to `first`. -/
def chain (s : Site) (first : Value) (rest : List Value) : Accumulation :=
  s.accumulate Prod.mk first rest

theorem run_cons (s : Site) (l r : Value) (calls : List Call) :
    s.run ((l, r) :: calls) = (s.eval l r).site.run calls := rfl

/-- The evaluation of a call of a run is its evaluation at the site that the calls before it left
behind. -/
theorem trace_getElem? (s : Site) (calls : List Call) (i : Nat) :
    (s.trace calls)[i]? =
      calls[i]?.map fun call => (s.run (calls.take i)).eval call.1 call.2 := by
  induction calls generalizing s i with
  | nil => rfl
  | cons call calls ih =>
    cases i with
    | zero => rfl
    | succ i => exact ih (s.eval call.1 call.2).site i

theorem length_trace (s : Site) (calls : List Call) : (s.trace calls).length = calls.length := by
  induction calls generalizing s with
  | nil => rfl
  | cons call calls ih => simp [trace, ih]

end Site

end AdaptiveAdd
