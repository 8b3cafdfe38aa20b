import AdaptiveAdd.Proofs.Redispatch

/-!
# The order of operands

`l + r` and `r + l` are different calls: texts are joined in the order of the
operands, and an error lists them in that order.  Nothing else about a site
tells the two apart.

* What a site learns and counts.  All of it is a function of the combinations of
  the calls (`Site.site_eval_congr`, `Site.run_congr`), and the combination of a
  call does not depend on the order of its operands (`Call.combination_swap`).
* Results.  Two numbers have the same sum in either order
  (`Site.outcome_eval_swap_of_isNumeric`), texts are joined in the order of the
  operands (`Site.outcome_eval_swap_of_hasText`), and errors and reports show
  that order (`Site.outcome_eval_eq_error_iff_swap`, `Site.events_eval_swap`).
* Runs.  `Call.swapAt` exchanges the operands of some calls of a run, and
  `Site.operand_order_after_run` compares the two runs call by call.
-/

namespace AdaptiveAdd

/-! ## The two orders -/

namespace Call

theorem combination_swap (call : Call) : combination call.swap = call.combination := by
  obtain ⟨l, r⟩ := call
  have hcomm : ∀ a b : Int64, b.toInt + a.toInt = a.toInt + b.toInt := fun a b => Int.add_comm _ _
  cases l <;> cases r <;> simp [combination, Value.isNumber, Value.isText, hcomm]

theorem combination_comm (l r : Value) : combination (r, l) = combination (l, r) :=
  combination_swap (l, r)

theorem needsBig_comm {l r : Value} : NeedsBig (r, l) ↔ NeedsBig (l, r) := by
  rw [needsBig_iff, needsBig_iff, combination_comm]

theorem isUnsupported_comm {l r : Value} : IsUnsupported (r, l) ↔ IsUnsupported (l, r) := by
  rw [isUnsupported_iff, isUnsupported_iff, combination_comm]

/-- The calls with the operands exchanged in those at the given positions. -/
def swapAt (positions : Nat → Bool) (calls : List Call) : List Call :=
  calls.mapIdx fun i call => if positions i then call.swap else call

theorem getElem?_swapAt (positions : Nat → Bool) (calls : List Call) (i : Nat) :
    (swapAt positions calls)[i]? =
      calls[i]?.map fun call => if positions i then call.swap else call :=
  List.getElem?_mapIdx

/-- Exchanging operands keeps the combination of every call. -/
theorem map_combination_swapAt (positions : Nat → Bool) (calls : List Call) :
    (swapAt positions calls).map combination = calls.map combination := by
  refine List.ext_getElem? fun i => ?_
  rw [List.getElem?_map, List.getElem?_map, getElem?_swapAt, Option.map_map]
  refine congrArg (Option.map · calls[i]?) (funext fun call => ?_)
  show combination (if positions i then call.swap else call) = call.combination
  split
  · exact combination_swap call
  · rfl

end Call

/-- The error with its operands in the opposite order. -/
def TypeError.mirrored (e : TypeError) : TypeError :=
  { e with operands := e.operands.reverse }

/-- The event with the kinds of the operands, if it names them, in the opposite order. -/
def Event.mirrored : Event → Event
  | .unsupported site left right => .unsupported site right left
  | event => event

theorem TypeError.mirrored_mirrored (e : TypeError) : e.mirrored.mirrored = e := by
  simp [mirrored]

theorem TypeError.mirrored_inj {e f : TypeError} : e.mirrored = f.mirrored ↔ e = f :=
  Function.Involutive.injective mirrored_mirrored |>.eq_iff

/-! ## What a site learns and counts -/

theorem Tally.eq_of_eq {t u : Tally} (hcount : ∀ path, t.count path = u.count path)
    (hslow : t.slow = u.slow) (htransitions : t.transitions = u.transitions) : t = u := by
  have hinteger := hcount .integer
  have hbig := hcount .bigNumber
  have htext := hcount .text
  have herrors := hcount .typeError
  cases t
  cases u
  simp_all [count]

namespace Site

theorem eq_of_eq {s t : Site} (hconfig : s.config = t.config) (hstatus : s.status = t.status)
    (htally : s.tally = t.tally) : s = t := by
  cases s
  cases t
  cases hconfig
  cases hstatus
  cases htally
  rfl

variable {s : Site} {l r l' r' : Value}

/-- A site after a call depends on the combination of the operands, and on nothing else about
them. -/
theorem site_eval_congr (hs : s.status.Sound)
    (hcomb : Call.combination (l, r) = Call.combination (l', r')) :
    (s.eval l r).site = (s.eval l' r').site := by
  have hslow : s.status.committed? l r = none ↔ s.status.committed? l' r' = none := by
    rw [Status.committed?_eq_none_iff hs, Status.committed?_eq_none_iff hs, hcomb]
  refine eq_of_eq ?_ ?_ (Tally.eq_of_eq (fun path => ?_) ?_ ?_)
  · rw [config_eval, config_eval]
  · rw [status_eval hs, status_eval hs, hcomb]
  · rw [count_eval hs, count_eval hs, hcomb]
  · rw [slow_eval, slow_eval]
    simp only [hslow]
  · rw [transitions_eval hs, transitions_eval hs, hcomb]

/-- A call reports a change of the status as any call of its combination does. -/
theorem filter_debug_eval_congr (hs : s.status.Sound)
    (hcomb : Call.combination (l, r) = Call.combination (l', r')) :
    (s.eval l r).events.filter (·.level = .debug) =
      (s.eval l' r').events.filter (·.level = .debug) := by
  rw [filter_debug_eval hs, filter_debug_eval hs, filterMap_change?_eval hs,
    filterMap_change?_eval hs, site_eval_congr hs hcomb]

/-- A site after a run depends on the combinations of the calls, and on nothing else about them. -/
theorem run_congr (hs : s.status.Sound) {calls others : List Call}
    (hcomb : calls.map Call.combination = others.map Call.combination) :
    s.run calls = s.run others := by
  induction calls generalizing s others with
  | nil => rw [List.map_eq_nil_iff.1 hcomb.symm]
  | cons call calls ih =>
    cases others with
    | nil => cases hcomb
    | cons other others =>
      obtain ⟨hcall, hcalls⟩ := List.cons.inj hcomb
      rw [run_cons s call.1 call.2, run_cons s other.1 other.2, ← site_eval_congr hs hcall]
      exact ih (sound_eval hs call.1 call.2) hcalls

/-! ## Results -/

/-- Two numbers have the same sum in either order, in the same representation. -/
theorem outcome_eval_swap_of_isNumeric (hs : s.status.Sound) (hnumeric : Call.IsNumeric (l, r)) :
    ∃ v, (s.eval l r).outcome = .ok v ∧ (s.eval r l).outcome = .ok v := by
  rcases Call.isNumeric_iff.1 hnumeric with hcomb | hbig
  · obtain ⟨a, b, w, hcall, hsum⟩ := (Call.staysInWords_iff.2 hcomb).exists_sum
    cases hcall
    exact ⟨_, outcome_eval_words hs hsum,
      outcome_eval_words hs ((Int.add_comm b.toInt a.toInt).trans hsum)⟩
  · obtain ⟨m, hm⟩ := Value.exists_toInt?_of_isNumber hnumeric.1
    obtain ⟨n, hn⟩ := Value.exists_toInt?_of_isNumber hnumeric.2
    refine ⟨_, outcome_eval_of_needsBig hs hm hn hbig, ?_⟩
    rw [Int.add_comm m n]
    exact outcome_eval_of_needsBig hs hn hm (Call.needsBig_comm.2 hbig)

/-- A text is joined to the other operand in the order of the operands. -/
theorem outcome_eval_swap_of_hasText (hs : s.status.Sound) (htext : Call.HasText (l, r)) :
    (s.eval l r).outcome = .ok (.text (l.render ++ r.render)) ∧
      (s.eval r l).outcome = .ok (.text (r.render ++ l.render)) :=
  ⟨outcome_eval_of_hasText hs htext, outcome_eval_of_hasText hs htext.symm⟩

/-- A call fails in one order exactly when it fails in the other, and its error then lists the
operands in that order. -/
theorem outcome_eval_eq_error_iff_swap (hs : s.status.Sound) (l r : Value) (e : TypeError) :
    (s.eval l r).outcome = .error e ↔ (s.eval r l).outcome = .error e.mirrored := by
  by_cases hunsupported : Call.IsUnsupported (l, r)
  · have hmirrored : s.typeError r l = (s.typeError l r).mirrored := rfl
    rw [outcome_eval_of_isUnsupported hs hunsupported,
      outcome_eval_of_isUnsupported hs (Call.isUnsupported_comm.2 hunsupported), hmirrored,
      Except.error.injEq, Except.error.injEq]
    exact TypeError.mirrored_inj.symm
  · have hswap : ¬ Call.IsUnsupported (r, l) := fun h => hunsupported (Call.isUnsupported_comm.1 h)
    rw [← outcome_eval_eq_error_iff hs] at hunsupported hswap
    exact iff_of_false (fun h => hunsupported ⟨_, h⟩) (fun h => hswap ⟨_, h⟩)

/-- A call reports the same in either order, with the kinds of the operands in that order. -/
theorem events_eval_swap (hs : s.status.Sound) (l r : Value) :
    (s.eval r l).events = (s.eval l r).events.map Event.mirrored := by
  rw [events_eval hs, events_eval hs, Call.combination_comm]
  dsimp only
  split
  · rfl
  · split <;> rfl

/-! ## Runs -/

/-- Exchanging operands in a run changes nothing about the site after it. -/
theorem run_take_swapAt (hs : s.status.Sound) (positions : Nat → Bool) (calls : List Call)
    (i : Nat) : s.run ((Call.swapAt positions calls).take i) = s.run (calls.take i) := by
  refine run_congr hs ?_
  rw [List.map_take, List.map_take, Call.map_combination_swapAt]

/-- Two runs at a new site, the second of them with the operands exchanged at some positions.

After every call both sites are the same in all that they are, have learned and have counted, and
both calls reported the same change of the status, if any.  Calls at other positions have the same
outcome and report the same.  At the positions where the operands are exchanged, two numbers have
the same sum in the same representation; a text is joined to the other operand in the order of the
operands; one call fails exactly when the other does, and then the errors list the operands in
opposite orders; and the reports name the kinds of the operands in opposite orders. -/
theorem operand_order_after_run (config : Config) (calls : List Call) (positions : Nat → Bool) :
    let others := Call.swapAt positions calls
    others.length = calls.length ∧
    ∀ i l r, calls[i]? = some (l, r) → ∃ e f,
      (config.build.trace calls)[i]? = some e ∧ (config.build.trace others)[i]? = some f ∧
      e.site = f.site ∧
      e.events.filter (·.level = .debug) = f.events.filter (·.level = .debug) ∧
      (positions i = false → e.outcome = f.outcome ∧ e.events = f.events) ∧
      (positions i = true →
        (Call.IsNumeric (l, r) → ∃ v, e.outcome = .ok v ∧ f.outcome = .ok v) ∧
        (Call.HasText (l, r) →
          e.outcome = .ok (.text (l.render ++ r.render)) ∧
          f.outcome = .ok (.text (r.render ++ l.render))) ∧
        (∀ error, e.outcome = .error error → error.operands = [l, r]) ∧
        (∀ error, e.outcome = .error error ↔ f.outcome = .error error.mirrored) ∧
        f.events = e.events.map Event.mirrored) := by
  intro others
  refine ⟨List.length_mapIdx, fun i l r hcall => ?_⟩
  have hnew : config.build.status.Sound := sound_build config
  have hs : (config.build.run (calls.take i)).status.Sound := sound_run hnew _
  have hother : others[i]? = some (if positions i then (r, l) else (l, r)) := by
    rw [show others[i]? = _ from Call.getElem?_swapAt positions calls i, hcall]
    rfl
  have htrace := config.build.trace_getElem? calls i
  have htrace' := config.build.trace_getElem? others i
  rw [hcall] at htrace
  rw [hother, show config.build.run (others.take i) = _ from run_take_swapAt hnew positions calls i]
    at htrace'
  refine ⟨_, _, htrace, htrace', ?_⟩
  cases hposition : positions i with
  | false => exact ⟨rfl, rfl, fun _ => ⟨rfl, rfl⟩, nofun⟩
  | true =>
    have hcomb : Call.combination (l, r) = Call.combination (r, l) := Call.combination_comm r l
    refine ⟨site_eval_congr hs hcomb, filter_debug_eval_congr hs hcomb, nofun, fun _ => ⟨?_, ?_, ?_,
      ?_, ?_⟩⟩
    · exact outcome_eval_swap_of_isNumeric hs
    · exact outcome_eval_swap_of_hasText hs
    · exact fun error herror => by rw [(eq_typeError_of_outcome_eval hs herror).2, typeError]
    · exact outcome_eval_eq_error_iff_swap hs l r
    · exact events_eval_swap hs l r

end Site

end AdaptiveAdd
