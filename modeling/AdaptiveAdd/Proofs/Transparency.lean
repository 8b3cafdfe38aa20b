import AdaptiveAdd.Proofs.Meaning

/-!
# Programs cannot tell sites apart

The same commands run on two families of sites.  The families may differ in size,
in which site a step happens at, and in everything that the sites are and have
learned.  Then two runs choose different representations for the same numbers,
and the choices flow into later steps.

Programs see none of it.  `OutcomesAlike` says which outcomes they cannot tell
apart, and `Report.Alike` which reports.  Two reports of one command are alike
wherever the results before it mean the same (`alike_perform`), and alike reports
have results that mean the same, so whole runs are alike (`alike_runFrom`).
`sites_unobservable` adds that both runs come to the meaning of the commands.
-/

namespace AdaptiveAdd

/-- Outcomes that programs see as equal, texts with the same string and errors with the same
message.  A message shows the position of its site, so that part has a condition. -/
structure OutcomesAlike (samePosition : Prop) (x y : Except TypeError Value) : Prop where
  agree : AgreeUpTo (· ≈ ·) x y
  asText?_eq : ∀ v w, x = .ok v → y = .ok w → v.asText? = w.asText?
  message_eq : ∀ e f, x = .error e → y = .error f → samePosition → e.message = f.message

/-- Outcomes are seen as equal exactly when they mean the same. -/
theorem agreeUpTo_equiv_iff {x y : Except TypeError Value} :
    AgreeUpTo (· ≈ ·) x y ↔ outcomeMeaning x = outcomeMeaning y := by
  constructor
  · intro h
    cases h with
    | ok h => exact congrArg Except.ok (Value.equiv_iff_meaning_eq.1 h)
    | error h =>
      have hmeaning := h.imp fun _ _ => Value.equiv_iff_meaning_eq.1
      exact congrArg Except.error (map_meaning_eq_iff.2 hmeaning)
  · intro h
    cases x with
    | error e =>
      cases y with
      | error f =>
        have hmeaning := map_meaning_eq_iff.1 (Except.error.inj h)
        exact .error (hmeaning.imp fun _ _ => Value.equiv_iff_meaning_eq.2)
      | ok w => cases h
    | ok v =>
      cases y with
      | error f => cases h
      | ok w => exact .ok (Value.equiv_iff_meaning_eq.2 (Except.ok.inj h))

/-- Outcomes of two sites that mean the same are alike. -/
theorem RaisedAt.outcomesAlike {config config' : Site.Config} {x y : Except TypeError Value}
    (hx : RaisedAt config x) (hy : RaisedAt config' y)
    (h : outcomeMeaning x = outcomeMeaning y) :
    OutcomesAlike (config.position = config'.position) x y where
  agree := agreeUpTo_equiv_iff.2 h
  asText?_eq := by
    rintro v w rfl rfl
    exact Value.asText?_eq_of_meaning_eq (Except.ok.inj h)
  message_eq := by
    rintro e f rfl rfl hposition
    obtain ⟨hoperation, -, heposition⟩ := hx e rfl
    obtain ⟨hoperation', -, hfposition⟩ := hy f rfl
    exact TypeError.message_eq (hoperation.trans hoperation'.symm)
      (heposition.trans (hposition.trans hfposition.symm)) (Except.error.inj h)

/-- Calls with equal operands have alike outcomes at any two sites. -/
theorem Site.outcomesAlike_eval (s t : Site) {l r l' r' : Value} (hl : l ≈ l') (hr : r ≈ r') :
    OutcomesAlike (s.position = t.position) (s.eval l r).outcome (t.eval l' r').outcome := by
  have hmeaning : outcomeMeaning (s.eval l r).outcome = outcomeMeaning (t.eval l' r').outcome := by
    rw [s.meaning_eval, t.meaning_eval, Value.equiv_iff_meaning_eq.1 hl,
      Value.equiv_iff_meaning_eq.1 hr]
  exact (s.raisedAt_eval l r).outcomesAlike (t.raisedAt_eval l' r') hmeaning

namespace Program

/-- Steps that ended in the same way, with alike outcomes. -/
inductive Ending.Alike (samePosition : Prop) : Ending → Ending → Prop
  | inspected : Alike samePosition .inspected .inspected
  | added {x y : Except TypeError Value} (h : OutcomesAlike samePosition x y) :
      Alike samePosition (.added x) (.added y)
  | folded {x y : Except TypeError Value} (count : Nat) (h : OutcomesAlike samePosition x y) :
      Alike samePosition (.folded x count) (.folded y count)
  | noValue : Alike samePosition .noValue .noValue

/-- Reports that programs cannot tell apart. -/
def Report.Alike (a b : Report) : Prop :=
  a.ending.Alike (a.site.position = b.site.position) b.ending

/-- The commands as steps, the `i`th at the site `place i`. -/
def assign {n : Nat} (place : Nat → Fin n) (commands : List Command) : List (Step n) :=
  commands.mapIdx fun i command => ⟨place i, command⟩

theorem assign_cons {n : Nat} (place : Nat → Fin n) (command : Command) (commands : List Command) :
    assign place (command :: commands) =
      ⟨place 0, command⟩ :: assign (fun i => place (i + 1)) commands :=
  List.mapIdx_cons

theorem command_assign {n : Nat} (place : Nat → Fin n) (commands : List Command) :
    (assign place commands).map (·.command) = commands := by
  induction commands generalizing place with
  | nil => rfl
  | cons command commands ih => rw [assign_cons, List.map_cons, ih]

/-- After results that mean the same, an operand has values that are seen as equal, or none. -/
theorem resolve_operand {results results' : Array (Option Value)}
    (h : meanings results = meanings results') (o : Operand) :
    (o.resolve results = none ∧ o.resolve results' = none) ∨
      ∃ v w, o.resolve results = some v ∧ o.resolve results' = some w ∧ v ≈ w := by
  have hmeaning :
      (o.resolve results).map Value.meaning = (o.resolve results').map Value.meaning := by
    rw [← meaning?_operand, ← meaning?_operand, h]
  cases hv : o.resolve results <;> cases hw : o.resolve results' <;> rw [hv, hw] at hmeaning
  · exact .inl ⟨rfl, rfl⟩
  · cases hmeaning
  · cases hmeaning
  · exact .inr ⟨_, _, rfl, rfl, Value.equiv_iff_meaning_eq.2 (Option.some.inj hmeaning)⟩

/-- After results that mean the same, so do the addends of a repeated addition. -/
theorem resolve_addend {results results' : Array (Option Value)}
    (h : meanings results = meanings results') (addend : Addend) :
    (addend.resolve results = none ∧ addend.resolve results' = none) ∨
      ∃ v w, addend.resolve results = some v ∧ addend.resolve results' = some w ∧
        v.map Value.meaning = w.map Value.meaning := by
  cases addend with
  | accumulator => exact .inr ⟨none, none, rfl, rfl, rfl⟩
  | operand o =>
    simp only [Addend.resolve]
    rcases resolve_operand h o with ⟨hv, hw⟩ | ⟨v, w, hv, hw, hequiv⟩
    · exact .inl ⟨by rw [hv]; rfl, by rw [hw]; rfl⟩
    · refine .inr ⟨some v, some w, by rw [hv]; rfl, by rw [hw]; rfl, ?_⟩
      exact congrArg some (Value.equiv_iff_meaning_eq.1 hequiv)

/-- Repeated additions at two sites are alike where the start and the addend mean the same. -/
theorem alike_folded (s t : Site) {first first' : Value} {addend addend' : Option Value}
    (hfirst : first ≈ first')
    (haddend : addend.map Value.meaning = addend'.map Value.meaning) (times : Nat) (side : Side) :
    let a := s.accumulate (fun acc () => nextCall addend side acc) first (List.replicate times ())
    let b := t.accumulate (fun acc () => nextCall addend' side acc) first' (List.replicate times ())
    Ending.Alike (s.position = t.position) (.folded a.outcome a.count)
      (.folded b.outcome b.count) := by
  intro a b
  obtain ⟨hmeaning, hcount⟩ := s.meaning_accumulate
    (fun acc _ => nextMeaning_nextCall addend side acc) first (List.replicate times ())
  obtain ⟨hmeaning', hcount'⟩ := t.meaning_accumulate
    (fun acc _ => nextMeaning_nextCall addend' side acc) first' (List.replicate times ())
  rw [← Value.equiv_iff_meaning_eq.1 hfirst, ← haddend] at hmeaning' hcount'
  have houtcome : OutcomesAlike (s.position = t.position) a.outcome b.outcome :=
    (s.raisedAt_accumulate _ _ _).outcomesAlike (t.raisedAt_accumulate _ _ _)
      (hmeaning.trans hmeaning'.symm)
  rw [show b.count = a.count from hcount'.trans hcount.symm]
  exact .folded a.count houtcome

/-- A command has alike reports at any two sites, after results that mean the same. -/
theorem alike_perform {results results' : Array (Option Value)}
    (h : meanings results = meanings results') (s t : Site) (command : Command) :
    (command.perform results s).Alike (command.perform results' t) := by
  rw [Report.Alike, position_perform, position_perform]
  cases command with
  | inspect => exact .inspected
  | add left right =>
    rcases resolve_operand h left with ⟨hl, hl'⟩ | ⟨l, l', hl, hl', hleft⟩
    · simp only [Command.perform, hl, hl']
      exact .noValue
    · rcases resolve_operand h right with ⟨hr, hr'⟩ | ⟨r, r', hr, hr', hright⟩
      · simp only [Command.perform, hl, hl', hr, hr']
        exact .noValue
      · simp only [Command.perform, hl, hl', hr, hr']
        exact .added (s.outcomesAlike_eval t hleft hright)
  | fold start addend times side =>
    rcases resolve_operand h start with ⟨hf, hf'⟩ | ⟨first, first', hf, hf', hfirst⟩
    · simp only [Command.perform, hf, hf']
      exact .noValue
    · rcases resolve_addend h addend with ⟨ha, ha'⟩ | ⟨v, w, ha, ha', haddend⟩
      · simp only [Command.perform, hf, hf', ha, ha']
        exact .noValue
      · simp only [Command.perform, hf, hf', ha, ha']
        exact alike_folded s t hfirst haddend times side

/-- Runs of the same commands have alike reports, after results that mean the same. -/
theorem alike_runFrom {m n : Nat} (sites : Vector Site m) (others : Vector Site n)
    (place : Nat → Fin m) (place' : Nat → Fin n) {results results' : Array (Option Value)}
    (h : meanings results = meanings results') (commands : List Command) :
    List.Forall₂ Report.Alike (runFrom sites results (assign place commands))
      (runFrom others results' (assign place' commands)) := by
  induction commands generalizing sites others place place' results results' with
  | nil => exact .nil
  | cons command commands ih =>
    rw [assign_cons, assign_cons, runFrom, runFrom]
    refine .cons (alike_perform h sites[place 0] others[place' 0] command) (ih _ _ _ _ ?_)
    rw [meanings_push, meanings_push, map_meaning_result?, map_meaning_result?, meaning_perform,
      meaning_perform, h]

/-- The same commands run on two families of sites.  Sites may be shared between steps, and each is
any site: of any identifier, position and policy, with any calls behind it.

Step by step, the reports are alike: both steps have no value; or both have values that are seen as
equal, and the same string if they are texts; or both fail with operands that are seen as equal,
and with the same message if their sites are at the same position.  Both runs come to what the
commands mean without sites, and the site of a report is the one that its step was assigned to. -/
theorem sites_unobservable {m n : Nat} (sites : Vector Site m) (others : Vector Site n)
    (place : Nat → Fin m) (place' : Nat → Fin n) (commands : List Command) :
    let reports := run sites (assign place commands)
    let reports' := run others (assign place' commands)
    List.Forall₂ Report.Alike reports reports' ∧
    reports.map (·.ending.meaning?) = meaning commands ∧
    reports'.map (·.ending.meaning?) = meaning commands ∧
    reports.map (·.site.config) =
      (assign place commands).map (fun step => (sites.get step.site).config) ∧
    reports'.map (·.site.config) =
      (assign place' commands).map (fun step => (others.get step.site).config) := by
  intro reports reports'
  have hmeaning : ∀ {k : Nat} (family : Vector Site k) (places : Nat → Fin k),
      (run family (assign places commands)).map (·.ending.meaning?) = meaning commands := by
    intro k family places
    have hrun := meaning_runFrom family #[] (assign places commands)
    rw [command_assign, show meanings #[] = #[] from Array.map_empty] at hrun
    exact hrun
  exact ⟨alike_runFrom sites others place place' rfl commands, hmeaning sites place,
    hmeaning others place', config_runFrom sites #[] _, config_runFrom others #[] _⟩

end Program

end AdaptiveAdd
