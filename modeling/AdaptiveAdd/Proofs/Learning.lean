import AdaptiveAdd.Proofs.Outcome

/-!
# What a site has learned

The status of a site after a run, as a function of the calls alone.

* The order.  Specializations are told apart by what is below them, and
  `Status.learn_eq_self_iff` says when a call teaches nothing new.
* The least upper bound.  `specialization_run_le_iff` bounds the specialization
  after a run: it is the least that covers the one before and the combinations
  of all calls.  A least upper bound does not depend on the order or the number
  of the calls, and unsupported calls add nothing to it.
* Calls that teach nothing new.  At a site that covers all calls of a run, the
  run changes no status and reports no transition.

`status_after_run` collects what follows for a new site.  The five
specializations are told apart by the four bounds `text`, `bigNumber`, `integer`
and `uncommitted`, each of which rules out one kind of call.
-/

namespace AdaptiveAdd

/-! ## The order -/

namespace Specialization

theorem le_refl (a : Specialization) : a ≤ a :=
  le_iff_join_eq.2 (join_self a)

theorem le_antisymm {a b : Specialization} (hab : a ≤ b) (hba : b ≤ a) : a = b := by
  rw [le_iff_join_eq] at hab hba
  rw [← hba, join_comm, hab]

theorem uncommitted_le (a : Specialization) : uncommitted ≤ a := by
  cases a <;> decide

theorem eq_generic_of_le {a : Specialization} (h : generic ≤ a) : a = generic := by
  revert h
  cases a <;> decide

/-! Each specialization by the bounds it meets and misses. -/

theorem eq_generic_iff {a : Specialization} : a = generic ↔ ¬ a ≤ bigNumber ∧ ¬ a ≤ text := by
  cases a <;> decide

theorem eq_text_iff {a : Specialization} : a = text ↔ ¬ a ≤ bigNumber ∧ a ≤ text := by
  cases a <;> decide

theorem eq_bigNumber_iff {a : Specialization} : a = bigNumber ↔ ¬ a ≤ integer ∧ a ≤ bigNumber := by
  cases a <;> decide

theorem eq_integer_iff {a : Specialization} : a = integer ↔ ¬ a ≤ uncommitted ∧ a ≤ integer := by
  cases a <;> decide

theorem eq_uncommitted_iff {a : Specialization} : a = uncommitted ↔ a ≤ uncommitted := by
  cases a <;> decide

/-- Where the four bounds answer three questions, so does the specialization. -/
theorem eq_iff_of_bounds {a : Specialization} {hasText hasNumeric needsBig : Prop}
    (hsub : needsBig → hasNumeric) (htext : a ≤ text ↔ ¬ hasNumeric)
    (hbig : a ≤ bigNumber ↔ ¬ hasText) (hinteger : a ≤ integer ↔ ¬ (hasText ∨ needsBig))
    (huncommitted : a ≤ uncommitted ↔ ¬ (hasText ∨ hasNumeric)) :
    (a = generic ↔ hasText ∧ hasNumeric) ∧
    (a = text ↔ hasText ∧ ¬ hasNumeric) ∧
    (a = bigNumber ↔ needsBig ∧ ¬ hasText) ∧
    (a = integer ↔ hasNumeric ∧ ¬ needsBig ∧ ¬ hasText) ∧
    (a = uncommitted ↔ ¬ hasText ∧ ¬ hasNumeric) := by
  rw [eq_generic_iff, eq_text_iff, eq_bigNumber_iff, eq_integer_iff, eq_uncommitted_iff, htext,
    hbig, hinteger, huncommitted]
  by_cases ht : hasText <;> by_cases hn : hasNumeric <;> by_cases hb : needsBig <;> simp_all

end Specialization

namespace Call

/-! The four bounds that tell specializations apart, as questions about a call. -/

theorem specialization_le_text_iff {call : Call} :
    call.combination.specialization ≤ .text ↔ ¬ call.IsNumeric := by
  rw [isNumeric_iff, needsBig_iff]
  cases call.combination <;> decide

theorem specialization_le_bigNumber_iff {call : Call} :
    call.combination.specialization ≤ .bigNumber ↔ ¬ call.HasText := by
  rw [hasText_iff]
  cases call.combination <;> decide

theorem specialization_le_integer_iff {call : Call} :
    call.combination.specialization ≤ .integer ↔ ¬ (call.HasText ∨ call.NeedsBig) := by
  rw [hasText_iff, needsBig_iff]
  cases call.combination <;> decide

theorem specialization_le_uncommitted_iff {call : Call} :
    call.combination.specialization ≤ .uncommitted ↔ ¬ (call.HasText ∨ call.IsNumeric) := by
  rw [hasText_iff, isNumeric_iff, needsBig_iff]
  cases call.combination <;> decide

end Call

theorem Status.eq_of_eq {s t : Status} (hspecialization : s.specialization = t.specialization)
    (hflag : s.integerExcluded = t.integerExcluded) : s = t := by
  cases s
  cases t
  cases hspecialization
  cases hflag
  rfl

/-- A status is determined by the bounds of its specialization and by its flag. -/
theorem Status.eq_of_le_iff {s t : Status}
    (hbound : ∀ bound, s.specialization ≤ bound ↔ t.specialization ≤ bound)
    (hflag : s.integerExcluded = true ↔ t.integerExcluded = true) : s = t := by
  have hspecialization : s.specialization = t.specialization := Specialization.le_antisymm
    ((hbound _).2 (Specialization.le_refl _)) ((hbound _).1 (Specialization.le_refl _))
  exact eq_of_eq hspecialization (Bool.eq_iff_iff.2 hflag)

/-- A call teaches nothing new where the status covers its combination already. -/
theorem Status.learn_eq_self_iff {s : Status} {c : Combination} :
    s.learn c = s ↔
      c.specialization ≤ s.specialization ∧ (c = .overflow → s.integerExcluded = true) := by
  obtain ⟨specialization, integerExcluded⟩ := s
  rw [Specialization.le_iff_join_eq]
  simp only [learn, widened, Status.mk.injEq, Bool.or_eq_left_iff_imp, decide_eq_true_eq]

namespace Site

variable {s : Site}

/-! ## The least upper bound -/

/-- The specialization after a run is the least that covers the one before and the combinations of
all calls. -/
theorem specialization_run_le_iff (hs : s.status.Sound) (calls : List Call)
    {bound : Specialization} :
    (s.run calls).status.specialization ≤ bound ↔
      s.status.specialization ≤ bound ∧
        ∀ call ∈ calls, call.combination.specialization ≤ bound := by
  rw [status_run hs, List.foldl_map]
  exact Status.specialization_foldl_widened_le_iff
    (fun call : Call => call.combination.specialization)
    (fun call => decide (call.combination = .overflow)) s.status calls

/-- A call of the run teaches nothing new after it. -/
theorem learn_run_of_mem (hs : s.status.Sound) {calls : List Call} {call : Call}
    (hmem : call ∈ calls) : (s.run calls).status.learn call.combination = (s.run calls).status := by
  rw [Status.learn_eq_self_iff, integerExcluded_run hs, ← Call.overflows_iff]
  have hcover := (specialization_run_le_iff hs calls).1 (Specialization.le_refl _)
  exact ⟨hcover.2 call hmem, fun hover => .inr ⟨call, hmem, hover⟩⟩

/-- The status after a run depends on the supported calls of the run, and on nothing else about
them than which they are. -/
theorem status_run_congr (hs : s.status.Sound) {calls others : List Call}
    (h : ∀ call : Call, ¬ call.IsUnsupported → (call ∈ calls ↔ call ∈ others)) :
    (s.run calls).status = (s.run others).status := by
  apply Status.eq_of_le_iff
  · intro bound
    rw [specialization_run_le_iff hs, specialization_run_le_iff hs]
    refine and_congr_right fun _ => forall_congr' fun call => ?_
    by_cases hunsupported : call.IsUnsupported
    · -- An unsupported call is below every bound, so it does not matter where it occurs.
      have hle : call.combination.specialization ≤ bound := by
        rw [Call.isUnsupported_iff.1 hunsupported]
        exact Specialization.uncommitted_le bound
      exact iff_of_true (fun _ => hle) (fun _ => hle)
    · rw [h call hunsupported]
  · rw [integerExcluded_run hs, integerExcluded_run hs]
    refine or_congr_right (exists_congr fun call => and_congr_left fun hover => h call ?_)
    rw [Call.isUnsupported_iff, Call.overflows_iff.1 hover]
    exact nofun

/-! ## Calls that teach nothing new -/

/-- A call that teaches nothing new reports no transition. -/
theorem level_ne_debug_of_learn_eq_self (hs : s.status.Sound) {l r : Value}
    (h : s.status.learn (Call.combination (l, r)) = s.status) :
    ∀ event ∈ (s.eval l r).events, event.level ≠ .debug := by
  intro event hmem hlevel
  exact (status_eval_ne_iff hs l r).2 ⟨event, hmem, hlevel⟩ ((status_eval hs l r).trans h)

/-- Where every call of a run teaches nothing new, the run changes no status, counts no transition
and reports none. -/
theorem run_of_learn_eq_self (hs : s.status.Sound) {calls : List Call}
    (h : ∀ call ∈ calls, s.status.learn call.combination = s.status) :
    (s.run calls).status = s.status ∧
      (s.run calls).tally.transitions = s.tally.transitions ∧
      ∀ evaluation ∈ s.trace calls, ∀ event ∈ evaluation.events, event.level ≠ .debug := by
  induction calls generalizing s with
  | nil =>
    refine ⟨rfl, rfl, ?_⟩
    intro evaluation hmem
    cases hmem
  | cons call calls ih =>
    obtain ⟨hcall, hcalls⟩ := List.forall_mem_cons.1 h
    have hstatus : (s.eval call.1 call.2).site.status = s.status := by
      rw [status_eval hs]
      exact hcall
    have htransitions : (s.eval call.1 call.2).site.tally.transitions = s.tally.transitions := by
      rw [transitions_eval hs, if_pos hcall, UInt64.add_zero]
    rw [← hstatus] at hcalls
    obtain ⟨hrun, hruntransitions, hrunevents⟩ := ih (sound_eval hs call.1 call.2) hcalls
    rw [run_cons s call.1 call.2]
    refine ⟨hrun.trans hstatus, hruntransitions.trans htransitions, ?_⟩
    intro evaluation hmem
    rcases List.mem_cons.1 hmem with rfl | hmem
    · exact level_ne_debug_of_learn_eq_self hs hcall
    · exact hrunevents evaluation hmem

/-! ## A new site -/

theorem specialization_build (config : Config) :
    config.build.status.specialization = config.policy.start := rfl

/-- The specialization of an adaptive site is the least that covers the combinations of all
calls. -/
theorem specialization_run_build_le_iff {config : Config} (hpolicy : config.policy = .adaptive)
    (calls : List Call) (bound : Specialization) :
    (config.build.run calls).status.specialization ≤ bound ↔
      ∀ call ∈ calls, call.combination.specialization ≤ bound := by
  rw [specialization_run_le_iff (sound_build config), specialization_build, hpolicy]
  exact and_iff_right (Specialization.uncommitted_le bound)

/-- The kinds of call so far select the specialization of an adaptive site. -/
theorem specialization_run_adaptive {config : Config} (hpolicy : config.policy = .adaptive)
    (calls : List Call) :
    let specialization := (config.build.run calls).status.specialization
    let text := ∃ call ∈ calls, call.HasText
    let numeric := ∃ call ∈ calls, call.IsNumeric
    let big := ∃ call ∈ calls, call.NeedsBig
    (specialization = .generic ↔ text ∧ numeric) ∧
    (specialization = .text ↔ text ∧ ¬ numeric) ∧
    (specialization = .bigNumber ↔ big ∧ ¬ text) ∧
    (specialization = .integer ↔ numeric ∧ ¬ big ∧ ¬ text) ∧
    (specialization = .uncommitted ↔ ¬ text ∧ ¬ numeric) := by
  intro specialization text numeric big
  have hbound := specialization_run_build_le_iff hpolicy calls
  have htext : specialization ≤ .text ↔ ¬ numeric := by
    simp only [specialization, hbound, Call.specialization_le_text_iff, numeric, not_exists,
      not_and]
  have hbig : specialization ≤ .bigNumber ↔ ¬ text := by
    simp only [specialization, hbound, Call.specialization_le_bigNumber_iff, text, not_exists,
      not_and]
  have hinteger : specialization ≤ .integer ↔ ¬ (text ∨ big) := by
    simp only [specialization, hbound, Call.specialization_le_integer_iff, text, big, ← exists_or,
      ← and_or_left, not_exists, not_and]
  have huncommitted : specialization ≤ .uncommitted ↔ ¬ (text ∨ numeric) := by
    simp only [specialization, hbound, Call.specialization_le_uncommitted_iff, text, numeric,
      ← exists_or, ← and_or_left, not_exists, not_and]
  have hsub : big → numeric := by
    rintro ⟨call, hmem, hbig⟩
    exact ⟨call, hmem, hbig.1⟩
  exact Specialization.eq_iff_of_bounds hsub htext hbig hinteger huncommitted

/-- A generic site stays generic. -/
theorem specialization_run_generic {config : Config} (hpolicy : config.policy = .generic)
    (calls : List Call) : (config.build.run calls).status.specialization = .generic := by
  have hcover := (specialization_run_le_iff (sound_build config) calls).1
    (Specialization.le_refl _)
  rw [specialization_build, hpolicy] at hcover
  exact Specialization.eq_generic_of_le hcover.1

/-- The status of a site that has answered `calls`.

The integer path is excluded exactly when a sum of words overflowed.  A generic site stays generic;
an adaptive one has the specialization that the kinds of call so far select.  The calls that fail
are those with unsupported operands.  Another run with the same supported calls, in any order and
number, ends in the same status; and answering any of the calls again, in any order and number,
changes no status, counts no transition and reports none. -/
theorem status_after_run (config : Config) (calls : List Call) :
    let site := config.build.run calls
    let text := ∃ call ∈ calls, call.HasText
    let numeric := ∃ call ∈ calls, call.IsNumeric
    let big := ∃ call ∈ calls, call.NeedsBig
    (site.status.integerExcluded = true ↔ ∃ call ∈ calls, call.Overflows) ∧
    (config.policy = .adaptive →
      (site.status.specialization = .generic ↔ text ∧ numeric) ∧
      (site.status.specialization = .text ↔ text ∧ ¬ numeric) ∧
      (site.status.specialization = .bigNumber ↔ big ∧ ¬ text) ∧
      (site.status.specialization = .integer ↔ numeric ∧ ¬ big ∧ ¬ text) ∧
      (site.status.specialization = .uncommitted ↔ ¬ text ∧ ¬ numeric)) ∧
    (config.policy = .generic → site.status.specialization = .generic) ∧
    (∀ l r, (∃ e, (site.eval l r).outcome = .error e) ↔ Call.IsUnsupported (l, r)) ∧
    (∀ others : List Call,
      (∀ call : Call, ¬ call.IsUnsupported → (call ∈ calls ↔ call ∈ others)) →
      (config.build.run others).status = site.status) ∧
    ∀ again : List Call, again ⊆ calls →
      (site.run again).status = site.status ∧
      (site.run again).tally.transitions = site.tally.transitions ∧
      ∀ evaluation ∈ site.trace again, ∀ event ∈ evaluation.events, event.level ≠ .debug := by
  intro site text numeric big
  have hnew : config.build.status.Sound := sound_build config
  have hs : site.status.Sound := sound_run hnew calls
  refine ⟨integerExcluded_run_build config calls, ?_, ?_, ?_, ?_, ?_⟩
  · intro hpolicy
    exact specialization_run_adaptive hpolicy calls
  · intro hpolicy
    exact specialization_run_generic hpolicy calls
  · intro l r
    exact outcome_eval_eq_error_iff hs
  · intro others h
    exact (status_run_congr hnew h).symm
  · intro again hagain
    exact run_of_learn_eq_self hs fun call hmem => learn_run_of_mem hnew (hagain hmem)

end Site

end AdaptiveAdd
