import AdaptiveAdd.Proofs.Redispatch

/-!
# Failures leave no trace

A call that fails is counted and reported, and that is all that ever comes of it.
The site after it is the site before it with one more failure on its tally
(`Site.withFailures`, `Site.eval_of_isUnsupported`).  No call looks at the tally
(`Site.eval_withFailures`), so failures can be taken out of a run, and added to
the tally at its end instead: `Site.run_eq_withFailures`.
-/

namespace AdaptiveAdd

instance (call : Call) : Decidable call.IsUnsupported :=
  decidable_of_iff (call.combination = .unsupported) Call.isUnsupported_iff.symm

/-- The calls that do not fail, in order. -/
def Call.supported (calls : List Call) : List Call :=
  calls.filter fun call => ¬ call.IsUnsupported

/-- The tally after `n` more calls that failed. -/
def Tally.addFailures (t : Tally) (n : UInt64) : Tally :=
  { t with typeErrors := t.typeErrors + n, slow := t.slow + n }

theorem Call.length_supported_add_countP (calls : List Call) :
    (Call.supported calls).length + calls.countP (·.IsUnsupported) = calls.length := by
  have hsplit := List.length_eq_countP_add_countP (fun call : Call => call.IsUnsupported)
    (l := calls)
  rw [supported, ← List.countP_eq_length_filter]
  simp only [decide_eq_true_eq] at hsplit
  omega

namespace Site

/-- The site after `n` more calls that failed. -/
def withFailures (s : Site) (n : UInt64) : Site :=
  { s with tally := s.tally.addFailures n }

variable {s : Site}

theorem eval_of_isUnsupported (hs : s.status.Sound) {l r : Value}
    (hunsupported : Call.IsUnsupported (l, r)) :
    s.eval l r =
      { outcome := .error (s.typeError l r)
        site := s.withFailures 1
        events := [.unsupported s.id l.kind r.kind] } := by
  have hcomb := Call.isUnsupported_iff.1 hunsupported
  have hcommitted := (Status.committed?_eq_none_iff hs).2 (.inr (.inr hcomb))
  rw [eval, hcommitted]
  exact evalSlow_of_dispatch_none ((dispatch_eq_none_iff _).2 hcomb)

/-! ## Later calls -/

theorem record_withFailures (s : Site) (n : UInt64) (path : Path) :
    (s.withFailures n).record path = (s.record path).withFailures n := by
  cases path with
  | typeError =>
    simp only [record, withFailures, Tally.record, Tally.addFailures, UInt64.add_assoc,
      UInt64.add_comm n]
  | integer | bigNumber | text => rfl

theorem recordSlow_withFailures (s : Site) (n : UInt64) :
    (s.withFailures n).recordSlow = s.recordSlow.withFailures n := by
  simp only [recordSlow, withFailures, Tally.recordSlow, Tally.addFailures, UInt64.add_assoc,
    UInt64.add_comm n]

theorem widen_withFailures (s : Site) (n : UInt64) (matched : Specialization) (exclude : Bool) :
    (s.withFailures n).widen matched exclude =
      ((s.widen matched exclude).1.withFailures n, (s.widen matched exclude).2) := by
  by_cases hsame : s.status.widened matched exclude = s.status
  · rw [widen_of_eq hsame, widen_of_eq (s := s.withFailures n) hsame]
  · rw [widen_of_ne hsame, widen_of_ne (s := s.withFailures n) hsame]
    rfl

/-- No call looks at the failures before it. -/
theorem eval_withFailures (s : Site) (n : UInt64) (l r : Value) :
    (s.withFailures n).eval l r =
      { s.eval l r with site := (s.eval l r).site.withFailures n } := by
  have hstatus : (s.withFailures n).status = s.status := rfl
  cases hcommitted : s.status.committed? l r with
  | some answer =>
    simp only [eval, hstatus, hcommitted, record_withFailures]
  | none =>
    simp only [eval, hstatus, hcommitted]
    cases hdispatch : dispatch s.status.integerExcluded l r with
    | some answer =>
      rw [evalSlow_of_dispatch hdispatch, evalSlow_of_dispatch (s := s.withFailures n) hdispatch,
        recordSlow_withFailures, widen_withFailures, record_withFailures]
    | none =>
      rw [evalSlow_of_dispatch_none hdispatch,
        evalSlow_of_dispatch_none (s := s.withFailures n) hdispatch, recordSlow_withFailures,
        record_withFailures]
      rfl

theorem run_withFailures (s : Site) (n : UInt64) (calls : List Call) :
    (s.withFailures n).run calls = (s.run calls).withFailures n := by
  induction calls generalizing s with
  | nil => rfl
  | cons call calls ih =>
    rw [run_cons _ call.1 call.2, eval_withFailures, ih]
    rfl

theorem withFailures_zero (s : Site) : s.withFailures 0 = s := by
  simp [withFailures, Tally.addFailures]

theorem withFailures_withFailures (s : Site) (m n : UInt64) :
    (s.withFailures m).withFailures n = s.withFailures (m + n) := by
  simp [withFailures, Tally.addFailures, UInt64.add_assoc]

/-- A run comes to the run of its supported calls, with the others counted as failures. -/
theorem run_eq_withFailures (hs : s.status.Sound) (calls : List Call) :
    s.run calls =
      (s.run (Call.supported calls)).withFailures
        (UInt64.ofNat (calls.countP (·.IsUnsupported))) := by
  induction calls generalizing s with
  | nil => exact (withFailures_zero s).symm
  | cons call calls ih =>
    have hrest := ih (sound_eval hs call.1 call.2)
    by_cases hunsupported : call.IsUnsupported
    · have hsite : (s.eval call.1 call.2).site = s.withFailures 1 := by
        rw [eval_of_isUnsupported hs hunsupported]
      have hsupported : Call.supported (call :: calls) = Call.supported calls := by
        simp [Call.supported, hunsupported]
      have hcount : (call :: calls).countP (·.IsUnsupported) =
          calls.countP (·.IsUnsupported) + 1 := by
        simp [hunsupported]
      rw [run_cons s call.1 call.2, hsite, run_withFailures, ih hs, withFailures_withFailures,
        hsupported, hcount, UInt64.ofNat_add]
      rfl
    · have hsupported : Call.supported (call :: calls) = call :: Call.supported calls := by
        simp [Call.supported, hunsupported]
      have hcount : (call :: calls).countP (·.IsUnsupported) =
          calls.countP (·.IsUnsupported) := by
        simp [hunsupported]
      rw [run_cons s call.1 call.2, hrest, hsupported, run_cons s call.1 call.2, hcount]

/-- What the calls that fail come to, at a site with `calls` behind it.

A call fails exactly when its operands cannot be added.  It is then counted as an error and as a
call that tried every path, reported once under the name of the site and with the kinds of its
operands, and leaves everything else as it is.

Without the failures among `calls` the site has the same status, every call that does not fail has
the same outcome there, changes the status in the same way and reports the same; and but for the
errors the counters are the same, less one call that tried every path for each failure.  Taken with
the calls before each call of a run, this compares the run with the one without its failures. -/
theorem failures_leave_no_trace (config : Config) (calls : List Call) (l r : Value) :
    let site := config.build.run calls
    let without := config.build.run (Call.supported calls)
    let evaluation := site.eval l r
    ((∃ e, evaluation.outcome = .error e) ↔ Call.IsUnsupported (l, r)) ∧
    (Call.IsUnsupported (l, r) →
      evaluation.site =
        { site with
          tally :=
            { site.tally with
              typeErrors := site.tally.typeErrors + 1
              slow := site.tally.slow + 1 } } ∧
      ∃ event, evaluation.events = [event] ∧ event.level = .trace ∧
        event.fields = [
          ("node", .text config.id.render),
          ("left", .text l.kind.name),
          ("right", .text r.kind.name)]) ∧
    (¬ Call.IsUnsupported (l, r) →
      evaluation.outcome = (without.eval l r).outcome ∧
      site.status = without.status ∧
      evaluation.site.status = (without.eval l r).site.status ∧
      evaluation.events = (without.eval l r).events) ∧
    site.tally.integer = without.tally.integer ∧
    site.tally.bigNumber = without.tally.bigNumber ∧
    site.tally.text = without.tally.text ∧
    site.tally.transitions = without.tally.transitions ∧
    (calls.length < UInt64.size →
      site.tally.slow.toNat = without.tally.slow.toNat + calls.countP (·.IsUnsupported)) := by
  intro site without evaluation
  have hnew : config.build.status.Sound := sound_build config
  have hs : site.status.Sound := sound_run hnew calls
  have hsite : site = without.withFailures (UInt64.ofNat (calls.countP (·.IsUnsupported))) :=
    run_eq_withFailures hnew calls
  have hevaluation : evaluation =
      { without.eval l r with
        site := (without.eval l r).site.withFailures
          (UInt64.ofNat (calls.countP (·.IsUnsupported))) } := by
    rw [← eval_withFailures, ← hsite]
  refine ⟨outcome_eval_eq_error_iff hs, ?_, ?_, ?_, ?_, ?_, ?_, ?_⟩
  · intro hunsupported
    have hid : site.id = config.id := congrArg Config.id (config_run config.build calls)
    rw [show evaluation = _ from eval_of_isUnsupported hs hunsupported]
    refine ⟨rfl, .unsupported site.id l.kind r.kind, rfl, rfl, ?_⟩
    rw [hid]
    rfl
  · intro _
    rw [hevaluation, hsite]
    exact ⟨rfl, rfl, rfl, rfl⟩
  · rw [hsite]
    rfl
  · rw [hsite]
    rfl
  · rw [hsite]
    rfl
  · rw [hsite]
    rfl
  · intro hlength
    have hslow : without.tally.slow.toNat ≤ 0 + (Call.supported calls).length :=
      slow_run_le config.build (Call.supported calls)
    have hsum := Call.length_supported_add_countP calls
    have hsize : UInt64.size = 0x10000000000000000 := rfl
    rw [hsite]
    simp only [withFailures, Tally.addFailures, UInt64.toNat_add, UInt64.toNat_ofNat']
    omega

end Site

end AdaptiveAdd
