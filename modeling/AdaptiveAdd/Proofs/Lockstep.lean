import AdaptiveAdd.Proofs.Agreement
import AdaptiveAdd.Proofs.Outcome

/-!
# Two sites in lockstep

Two sites that answer the same calls side by side, whatever either has learned
before.  Their specializations may differ at every step; what can be seen of them
depends on the flags alone.

* Flags that are equal stay equal, and the answers then have the same
  representation and are counted for the same path.
* Flags that differ become equal with the first sum of words that overflows.
  Until then the answers are equal as numbers, and differ in representation for
  words whose sum is a word, and for no other operands.

`lockstep` says both of sites with any calls behind them.
-/

namespace AdaptiveAdd.Site

variable {s t : Site}

/-- At sites with the same flag a call has outcomes of the same representation; with different
flags too, unless it stays in words. -/
theorem agree_eval (hs : s.status.Sound) (ht : t.status.Sound) {l r : Value}
    (h : s.status.integerExcluded = t.status.integerExcluded ∨ ¬ Call.StaysInWords (l, r)) :
    AgreeUpTo (· = ·) (s.eval l r).outcome (t.eval l r).outcome := by
  cases l, r using Call.byCombination with
  | words a b w hsum hcomb =>
    have hflag := h.resolve_right (not_not_intro (Call.staysInWords_iff.2 hcomb))
    rw [outcome_eval_words hs hsum, outcome_eval_words ht hsum, hflag]
    exact .ok rfl
  | overflow a b hfits hcomb =>
    have hbig : Call.NeedsBig (.int a, .int b) := Call.needsBig_iff.2 (.inl hcomb)
    rw [outcome_eval_of_needsBig hs rfl rfl hbig, outcome_eval_of_needsBig ht rfl rfl hbig]
    exact .ok rfl
  | unbounded l r m n hl hr hcomb =>
    have hbig : Call.NeedsBig (l, r) := Call.needsBig_iff.2 (.inr hcomb)
    rw [outcome_eval_of_needsBig hs hl hr hbig, outcome_eval_of_needsBig ht hl hr hbig]
    exact .ok rfl
  | text l r hcomb =>
    have htext := Call.hasText_iff.2 hcomb
    rw [outcome_eval_of_hasText hs htext, outcome_eval_of_hasText ht htext]
    exact .ok rfl
  | unsupported l r hcomb =>
    have hunsupported := Call.isUnsupported_iff.2 hcomb
    rw [outcome_eval_of_isUnsupported hs hunsupported,
      outcome_eval_of_isUnsupported ht hunsupported]
    exact .error (List.forall₂_eq_eq_eq ▸ rfl)

/-- At sites with different flags, words whose sum is a word have outcomes that are equal and of
different representations: the site that excludes the integer path has the unbounded integer. -/
theorem agree_eval_words (hs : s.status.Sound) (ht : t.status.Sound)
    (hflag : s.status.integerExcluded ≠ t.status.integerExcluded) {l r : Value}
    (hwords : Call.StaysInWords (l, r)) :
    AgreeUpTo (· ≈ ·) (s.eval l r).outcome (t.eval l r).outcome ∧
      ¬ AgreeUpTo (· = ·) (s.eval l r).outcome (t.eval l r).outcome ∧
      ∃ w : Int64,
        (s.eval l r).outcome = .ok (if s.status.integerExcluded then .big w.toInt else .int w) ∧
        (t.eval l r).outcome = .ok (if t.status.integerExcluded then .big w.toInt else .int w) := by
  obtain ⟨a, b, w, hcall, hsum⟩ := hwords.exists_sum
  cases hcall
  have hsout := outcome_eval_words hs hsum
  have htout := outcome_eval_words ht hsum
  refine ⟨?_, ?_, w, hsout, htout⟩ <;> rw [hsout, htout]
  · cases hsflag : s.status.integerExcluded <;> cases htflag : t.status.integerExcluded
    · exact .ok (Value.equiv_refl _)
    · exact .ok (Value.int_equiv_big w)
    · exact .ok (Value.big_equiv_int w)
    · exact .ok (Value.equiv_refl _)
  · cases hsflag : s.status.integerExcluded <;> cases htflag : t.status.integerExcluded
    · exact absurd (hsflag.trans htflag.symm) hflag
    · exact nofun
    · exact nofun
    · exact absurd (hsflag.trans htflag.symm) hflag

/-- How much a call at a sound site adds to the count of a path. -/
theorem count_eval_sub (hs : s.status.Sound) (l r : Value) (path : Path) :
    (s.eval l r).site.tally.count path - s.tally.count path =
      if path = (Call.combination (l, r)).path s.status.integerExcluded then 1 else 0 := by
  rw [count_eval hs, UInt64.add_comm, UInt64.add_sub_cancel]

/-- After the same calls at both sites the flags are equal exactly when they were before or some
sum of words overflowed. -/
theorem integerExcluded_run_eq_iff (hs : s.status.Sound) (ht : t.status.Sound)
    (calls : List Call) :
    (s.run calls).status.integerExcluded = (t.run calls).status.integerExcluded ↔
      s.status.integerExcluded = t.status.integerExcluded ∨ ∃ call ∈ calls, call.Overflows := by
  by_cases hover : ∃ call ∈ calls, call.Overflows
  · have hsrun := (integerExcluded_run hs calls).2 (.inr hover)
    have htrun := (integerExcluded_run ht calls).2 (.inr hover)
    exact iff_of_true (hsrun.trans htrun.symm) (.inr hover)
  · rw [integerExcluded_run_of_not hs hover, integerExcluded_run_of_not ht hover]
    exact (or_iff_left hover).symm

/-- Two sites, each with any calls behind it, answer `calls` and then `l + r`.

With equal flags at the start, the outcomes of `l + r` have the same representation, the flags are
equal after it, and it adds the same to the count of every path.  With different flags the outcomes
are equal; they differ in representation exactly when the call stays in words and no sum of words
has overflowed among `calls`, and then the site that excludes the integer path has the unbounded
integer.  Sites that are new when they answer `calls` agree in representation under any policies. -/
theorem lockstep (config config' : Config) (history history' calls : List Call) (l r : Value) :
    let s := config.build.run history
    let t := config'.build.run history'
    let a := (s.run calls).eval l r
    let b := (t.run calls).eval l r
    (s.status.integerExcluded = t.status.integerExcluded →
      AgreeUpTo (· = ·) a.outcome b.outcome ∧
      a.site.status.integerExcluded = b.site.status.integerExcluded ∧
      ∀ path, a.site.tally.count path - (s.run calls).tally.count path =
        b.site.tally.count path - (t.run calls).tally.count path) ∧
    (s.status.integerExcluded ≠ t.status.integerExcluded →
      AgreeUpTo (· ≈ ·) a.outcome b.outcome ∧
      (¬ AgreeUpTo (· = ·) a.outcome b.outcome ↔
        Call.StaysInWords (l, r) ∧ ¬ ∃ call ∈ calls, call.Overflows) ∧
      (¬ AgreeUpTo (· = ·) a.outcome b.outcome → ∃ w : Int64,
        a.outcome = .ok (if s.status.integerExcluded then .big w.toInt else .int w) ∧
        b.outcome = .ok (if t.status.integerExcluded then .big w.toInt else .int w))) ∧
    AgreeUpTo (· = ·) ((config.build.run calls).eval l r).outcome
      ((config'.build.run calls).eval l r).outcome := by
  intro s t a b
  have hs : s.status.Sound := sound_run (sound_build config) history
  have ht : t.status.Sound := sound_run (sound_build config') history'
  have hs' : (s.run calls).status.Sound := sound_run hs calls
  have ht' : (t.run calls).status.Sound := sound_run ht calls
  have hflag := integerExcluded_run_eq_iff hs ht calls
  refine ⟨fun hequal => ?_, fun hdiffer => ?_, ?_⟩
  · have hrun := hflag.2 (.inl hequal)
    refine ⟨agree_eval hs' ht' (.inl hrun), ?_, fun path => ?_⟩
    · rw [status_eval hs', status_eval ht']
      simp only [Status.learn, Status.widened, hrun]
    · rw [count_eval_sub hs', count_eval_sub ht', hrun]
  · by_cases hwords : Call.StaysInWords (l, r) ∧ ¬ ∃ call ∈ calls, call.Overflows
    · have hsrun := integerExcluded_run_of_not hs hwords.2
      have htrun := integerExcluded_run_of_not ht hwords.2
      have hrun := fun h => (hflag.1 h).elim hdiffer hwords.2
      obtain ⟨hequiv, hne, hout⟩ := agree_eval_words hs' ht' hrun hwords.1
      rw [hsrun, htrun] at hout
      exact ⟨hequiv, iff_of_true hne hwords, fun _ => hout⟩
    · have hagree : AgreeUpTo (· = ·) a.outcome b.outcome := by
        apply agree_eval hs' ht'
        rw [hflag]
        by_cases hover : ∃ call ∈ calls, call.Overflows
        · exact .inl (.inr hover)
        · exact .inr fun h => hwords ⟨h, hover⟩
      refine ⟨hagree.equiv_of_eq, iff_of_false (not_not_intro hagree) hwords, ?_⟩
      exact fun hne => absurd hagree hne
  · have hnew := integerExcluded_run_eq_iff (sound_build config) (sound_build config') calls
    exact agree_eval (sound_run (sound_build config) calls) (sound_run (sound_build config') calls)
      (.inl (hnew.2 (.inl rfl)))

end AdaptiveAdd.Site
