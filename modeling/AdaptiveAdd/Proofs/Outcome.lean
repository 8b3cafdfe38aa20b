import AdaptiveAdd.Proofs.Commitment

/-!
# The outcome of a call

What a call at a sound site comes to, one lemma for each combination of its
operands.  Of all that a site remembers, only the flag is seen, and only where
two words have a word as their sum: a site that excludes the integer path
answers with the same integer as an unbounded one.

`outcome_eval_numbers` joins the two cases of numbers, and
`outcome_after_history` puts the lemmas together for a site with any calls
behind it.  The flag is then a question about those calls.
-/

namespace AdaptiveAdd.Site

variable {s : Site}

/-- Two words whose sum is a word. -/
theorem outcome_eval_words (hs : s.status.Sound) {a b w : Int64}
    (hsum : a.toInt + b.toInt = w.toInt) :
    (s.eval (.int a) (.int b)).outcome =
      .ok (if s.status.integerExcluded then .big w.toInt else .int w) := by
  rw [outcome_eval hs, dispatch_words hsum]
  cases s.status.integerExcluded <;> rfl

/-- Two numbers for which words are not enough. -/
theorem outcome_eval_of_needsBig (hs : s.status.Sound) {l r : Value} {m n : Int}
    (hl : l.toInt? = some m) (hr : r.toInt? = some n) (hbig : Call.NeedsBig (l, r)) :
    (s.eval l r).outcome = .ok (.big (m + n)) := by
  rw [outcome_eval hs]
  rcases Call.needsBig_iff.1 hbig with hcomb | hcomb
  · obtain ⟨a, b, hcall, hfits⟩ := Call.overflows_iff.2 hcomb
    cases hcall
    cases hl
    cases hr
    rw [dispatch_overflow hfits]
    rfl
  · rw [dispatch_unbounded hl hr hcomb]
    rfl

/-- A text and anything. -/
theorem outcome_eval_of_hasText (hs : s.status.Sound) {l r : Value}
    (htext : Call.HasText (l, r)) :
    (s.eval l r).outcome = .ok (.text (l.render ++ r.render)) := by
  rw [outcome_eval hs, dispatch_text (Call.hasText_iff.1 htext)]
  rfl

/-- Operands that cannot be added. -/
theorem outcome_eval_of_isUnsupported (hs : s.status.Sound) {l r : Value}
    (hunsupported : Call.IsUnsupported (l, r)) :
    (s.eval l r).outcome = .error (s.typeError l r) := by
  rw [outcome_eval hs, dispatch_unsupported (Call.isUnsupported_iff.1 hunsupported)]
  rfl

/-- A call fails exactly when its operands cannot be added, whatever the site has learned. -/
theorem outcome_eval_eq_error_iff (hs : s.status.Sound) {l r : Value} :
    (∃ e, (s.eval l r).outcome = .error e) ↔ Call.IsUnsupported (l, r) := by
  rw [outcome_eval hs, Call.isUnsupported_iff, ← dispatch_eq_none_iff s.status.integerExcluded]
  cases h : dispatch s.status.integerExcluded l r with
  | none => exact iff_of_true ⟨_, rfl⟩ rfl
  | some answer => exact iff_of_false nofun nofun

/-- The error of a call lists its operands, and names the site. -/
theorem eq_typeError_of_outcome_eval (hs : s.status.Sound) {l r : Value} {e : TypeError}
    (h : (s.eval l r).outcome = .error e) : Call.IsUnsupported (l, r) ∧ e = s.typeError l r := by
  have hunsupported := (outcome_eval_eq_error_iff hs).1 ⟨e, h⟩
  rw [outcome_eval_of_isUnsupported hs hunsupported] at h
  exact ⟨hunsupported, (Except.error.inj h).symm⟩

/-- Two numbers have their exact sum.  It is a word if both are words, the sum is one, and the site
does not exclude the integer path; else it is an unbounded integer. -/
theorem outcome_eval_numbers (hs : s.status.Sound) {l r : Value} {m n : Int}
    (hl : l.toInt? = some m) (hr : r.toInt? = some n) :
    ∃ sum, (s.eval l r).outcome = .ok sum ∧ sum.toInt? = some (m + n) ∧
      (sum.kind = .int ↔ l.kind = .int ∧ r.kind = .int ∧ Integer.Fits (m + n) ∧
        ¬ s.status.integerExcluded = true) ∧
      (sum.kind = .big ↔ ¬ (l.kind = .int ∧ r.kind = .int ∧ Integer.Fits (m + n) ∧
        ¬ s.status.integerExcluded = true)) := by
  rcases Call.isNumeric_iff.1 (Call.isNumeric_of_toInt? hl hr) with hcomb | hbig
  · obtain ⟨a, b, w, hcall, hsum⟩ := (Call.staysInWords_iff.2 hcomb).exists_sum
    cases hcall
    cases hl
    cases hr
    have hfits : Integer.Fits w.toInt := Integer.fits_toInt w
    refine ⟨_, outcome_eval_words hs hsum, ?_⟩
    cases s.status.integerExcluded <;> simp [Value.toInt?, Value.kind, hfits, hsum]
  · have hwords : ¬ (l.kind = .int ∧ r.kind = .int ∧ Integer.Fits (m + n) ∧
        ¬ s.status.integerExcluded = true) := by
      rintro ⟨hlint, hrint, hfits, -⟩
      rcases hbig.2 with hlbig | hrbig | ⟨a, b, hcall, hover⟩
      · simp [hlint] at hlbig
      · simp [hrint] at hrbig
      · cases hcall
        cases hl
        cases hr
        exact hover hfits
    have hkind : (Value.big (m + n)).kind ≠ .int := by simp [Value.kind]
    refine ⟨_, outcome_eval_of_needsBig hs hl hr hbig, rfl, ?_⟩
    exact ⟨iff_of_false hkind hwords, iff_of_true rfl hwords⟩

/-- The outcome of a call at a site that has answered any calls before.  Two numbers have their
exact sum: as a word if both are words, the sum is one, and no sum of words overflowed before;
else as an unbounded integer.  Otherwise a text and anything are joined, and everything else is an
error that shows the operands, and the site as its host described it. -/
theorem outcome_after_history (config : Config) (history : List Call) (l r : Value) :
    let overflowed := ∃ call ∈ history, call.Overflows
    let outcome := ((config.build.run history).eval l r).outcome
    (∀ m n, l.toInt? = some m → r.toInt? = some n →
      ∃ sum, outcome = .ok sum ∧ sum.toInt? = some (m + n) ∧
        (sum.kind = .int ↔
          l.kind = .int ∧ r.kind = .int ∧ Integer.Fits (m + n) ∧ ¬ overflowed) ∧
        (sum.kind = .big ↔
          ¬ (l.kind = .int ∧ r.kind = .int ∧ Integer.Fits (m + n) ∧ ¬ overflowed))) ∧
    (¬ Call.IsNumeric (l, r) → Call.HasText (l, r) →
      outcome = .ok (.text (l.render ++ r.render))) ∧
    (¬ Call.IsNumeric (l, r) → ¬ Call.HasText (l, r) →
      outcome = .error
        { operation := "+", site := config.id, position := config.position,
          operands := [l, r] }) := by
  intro overflowed outcome
  have hs : (config.build.run history).status.Sound := sound_run (sound_build config) history
  have hflag : (config.build.run history).status.integerExcluded = true ↔ overflowed :=
    integerExcluded_run_build config history
  refine ⟨?_, ?_, ?_⟩
  · intro m n hl hr
    rw [← hflag]
    exact outcome_eval_numbers hs hl hr
  · intro _ htext
    exact outcome_eval_of_hasText hs htext
  · intro hnumeric htext
    have hconfig : (config.build.run history).config = config := config_run config.build history
    have hid : (config.build.run history).id = config.id := congrArg Config.id hconfig
    have hposition : (config.build.run history).position = config.position :=
      congrArg Config.position hconfig
    show ((config.build.run history).eval l r).outcome = _
    rw [outcome_eval_of_isUnsupported hs (Call.isUnsupported_of_not hnumeric htext), typeError, hid,
      hposition]
    rfl

/-- After an overflow, small words have an unbounded sum too. -/
example : (((Config.build {}).run [(.int Int64.maxValue, .int 1)]).eval (.int 1) (.int 2)).outcome =
    .ok (.big 3) :=
  rfl

end AdaptiveAdd.Site
