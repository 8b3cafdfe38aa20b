import AdaptiveAdd.Proofs.Ascent

/-!
# Calls that try every path

What commitment saves.  A site that is not generic tries every path only in calls
that it cannot avoid it in: those that change its status, of which there are few,
and those that fail.

* One call.  `Status.committed?_eq_none_iff` says when the committed path does
  not answer.
* Many calls.  `Tally.unexplained` counts the calls that tried every path
  without a change of the status and without a failure.  A call at a site that
  is not generic leaves it alone (`unexplained_eval`), and so does a run that
  does not end at a generic site (`unexplained_run`).  At a generic site every
  call tries every path (`slow_run_of_generic`).
* New sites.  The kinds of call bound the number of transitions
  (`transitions_run_of_not_hasText`, `transitions_run_of_not_isNumeric`).
-/

namespace AdaptiveAdd

/-! ## One call -/

namespace Specialization

theorem eq_integer_or_eq_bigNumber {a : Specialization} (hle : integer ≤ a) (hne : a ≠ generic) :
    a = integer ∨ a = bigNumber := by
  revert hle hne
  cases a <;> decide

theorem eq_bigNumber_of_le {a : Specialization} (hle : bigNumber ≤ a) (hne : a ≠ generic) :
    a = bigNumber := by
  revert hle hne
  cases a <;> decide

theorem eq_text_of_le {a : Specialization} (hle : text ≤ a) (hne : a ≠ generic) : a = text := by
  revert hle hne
  cases a <;> decide

end Specialization

namespace Status

variable {s : Status} {l r : Value}

/-- The committed path answers every call that it is fit for and that there is nothing to learn
from. -/
theorem committed?_ne_none (hgeneric : s.specialization ≠ .generic)
    (hlearn : s.learn (Call.combination (l, r)) = s)
    (hsupported : Call.combination (l, r) ≠ .unsupported) : s.committed? l r ≠ none := by
  obtain ⟨hle, hflag⟩ := learn_eq_self_iff.1 hlearn
  cases l, r using Call.byCombination with
  | words a b w hsum hcomb =>
    have hword : Value.wordSum? (.int a) (.int b) = some (.int w) :=
      Value.wordSum?_eq_some_iff.2 ⟨a, b, w, rfl, rfl, hsum, rfl⟩
    have hbig : Value.bigSum? (.int a) (.int b) = some (.big (a.toInt + b.toInt)) := rfl
    rw [hcomb] at hle
    rcases Specialization.eq_integer_or_eq_bigNumber hle hgeneric with hspec | hspec
    · simp [committed?, hspec, hword]
    · cases hexcluded : s.integerExcluded <;>
        simp [committed?, hspec, hexcluded, Value.words?, hword, hbig]
  | overflow a b hfits hcomb =>
    have hbig : Value.bigSum? (.int a) (.int b) = some (.big (a.toInt + b.toInt)) := rfl
    rw [hcomb] at hle
    have hspec := Specialization.eq_bigNumber_of_le hle hgeneric
    simp [committed?, hspec, hflag hcomb, hbig]
  | unbounded l r m n hl hr hcomb =>
    have hbig : Value.bigSum? l r = some (.big (m + n)) :=
      Value.bigSum?_eq_some_iff.2 ⟨m, n, hl, hr, rfl⟩
    rw [hcomb] at hle
    have hspec := Specialization.eq_bigNumber_of_le hle hgeneric
    simp [committed?, hspec, Call.words?_eq_none_of_unbounded hcomb, hbig]
  | text l r hcomb =>
    have hjoined : Value.joined? l r = some (.text (l.render ++ r.render)) :=
      Value.joined?_eq_some_iff.2 ⟨Call.hasText_iff.2 hcomb, rfl⟩
    rw [hcomb] at hle
    have hspec := Specialization.eq_text_of_le hle hgeneric
    simp [committed?, hspec, hjoined]
  | unsupported l r hcomb => exact absurd hcomb hsupported

/-- The committed path leaves a call to the others exactly at a generic status, or where there is
something to learn from the call, or where it fails. -/
theorem committed?_eq_none_iff (hs : s.Sound) :
    s.committed? l r = none ↔
      s.specialization = .generic ∨ s.learn (Call.combination (l, r)) ≠ s ∨
        Call.combination (l, r) = .unsupported := by
  constructor
  · intro hnone
    by_contra hnot
    obtain ⟨hgeneric, hrest⟩ := not_or.1 hnot
    obtain ⟨hlearn, hsupported⟩ := not_or.1 hrest
    exact committed?_ne_none hgeneric (not_not.1 hlearn) hsupported hnone
  · intro h
    rw [Option.eq_none_iff_forall_ne_some]
    rintro ⟨path, value⟩ hsome
    obtain ⟨answer, hdispatch, -, -, hsame⟩ := exists_dispatch_of_committed? hs hsome
    rw [learn_of_dispatch hs hdispatch] at hsame
    rcases h with hgeneric | hlearn | hunsupported
    · simp [committed?, hgeneric] at hsome
    · exact hlearn hsame
    · rw [(dispatch_eq_none_iff _).2 hunsupported] at hdispatch
      cases hdispatch

end Status

/-- The calls that tried every path although they neither changed the status nor failed. -/
def Tally.unexplained (t : Tally) : UInt64 :=
  t.slow - (t.transitions + t.typeErrors)

namespace Site

variable {s : Site}

/-- A call tries every path exactly at a generic site, or where it changes the status, or where it
fails. -/
theorem slow_eval_eq_add_one_iff (hs : s.status.Sound) (l r : Value) :
    (s.eval l r).site.tally.slow = s.tally.slow + 1 ↔
      s.status.specialization = .generic ∨ (s.eval l r).site.status ≠ s.status ∨
        Call.IsUnsupported (l, r) := by
  rw [Call.isUnsupported_iff, status_eval hs, ← Status.committed?_eq_none_iff hs, slow_eval]
  split
  · rename_i hnone
    exact iff_of_true rfl hnone
  · rename_i hsome
    refine iff_of_false ?_ hsome
    grind

/-- A call changes the status exactly where it counts a transition. -/
theorem transitions_eval_eq_add_one_iff (hs : s.status.Sound) (l r : Value) :
    (s.eval l r).site.status ≠ s.status ↔
      (s.eval l r).site.tally.transitions = s.tally.transitions + 1 := by
  rw [transitions_eval hs, ← status_eval hs]
  split
  · rename_i hsame
    refine iff_of_false (not_not_intro hsame) ?_
    grind
  · rename_i hne
    exact iff_of_true hne rfl

/-- A call that fails changes no status. -/
theorem status_eval_of_isUnsupported (hs : s.status.Sound) {l r : Value}
    (hunsupported : Call.IsUnsupported (l, r)) : (s.eval l r).site.status = s.status := by
  rw [status_eval hs, Call.isUnsupported_iff.1 hunsupported, Status.learn_unsupported]

/-- At a site that is not generic, a call that tries every path changes the status or fails, and
never does both. -/
theorem unexplained_eval (hs : s.status.Sound) (hgeneric : s.status.specialization ≠ .generic)
    (l r : Value) : (s.eval l r).site.tally.unexplained = s.tally.unexplained := by
  simp only [Tally.unexplained]
  rw [slow_eval, transitions_eval hs, typeErrors_eval hs]
  simp only [Status.committed?_eq_none_iff hs, hgeneric, false_or]
  by_cases hunsupported : Call.combination (l, r) = .unsupported
  · simp only [hunsupported, Status.learn_unsupported, or_true, if_true]
    grind
  · by_cases hlearn : s.status.learn (Call.combination (l, r)) = s.status
    · simp only [hunsupported, hlearn, ne_eq, not_true_eq_false, or_self, if_false, if_true]
      grind
    · simp only [hunsupported, hlearn, ne_eq, not_false_eq_true, or_false, if_false, if_true]
      grind

/-! ## Many calls -/

/-- No run makes a generic site less general. -/
theorem specialization_le_run (hs : s.status.Sound) (calls : List Call) :
    s.status.specialization ≤ (s.run calls).status.specialization :=
  ((specialization_run_le_iff hs calls).1 (Specialization.le_refl _)).1

/-- In a run that does not end at a generic site, the calls that try every path are those that
change the status and those that fail. -/
theorem unexplained_run (hs : s.status.Sound) {calls : List Call}
    (hgeneric : (s.run calls).status.specialization ≠ .generic) :
    (s.run calls).tally.unexplained = s.tally.unexplained := by
  induction calls generalizing s with
  | nil => rfl
  | cons call calls ih =>
    have hstart : s.status.specialization ≠ .generic := by
      intro h
      have hle := specialization_le_run hs (call :: calls)
      rw [h] at hle
      exact hgeneric (Specialization.eq_generic_of_le hle)
    rw [run_cons s call.1 call.2] at hgeneric ⊢
    rw [ih (sound_eval hs call.1 call.2) hgeneric, unexplained_eval hs hstart]

/-- Every call at a generic site tries every path. -/
theorem slow_run_of_generic (hs : s.status.Sound) (hgeneric : s.status.specialization = .generic)
    (calls : List Call) :
    (s.run calls).tally.slow = s.tally.slow + UInt64.ofNat calls.length := by
  induction calls generalizing s with
  | nil => exact (UInt64.add_zero _).symm
  | cons call calls ih =>
    have hslow := (slow_eval_eq_add_one_iff hs call.1 call.2).2 (.inl hgeneric)
    have hle := specialization_le_run hs [call]
    rw [hgeneric] at hle
    rw [run_cons s call.1 call.2,
      ih (sound_eval hs call.1 call.2) (Specialization.eq_generic_of_le hle), hslow,
      List.length_cons, UInt64.ofNat_add, UInt64.add_assoc, UInt64.add_comm (UInt64.ofNat _)]
    rfl

/-! ## A new site -/

variable {config : Config} (calls : List Call)

/-- An adaptive site that has not met both texts and pairs of numbers is not generic. -/
theorem specialization_run_ne_generic (hpolicy : config.policy = .adaptive) {calls : List Call}
    (hkinds : ¬ ((∃ call ∈ calls, call.HasText) ∧ ∃ call ∈ calls, call.IsNumeric)) :
    (config.build.run calls).status.specialization ≠ .generic := by
  intro hgeneric
  exact hkinds ((specialization_run_adaptive hpolicy calls).1.1 hgeneric)

/-- At a site that is not generic, the calls that tried every path are those that changed the status
and those that failed. -/
theorem slow_run_of_ne_generic
    (hgeneric : (config.build.run calls).status.specialization ≠ .generic) :
    (config.build.run calls).tally.slow =
      (config.build.run calls).tally.transitions + (config.build.run calls).tally.typeErrors := by
  have hrun := unexplained_run (sound_build config) hgeneric
  have hnew : config.build.tally.unexplained = 0 := by simp [Tally.unexplained, Config.build]
  rw [hnew, Tally.unexplained] at hrun
  grind

/-- A new site has no more transitions than its status has ranks. -/
theorem transitions_run_le_rank (config : Config) (calls : List Call) :
    (config.build.run calls).tally.transitions.toNat ≤ (config.build.run calls).status.rank := by
  have hlength := length_changes_add_height_le config calls
  rw [toNat_transitions_run_build]
  omega

/-- Without a text there are two specializations to reach, and the flag. -/
theorem transitions_run_of_not_hasText (hpolicy : config.policy = .adaptive)
    (htext : ∀ call ∈ calls, ¬ call.HasText) :
    (config.build.run calls).tally.transitions.toNat ≤ 3 := by
  have hle : (config.build.run calls).status.specialization ≤ .bigNumber :=
    (specialization_run_build_le_iff hpolicy calls .bigNumber).2 fun call hmem =>
      Call.specialization_le_bigNumber_iff.2 (htext call hmem)
  have hheight := Specialization.height_le_of_le hle
  have hflag := (config.build.run calls).status.integerExcluded.toNat_le
  have hrank := transitions_run_le_rank config calls
  simp only [Status.rank, Specialization.height] at hrank hheight
  omega

/-- Without a pair of numbers there is one specialization to reach. -/
theorem transitions_run_of_not_isNumeric (hpolicy : config.policy = .adaptive)
    (hnumeric : ∀ call ∈ calls, ¬ call.IsNumeric) :
    (config.build.run calls).tally.transitions.toNat ≤ 1 := by
  have hle : (config.build.run calls).status.specialization ≤ .text :=
    (specialization_run_build_le_iff hpolicy calls .text).2 fun call hmem =>
      Call.specialization_le_text_iff.2 (hnumeric call hmem)
  have hflag : (config.build.run calls).status.integerExcluded = false := by
    rw [Bool.eq_false_iff, ne_eq, integerExcluded_run_build]
    rintro ⟨call, hmem, hover⟩
    exact hnumeric call hmem hover.isNumeric
  have hheight := Specialization.height_le_of_le hle
  have hrank := transitions_run_le_rank config calls
  simp only [Status.rank, Specialization.height, hflag, Bool.toNat_false] at hrank hheight
  omega

/-- Which calls at a site with `calls` behind it try every path.

A call `l + r` counts once or not at all as one that tried every path.  It does so exactly at a
generic site, or where it changes the status, which it reports and counts, or where it fails; and
unless the site is generic, it does not both change the status and fail.

At an adaptive site that has not met both texts and pairs of numbers, the calls that tried every
path are therefore as many as the transitions and the errors together, as long as a word can hold
the number of calls.  However many there are, they come to three transitions at most if only pairs
of numbers succeed, and to one at most if only calls with a text do.  At a generic site every call
tries every path. -/
theorem slow_calls_after_run (config : Config) (calls : List Call) (l r : Value) :
    let site := config.build.run calls
    let evaluation := site.eval l r
    let changed := evaluation.site.status ≠ site.status
    let failed := ∃ e, evaluation.outcome = .error e
    (evaluation.site.tally.slow = site.tally.slow ∨
      evaluation.site.tally.slow = site.tally.slow + 1) ∧
    (evaluation.site.tally.slow = site.tally.slow + 1 ↔
      site.status.specialization = .generic ∨ changed ∨ failed) ∧
    (changed ↔ ∃ event ∈ evaluation.events, event.level = .debug) ∧
    (changed ↔ evaluation.site.tally.transitions = site.tally.transitions + 1) ∧
    (failed ↔ Call.IsUnsupported (l, r)) ∧
    (site.status.specialization ≠ .generic → ¬ (changed ∧ failed)) ∧
    (config.policy = .adaptive →
      ¬ ((∃ call ∈ calls, call.HasText) ∧ ∃ call ∈ calls, call.IsNumeric) →
      calls.length < UInt64.size →
      site.tally.slow.toNat = site.tally.transitions.toNat + site.tally.typeErrors.toNat) ∧
    (config.policy = .adaptive → (∀ call ∈ calls, call.IsNumeric ∨ call.IsUnsupported) →
      site.tally.transitions.toNat ≤ 3) ∧
    (config.policy = .adaptive → (∀ call ∈ calls, call.HasText ∨ call.IsUnsupported) →
      site.tally.transitions.toNat ≤ 1) ∧
    (config.policy = .generic → calls.length < UInt64.size →
      site.tally.slow.toNat = calls.length) := by
  intro site evaluation changed failed
  have hnew : config.build.status.Sound := sound_build config
  have hs : site.status.Sound := sound_run hnew calls
  have hfailed : failed ↔ Call.IsUnsupported (l, r) := outcome_eval_eq_error_iff hs
  refine ⟨?_, ?_, ?_, ?_, hfailed, ?_, ?_, ?_, ?_, ?_⟩
  · rw [show evaluation.site.tally.slow = _ from slow_eval site l r]
    split
    · exact .inr rfl
    · exact .inl (UInt64.add_zero _)
  · rw [hfailed]
    exact slow_eval_eq_add_one_iff hs l r
  · exact status_eval_ne_iff hs l r
  · exact transitions_eval_eq_add_one_iff hs l r
  · rintro _ ⟨hchanged, hfails⟩
    exact hchanged (status_eval_of_isUnsupported hs (hfailed.1 hfails))
  · intro hpolicy hkinds hlength
    have hle := transitions_add_typeErrors_le config calls
    rw [slow_run_of_ne_generic calls (specialization_run_ne_generic hpolicy hkinds),
      UInt64.toNat_add, Nat.mod_eq_of_lt (Nat.lt_of_le_of_lt hle hlength)]
  · intro hpolicy hkinds
    refine transitions_run_of_not_hasText calls hpolicy fun call hmem => ?_
    rcases hkinds call hmem with hnumeric | hunsupported
    · exact hnumeric.not_hasText
    · exact hunsupported.1
  · intro hpolicy hkinds
    refine transitions_run_of_not_isNumeric calls hpolicy fun call hmem => ?_
    rcases hkinds call hmem with htext | hunsupported
    · exact fun hnumeric => hnumeric.not_hasText htext
    · exact hunsupported.not_isNumeric
  · intro hpolicy hlength
    have hgeneric : config.build.status.specialization = .generic := by
      rw [specialization_build, hpolicy]
      rfl
    have hslow := (slow_run_of_generic hnew hgeneric calls).trans (UInt64.zero_add _)
    rw [show site.tally.slow = _ from hslow, UInt64.toNat_ofNat_of_lt' hlength]

end Site

end AdaptiveAdd
