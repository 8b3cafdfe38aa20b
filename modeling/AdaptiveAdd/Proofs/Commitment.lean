import AdaptiveAdd.Proofs.Combination

/-!
# Commitment saves time and nothing else

A committed site answers a call without trying every path.  This module proves
that the shortcut cannot be seen: apart from the number of calls that had to try
every path, `Site.eval` and `Site.evalSlow` come to the same.

There are four groups.

* The invariant.  `Status.Sound` says that the integer path is excluded only at
  sites that already expect unbounded sums.  It holds of a new site, and every
  call keeps it.  Without it a site could be committed to words and exclude them.
* The status machine.  `Status.learn` is the status after a call, as a function
  of the combination of the operands alone; `learn_of_dispatch` ties it to the
  widening that `dispatch` asks for.
* The shortcut.  `exists_dispatch_of_committed?` says that the committed path
  gives the answer that `dispatch` gives, and that the widening it leaves out
  would have changed nothing.  `evalSlow_eq` follows.
* One call and many calls.  `outcome_eval`, `status_eval`, `count_eval` and
  `events_eval` say what one call does at a sound site, and `status_run` what
  all calls of a run do to the status.  `eval_cases` puts together what a call
  does to the status and what it reports.
-/

namespace AdaptiveAdd

namespace Status

/-! ## The invariant -/

/-- The integer path is excluded only where sums of unbounded integers are expected. -/
def Sound (s : Status) : Prop :=
  s.integerExcluded = true → .bigNumber ≤ s.specialization

instance (s : Status) : Decidable s.Sound :=
  inferInstanceAs (Decidable (_ → _))

/-- The status after a call whose operands are of the combination. -/
def learn (s : Status) (combination : Combination) : Status :=
  s.widened combination.specialization (decide (combination = .overflow))

/-- A sound status that excludes the integer path expects unbounded integers or anything. -/
theorem Sound.eq_bigNumber_or_eq_generic {s : Status} (hs : s.Sound)
    (hexcluded : s.integerExcluded = true) :
    s.specialization = .bigNumber ∨ s.specialization = .generic := by
  have hle := hs hexcluded
  revert hle
  cases s.specialization <;> decide

theorem sound_learn {s : Status} (hs : s.Sound) (combination : Combination) :
    (s.learn combination).Sound := by
  obtain ⟨specialization, integerExcluded⟩ := s
  revert hs
  cases specialization <;> cases integerExcluded <;> cases combination <;> decide

/-! ## The status machine -/

/-- Operands that cannot be added teach nothing. -/
theorem learn_unsupported (s : Status) : s.learn .unsupported = s := by
  obtain ⟨specialization, integerExcluded⟩ := s
  cases specialization <;> cases integerExcluded <;> rfl

/-- What an answer asks a sound status to learn is what the combination of the operands says.  The
two differ in words where words are excluded: the answer is then an unbounded integer, which the
status expects already. -/
theorem learn_of_dispatch {s : Status} (hs : s.Sound) {l r : Value} {answer : Answer}
    (h : dispatch s.integerExcluded l r = some answer) :
    s.widened answer.matched answer.overflowed = s.learn (Call.combination (l, r)) := by
  cases l, r using Call.byCombination with
  | words a b w hsum hcomb =>
    rw [dispatch_words hsum] at h
    obtain ⟨specialization, integerExcluded⟩ := s
    rw [hcomb]
    cases integerExcluded with
    | false =>
      cases h
      rfl
    | true =>
      cases h
      rcases hs.eq_bigNumber_or_eq_generic rfl with hspec | hspec <;> cases hspec <;> rfl
  | overflow a b hfits hcomb =>
    rw [dispatch_overflow hfits] at h
    cases h
    rw [hcomb]
    obtain ⟨specialization, integerExcluded⟩ := s
    cases integerExcluded <;> rfl
  | unbounded l r m n hl hr hcomb =>
    rw [dispatch_unbounded hl hr hcomb] at h
    cases h
    rw [hcomb]
    rfl
  | text l r hcomb =>
    rw [dispatch_text hcomb] at h
    cases h
    rw [hcomb]
    rfl
  | unsupported l r hcomb =>
    rw [dispatch_unsupported hcomb] at h
    cases h

end Status

/-! ## The shortcut -/

/-- Where words are not excluded, a sum of words is the answer. -/
theorem dispatch_of_wordSum? {l r v : Value} (h : Value.wordSum? l r = some v) :
    dispatch false l r = some { path := .integer, value := v, matched := .integer } := by
  obtain ⟨a, b, w, rfl, rfl, hsum, rfl⟩ := Value.wordSum?_eq_some_iff.1 h
  exact dispatch_words hsum false

/-- Where words are excluded or the operands are not both words, an unbounded sum is the answer. -/
theorem dispatch_of_bigSum? {integerExcluded : Bool} {l r v : Value}
    (hwords : integerExcluded = true ∨ Value.words? l r = none) (h : Value.bigSum? l r = some v) :
    dispatch integerExcluded l r =
      some { path := .bigNumber, value := v, matched := .bigNumber } := by
  rcases hwords with rfl | hwords
  · simp [dispatch, h]
  · simp [dispatch, h, hwords]

/-- Texts that can be joined are the answer. -/
theorem dispatch_of_joined? {integerExcluded : Bool} {l r v : Value}
    (h : Value.joined? l r = some v) :
    dispatch integerExcluded l r = some { path := .text, value := v, matched := .text } := by
  obtain ⟨htext, rfl⟩ := Value.joined?_eq_some_iff.1 h
  exact dispatch_text (Call.hasText_iff.1 htext) integerExcluded

/-- The committed path gives the answer of `dispatch`, and the widening that it leaves out would
have changed nothing. -/
theorem exists_dispatch_of_committed? {s : Status} (hs : s.Sound) {l r value : Value} {path : Path}
    (h : s.committed? l r = some (path, value)) :
    ∃ answer, dispatch s.integerExcluded l r = some answer ∧ answer.path = path ∧
      answer.value = value ∧ s.widened answer.matched answer.overflowed = s := by
  obtain ⟨specialization, integerExcluded⟩ := s
  cases specialization with
  | uncommitted => cases h
  | generic => cases h
  | integer =>
    cases integerExcluded with
    | true => exact absurd hs (by decide)
    | false =>
      obtain ⟨v, hv, hpair⟩ := Option.map_eq_some_iff.1 h
      cases hpair
      exact ⟨_, dispatch_of_wordSum? hv, rfl, rfl, rfl⟩
  | bigNumber =>
    simp only [Status.committed?] at h
    split at h
    · rename_i hwords
      obtain ⟨v, hv, hpair⟩ := Option.map_eq_some_iff.1 h
      cases hpair
      cases integerExcluded with
      | true => simp at hwords
      | false => exact ⟨_, dispatch_of_wordSum? hv, rfl, rfl, rfl⟩
    · rename_i hwords
      obtain ⟨v, hv, hpair⟩ := Option.map_eq_some_iff.1 h
      cases hpair
      have hwords' : integerExcluded = true ∨ Value.words? l r = none := by
        cases integerExcluded <;> simp_all
      refine ⟨_, dispatch_of_bigSum? hwords' hv, rfl, rfl, ?_⟩
      cases integerExcluded <;> rfl
  | text =>
    obtain ⟨v, hv, hpair⟩ := Option.map_eq_some_iff.1 h
    cases hpair
    refine ⟨_, dispatch_of_joined? hv, rfl, rfl, ?_⟩
    cases integerExcluded <;> rfl

namespace Tally

/-- The number of calls answered by `path`. -/
def count (t : Tally) : Path → UInt64
  | .integer => t.integer
  | .bigNumber => t.bigNumber
  | .text => t.text
  | .typeError => t.typeErrors

theorem count_record (t : Tally) (path answered : Path) :
    (t.record answered).count path = t.count path + if path = answered then 1 else 0 := by
  cases path <;> cases answered <;> simp [count, record]

theorem record_recordSlow (t : Tally) (path : Path) :
    t.recordSlow.record path = (t.record path).recordSlow := by
  cases path <;> rfl

theorem transitions_record (t : Tally) (path : Path) :
    (t.record path).transitions = t.transitions := by
  cases path <;> rfl

end Tally

namespace Site

variable {s : Site} {l r : Value}

/-- A widening that changes nothing leaves no trace. -/
theorem widen_of_eq {matched : Specialization} {exclude : Bool}
    (h : s.status.widened matched exclude = s.status) : s.widen matched exclude = (s, []) := by
  unfold widen
  exact if_pos h

/-- A widening that changes the status counts and reports it. -/
theorem widen_of_ne {matched : Specialization} {exclude : Bool}
    (h : s.status.widened matched exclude ≠ s.status) :
    s.widen matched exclude =
      let status := s.status.widened matched exclude
      ({ s with status := status, tally := s.tally.recordTransition },
        [.specialized s.id s.status.specialization status.specialization
          status.integerExcluded]) := by
  unfold widen
  exact if_neg h

/-- A sound site that answers on its committed path would give the same answer after trying every
path, and would count one more such call. -/
theorem evalSlow_of_committed? (hs : s.status.Sound) {path : Path} {value : Value}
    (h : s.status.committed? l r = some (path, value)) :
    s.evalSlow l r =
      { outcome := .ok value, site := (s.record path).recordSlow, events := [] } := by
  obtain ⟨answer, hdispatch, rfl, rfl, hsame⟩ := exists_dispatch_of_committed? hs h
  have hwiden : s.recordSlow.widen answer.matched answer.overflowed = (s.recordSlow, []) :=
    widen_of_eq hsame
  simp only [evalSlow, recordSlow] at hwiden ⊢
  rw [hdispatch]
  simp only [hwiden, record, Tally.record_recordSlow]

/-- Trying every path, a sound site does what it does anyway, except that it may count one more
call that had to. -/
theorem evalSlow_eq (hs : s.status.Sound) (l r : Value) :
    s.evalSlow l r = s.eval l r ∨
      s.evalSlow l r = { s.eval l r with site := (s.eval l r).site.recordSlow } := by
  cases hcommitted : s.status.committed? l r with
  | none =>
    left
    simp only [eval, hcommitted]
  | some answer =>
    obtain ⟨path, value⟩ := answer
    right
    simp only [eval, hcommitted]
    exact evalSlow_of_committed? hs hcommitted

/-- What does not look at the number of calls that had to try every path is the same of a call that
tries them all. -/
theorem observe_evalSlow (hs : s.status.Sound) (l r : Value) {α : Type} (observe : Evaluation → α)
    (hobserve : ∀ e, observe { e with site := e.site.recordSlow } = observe e) :
    observe (s.evalSlow l r) = observe (s.eval l r) := by
  rcases evalSlow_eq hs l r with h | h
  · rw [h]
  · rw [h, hobserve]

/-! ## One widening -/

theorem status_widen (s : Site) (matched : Specialization) (exclude : Bool) :
    (s.widen matched exclude).1.status = s.status.widened matched exclude := by
  by_cases h : s.status.widened matched exclude = s.status
  · rw [widen_of_eq h, h]
  · rw [widen_of_ne h]

theorem count_widen (s : Site) (matched : Specialization) (exclude : Bool) (path : Path) :
    (s.widen matched exclude).1.tally.count path = s.tally.count path := by
  by_cases h : s.status.widened matched exclude = s.status
  · rw [widen_of_eq h]
  · rw [widen_of_ne h]
    cases path <;> rfl

theorem transitions_widen (s : Site) (matched : Specialization) (exclude : Bool) :
    (s.widen matched exclude).1.tally.transitions =
      s.tally.transitions + if s.status.widened matched exclude = s.status then 0 else 1 := by
  by_cases h : s.status.widened matched exclude = s.status
  · rw [widen_of_eq h, if_pos h, UInt64.add_zero]
  · rw [widen_of_ne h, if_neg h]
    rfl

/-! ## One call -/

theorem evalSlow_of_dispatch {answer : Answer}
    (h : dispatch s.status.integerExcluded l r = some answer) :
    s.evalSlow l r =
      { outcome := .ok answer.value
        site := (s.recordSlow.widen answer.matched answer.overflowed).1.record answer.path
        events := (s.recordSlow.widen answer.matched answer.overflowed).2 } := by
  simp only [evalSlow, recordSlow, h]

theorem evalSlow_of_dispatch_none (h : dispatch s.status.integerExcluded l r = none) :
    s.evalSlow l r =
      { outcome := .error (s.typeError l r)
        site := s.recordSlow.record .typeError
        events := [.unsupported s.id l.kind r.kind] } := by
  simp only [evalSlow, recordSlow, h]
  rfl

/-- The outcome of a call at a sound site is the answer of `dispatch`, or a type error where there
is none. -/
theorem outcome_eval (hs : s.status.Sound) (l r : Value) :
    (s.eval l r).outcome =
      (dispatch s.status.integerExcluded l r).elim (.error (s.typeError l r)) (.ok ·.value) := by
  have hslow := observe_evalSlow hs l r (·.outcome) fun _ => rfl
  rw [← hslow]
  cases h : dispatch s.status.integerExcluded l r with
  | none =>
    rw [evalSlow_of_dispatch_none h]
    rfl
  | some answer =>
    rw [evalSlow_of_dispatch h]
    rfl

/-- A call at a sound site widens the status to the combination of its operands. -/
theorem status_eval (hs : s.status.Sound) (l r : Value) :
    (s.eval l r).site.status = s.status.learn (Call.combination (l, r)) := by
  have hslow := observe_evalSlow hs l r (·.site.status) fun _ => rfl
  rw [← hslow]
  cases h : dispatch s.status.integerExcluded l r with
  | none =>
    have hcomb : Call.combination (l, r) = .unsupported := (dispatch_eq_none_iff _).1 h
    rw [evalSlow_of_dispatch_none h, hcomb, Status.learn_unsupported]
    rfl
  | some answer =>
    rw [evalSlow_of_dispatch h, ← Status.learn_of_dispatch hs h]
    exact status_widen s.recordSlow _ _

/-- A call at a sound site is counted once, for the path that answers the combination of its
operands. -/
theorem count_eval (hs : s.status.Sound) (l r : Value) (path : Path) :
    (s.eval l r).site.tally.count path =
      s.tally.count path +
        if path = (Call.combination (l, r)).path s.status.integerExcluded then 1 else 0 := by
  have hslow := observe_evalSlow hs l r (·.site.tally.count path) fun _ => by cases path <;> rfl
  rw [← hslow]
  cases h : dispatch s.status.integerExcluded l r with
  | none =>
    have hcomb : Call.combination (l, r) = .unsupported := (dispatch_eq_none_iff _).1 h
    rw [evalSlow_of_dispatch_none h, hcomb]
    simp only [record, Tally.count_record]
    cases path <;> rfl
  | some answer =>
    rw [evalSlow_of_dispatch h, ← path_of_dispatch h]
    simp only [record, Tally.count_record, count_widen]
    cases path <;> rfl

/-- What a call at a sound site reports: that it failed, or that it changed the status. -/
theorem events_eval (hs : s.status.Sound) (l r : Value) :
    (s.eval l r).events =
      let status := s.status.learn (Call.combination (l, r))
      if Call.combination (l, r) = .unsupported then [.unsupported s.id l.kind r.kind]
      else if status = s.status then []
      else [.specialized s.id s.status.specialization status.specialization
        status.integerExcluded] := by
  have hslow := observe_evalSlow hs l r (·.events) fun _ => rfl
  rw [← hslow]
  cases h : dispatch s.status.integerExcluded l r with
  | none =>
    rw [evalSlow_of_dispatch_none h]
    exact (if_pos ((dispatch_eq_none_iff _).1 h)).symm
  | some answer =>
    have hcomb : Call.combination (l, r) ≠ .unsupported := by
      rw [ne_eq, ← dispatch_eq_none_iff s.status.integerExcluded, h]
      exact Option.some_ne_none answer
    rw [evalSlow_of_dispatch h, ← Status.learn_of_dispatch hs h, if_neg hcomb]
    by_cases hsame : s.status.widened answer.matched answer.overflowed = s.status
    · rw [if_pos hsame]
      exact congrArg Prod.snd (widen_of_eq (s := s.recordSlow) hsame)
    · rw [if_neg hsame]
      exact congrArg Prod.snd (widen_of_ne (s := s.recordSlow) hsame)

/-- What a call at a sound site can do: it fails, or it leaves the status as it is, or it changes
the status.  It reports the first and the last of these. -/
theorem eval_cases (hs : s.status.Sound) (l r : Value) :
    (Call.combination (l, r) = .unsupported ∧ (s.eval l r).site.status = s.status ∧
      (s.eval l r).events = [.unsupported s.id l.kind r.kind]) ∨
    (Call.combination (l, r) ≠ .unsupported ∧ (s.eval l r).site.status = s.status ∧
      (s.eval l r).events = []) ∨
    (Call.combination (l, r) ≠ .unsupported ∧ (s.eval l r).site.status ≠ s.status ∧
      (s.eval l r).events =
        [.specialized s.id s.status.specialization (s.eval l r).site.status.specialization
          (s.eval l r).site.status.integerExcluded]) := by
  rw [events_eval hs, status_eval hs]
  by_cases hcomb : Call.combination (l, r) = .unsupported
  · have hsame : s.status.learn (Call.combination (l, r)) = s.status := by
      rw [hcomb, Status.learn_unsupported]
    exact .inl ⟨hcomb, hsame, if_pos hcomb⟩
  · dsimp only
    rw [if_neg hcomb]
    by_cases hsame : s.status.learn (Call.combination (l, r)) = s.status
    · exact .inr (.inl ⟨hcomb, hsame, if_pos hsame⟩)
    · exact .inr (.inr ⟨hcomb, hsame, if_neg hsame⟩)

/-- A call changes the status exactly where it reports a change. -/
theorem status_eval_ne_iff (hs : s.status.Sound) (l r : Value) :
    (s.eval l r).site.status ≠ s.status ↔ ∃ event ∈ (s.eval l r).events, event.level = .debug := by
  rcases eval_cases hs l r with ⟨-, hsame, hevents⟩ | ⟨-, hsame, hevents⟩ | ⟨-, hne, hevents⟩
  · simp [hsame, hevents, Event.level]
  · simp [hsame, hevents]
  · simp [hne, hevents, Event.level]

/-- A call at a sound site counts a transition when it changes the status. -/
theorem transitions_eval (hs : s.status.Sound) (l r : Value) :
    (s.eval l r).site.tally.transitions =
      s.tally.transitions +
        if s.status.learn (Call.combination (l, r)) = s.status then 0 else 1 := by
  have hslow := observe_evalSlow hs l r (·.site.tally.transitions) fun _ => rfl
  rw [← hslow]
  cases h : dispatch s.status.integerExcluded l r with
  | none =>
    have hcomb : Call.combination (l, r) = .unsupported := (dispatch_eq_none_iff _).1 h
    rw [evalSlow_of_dispatch_none h, hcomb, Status.learn_unsupported, if_pos rfl]
    exact (UInt64.add_zero s.tally.transitions).symm
  | some answer =>
    rw [evalSlow_of_dispatch h, ← Status.learn_of_dispatch hs h]
    simp only [record, Tally.transitions_record]
    exact transitions_widen s.recordSlow answer.matched answer.overflowed

/-! ## Many calls -/

theorem sound_build (config : Config) : config.build.status.Sound := by
  intro hexcluded
  cases hexcluded

theorem sound_eval (hs : s.status.Sound) (l r : Value) : (s.eval l r).site.status.Sound := by
  rw [status_eval hs]
  exact Status.sound_learn hs _

theorem sound_run (hs : s.status.Sound) (calls : List Call) : (s.run calls).status.Sound := by
  induction calls generalizing s with
  | nil => exact hs
  | cons call calls ih => exact ih (sound_eval hs call.1 call.2)

theorem config_run (s : Site) (calls : List Call) : (s.run calls).config = s.config := by
  induction calls generalizing s with
  | nil => rfl
  | cons call calls ih =>
    rw [run_cons s call.1 call.2, ih, config_eval]

/-- After a run at a sound site, the status is widened to the combinations of all calls, one after
the other. -/
theorem status_run (hs : s.status.Sound) (calls : List Call) :
    (s.run calls).status = (calls.map Call.combination).foldl Status.learn s.status := by
  induction calls generalizing s with
  | nil => rfl
  | cons call calls ih =>
    rw [run_cons s call.1 call.2, ih (sound_eval hs call.1 call.2), status_eval hs]
    rfl

/-- The integer path is excluded after a run exactly when it was before or some sum of words
overflowed. -/
theorem integerExcluded_run (hs : s.status.Sound) (calls : List Call) :
    (s.run calls).status.integerExcluded = true ↔
      s.status.integerExcluded = true ∨ ∃ call ∈ calls, call.Overflows := by
  have hover : (∃ call ∈ calls, call.Overflows) ↔
      ∃ call ∈ calls, decide (call.combination = .overflow) = true := by
    simp only [Call.overflows_iff, decide_eq_true_eq]
  rw [status_run hs, List.foldl_map, hover]
  exact Status.integerExcluded_foldl_widened
    (fun call : Call => call.combination.specialization)
    (fun call => decide (call.combination = .overflow)) s.status calls

/-- A run without an overflow leaves the flag as it is. -/
theorem integerExcluded_run_of_not (hs : s.status.Sound) {calls : List Call}
    (hover : ¬ ∃ call ∈ calls, call.Overflows) :
    (s.run calls).status.integerExcluded = s.status.integerExcluded := by
  rw [Bool.eq_iff_iff, integerExcluded_run hs]
  exact or_iff_left hover

/-- The integer path is excluded at a site exactly when some sum of words overflowed there. -/
theorem integerExcluded_run_build (config : Config) (calls : List Call) :
    (config.build.run calls).status.integerExcluded = true ↔
      ∃ call ∈ calls, call.Overflows := by
  rw [integerExcluded_run (sound_build config)]
  exact or_iff_right Bool.false_ne_true

end Site

end AdaptiveAdd
