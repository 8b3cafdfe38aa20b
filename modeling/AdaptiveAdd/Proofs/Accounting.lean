import AdaptiveAdd.Proofs.Outcome

/-!
# Every call is accounted for

The counters of a site against what its callers see: the kinds of the results,
and the events in the log.  Counters are words, so all of this is modulo the
size of words; a run of fewer calls than that is counted exactly.

* One call.  It adds one to the counter of the kind of its result
  (`kind?_eval`), it is in the log as a failure or as a change of the status and
  never as both (`countP_trace_eval`, `countP_debug_eval`,
  `length_events_eval_le`), and it may count as one that tried every path
  (`slow_eval`).
* Many calls.  `counter_run` turns what a call adds to a counter into what a run
  adds, and `forall_mem_trace` carries what holds of every call to a trace.
* The number of evaluations.  A saturating sum is the true sum up to the largest
  word (`Tally.toNat_evaluations`), in whatever order it is taken
  (`Tally.foldl_saturatingAdd_of_perm`).
-/

namespace AdaptiveAdd

/-- The kind of the result of an evaluation, if it has one. -/
def Evaluation.kind? (e : Evaluation) : Option Kind :=
  e.outcome.toOption.map Value.kind

/-- The kind of the results of a path, if it has any. -/
def Path.kind? : Path → Option Kind
  | .integer => some .int
  | .bigNumber => some .big
  | .text => some .text
  | .typeError => none

theorem Path.kind?_injective : Function.Injective Path.kind? := by
  intro p q
  cases p <;> cases q <;> simp [kind?]

/-- Exactly the calls that cannot be answered are counted as errors. -/
theorem Combination.path_eq_typeError_iff {integerExcluded : Bool} {c : Combination} :
    Path.typeError = c.path integerExcluded ↔ c = .unsupported := by
  cases c <;> cases integerExcluded <;> decide

/-- A list that holds only the kinds of results is as long as the four counts together. -/
theorem count_kinds {kinds : List (Option Kind)} (h : some .foreign ∉ kinds) :
    kinds.count (some .int) + kinds.count (some .big) + kinds.count (some .text) +
      kinds.count none = kinds.length := by
  induction kinds with
  | nil => rfl
  | cons kind kinds ih =>
    have hkind : some .foreign ≠ kind := List.ne_of_not_mem_cons h
    have hrest := ih (List.not_mem_of_not_mem_cons h)
    rw [List.length_cons, ← hrest]
    rcases kind with _ | kind
    · simp
      omega
    · cases kind with
      | foreign => exact absurd rfl hkind
      | int | big | text => simp; omega

/-- No event is both a failure and a change. -/
theorem countP_trace_add_countP_debug_le (events : List Event) :
    events.countP (·.level = .trace) + events.countP (·.level = .debug) ≤ events.length := by
  rw [List.length_eq_countP_add_countP (·.level = .trace)]
  refine Nat.add_le_add_left (List.countP_mono_left fun event _ hdebug => ?_) _
  simp only [decide_eq_true_eq] at hdebug ⊢
  rw [hdebug]
  exact nofun

namespace Site

/-- The events of the calls, in order. -/
def log (s : Site) (calls : List Call) : List Event :=
  (s.trace calls).flatMap Evaluation.events

variable {s : Site}

/-! ## One call -/

/-- The kind of the result is the one of the path that the call is counted for. -/
theorem kind?_eval (hs : s.status.Sound) (l r : Value) :
    (s.eval l r).kind? = ((Call.combination (l, r)).path s.status.integerExcluded).kind? := by
  cases l, r using Call.byCombination with
  | words a b w hsum hcomb =>
    rw [hcomb, Evaluation.kind?, outcome_eval_words hs hsum]
    cases s.status.integerExcluded <;> rfl
  | overflow a b hfits hcomb =>
    rw [hcomb, Evaluation.kind?,
      outcome_eval_of_needsBig hs rfl rfl (Call.needsBig_iff.2 (.inl hcomb))]
    rfl
  | unbounded l r m n hl hr hcomb =>
    rw [hcomb, Evaluation.kind?,
      outcome_eval_of_needsBig hs hl hr (Call.needsBig_iff.2 (.inr hcomb))]
    rfl
  | text l r hcomb =>
    rw [hcomb, Evaluation.kind?, outcome_eval_of_hasText hs (Call.hasText_iff.2 hcomb)]
    rfl
  | unsupported l r hcomb =>
    rw [hcomb, Evaluation.kind?, outcome_eval_of_isUnsupported hs (Call.isUnsupported_iff.2 hcomb)]
    rfl

/-- No call has a foreign result. -/
theorem kind?_eval_ne_foreign (hs : s.status.Sound) (l r : Value) :
    (s.eval l r).kind? ≠ some .foreign := by
  rw [kind?_eval hs]
  cases (Call.combination (l, r)).path s.status.integerExcluded <;> exact nofun

/-- A call is in the log as a failure exactly when it fails. -/
theorem countP_trace_eval (hs : s.status.Sound) (l r : Value) :
    (s.eval l r).events.countP (·.level = .trace) =
      if Call.combination (l, r) = .unsupported then 1 else 0 := by
  rcases eval_cases hs l r with ⟨hcomb, -, hevents⟩ | ⟨hcomb, -, hevents⟩ | ⟨hcomb, -, hevents⟩ <;>
    simp [hcomb, hevents, Event.level]

/-- A call is in the log as a change of the status exactly when it changes the status. -/
theorem countP_debug_eval (hs : s.status.Sound) (l r : Value) :
    (s.eval l r).events.countP (·.level = .debug) =
      if (s.eval l r).site.status = s.status then 0 else 1 := by
  rcases eval_cases hs l r with ⟨-, hsame, hevents⟩ | ⟨-, hsame, hevents⟩ | ⟨-, hne, hevents⟩
  · simp [hsame, hevents, Event.level]
  · simp [hsame, hevents]
  · simp [hne, hevents, Event.level]

theorem length_events_eval_le (hs : s.status.Sound) (l r : Value) :
    (s.eval l r).events.length ≤ 1 := by
  rcases eval_cases hs l r with ⟨-, -, hevents⟩ | ⟨-, -, hevents⟩ | ⟨-, -, hevents⟩ <;>
    simp [hevents]

/-- Every path is tried exactly when the committed path does not answer. -/
theorem slow_eval (s : Site) (l r : Value) :
    (s.eval l r).site.tally.slow =
      s.tally.slow + if s.status.committed? l r = none then 1 else 0 := by
  cases hcommitted : s.status.committed? l r with
  | some answer =>
    simp only [eval, hcommitted, reduceCtorEq, if_false, UInt64.add_zero]
    cases answer.1 <;> rfl
  | none =>
    simp only [eval, hcommitted, if_true]
    cases hdispatch : dispatch s.status.integerExcluded l r with
    | none =>
      rw [evalSlow_of_dispatch_none hdispatch]
      rfl
    | some answer =>
      rw [evalSlow_of_dispatch hdispatch]
      by_cases hsame : s.status.widened answer.matched answer.overflowed = s.status
      · rw [widen_of_eq (s := s.recordSlow) hsame]
        cases answer.path <;> rfl
      · rw [widen_of_ne (s := s.recordSlow) hsame]
        cases answer.path <;> rfl

/-- A call adds one to the counter of errors exactly when it cannot be answered. -/
theorem typeErrors_eval (hs : s.status.Sound) (l r : Value) :
    (s.eval l r).site.tally.typeErrors =
      s.tally.typeErrors + if Call.combination (l, r) = .unsupported then 1 else 0 := by
  have hcount := count_eval hs l r .typeError
  simp only [Combination.path_eq_typeError_iff] at hcount
  exact hcount

/-! ## Many calls -/

/-- What holds of every call at a sound site holds of every call of a run. -/
theorem forall_mem_trace {P : Evaluation → Prop}
    (hcall : ∀ s : Site, s.status.Sound → ∀ l r, P (s.eval l r)) (hs : s.status.Sound)
    (calls : List Call) : ∀ e ∈ s.trace calls, P e := by
  induction calls generalizing s with
  | nil => exact fun _ hmem => absurd hmem List.not_mem_nil
  | cons call calls ih =>
    rw [trace, List.forall_mem_cons]
    exact ⟨hcall s hs call.1 call.2, ih (sound_eval hs call.1 call.2)⟩

/-- A counter that every call raises by how often something occurs in the evaluation is raised by a
run by how often it occurs in the trace. -/
theorem counter_run (counter : Tally → UInt64) {α : Type} (seen : Evaluation → List α)
    (p : α → Bool)
    (hcall : ∀ s : Site, s.status.Sound → ∀ l r,
      counter (s.eval l r).site.tally =
        counter s.tally + UInt64.ofNat ((seen (s.eval l r)).countP p))
    (hs : s.status.Sound) (calls : List Call) :
    counter (s.run calls).tally =
      counter s.tally + UInt64.ofNat (((s.trace calls).flatMap seen).countP p) := by
  induction calls generalizing s with
  | nil => exact (UInt64.add_zero _).symm
  | cons call calls ih =>
    rw [run_cons s call.1 call.2, ih (sound_eval hs call.1 call.2), hcall s hs, trace,
      List.flatMap_cons, List.countP_append, UInt64.ofNat_add, UInt64.add_assoc]

/-- A path is counted as often as its kind of result occurs. -/
theorem count_run (hs : s.status.Sound) (calls : List Call) (path : Path) :
    (s.run calls).tally.count path =
      s.tally.count path +
        UInt64.ofNat (((s.trace calls).map Evaluation.kind?).count path.kind?) := by
  rw [List.map_eq_flatMap]
  refine counter_run (Tally.count · path) (fun e => [e.kind?]) (· == path.kind?)
    (fun s hs l r => ?_) hs calls
  rw [count_eval hs, kind?_eval hs, List.countP_singleton]
  simp only [beq_iff_eq, Path.kind?_injective.eq_iff, eq_comm (b := path)]
  split <;> rfl

/-- Errors are counted as often as failures are in the log. -/
theorem typeErrors_run (hs : s.status.Sound) (calls : List Call) :
    (s.run calls).tally.typeErrors =
      s.tally.typeErrors + UInt64.ofNat ((s.log calls).countP (·.level = .trace)) := by
  refine counter_run Tally.typeErrors Evaluation.events _ (fun s hs l r => ?_) hs calls
  rw [countP_trace_eval hs, typeErrors_eval hs]
  split <;> rfl

/-- Transitions are counted as often as changes of the status are in the log. -/
theorem transitions_run (hs : s.status.Sound) (calls : List Call) :
    (s.run calls).tally.transitions =
      s.tally.transitions + UInt64.ofNat ((s.log calls).countP (·.level = .debug)) := by
  refine counter_run Tally.transitions Evaluation.events _ (fun s hs l r => ?_) hs calls
  rw [countP_debug_eval hs, transitions_eval hs, status_eval hs]
  split <;> rfl

/-- No call is in the log twice. -/
theorem length_log_le (hs : s.status.Sound) (calls : List Call) :
    (s.log calls).length ≤ calls.length := by
  induction calls generalizing s with
  | nil => exact Nat.le_refl 0
  | cons call calls ih =>
    have hcall := length_events_eval_le hs call.1 call.2
    have hrest := ih (sound_eval hs call.1 call.2)
    rw [log, trace, List.flatMap_cons, List.length_append, List.length_cons]
    rw [log] at hrest
    omega

/-- No call counts twice as one that tried every path. -/
theorem slow_run_le (s : Site) (calls : List Call) :
    (s.run calls).tally.slow.toNat ≤ s.tally.slow.toNat + calls.length := by
  induction calls generalizing s with
  | nil => exact Nat.le_refl _
  | cons call calls ih =>
    have hone : (s.eval call.1 call.2).site.tally.slow.toNat ≤ s.tally.slow.toNat + 1 := by
      rw [slow_eval, UInt64.toNat_add]
      refine Nat.le_trans (Nat.mod_le _ _) (Nat.add_le_add_left ?_ _)
      split <;> decide
    have hrest := ih (s.eval call.1 call.2).site
    rw [run_cons s call.1 call.2, List.length_cons]
    omega

end Site

/-! ## The number of evaluations -/

namespace Tally

theorem zero_saturatingAdd (a : UInt64) : saturatingAdd 0 a = a := by
  have hlt := a.toNat_lt
  rw [← UInt64.toNat_inj, toNat_saturatingAdd, UInt64.toNat_zero]
  omega

theorem saturatingAdd_right_comm (a b c : UInt64) :
    saturatingAdd (saturatingAdd a b) c = saturatingAdd (saturatingAdd a c) b := by
  simp only [← UInt64.toNat_inj, toNat_saturatingAdd]
  omega

/-- The number of evaluations is the true sum, or the largest word where that is smaller, at
whichever of the counters the sum comes to its limit. -/
theorem toNat_evaluations (t : Tally) :
    t.evaluations.toNat =
      min (t.integer.toNat + t.bigNumber.toNat + t.text.toNat + t.typeErrors.toNat)
        0xffffffffffffffff := by
  simp only [evaluations, toNat_saturatingAdd]
  omega

/-- The order in which the counters are added does not matter. -/
theorem foldl_saturatingAdd_of_perm (t : Tally) {counters : List UInt64}
    (hperm : counters.Perm [t.integer, t.bigNumber, t.text, t.typeErrors]) :
    counters.foldl saturatingAdd 0 = t.evaluations := by
  rw [hperm.foldl_eq' (fun a _ b _ sum => saturatingAdd_right_comm sum a b) 0]
  simp only [List.foldl_cons, List.foldl_nil, zero_saturatingAdd, evaluations]

end Tally

/-! ## A new site -/

namespace Site

variable (config : Config) (calls : List Call)

theorem count_run_build (path : Path) :
    (config.build.run calls).tally.count path =
      UInt64.ofNat (((config.build.trace calls).map Evaluation.kind?).count path.kind?) := by
  have hnew : config.build.tally.count path = 0 := by cases path <;> rfl
  rw [count_run (sound_build config), hnew, UInt64.zero_add]

/-- The number of evaluations at a site is the number of calls, as long as a word can hold it. -/
theorem evaluations_run_build (hlength : calls.length < UInt64.size) :
    (config.build.run calls).tally.evaluations.toNat = calls.length := by
  have hforeign : some .foreign ∉ (config.build.trace calls).map Evaluation.kind? := by
    intro hmem
    obtain ⟨e, hmem, hkind⟩ := List.mem_map.1 hmem
    exact forall_mem_trace (P := (·.kind? ≠ some .foreign))
      (fun _ hs l r => kind?_eval_ne_foreign hs l r) (sound_build config) calls e hmem hkind
  have hsum := count_kinds hforeign
  rw [List.length_map, length_trace] at hsum
  -- No counter wraps around, because each is at most the number of calls.
  have hcount : ∀ path, ((config.build.run calls).tally.count path).toNat =
      ((config.build.trace calls).map Evaluation.kind?).count path.kind? := by
    intro path
    have hle := List.count_le_length (a := path.kind?)
      (l := (config.build.trace calls).map Evaluation.kind?)
    rw [List.length_map, length_trace] at hle
    rw [count_run_build, UInt64.toNat_ofNat_of_lt' (Nat.lt_of_le_of_lt hle hlength)]
  have hinteger := hcount .integer
  have hbig := hcount .bigNumber
  have htext := hcount .text
  have herrors := hcount .typeError
  simp only [Tally.count, Path.kind?] at hinteger hbig htext herrors
  rw [Tally.toNat_evaluations, hinteger, hbig, htext, herrors, hsum]
  have hsize : UInt64.size = 0xffffffffffffffff + 1 := rfl
  omega

/-- No call counts both as a transition and as an error. -/
theorem transitions_add_typeErrors_le :
    (config.build.run calls).tally.transitions.toNat +
      (config.build.run calls).tally.typeErrors.toNat ≤ calls.length := by
  have hs := sound_build config
  have hnew : config.build.tally = {} := rfl
  rw [transitions_run hs, typeErrors_run hs, hnew, UInt64.zero_add, UInt64.zero_add,
    UInt64.toNat_ofNat', UInt64.toNat_ofNat']
  have hlog := length_log_le hs calls
  have hlevels := countP_trace_add_countP_debug_le (config.build.log calls)
  omega

/-- The counters of a site that has answered `calls`.

Each of the first four is the number of calls with its kind of result, the last of them also the
number of failures in the log; transitions are the changes of the status in the log; and no more
calls tried every path than there were.  As long as a word can hold the number of calls, it is the
number of evaluations.  The number of evaluations of any tally is the sum of the four counters, or
the largest word if that is smaller, and the order of the sum does not matter. -/
theorem tally_after_run (config : Config) (calls : List Call) :
    let site := config.build.run calls
    let kinds := (config.build.trace calls).map Evaluation.kind?
    let log := config.build.log calls
    site.tally.integer = UInt64.ofNat (kinds.count (some .int)) ∧
    site.tally.bigNumber = UInt64.ofNat (kinds.count (some .big)) ∧
    site.tally.text = UInt64.ofNat (kinds.count (some .text)) ∧
    site.tally.typeErrors = UInt64.ofNat (kinds.count none) ∧
    site.tally.typeErrors = UInt64.ofNat (log.countP (·.level = .trace)) ∧
    site.tally.transitions = UInt64.ofNat (log.countP (·.level = .debug)) ∧
    site.tally.slow.toNat ≤ calls.length ∧
    (calls.length < UInt64.size → site.tally.evaluations.toNat = calls.length) ∧
    ∀ t : Tally,
      t.evaluations.toNat =
        min (t.integer.toNat + t.bigNumber.toNat + t.text.toNat + t.typeErrors.toNat)
          0xffffffffffffffff ∧
      ∀ counters : List UInt64,
        counters.Perm [t.integer, t.bigNumber, t.text, t.typeErrors] →
        counters.foldl Tally.saturatingAdd 0 = t.evaluations := by
  intro site kinds log
  have hs := sound_build config
  have hcount := count_run_build config calls
  refine ⟨hcount .integer, hcount .bigNumber, hcount .text, hcount .typeError, ?_, ?_, ?_, ?_, ?_⟩
  · exact (typeErrors_run hs calls).trans (UInt64.zero_add _)
  · exact (transitions_run hs calls).trans (UInt64.zero_add _)
  · have hslow := slow_run_le config.build calls
    rwa [show config.build.tally.slow.toNat = 0 from rfl, Nat.zero_add] at hslow
  · exact evaluations_run_build config calls
  · exact fun t => ⟨t.toNat_evaluations, fun _ => t.foldl_saturatingAdd_of_perm⟩

end Site

end AdaptiveAdd
