import AdaptiveAdd.Program.Reference
import AdaptiveAdd.Program.Run
import AdaptiveAdd.Proofs.Agreement
import AdaptiveAdd.Proofs.Combination

/-!
# Sites compute meanings

A site chooses a representation for every number that it returns.  Apart from
that choice, a call comes to what `Meaning.add` says about the meanings of its
operands.  This holds at every site, also at one whose status no calls lead to:
the flag and the specialization decide about representations only.

There are three groups.

* Meanings and values.  `Value.equiv_iff_meaning_eq` says that programs see
  values as equal exactly when they mean the same.  Then their texts are the same
  (`render_meaning`, `Value.diagnostic_eq_of_meaning_eq`).
* Calls.  `Site.meaning_eval` for one call, `Site.meaning_accumulate` for a
  repeated one, and `Site.raisedAt_eval` and `Site.raisedAt_accumulate` for the
  site that an error names.
* Programs.  `Program.meaning_perform` for one command and
  `Program.meaning_runFrom` for all of them.
-/

namespace AdaptiveAdd

/-- What an outcome means: its value, or the operands of its error. -/
def outcomeMeaning : Except TypeError Value → Except (List Meaning) Meaning
  | .ok v => .ok v.meaning
  | .error e => .error (e.operands.map Value.meaning)

/-! ## Meanings and values -/

namespace Value

/-- The text of a value is the text of its meaning. -/
theorem render_meaning (v : Value) : v.meaning.render = v.render := by
  cases v <;> rfl

theorem isText_meaning (v : Value) : v.meaning.isText = v.isText := by
  cases v <;> rfl

theorem meaning_of_toInt? {v : Value} {n : Int} (h : v.toInt? = some n) :
    v.meaning = .number n := by
  cases v <;> simp_all [toInt?, meaning]

/-- Programs see two values as equal exactly when they mean the same. -/
theorem equiv_iff_meaning_eq {v w : Value} : v ≈ w ↔ v.meaning = w.meaning := by
  rw [equiv_iff]
  cases v <;> cases w <;> simp [meaning, toInt?] <;> grind [Int64.toInt_inj]

theorem render_eq_of_meaning_eq {v w : Value} (h : v.meaning = w.meaning) :
    v.render = w.render := by
  rw [← render_meaning, h, render_meaning]

theorem isText_eq_of_meaning_eq {v w : Value} (h : v.meaning = w.meaning) :
    v.isText = w.isText := by
  rw [← isText_meaning, h, isText_meaning]

theorem metaName?_eq_of_meaning_eq {v w : Value} (h : v.meaning = w.meaning) :
    v.metaName? = w.metaName? := by
  cases v <;> cases w <;> simp_all [meaning, metaName?]

/-- Values with the same meaning are shown in the same way. -/
theorem diagnostic_eq_of_meaning_eq {v w : Value} (h : v.meaning = w.meaning) :
    v.diagnostic = w.diagnostic := by
  rw [diagnostic, diagnostic, render_eq_of_meaning_eq h, isText_eq_of_meaning_eq h,
    metaName?_eq_of_meaning_eq h]

/-- Values with the same meaning are the same string if one of them is a text. -/
theorem asText?_eq_of_meaning_eq {v w : Value} (h : v.meaning = w.meaning) :
    v.asText? = w.asText? := by
  cases v <;> cases w <;> simp_all [meaning, asText?]

end Value

/-- Lists of values mean the same when their elements do, in pairs. -/
theorem map_meaning_eq_iff {vs ws : List Value} :
    vs.map Value.meaning = ws.map Value.meaning ↔
      List.Forall₂ (fun v w => v.meaning = w.meaning) vs ws := by
  rw [← List.forall₂_eq_eq_eq, List.forall₂_map_left_iff, List.forall₂_map_right_iff]

/-- The number of steps that `iterate` makes before one fails. -/
def Meaning.successes (step : Meaning → Except (List Meaning) Meaning) : Nat → Meaning → Nat
  | 0, _ => 0
  | n + 1, acc =>
      match step acc with
      | .ok next => successes step n next + 1
      | .error _ => 0

namespace TypeError

/-- Operands with the same meanings are listed in the same way. -/
theorem operandList_eq {vs ws : List Value} (h : vs.map Value.meaning = ws.map Value.meaning) :
    operandList vs = operandList ws := by
  have hdiagnostic : vs.map Value.diagnostic = ws.map Value.diagnostic := by
    rw [← List.forall₂_eq_eq_eq, List.forall₂_map_left_iff, List.forall₂_map_right_iff]
    exact (map_meaning_eq_iff.1 h).imp fun _ _ => Value.diagnostic_eq_of_meaning_eq
  cases vs with
  | nil => rw [List.map_eq_nil_iff.1 h.symm]
  | cons v vs =>
    cases ws with
    | nil => cases h
    | cons w ws => simp only [operandList, hdiagnostic]

/-- Errors of one operation at one position have the same message where their operands mean the
same. -/
theorem message_eq {e f : TypeError} (hoperation : e.operation = f.operation)
    (hposition : e.position = f.position)
    (hoperands : e.operands.map Value.meaning = f.operands.map Value.meaning) :
    e.message = f.message := by
  rw [message, message, hoperation, hposition, operandList_eq hoperands]

end TypeError

/-! ## Calls -/

/-- Numbers are added exactly. -/
theorem Meaning.add_of_toInt? {l r : Value} {m n : Int} (hl : l.toInt? = some m)
    (hr : r.toInt? = some n) : l.meaning.add r.meaning = .ok (.number (m + n)) := by
  rw [Value.meaning_of_toInt? hl, Value.meaning_of_toInt? hr]
  rfl

/-- A text is joined to anything. -/
theorem Meaning.add_of_hasText {l r : Value} (htext : Call.HasText (l, r)) :
    l.meaning.add r.meaning = .ok (.text (l.render ++ r.render)) := by
  cases l <;> cases r <;>
    simp_all [Call.HasText, Value.isText, Value.meaning, add, render, isText, Value.render]

/-- Nothing else is added. -/
theorem Meaning.add_of_isUnsupported {l r : Value} (hunsupported : Call.IsUnsupported (l, r)) :
    l.meaning.add r.meaning = .error [l.meaning, r.meaning] := by
  obtain ⟨htext, hforeign⟩ := hunsupported
  cases l <;> cases r <;>
    simp_all [Call.HasText, Value.isText, Value.kind, Value.meaning, add, isText]

/-- An answer means the sum of what the operands mean. -/
theorem meaning_dispatch (integerExcluded : Bool) (l r : Value) :
    l.meaning.add r.meaning =
      (dispatch integerExcluded l r).elim (.error [l.meaning, r.meaning])
        (.ok ·.value.meaning) := by
  cases l, r using Call.byCombination with
  | words a b w hsum hcomb =>
    rw [Meaning.add_of_toInt? rfl rfl, dispatch_words hsum, hsum]
    cases integerExcluded <;> rfl
  | overflow a b hfits hcomb =>
    rw [Meaning.add_of_toInt? rfl rfl, dispatch_overflow hfits]
    rfl
  | unbounded l r m n hl hr hcomb =>
    rw [Meaning.add_of_toInt? hl hr, dispatch_unbounded hl hr hcomb]
    rfl
  | text l r hcomb =>
    rw [Meaning.add_of_hasText (Call.hasText_iff.2 hcomb), dispatch_text hcomb]
    rfl
  | unsupported l r hcomb =>
    rw [Meaning.add_of_isUnsupported (Call.isUnsupported_iff.2 hcomb), dispatch_unsupported hcomb]
    rfl

/-! Each of the three sums means what its operands add up to. -/

theorem meaning_of_wordSum? {l r v : Value} (h : Value.wordSum? l r = some v) :
    l.meaning.add r.meaning = .ok v.meaning := by
  obtain ⟨a, b, w, rfl, rfl, hsum, rfl⟩ := Value.wordSum?_eq_some_iff.1 h
  rw [Meaning.add_of_toInt? rfl rfl, hsum]
  rfl

theorem meaning_of_bigSum? {l r v : Value} (h : Value.bigSum? l r = some v) :
    l.meaning.add r.meaning = .ok v.meaning := by
  obtain ⟨m, n, hl, hr, rfl⟩ := Value.bigSum?_eq_some_iff.1 h
  exact Meaning.add_of_toInt? hl hr

theorem meaning_of_joined? {l r v : Value} (h : Value.joined? l r = some v) :
    l.meaning.add r.meaning = .ok v.meaning := by
  obtain ⟨htext, rfl⟩ := Value.joined?_eq_some_iff.1 h
  exact Meaning.add_of_hasText htext

/-- The value of the committed path means the sum, even at a status that no calls lead to. -/
theorem meaning_of_committed? {s : Status} {l r value : Value} {path : Path}
    (h : s.committed? l r = some (path, value)) :
    l.meaning.add r.meaning = .ok value.meaning := by
  obtain ⟨specialization, integerExcluded⟩ := s
  cases specialization with
  | uncommitted => cases h
  | generic => cases h
  | integer =>
    obtain ⟨v, hv, hpair⟩ := Option.map_eq_some_iff.1 h
    cases hpair
    exact meaning_of_wordSum? hv
  | bigNumber =>
    simp only [Status.committed?] at h
    split at h
    · obtain ⟨v, hv, hpair⟩ := Option.map_eq_some_iff.1 h
      cases hpair
      exact meaning_of_wordSum? hv
    · obtain ⟨v, hv, hpair⟩ := Option.map_eq_some_iff.1 h
      cases hpair
      exact meaning_of_bigSum? hv
  | text =>
    obtain ⟨v, hv, hpair⟩ := Option.map_eq_some_iff.1 h
    cases hpair
    exact meaning_of_joined? hv

/-- The outcome, if it is an error, names `+` and the site with this configuration. -/
def RaisedAt (config : Site.Config) (outcome : Except TypeError Value) : Prop :=
  ∀ e, outcome = .error e →
    e.operation = Site.operation ∧ e.site = config.id ∧ e.position = config.position

namespace Site

/-- At every site, a call comes to the sum of what the operands mean. -/
theorem meaning_eval (s : Site) (l r : Value) :
    outcomeMeaning (s.eval l r).outcome = l.meaning.add r.meaning := by
  unfold eval
  split
  · rename_i hcommitted
    exact (meaning_of_committed? hcommitted).symm
  · rw [meaning_dispatch s.status.integerExcluded]
    cases h : dispatch s.status.integerExcluded l r with
    | none =>
      simp only [evalSlow, recordSlow, h]
      rfl
    | some answer =>
      simp only [evalSlow, recordSlow, h]
      rfl

/-- An error of a call names the site. -/
theorem raisedAt_eval (s : Site) (l r : Value) : RaisedAt s.config (s.eval l r).outcome := by
  intro e h
  unfold eval at h
  split at h
  · cases h
  · unfold evalSlow at h
    dsimp only at h
    split at h
    · cases h
    · cases h
      exact ⟨rfl, rfl, rfl⟩

theorem raisedAt_accumulate {α : Type} (operands : Value → α → Call) (s : Site) (acc : Value)
    (xs : List α) : RaisedAt s.config (s.accumulate operands acc xs).outcome := by
  induction xs generalizing s acc with
  | nil =>
    intro e h
    cases h
  | cons x xs ih =>
    have hraised := s.raisedAt_eval (operands acc x).1 (operands acc x).2
    rw [accumulate]
    cases hout : (s.eval (operands acc x).1 (operands acc x).2).outcome with
    | error e =>
      rw [hout] at hraised
      exact hraised
    | ok sum =>
      rw [← s.config_eval (operands acc x).1 (operands acc x).2]
      exact ih _ sum

theorem config_accumulate {α : Type} (operands : Value → α → Call) (s : Site) (acc : Value)
    (xs : List α) : (s.accumulate operands acc xs).site.config = s.config := by
  induction xs generalizing s acc with
  | nil => rfl
  | cons x xs ih =>
    rw [accumulate, ← s.config_eval (operands acc x).1 (operands acc x).2]
    cases (s.eval (operands acc x).1 (operands acc x).2).outcome with
    | error e => rfl
    | ok sum => exact ih _ sum

/-- Where the meaning of every sum is a function of the meaning of the accumulator, so are the
meaning of the last accumulator and the number of calls that succeed. -/
theorem meaning_accumulate {α : Type} {operands : Value → α → Call}
    {step : Meaning → Except (List Meaning) Meaning}
    (hstep : ∀ acc x, (operands acc x).1.meaning.add (operands acc x).2.meaning = step acc.meaning)
    (s : Site) (acc : Value) (xs : List α) :
    outcomeMeaning (s.accumulate operands acc xs).outcome =
        Meaning.iterate step xs.length acc.meaning ∧
      (s.accumulate operands acc xs).count = Meaning.successes step xs.length acc.meaning := by
  induction xs generalizing s acc with
  | nil => exact ⟨rfl, rfl⟩
  | cons x xs ih =>
    have hsum := (s.meaning_eval (operands acc x).1 (operands acc x).2).trans (hstep acc x)
    rw [accumulate, List.length_cons, Meaning.iterate, Meaning.successes, ← hsum]
    cases (s.eval (operands acc x).1 (operands acc x).2).outcome with
    | error e => exact ⟨rfl, rfl⟩
    | ok sum =>
      obtain ⟨hmeaning, hcount⟩ := ih (s.eval (operands acc x).1 (operands acc x).2).site sum
      exact ⟨hmeaning, congrArg (· + 1) hcount⟩

end Site

/-! ## Programs -/

namespace Program

/-- What the step came to, if it is an addition that was made. -/
def Ending.meaning? : Ending → Option (Except (List Meaning) Meaning)
  | .added outcome | .folded outcome _ => some (outcomeMeaning outcome)
  | .inspected | .noValue => none

/-- The meanings of results. -/
def meanings (results : Array (Option Value)) : Array (Option Meaning) :=
  results.map (Option.map Value.meaning)

theorem meanings_push (results : Array (Option Value)) (result : Option Value) :
    meanings (results.push result) = (meanings results).push (result.map Value.meaning) :=
  Array.map_push

/-- The meaning of an operand is the meaning of its value. -/
theorem meaning?_operand (results : Array (Option Value)) (o : Operand) :
    o.meaning? (meanings results) = (o.resolve results).map Value.meaning := by
  cases o with
  | value v => rfl
  | result step =>
    simp only [Operand.meaning?, Operand.resolve, meanings, Array.getElem?_map]
    cases results[step]? <;> rfl

/-- What is added, as a meaning: `some none` is the accumulator itself. -/
def Addend.meaning? (results : Array (Option Meaning)) : Addend → Option (Option Meaning)
  | .operand o => (o.meaning? results).map some
  | .accumulator => some none

theorem meaning?_addend (results : Array (Option Value)) (addend : Addend) :
    addend.meaning? (meanings results) =
      (addend.resolve results).map (Option.map Value.meaning) := by
  cases addend with
  | accumulator => rfl
  | operand o =>
    rw [Addend.meaning?, Addend.resolve, meaning?_operand, Option.map_map, Option.map_map]
    rfl

/-- The next addition of a repeated one, as a function of meanings. -/
def nextMeaning (addend : Option Meaning) (side : Side) (acc : Meaning) :
    Except (List Meaning) Meaning :=
  let other := addend.getD acc
  match side with
  | .left => acc.add other
  | .right => other.add acc

theorem nextMeaning_nextCall (addend : Option Value) (side : Side) (acc : Value) :
    (nextCall addend side acc).1.meaning.add (nextCall addend side acc).2.meaning =
      nextMeaning (addend.map Value.meaning) side acc.meaning := by
  cases addend <;> cases side <;> rfl

/-- The meaning of a repeated addition, with one step function for all kinds of addend. -/
theorem meaning?_fold (results : Array (Option Meaning)) (start : Operand) (addend : Addend)
    (times : Nat) (side : Side) :
    (Command.fold start addend times side).meaning? results =
      (start.meaning? results).bind fun first =>
        (addend.meaning? results).map fun addend =>
          Meaning.iterate (nextMeaning addend side) times first := by
  unfold Command.meaning?
  dsimp only
  cases start.meaning? results with
  | none => rfl
  | some first =>
    cases addend with
    | accumulator => cases side <;> rfl
    | operand o =>
      simp only [Addend.meaning?, Option.bind_some, Option.map_map]
      cases side <;> rfl

/-- What later steps see of a step is what it came to, where it came to a value. -/
theorem map_meaning_result? (ending : Ending) :
    ending.result?.map Value.meaning = ending.meaning?.bind Except.toOption := by
  cases ending with
  | inspected => rfl
  | noValue => rfl
  | added outcome => cases outcome <;> rfl
  | folded outcome count => cases outcome <;> rfl

/-- At every site, a command comes to its meaning. -/
theorem meaning_perform (results : Array (Option Value)) (s : Site) (command : Command) :
    (command.perform results s).ending.meaning? = command.meaning? (meanings results) := by
  cases command with
  | inspect => rfl
  | add left right =>
    rw [Command.perform, Command.meaning?, meaning?_operand, meaning?_operand]
    cases left.resolve results with
    | none => rfl
    | some l =>
      cases right.resolve results with
      | none => rfl
      | some r => exact congrArg some (s.meaning_eval l r)
  | fold start addend times side =>
    rw [Command.perform, meaning?_fold, meaning?_operand, meaning?_addend]
    cases start.resolve results with
    | none => rfl
    | some first =>
      cases addend.resolve results with
      | none => rfl
      | some addend =>
        have hmeaning := (s.meaning_accumulate (fun acc _ => nextMeaning_nextCall addend side acc)
          first (List.replicate times ())).1
        rw [List.length_replicate] at hmeaning
        exact congrArg some hmeaning

/-- The reports of a program come to the meanings of its commands, whatever the sites. -/
theorem meaning_runFrom {n : Nat} (sites : Vector Site n) (results : Array (Option Value))
    (steps : List (Step n)) :
    (runFrom sites results steps).map (·.ending.meaning?) =
      meaningFrom (meanings results) (steps.map (·.command)) := by
  induction steps generalizing sites results with
  | nil => rfl
  | cons step steps ih =>
    have hperform := meaning_perform results sites[step.site] step.command
    rw [runFrom, List.map_cons, List.map_cons, meaningFrom, ih, meanings_push, map_meaning_result?,
      hperform]

/-- A command leaves the configuration of its site as it is. -/
theorem config_perform (results : Array (Option Value)) (s : Site) (command : Command) :
    (command.perform results s).site.config = s.config := by
  cases command with
  | inspect => rfl
  | add left right =>
    rw [Command.perform]
    split
    · exact s.config_eval _ _
    · rfl
  | fold start addend times side =>
    rw [Command.perform]
    split
    · exact s.config_accumulate _ _ _
    · rfl

theorem position_perform (results : Array (Option Value)) (s : Site) (command : Command) :
    (command.perform results s).site.position = s.position :=
  congrArg Site.Config.position (config_perform results s command)

/-- A command leaves the configurations of all sites as they are. -/
theorem config_get_set_perform {n : Nat} (sites : Vector Site n) (results : Array (Option Value))
    (command : Command) (i j : Fin n) :
    ((sites.set i (command.perform results sites[i]).site).get j).config =
      (sites.get j).config := by
  show ((sites.set i (command.perform results sites[i]).site)[j.val]).config = sites[j.val].config
  rw [Vector.getElem_set]
  split
  · rename_i hsite
    rw [config_perform]
    simp only [Fin.getElem_fin, hsite]
  · rfl

/-- Every report shows the site that its step was assigned to, as the host described it. -/
theorem config_runFrom {n : Nat} (sites : Vector Site n) (results : Array (Option Value))
    (steps : List (Step n)) :
    (runFrom sites results steps).map (·.site.config) =
      steps.map fun step => (sites.get step.site).config := by
  induction steps generalizing sites results with
  | nil => rfl
  | cons step steps ih =>
    rw [runFrom, List.map_cons, List.map_cons, ih, config_perform]
    simp only [config_get_set_perform]
    rfl

end Program

end AdaptiveAdd
