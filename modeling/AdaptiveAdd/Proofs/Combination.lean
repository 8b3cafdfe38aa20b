import AdaptiveAdd.Site.Run

/-!
# Combinations of operands

What a site does with a call depends on its operands through one of five
combinations.  `Call.combination` names the combination of a call, and every
other fact about a call that a site learns from or counts is a function of it.

There are three groups.

* The questions one can ask of a call: `Call.Overflows`, `Call.IsNumeric`,
  `Call.HasText`, `Call.NeedsBig` and `Call.IsUnsupported`.  Each is stated
  about the operands, and has a lemma that answers it from the combination.
* The case analysis.  `Call.byCombination` has one case for each combination
  and gives what is known of the operands there.
* The answers.  For each combination there is one equation for `dispatch`;
  `path_of_dispatch` reads off the path for all of them at once, and
  `dispatch_eq_none_iff` says where there is no answer.
-/

namespace AdaptiveAdd

/-- The combinations of operands that a site tells apart. -/
inductive Combination where
  /-- Two words whose sum is a word. -/
  | words
  /-- Two words whose sum overflows. -/
  | overflow
  /-- Two numbers, one of them unbounded. -/
  | unbounded
  /-- A text and anything. -/
  | text
  /-- Anything else. -/
  | unsupported
  deriving DecidableEq

namespace Combination

/-- The least specialization that stands for the combination. -/
def specialization : Combination → Specialization
  | words => .integer
  | overflow | unbounded => .bigNumber
  | text => .text
  | unsupported => .uncommitted

/-- The path that answers calls of the combination. -/
def path (integerExcluded : Bool) : Combination → Path
  | words => if integerExcluded then .bigNumber else .integer
  | overflow | unbounded => .bigNumber
  | text => .text
  | unsupported => .typeError

end Combination

namespace Call

/-- The combination of the operands of a call. -/
def combination : Call → Combination
  | (.int a, .int b) => if Integer.Fits (a.toInt + b.toInt) then .words else .overflow
  | (l, r) =>
      if l.isNumber && r.isNumber then .unbounded
      else if l.isText || r.isText then .text
      else .unsupported

/-! ## Questions about a call -/

/-- Both operands are words, and so is their sum. -/
def StaysInWords (call : Call) : Prop :=
  ∃ a b, call = (.int a, .int b) ∧ Integer.Fits (a.toInt + b.toInt)

/-- Both operands are words, and their sum is not. -/
def Overflows (call : Call) : Prop :=
  ∃ a b, call = (.int a, .int b) ∧ ¬ Integer.Fits (a.toInt + b.toInt)

/-- Both operands are numbers. -/
def IsNumeric (call : Call) : Prop :=
  call.1.isNumber = true ∧ call.2.isNumber = true

/-- One of the operands is a text. -/
def HasText (call : Call) : Prop :=
  call.1.isText = true ∨ call.2.isText = true

/-- Both operands are numbers, and no word can hold all that is needed for their sum. -/
def NeedsBig (call : Call) : Prop :=
  call.IsNumeric ∧ (call.1.kind = .big ∨ call.2.kind = .big ∨ call.Overflows)

/-- No operand is a text, and one of them is not even a number. -/
def IsUnsupported (call : Call) : Prop :=
  ¬ call.HasText ∧ (call.1.kind = .foreign ∨ call.2.kind = .foreign)

theorem staysInWords_iff {call : Call} : call.StaysInWords ↔ call.combination = .words := by
  obtain ⟨l, r⟩ := call
  cases l <;> cases r <;> grind [StaysInWords, combination]

theorem overflows_iff {call : Call} : call.Overflows ↔ call.combination = .overflow := by
  obtain ⟨l, r⟩ := call
  cases l <;> cases r <;> grind [Overflows, combination]

theorem needsBig_iff {call : Call} :
    call.NeedsBig ↔ call.combination = .overflow ∨ call.combination = .unbounded := by
  rw [NeedsBig, overflows_iff]
  obtain ⟨l, r⟩ := call
  cases l <;> cases r <;>
    grind [IsNumeric, combination, Value.isNumber, Value.isText, Value.kind]

theorem isNumeric_iff {call : Call} :
    call.IsNumeric ↔ call.combination = .words ∨ call.NeedsBig := by
  rw [needsBig_iff]
  obtain ⟨l, r⟩ := call
  cases l <;> cases r <;> grind [IsNumeric, combination, Value.isNumber, Value.isText]

theorem hasText_iff {call : Call} : call.HasText ↔ call.combination = .text := by
  obtain ⟨l, r⟩ := call
  cases l <;> cases r <;> grind [HasText, combination, Value.isNumber, Value.isText]

theorem isUnsupported_iff {call : Call} :
    call.IsUnsupported ↔ call.combination = .unsupported := by
  rw [IsUnsupported, hasText_iff]
  obtain ⟨l, r⟩ := call
  cases l <;> cases r <;> grind [combination, Value.isNumber, Value.isText, Value.kind]

/-- A call that is neither numeric nor has a text is unsupported. -/
theorem isUnsupported_of_not {call : Call} (hnumeric : ¬ call.IsNumeric) (htext : ¬ call.HasText) :
    call.IsUnsupported := by
  rw [isNumeric_iff, needsBig_iff] at hnumeric
  rw [hasText_iff] at htext
  rw [isUnsupported_iff]
  cases hcomb : call.combination <;> simp_all

/-- A call that overflows is numeric. -/
theorem Overflows.isNumeric {call : Call} (h : call.Overflows) : call.IsNumeric :=
  (needsBig_iff.2 (.inl (overflows_iff.1 h))).1

theorem IsNumeric.not_hasText {call : Call} (h : call.IsNumeric) : ¬ call.HasText := by
  rw [isNumeric_iff, needsBig_iff] at h
  rw [hasText_iff]
  rcases h with hcomb | hcomb | hcomb <;> simp [hcomb]

theorem IsUnsupported.not_isNumeric {call : Call} (h : call.IsUnsupported) :
    ¬ call.IsNumeric := by
  rw [isNumeric_iff, needsBig_iff, isUnsupported_iff.1 h]
  decide

theorem isNumeric_of_toInt? {l r : Value} {m n : Int} (hl : l.toInt? = some m)
    (hr : r.toInt? = some n) : IsNumeric (l, r) := by
  constructor
  · rw [← Value.isSome_toInt?, hl]
    rfl
  · rw [← Value.isSome_toInt?, hr]
    rfl

/-- Where one number is unbounded, the operands are not both words. -/
theorem words?_eq_none_of_unbounded {l r : Value} (hcomb : combination (l, r) = .unbounded) :
    Value.words? l r = none := by
  cases l <;> cases r <;> grind [combination, Value.words?]

/-- A call that stays in words has a word for its sum. -/
theorem StaysInWords.exists_sum {call : Call} (h : call.StaysInWords) :
    ∃ a b w : Int64, call = (.int a, .int b) ∧ a.toInt + b.toInt = w.toInt := by
  obtain ⟨a, b, hcall, hfits⟩ := h
  exact ⟨a, b, Int64.ofInt (a.toInt + b.toInt), hcall, (Integer.toInt_ofInt_of_fits hfits).symm⟩

/-! ## Case analysis -/

/-- Case analysis of a call by the combination of its operands, with what is known of them. -/
@[elab_as_elim]
theorem byCombination {motive : Value → Value → Prop} (l r : Value)
    (words : ∀ a b w : Int64, a.toInt + b.toInt = w.toInt →
      combination (.int a, .int b) = .words → motive (.int a) (.int b))
    (overflow : ∀ a b : Int64, ¬ Integer.Fits (a.toInt + b.toInt) →
      combination (.int a, .int b) = .overflow → motive (.int a) (.int b))
    (unbounded : ∀ l r m n, l.toInt? = some m → r.toInt? = some n →
      combination (l, r) = .unbounded → motive l r)
    (text : ∀ l r, combination (l, r) = .text → motive l r)
    (unsupported : ∀ l r, combination (l, r) = .unsupported → motive l r) :
    motive l r := by
  cases hcomb : combination (l, r) with
  | words =>
    obtain ⟨a, b, w, hcall, hsum⟩ := (staysInWords_iff.2 hcomb).exists_sum
    cases hcall
    exact words a b w hsum hcomb
  | overflow =>
    obtain ⟨a, b, hcall, hfits⟩ := overflows_iff.2 hcomb
    cases hcall
    exact overflow a b hfits hcomb
  | unbounded =>
    obtain ⟨⟨hl, hr⟩, -⟩ := needsBig_iff.2 (.inr hcomb)
    rw [← Value.isSome_toInt?, Option.isSome_iff_exists] at hl hr
    obtain ⟨m, hm⟩ := hl
    obtain ⟨n, hn⟩ := hr
    exact unbounded l r m n hm hn hcomb
  | text => exact text l r hcomb
  | unsupported => exact unsupported l r hcomb

end Call

/-! ## The answers -/

/-- The answer to two words whose sum is a word. -/
theorem dispatch_words {a b w : Int64} (hsum : a.toInt + b.toInt = w.toInt)
    (integerExcluded : Bool) :
    dispatch integerExcluded (.int a) (.int b) =
      some (if integerExcluded
        then { path := .bigNumber, value := .big w.toInt, matched := .bigNumber }
        else { path := .integer, value := .int w, matched := .integer }) := by
  have hword : Integer.sum? a b = some w := Integer.sum?_eq_some_iff.2 hsum
  cases integerExcluded <;> simp [dispatch, Value.words?, Value.bigSum?, Value.toInt?, hword, hsum]

/-- The answer to two words whose sum overflows. -/
theorem dispatch_overflow {a b : Int64} (hfits : ¬ Integer.Fits (a.toInt + b.toInt))
    (integerExcluded : Bool) :
    dispatch integerExcluded (.int a) (.int b) =
      some { path := .bigNumber, value := .big (a.toInt + b.toInt), matched := .bigNumber
             overflowed := !integerExcluded } := by
  have hword : Integer.sum? a b = none := Integer.sum?_eq_none_iff.2 hfits
  cases integerExcluded <;> simp [dispatch, Value.words?, Value.bigSum?, Value.toInt?, hword]

/-- The answer to two numbers one of which is unbounded. -/
theorem dispatch_unbounded {l r : Value} {m n : Int} (hl : l.toInt? = some m)
    (hr : r.toInt? = some n) (hcomb : Call.combination (l, r) = .unbounded)
    (integerExcluded : Bool) :
    dispatch integerExcluded l r =
      some { path := .bigNumber, value := .big (m + n), matched := .bigNumber } := by
  simp [dispatch, Call.words?_eq_none_of_unbounded hcomb, Value.bigSum?, hl, hr]

/-- The answer where one of the operands is a text. -/
theorem dispatch_text {l r : Value} (hcomb : Call.combination (l, r) = .text)
    (integerExcluded : Bool) :
    dispatch integerExcluded l r =
      some { path := .text, value := .text (l.render ++ r.render), matched := .text } := by
  have htext : l.isText = true ∨ r.isText = true := Call.hasText_iff.2 hcomb
  cases l <;> cases r <;>
    simp_all [dispatch, Value.words?, Value.bigSum?, Value.joined?, Value.isText, Value.toInt?]

/-- Operands that cannot be added have no answer. -/
theorem dispatch_unsupported {l r : Value} (hcomb : Call.combination (l, r) = .unsupported)
    (integerExcluded : Bool) : dispatch integerExcluded l r = none := by
  cases l <;> cases r <;>
    grind [dispatch, Call.combination, Value.words?, Value.bigSum?, Value.joined?, Value.isText,
      Value.isNumber, Value.toInt?]

/-- The path of an answer depends on the combination of the operands alone. -/
theorem path_of_dispatch {integerExcluded : Bool} {l r : Value} {answer : Answer}
    (h : dispatch integerExcluded l r = some answer) :
    answer.path = (Call.combination (l, r)).path integerExcluded := by
  cases l, r using Call.byCombination with
  | words a b w hsum hcomb =>
    rw [dispatch_words hsum] at h
    rw [hcomb]
    cases h
    cases integerExcluded <;> rfl
  | overflow a b hfits hcomb =>
    rw [dispatch_overflow hfits] at h
    rw [hcomb]
    cases h
    rfl
  | unbounded l r m n hl hr hcomb =>
    rw [dispatch_unbounded hl hr hcomb] at h
    rw [hcomb]
    cases h
    rfl
  | text l r hcomb =>
    rw [dispatch_text hcomb] at h
    rw [hcomb]
    cases h
    rfl
  | unsupported l r hcomb =>
    rw [dispatch_unsupported hcomb] at h
    cases h

/-- Exactly the operands that cannot be added have no answer. -/
theorem dispatch_eq_none_iff {l r : Value} (integerExcluded : Bool) :
    dispatch integerExcluded l r = none ↔ Call.combination (l, r) = .unsupported := by
  constructor
  · intro h
    cases l, r using Call.byCombination with
    | words a b w hsum hcomb => rw [dispatch_words hsum] at h; cases h
    | overflow a b hfits hcomb => rw [dispatch_overflow hfits] at h; cases h
    | unbounded l r m n hl hr hcomb => rw [dispatch_unbounded hl hr hcomb] at h; cases h
    | text l r hcomb => rw [dispatch_text hcomb] at h; cases h
    | unsupported l r hcomb => exact hcomb
  · intro hcomb
    exact dispatch_unsupported hcomb integerExcluded

end AdaptiveAdd
