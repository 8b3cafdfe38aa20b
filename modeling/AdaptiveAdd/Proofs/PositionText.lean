import AdaptiveAdd.Proofs.Quoting
import AdaptiveAdd.TypeError

/-!
# The text of a position identifies it

The name of a source stands in front of the line and the column as it is, and may
imitate them.  The text is therefore read from the right: a numeral holds no
space, so the column begins after the last space, and what stands in front of
its label ends with the line.  The name is what is left, whatever it is.

`Text.append_numeral_inj` is one step of that reading.  It serves both texts of a
position: in the one-line form a brace is left after the column, and the name is
quoted.  A message shows the position between texts that do not depend on it
(`TypeError.message_inj_position`).
-/

namespace AdaptiveAdd

/-- A numeral at the end of a text, after a label that ends in a space, is determined, and so is
what stands in front of the label. -/
theorem Text.append_numeral_inj {label x y : String} {m n : Nat} :
    x ++ (label ++ " ") ++ toString m = y ++ (label ++ " ") ++ toString n ↔ x = y ∧ m = n := by
  constructor
  · intro h
    have hspace : ∀ k, ' ' ∉ Nat.toDigits 10 k := fun _ =>
      notMem_toDigits (by decide) fun _ => Nat.digitChar_ne ' ' rfl
    have hlists : (x ++ label).toList ++ ' ' :: Nat.toDigits 10 m =
        (y ++ label).toList ++ ' ' :: Nat.toDigits 10 n := by
      simpa using congrArg String.toList h
    obtain ⟨hstart, hdigits⟩ := append_cons_inj_right (hspace m) (hspace n) hlists
    rw [String.toList_inj, String.append_left_inj] at hstart
    exact ⟨hstart, toDigits_inj (by decide) (by decide) hdigits⟩
  · rintro ⟨rfl, rfl⟩
    rfl

namespace Position

variable {p q : Position}

theorem eq_iff : p = q ↔ p.source = q.source ∧ p.line = q.line ∧ p.column = q.column := by
  cases p
  cases q
  exact iff_of_eq (Position.mk.injEq ..)

theorem render_inj : p.render = q.render ↔ p = q := by
  have hcut : ∀ p : Position, p.render =
      p.source ++ (" line" ++ " ") ++ toString p.line.toNat ++ (" col" ++ " ") ++
        toString p.column.toNat := fun _ => rfl
  rw [hcut, hcut, Text.append_numeral_inj, Text.append_numeral_inj, UInt32.toNat_inj,
    UInt32.toNat_inj, eq_iff, and_assoc]

theorem debugWith_inj {hidden : Char → Bool} :
    p.debugWith (Text.quoteWith hidden) = q.debugWith (Text.quoteWith hidden) ↔ p = q := by
  have hcut : ∀ p : Position, p.debugWith (Text.quoteWith hidden) =
      "SourceLocation \x7b source_name: " ++ Text.quoteWith hidden p.source ++ (", line:" ++ " ") ++
        toString p.line.toNat ++ (", column:" ++ " ") ++ toString p.column.toNat ++ " \x7d" := by
    intro p
    rw [← String.toList_inj]
    simp [debugWith, Text.record]
  rw [hcut, hcut, String.append_left_inj, Text.append_numeral_inj, Text.append_numeral_inj,
    String.append_right_inj, Text.quoteWith_inj, UInt32.toNat_inj, UInt32.toNat_inj, eq_iff,
    and_assoc]

end Position

/-- Errors that differ at most in their positions have the same message when they do not differ at
all. -/
theorem TypeError.message_inj_position {e : TypeError} {p q : Option Position} :
    { e with position := p }.message = { e with position := q }.message ↔ p = q := by
  simp only [message, String.append_left_inj, String.append_right_inj]
  cases p with
  | none =>
    cases q with
    | none => simp
    | some q => simp [← String.toList_inj]
  | some p =>
    cases q with
    | none => simp [← String.toList_inj]
    | some q =>
      simp only [Option.map_some, Option.getD_some, Option.some_inj]
      rw [String.append_right_inj, Position.render_inj]

/-- Two positions have the same text, in messages and in the one-line form, exactly when their
sources, lines and columns are the same, however the name of a source imitates the text around it;
and so has a message that shows one of them or the other. -/
theorem Position.text_identifies (p q : Position) :
    let same := p.source = q.source ∧ p.line = q.line ∧ p.column = q.column
    (p.render = q.render ↔ same) ∧
    (p.debug = q.debug ↔ same) ∧
    (∀ hidden : Char → Bool,
      p.debugWith (Text.quoteWith hidden) = q.debugWith (Text.quoteWith hidden) ↔ same) ∧
    ∀ e : TypeError,
      { e with position := some p }.message = { e with position := some q }.message ↔ same := by
  intro same
  have hsame : p = q ↔ same := eq_iff
  refine ⟨render_inj.trans hsame, debugWith_inj.trans hsame, ?_, ?_⟩
  · intro hidden
    exact debugWith_inj.trans hsame
  · intro e
    rw [TypeError.message_inj_position, Option.some_inj, hsame]

/-- A name may end like a position. -/
example :
    (Position.mk "a line 1 col 2" 3 4).render = "a line 1 col 2 line 3 col 4" ∧
      (Position.mk "a" 1 2).render = "a line 1 col 2" := by
  decide

end AdaptiveAdd
