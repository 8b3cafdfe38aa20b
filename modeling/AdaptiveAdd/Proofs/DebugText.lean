import AdaptiveAdd.Proofs.Equality
import AdaptiveAdd.Proofs.Quoting

/-!
# The debug text identifies a value

Function names and the type names of objects stand in a debug text as they are,
so they may look like the rest of it.  Nevertheless the text determines the
value.  What it starts with tells the constructors apart.  A raw name is either
all that the parentheses hold (`Text.tagged_inj`), or it is followed by a colon, a
space and a quoted text, and is then found from the right end
(`Text.labelled_inj`).

`Value.debugWith_inj` says this for every choice of the characters that are
written by their code points, and `Stored.debug_identifies` for values in storage.
-/

namespace AdaptiveAdd

variable {hidden : Char → Bool}

/-- What stands between a tag and the closing parenthesis is determined. -/
theorem Text.tagged_inj {tag x y : String} : tag ++ x ++ ")" = tag ++ y ++ ")" ↔ x = y := by
  rw [String.append_left_inj, String.append_right_inj]

/-- The type name and the rendering of an object are told apart. -/
theorem Text.labelled_inj {t u r s : String} :
    t ++ ": " ++ Text.quoteWith hidden r = u ++ ": " ++ Text.quoteWith hidden s ↔
      t = u ∧ r = s := by
  have hlabel : ∀ name : String, name ++ ": " = name ++ ":" ++ " " := fun name => by
    rw [String.append_assoc]
    rfl
  rw [hlabel, hlabel, Text.append_quoteWith_inj, String.append_left_inj]

theorem Foreign.debugWith_inj {f g : Foreign} :
    f.debugWith (Text.quoteWith hidden) = g.debugWith (Text.quoteWith hidden) ↔ f = g := by
  refine ⟨fun h => ?_, fun h => by rw [h]⟩
  have hbool : ∀ a b : Bool, toString a = toString b → a = b := by decide
  cases f <;> cases g <;> simp only [debugWith] at h
  case bool.bool a b => rw [hbool a b (Text.tagged_inj.1 h)]
  case function.function name name' => rw [Text.tagged_inj.1 h]
  case object.object t r u s =>
    obtain ⟨hname, rfl⟩ := Text.labelled_inj.1 ((String.append_left_inj ")").1 h)
    rw [(String.append_right_inj "Object(").1 hname]
  all_goals simp [← String.toList_inj] at h ⊢

theorem Value.debugWith_inj {v w : Value} :
    v.debugWith (Text.quoteWith hidden) = w.debugWith (Text.quoteWith hidden) ↔ v = w := by
  refine ⟨fun h => ?_, fun h => by rw [h]⟩
  cases v <;> cases w <;> simp only [debugWith] at h
  case int.int m n => rw [Int64.toInt_inj.1 (Integer.toString_inj.1 (Text.tagged_inj.1 h))]
  case big.big m n => rw [Integer.toString_inj.1 (Text.tagged_inj.1 h)]
  case text.text s t => rw [Text.quoteWith_inj.1 (Text.tagged_inj.1 h)]
  case foreign.foreign f g => rw [Foreign.debugWith_inj.1 (Text.tagged_inj.1 h)]
  all_goals simp [← String.toList_inj] at h

/-- A type name may imitate a quoted rendering, but a rendering cannot imitate a type name: its own
quotes are escaped. -/
example :
    (Value.foreign (.object "A: \"b\"" "c")).debugWith (Text.quoteWith fun _ => false) =
        "Other(Object(A: \"b\": \"c\"))" ∧
      (Value.foreign (.object "A" "b\": \"c")).debugWith (Text.quoteWith fun _ => false) =
        "Other(Object(A: \"b\\\": \\\"c\"))" := by
  decide

/-- Stored values have the same debug text exactly when they have the same representation, whichever
characters are written by their code points, and however a name imitates the text around it. -/
theorem Stored.debug_identifies (m : Memory) (a b : Stored m) :
    (a.value.debug = b.value.debug ↔ a.same b = true) ∧
    ∀ hidden : Char → Bool,
      (a.value.debugWith (Text.quoteWith hidden) = b.value.debugWith (Text.quoteWith hidden) ↔
        a.same b = true) := by
  have hall : ∀ hidden : Char → Bool,
      (a.value.debugWith (Text.quoteWith hidden) = b.value.debugWith (Text.quoteWith hidden) ↔
        a.same b = true) := fun _ => Value.debugWith_inj.trans Stored.same_iff.symm
  exact ⟨hall Text.isUnprintable, hall⟩

end AdaptiveAdd
