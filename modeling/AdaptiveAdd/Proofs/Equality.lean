import AdaptiveAdd.Proofs.Meaning
import AdaptiveAdd.Value.Stored
import Std.Data.String.ToInt

/-!
# Laws of the two equalities

Stored values are compared by pairs of representations, by narrowing unbounded
integers and by the cells of payloads.  None of this shows in the answers: two
values are equivalent exactly when they mean the same
(`Stored.equiv_iff_meaning_eq`), and the same exactly when `Stored.value` is.
So both are equivalence relations, and a chain of comparisons may change
representations at every link.

There are three groups.

* What equivalence preserves.  Everything that is shown of a value, and every
  question about it that ignores the representation of numbers, depends on its
  meaning only.  The text of a number determines it (`Value.toInt?_eq_iff_render_eq`).
* The two relations.  `Stored.equivalence_equiv`, `Stored.equivalence_same`, and
  how each is obtained from the other: `Stored.equiv_iff`, `Stored.equiv_of_same`
  and `Stored.same_of_equiv`.
* The assembly, `Stored.laws_of_equality`.
-/

namespace AdaptiveAdd

/-- Decimal numerals of different integers are different. -/
theorem Integer.toString_inj {m n : Int} : toString m = toString n ↔ m = n := by
  rw [Int.toString_eq_repr, Int.toString_eq_repr, Int.repr_inj]

/-- Kinds have different names. -/
theorem Kind.name_inj {k l : Kind} : k.name = l.name ↔ k = l := by
  cases k <;> cases l <;> decide

/-! ## What equivalence preserves -/

namespace Value

theorem toInt?_eq_of_meaning_eq {v w : Value} (h : v.meaning = w.meaning) :
    v.toInt? = w.toInt? := by
  cases v <;> cases w <;> simp_all [meaning, toInt?]

theorem isNumber_eq_of_meaning_eq {v w : Value} (h : v.meaning = w.meaning) :
    v.isNumber = w.isNumber := by
  rw [← isSome_toInt?, toInt?_eq_of_meaning_eq h, isSome_toInt?]

/-- A value that is not a number has one representation. -/
theorem eq_of_meaning_eq {v w : Value} (hnumber : v.isNumber = false)
    (h : v.meaning = w.meaning) : v = w := by
  cases v <;> cases w <;> simp_all [meaning, isNumber]

/-- Numbers with the same meaning differ at most in their kinds. -/
theorem eq_of_meaning_eq_of_kind_eq {v w : Value} (h : v.meaning = w.meaning)
    (hkind : v.kind = w.kind) : v = w := by
  cases v <;> cases w <;> simp_all [meaning, kind, Int64.toInt_inj]

/-- Numbers stand for the same integer exactly when they have the same text. -/
theorem toInt?_eq_iff_render_eq {v w : Value} (hv : v.isNumber = true) (hw : w.isNumber = true) :
    v.toInt? = w.toInt? ↔ v.render = w.render := by
  obtain ⟨m, hm⟩ := exists_toInt?_of_isNumber hv
  obtain ⟨n, hn⟩ := exists_toInt?_of_isNumber hw
  rw [hm, hn, render_of_toInt? hm, render_of_toInt? hn, Option.some_inj, Integer.toString_inj]

/-- Numbers mean the same exactly when they stand for the same integer. -/
theorem meaning_eq_iff_toInt?_eq {v w : Value} (hv : v.isNumber = true)
    (hw : w.isNumber = true) : v.meaning = w.meaning ↔ v.toInt? = w.toInt? := by
  obtain ⟨m, hm⟩ := exists_toInt?_of_isNumber hv
  obtain ⟨n, hn⟩ := exists_toInt?_of_isNumber hw
  rw [hm, hn, meaning_of_toInt? hm, meaning_of_toInt? hn, Option.some_inj, Meaning.number.injEq]

end Value

/-! ## The two relations -/

namespace Stored

variable {m : Memory} {a b : Stored m}

/-- Programs see two stored values as equal exactly when they mean the same. -/
theorem equiv_iff_meaning_eq : a.equiv b = true ↔ a.value.meaning = b.value.meaning := by
  rw [equiv_eq]
  exact Value.equiv_iff_meaning_eq

theorem equivalence_equiv (m : Memory) : Equivalence fun a b : Stored m => a.equiv b = true where
  refl _ := equiv_iff_meaning_eq.2 rfl
  symm h := equiv_iff_meaning_eq.2 (equiv_iff_meaning_eq.1 h).symm
  trans h k := equiv_iff_meaning_eq.2 ((equiv_iff_meaning_eq.1 h).trans (equiv_iff_meaning_eq.1 k))

theorem equivalence_same (m : Memory) : Equivalence fun a b : Stored m => a.same b = true where
  refl _ := same_iff.2 rfl
  symm h := same_iff.2 (same_iff.1 h).symm
  trans h k := same_iff.2 ((same_iff.1 h).trans (same_iff.1 k))

theorem equiv_of_same (h : a.same b = true) : a.equiv b = true :=
  equiv_iff_meaning_eq.2 (congrArg Value.meaning (same_iff.1 h))

theorem same_of_equiv (h : a.equiv b = true) (hname : a.value.kind.name = b.value.kind.name) :
    a.same b = true :=
  same_iff.2 (Value.eq_of_meaning_eq_of_kind_eq (equiv_iff_meaning_eq.1 h) (Kind.name_inj.1 hname))

/-- Equivalence of two numbers is equality of the integers they stand for. -/
theorem equiv_iff_of_isNumber (ha : a.value.isNumber = true) (hb : b.value.isNumber = true) :
    a.equiv b = true ↔ a.value.toInt? = b.value.toInt? :=
  equiv_iff_meaning_eq.trans (Value.meaning_eq_iff_toInt?_eq ha hb)

/-- Numbers are compared as integers, and other values by representation. -/
theorem equiv_iff :
    a.equiv b = true ↔
      (a.value.isNumber = true ∧ b.value.isNumber = true ∧ a.value.toInt? = b.value.toInt?) ∨
        (a.value.isNumber = false ∧ b.value.isNumber = false ∧ a.same b = true) := by
  constructor
  · intro h
    have hmeaning := equiv_iff_meaning_eq.1 h
    have hnumbers := Value.isNumber_eq_of_meaning_eq hmeaning
    cases ha : a.value.isNumber with
    | true => exact .inl ⟨rfl, hnumbers ▸ ha, Value.toInt?_eq_of_meaning_eq hmeaning⟩
    | false =>
      exact .inr ⟨rfl, hnumbers ▸ ha, same_iff.2 (Value.eq_of_meaning_eq ha hmeaning)⟩
  · rintro (⟨ha, hb, h⟩ | ⟨-, -, h⟩)
    · exact (equiv_iff_of_isNumber ha hb).2 h
    · exact equiv_of_same h

/-! ## The assembly -/

/-- Equivalence and sameness of stored values are equivalence relations, whichever representations
meet and whichever payloads are shared.  Numbers are equivalent when they stand for the same
integer, or, which is the same, when they have the same text; other values only when they are the
same.  The two relations agree within each kind.  Equivalent values cannot be told apart by their
texts, by what a message shows of them, or by a question about them that ignores representation. -/
theorem laws_of_equality (m : Memory) :
    Equivalence (fun a b : Stored m => a.equiv b = true) ∧
    Equivalence (fun a b : Stored m => a.same b = true) ∧
    ∀ a b : Stored m,
      (a.equiv b = true ↔
        (a.value.isNumber = true ∧ b.value.isNumber = true ∧ a.value.toInt? = b.value.toInt?) ∨
          (a.value.isNumber = false ∧ b.value.isNumber = false ∧ a.same b = true)) ∧
      (a.same b = true → a.equiv b = true) ∧
      (a.equiv b = true → a.value.kind.name = b.value.kind.name → a.same b = true) ∧
      (a.equiv b = true →
        a.value.render = b.value.render ∧
        a.value.diagnostic = b.value.diagnostic ∧
        a.value.metaName? = b.value.metaName? ∧
        a.value.isText = b.value.isText ∧
        a.value.isNumber = b.value.isNumber ∧
        a.value.asText? = b.value.asText? ∧
        a.value.toInt? = b.value.toInt?) ∧
      (a.value.isNumber = true → b.value.isNumber = true →
        (a.equiv b = true ↔ a.value.render = b.value.render)) := by
  refine ⟨equivalence_equiv m, equivalence_same m, fun a b =>
    ⟨equiv_iff, equiv_of_same, same_of_equiv, fun h => ?_, fun ha hb => ?_⟩⟩
  · have hmeaning := equiv_iff_meaning_eq.1 h
    exact ⟨Value.render_eq_of_meaning_eq hmeaning, Value.diagnostic_eq_of_meaning_eq hmeaning,
      Value.metaName?_eq_of_meaning_eq hmeaning, Value.isText_eq_of_meaning_eq hmeaning,
      Value.isNumber_eq_of_meaning_eq hmeaning, Value.asText?_eq_of_meaning_eq hmeaning,
      Value.toInt?_eq_of_meaning_eq hmeaning⟩
  · rw [equiv_iff_of_isNumber ha hb, Value.toInt?_eq_iff_render_eq ha hb]

end Stored

end AdaptiveAdd
