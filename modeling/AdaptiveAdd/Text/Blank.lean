import AdaptiveAdd.Text.CharSet

/-!
# Blank characters

`whiteSpace` is the set of the 25 characters with the property White_Space, and
`trim` takes such characters off both ends of a text.

What `trim` takes off is blank (`exists_eq_append_trim_append`); blank characters
put around a text do not change what it makes of that text
(`trim_append_append`); and between two characters that are not blank it takes
off nothing (`trim_append_append_of_not_blank`).
-/

namespace AdaptiveAdd.Text

/-- The characters with the property White_Space. -/
def whiteSpace : CharSet where
  ranges := [
    (0x9, 0xd), (0x20, 0x20), (0x85, 0x85), (0xa0, 0xa0), (0x1680, 0x1680),
    (0x2000, 0x200a), (0x2028, 0x2029), (0x202f, 0x202f), (0x205f, 0x205f),
    (0x3000, 0x3000)]

/-- Whether `c` is blank. -/
def isBlank (c : Char) : Bool :=
  whiteSpace.contains c

/-- The text without the blank characters at its start. -/
def trimStart (cs : List Char) : List Char :=
  cs.dropWhile isBlank

/-- The text without the blank characters at its end. -/
def trimEnd (cs : List Char) : List Char :=
  (trimStart cs.reverse).reverse

/-- The text without the blank characters at either end. -/
def trim (cs : List Char) : List Char :=
  trimEnd (trimStart cs)

theorem trimStart_append_of_blank {blank : List Char} (hblank : ∀ c ∈ blank, isBlank c = true)
    (cs : List Char) : trimStart (blank ++ cs) = trimStart cs :=
  List.dropWhile_append_of_pos hblank

theorem trimEnd_append_of_blank {blank : List Char} (hblank : ∀ c ∈ blank, isBlank c = true)
    (cs : List Char) : trimEnd (cs ++ blank) = trimEnd cs := by
  rw [trimEnd, List.reverse_append, trimStart_append_of_blank (by simpa using hblank), trimEnd]

theorem trimStart_eq_nil_iff {cs : List Char} :
    trimStart cs = [] ↔ ∀ c ∈ cs, isBlank c = true := by
  induction cs with
  | nil => simp [trimStart]
  | cons c cs ih =>
    by_cases hc : isBlank c = true <;> simp_all [trimStart]

/-- `trimStart` does not look beyond a character that is not blank. -/
theorem trimStart_append_of_not_blank {cs : List Char} (hcs : ¬ ∀ c ∈ cs, isBlank c = true)
    (after : List Char) : trimStart (cs ++ after) = trimStart cs ++ after := by
  have hne : cs.dropWhile isBlank ≠ [] := fun h => hcs (trimStart_eq_nil_iff.1 h)
  simp [trimStart, List.dropWhile_append, hne]

theorem trimEnd_append_of_not_blank {cs : List Char} (hcs : ¬ ∀ c ∈ cs, isBlank c = true)
    (before : List Char) : trimEnd (before ++ cs) = before ++ trimEnd cs := by
  rw [trimEnd, List.reverse_append, trimStart_append_of_not_blank (by simpa using hcs),
    List.reverse_append, List.reverse_reverse, trimEnd]

/-- Blank characters around a text do not change what `trim` makes of it. -/
theorem trim_append_append {before after : List Char}
    (hbefore : ∀ c ∈ before, isBlank c = true) (hafter : ∀ c ∈ after, isBlank c = true)
    (cs : List Char) : trim (before ++ cs ++ after) = trim cs := by
  rw [trim, List.append_assoc, trimStart_append_of_blank hbefore, trim]
  by_cases hcs : ∀ c ∈ cs, isBlank c = true
  · rw [trimStart_append_of_blank hcs, trimStart_eq_nil_iff.2 hafter, trimStart_eq_nil_iff.2 hcs]
  · rw [trimStart_append_of_not_blank hcs, trimEnd_append_of_blank hafter]

/-- `trim` keeps what stands between characters that are not blank. -/
theorem trim_append_append_of_not_blank {before after : List Char}
    (hbefore : ¬ ∀ c ∈ before, isBlank c = true) (hafter : ¬ ∀ c ∈ after, isBlank c = true)
    (cs : List Char) :
    trim (before ++ cs ++ after) = trimStart before ++ cs ++ trimEnd after := by
  rw [trim, List.append_assoc, trimStart_append_of_not_blank hbefore, ← List.append_assoc,
    trimEnd_append_of_not_blank hafter]

/-- A text without blank characters is left as it is. -/
theorem trim_of_not_blank {cs : List Char} (h : ∀ c ∈ cs, isBlank c = false) : trim cs = cs := by
  have hstart : ∀ {cs : List Char}, (∀ c ∈ cs, isBlank c = false) → trimStart cs = cs := by
    intro cs h
    cases cs with
    | nil => rfl
    | cons c cs => exact List.dropWhile_cons_of_neg (by simp [h c List.mem_cons_self])
  rw [trim, hstart h, trimEnd, hstart (by simpa using h), List.reverse_reverse]

theorem exists_eq_append_trimStart (cs : List Char) :
    ∃ blank, (∀ c ∈ blank, isBlank c = true) ∧ cs = blank ++ trimStart cs :=
  ⟨cs.takeWhile isBlank, fun _ hc => List.all_eq_true.1 List.all_takeWhile _ hc,
    List.takeWhile_append_dropWhile.symm⟩

/-- What `trim` takes off is blank. -/
theorem exists_eq_append_trim_append (cs : List Char) :
    ∃ before after, (∀ c ∈ before, isBlank c = true) ∧ (∀ c ∈ after, isBlank c = true) ∧
      cs = before ++ trim cs ++ after := by
  obtain ⟨before, hbefore, hstart⟩ := exists_eq_append_trimStart cs
  obtain ⟨after, hafter, hend⟩ := exists_eq_append_trimStart (trimStart cs).reverse
  refine ⟨before, after.reverse, hbefore, by simpa using hafter, ?_⟩
  have : trimStart cs = trim cs ++ after.reverse := by
    simpa [trim, trimEnd] using congrArg List.reverse hend
  rw [List.append_assoc, ← this, ← hstart]

theorem mem_trim_of_not_blank {cs : List Char} {c : Char} (hmem : c ∈ cs)
    (hc : isBlank c = false) : c ∈ trim cs := by
  obtain ⟨before, after, hbefore, hafter, heq⟩ := exists_eq_append_trim_append cs
  rw [heq] at hmem
  rcases List.mem_append.1 hmem with hmem | hmem
  · rcases List.mem_append.1 hmem with hmem | hmem
    · exact absurd (hbefore c hmem) (by simp [hc])
    · exact hmem
  · exact absurd (hafter c hmem) (by simp [hc])

end AdaptiveAdd.Text
