import AdaptiveAdd.Policy
import Mathlib.Data.List.Forall2

/-!
# The grammar of settings

A setting names a policy when it is the keyword of the policy, with its letters
in either case, between blank characters (`Text.Spells`).  This module proves
that `Policy.parse?` accepts exactly these settings, and what the environment
variable selects for every value that it can have.

There are three groups.

* Characters.  The blank ones and the cases of letters are given by code points:
  `Text.isBlank_iff` lists the former one by one, and `Text.toLower_eq_toLower_iff`
  says that folding identifies the two cases of the letters A to Z, and nothing
  else.
* The grammar.  No letter is blank, so trimming stops at the keyword from both
  ends (`Policy.parse?_eq_some_iff_spells`), and whatever stands between two
  characters that are not blank is left for the comparison to refuse
  (`Policy.toLower_mem_keyword_of_parse?`).
* The environment.  Bytes stand for a text exactly when they are its UTF-8 form
  (`Policy.settingOfBytes?_eq_some_iff`).
-/

namespace AdaptiveAdd

/-! ## Characters -/

namespace Text

/-- The code points of the characters with the property White_Space. -/
def blankCodePoints : List Nat := [
  0x9, 0xa, 0xb, 0xc, 0xd, 0x20, 0x85, 0xa0, 0x1680, 0x2000, 0x2001, 0x2002, 0x2003, 0x2004, 0x2005,
  0x2006, 0x2007, 0x2008, 0x2009, 0x200a, 0x2028, 0x2029, 0x202f, 0x205f, 0x3000]

/-- All characters of the text are blank. -/
def AllBlank (s : String) : Prop :=
  ∀ c ∈ s.toList, c.toNat ∈ blankCodePoints

/-- `c` is one of the letters A to Z, and `d` is the same letter in lower case. -/
def IsCapitalOf (c d : Char) : Prop :=
  0x41 ≤ c.toNat ∧ c.toNat ≤ 0x5a ∧ d.toNat = c.toNat + 0x20

/-- The two characters are the same up to the case of the letters A to Z. -/
def SameUpToCase (c d : Char) : Prop :=
  c = d ∨ IsCapitalOf c d ∨ IsCapitalOf d c

/-- The two texts are the same up to the case of the letters A to Z. -/
def CaseVariant (s t : String) : Prop :=
  List.Forall₂ SameUpToCase s.toList t.toList

/-- The text is the keyword, with its letters in either case, between blank characters. -/
def Spells (s keyword : String) : Prop :=
  ∃ before word after : String,
    s = before ++ word ++ after ∧ AllBlank before ∧ CaseVariant word keyword ∧ AllBlank after

theorem isBlank_iff {c : Char} : isBlank c = true ↔ c.toNat ∈ blankCodePoints := by
  have hpoints : blankCodePoints =
      whiteSpace.ranges.flatMap fun range => List.range' range.1 (range.2 + 1 - range.1) := by
    decide
  rw [hpoints, List.mem_flatMap]
  refine CharSet.mem_iff.trans (exists_congr fun range => and_congr_right fun _ => ?_)
  rw [List.mem_range'_1]
  omega

theorem allBlank_iff {s : String} : AllBlank s ↔ ∀ c ∈ s.toList, isBlank c = true := by
  simp only [AllBlank, isBlank_iff]

/-- No blank character lies between A and z. -/
theorem blankCodePoints_outside : ∀ n ∈ blankCodePoints, n < 0x41 ∨ 0x7a < n := by
  decide

theorem isBlank_eq_false {c : Char} (h : 0x41 ≤ c.toNat ∧ c.toNat ≤ 0x7a) : isBlank c = false := by
  rw [Bool.eq_false_iff, ne_eq, isBlank_iff]
  intro hmem
  have houtside := blankCodePoints_outside c.toNat hmem
  omega

theorem toNat_toLower (c : Char) :
    c.toLower.toNat = if 0x41 ≤ c.toNat ∧ c.toNat ≤ 0x5a then c.toNat + 0x20 else c.toNat := by
  have hcase : (c.val ≥ 'A'.val ∧ c.val ≤ 'Z'.val) ↔ 0x41 ≤ c.toNat ∧ c.toNat ≤ 0x5a := Iff.rfl
  unfold Char.toLower
  by_cases h : 0x41 ≤ c.toNat ∧ c.toNat ≤ 0x5a
  · rw [dif_pos (hcase.2 h), if_pos h]
    show (c.val + ('a'.val - 'A'.val)).toNat = c.toNat + 0x20
    have hval : c.val.toNat = c.toNat := rfl
    have hshift : ('a'.val - 'A'.val).toNat = 0x20 := rfl
    rw [UInt32.toNat_add, hshift]
    omega
  · rw [dif_neg (mt hcase.1 h), if_neg h]

theorem toLower_eq_toLower_iff {c d : Char} : c.toLower = d.toLower ↔ SameUpToCase c d := by
  rw [← Char.toNat_inj, toNat_toLower, toNat_toLower, SameUpToCase, ← Char.toNat_inj]
  unfold IsCapitalOf
  split <;> split <;> omega

/-- Whether a character is blank does not depend on its case. -/
theorem isBlank_toLower (c : Char) : isBlank c.toLower = isBlank c := by
  have hlower := toNat_toLower c
  by_cases h : 0x41 ≤ c.toNat ∧ c.toNat ≤ 0x5a
  · rw [if_pos h] at hlower
    rw [isBlank_eq_false (c := c) (by omega), isBlank_eq_false (by omega)]
  · rw [if_neg h, Char.toNat_inj] at hlower
    rw [hlower]

theorem trimStart_map_toLower (cs : List Char) :
    trimStart (cs.map Char.toLower) = (trimStart cs).map Char.toLower := by
  have hfold : isBlank ∘ Char.toLower = isBlank := funext isBlank_toLower
  rw [trimStart, List.dropWhile_map, hfold, trimStart]

theorem trim_map_toLower (cs : List Char) :
    trim (cs.map Char.toLower) = (trim cs).map Char.toLower := by
  rw [trim, trimEnd, trimStart_map_toLower, ← List.map_reverse, trimStart_map_toLower,
    ← List.map_reverse, trim, trimEnd]

theorem caseVariant_iff {s t : String} :
    CaseVariant s t ↔ s.toList.map Char.toLower = t.toList.map Char.toLower := by
  rw [← List.forall₂_eq_eq_eq, List.forall₂_map_left_iff, List.forall₂_map_right_iff]
  simp only [toLower_eq_toLower_iff]
  rfl

end Text

/-! ## The grammar -/

namespace Policy

open Text

variable {s : String} {p : Policy}

theorem sameLetters_iff {a b : List Char} :
    sameLetters a b = true ↔ a.map Char.toLower = b.map Char.toLower :=
  beq_iff_eq

/-- A keyword is written in small letters. -/
theorem keyword_letters (p : Policy) {c : Char} (hc : c ∈ p.keyword.toList) :
    0x61 ≤ c.toNat ∧ c.toNat ≤ 0x7a := by
  have hall : p.keyword.toList.all (fun c => 0x61 ≤ c.toNat && c.toNat ≤ 0x7a) = true := by
    cases p <;> decide
  simpa using List.all_eq_true.1 hall c hc

theorem map_toLower_keyword (p : Policy) :
    p.keyword.toList.map Char.toLower = p.keyword.toList := by
  cases p <;> decide

/-- A setting names a policy when it is the keyword once it is trimmed and folded. -/
theorem parse?_eq_some_iff :
    parse? s = some p ↔ (trim s.toList).map Char.toLower = p.keyword.toList := by
  have hsame : ∀ q : Policy, sameLetters (trim s.toList) q.keyword.toList = true ↔
      (trim s.toList).map Char.toLower = q.keyword.toList := by
    intro q
    rw [sameLetters_iff, map_toLower_keyword]
  have hne : adaptive.keyword.toList ≠ generic.keyword.toList := by decide
  unfold parse?
  dsimp only
  simp only [hsame]
  split <;> rename_i h
  · cases p <;> simp [h, hne]
  · split <;> rename_i h' <;> cases p <;> simp_all

/-- Texts that differ in case and in the blanks around them name the same policy. -/
theorem parse?_congr {s t : String}
    (h : (trim s.toList).map Char.toLower = (trim t.toList).map Char.toLower) :
    parse? s = parse? t := by
  ext p
  rw [parse?_eq_some_iff, parse?_eq_some_iff, h]

/-- Everything that is left of a setting when it is trimmed belongs to the keyword. -/
theorem toLower_mem_keyword_of_parse? (h : parse? s = some p) {c : Char} (hc : c ∈ trim s.toList) :
    c.toLower ∈ p.keyword.toList := by
  rw [← parse?_eq_some_iff.1 h]
  exact List.mem_map_of_mem hc

/-- A setting with more than letters in it, once it is trimmed, names no policy. -/
theorem parse?_eq_none_of_mem_trim {c : Char} (hc : c ∈ trim s.toList)
    (hletter : c.toNat < 0x41 ∨ 0x7a < c.toNat) : parse? s = none := by
  rw [Option.eq_none_iff_forall_ne_some]
  intro p h
  have hlower := keyword_letters p (toLower_mem_keyword_of_parse? h hc)
  rw [toNat_toLower] at hlower
  split at hlower <;> omega

/-- A setting with blanks between characters that are not blank names no policy. -/
theorem parse?_eq_none_of_inner_blank {before inner after : String}
    (h : s = before ++ inner ++ after) (hbefore : ¬ AllBlank before) (hne : inner ≠ "")
    (hinner : AllBlank inner) (hafter : ¬ AllBlank after) : parse? s = none := by
  rw [allBlank_iff] at hbefore hafter
  obtain ⟨c, hc⟩ := List.exists_mem_of_ne_nil inner.toList (by simpa using hne)
  have hmem : c ∈ trim s.toList := by
    rw [h, String.toList_append, String.toList_append,
      trim_append_append_of_not_blank hbefore hafter]
    exact List.mem_append_left _ (List.mem_append_right _ hc)
  exact parse?_eq_none_of_mem_trim hmem (blankCodePoints_outside c.toNat (hinner c hc))

theorem parse?_eq_some_iff_spells : parse? s = some p ↔ Spells s p.keyword := by
  constructor
  · intro h
    obtain ⟨before, after, hbefore, hafter, heq⟩ := exists_eq_append_trim_append s.toList
    refine ⟨String.ofList before, String.ofList (trim s.toList), String.ofList after, ?_, ?_, ?_, ?_⟩
    · rw [← String.toList_inj]
      simpa using heq
    · simpa [allBlank_iff] using hbefore
    · rw [caseVariant_iff, map_toLower_keyword, String.toList_ofList]
      exact parse?_eq_some_iff.1 h
    · simpa [allBlank_iff] using hafter
  · rintro ⟨before, word, after, rfl, hbefore, hword, hafter⟩
    rw [allBlank_iff] at hbefore hafter
    rw [caseVariant_iff, map_toLower_keyword] at hword
    have hblank : ∀ c ∈ word.toList, isBlank c = false := by
      intro c hc
      have hletter := keyword_letters p (hword ▸ List.mem_map_of_mem hc)
      rw [← isBlank_toLower]
      exact isBlank_eq_false (by omega)
    rw [parse?_eq_some_iff, String.toList_append, String.toList_append,
      trim_append_append hbefore hafter, trim_of_not_blank hblank, hword]

/-! ## The environment -/

/-- Bytes stand for a text exactly when they are its form in UTF-8. -/
theorem settingOfBytes?_eq_some_iff {bytes : ByteArray} :
    settingOfBytes? bytes = some s ↔ s.toUTF8 = bytes := by
  constructor
  · intro h
    unfold settingOfBytes? String.fromUTF8? at h
    split at h
    · cases h
      rfl
    · cases h
  · rintro rfl
    exact dif_pos s.isValidUTF8

theorem settingOfBytes?_eq_none_iff {bytes : ByteArray} :
    settingOfBytes? bytes = none ↔ ∀ s : String, s.toUTF8 ≠ bytes := by
  simp only [Option.eq_none_iff_forall_ne_some, ne_eq, settingOfBytes?_eq_some_iff]

/-- Settings, and what the environment variable selects.

A setting names a policy when it is the keyword of the policy, with its letters in either case,
between blank characters, and so it names at most one.  Blanks around it and the case of its letters
never matter; blanks inside it, and letters beyond ASCII, never name a policy.  The environment
variable selects the policy that it names; where it is not set or is no text, the adaptive one; and
where it names none, the adaptive one too, with a warning that shows the setting as it is. -/
theorem settings_and_selection (s : String) :
    (parse? s = some .adaptive ↔ Spells s "adaptive") ∧
    (parse? s = some .generic ↔ Spells s "generic") ∧
    ¬ (Spells s "adaptive" ∧ Spells s "generic") ∧
    (∀ before after : String, AllBlank before → AllBlank after →
      parse? (before ++ s ++ after) = parse? s) ∧
    (∀ t : String, CaseVariant t s → parse? t = parse? s) ∧
    (∀ before inner after : String, s = before ++ inner ++ after →
      ¬ AllBlank before → inner ≠ "" → AllBlank inner → ¬ AllBlank after → parse? s = none) ∧
    (∀ c ∈ s.toList, c.toNat ∉ blankCodePoints → 0x7f < c.toNat → parse? s = none) ∧
    ofEnvironment none = (.adaptive, []) ∧
    (∀ bytes : ByteArray, (∀ t : String, t.toUTF8 ≠ bytes) →
      ofEnvironment (some bytes) = (.adaptive, [])) ∧
    (∀ p, parse? s = some p → ofEnvironment (some s.toUTF8) = (p, [])) ∧
    (parse? s = none → ∃ warning,
      ofEnvironment (some s.toUTF8) = (.adaptive, [warning]) ∧
      warning.level = .warn ∧
      warning.message = "unrecognised dispatch mode, using adaptive" ∧
      warning.fields = [("value", .text s), ("var", .text "EMBER_DISPATCH")]) := by
  have hadaptive : parse? s = some .adaptive ↔ Spells s "adaptive" := parse?_eq_some_iff_spells
  have hgeneric : parse? s = some .generic ↔ Spells s "generic" := parse?_eq_some_iff_spells
  have htext : settingOfBytes? s.toUTF8 = some s := settingOfBytes?_eq_some_iff.2 rfl
  refine ⟨hadaptive, hgeneric, ?_, ?_, ?_, ?_, ?_, rfl, ?_, ?_, ?_⟩
  · rintro ⟨ha, hg⟩
    rw [← hadaptive] at ha
    rw [← hgeneric, ha] at hg
    cases hg
  · intro before after hbefore hafter
    rw [allBlank_iff] at hbefore hafter
    apply parse?_congr
    rw [String.toList_append, String.toList_append, trim_append_append hbefore hafter]
  · intro t ht
    apply parse?_congr
    rw [← trim_map_toLower, ← trim_map_toLower, caseVariant_iff.1 ht]
  · intro before inner after h hbefore hne hinner hafter
    exact parse?_eq_none_of_inner_blank h hbefore hne hinner hafter
  · intro c hc hblank hascii
    have hc' : isBlank c = false := by rwa [Bool.eq_false_iff, ne_eq, isBlank_iff]
    exact parse?_eq_none_of_mem_trim (mem_trim_of_not_blank hc hc') (by omega)
  · intro bytes hbytes
    rw [ofEnvironment, Option.bind_some, settingOfBytes?_eq_none_iff.2 hbytes]
    rfl
  · intro p h
    rw [ofEnvironment, Option.bind_some, htext, ofSetting, h]
  · intro h
    rw [ofEnvironment, Option.bind_some, htext, ofSetting, h]
    exact ⟨_, rfl, rfl, rfl, rfl⟩

/-- An ideographic space is blank; an I with a dot above is no case of i. -/
example : parse? "\u3000GENERIC\n" = some .generic ∧ parse? "ADAPT\u0130VE" = none := by
  decide

end Policy

end AdaptiveAdd
