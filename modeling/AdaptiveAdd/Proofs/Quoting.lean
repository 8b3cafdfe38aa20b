import AdaptiveAdd.Text.Quoted

/-!
# Reading quoted texts back

A quoted text determines what is quoted, whichever characters are escaped by
their code points.  Moreover, a quoted text at the end of another text can be
found there, whatever stands in front of it.

There are three groups.

* Digits.  Numerals of different numbers differ, and hexadecimal ones end before
  the brace that follows them.
* From the left.  `EscapeOf` lists the forms of an escape.  No escape begins
  another one (`EscapeOf.append_inj`), so the body of a quoted text can be cut
  into escapes in one way only (`flatMap_escape_inj`, `quoteWith_inj`).
* From the right.  Inside quotes a quote only stands after a backslash
  (`exists_of_flatMap_escape_eq`).  The opening one of a quoted text that stands
  after a space is therefore the last one without a backslash in front, apart from
  the closing one (`append_quoteWith_inj`).
-/

namespace AdaptiveAdd.Text

/-! ## Digits -/

/-- Nothing but digits stands in a numeral. -/
theorem notMem_toDigits {b n : Nat} (hb : 1 < b) {c : Char} (hc : ∀ d, Nat.digitChar d ≠ c) :
    c ∉ Nat.toDigits b n := by
  intro hmem
  induction n using Nat.strongRecOn with
  | ind n ih =>
    rw [Nat.toDigits_eq_if hb] at hmem
    split at hmem
    · exact hc n (List.mem_singleton.1 hmem).symm
    · rcases List.mem_append.1 hmem with hmem | hmem
      · exact ih (n / b) (Nat.div_lt_self (by omega) hb) hmem
      · exact hc (n % b) (List.mem_singleton.1 hmem).symm

theorem digitChar_inj {m n : Nat} (hm : m < 16) (hn : n < 16)
    (h : Nat.digitChar m = Nat.digitChar n) : m = n := by
  have hall : ∀ i < 16, ∀ j < 16, Nat.digitChar i = Nat.digitChar j → i = j := by decide
  exact hall m hm n hn h

/-- Numerals of different numbers are different. -/
theorem toDigits_inj {b m n : Nat} (hb : 1 < b) (hdigit : b ≤ 16)
    (h : Nat.toDigits b m = Nat.toDigits b n) : m = n := by
  induction m using Nat.strongRecOn generalizing n with
  | ind m ih =>
    have hlast : ∀ k : Nat, k % b < 16 := fun k =>
      Nat.lt_of_lt_of_le (Nat.mod_lt k (by omega)) hdigit
    rw [Nat.toDigits_eq_if (n := m) hb, Nat.toDigits_eq_if (n := n) hb] at h
    -- Each numeral is one digit, or a shorter numeral and a digit.
    split at h <;> split at h
    · exact digitChar_inj (by omega) (by omega) (List.singleton_inj.1 h)
    · exact absurd (List.append_eq_singleton_iff.1 h.symm) (by simp [Nat.toDigits_ne_nil])
    · exact absurd (List.append_eq_singleton_iff.1 h) (by simp [Nat.toDigits_ne_nil])
    · obtain ⟨hinit, hend⟩ := List.append_inj' h rfl
      have hdiv : m / b = n / b := ih (m / b) (Nat.div_lt_self (by omega) hb) hinit
      have hmod : m % b = n % b := digitChar_inj (hlast m) (hlast n) (List.singleton_inj.1 hend)
      rw [← Nat.div_add_mod m b, hdiv, hmod, Nat.div_add_mod n b]

theorem hexDigits_inj {c d : Char} (h : hexDigits c = hexDigits d) : c = d :=
  Char.toNat_inj.1 (toDigits_inj (by decide) (by decide) h)

theorem notMem_hexDigits {c : Char} (hc : ∀ d, Nat.digitChar d ≠ c) (d : Char) :
    c ∉ hexDigits d :=
  notMem_toDigits (by decide) hc

/-! ## From the left -/

/-- The text in front of the first `sep` and the text after it are determined. -/
theorem append_cons_inj {sep : Char} {x y u v : List Char} (hx : sep ∉ x) (hy : sep ∉ y)
    (h : x ++ sep :: u = y ++ sep :: v) : x = y ∧ u = v := by
  induction x generalizing y with
  | nil =>
    cases y with
    | nil => exact ⟨rfl, (List.cons.inj h).2⟩
    | cons b y => exact absurd ((List.cons.inj h).1 ▸ List.mem_cons_self) hy
  | cons a x ih =>
    cases y with
    | nil => exact absurd ((List.cons.inj h).1 ▸ List.mem_cons_self) hx
    | cons b y =>
      obtain ⟨hhead, htail⟩ := List.cons.inj h
      obtain ⟨heq, hrest⟩ :=
        ih (fun hmem => hx (.tail a hmem)) (fun hmem => hy (.tail b hmem)) htail
      exact ⟨by rw [hhead, heq], hrest⟩

/-- The text in front of the last `sep` and the text after it are determined. -/
theorem append_cons_inj_right {sep : Char} {x y u v : List Char} (hu : sep ∉ u) (hv : sep ∉ v)
    (h : x ++ sep :: u = y ++ sep :: v) : x = y ∧ u = v := by
  have hreversed : u.reverse ++ sep :: x.reverse = v.reverse ++ sep :: y.reverse := by
    simpa using congrArg List.reverse h
  obtain ⟨hrest, hstart⟩ := append_cons_inj (by simpa using hu) (by simpa using hv) hreversed
  exact ⟨List.reverse_inj.1 hstart, List.reverse_inj.1 hrest⟩

/-- The forms in which `c` can be written inside quotes. -/
inductive EscapeOf (c : Char) : List Char → Prop where
  | letter (l : Char) (hletter : letter? c = some l) : EscapeOf c ['\\', l]
  | codePoint (hletter : letter? c = none) :
      EscapeOf c ('\\' :: 'u' :: '\x7b' :: (hexDigits c ++ ['\x7d']))
  | plain (hletter : letter? c = none) : EscapeOf c [c]

theorem escapeOf_escape (hidden : Char → Bool) (c : Char) : EscapeOf c (escape hidden c) := by
  unfold escape
  split
  · exact .letter _ ‹_›
  · split
    · exact .codePoint ‹_›
    · exact .plain ‹_›

theorem mem_letters_of_letter? {c l : Char} (h : letter? c = some l) : (c, l) ∈ letters := by
  obtain ⟨before, after, hletters, -⟩ := List.lookup_eq_some_iff.1 h
  rw [hletters]
  exact List.mem_append_right _ List.mem_cons_self

theorem letter?_inj {c d l : Char} (hc : letter? c = some l) (hd : letter? d = some l) :
    c = d := by
  have hall : ∀ p ∈ letters, ∀ q ∈ letters, p.2 = q.2 → p.1 = q.1 := by decide
  exact hall (c, l) (mem_letters_of_letter? hc) (d, l) (mem_letters_of_letter? hd) rfl

/-- A code point is not mistaken for a letter. -/
theorem letter?_ne_u {c : Char} : letter? c ≠ some 'u' := by
  intro h
  have hall : ∀ p ∈ letters, p.2 ≠ 'u' := by decide
  exact hall (c, 'u') (mem_letters_of_letter? h) rfl

theorem ne_of_letter? {c special l : Char} (hspecial : letter? special = some l)
    (h : letter? c = none) : c ≠ special := by
  rintro rfl
  rw [hspecial] at h
  cases h

namespace EscapeOf

variable {c d : Char} {x y u v : List Char}

theorem ne_nil (h : EscapeOf c x) : x ≠ [] := by
  cases h <;> exact List.cons_ne_nil _ _

/-- No escape begins another one. -/
theorem append_inj (hx : EscapeOf c x) (hy : EscapeOf d y) (h : x ++ u = y ++ v) :
    c = d ∧ u = v := by
  cases hx with
  | letter l hc =>
    cases hy with
    | letter k hd =>
      obtain ⟨-, h⟩ := List.cons.inj h
      obtain ⟨rfl, hrest⟩ := List.cons.inj h
      exact ⟨letter?_inj hc hd, hrest⟩
    | codePoint hd =>
      obtain ⟨-, h⟩ := List.cons.inj h
      obtain ⟨rfl, -⟩ := List.cons.inj h
      exact absurd hc letter?_ne_u
    | plain hd => exact absurd (List.cons.inj h).1.symm (ne_of_letter? rfl hd)
  | codePoint hc =>
    cases hy with
    | letter k hd =>
      obtain ⟨-, h⟩ := List.cons.inj h
      obtain ⟨rfl, -⟩ := List.cons.inj h
      exact absurd hd letter?_ne_u
    | codePoint hd =>
      simp only [List.cons_append, List.append_assoc, List.nil_append, List.cons.injEq,
        true_and] at h
      have hbrace : ∀ c, '\x7d' ∉ hexDigits c :=
        notMem_hexDigits fun _ => Nat.digitChar_ne '\x7d' rfl
      obtain ⟨hdigits, hrest⟩ := append_cons_inj (hbrace c) (hbrace d) h
      exact ⟨hexDigits_inj hdigits, hrest⟩
    | plain hd => exact absurd (List.cons.inj h).1.symm (ne_of_letter? rfl hd)
  | plain hc =>
    cases hy with
    | letter k hd => exact absurd (List.cons.inj h).1 (ne_of_letter? rfl hc)
    | codePoint hd => exact absurd (List.cons.inj h).1 (ne_of_letter? rfl hc)
    | plain hd => exact List.cons.inj h

/-- Within an escape, a quote only stands after the backslash. -/
theorem eq_backslash_of_eq_append (hx : EscapeOf c x) (h : x = u ++ '"' :: v) : u = ['\\'] := by
  have hmem : '"' ∈ x := by
    rw [h]
    exact List.mem_append_right u List.mem_cons_self
  cases hx with
  | letter l hletter =>
    match u with
    | [] => cases (List.cons.inj h).1
    | [b] => rw [(List.cons.inj h).1]
    | b :: b' :: u => simp at h
  | codePoint hletter =>
    have hdigits : '"' ∉ hexDigits c := notMem_hexDigits (fun _ => Nat.digitChar_ne '"' rfl) c
    simp [hdigits] at hmem
  | plain hletter =>
    exact absurd (List.mem_singleton.1 hmem).symm (ne_of_letter? rfl hletter)

end EscapeOf

/-- Escapes are cut off one by one. -/
theorem flatMap_escape_inj {hidden : Char → Bool} {cs ds : List Char}
    (h : cs.flatMap (escape hidden) = ds.flatMap (escape hidden)) : cs = ds := by
  induction cs generalizing ds with
  | nil =>
    cases ds with
    | nil => rfl
    | cons d ds =>
      exact absurd (List.append_eq_nil_iff.1 h.symm).1 (escapeOf_escape hidden d).ne_nil
  | cons c cs ih =>
    cases ds with
    | nil => exact absurd (List.append_eq_nil_iff.1 h).1 (escapeOf_escape hidden c).ne_nil
    | cons d ds =>
      obtain ⟨hhead, htail⟩ := (escapeOf_escape hidden c).append_inj (escapeOf_escape hidden d) h
      rw [hhead, ih htail]

/-- Quoted texts differ where the texts differ. -/
theorem quoteWith_inj {hidden : Char → Bool} {s t : String} :
    quoteWith hidden s = quoteWith hidden t ↔ s = t := by
  constructor
  · intro h
    have hlists := congrArg String.toList h
    rw [toList_quoteWith, toList_quoteWith] at hlists
    have hbodies := List.append_cancel_right (List.cons.inj hlists).2
    exact String.toList_inj.1 (flatMap_escape_inj hbodies)
  · rintro rfl
    rfl

/-! ## From the right -/

/-- Inside quotes, a quote only stands after a backslash. -/
theorem exists_of_flatMap_escape_eq {hidden : Char → Bool} {cs u v : List Char}
    (h : cs.flatMap (escape hidden) = u ++ '"' :: v) : ∃ w, u = w ++ ['\\'] := by
  induction cs generalizing u with
  | nil => simp at h
  | cons c cs ih =>
    rw [List.flatMap_cons] at h
    rcases List.append_eq_append_iff.1 h with ⟨w, hu, hrest⟩ | ⟨w, hescape, hrest⟩
    · obtain ⟨w', rfl⟩ := ih hrest
      exact ⟨escape hidden c ++ w', by rw [hu, List.append_assoc]⟩
    · cases w with
      | nil =>
        -- The quote would be the first character of the next escape.
        obtain ⟨w', hw'⟩ := ih (u := []) hrest.symm
        simp at hw'
      | cons b w =>
        obtain ⟨rfl, -⟩ := List.cons.inj hrest
        exact ⟨[], (escapeOf_escape hidden c).eq_backslash_of_eq_append hescape⟩

/-- Of two places for an opening quote after a space, neither is inside the other's quotes. -/
theorem eq_nil_of_append_flatMap_escape {hidden : Char → Bool} {p q w rest : List Char}
    {cs : List Char} (hstart : q ++ [' ', '"'] = p ++ [' ', '"'] ++ w)
    (hbody : cs.flatMap (escape hidden) = w ++ rest) : w = [] := by
  rcases List.eq_nil_or_concat w with hnil | ⟨w', b, rfl⟩
  · exact hnil
  · rw [List.concat_eq_append] at hstart hbody
    have hend : (q ++ [' ']) ++ ['"'] = (p ++ [' ', '"'] ++ w') ++ [b] := by
      simpa using hstart
    obtain ⟨hspace, hquote⟩ := List.append_inj' hend rfl
    cases hquote
    -- `w` ends in a quote that is inside quotes, so a backslash stands where the space is.
    rw [List.append_assoc] at hbody
    obtain ⟨w'', rfl⟩ := exists_of_flatMap_escape_eq hbody
    rw [← List.append_assoc] at hspace
    cases (List.append_inj' hspace rfl).2

/-- A quoted text after a space is found at the end of a text, whatever stands before the space. -/
theorem append_quoteWith_inj {hidden : Char → Bool} {p q s t : String} :
    p ++ " " ++ quoteWith hidden s = q ++ " " ++ quoteWith hidden t ↔ p = q ∧ s = t := by
  constructor
  · intro h
    have hbodies : (p.toList ++ [' ', '"']) ++ s.toList.flatMap (escape hidden) =
        (q.toList ++ [' ', '"']) ++ t.toList.flatMap (escape hidden) := by
      have hlists := congrArg String.toList h
      simp only [String.toList_append, toList_quoteWith] at hlists
      refine (List.append_left_inj ['"']).1 ?_
      simpa using hlists
    have hstart : p.toList ++ [' ', '"'] = q.toList ++ [' ', '"'] := by
      rcases List.append_eq_append_iff.1 hbodies with ⟨w, hq, hbody⟩ | ⟨w, hp, hbody⟩
      · rw [hq, eq_nil_of_append_flatMap_escape hq hbody, List.append_nil]
      · rw [hp, eq_nil_of_append_flatMap_escape hp hbody, List.append_nil]
    rw [hstart] at hbodies
    exact ⟨String.toList_inj.1 (List.append_cancel_right hstart),
      String.toList_inj.1 (flatMap_escape_inj (List.append_cancel_left hbodies))⟩
  · rintro ⟨rfl, rfl⟩
    rfl

end AdaptiveAdd.Text
