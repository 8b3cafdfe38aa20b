import AdaptiveAdd.Proofs.Outcome

/-!
# Chains of additions

`Site.chain` adds the elements of a list to an accumulator, one call after the
other, all at one site.  The accumulator changes its kind on the way, from a word
to an unbounded integer and from a number to a text, and so does what the site
has learned.

* Two steps of a chain, and how chains are put together
  (`Site.outcome_chain_append_of_ok`, `Site.outcome_chain_append_of_error`).
* The three ways of a chain.  Numbers come to their exact sum
  (`Site.outcome_chain_numbers`, which also says in which representation); once
  the accumulator is a text, everything is joined to it
  (`Site.outcome_chain_text`); and a chain without a text that meets anything
  else fails (`Site.exists_error_chain`), at the first place where that is so
  (`Site.exists_of_outcome_chain_eq_error`, `Site.blocked_of_isUnsupported`).
  `Site.exists_ok_chain_iff` and `Site.exists_ok_chain_iff_of_text` say which
  chains succeed.
* `Site.chain_after_history` puts them together for a site with any calls behind
  it.
-/

namespace AdaptiveAdd

namespace Value

/-- The exact sum of the numbers among the values. -/
def exactSum : List Value → Int
  | [] => 0
  | x :: xs => x.toInt?.getD 0 + exactSum xs

/-- The texts of the values, one after the other. -/
def renderAll (xs : List Value) : String :=
  String.join (xs.map render)

/-- What a chain joins to its first text: the text of the sum of the values before it, or that of
the value before it if there is only one. -/
def leadingText : List Value → String
  | [] => ""
  | [x] => x.render
  | xs => toString (exactSum xs)

theorem renderAll_cons (x : Value) (xs : List Value) :
    renderAll (x :: xs) = x.render ++ renderAll xs :=
  String.join_cons

theorem exactSum_cons {x : Value} {n : Int} (h : x.toInt? = some n) (xs : List Value) :
    exactSum (x :: xs) = n + exactSum xs := by
  rw [exactSum, h]
  rfl

/-- The sum of two numbers in front of others can be added up first. -/
theorem exactSum_cons_cons {x y v : Value} {m n : Int} (hx : x.toInt? = some m)
    (hy : y.toInt? = some n) (hv : v.toInt? = some (m + n)) (xs : List Value) :
    exactSum (v :: xs) = exactSum (x :: y :: xs) := by
  rw [exactSum_cons hv, exactSum_cons hx, exactSum_cons hy, Int.add_assoc]

/-- Step `i` of a chain adds the value at place `i`.  It is blocked where that value can only be
added to a text, or where it is the first step and adds to such a value. -/
def Blocked (values : List Value) (i : Nat) : Prop :=
  1 ≤ i ∧ ((∃ x, values[i]? = some x ∧ x.kind = .foreign) ∨
    i = 1 ∧ ∃ x, values.head? = some x ∧ x.kind = .foreign)

/-- Every sum on the way is a word. -/
def SumsFit (first : Value) (xs : List Value) : Prop :=
  ∀ front, front <+: xs → front ≠ [] → Integer.Fits (exactSum (first :: front))

theorem sumsFit_nil (first : Value) : SumsFit first [] :=
  fun _ hprefix hne => absurd (List.prefix_nil.1 hprefix) hne

/-- The sums on the way start with the first one, and go on from there. -/
theorem sumsFit_cons {first x v : Value} {m n : Int} (hfirst : first.toInt? = some m)
    (hx : x.toInt? = some n) (hv : v.toInt? = some (m + n)) (xs : List Value) :
    SumsFit first (x :: xs) ↔ Integer.Fits (m + n) ∧ SumsFit v xs := by
  have htwo : exactSum [first, x] = m + n := by
    rw [exactSum_cons hfirst, exactSum_cons hx, exactSum, Int.add_zero]
  have hmore : ∀ front, exactSum (v :: front) = exactSum (first :: x :: front) :=
    exactSum_cons_cons hfirst hx hv
  constructor
  · intro h
    constructor
    · rw [← htwo]
      exact h [x] (List.prefix_append [x] xs) (List.cons_ne_nil x [])
    · intro front hprefix _
      rw [hmore]
      exact h (x :: front) (List.prefix_cons_inj x |>.2 hprefix) (List.cons_ne_nil x front)
  · rintro ⟨hfits, h⟩ front hprefix hne
    obtain hnil | ⟨rest, rfl, hrest⟩ := List.prefix_cons_iff.1 hprefix
    · exact absurd hnil hne
    · by_cases hnil : rest = []
      · rw [hnil, htwo]
        exact hfits
      · rw [← hmore]
        exact h rest hrest hnil

end Value

open Value (exactSum renderAll leadingText SumsFit)

namespace Site

variable {s : Site} {first x acc : Value} {xs : List Value}

/-! ## Steps of a chain -/

/-- A chain whose first call succeeds goes on with the sum, at the site after the call. -/
theorem chain_cons_of_ok (h : (s.eval first x).outcome = .ok acc) (xs : List Value) :
    (s.chain first (x :: xs)).outcome = ((s.eval first x).site.chain acc xs).outcome ∧
      (s.chain first (x :: xs)).count = ((s.eval first x).site.chain acc xs).count + 1 ∧
      (s.chain first (x :: xs)).site = ((s.eval first x).site.chain acc xs).site := by
  rw [chain, accumulate]
  dsimp only
  rw [h]
  exact ⟨rfl, rfl, rfl⟩

/-- A chain whose first call fails ends there. -/
theorem chain_cons_of_error {e : TypeError} (h : (s.eval first x).outcome = .error e)
    (xs : List Value) :
    (s.chain first (x :: xs)).outcome = .error e ∧ (s.chain first (x :: xs)).count = 0 := by
  rw [chain, accumulate]
  dsimp only
  rw [h]
  exact ⟨rfl, rfl⟩

theorem sound_chain (hs : s.status.Sound) (first : Value) (xs : List Value) :
    (s.chain first xs).site.status.Sound := by
  induction xs generalizing s first with
  | nil => exact hs
  | cons x xs ih =>
    have hcall := sound_eval hs first x
    cases hout : (s.eval first x).outcome with
    | error e =>
      rw [chain, accumulate]
      dsimp only
      rw [hout]
      exact hcall
    | ok v =>
      rw [(chain_cons_of_ok hout xs).2.2]
      exact ih hcall v

/-- A chain that succeeds goes on with its result. -/
theorem outcome_chain_append_of_ok (h : (s.chain first xs).outcome = .ok acc) (ys : List Value) :
    (s.chain first (xs ++ ys)).outcome = ((s.chain first xs).site.chain acc ys).outcome := by
  induction xs generalizing s first with
  | nil =>
    cases h
    rfl
  | cons x xs ih =>
    cases hout : (s.eval first x).outcome with
    | error e =>
      rw [(chain_cons_of_error hout xs).1] at h
      cases h
    | ok v =>
      obtain ⟨houtcome, -, hsite⟩ := chain_cons_of_ok hout xs
      rw [houtcome] at h
      rw [hsite, List.cons_append, (chain_cons_of_ok hout (xs ++ ys)).1]
      exact ih h

/-- A chain that fails goes no further. -/
theorem outcome_chain_append_of_error {e : TypeError} (h : (s.chain first xs).outcome = .error e)
    (ys : List Value) : (s.chain first (xs ++ ys)).outcome = .error e := by
  induction xs generalizing s first with
  | nil => cases h
  | cons x xs ih =>
    cases hout : (s.eval first x).outcome with
    | error f =>
      rw [(chain_cons_of_error hout xs).1] at h
      cases h
      exact (chain_cons_of_error hout (xs ++ ys)).1
    | ok v =>
      rw [(chain_cons_of_ok hout xs).1] at h
      rw [List.cons_append, (chain_cons_of_ok hout (xs ++ ys)).1]
      exact ih h

/-- Two numbers have their exact sum, as a word or as an unbounded integer. -/
theorem outcome_eval_of_isNumeric (hs : s.status.Sound) {l r : Value}
    (hnumeric : Call.IsNumeric (l, r)) :
    ∃ m n sum, l.toInt? = some m ∧ r.toInt? = some n ∧ (s.eval l r).outcome = .ok sum ∧
      sum.toInt? = some (m + n) ∧
      (sum.kind = .int ↔ l.kind = .int ∧ r.kind = .int ∧ Integer.Fits (m + n) ∧
        ¬ s.status.integerExcluded = true) := by
  obtain ⟨m, hm⟩ := Value.exists_toInt?_of_isNumber hnumeric.1
  obtain ⟨n, hn⟩ := Value.exists_toInt?_of_isNumber hnumeric.2
  obtain ⟨sum, hout, hsum, hint, -⟩ := outcome_eval_numbers hs hm hn
  exact ⟨m, n, sum, hm, hn, hout, hsum, hint⟩

/-- Two words whose sum is a word leave the flag as it is. -/
theorem integerExcluded_eval_of_fits (hs : s.status.Sound) {l r : Value} {m n : Int}
    (hl : l.toInt? = some m) (hr : r.toInt? = some n) (hfits : Integer.Fits (m + n)) :
    (s.eval l r).site.status.integerExcluded = s.status.integerExcluded := by
  show (s.run [(l, r)]).status.integerExcluded = _
  refine integerExcluded_run_of_not hs ?_
  rintro ⟨call, hmem, a, b, hcall, hover⟩
  rw [List.mem_singleton.1 hmem] at hcall
  cases hcall
  cases hl
  cases hr
  exact hover hfits

/-! ## The three ways of a chain -/

/-- Everything is joined to an accumulator that is a text. -/
theorem outcome_chain_text (hs : s.status.Sound) (t : String) (xs : List Value) :
    (s.chain (.text t) xs).outcome = .ok (.text (t ++ renderAll xs)) := by
  induction xs generalizing s t with
  | nil =>
    rw [renderAll, List.map_nil, String.join_nil, String.append_empty]
    rfl
  | cons x xs ih =>
    have hcall := outcome_eval_of_hasText hs (l := .text t) (r := x) (.inl rfl)
    rw [(chain_cons_of_ok hcall xs).1, ih (sound_eval hs _ _), Value.renderAll_cons,
      ← String.append_assoc]
    rfl

/-- A chain of numbers comes to their exact sum.  The sum is a word if every number is one, the
sums on the way fit into words, and the site does not exclude the integer path where it is first
asked. -/
theorem outcome_chain_numbers (hs : s.status.Sound) (hall : ∀ x ∈ first :: xs, x.isNumber = true) :
    ∃ v, (s.chain first xs).outcome = .ok v ∧ v.toInt? = some (exactSum (first :: xs)) ∧
      (v.kind = .int ↔
        (∀ x ∈ first :: xs, x.kind = .int) ∧ SumsFit first xs ∧
          (xs ≠ [] → ¬ s.status.integerExcluded = true)) := by
  induction xs generalizing s first with
  | nil =>
    obtain ⟨m, hm⟩ := Value.exists_toInt?_of_isNumber (hall first List.mem_cons_self)
    refine ⟨first, rfl, ?_, ?_⟩
    · rw [Value.exactSum_cons hm, exactSum, Int.add_zero, hm]
    · simp [Value.sumsFit_nil]
  | cons x xs ih =>
    obtain ⟨hfirst, hrest⟩ := List.forall_mem_cons.1 hall
    obtain ⟨hx, hxs⟩ := List.forall_mem_cons.1 hrest
    obtain ⟨m, n, acc, hm, hn, hcall, hacc, hint⟩ := outcome_eval_of_isNumeric hs ⟨hfirst, hx⟩
    have hall' : ∀ y ∈ acc :: xs, y.isNumber = true :=
      List.forall_mem_cons.2 ⟨Value.isNumber_of_toInt? hacc, hxs⟩
    obtain ⟨v, hv, hsum, hvint⟩ := ih (sound_eval hs first x) hall'
    rw [Value.exactSum_cons_cons hm hn hacc] at hsum
    refine ⟨v, (chain_cons_of_ok hcall xs).1.trans hv, hsum, ?_⟩
    rw [hvint, Value.sumsFit_cons hm hn hacc, List.forall_mem_cons, List.forall_mem_cons,
      List.forall_mem_cons, hint]
    constructor
    · rintro ⟨⟨⟨hf, hx, hfits, hclear⟩, hints⟩, hsums, -⟩
      exact ⟨⟨hf, hx, hints⟩, ⟨hfits, hsums⟩, fun _ => hclear⟩
    · rintro ⟨⟨hf, hx, hints⟩, ⟨hfits, hsums⟩, hclear⟩
      have hclear := hclear (List.cons_ne_nil x xs)
      refine ⟨⟨⟨hf, hx, hfits, hclear⟩, hints⟩, hsums, fun _ => ?_⟩
      rwa [integerExcluded_eval_of_fits hs hm hn hfits]

/-- A chain with a call in it fails, or it comes to a text and one of its values is a text, or it
comes to a number and all of its values are numbers. -/
theorem outcome_chain_cases (hs : s.status.Sound) (first : Value) (hxs : xs ≠ []) :
    (∃ e, (s.chain first xs).outcome = .error e) ∨
    (∃ t, (s.chain first xs).outcome = .ok (.text t) ∧ ∃ x ∈ first :: xs, x.isText = true) ∨
    (∃ v n, (s.chain first xs).outcome = .ok v ∧ v.toInt? = some n ∧
      ∀ x ∈ first :: xs, x.isNumber = true) := by
  induction xs generalizing s first with
  | nil => exact absurd rfl hxs
  | cons x xs ih =>
    by_cases htext : Call.HasText (first, x)
    · have hcall := outcome_eval_of_hasText hs htext
      rw [(chain_cons_of_ok hcall xs).1, outcome_chain_text (sound_eval hs first x)]
      refine .inr (.inl ⟨_, rfl, ?_⟩)
      rcases htext with htext | htext
      · exact ⟨first, List.mem_cons_self, htext⟩
      · exact ⟨x, List.mem_cons_of_mem _ List.mem_cons_self, htext⟩
    · by_cases hnumeric : Call.IsNumeric (first, x)
      · obtain ⟨m, n, acc, -, -, hcall, hacc, -⟩ := outcome_eval_of_isNumeric hs hnumeric
        have haccnumber := Value.isNumber_of_toInt? hacc
        rw [(chain_cons_of_ok hcall xs).1]
        by_cases hnil : xs = []
        · subst hnil
          refine .inr (.inr ⟨acc, _, rfl, hacc, ?_⟩)
          simp [hnumeric.1, hnumeric.2]
        · rcases ih (sound_eval hs first x) acc hnil with herror | ⟨t, ht, y, hmem, hy⟩ |
            ⟨v, k, hv, hk, hall⟩
          · exact .inl herror
          · refine .inr (.inl ⟨t, ht, y, ?_, hy⟩)
            rcases List.mem_cons.1 hmem with rfl | hmem
            · rw [Value.isText_of_isNumber haccnumber] at hy
              cases hy
            · exact List.mem_cons_of_mem _ (List.mem_cons_of_mem _ hmem)
          · refine .inr (.inr ⟨v, k, hv, hk, ?_⟩)
            have hrest := (List.forall_mem_cons.1 hall).2
            exact List.forall_mem_cons.2 ⟨hnumeric.1, List.forall_mem_cons.2 ⟨hnumeric.2, hrest⟩⟩
      · have hunsupported := Call.isUnsupported_of_not hnumeric htext
        have hcall := outcome_eval_of_isUnsupported hs hunsupported
        exact .inl ⟨_, (chain_cons_of_error hcall xs).1⟩

/-- Without a text, a chain with something in it that is not a number fails. -/
theorem exists_error_chain (hs : s.status.Sound) (hxs : xs ≠ [])
    (htext : ∀ x ∈ first :: xs, x.isText = false)
    (hnumber : ¬ ∀ x ∈ first :: xs, x.isNumber = true) :
    ∃ e, (s.chain first xs).outcome = .error e := by
  rcases outcome_chain_cases hs first hxs with herror | ⟨t, -, x, hmem, hx⟩ | ⟨v, n, -, -, hall⟩
  · exact herror
  · rw [htext x hmem] at hx
    cases hx
  · exact absurd hall hnumber

/-- Without a text, a chain succeeds exactly when all of its values are numbers. -/
theorem exists_ok_chain_iff (hs : s.status.Sound) (hxs : xs ≠ [])
    (htext : ∀ x ∈ first :: xs, x.isText = false) :
    (∃ v, (s.chain first xs).outcome = .ok v) ↔ ∀ x ∈ first :: xs, x.isNumber = true := by
  constructor
  · rintro ⟨v, hv⟩
    refine Classical.byContradiction fun hnumber => ?_
    obtain ⟨e, he⟩ := exists_error_chain hs hxs htext hnumber
    cases hv.symm.trans he
  · intro hall
    obtain ⟨v, hv, -⟩ := outcome_chain_numbers hs hall
    exact ⟨v, hv⟩

/-- A chain whose accumulator is a number or a text before its first text joins the rest to the text
of that accumulator. -/
theorem outcome_chain_of_text (hs : s.status.Sound) {before after : List Value} {t : String}
    (hvalues : first :: xs = before ++ .text t :: after)
    (hbefore : before.length ≤ 1 ∨ ∀ x ∈ before, x.isNumber = true) :
    (s.chain first xs).outcome =
      .ok (.text (leadingText before ++ renderAll (.text t :: after))) := by
  rw [Value.renderAll_cons]
  cases before with
  | nil =>
    obtain ⟨rfl, rfl⟩ := List.cons.inj hvalues
    rw [outcome_chain_text hs, leadingText, String.empty_append]
    rfl
  | cons y front =>
    rw [List.cons_append] at hvalues
    obtain ⟨rfl, rfl⟩ := List.cons.inj hvalues
    have hlead : ∃ acc, (s.chain first front).outcome = .ok acc ∧
        acc.render = leadingText (first :: front) := by
      cases front with
      | nil => exact ⟨first, rfl, rfl⟩
      | cons z front =>
        have hall := hbefore.resolve_left (by simp)
        obtain ⟨acc, hout, hsum, -⟩ := outcome_chain_numbers hs hall
        exact ⟨acc, hout, Value.render_of_toInt? hsum⟩
    obtain ⟨acc, hout, hrender⟩ := hlead
    have hchain : (s.chain first front).site.status.Sound := sound_chain hs first front
    have hcall := outcome_eval_of_hasText hchain (l := acc) (r := .text t) (.inr rfl)
    rw [outcome_chain_append_of_ok hout, (chain_cons_of_ok hcall after).1,
      outcome_chain_text (sound_eval hchain _ _), hrender, String.append_assoc]

/-- A chain that fails does so in a call whose operands are what the chain has come to until then,
and the value that cannot be added to it. -/
theorem exists_of_outcome_chain_eq_error (hs : s.status.Sound) {e : TypeError}
    (h : (s.chain first xs).outcome = .error e) :
    ∃ front x after acc, xs = front ++ x :: after ∧ (s.chain first xs).count = front.length ∧
      (s.chain first front).outcome = .ok acc ∧ Call.IsUnsupported (acc, x) ∧
      e = s.typeError acc x := by
  induction xs generalizing s first with
  | nil => cases h
  | cons x xs ih =>
    cases hcall : (s.eval first x).outcome with
    | error f =>
      obtain ⟨houtcome, hcount⟩ := chain_cons_of_error hcall xs
      rw [houtcome] at h
      cases h
      obtain ⟨hunsupported, he⟩ := eq_typeError_of_outcome_eval hs hcall
      exact ⟨[], x, xs, first, rfl, hcount, rfl, hunsupported, he⟩
    | ok v =>
      obtain ⟨houtcome, hcount, -⟩ := chain_cons_of_ok hcall xs
      rw [houtcome] at h
      obtain ⟨front, y, after, acc, rfl, hlength, hacc, hunsupported, he⟩ :=
        ih (sound_eval hs first x) h
      refine ⟨x :: front, y, after, acc, rfl, ?_, ?_, hunsupported, ?_⟩
      · rw [hcount, hlength, List.length_cons]
      · rw [(chain_cons_of_ok hcall front).1, hacc]
      · exact he.trans (typeError_congr (config_eval s first x) acc y)

/-- A chain with a call in it that has come to something other than a text has met numbers only. -/
theorem isNumber_of_outcome_chain (hs : s.status.Sound) (hxs : xs ≠ [])
    (h : (s.chain first xs).outcome = .ok acc) (hacc : acc.isText = false) :
    acc.toInt? = some (exactSum (first :: xs)) ∧ ∀ x ∈ first :: xs, x.isNumber = true := by
  rcases outcome_chain_cases hs first hxs with ⟨e, herror⟩ | ⟨t, ht, -⟩ | ⟨v, n, hv, -, hall⟩
  · rw [h] at herror
    cases herror
  · rw [h] at ht
    cases ht
    cases hacc
  · obtain ⟨w, hw, hsum, -⟩ := outcome_chain_numbers hs hall
    rw [h] at hw
    cases hw
    exact ⟨hsum, hall⟩

/-- Something before the first text that cannot be added to what is before it makes a chain fail. -/
theorem exists_error_chain_of_text (hs : s.status.Sound) {before after : List Value} {t : String}
    (hvalues : first :: xs = before ++ .text t :: after)
    (htext : ∀ x ∈ before, x.isText = false)
    (hbefore : ¬ (before.length ≤ 1 ∨ ∀ x ∈ before, x.isNumber = true)) :
    ∃ e, (s.chain first xs).outcome = .error e := by
  obtain ⟨hlength, hnumber⟩ := not_or.1 hbefore
  cases before with
  | nil => exact absurd (Nat.zero_le 1) hlength
  | cons y front =>
    rw [List.cons_append] at hvalues
    obtain ⟨rfl, rfl⟩ := List.cons.inj hvalues
    have hfront : front ≠ [] := by
      rintro rfl
      exact hlength (Nat.le_refl 1)
    obtain ⟨e, he⟩ := exists_error_chain hs hfront htext hnumber
    exact ⟨e, outcome_chain_append_of_error he _⟩

/-- With a text, a chain succeeds exactly when the values before the first text are numbers, or are
not added before it. -/
theorem exists_ok_chain_iff_of_text (hs : s.status.Sound) {before after : List Value} {t : String}
    (hvalues : first :: xs = before ++ .text t :: after)
    (htext : ∀ x ∈ before, x.isText = false) :
    (∃ v, (s.chain first xs).outcome = .ok v) ↔
      before.length ≤ 1 ∨ ∀ x ∈ before, x.isNumber = true := by
  constructor
  · rintro ⟨v, hv⟩
    refine Classical.byContradiction fun hbefore => ?_
    obtain ⟨e, he⟩ := exists_error_chain_of_text hs hvalues htext hbefore
    cases hv.symm.trans he
  · exact fun hbefore => ⟨_, outcome_chain_of_text hs hvalues hbefore⟩

/-- The step at which a chain fails is the first one that is blocked. -/
theorem blocked_of_isUnsupported (hs : s.status.Sound) {front after : List Value}
    (h : (s.chain first front).outcome = .ok acc) (hunsupported : Call.IsUnsupported (acc, x)) :
    Value.Blocked (first :: (front ++ x :: after)) (front.length + 1) ∧
      ∀ i, Value.Blocked (first :: (front ++ x :: after)) i → front.length + 1 ≤ i := by
  obtain ⟨htext, hforeign⟩ := hunsupported
  have hacc : acc.isText = false := Bool.eq_false_iff.2 fun h => htext (.inl h)
  have hplace : (first :: (front ++ x :: after))[front.length + 1]? = some x := by simp
  by_cases hfront : front = []
  · subst hfront
    cases h
    refine ⟨⟨Nat.le_refl 1, ?_⟩, fun i hi => hi.1⟩
    rcases hforeign with hforeign | hforeign
    · exact .inr ⟨rfl, first, rfl, hforeign⟩
    · exact .inl ⟨x, hplace, hforeign⟩
  · obtain ⟨hsum, hall⟩ := isNumber_of_outcome_chain hs hfront h hacc
    have hxforeign : x.kind = .foreign :=
      hforeign.resolve_left (Value.kind_ne_foreign_of_isNumber (Value.isNumber_of_toInt? hsum))
    refine ⟨⟨Nat.le_add_left 1 _, .inl ⟨x, hplace, hxforeign⟩⟩, ?_⟩
    -- The values before `x` are numbers, and none of them blocks a step.
    rintro i ⟨hi, ⟨y, hy, hforeign⟩ | ⟨-, y, hy, hforeign⟩⟩
    · refine Nat.le_of_not_lt fun hlt => ?_
      have hmem : y ∈ first :: front := by
        rw [← List.cons_append, List.getElem?_append_left (by simp; omega)] at hy
        exact List.mem_of_getElem? hy
      exact Value.kind_ne_foreign_of_isNumber (hall y hmem) hforeign
    · cases hy
      exact absurd hforeign (Value.kind_ne_foreign_of_isNumber (hall _ List.mem_cons_self))

/-! ## A site with calls behind it -/

/-- A chain of at least one addition, at a site with any calls behind it.

Without a text it succeeds exactly when all values are numbers.  It then comes to their exact sum:
as a word if all of them are words, every sum on the way is one, and no sum of words overflowed at
the site before; else as an unbounded integer, also where the sum would fit again.

With a text it succeeds exactly when the values before the first text are numbers, or are not yet
added because there is at most one of them.  It then comes to a text: that of the sum of the values
before the first text, followed by the texts of all values from there on.

Where it fails, it does so at the first step that adds something other than a number or a text, or
that adds to such a value.  The error lists what the chain has come to until then, which is the
first value or the exact sum of the values so far, and the value that is to be added; and it names
the site. -/
theorem chain_after_history (config : Config) (history : List Call) (first second : Value)
    (rest : List Value) :
    let site := config.build.run history
    let values := first :: second :: rest
    let total := site.chain first (second :: rest)
    ((∀ x ∈ values, x.isText = false) →
      ((∃ v, total.outcome = .ok v) ↔ ∀ x ∈ values, x.isNumber = true) ∧
      ∀ v, total.outcome = .ok v →
        let words := (∀ x ∈ values, x.kind = .int) ∧ SumsFit first (second :: rest) ∧
          ¬ site.status.integerExcluded = true
        v.toInt? = some (exactSum values) ∧ (v.kind = .int ↔ words) ∧ (v.kind = .big ↔ ¬ words)) ∧
    (∀ before t after, values = before ++ .text t :: after → (∀ x ∈ before, x.isText = false) →
      ((∃ v, total.outcome = .ok v) ↔
        before.length ≤ 1 ∨ ∀ x ∈ before, x.isNumber = true) ∧
      ∀ v, total.outcome = .ok v →
        v = .text (leadingText before ++ renderAll (.text t :: after))) ∧
    ∀ e, total.outcome = .error e →
      (Value.Blocked values (total.count + 1) ∧
        ∀ i, Value.Blocked values i → total.count + 1 ≤ i) ∧
      ∃ acc x, values[total.count + 1]? = some x ∧
        (site.chain first ((second :: rest).take total.count)).outcome = .ok acc ∧
        (total.count = 0 → acc = first) ∧
        (1 ≤ total.count → acc.toInt? = some (exactSum (values.take (total.count + 1)))) ∧
        e = { operation := "+", site := config.id, position := config.position
              operands := [acc, x] } := by
  intro site values total
  have hs : site.status.Sound := sound_run (sound_build config) history
  have hne : second :: rest ≠ [] := List.cons_ne_nil second rest
  refine ⟨?_, ?_, ?_⟩
  · intro htext
    have hsucceeds := exists_ok_chain_iff hs hne htext
    refine ⟨hsucceeds, fun v hv => ?_⟩
    obtain ⟨w, hw, hsum, hint⟩ := outcome_chain_numbers hs (hsucceeds.1 ⟨v, hv⟩)
    cases hv.symm.trans hw
    rw [Value.kind_eq_big_iff (Value.isNumber_of_toInt? hsum), ne_eq, hint]
    simp only [ne_eq, hne, not_false_eq_true, forall_const]
    exact ⟨hsum, Iff.rfl, Iff.rfl⟩
  · intro before t after hvalues htext
    have hsucceeds := exists_ok_chain_iff_of_text hs hvalues htext
    refine ⟨hsucceeds, fun v hv => ?_⟩
    exact Except.ok.inj (hv.symm.trans (outcome_chain_of_text hs hvalues (hsucceeds.1 ⟨v, hv⟩)))
  · intro e he
    obtain ⟨front, x, after, acc, hxs, hcount, hacc, hunsupported, rfl⟩ :=
      exists_of_outcome_chain_eq_error hs he
    have hvalues : values = first :: (front ++ x :: after) := congrArg (first :: ·) hxs
    rw [show total.count = front.length from hcount, hvalues, hxs]
    refine ⟨blocked_of_isUnsupported hs hacc hunsupported, acc, x, by simp, ?_, ?_, ?_, ?_⟩
    · rw [List.take_left]
      exact hacc
    · intro hzero
      rw [List.length_eq_zero_iff.1 hzero] at hacc
      cases hacc
      rfl
    · intro hpos
      have hfront : front ≠ [] := List.ne_nil_of_length_pos hpos
      have htext : acc.isText = false := Bool.eq_false_iff.2 fun h => hunsupported.1 (.inl h)
      rw [List.take_succ_cons, List.take_left]
      exact (isNumber_of_outcome_chain hs hfront hacc htext).1
    · exact typeError_congr (config_run config.build history) acc x

end Site

end AdaptiveAdd
