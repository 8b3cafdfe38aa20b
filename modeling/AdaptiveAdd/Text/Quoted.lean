import AdaptiveAdd.Text.Unprintable

/-!
# Quoted texts

`quote` writes a text between double quotes so that it stays on one line and
every character of it can be seen.  The quote and the backslash are written
after a backslash; NUL, tab, carriage return and line feed by a backslash and a
letter; every other unprintable character by its code point in hexadecimal; and
the rest as they are.  An apostrophe is one of the rest.

Which characters are unprintable is a parameter of `quoteWith`: editions of
Unicode differ in it, and nothing else depends on it.
-/

namespace AdaptiveAdd.Text

/-- The code point of `c` in lower-case hexadecimal digits, the fewest that write it. -/
def hexDigits (c : Char) : List Char :=
  Nat.toDigits 16 c.toNat

/-- The characters that are written as a backslash and a letter, each with its letter. -/
def letters : List (Char × Char) :=
  [('"', '"'), ('\\', '\\'), ('\x00', '0'), ('\t', 't'), ('\r', 'r'), ('\n', 'n')]

/-- The letter for `c`, if it has one. -/
def letter? (c : Char) : Option Char :=
  letters.lookup c

/-- How `c` is written inside quotes, where no character that satisfies `hidden` may stand. -/
def escape (hidden : Char → Bool) (c : Char) : List Char :=
  match letter? c with
  | some letter => ['\\', letter]
  | none => if hidden c then ['\\', 'u', '\x7b'] ++ hexDigits c ++ ['\x7d'] else [c]

/-- The text between quotes, each of its characters written by `escape`. -/
def quoteWith (hidden : Char → Bool) (s : String) : String :=
  String.ofList ('"' :: (s.toList.flatMap (escape hidden) ++ ['"']))

/-- The text between quotes, with its unprintable characters escaped. -/
def quote : String → String :=
  quoteWith isUnprintable

theorem toList_quoteWith (hidden : Char → Bool) (s : String) :
    (quoteWith hidden s).toList = '"' :: (s.toList.flatMap (escape hidden) ++ ['"']) := by
  simp [quoteWith]

end AdaptiveAdd.Text
