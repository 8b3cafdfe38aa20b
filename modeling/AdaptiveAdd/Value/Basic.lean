/-!
# Values

The operands and results of `+`.  A number is a 64-bit word (`int`) or an
unbounded integer (`big`); an unbounded integer stays one even where a word
could hold it.  A text is a string.  Every other value is `foreign`: addition
never looks inside it, but it has a text form that can be joined to a text.

Equality of values, `a = b`, tells representations apart: `int 3` and `big 3`
are different values.  The equality that programs see is `Value.equiv`.
-/

namespace AdaptiveAdd

/-- A value that is neither a number nor a text. -/
inductive Foreign where
  | bool (b : Bool)
  | null
  | function (name : String)
  | object (typeName rendering : String)
  deriving DecidableEq

/-- A value of the language. -/
inductive Value where
  | int (n : Int64)
  | big (n : Int)
  | text (s : String)
  | foreign (f : Foreign)
  deriving DecidableEq

/-- The four kinds of value. -/
inductive Kind where
  | int
  | big
  | text
  | foreign
  deriving DecidableEq

/-- The name of the kind in logs. -/
def Kind.name : Kind → String
  | .int => "Integer"
  | .big => "BigNumber"
  | .text => "Text"
  | .foreign => "Other"

namespace Value

def kind : Value → Kind
  | .int _ => .int
  | .big _ => .big
  | .text _ => .text
  | .foreign _ => .foreign

def isText : Value → Bool
  | .text _ => true
  | _ => false

def isNumber : Value → Bool
  | .int _ | .big _ => true
  | .text _ | .foreign _ => false

/-- The word, if the value is one. -/
def asInt? : Value → Option Int64
  | .int n => some n
  | _ => none

/-- The unbounded integer, if the value is one. -/
def asBig? : Value → Option Int
  | .big n => some n
  | _ => none

/-- The string, if the value is a text. -/
def asText? : Value → Option String
  | .text s => some s
  | _ => none

/-- The integer that a number of either representation stands for. -/
def toInt? : Value → Option Int
  | .int n => some n.toInt
  | .big n => some n
  | .text _ | .foreign _ => none

theorem isSome_toInt? (v : Value) : v.toInt?.isSome = v.isNumber := by
  cases v <;> rfl

theorem exists_toInt?_of_isNumber {v : Value} (h : v.isNumber = true) :
    ∃ n, v.toInt? = some n :=
  Option.isSome_iff_exists.1 ((isSome_toInt? v).trans h)

theorem isNumber_of_toInt? {v : Value} {n : Int} (h : v.toInt? = some n) : v.isNumber = true := by
  rw [← isSome_toInt?, h]
  rfl

theorem isText_of_isNumber {v : Value} (h : v.isNumber = true) : v.isText = false := by
  cases v <;> simp_all [isNumber, isText]

theorem kind_ne_foreign_of_isNumber {v : Value} (h : v.isNumber = true) : v.kind ≠ .foreign := by
  cases v <;> simp_all [isNumber, kind]

/-- A number that is not a word is an unbounded integer. -/
theorem kind_eq_big_iff {v : Value} (h : v.isNumber = true) : v.kind = .big ↔ v.kind ≠ .int := by
  cases v <;> simp_all [isNumber, kind]

/-- A word stands for the value of its own representation, and so do an integer and a string. -/
instance : Coe Int64 Value where
  coe := int

instance : Coe Int Value where
  coe := big

instance : Coe String Value where
  coe := text

end Value

end AdaptiveAdd
