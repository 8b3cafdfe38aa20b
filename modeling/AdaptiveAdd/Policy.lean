import AdaptiveAdd.Event
import AdaptiveAdd.Status
import AdaptiveAdd.Text.Blank

/-!
# Dispatch policies

An adaptive site starts uncommitted and learns what its operands are; a generic
site starts out general and tries every path in each call.  The policy of new
sites can be set by the environment variable `variableName`.

A setting names a policy when, blank characters at either end aside, it is the
name of the policy up to the case of the letters A to Z.  A setting that names
none is reported, and the policy is then adaptive, as it is without a setting.
-/

namespace AdaptiveAdd

/-- How a site chooses the path it tries first. -/
inductive Policy where
  /-- Commit to what the operands have been. -/
  | adaptive
  /-- Try every path in each call. -/
  | generic
  deriving DecidableEq

namespace Policy

instance : Inhabited Policy where
  default := adaptive

/-- The name of the policy in logs. -/
def name : Policy → String
  | adaptive => "Adaptive"
  | generic => "Generic"

/-- The name of the policy in a setting. -/
def keyword : Policy → String
  | adaptive => "adaptive"
  | generic => "generic"

/-- The specialization in which a site starts. -/
def start : Policy → Specialization
  | adaptive => .uncommitted
  | generic => .generic

/-- Whether two texts are the same up to the case of the letters A to Z. -/
def sameLetters (a b : List Char) : Bool :=
  a.map Char.toLower == b.map Char.toLower

/-- The policy that a setting names. -/
def parse? (setting : String) : Option Policy :=
  let word := Text.trim setting.toList
  if sameLetters word adaptive.keyword.toList then some adaptive
  else if sameLetters word generic.keyword.toList then some generic
  else none

/-- The environment variable that holds the setting. -/
def variableName : String :=
  "EMBER_DISPATCH"

/-- The policy of a setting that may be absent, and what there is to report. -/
def ofSetting : Option String → Policy × List Event
  | none => (default, [])
  | some setting =>
      match parse? setting with
      | some policy => (policy, [])
      | none => (default, [.unknownSetting variableName setting])

/-- The text that the bytes of an environment variable stand for, if they are UTF-8. -/
def settingOfBytes? (bytes : ByteArray) : Option String :=
  String.fromUTF8? bytes

/-- The policy that the environment variable selects.  Bytes that are not UTF-8 count as no
setting. -/
def ofEnvironment (value : Option ByteArray) : Policy × List Event :=
  ofSetting (value.bind settingOfBytes?)

end Policy

end AdaptiveAdd
