import AdaptiveAdd.SiteId
import AdaptiveAdd.Specialization
import AdaptiveAdd.Value.Basic

/-!
# Events

What sites and settings report to the log while they work: the cause is the
constructor, and its level, message and fields follow from it.
-/

namespace AdaptiveAdd

/-- How much an event matters. -/
inductive Level where
  | warn
  | debug
  | trace
  deriving DecidableEq

/-- The name of the level in logs. -/
def Level.name : Level → String
  | .warn => "WARN"
  | .debug => "DEBUG"
  | .trace => "TRACE"

/-- Something worth a line in the log. -/
inductive Event where
  /-- The status of a site changed; `integerExcluded` is the new flag. -/
  | specialized (site : SiteId) (before after : Specialization) (integerExcluded : Bool)
  /-- A site could not add values of these kinds. -/
  | unsupported (site : SiteId) (left right : Kind)
  /-- The variable holds a setting that names no policy. -/
  | unknownSetting (variableName setting : String)
  deriving DecidableEq

/-- What a field of an event holds. -/
inductive Event.Field where
  | text (s : String)
  | flag (b : Bool)

namespace Event

def level : Event → Level
  | specialized .. => .debug
  | unsupported .. => .trace
  | unknownSetting .. => .warn

def message : Event → String
  | specialized .. => "add node specialized"
  | unsupported .. => "add operands outside supported domain"
  | unknownSetting .. => "unrecognised dispatch mode, using adaptive"

/-- The fields of the event, each after its label. -/
def fields : Event → List (String × Field)
  | specialized site before after integerExcluded => [
      ("node", .text site.render),
      ("from", .text before.name),
      ("to", .text after.name),
      ("integer_excluded", .flag integerExcluded)]
  | unsupported site left right => [
      ("node", .text site.render),
      ("left", .text left.name),
      ("right", .text right.name)]
  | unknownSetting variableName setting => [
      ("value", .text setting),
      ("var", .text variableName)]

end Event

end AdaptiveAdd
