import AdaptiveAdd.Policy
import AdaptiveAdd.Position
import AdaptiveAdd.SiteId
import AdaptiveAdd.Status
import AdaptiveAdd.Tally

/-!
# Sites of `+`

A site is one `+` expression of a program, reused for every evaluation of it.
Its identifier, position and policy are fixed when it is built; its status and
its tally change with the calls.  `Site.config` gives back what was fixed.
-/

namespace AdaptiveAdd

/-- A `+` expression with what it has learned from its calls. -/
structure Site where
  id : SiteId
  position : Option Position
  policy : Policy
  status : Status
  tally : Tally
  deriving DecidableEq

/-- What a host decides about a site before it is built. -/
structure Site.Config where
  id : SiteId := .unnumbered
  position : Option Position := none
  policy : Policy := .adaptive
  deriving DecidableEq

namespace Site

/-- A site that has answered no call. -/
def Config.build (config : Config) : Site where
  id := config.id
  position := config.position
  policy := config.policy
  status := { specialization := config.policy.start }
  tally := {}

/-- What the host decided about the site. -/
def config (s : Site) : Config where
  id := s.id
  position := s.position
  policy := s.policy

/-- The site after one more call answered by `path`. -/
def record (s : Site) (path : Path) : Site :=
  { s with tally := s.tally.record path }

/-- The site after one more call that had to try every path. -/
def recordSlow (s : Site) : Site :=
  { s with tally := s.tally.recordSlow }

/-- The site on one line. -/
def debug (s : Site) : String :=
  Text.record "AddNode" [
    ("id", s.id.debug),
    ("location", Text.optional (s.position.map Position.debug)),
    ("mode", s.policy.name),
    ("state", toString s.status.toByte.toNat),
    ("profile", s.tally.debugLive)]

end Site

end AdaptiveAdd
