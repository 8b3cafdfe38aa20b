/-!
# Site identifiers

A site of `+` carries the number that its host gave to the expression.  The
largest number is set apart for sites that were never numbered.
-/

namespace AdaptiveAdd

/-- The number of a `+` expression. -/
structure SiteId where
  raw : UInt32
  deriving DecidableEq

namespace SiteId

/-- The identifier of every site that was never numbered. -/
def unnumbered : SiteId where
  raw := 0xffffffff

instance : Inhabited SiteId where
  default := unnumbered

/-- Whether the host numbered the site. -/
def isNumbered (id : SiteId) : Bool :=
  id != unnumbered

/-- The identifier as messages show it. -/
def render (id : SiteId) : String :=
  if id.isNumbered then "#" ++ toString id.raw.toNat else "#?"

/-- The identifier as the one-line form of a structure shows it. -/
def debug (id : SiteId) : String :=
  if id.isNumbered then "NodeId(" ++ toString id.raw.toNat ++ ")" else "NodeId::INVALID"

/-- The number is its own hash. -/
instance : Hashable SiteId where
  hash id := id.raw.toUInt64

end SiteId

end AdaptiveAdd
