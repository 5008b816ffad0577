import SiteAccess.Json.Doc

namespace SiteAccess

abbrev SiteId := Int32

def SiteId.toJson (s : SiteId) : Json := .int s.toInt

/-- Who asks for keys. A principal has a site from when it was assigned one. -/
class SitePrincipal (α : Type) where
  site? : α → Option SiteId

class SiteOwned (α : Type) where
  site : α → SiteId

class Authorizable (α : Type) (ρ : outParam Type) where
  hasRole : α → ρ → Bool

-- Principals and keys of which nothing is known but the site.
instance : SitePrincipal (Option SiteId) := ⟨id⟩

instance : SiteOwned SiteId := ⟨id⟩

/-- The answer for a key whose site has no access list. -/
inductive Fallback
  | defaultAllow
  | defaultDeny
  deriving DecidableEq

namespace Fallback

def name : Fallback → String
  | defaultAllow => "default_allow"
  | defaultDeny => "default_deny"

def label : Fallback → String
  | defaultAllow => "DefaultAllow"
  | defaultDeny => "DefaultDeny"

def allows : Fallback → Bool
  | defaultAllow => true
  | defaultDeny => false

def named? (s : String) : Option Fallback :=
  match s with
  | "default_allow" => some defaultAllow
  | "default_deny" => some defaultDeny
  | _ => none

def canonical (s : String) : String := Text.lower (Text.trim s)

/-- The fallback that a setting calls for, by its full or its short name. The error is the canonical
text that is unknown. -/
def parse (s : String) : Except String Fallback :=
  match canonical s with
  | "allow" | "default_allow" => .ok defaultAllow
  | "deny" | "default_deny" => .ok defaultDeny
  | other => .error other

def unknownMessage (canonicalText : String) : String :=
  "unknown legacy fallback '" ++ canonicalText ++ "'"

def toJson (f : Fallback) : Json := .str f.name

def ofDoc? (d : Json.Doc) : Option Fallback := d.word? named?

end Fallback

/-- What there is to know of a principal, and of a key that it would read, for a decision. -/
structure Request where
  requester : Option SiteId
  keySite : SiteId
  fallback : Fallback

def Request.of {α κ : Type} [SitePrincipal α] [SiteOwned κ] (principal : α) (key : κ)
    (fallback : Fallback) : Request :=
  ⟨SitePrincipal.site? principal, SiteOwned.site key, fallback⟩

inductive Reason
  | sameSite
  | aclAllow
  | aclDeny
  | noAclFallback
  deriving DecidableEq

def Reason.name : Reason → String
  | .sameSite => "same_site"
  | .aclAllow => "acl_allow"
  | .aclDeny => "acl_deny"
  | .noAclFallback => "no_acl_fallback"

structure Decision where
  allow : Bool
  reason : Reason
  deriving DecidableEq

def Decision.toJson (d : Decision) : Json :=
  .obj [("allow", .bool d.allow), ("reason", .str d.reason.name)]

end SiteAccess
