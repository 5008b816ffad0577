import SiteAccess.Decision
import SiteAccess.Time.Timestamp

namespace SiteAccess

open Json Time

structure EncryptionKey where
  id : Int32
  site : SiteId
  created : Instant
  activates : Instant
  expires : Instant
  deriving DecidableEq

instance : SiteOwned EncryptionKey := ⟨EncryptionKey.site⟩

namespace EncryptionKey

def instantToJson (t : Instant) : Json := .str (String.ofList t.text)

def instant? (d : Doc) : Option Instant := d.string?.bind Timestamp.read?

def toJson (k : EncryptionKey) : Json :=
  .obj [("id", .int k.id.toInt), ("site_id", .int k.site.toInt),
    ("created", instantToJson k.created), ("activates", instantToJson k.activates),
    ("expires", instantToJson k.expires)]

def names : List String := ["id", "site_id", "created", "activates", "expires"]

def ofDoc? (d : Doc) : Option EncryptionKey :=
  match d.fields? names 5 with
  | some [some id, some site, some created, some activates, some expires] =>
      return ⟨← id.int32?, ← site.int32?, ← instant? created, ← instant? activates,
        ← instant? expires⟩
  | _ => none

end EncryptionKey

end SiteAccess
