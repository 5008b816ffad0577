import SiteAccess.Decision
import SiteAccess.Fault

namespace SiteAccess

namespace Log

inductive Level
  | off
  | error
  | warn
  | info
  | debug
  | trace
  deriving DecidableEq

namespace Level

def all : List Level := [off, error, warn, info, debug, trace]

def rank (l : Level) : Nat := l.ctorIdx

def name : Level → String
  | off => "off"
  | error => "error"
  | warn => "warn"
  | info => "info"
  | debug => "debug"
  | trace => "trace"

def label : Level → String
  | off => "OFF"
  | error => "ERROR"
  | warn => "WARN"
  | info => "INFO"
  | debug => "DEBUG"
  | trace => "TRACE"

def max (a b : Level) : Level := if a.rank ≤ b.rank then b else a

def most (ls : List Level) : Level := ls.foldl max off

end Level

end Log

open Log

inductive Event
  | published (version : UInt64) (sites : Nat)
  | decided (requester keySite : SiteId) (decision : Decision) (fallback : Fallback)
  | undecidable (keySite : SiteId)
  | rejected (fault : Fault)
  | ignored (setting reason : String)
  | subscriberKept
  deriving DecidableEq

namespace Event

def level : Event → Level
  | published .. => .info
  | decided .. | subscriberKept => .debug
  | undecidable _ | rejected _ | ignored .. => .warn

def target : Event → String
  | published .. | decided .. | undecidable _ => "keyauthz::acl"
  | rejected _ => "keyauthz::identity"
  | ignored .. => "keyauthz::config"
  | subscriberKept => "keyauthz::telemetry"

def message : Event → String
  | published .. => "published acl snapshot"
  | decided .. => "key access decision"
  | undecidable _ => "access check for principal without site id"
  | rejected f => "rejected operator record: " ++ f.message
  | ignored setting reason => "ignoring " ++ setting ++ ": " ++ reason
  | subscriberKept => "global subscriber already installed; keeping it"

def details : Event → List (String × Json)
  | published version sites => [("version", .int version.toNat), ("sites", .int sites)]
  | decided requester keySite d fallback =>
      [("requester", requester.toJson), ("key_site", keySite.toJson), ("allow", .bool d.allow),
        ("reason", .str d.reason.name), ("fallback", .str fallback.label)]
  | undecidable keySite => [("key_site", keySite.toJson)]
  | rejected f => [("code", .str f.code), ("field", .str (f.field?.getD ""))]
  | ignored .. | subscriberKept => []

def fields (e : Event) : List (String × Json) := ("message", .str e.message) :: e.details

end Event

structure Logged (α : Type) where
  log : List Event
  value : α

namespace Logged

def emit (e : Event) : Logged Unit := ⟨[e], ()⟩

instance : Monad Logged where
  pure a := ⟨[], a⟩
  bind x f := ⟨x.log ++ (f x.value).log, (f x.value).value⟩

variable {α β : Type}

@[simp] theorem log_pure (a : α) : (pure a : Logged α).log = [] := rfl

@[simp] theorem value_pure (a : α) : (pure a : Logged α).value = a := rfl

@[simp] theorem log_bind (x : Logged α) (f : α → Logged β) :
    (x >>= f).log = x.log ++ (f x.value).log := rfl

@[simp] theorem value_bind (x : Logged α) (f : α → Logged β) :
    (x >>= f).value = (f x.value).value := rfl

end Logged

end SiteAccess
