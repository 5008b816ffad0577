import SiteAccess.Log.Filter

namespace SiteAccess.Log

/-- What setting up logging asks of the logging library, for filters of a type `F` and what the
library keeps of a process in a type `W`. A text that is no filter is refused in the library's own
words. Of a filter, of a process and of the subscriber that the process may have there is the most
verbose level that is let through. -/
structure Library (F W : Type) where
  parse : String → Except String F
  most : F → Level
  active? : W → Option Level
  level : W → Level
  /-- Makes a subscriber with a filter that of the process, and says whether it has become it. -/
  install : F → W → W × Bool

structure Tracing (W : Type) where
  isSet : Bool
  world : W
  deriving DecidableEq

namespace Tracing

variable {F W : Type} (lib : Library F W)

def start (w : W) : Tracing W := ⟨false, w⟩

def invalidPrefix (filter : String) : String := "invalid log filter '" ++ filter ++ "': "

/-- The filter that a call asks for. A valid filter of the environment goes first, and an invalid
one is passed over. -/
def asked (environment : Option String) (filter : String) : Except String F :=
  match environment.map lib.parse with
  | some (.ok f) => .ok f
  | _ => lib.parse filter

def init (environment : Option String) (filter : String) (t : Tracing W) :
    Logged (Tracing W × Except String Unit) :=
  if t.isSet then pure (t, .ok ())
  else match asked lib environment filter with
    | .error e => pure (t, .error (invalidPrefix filter ++ e))
    | .ok f => do
        let (world, isInstalled) := lib.install f t.world
        unless isInstalled do Logged.emit .subscriberKept
        return (⟨true, world⟩, .ok ())

def run (environment : Option String) (t : Tracing W) : List String → Logged (Tracing W)
  | [] => pure t
  | filter :: filters => do
      let (t, _) ← t.init lib environment filter
      t.run environment filters

end Tracing

/-- The library that the program runs with: a filter counts by its level, and a process is known by
the level of its subscriber. The library's texts about invalid filters are left out. -/
def Filter.library : Library Level (Option Level) where
  parse text := (parse? text).elim (.error "") .ok
  most := id
  active? := id
  level w := w.getD .off
  install
    | l, none => (some l, true)
    | _, some l => (some l, false)

end SiteAccess.Log
