import SiteAccess.Snapshot

namespace SiteAccess

structure Publisher where
  current : Snapshot
  /-- Zero as long as nothing was ever installed. -/
  version : UInt64
  deriving DecidableEq

namespace Publisher

def idle : Publisher := ⟨.empty, 0⟩

def new (initial : Snapshot) : Publisher := ⟨initial, 1⟩

def publish (p : Publisher) (s : Snapshot) : Logged (Publisher × UInt64) := do
  let version := p.version + 1
  Logged.emit (.published version s.size)
  return (⟨s, version⟩, version)

structure Session where
  publisher : Publisher
  held : Shelf String Snapshot

inductive Step
  | publish (s : Snapshot)
  | republish (name : String)
  | version
  | current
  | hold (name : String)
  | compare (name : String)
  | ask (r : Request) (held : Option String)

inductive Answer
  | published (returned : UInt64) (now : Publisher)
  | version (v : UInt64)
  | snapshot (s : Snapshot)
  | count (n : Nat)
  | same (b : Bool)
  | decision (d : Except Fault Decision)
  | unknown (name : String)

namespace Session

def publish (t : Session) (s : Snapshot) : Logged (Session × Answer) := do
  let (p, version) ← t.publisher.publish s
  return (⟨p, t.held⟩, .published version p)

def withHeld (t : Session) (name : String) (f : Snapshot → Logged (Session × Answer)) :
    Logged (Session × Answer) :=
  match t.held.get? name with
  | some s => f s
  | none => pure (t, .unknown name)

def answer (t : Session) (s : Snapshot) (r : Request) : Logged (Session × Answer) := do
  return (t, .decision (← s.ask r))

def step (t : Session) : Step → Logged (Session × Answer)
  | .publish s => t.publish s
  | .republish name => t.withHeld name t.publish
  | .version => pure (t, .version t.publisher.version)
  | .current => pure (t, .snapshot t.publisher.current)
  | .hold name =>
      let held := t.held.put name t.publisher.current
      pure (⟨t.publisher, held⟩, .count held.size)
  | .compare name => t.withHeld name fun s => pure (t, .same (s = t.publisher.current))
  | .ask r none => t.answer t.publisher.current r
  | .ask r (some name) => t.withHeld name fun s => t.answer s r

def run (t : Session) : List Step → Logged Session
  | [] => pure t
  | s :: ss => do
      let (t, _) ← t.step s
      t.run ss

end Session

end Publisher

end SiteAccess
