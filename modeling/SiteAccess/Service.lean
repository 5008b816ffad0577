import SiteAccess.Operator.Session
import SiteAccess.Publisher

namespace SiteAccess

structure Service where
  publishers : List Publisher.Session
  operators : List Operator.Session

namespace Service

inductive Call
  | openPublisher (initial : Option Snapshot)
  | publisher (i : Nat) (s : Publisher.Step)
  | openOperator (op : Operator)
  | operator (i : Nat) (s : Operator.Step)
  | load (settings : Settings) (record : Json)
  | readRecord (record : Json)
  | readText (text : String)
  | ask (s : Snapshot) (r : Request)
  | canAccess (s : Snapshot) (r : Request)
  | roleSet (rs : Option (List (Option Role)))
  | readRoleSet (text : String)
  | accessList (isAllowList : Bool) (sites : List SiteId)
  | readAccessList (text : String)

inductive Answer
  | opened (i : Nat)
  | publisher (a : Publisher.Answer)
  | operator (a : Operator.Answer)
  | loaded (x : Except Fault Operator)
  | read (x : Except Refusal Operator)
  | decision (x : Except Fault Decision)
  | access (x : Except Fault Bool)
  | roleSet (x : Except Refusal RoleSet)
  | accessList (x : Option AccessList)
  | unknown (i : Nat)

def enroll {ε : Type} (t : Service) : Except ε Operator → Service
  | .ok op => { t with operators := t.operators ++ [⟨op, []⟩] }
  | .error _ => t

def step (t : Service) : Call → Logged (Service × Answer)
  | .openPublisher initial =>
      let p := (initial.map Publisher.new).getD .idle
      pure ({ t with publishers := t.publishers ++ [⟨p, []⟩] }, .opened t.publishers.length)
  | .publisher i s =>
      match t.publishers[i]? with
      | none => pure (t, .unknown i)
      | some p => do
          let (p, a) ← p.step s
          return ({ t with publishers := t.publishers.set i p }, .publisher a)
  | .openOperator op =>
      pure ({ t with operators := t.operators ++ [⟨op, []⟩] }, .opened t.operators.length)
  | .operator i s =>
      match t.operators[i]? with
      | none => pure (t, .unknown i)
      | some o => do
          let (o, a) ← o.step s
          return ({ t with operators := t.operators.set i o }, .operator a)
  | .load settings record => do
      let x ← Operator.ofRecord settings record
      return (t.enroll x, .loaded x)
  | .readRecord record => do
      let x ← Operator.ofJson record
      return (t.enroll x, .read x)
  | .readText text => do
      let x ← Operator.ofText text
      return (t.enroll x, .read x)
  | .ask s r => return (t, .decision (← s.ask r))
  | .canAccess s r => return (t, .access (← s.canAccess r))
  | .roleSet rs => pure (t, .roleSet (.ok (.ofNullable rs)))
  | .readRoleSet text => pure (t, .roleSet (Refusal.readText RoleSet.ofDoc text))
  | .accessList flag sites => pure (t, .accessList (some (.ofSites flag sites)))
  | .readAccessList text => pure (t, .accessList (Json.readText? AccessList.ofDoc? text))

def run (t : Service) : List Call → Logged Service
  | [] => pure t
  | c :: cs => do
      let (t, _) ← t.step c
      t.run cs

end Service

end SiteAccess
