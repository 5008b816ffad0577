import SiteAccess.Record.Loader
import SiteAccess.Snapshot

namespace SiteAccess.Operator

inductive Edit
  | setRoles (rs : List Role)
  | withRoles (rs : List Role)
  | setNullableRoles (rs : Option (List (Option Role)))
  | setKey (key : String)
  | setDisabled (disabled : Bool)
  | setSite (site : Option SiteId)
  | withSite (site : Option SiteId)
  | setOperatorType (t : OperatorType)
  | withOperatorType (t : OperatorType)
  /-- Writes the operator out and reads it in again. -/
  | reload

def render (op : Operator) : String := op.toJson.render

def edit (op : Operator) : Edit → Logged (Except Refusal Operator)
  | .setRoles rs => pure (.ok (op.setRoles rs))
  | .withRoles rs => pure (.ok (op.withRoles rs))
  | .setNullableRoles rs => pure (.ok (op.setNullableRoles rs))
  | .setKey key => pure (.ok (op.setKey key))
  | .setDisabled disabled => pure (.ok (op.setDisabled disabled))
  | .setSite site => pure (.ok (op.setSite site))
  | .withSite site => pure (.ok (op.withSite site))
  | .setOperatorType t => pure (.ok (op.setOperatorType t))
  | .withOperatorType t => pure (.ok (op.withOperatorType t))
  | .reload => ofText op.render

/-- An edit that is refused changes nothing. -/
def run (op : Operator) : List Edit → Logged Operator
  | [] => pure op
  | e :: es => do
      match ← op.edit e with
      | .ok op => op.run es
      | .error _ => op.run es

structure Session where
  operator : Operator
  saved : Shelf String Operator

inductive Step
  | edit (e : Edit)
  | hasRole (r : Role)
  | site
  | granted
  | render
  | save (name : String)
  | restore (name : String)
  | compare (name : String)
  | ask (s : Snapshot) (keySite : SiteId) (fallback : Fallback)

inductive Answer
  | operator (op : Operator)
  | flag (b : Bool)
  | site (s : Option SiteId)
  | roles (rs : List Role)
  | text (s : String)
  | count (n : Nat)
  | comparison (same : Bool) (saved : Operator)
  | decision (d : Except Fault Decision)
  | refused (e : Refusal)
  | unknown (name : String)

namespace Session

def become (t : Session) (op : Operator) : Session × Answer :=
  ({ t with operator := op }, .operator op)

def withSaved (t : Session) (name : String) (f : Operator → Session × Answer) : Session × Answer :=
  match t.saved.get? name with
  | some op => f op
  | none => (t, .unknown name)

def step (t : Session) : Step → Logged (Session × Answer)
  | .edit e => do
      match ← t.operator.edit e with
      | .ok op => return t.become op
      | .error e => return (t, .refused e)
  | .hasRole r => return (t, .flag (t.operator.hasRole r))
  | .site => return (t, .site (SitePrincipal.site? t.operator))
  | .granted => return (t, .roles t.operator.roles.granted)
  | .render => return (t, .text t.operator.render)
  | .save name =>
      let saved := t.saved.put name t.operator
      return ({ t with saved }, .count saved.size)
  | .restore name => return t.withSaved name t.become
  | .compare name => return t.withSaved name fun op => (t, .comparison (op = t.operator) op)
  | .ask s keySite fallback => do
      return (t, .decision (← s.ask (.of t.operator keySite fallback)))

end Session

end SiteAccess.Operator
