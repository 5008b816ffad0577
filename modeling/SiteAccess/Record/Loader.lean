import SiteAccess.Settings

namespace SiteAccess

open Decimal Json

def Role.ofDoc : Doc → Except Refusal Role
  | .str (some s) => (Role.parse s).mapError fun e => .fault e.fault
  | _ => .error .malformed

namespace RoleSet

def entry : Doc → Except Refusal (Option Role)
  | .null => .ok none
  | d => (Role.ofDoc d).map some

/-- Null stands for an absent list. The entries are read in order up to the first refusal. -/
def ofDoc : Doc → Except Refusal RoleSet
  | .null => .ok (ofNullable none)
  | .arr items => (items.mapM entry).map fun rs => ofNullable (some rs)
  | _ => .error .malformed

end RoleSet

namespace Record

abbrev Members := List (String × Json)

def Field.get? (f : Field) (ms : Members) : Option Json := lastWith f.label ms

def text (f : Field) (ms : Members) : Except Defect String :=
  match f.get? ms with
  | some (.str s) => .ok s
  | some v => .error (.wrongKind f v.kind)
  | none => .error (.missing f)

def created (ms : Members) : Except Defect Int64 :=
  match Field.created.get? ms with
  | some (.num n) =>
      match n.int64? with
      | some t => .ok t
      | none => .error (.notAnInteger n)
  | some v => .error (.wrongKind .created v.kind)
  | none => .error (.missing .created)

def disabled (ms : Members) : Except Defect Bool :=
  match Field.disabled.get? ms with
  | none | some .null => .ok false
  | some (.bool b) => .ok b
  | some v => .error (.wrongKind .disabled v.kind)

def site (ms : Members) : Except Defect (Option SiteId) :=
  match Field.site.get? ms with
  | none | some .null => .ok none
  | some (.num n) =>
      match n.int32? with
      | some s => .ok (some s)
      | none => .error (.notASite n)
  | some v => .error (.wrongKind .site v.kind)

def operatorType (otherwise : OperatorType) (ms : Members) : Except Defect OperatorType :=
  match Field.operatorType.get? ms with
  | none | some .null => .ok otherwise
  | some (.str s) => OperatorType.parse s
  | some v => .error (.wrongKind .operatorType v.kind)

def role : Json → Except Defect (Option Role)
  | .null => .ok none
  | .str s => (Role.parse s).map some
  | v => .error (.notARoleName v.kind)

def roles (ms : Members) : Except Defect RoleSet :=
  match Field.roles.get? ms with
  | none | some .null => .ok .plain
  | some (.arr items) => (items.mapM role).map fun rs => .ofNullable (some rs)
  | some v => .error (.wrongKind .roles v.kind)

def load (otherwise : OperatorType) : Json → Except Defect Operator
  | .obj ms => do
      let key ← text .key ms
      let name ← text .name ms
      let contact ← text .contact ms
      let protocol ← text .protocol ms
      let created ← created ms
      let disabled ← disabled ms
      let site ← site ms
      let operatorType ← operatorType otherwise ms
      let roles ← roles ms
      return Operator.new key name contact protocol created disabled
        |>.withSite site |>.withOperatorType operatorType |>.setRoles roles.roles
  | v => .error (.notAnObject v.kind)

end Record

namespace Operator

/-- The operator of a record; only the default operator type of the settings plays a part. -/
def ofRecord (settings : Settings) (record : Json) : Logged (Except Fault Operator) :=
  match Record.load settings.operatorType record with
  | .ok op => pure (.ok op)
  | .error defect => do
      Logged.emit (.rejected defect.fault)
      return .error defect.fault

def ofJson (record : Json) : Logged (Except Refusal Operator) := do
  return (← ofRecord .standard record).mapError .fault

/-- What follows the record is looked at only after the record was accepted. -/
def ofText (s : String) : Logged (Except Refusal Operator) :=
  match Doc.ofText s with
  | (d, rest) =>
      match d.toJson? with
      | none => pure (.error .malformed)
      | some record => do
          match ← ofJson record with
          | .error e => return .error e
          | .ok op => return if (Doc.skipSpaces rest).isEmpty then .ok op else .error .malformed

end Operator

end SiteAccess
