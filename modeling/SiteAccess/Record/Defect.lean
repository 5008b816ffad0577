import SiteAccess.Fault
import SiteAccess.Operator

namespace SiteAccess

namespace Record

open Decimal Json

inductive Field
  | key
  | name
  | contact
  | protocol
  | created
  | disabled
  | site
  | operatorType
  | roles
  deriving DecidableEq

namespace Field

def label : Field → String
  | key => "key"
  | name => "name"
  | contact => "contact"
  | protocol => "protocol"
  | created => "created"
  | disabled => "disabled"
  | site => "site_id"
  | operatorType => "operator_type"
  | roles => "roles"

def content : Field → String
  | key | name | contact | protocol | operatorType => "string"
  | created | site => "integer"
  | disabled => "boolean"
  | roles => "array"

end Field

inductive Defect
  | notAnObject (found : Kind)
  | missing (field : Field)
  | wrongKind (field : Field) (found : Kind)
  | notAnInteger (found : Number)
  | notASite (found : Number)
  | unknownOperatorType (name : String)
  | notARoleName (found : Kind)
  | unknownRole (name : String)

namespace Defect

/-- The field that is blamed; the record itself goes by a name that no member has. -/
def blamed : Defect → String
  | notAnObject _ => "<record>"
  | missing f | wrongKind f _ => f.label
  | notAnInteger _ => Field.created.label
  | notASite _ => Field.site.label
  | unknownOperatorType _ => Field.operatorType.label
  | notARoleName _ | unknownRole _ => Field.roles.label

def expected (content found : String) : String := "expected " ++ content ++ ", found " ++ found

def message : Defect → String
  | notAnObject k => expected "object" k.name
  | missing _ => "required field is missing"
  | wrongKind f k => expected f.content k.name
  | notAnInteger n => expected "integer" (String.ofList n.text)
  | notASite n => expected "32-bit integer" (String.ofList n.text)
  | unknownOperatorType s => "unknown operator type '" ++ s ++ "'"
  | notARoleName k => expected "role name" k.name
  | unknownRole s => "unknown role '" ++ s ++ "'"

def fault (d : Defect) : Fault := .malformedRecord d.blamed d.message

end Defect

end Record

open Record

def Role.parse (s : String) : Except Defect Role :=
  match Role.named? s with
  | some r => .ok r
  | none => .error (.unknownRole s)

def OperatorType.parse (s : String) : Except Defect OperatorType :=
  match OperatorType.named? s with
  | some t => .ok t
  | none => .error (.unknownOperatorType s)

end SiteAccess
