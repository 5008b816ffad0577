import SiteAccess.Json.Reader

namespace SiteAccess

open Json

inductive Fault
  | malformedRecord (field message : String)
  | invalidArgument (message : String)
  deriving DecidableEq

namespace Fault

def code : Fault → String
  | .malformedRecord .. => "malformed_record"
  | .invalidArgument _ => "invalid_argument"

def message : Fault → String
  | .malformedRecord _ m | .invalidArgument m => m

def field? : Fault → Option String
  | .malformedRecord f _ => some f
  | .invalidArgument _ => none

def text : Fault → String
  | .malformedRecord f m => "malformed_record: field '" ++ f ++ "': " ++ m
  | .invalidArgument m => "invalid_argument: " ++ m

def noSite : Fault := .invalidArgument "principal has no site id"

def toJson (f : Fault) : Json :=
  match f with
  | .malformedRecord field m =>
      .obj [("type", .str f.code), ("field", .str field), ("message", .str m)]
  | .invalidArgument m => .obj [("type", .str f.code), ("message", .str m)]

def ofContent? (code : String) (content : Doc) : Option Fault :=
  match code with
  | "malformed_record" =>
      match content.fields? ["field", "message"] 2 with
      | some [some f, some m] => return .malformedRecord (← f.string?) (← m.string?)
      | _ => none
  | "invalid_argument" =>
      match content.fields? ["message"] 1 with
      | some [some m] => return .invalidArgument (← m.string?)
      | _ => none
  | _ => none

/-- The code is the member `type` of an object or the first item of an array. The whole document has
to have a value, members of no use included. -/
def ofDoc? (d : Doc) : Option Fault :=
  match d.toJson?, d with
  | some _, .obj _ =>
      match d.fields? ["type"] 1 with
      | some [some code] => do ofContent? (← code.string?) d
      | _ => none
  | some _, .arr (code :: rest) => do ofContent? (← code.string?) (.arr rest)
  | _, _ => none

end Fault

inductive Refusal
  | malformed
  | fault (f : Fault)
  deriving DecidableEq

namespace Refusal

/-- Reads the document at the front of a text. What follows is looked at only after that was a
success, and may be spaces only. -/
def readText {α : Type} (read : Doc → Except Refusal α) (s : String) : Except Refusal α :=
  match Doc.ofText s with
  | (d, rest) =>
      match read d with
      | .error e => .error e
      | .ok a => if (Doc.skipSpaces rest).isEmpty then .ok a else .error .malformed

end Refusal

end SiteAccess
