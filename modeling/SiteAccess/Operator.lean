import SiteAccess.Collections
import SiteAccess.Decision
import SiteAccess.Role

namespace SiteAccess

inductive OperatorType
  | publicOperator
  | privateOperator
  deriving DecidableEq

namespace OperatorType

def name : OperatorType → String
  | publicOperator => "PUBLIC"
  | privateOperator => "PRIVATE"

def named? (s : String) : Option OperatorType :=
  match s with
  | "PUBLIC" => some publicOperator
  | "PRIVATE" => some privateOperator
  | _ => none

def toJson (t : OperatorType) : Json := .str t.name

def ofDoc? (d : Json.Doc) : Option OperatorType := d.word? named?

theorem named?_eq_some_iff {s : String} {t : OperatorType} : named? s = some t ↔ s = t.name := by
  constructor
  · intro h
    unfold named? at h
    split at h <;> simp_all [name]
    all_goals (subst h; rfl)
  · rintro rfl
    cases t <;> rfl

end OperatorType

structure Operator where
  key : String
  name : String
  contact : String
  protocol : String
  created : Int64
  disabled : Bool
  site : Option SiteId
  roles : RoleSet
  operatorType : OperatorType
  deriving DecidableEq

namespace Operator

def new (key name contact protocol : String) (created : Int64) (disabled : Bool) : Operator :=
  { key, name, contact, protocol, created, disabled, site := none, roles := .plain,
    operatorType := .privateOperator }

def hasRole (op : Operator) (r : Role) : Bool := op.roles.contains r

instance : Authorizable Operator Role where
  hasRole op r := op.roles.contains r

instance : SitePrincipal Operator := ⟨Operator.site⟩

def setRoles (op : Operator) (rs : List Role) : Operator := { op with roles := .normalize rs }

/-- Absent entries are passed over, and an absent list withdraws all grants. -/
def setNullableRoles (op : Operator) (rs : Option (List (Option Role))) : Operator :=
  { op with roles := .ofNullable rs }

def setKey (op : Operator) (key : String) : Operator := { op with key }

def setDisabled (op : Operator) (disabled : Bool) : Operator := { op with disabled }

def setSite (op : Operator) (site : Option SiteId) : Operator := { op with site }

def setOperatorType (op : Operator) (operatorType : OperatorType) : Operator :=
  { op with operatorType }

def withRoles (op : Operator) (rs : List Role) : Operator := op.setRoles rs

def withSite (op : Operator) (site : Option SiteId) : Operator := op.setSite site

def withOperatorType (op : Operator) (t : OperatorType) : Operator := op.setOperatorType t

@[simp] theorem setRoles_roles (op : Operator) (s : RoleSet) :
    op.setRoles s.roles = { op with roles := s } := by
  rw [setRoles, RoleSet.normalize_roles]

def toJson (op : Operator) : Json :=
  .obj [("key", .str op.key), ("name", .str op.name), ("contact", .str op.contact),
    ("protocol", .str op.protocol), ("created", .int op.created.toInt),
    ("disabled", .bool op.disabled), ("site_id", .option SiteId.toJson op.site),
    ("roles", op.roles.toJson), ("operator_type", op.operatorType.toJson)]

end Operator

inductive Piece
  | text (s : String)
  | number (n : Int)
  deriving DecidableEq

namespace Piece

def flag (b : Bool) : Piece := .number b.toInt

def site : Option SiteId → List Piece
  | none => [.number 0]
  | some s => [.number 1, .number s.toInt]

def roles (s : RoleSet) : List Piece := .number s.size :: s.roles.map fun r => .number r.rank

end Piece

namespace Operator

def pieces (op : Operator) : List Piece :=
  [.text op.key, .text op.name, .text op.contact, .text op.protocol, .number op.created.toInt,
    .flag op.disabled] ++ Piece.site op.site ++ Piece.roles op.roles ++
    [.number op.operatorType.ctorIdx]

def digest {σ : Type} (take : σ → Piece → σ) (start : σ) (op : Operator) : σ :=
  op.pieces.foldl take start

end Operator

abbrev Roster (α : Type) := Shelf Operator α

/-- Where each distinct operator of a list is found first and last. -/
def Roster.spans (ops : List Operator) : List (Nat × Nat) :=
  (Shelf.ofList ops.zipIdx).map fun p => (ops.idxOf p.1, p.2)

end SiteAccess
