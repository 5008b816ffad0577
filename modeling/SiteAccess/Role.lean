import SiteAccess.Json.Value

namespace SiteAccess

inductive Role
  | operator
  | optout
  | optoutService
  | administrator
  | operatorManager
  | secretManager
  | privateOperatorSync
  deriving DecidableEq

namespace Role

def all : List Role :=
  [operator, optout, optoutService, administrator, operatorManager, secretManager,
    privateOperatorSync]

def rank (r : Role) : Nat := r.ctorIdx

def name : Role → String
  | operator => "OPERATOR"
  | optout => "OPTOUT"
  | optoutService => "OPTOUT_SERVICE"
  | administrator => "ADMINISTRATOR"
  | operatorManager => "OPERATOR_MANAGER"
  | secretManager => "SECRET_MANAGER"
  | privateOperatorSync => "PRIVATE_OPERATOR_SYNC"

def toJson (r : Role) : Json := .str r.name

/-- The role that a text names, in any letter case and with any blanks around it. -/
def named? (s : String) : Option Role := all.find? fun r => Text.sameWord r.name (Text.trim s)

def sort (rs : List Role) : List Role := rs.mergeSort fun a b => a.rank ≤ b.rank

theorem mem_all (r : Role) : r ∈ all := by cases r <;> decide

theorem all_ascending : all.Pairwise fun a b => a.rank < b.rank := by decide

theorem rank_injective {a b : Role} (h : a.rank = b.rank) : a = b := by
  revert h; cases a <;> cases b <;> decide

theorem lower_name_injective {a b : Role} (h : Text.lower a.name = Text.lower b.name) : a = b := by
  revert h; cases a <;> cases b <;> decide

end Role

structure RoleSet where
  roles : List Role
  operator_mem : Role.operator ∈ roles
  ascending : roles.Pairwise fun a b => a.rank < b.rank
  deriving DecidableEq

namespace RoleSet

/-- The set of the given roles, to which `operator` is added. -/
def normalize (rs : List Role) : RoleSet where
  roles := Role.all.filter fun r => r = .operator ∨ r ∈ rs
  operator_mem := by simp [Role.mem_all]
  ascending := List.Pairwise.sublist List.filter_sublist Role.all_ascending

def ofNullable (rs : Option (List (Option Role))) : RoleSet :=
  normalize ((rs.getD []).filterMap id)

def collect (rs : List Role) : RoleSet := normalize rs

def plain : RoleSet := normalize []

def contains (s : RoleSet) (r : Role) : Bool := s.roles.contains r

def size (s : RoleSet) : Nat := s.roles.length

def isEmpty (s : RoleSet) : Bool := s.roles.isEmpty

def granted (s : RoleSet) : List Role := s.roles.filter (· != .operator)

def toJson (s : RoleSet) : Json := .arr (s.roles.map Role.toJson)

/-- The order of the first roles that differ; a set comes before its extensions. -/
def compare (s t : RoleSet) : Ordering :=
  s.roles.compareLex (fun a b => Ord.compare a.rank b.rank) t.roles

theorem mem_normalize {rs : List Role} {r : Role} :
    r ∈ (normalize rs).roles ↔ r = .operator ∨ r ∈ rs := by
  simp [normalize, Role.mem_all]

theorem mem_ofNullable {entries : List (Option Role)} {r : Role} :
    r ∈ (ofNullable (some entries)).roles ↔ r = .operator ∨ some r ∈ entries := by
  simp [ofNullable, mem_normalize]

theorem contains_iff {s : RoleSet} {r : Role} : s.contains r = true ↔ r ∈ s.roles := by
  simp [contains]

theorem mem_granted {s : RoleSet} {r : Role} : r ∈ s.granted ↔ r ≠ .operator ∧ r ∈ s.roles := by
  simp [granted, and_comm]

theorem nodup_roles (s : RoleSet) : s.roles.Nodup := by
  apply s.ascending.imp
  rintro a b hlt rfl
  exact Nat.lt_irrefl _ hlt

theorem roles_eq_filter (s : RoleSet) : s.roles = Role.all.filter (· ∈ s.roles) := by
  have ht : (Role.all.filter (· ∈ s.roles)).Pairwise fun a b => a.rank < b.rank :=
    List.Pairwise.sublist List.filter_sublist Role.all_ascending
  refine List.Perm.eq_of_pairwise ?_ s.ascending ht ?_
  · intro a b _ _ hab hba
    exact absurd (Nat.lt_trans hab hba) (Nat.lt_irrefl _)
  · refine (List.perm_ext_iff_of_nodup s.nodup_roles ?_).mpr fun r => by simp [Role.mem_all]
    exact List.Nodup.sublist List.filter_sublist
      (Role.all_ascending.imp fun h he => by simp [he] at h)

theorem ext {s t : RoleSet} (h : ∀ r, r ∈ s.roles ↔ r ∈ t.roles) : s = t := by
  have hr : s.roles = t.roles := by
    rw [roles_eq_filter s, roles_eq_filter t]
    simp [h]
  cases s; cases t; simpa using hr

@[simp] theorem normalize_roles (s : RoleSet) : normalize s.roles = s :=
  ext fun r => by
    rw [mem_normalize]
    constructor
    · rintro (rfl | h)
      · exact s.operator_mem
      · exact h
    · exact .inr

end RoleSet

def normalizeRoles (rs : Option (List (Option Role))) : RoleSet := .ofNullable rs

end SiteAccess
