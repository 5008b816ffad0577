import SiteAccess.Proofs.Operator.Storage

namespace SiteAccess

namespace RoleSet

theorem size_pos (s : RoleSet) : 1 ≤ s.size := List.length_pos_of_mem s.operator_mem

theorem size_le (s : RoleSet) : s.size ≤ 7 := by
  have h := List.length_filter_le (· ∈ s.roles) Role.all
  rw [size, roles_eq_filter s]
  exact h

theorem isEmpty_eq_false (s : RoleSet) : s.isEmpty = false := by
  have h := List.ne_nil_of_mem s.operator_mem
  simpa [isEmpty] using h

end RoleSet

namespace Operator

namespace Edit

def key? : Edit → Option String
  | .setKey key => some key
  | _ => none

def disabled? : Edit → Option Bool
  | .setDisabled disabled => some disabled
  | _ => none

def site? : Edit → Option (Option SiteId)
  | .setSite site | .withSite site => some site
  | _ => none

def operatorType? : Edit → Option OperatorType
  | .setOperatorType t | .withOperatorType t => some t
  | _ => none

def entries? : Edit → Option (List (Option Role))
  | .setRoles rs | .withRoles rs => some (rs.map some)
  | .setNullableRoles rs => some (rs.getD [])
  | _ => none

end Edit

def lastGiven? {α : Type} (given? : Edit → Option α) (es : List Edit) : Option α :=
  (es.filterMap given?).getLast?

theorem lastGiven?_append {α : Type} (given? : Edit → Option α) (es : List Edit) (e : Edit) :
    lastGiven? given? (es ++ [e]) = (given? e).or (lastGiven? given? es) := by
  cases h : given? e <;> simp [lastGiven?, List.filterMap_append, h]

/-- The operator that an edit leaves behind. Writing out and reading in leaves it as it is. -/
def after (op : Operator) : Edit → Operator
  | .setRoles rs | .withRoles rs => op.setRoles rs
  | .setNullableRoles rs => op.setNullableRoles rs
  | .setKey key => op.setKey key
  | .setDisabled disabled => op.setDisabled disabled
  | .setSite site | .withSite site => op.setSite site
  | .setOperatorType t | .withOperatorType t => op.setOperatorType t
  | .reload => op

theorem edit_eq_after (op : Operator) (e : Edit) : op.edit e = pure (.ok (op.after e)) := by
  cases e with
  | reload => exact op.ofText_written
  | setRoles | withRoles | setNullableRoles | setKey | setDisabled | setSite | withSite
  | setOperatorType | withOperatorType => rfl

theorem run_eq_foldl (op : Operator) (es : List Edit) : op.run es = pure (es.foldl after op) := by
  induction es generalizing op with
  | nil => rfl
  | cons e es ih =>
      rw [run, edit_eq_after, List.foldl_cons, ← ih (op.after e)]
      rfl

section after

variable (op : Operator) (e : Edit)

theorem after_fixed : (op.after e).name = op.name ∧ (op.after e).contact = op.contact ∧
    (op.after e).protocol = op.protocol ∧ (op.after e).created = op.created := by
  cases e <;> exact ⟨rfl, rfl, rfl, rfl⟩

theorem after_key : (op.after e).key = e.key?.getD op.key := by cases e <;> rfl

theorem after_disabled : (op.after e).disabled = e.disabled?.getD op.disabled := by cases e <;> rfl

theorem after_site : (op.after e).site = e.site?.getD op.site := by cases e <;> rfl

theorem after_operatorType : (op.after e).operatorType = e.operatorType?.getD op.operatorType := by
  cases e <;> rfl

theorem after_roles : match e.entries? with
    | some entries => ∀ r, r ∈ (op.after e).roles.roles ↔ r = .operator ∨ some r ∈ entries
    | none => (op.after e).roles = op.roles := by
  cases e with
  | setRoles rs | withRoles rs => simp [Edit.entries?, after, setRoles, RoleSet.mem_normalize]
  | setNullableRoles rs =>
      simp [Edit.entries?, after, setNullableRoles, RoleSet.ofNullable, RoleSet.mem_normalize]
  | setKey | setDisabled | setSite | withSite | setOperatorType | withOperatorType | reload => rfl

end after

/-- How an operator follows from the one that it started as and the edits since then. -/
structure Follows (start : Operator) (es : List Edit) (op : Operator) : Prop where
  name : op.name = start.name
  contact : op.contact = start.contact
  protocol : op.protocol = start.protocol
  created : op.created = start.created
  key : op.key = (lastGiven? Edit.key? es).getD start.key
  disabled : op.disabled = (lastGiven? Edit.disabled? es).getD start.disabled
  site : op.site = (lastGiven? Edit.site? es).getD start.site
  operatorType : op.operatorType = (lastGiven? Edit.operatorType? es).getD start.operatorType
  roles : match lastGiven? Edit.entries? es with
    | some entries => ∀ r, r ∈ op.roles.roles ↔ r = .operator ∨ some r ∈ entries
    | none => op.roles = start.roles

theorem follows_self (start : Operator) : Follows start [] start :=
  ⟨rfl, rfl, rfl, rfl, rfl, rfl, rfl, rfl, rfl⟩

theorem Follows.after {start op : Operator} {es : List Edit} (h : Follows start es op) (e : Edit) :
    Follows start (es ++ [e]) (op.after e) where
  name := (op.after_fixed e).1.trans h.name
  contact := (op.after_fixed e).2.1.trans h.contact
  protocol := (op.after_fixed e).2.2.1.trans h.protocol
  created := (op.after_fixed e).2.2.2.trans h.created
  key := by rw [after_key, h.key, lastGiven?_append, Option.getD_or]
  disabled := by rw [after_disabled, h.disabled, lastGiven?_append, Option.getD_or]
  site := by rw [after_site, h.site, lastGiven?_append, Option.getD_or]
  operatorType := by rw [after_operatorType, h.operatorType, lastGiven?_append, Option.getD_or]
  roles := by
    have hr := op.after_roles e
    rw [lastGiven?_append]
    cases he : e.entries? with
    | some entries => simpa [he] using hr
    | none =>
        rw [he] at hr
        simpa [hr] using h.roles

theorem Follows.foldl {start op : Operator} {es : List Edit} (h : Follows start es op)
    (more : List Edit) : Follows start (es ++ more) (more.foldl Operator.after op) := by
  induction more generalizing es op with
  | nil => simpa using h
  | cons e more ih => simpa using ih (h.after e)

theorem edit_succeeds (op : Operator) (e : Edit) : ∃ next, (op.edit e).value = .ok next := by
  rw [edit_eq_after]
  exact ⟨op.after e, rfl⟩

/-- The roles of an operator stand in normal form, and questions about them are answered by it. -/
structure RolesInOrder (op : Operator) : Prop where
  ascending : op.roles.roles.Pairwise fun a b => a.rank < b.rank
  operator_mem : .operator ∈ op.roles.roles
  size_pos : 1 ≤ op.roles.size
  size_le : op.roles.size ≤ 7
  not_empty : op.roles.isEmpty = false
  hasRole_iff : ∀ r, op.hasRole r = true ↔ r ∈ op.roles.roles
  authorizable_iff : ∀ r, Authorizable.hasRole op r = true ↔ r ∈ op.roles.roles

theorem rolesInOrder (op : Operator) : RolesInOrder op :=
  ⟨op.roles.ascending, op.roles.operator_mem, op.roles.size_pos, op.roles.size_le,
    op.roles.isEmpty_eq_false, fun _ => RoleSet.contains_iff, fun _ => RoleSet.contains_iff⟩

/-- Whatever is edited and in whatever order, the operator follows from its start and the edits,
and none of them is refused. -/
theorem run_follows (start : Operator) (es : List Edit) :
    Follows start es (start.run es).value ∧ RolesInOrder (start.run es).value ∧
      ∀ e, ∃ next, ((start.run es).value.edit e).value = .ok next := by
  have hrun : (start.run es).value = es.foldl Operator.after start := by
    rw [run_eq_foldl]
    rfl
  rw [hrun]
  exact ⟨(follows_self start).foldl es, rolesInOrder _, edit_succeeds _⟩

-- A later grant leaves nothing of an earlier one, across writing out and reading in.
example (start : Operator) :
    (start.run [.setRoles [.secretManager], .reload, .setNullableRoles (some [none])]).value.roles =
      .plain := by
  rw [run_eq_foldl]
  rfl

end Operator

end SiteAccess
