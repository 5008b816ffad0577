import SiteAccess.Operator.Session
import SiteAccess.Proofs.Json.Text
import SiteAccess.Proofs.Record.Grammar

namespace SiteAccess

open Decimal Json Record

theorem Role.named?_name (r : Role) : Role.named? r.name = some r := by
  cases r <;> decide

theorem RoleSet.isRoleEntry_toJson {s : RoleSet} :
    ∀ v ∈ s.roles.map Role.toJson, IsRoleEntry v := by
  intro v hv
  obtain ⟨r, -, rfl⟩ := List.mem_map.mp hv
  exact .inr ⟨r.name, r, rfl, r.named?_name⟩

theorem RoleSet.mem_iff_written {s : RoleSet} {r : Role} : r ∈ s.roles ↔
    ∃ t, .str t ∈ s.roles.map Role.toJson ∧ Role.named? t = some r := by
  constructor
  · exact fun h => ⟨r.name, List.mem_map_of_mem (f := Role.toJson) h, r.named?_name⟩
  · rintro ⟨t, ht, hn⟩
    obtain ⟨q, hq, he⟩ := List.mem_map.mp ht
    obtain rfl : q.name = t := by simpa [Role.toJson] using he
    obtain rfl : q = r := by simpa [q.named?_name] using hn
    exact hq

theorem RoleSet.regular_toJson (s : RoleSet) (depth : Nat) : Regular (depth + 1) s.toJson := by
  refine .arr fun v hv => ?_
  obtain ⟨r, -, rfl⟩ := List.mem_map.mp hv
  exact .str depth r.name

namespace Operator

def written (op : Operator) : Field → Json
  | .key => .str op.key
  | .name => .str op.name
  | .contact => .str op.contact
  | .protocol => .str op.protocol
  | .created => .int op.created.toInt
  | .disabled => .bool op.disabled
  | .site => .option SiteId.toJson op.site
  | .operatorType => op.operatorType.toJson
  | .roles => op.roles.toJson

theorem toJson_members (op : Operator) :
    ∃ ms, op.toJson = .obj ms ∧ ∀ f : Field, f.get? ms = some (op.written f) := by
  refine ⟨_, rfl, fun f => ?_⟩
  cases f <;> simp [Field.get?, Field.label, lastWith, written]

theorem load_toJson (op : Operator) (otherwise : OperatorType) :
    load otherwise op.toJson = .ok op := by
  obtain ⟨ms, hj, hm⟩ := op.toJson_members
  refine load_eq_ok_iff.mpr ⟨ms, hj, ?_⟩
  have hsite : Absent (Field.site.get? ms) ∧ op.site = none ∨
      ∃ s, Field.site.get? ms = some (SiteId.toJson s) ∧ op.site = some s := by
    rw [hm, written]
    cases op.site with
    | none => exact .inl ⟨.inr rfl, rfl⟩
    | some s => exact .inr ⟨s, rfl, rfl⟩
  have hroles : Field.roles.Admits (Field.roles.get? ms) ∧ ∀ r, r ∈ op.roles.roles ↔
      r = .operator ∨ ∃ items s, Field.roles.get? ms = some (.arr items) ∧ .str s ∈ items ∧
        Role.named? s = some r := by
    rw [hm, written]
    refine ⟨.inr ⟨_, rfl, RoleSet.isRoleEntry_toJson⟩, fun r => ⟨fun h => ?_, ?_⟩⟩
    · obtain ⟨t, ht, hn⟩ := RoleSet.mem_iff_written.mp h
      exact .inr ⟨_, t, rfl, ht, hn⟩
    · rintro (rfl | ⟨items, t, he, ht, hn⟩)
      · exact op.roles.operator_mem
      · obtain rfl : op.roles.roles.map Role.toJson = items := by simpa [RoleSet.toJson] using he
        exact RoleSet.mem_iff_written.mpr ⟨t, ht, hn⟩
  exact ⟨hm .key, hm .name, hm .contact, hm .protocol, hm .created, .inr (hm .disabled), hsite,
    .inr (hm .operatorType), hroles⟩

theorem regular_toJson (op : Operator) (depth : Nat) : Regular (depth + 2) op.toJson := by
  have hsite (depth : Nat) : Regular depth (.option SiteId.toJson op.site) := by
    cases op.site with
    | none => exact .null depth
    | some s => exact .int depth (fits_int32 s)
  refine .obj ?_ ?_
  · simp
  · simp only [List.mem_cons, List.not_mem_nil, or_false, forall_eq_or_imp, forall_eq]
    exact ⟨.str _ _, .str _ _, .str _ _, .str _ _, .int _ (fits_int64 op.created), .bool _ _,
      hsite _, op.roles.regular_toJson depth, .str _ _⟩

theorem ofRecord_toJson (op : Operator) (settings : Settings) :
    ofRecord settings op.toJson = pure (.ok op) := by
  rw [ofRecord, load_toJson]

theorem ofJson_toJson (op : Operator) : ofJson op.toJson = pure (.ok op) := by
  rw [ofJson, ofRecord_toJson]
  rfl

theorem ofText_written (op : Operator) : ofText op.render = pure (.ok op) := by
  have hd : Doc.ofText op.render = (.ofJson op.toJson, []) :=
    Doc.ofText_render (op.regular_toJson 0)
  have hv : (Doc.ofJson op.toJson).toJson? = some op.toJson :=
    value?_ofJson (op.regular_toJson 125)
  simp only [ofText, hd, hv, ofJson_toJson]
  rfl

/-- Reading undoes writing: in the record, in its text, and in the value of its text the operator
stands as it was, whatever the settings, and it is written again as before. -/
theorem written_operator_returns (op : Operator) (settings : Settings) :
    ofRecord settings op.toJson = pure (.ok op) ∧
      ofJson op.toJson = pure (.ok op) ∧
      Json.ofText? op.render = some op.toJson ∧
      ofText op.render = pure (.ok op) ∧
      (ofText op.render).value.map render = .ok op.render := by
  refine ⟨op.ofRecord_toJson settings, op.ofJson_toJson, ?_, op.ofText_written, ?_⟩
  · exact Json.ofText?_render (op.regular_toJson 125)
  · rw [ofText_written]
    rfl

end Operator

end SiteAccess
