import SiteAccess.Proofs.Names
import SiteAccess.Proofs.Operator.Storage

namespace SiteAccess

open Json Record

namespace Record

def Field.of? (f : Field) : Json → Option Json
  | .obj ms => f.get? ms
  | _ => none

def Field.default : Field → Json
  | .disabled => .bool false
  | .operatorType => .str "PRIVATE"
  | _ => .null

def Field.said (f : Field) (v : Json) : Json :=
  match f.of? v with
  | none | some .null => f.default
  | some w => w

/-- The role that every operator has, and those that the list names. -/
def Grants (v : Json) (r : Role) : Prop :=
  r = .operator ∨ ∃ items text, Field.roles.of? v = some (.arr items) ∧ .str text ∈ items ∧
    r.Spells text

structure SameContent (v w : Json) : Prop where
  fields : ∀ f : Field, f ≠ .roles → f.said v = f.said w
  roles : ∀ r, Grants v r ↔ Grants w r

variable {ms : Members} {f : Field} {v w : Json}

theorem said_of_absent (h : Absent (f.get? ms)) : f.said (.obj ms) = f.default := by
  rcases h with h | h <;> rw [Field.said, Field.of?, h]

theorem said_of_eq_some (h : f.get? ms = some v) (hn : v ≠ .null) : f.said (.obj ms) = v := by
  rw [Field.said, Field.of?, h]
  cases v with
  | null => exact absurd rfl hn
  | bool | num | str | arr | obj => rfl

theorem SameContent.symm (h : SameContent v w) : SameContent w v :=
  ⟨fun f hf => (h.fields f hf).symm, fun r => (h.roles r).symm⟩

theorem sameContent_filter (ms : Members) :
    SameContent (.obj (ms.filter fun m => Field.order.any (·.label = m.1))) (.obj ms) := by
  have h : ∀ f : Field, f.of? (.obj (ms.filter fun m => Field.order.any (·.label = m.1))) =
      f.of? (.obj ms) := fun f => f.get?_filter ms
  refine ⟨fun f _ => ?_, fun r => ?_⟩
  · rw [Field.said, Field.said, h]
  · rw [Grants, Grants, h]

variable {otherwise : OperatorType} {op other : Operator}

/-- What an operator is loaded from says what is written of it. -/
theorem Describes.said_eq (h : Describes otherwise ms op) (hf : f ≠ .roles)
    (ht : f = .operatorType → otherwise = .privateOperator) :
    f.said (.obj ms) = op.written f := by
  cases f with
  | key => exact said_of_eq_some h.key fun he => Json.noConfusion he
  | name => exact said_of_eq_some h.name fun he => Json.noConfusion he
  | contact => exact said_of_eq_some h.contact fun he => Json.noConfusion he
  | protocol => exact said_of_eq_some h.protocol fun he => Json.noConfusion he
  | created => exact said_of_eq_some h.created fun he => Json.noConfusion he
  | disabled =>
      rcases h.disabled with ⟨ha, hd⟩ | hd
      · rw [said_of_absent ha, Operator.written, hd, Field.default]
      · exact said_of_eq_some hd fun he => Json.noConfusion he
  | site =>
      rcases h.site with ⟨ha, hs⟩ | ⟨s, hm, hs⟩
      · rw [said_of_absent ha, Operator.written, hs]
        rfl
      · rw [said_of_eq_some hm fun he => Json.noConfusion he, Operator.written, hs]
        rfl
  | operatorType =>
      rcases h.operatorType with ⟨ha, ho⟩ | ho
      · rw [said_of_absent ha, Operator.written, ho, ht rfl]
        rfl
      · exact said_of_eq_some ho fun he => Json.noConfusion he
  | roles => exact absurd rfl hf

theorem Describes.grants_iff (h : Describes otherwise ms op) (r : Role) :
    Grants (.obj ms) r ↔ r ∈ op.roles.roles := by
  simp only [h.roles.2 r, Grants, Field.of?, Role.named?_eq_some_iff_spells]

end Record

theorem Operator.ext_written {op other : Operator} (h : ∀ f, op.written f = other.written f) :
    op = other := by
  obtain ⟨ms, hj, hm⟩ := op.toJson_members
  obtain ⟨ms', hj', hm'⟩ := other.toJson_members
  have hl : load .privateOperator (.obj ms) = load .privateOperator (.obj ms') :=
    load_congr fun f => by rw [hm, hm', h]
  rw [← hj, ← hj', load_toJson, load_toJson] at hl
  exact Except.ok.inj hl

namespace Record

variable {v w : Json} {op other : Operator}

theorem eq_iff_sameContent (hv : load .privateOperator v = .ok op)
    (hw : load .privateOperator w = .ok other) : op = other ↔ SameContent v w := by
  obtain ⟨ms, rfl, hd⟩ := load_eq_ok_iff.mp hv
  obtain ⟨ms', rfl, hd'⟩ := load_eq_ok_iff.mp hw
  constructor
  · rintro rfl
    refine ⟨fun f hf => ?_, fun r => ?_⟩
    · rw [hd.said_eq hf fun _ => rfl, hd'.said_eq hf fun _ => rfl]
    · rw [hd.grants_iff, hd'.grants_iff]
  · intro hs
    apply Operator.ext_written
    intro f
    by_cases hf : f = .roles
    · have hr : op.roles = other.roles := RoleSet.ext fun r => by
        rw [← hd.grants_iff, ← hd'.grants_iff, hs.roles]
      rw [hf, Operator.written, Operator.written, hr]
    · rw [← hd.said_eq hf fun _ => rfl, ← hd'.said_eq hf fun _ => rfl, hs.fields f hf]

theorem site_eq_of_said_eq {t t' : OperatorType} (hv : load t v = .ok op)
    (hw : load t' w = .ok other) (h : Field.site.said v = Field.site.said w) :
    op.site = other.site := by
  obtain ⟨ms, rfl, hd⟩ := load_eq_ok_iff.mp hv
  obtain ⟨ms', rfl, hd'⟩ := load_eq_ok_iff.mp hw
  have hs : Field.site ≠ .roles ∧ Field.site ≠ .operatorType := by simp
  rw [hd.said_eq hs.1 fun he => absurd he hs.2, hd'.said_eq hs.1 fun he => absurd he hs.2] at h
  exact site_unique h

end Record

end SiteAccess
