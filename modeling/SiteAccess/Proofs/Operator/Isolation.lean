import SiteAccess.EncryptionKey
import SiteAccess.Proofs.Operator.History
import SiteAccess.Proofs.Record.Content

namespace SiteAccess

open Json Record

namespace Record

/-- Two checks that come out alike: with the same defect, or with results that go together. -/
inductive Together {α β : Type} (R : α → β → Prop) : Except Defect α → Except Defect β → Prop
  | error (d : Defect) : Together R (.error d) (.error d)
  | ok {a : α} {b : β} (h : R a b) : Together R (.ok a) (.ok b)

section Together

variable {α β γ δ : Type} {R : α → β → Prop} {S : γ → δ → Prop}

theorem Together.refl (x : Except Defect α) : Together Eq x x := by
  cases x with
  | error d => exact .error d
  | ok a => exact .ok rfl

theorem Together.bind {x : Except Defect α} {y : Except Defect β} {k : α → Except Defect γ}
    {l : β → Except Defect δ} (hx : Together R x y)
    (hk : ∀ a b, R a b → Together S (k a) (l b)) : Together S (x >>= k) (y >>= l) := by
  cases hx with
  | error d => exact .error d
  | ok h => exact hk _ _ h

end Together

/-- Two operators of one record. -/
structure Siblings (v : Json) (op other : Operator) : Prop where
  fields : other = { op with operatorType := other.operatorType }
  operatorType : op.operatorType ≠ other.operatorType → Absent (Field.operatorType.of? v)

theorem together_operatorType (ms : Members) (t t' : OperatorType) :
    Together (fun a b => a ≠ b → Absent (Field.operatorType.get? ms)) (operatorType t ms)
      (operatorType t' ms) := by
  rw [operatorType, operatorType]
  cases hm : Field.operatorType.get? ms with
  | none => exact .ok fun _ => .inl rfl
  | some v =>
      cases v with
      | null => exact .ok fun _ => .inr rfl
      | str s =>
          change Together _ (OperatorType.parse s) (OperatorType.parse s)
          cases OperatorType.parse s with
          | error d => exact .error d
          | ok a => exact .ok (absurd rfl)
      | bool | num | arr | obj => exact .error _

theorem together_load (v : Json) (t t' : OperatorType) :
    Together (Siblings v) (load t v) (load t' v) := by
  cases v with
  | obj ms =>
      rw [load, load]
      refine (Together.refl (text .key ms)).bind ?_
      rintro key _ rfl
      refine (Together.refl (text .name ms)).bind ?_
      rintro name _ rfl
      refine (Together.refl (text .contact ms)).bind ?_
      rintro contact _ rfl
      refine (Together.refl (text .protocol ms)).bind ?_
      rintro protocol _ rfl
      refine (Together.refl (created ms)).bind ?_
      rintro created _ rfl
      refine (Together.refl (disabled ms)).bind ?_
      rintro disabled _ rfl
      refine (Together.refl (site ms)).bind ?_
      rintro site _ rfl
      refine (together_operatorType ms t t').bind ?_
      intro type type' htype
      refine (Together.refl (roles ms)).bind ?_
      rintro roles _ rfl
      exact .ok ⟨rfl, htype⟩
  | null | bool | num | str | arr => exact .error _

end Record

namespace Operator

theorem site_run {es : List Edit} (h : ∀ e ∈ es, e.site? = none) (op : Operator) :
    SitePrincipal.site? (op.run es).value = op.site := by
  have hf : Follows op es (es.foldl Operator.after op) := (follows_self op).foldl es
  have hn : es.filterMap Edit.site? = [] := List.filterMap_eq_nil_iff.mpr h
  change (op.run es).value.site = _
  rw [run_eq_foldl, Logged.value_pure, hf.site, lastGiven?, hn]
  rfl

theorem value_ofRecord (settings : Settings) (v : Json) : (ofRecord settings v).value =
    (load settings.operatorType v).mapError Defect.fault := by
  rw [ofRecord]
  cases load settings.operatorType v <;> rfl

/-- How the loadings of one record under two settings come out. -/
inductive LoadsAlike (v : Json) : Except Fault Operator → Except Fault Operator → Prop
  | refused (f : Fault) : LoadsAlike v (.error f) (.error f)
  | loaded {op other : Operator} (h : Siblings v op other) : LoadsAlike v (.ok op) (.ok other)

theorem loadsAlike_ofRecord (c c' : Settings) (v : Json) :
    LoadsAlike v (ofRecord c v).value (ofRecord c' v).value := by
  have hl := together_load v c.operatorType c'.operatorType
  rw [value_ofRecord, value_ofRecord]
  generalize load c.operatorType v = x at hl ⊢
  generalize load c'.operatorType v = y at hl ⊢
  cases hl with
  | error d => exact .refused d.fault
  | ok h => exact .loaded h

/-- Operators whose records say the same site get the same decisions for the same reasons, whatever
else they say and whatever is edited of them but their sites. The settings of a loading show in the
operator type, and only if the record leaves it open. -/
theorem site_alone_decides :
    (∀ {v w : Json} {c c' : Settings} {op other : Operator} {es es' : List Edit},
      (ofRecord c v).value = .ok op → (ofRecord c' w).value = .ok other →
      Field.site.said v = Field.site.said w →
      (∀ e ∈ es, e.site? = none) → (∀ e ∈ es', e.site? = none) →
      ∀ {κ : Type} [SiteOwned κ] (s : Snapshot) (key : κ) (fallback : Fallback),
        s.ask (.of (op.run es).value key fallback) =
          s.ask (.of (other.run es').value key fallback)) ∧
    (∀ (v : Json) (c c' : Settings), LoadsAlike v (ofRecord c v).value (ofRecord c' v).value) ∧
    ∀ (v : Json) (c c' : Settings), c.operatorType = c'.operatorType →
      ofRecord c v = ofRecord c' v := by
  refine ⟨?_, fun v c c' => loadsAlike_ofRecord c c' v, fun v c c' h => ?_⟩
  · intro v w c c' op other es es' hv hw hs he he' κ _ s key fallback
    have hsite : op.site = other.site :=
      site_eq_of_said_eq (value_ofRecord_eq_ok_iff.mp hv) (value_ofRecord_eq_ok_iff.mp hw) hs
    rw [Request.of, Request.of, site_run he, site_run he', hsite]
  · rw [ofRecord, ofRecord, h]

def clerkRecord : Json :=
  .obj [("key", .str "a"), ("name", .str "Clerk"), ("contact", .str ""), ("protocol", .str "trusted"),
    ("created", .int 1), ("site_id", .int 7)]

def clerk : Operator :=
  { key := "a", name := "Clerk", contact := "", protocol := "trusted", created := 1,
    disabled := false, site := some 7, roles := .plain, operatorType := .publicOperator }

def managerRecord : Json :=
  .obj [("key", .str "b"), ("name", .str "Manager"), ("contact", .str "m@b.example"),
    ("protocol", .str "trusted"), ("created", .int 2), ("disabled", .bool true),
    ("site_id", .int 7), ("roles", .arr [.null, .str " administrator"])]

def manager : Operator :=
  { key := "b", name := "Manager", contact := "m@b.example", protocol := "trusted", created := 2,
    disabled := true, site := some 7, roles := .normalize [.administrator],
    operatorType := .privateOperator }

def retired : List Edit := [.withRoles [], .setDisabled true, .reload, .setKey "c"]

theorem clerk_manager_decided_alike :
    (ofRecord ⟨.defaultDeny, .publicOperator, "off"⟩ clerkRecord).value = .ok clerk ∧
      (ofRecord .standard managerRecord).value = .ok manager ∧
      Field.site.said clerkRecord = Field.site.said managerRecord ∧
      (∀ e ∈ retired, e.site? = none) ∧ (∀ e ∈ ([] : List Edit), e.site? = none) ∧
      ∀ (s : Snapshot) (key : EncryptionKey) (fallback : Fallback),
        s.ask (.of (clerk.run retired).value key fallback) =
          s.ask (.of (manager.run []).value key fallback) := by
  have hc : (ofRecord ⟨.defaultDeny, .publicOperator, "off"⟩ clerkRecord).value = .ok clerk := rfl
  have hm : (ofRecord .standard managerRecord).value = .ok manager := rfl
  have hs : Field.site.said clerkRecord = Field.site.said managerRecord := rfl
  have he : ∀ e ∈ retired, e.site? = none := by simp [retired, Edit.site?]
  have hn : ∀ e ∈ ([] : List Edit), e.site? = none := nofun
  exact ⟨hc, hm, hs, he, hn, site_alone_decides.1 hc hm hs he hn⟩

end Operator

end SiteAccess
