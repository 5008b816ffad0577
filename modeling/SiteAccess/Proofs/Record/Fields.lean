import SiteAccess.Proofs.Decimal
import SiteAccess.Record.Loader

namespace SiteAccess.Record

open Decimal Json

def Absent (m : Option Json) : Prop := m = none ∨ m = some .null

theorem Absent.eq_null {m : Option Json} {v : Json} (h : Absent m) (hm : m = some v) : v = .null := by
  rcases h with he | he
  · simp [hm] at he
  · simpa [hm] using he

theorem not_absent {m : Option Json} {v : Json} (hm : m = some v) (hn : v ≠ .null) : ¬ Absent m :=
  fun h => hn (h.eq_null hm)

def IsRoleEntry (v : Json) : Prop := v = .null ∨ ∃ s r, v = .str s ∧ Role.named? s = some r

def Field.Admits : Field → Option Json → Prop
  | .key, m | .name, m | .contact, m | .protocol, m => ∃ s, m = some (.str s)
  | .created, m =>
      ∃ n, m = some (.int n) ∧ Int64.minValue.toInt ≤ n ∧ n ≤ Int64.maxValue.toInt
  | .disabled, m => Absent m ∨ ∃ b, m = some (.bool b)
  | .site, m => Absent m ∨
      ∃ n, m = some (.int n) ∧ Int32.minValue.toInt ≤ n ∧ n ≤ Int32.maxValue.toInt
  | .operatorType, m => Absent m ∨ m = some (.str "PUBLIC") ∨ m = some (.str "PRIVATE")
  | .roles, m => Absent m ∨ ∃ items, m = some (.arr items) ∧ ∀ v ∈ items, IsRoleEntry v

/-- Fields are looked at one after the other: the result has a property, and all of them are in
order, or the defect blames the first that is not. -/
def Checks {α : Type} (ms : Members) (fs : List Field) (P : α → Prop) : Except Defect α → Prop
  | .ok a => (∀ f ∈ fs, f.Admits (f.get? ms)) ∧ P a
  | .error d => ∃ earlier f later, fs = earlier ++ f :: later ∧
      (∀ g ∈ earlier, g.Admits (g.get? ms)) ∧ ¬ f.Admits (f.get? ms) ∧ d.blamed = f.label

section Checks

variable {α β : Type} {ms : Members} {f : Field} {fs : List Field} {P : α → Prop} {Q : β → Prop}

theorem checks_ok {a : α} (hf : f.Admits (f.get? ms)) (ha : P a) : Checks ms [f] P (.ok a) :=
  ⟨by simpa using hf, ha⟩

theorem checks_error {d : Defect} (hf : ¬ f.Admits (f.get? ms)) (hd : d.blamed = f.label) :
    Checks ms [f] P (.error d) :=
  ⟨[], f, [], rfl, by simp, hf, hd⟩

theorem Checks.bind {x : Except Defect α} {k : α → Except Defect β} (hx : Checks ms [f] P x)
    (hk : ∀ a, P a → Checks ms fs Q (k a)) : Checks ms (f :: fs) Q (x >>= k) := by
  cases x with
  | error d =>
      obtain ⟨earlier, g, later, hs, he, hg, hd⟩ := hx
      have hn : earlier = [] ∧ g = f ∧ later = [] := by
        cases earlier with
        | nil => simpa [eq_comm] using hs
        | cons e es => simp at hs
      obtain ⟨rfl, rfl, rfl⟩ := hn
      exact ⟨[], g, fs, rfl, by simp, hg, hd⟩
  | ok a =>
      have hf : f.Admits (f.get? ms) := hx.1 f (by simp)
      have hr := hk a hx.2
      show Checks ms (f :: fs) Q (k a)
      cases hka : k a with
      | ok b =>
          rw [hka] at hr
          exact ⟨by simpa [hf] using hr.1, hr.2⟩
      | error d =>
          rw [hka] at hr
          obtain ⟨earlier, g, later, rfl, he, hg, hd⟩ := hr
          exact ⟨f :: earlier, g, later, rfl, by simpa [hf] using he, hg, hd⟩

end Checks

variable (ms : Members)

theorem checks_text {f : Field} (hf : ∀ m, f.Admits m ↔ ∃ s, m = some (.str s)) :
    Checks ms [f] (fun s => f.get? ms = some (.str s)) (text f ms) := by
  rw [text]
  split
  case h_1 s hm => exact checks_ok ((hf _).mpr ⟨s, hm⟩) hm
  case h_2 v hs hm =>
    refine checks_error (fun ha => ?_) rfl
    obtain ⟨s, he⟩ := (hf _).mp ha
    exact hs s (by simpa [hm] using he)
  case h_3 hm =>
    refine checks_error (fun ha => ?_) rfl
    obtain ⟨s, he⟩ := (hf _).mp ha
    simp [hm] at he

theorem checks_created : Checks ms [.created]
    (fun t => Field.created.get? ms = some (.int t.toInt)) (created ms) := by
  rw [created]
  split
  case h_1 n hm =>
    split
    case h_1 t ht =>
      have hn : n = .int t.toInt := Number.eq_int_of_int64? ht
      rw [hn] at hm
      exact checks_ok ⟨t.toInt, hm, Int64.minValue_le_toInt t, t.toInt_le⟩ hm
    case h_2 hn =>
      refine checks_error ?_ rfl
      rintro ⟨i, he, hl, hu⟩
      obtain rfl : n = .int i := by simpa [hm, Json.int] using he
      exact Number.int64?_ne_none hl hu hn
  case h_2 v hs hm =>
    refine checks_error ?_ rfl
    rintro ⟨i, he, -, -⟩
    exact hs (.int i) (by simpa [hm, Json.int] using he)
  case h_3 hm =>
    refine checks_error ?_ rfl
    rintro ⟨i, he, -, -⟩
    simp [hm] at he

theorem checks_disabled : Checks ms [.disabled]
    (fun b => Absent (Field.disabled.get? ms) ∧ b = false ∨
      Field.disabled.get? ms = some (.bool b)) (disabled ms) := by
  rw [disabled]
  split
  case h_1 hm => exact checks_ok (.inl (.inl hm)) (.inl ⟨.inl hm, rfl⟩)
  case h_2 hm => exact checks_ok (.inl (.inr hm)) (.inl ⟨.inr hm, rfl⟩)
  case h_3 b hm => exact checks_ok (.inr ⟨b, hm⟩) (.inr hm)
  case h_4 v hn hb hm =>
    refine checks_error ?_ rfl
    rintro (ha | ⟨b, he⟩)
    · exact not_absent hm hn ha
    · exact hb b (by simpa [hm] using he)

theorem checks_site : Checks ms [.site]
    (fun s => Absent (Field.site.get? ms) ∧ s = none ∨
      ∃ t, Field.site.get? ms = some (SiteId.toJson t) ∧ s = some t) (site ms) := by
  rw [site]
  split
  case h_1 hm => exact checks_ok (.inl (.inl hm)) (.inl ⟨.inl hm, rfl⟩)
  case h_2 hm => exact checks_ok (.inl (.inr hm)) (.inl ⟨.inr hm, rfl⟩)
  case h_3 n hm =>
    split
    case h_1 s hs =>
      have hn : n = .int s.toInt := Number.eq_int_of_int32? hs
      rw [hn] at hm
      have ha : Field.site.Admits (Field.site.get? ms) :=
        .inr ⟨s.toInt, hm, Int32.minValue_le_toInt s, s.toInt_le⟩
      exact checks_ok ha (.inr ⟨s, hm, rfl⟩)
    case h_2 hn =>
      refine checks_error ?_ rfl
      rintro (ha | ⟨i, he, hl, hu⟩)
      · exact not_absent hm (by simp) ha
      · obtain rfl : n = .int i := by simpa [hm, Json.int] using he
        exact Number.int32?_ne_none hl hu hn
  case h_4 v hn hi hm =>
    refine checks_error ?_ rfl
    rintro (ha | ⟨i, he, -, -⟩)
    · exact not_absent hm hn ha
    · exact hi (.int i) (by simpa [hm, Json.int] using he)

theorem checks_operatorType (otherwise : OperatorType) : Checks ms [.operatorType]
    (fun t => Absent (Field.operatorType.get? ms) ∧ t = otherwise ∨
      Field.operatorType.get? ms = some (.str t.name)) (operatorType otherwise ms) := by
  rw [operatorType]
  split
  case h_1 hm => exact checks_ok (.inl (.inl hm)) (.inl ⟨.inl hm, rfl⟩)
  case h_2 hm => exact checks_ok (.inl (.inr hm)) (.inl ⟨.inr hm, rfl⟩)
  case h_3 s hm =>
    rw [OperatorType.parse]
    split
    case h_1 t ht =>
      rw [OperatorType.named?_eq_some_iff.mp ht] at hm
      exact checks_ok (by cases t <;> simp [Field.Admits, hm, OperatorType.name]) (.inr hm)
    case h_2 hs =>
      refine checks_error ?_ rfl
      rintro (ha | he | he)
      · exact not_absent hm (by simp) ha
      · obtain rfl : s = "PUBLIC" := by simpa [hm] using he
        cases hs
      · obtain rfl : s = "PRIVATE" := by simpa [hm] using he
        cases hs
  case h_4 v hn hs hm =>
    refine checks_error ?_ rfl
    rintro (ha | he | he)
    · exact not_absent hm hn ha
    · exact hs _ (by simpa [hm] using he)
    · exact hs _ (by simpa [hm] using he)

theorem role_spec (v : Json) : match role v with
    | .ok none => v = .null
    | .ok (some r) => ∃ s, v = .str s ∧ Role.named? s = some r
    | .error d => ¬ IsRoleEntry v ∧ d.blamed = Field.roles.label := by
  cases v with
  | null => rfl
  | str s =>
      cases hr : Role.named? s with
      | some r => simp [role, Role.parse, hr, Except.map]
      | none => simp [role, Role.parse, hr, Except.map, IsRoleEntry, Defect.blamed]
  | bool | num | arr | obj => exact ⟨by simp [IsRoleEntry], rfl⟩

theorem mapM_role_spec (items : List Json) : match items.mapM role with
    | .ok rs => (∀ v ∈ items, IsRoleEntry v) ∧
        ∀ r, some r ∈ rs ↔ ∃ s, .str s ∈ items ∧ Role.named? s = some r
    | .error d => (∃ v ∈ items, ¬ IsRoleEntry v) ∧ d.blamed = Field.roles.label := by
  induction items with
  | nil => exact ⟨by simp, by simp⟩
  | cons v vs ih =>
      have hv := role_spec v
      rw [List.mapM_cons]
      cases hr : role v with
      | error d =>
          rw [hr] at hv
          exact ⟨⟨v, by simp, hv.1⟩, hv.2⟩
      | ok entry =>
          rw [hr] at hv
          cases hs : vs.mapM role with
          | error d =>
              rw [hs] at ih
              obtain ⟨⟨w, hw, hn⟩, hd⟩ := ih
              exact ⟨⟨w, by simp [hw], hn⟩, hd⟩
          | ok rs =>
              rw [hs] at ih
              obtain ⟨he, hm⟩ := ih
              cases entry with
              | none =>
                  obtain rfl : v = .null := hv
                  exact ⟨by simpa [IsRoleEntry] using he, by simpa using hm⟩
              | some r =>
                  obtain ⟨s, rfl, hn⟩ := hv
                  refine ⟨by simpa [IsRoleEntry, hn] using he, fun t => ?_⟩
                  simp [hm, hn, or_and_right, exists_or, eq_comm]

theorem checks_roles : Checks ms [.roles]
    (fun s => Field.roles.Admits (Field.roles.get? ms) ∧ ∀ r, r ∈ s.roles ↔
      r = .operator ∨ ∃ items t, Field.roles.get? ms = some (.arr items) ∧ .str t ∈ items ∧
        Role.named? t = some r) (roles ms) := by
  rw [roles]
  split
  case h_1 hm =>
    have ha : Field.roles.Admits (Field.roles.get? ms) := .inl (.inl hm)
    exact checks_ok ha ⟨ha, by simp [hm, RoleSet.plain, RoleSet.mem_normalize]⟩
  case h_2 hm =>
    have ha : Field.roles.Admits (Field.roles.get? ms) := .inl (.inr hm)
    exact checks_ok ha ⟨ha, by simp [hm, RoleSet.plain, RoleSet.mem_normalize]⟩
  case h_3 items hm =>
    have hs := mapM_role_spec items
    cases hr : items.mapM role with
    | error d =>
        rw [hr] at hs
        obtain ⟨⟨v, hv, hn⟩, hd⟩ := hs
        refine checks_error ?_ hd
        rintro (ha | ⟨vs, he, hall⟩)
        · exact not_absent hm (by simp) ha
        · obtain rfl : items = vs := by simpa [hm] using he
          exact hn (hall v hv)
    | ok rs =>
        rw [hr] at hs
        have ha : Field.roles.Admits (Field.roles.get? ms) := .inr ⟨items, hm, hs.1⟩
        exact checks_ok ha ⟨ha, by simp [RoleSet.ofNullable, RoleSet.mem_normalize, hm, hs.2]⟩
  case h_4 v hn ha hm =>
    refine checks_error ?_ rfl
    rintro (hb | ⟨items, he, -⟩)
    · exact not_absent hm hn hb
    · exact ha items (by simpa [hm] using he)

end SiteAccess.Record
