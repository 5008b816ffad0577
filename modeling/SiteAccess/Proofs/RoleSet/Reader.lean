import Mathlib.Data.List.Forall2
import SiteAccess.Proofs.Names
import SiteAccess.Proofs.Record.Grammar

namespace SiteAccess

open Json

namespace Record

inductive Entry : Json → Option Role → Prop
  | absent : Entry .null none
  | named {text : String} {r : Role} (h : r.Spells text) : Entry (.str text) (some r)

/-- The entries of a list of roles, of which null has none. -/
inductive Lists : Json → List (Option Role) → Prop
  | null : Lists .null []
  | array {items : List Json} {entries : List (Option Role)}
      (h : List.Forall₂ Entry items entries) : Lists (.arr items) entries

theorem role_eq_ok_iff {v : Json} {entry : Option Role} : role v = .ok entry ↔ Entry v entry := by
  constructor
  · intro h
    have hs := role_spec v
    rw [h] at hs
    cases entry with
    | none => exact hs ▸ .absent
    | some r =>
        obtain ⟨text, rfl, hn⟩ := hs
        exact .named (Role.named?_eq_some_iff_spells.mp hn)
  · rintro (_ | h)
    · rfl
    · rw [role, Role.parse, Role.named?_eq_some_iff_spells.mpr h]
      rfl

theorem role_unknown {text : String} (h : ∀ r, ¬ Role.Spells text r) :
    role (.str text) = .error (.unknownRole text) := by
  have hn : Role.named? text = none := by
    cases hr : Role.named? text with
    | none => rfl
    | some r => exact absurd (Role.named?_eq_some_iff_spells.mp hr) (h r)
  rw [role, Role.parse, hn]
  rfl

theorem mapM_role_eq_ok_iff {items : List Json} {entries : List (Option Role)} :
    items.mapM role = .ok entries ↔ List.Forall₂ Entry items entries := by
  induction items generalizing entries with
  | nil =>
      constructor
      · intro h
        exact Except.ok.inj h ▸ .nil
      · rintro ⟨⟩
        rfl
  | cons v vs ih =>
      rw [List.mapM_cons]
      constructor
      · intro h
        cases hv : role v with
        | error d => rw [hv] at h; cases h
        | ok entry =>
            cases hvs : vs.mapM role with
            | error d => rw [hv, hvs] at h; cases h
            | ok rest =>
                rw [hv, hvs] at h
                exact Except.ok.inj h ▸ .cons (role_eq_ok_iff.mp hv) (ih.mp hvs)
      · intro h
        cases h with
        | cons hv hvs => rw [role_eq_ok_iff.mpr hv, ih.mpr hvs]; rfl

section traversal

variable {α β ε ε' : Type} {f : α → Except ε β}

theorem mapM_eq_error_of_append {earlier later : List α} {x : α} {e : ε}
    (he : ∀ y ∈ earlier, ∃ b, f y = .ok b) (hx : f x = .error e) :
    (earlier ++ x :: later).mapM f = .error e := by
  induction earlier with
  | nil => rw [List.nil_append, List.mapM_cons, hx]; rfl
  | cons y ys ih =>
      obtain ⟨b, hb⟩ := he y (by simp)
      rw [List.cons_append, List.mapM_cons, hb, ih fun z hz => he z (by simp [hz])]
      rfl

theorem mapM_mapError (g : ε → ε') (xs : List α) :
    xs.mapM (fun x => (f x).mapError g) = (xs.mapM f).mapError g := by
  induction xs with
  | nil => rfl
  | cons x xs ih =>
      rw [List.mapM_cons, List.mapM_cons, ih]
      cases f x with
      | error e => rfl
      | ok y => cases xs.mapM f <;> rfl

end traversal

def Defect.refusal (d : Defect) : Refusal :=
  match d with
  | .unknownRole _ => .fault d.fault
  | _ => .malformed

theorem entry_ofJson (v : Json) : RoleSet.entry (.ofJson v) = (role v).mapError Defect.refusal := by
  cases v with
  | str text =>
      rw [Doc.ofJson, RoleSet.entry, Role.ofDoc, role, Role.parse]
      · cases Role.named? text <;> rfl
      · simp
  | null | bool | num | arr | obj => rfl

variable {ms : Members} {v : Json}

/-- The two readers differ only in what they say of a list that holds something else than names. -/
theorem ofDoc_ofJson (hv : Field.roles.get? ms = some v) :
    RoleSet.ofDoc (.ofJson v) = (roles ms).mapError Defect.refusal := by
  rw [roles, hv]
  cases v with
  | arr items =>
      have hi : (Doc.ofItems items).mapM RoleSet.entry =
          (items.mapM role).mapError Defect.refusal := by
        rw [Doc.ofItems_eq_map, List.mapM_map, ← mapM_mapError]
        congr 1
        funext v
        exact entry_ofJson v
      rw [Doc.ofJson, RoleSet.ofDoc, hi]
      change _ = ((items.mapM role).map fun rs => RoleSet.ofNullable (some rs)).mapError _
      cases items.mapM role <;> rfl
  | null | bool | num | str | obj => rfl

theorem Checks.exists_ok {α : Type} {f : Field} {P : α → Prop} {x : Except Defect α}
    (hc : Checks ms [f] P x) (hf : f.Admits (f.get? ms)) : ∃ a, x = .ok a := by
  cases x with
  | ok a => exact ⟨a, rfl⟩
  | error d =>
      obtain ⟨earlier, g, later, hs, -, hg, -⟩ := hc
      cases earlier with
      | nil =>
          obtain rfl : f = g := (List.cons.inj hs).1
          exact absurd hf hg
      | cons e es => simp at hs

/-- When nothing else is out of order, loading comes down to the list of roles. -/
theorem load_eq_map_roles (otherwise : OperatorType)
    (h : ∀ f : Field, f ≠ .roles → f.Admits (f.get? ms)) :
    ∃ op : Operator, load otherwise (.obj ms) =
      (roles ms).map fun rs => { op with roles := rs } := by
  obtain ⟨key, hkey⟩ := (checks_text ms fun _ => .rfl).exists_ok (h .key (by simp))
  obtain ⟨name, hname⟩ := (checks_text ms fun _ => .rfl).exists_ok (h .name (by simp))
  obtain ⟨contact, hcontact⟩ := (checks_text ms fun _ => .rfl).exists_ok (h .contact (by simp))
  obtain ⟨protocol, hprotocol⟩ := (checks_text ms fun _ => .rfl).exists_ok (h .protocol (by simp))
  obtain ⟨created, hcreated⟩ := (checks_created ms).exists_ok (h .created (by simp))
  obtain ⟨disabled, hdisabled⟩ := (checks_disabled ms).exists_ok (h .disabled (by simp))
  obtain ⟨site, hsite⟩ := (checks_site ms).exists_ok (h .site (by simp))
  obtain ⟨operatorType, htype⟩ :=
    (checks_operatorType ms otherwise).exists_ok (h .operatorType (by simp))
  refine ⟨Operator.new key name contact protocol created disabled |>.withSite site
    |>.withOperatorType operatorType, ?_⟩
  rw [load, hkey, hname, hcontact, hprotocol, hcreated, hdisabled, hsite, htype]
  cases roles ms with
  | error d => rfl
  | ok rs => exact congrArg Except.ok (Operator.setRoles_roles _ rs)

theorem roles_eq_ok_iff (hv : Field.roles.get? ms = some v) {s : RoleSet} :
    roles ms = .ok s ↔ ∃ entries, Lists v entries ∧ s = .ofNullable (some entries) := by
  rw [roles, hv]
  constructor
  · intro h
    cases v with
    | null => exact ⟨[], .null, (Except.ok.inj h).symm⟩
    | arr items =>
        change (items.mapM role).map (fun rs => RoleSet.ofNullable (some rs)) = .ok s at h
        cases hi : items.mapM role with
        | error d => rw [hi] at h; cases h
        | ok entries =>
            rw [hi] at h
            exact ⟨entries, .array (mapM_role_eq_ok_iff.mp hi), (Except.ok.inj h).symm⟩
    | bool | num | str | obj => cases h
  · rintro ⟨entries, hl, rfl⟩
    cases hl with
    | null => rfl
    | @array items _ hi =>
        change (items.mapM role).map (fun rs => RoleSet.ofNullable (some rs)) = _
        rw [mapM_role_eq_ok_iff.mpr hi]
        rfl

theorem roles_unknown {earlier later : List Json} {text : String}
    (hv : Field.roles.get? ms = some (.arr (earlier ++ .str text :: later)))
    (he : ∀ w ∈ earlier, ∃ entry, Entry w entry) (hu : ∀ r, ¬ Role.Spells text r) :
    roles ms = .error (.unknownRole text) := by
  have hm : (earlier ++ .str text :: later).mapM role = .error (.unknownRole text) := by
    refine mapM_eq_error_of_append (fun w hw => ?_) (role_unknown hu)
    obtain ⟨entry, hw⟩ := he w hw
    exact ⟨entry, role_eq_ok_iff.mpr hw⟩
  rw [roles, hv]
  change ((earlier ++ .str text :: later).mapM role).map _ = _
  rw [hm]
  rfl

/-- Both readers of a list of roles, the one for a list on its own and the one for a record that
has it, take the same lists for the same set: those of null entries and of names of roles. Of a
list whose first bad entry is a text both say that it names no role. -/
structure RolesAgree (settings : Settings) (ms : Members) (v : Json) : Prop where
  ok_iff : ∀ s, RoleSet.ofDoc (.ofJson v) = .ok s ↔
    ∃ op, (Operator.ofRecord settings (.obj ms)).value = .ok op ∧ op.roles = s
  reads_iff : ∀ s, RoleSet.ofDoc (.ofJson v) = .ok s ↔
    ∃ entries, Lists v entries ∧ s = .ofNullable (some entries)
  members : ∀ s, RoleSet.ofDoc (.ofJson v) = .ok s → ∃ entries, Lists v entries ∧
    ∀ r, r ∈ s.roles ↔ r = .operator ∨ some r ∈ entries
  plain : (v = .null ∨ ∃ items, v = .arr items ∧ ∀ w ∈ items, w = .null) →
    ∃ s, RoleSet.ofDoc (.ofJson v) = .ok s ∧ s.roles = [.operator]
  unknown : ∀ earlier text later, v = .arr (earlier ++ .str text :: later) →
    (∀ w ∈ earlier, ∃ entry, Entry w entry) → (∀ r, ¬ Role.Spells text r) →
    ∃ f, RoleSet.ofDoc (.ofJson v) = .error (.fault f) ∧
      (Operator.ofRecord settings (.obj ms)).value = .error f ∧
      f.text = "malformed_record: field 'roles': unknown role '" ++ text ++ "'"

theorem lists_absent {items : List Json} (h : ∀ w ∈ items, w = .null) :
    Lists (.arr items) (items.map fun _ => none) := by
  apply Lists.array
  induction items with
  | nil => exact .nil
  | cons w ws ih =>
      obtain rfl : w = .null := h w (by simp)
      exact .cons .absent (ih fun u hu => h u (by simp [hu]))

theorem text_unknownRole (text : String) : (Defect.unknownRole text).fault.text =
    "malformed_record: field 'roles': unknown role '" ++ text ++ "'" := by
  change "malformed_record: field '" ++ "roles" ++ "': " ++ ("unknown role '" ++ text ++ "'") = _
  simp [← String.append_assoc]

theorem readers_agree (settings : Settings) {ms : Members} {v : Json}
    (hv : Field.roles.get? ms = some v)
    (h : ∀ f : Field, f ≠ .roles → f.Admits (f.get? ms)) : RolesAgree settings ms v := by
  have hd := ofDoc_ofJson hv
  obtain ⟨op, hop⟩ := load_eq_map_roles settings.operatorType h
  -- Refusals are put in other words, but what is read is the same.
  have hreads (s : RoleSet) : RoleSet.ofDoc (.ofJson v) = .ok s ↔ roles ms = .ok s := by
    rw [hd]
    cases roles ms <;> simp [Except.mapError]
  refine ⟨fun s => ?_, fun s => ?_, fun s hs => ?_, fun hn => ?_, ?_⟩
  · simp only [hreads, value_ofRecord_eq_ok_iff, hop]
    cases roles ms with
    | error d => simp [Except.map]
    | ok t => simp [Except.map]
  · rw [hreads, roles_eq_ok_iff hv]
  · obtain ⟨entries, hl, rfl⟩ := (roles_eq_ok_iff hv).mp ((hreads s).mp hs)
    exact ⟨entries, hl, fun r => RoleSet.mem_ofNullable⟩
  · have hl : ∃ n, Lists v (List.replicate n none) := by
      rcases hn with rfl | ⟨items, rfl, hi⟩
      · exact ⟨0, .null⟩
      · exact ⟨items.length, List.map_const' (l := items) ▸ lists_absent hi⟩
    obtain ⟨n, hl⟩ := hl
    refine ⟨.plain, ?_, rfl⟩
    rw [hreads, roles_eq_ok_iff hv]
    exact ⟨_, hl, by simp [RoleSet.ofNullable, RoleSet.plain]⟩
  · rintro earlier text later rfl he hu
    have hr : roles ms = .error (.unknownRole text) := roles_unknown hv he hu
    refine ⟨(Defect.unknownRole text).fault, ?_, ?_, text_unknownRole text⟩
    · rw [hd, hr]
      rfl
    · rw [value_ofRecord_eq_error_iff, hop, hr]
      exact ⟨_, rfl, rfl⟩

def mixedList : Json := .arr [.null, .str " optout\t", .str "superuser", .bool true]

def mixedRecord : Members :=
  [("roles", mixedList), ("key", .str "k"), ("name", .str "n"), ("contact", .str ""),
    ("protocol", .str "trusted"), ("created", .int 1), ("site_id", .null)]

theorem readers_agree_mixedRecord :
    Field.roles.get? mixedRecord = some mixedList ∧
      (∀ f : Field, f ≠ .roles → f.Admits (f.get? mixedRecord)) ∧
      RolesAgree .standard mixedRecord mixedList := by
  have hv : Field.roles.get? mixedRecord = some mixedList := by
    simp [mixedRecord, Field.get?, Field.label, lastWith]
  have h : ∀ f : Field, f ≠ .roles → f.Admits (f.get? mixedRecord) := by
    intro f hf
    cases f with
    | created =>
        exact ⟨1, by simp [mixedRecord, Field.get?, Field.label, lastWith], by decide, by decide⟩
    | roles => exact absurd rfl hf
    | key | name | contact | protocol | disabled | site | operatorType =>
        simp [mixedRecord, Field.get?, Field.label, lastWith, Field.Admits, Absent]
  exact ⟨hv, h, readers_agree .standard hv h⟩

end Record

end SiteAccess
