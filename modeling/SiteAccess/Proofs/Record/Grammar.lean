import SiteAccess.Proofs.Record.Fields

namespace SiteAccess.Record

open Json

def Field.order : List Field :=
  [.key, .name, .contact, .protocol, .created, .disabled, .site, .operatorType, .roles]

/-- The operator whose fields are those of the record. -/
structure Describes (otherwise : OperatorType) (ms : Members) (op : Operator) : Prop where
  key : Field.key.get? ms = some (.str op.key)
  name : Field.name.get? ms = some (.str op.name)
  contact : Field.contact.get? ms = some (.str op.contact)
  protocol : Field.protocol.get? ms = some (.str op.protocol)
  created : Field.created.get? ms = some (.int op.created.toInt)
  disabled : Absent (Field.disabled.get? ms) ∧ op.disabled = false ∨
    Field.disabled.get? ms = some (.bool op.disabled)
  site : Absent (Field.site.get? ms) ∧ op.site = none ∨
    ∃ s, Field.site.get? ms = some (SiteId.toJson s) ∧ op.site = some s
  operatorType : Absent (Field.operatorType.get? ms) ∧ op.operatorType = otherwise ∨
    Field.operatorType.get? ms = some (.str op.operatorType.name)
  roles : Field.roles.Admits (Field.roles.get? ms) ∧ ∀ r, r ∈ op.roles.roles ↔
    r = .operator ∨ ∃ items s, Field.roles.get? ms = some (.arr items) ∧ .str s ∈ items ∧
      Role.named? s = some r

/-- The name of the first thing in a value that keeps it from being a record. -/
inductive FirstFault : Json → String → Prop
  | record {v : Json} (h : ∀ ms, v ≠ .obj ms) : FirstFault v "<record>"
  | field {ms : Members} {earlier later : List Field} {f : Field}
      (hs : Field.order = earlier ++ f :: later) (he : ∀ g ∈ earlier, g.Admits (g.get? ms))
      (hf : ¬ f.Admits (f.get? ms)) : FirstFault (.obj ms) f.label

theorem checks_load (ms : Members) (otherwise : OperatorType) :
    Checks ms Field.order (Describes otherwise ms) (load otherwise (.obj ms)) := by
  rw [load]
  refine (checks_text ms fun _ => .rfl).bind fun key hkey => ?_
  refine (checks_text ms fun _ => .rfl).bind fun name hname => ?_
  refine (checks_text ms fun _ => .rfl).bind fun contact hcontact => ?_
  refine (checks_text ms fun _ => .rfl).bind fun protocol hprotocol => ?_
  refine (checks_created ms).bind fun created hcreated => ?_
  refine (checks_disabled ms).bind fun disabled hdisabled => ?_
  refine (checks_site ms).bind fun site hsite => ?_
  refine (checks_operatorType ms otherwise).bind fun operatorType htype => ?_
  refine (checks_roles ms).bind fun roles hroles => ?_
  rw [Operator.setRoles_roles]
  exact ⟨by simp, ⟨hkey, hname, hcontact, hprotocol, hcreated, hdisabled, hsite, htype, hroles⟩⟩

section Describes

variable {ms : Members} {otherwise : OperatorType} {op other : Operator}

theorem Describes.admits (h : Describes otherwise ms op) (f : Field) : f.Admits (f.get? ms) := by
  cases f with
  | key => exact ⟨_, h.key⟩
  | name => exact ⟨_, h.name⟩
  | contact => exact ⟨_, h.contact⟩
  | protocol => exact ⟨_, h.protocol⟩
  | created => exact ⟨_, h.created, Int64.minValue_le_toInt op.created, op.created.toInt_le⟩
  | disabled => exact h.disabled.imp And.left fun he => ⟨_, he⟩
  | site =>
      exact h.site.imp And.left fun ⟨s, he, _⟩ =>
        ⟨s.toInt, he, Int32.minValue_le_toInt s, s.toInt_le⟩
  | operatorType =>
      refine h.operatorType.imp And.left fun he => ?_
      cases ht : op.operatorType <;> simp [he, ht, OperatorType.name]
  | roles => exact h.roles.1

theorem text_unique {m : Option Json} {s t : String} (hs : m = some (.str s))
    (ht : m = some (.str t)) : s = t := by
  simpa using hs.symm.trans ht

theorem site_unique {s t : Option SiteId}
    (h : Json.option SiteId.toJson s = Json.option SiteId.toJson t) : s = t := by
  cases s <;> cases t <;> simp_all [Json.option, SiteId.toJson, Json.int, Int32.toInt_inj]

theorem given_unique {α : Type} {write : α → Json} {m : Option Json} {a b default : α}
    (hw : ∀ x y, write x = write y → x = y) (hn : ∀ x, write x = .null → x = default)
    (ha : Absent m ∧ a = default ∨ m = some (write a))
    (hb : Absent m ∧ b = default ∨ m = some (write b)) : a = b := by
  have hd : ∀ x, Absent m → m = some (write x) → x = default := fun x h hx => hn x (h.eq_null hx)
  rcases ha with ⟨h, rfl⟩ | ha <;> rcases hb with ⟨h', hb⟩ | hb
  · exact hb.symm
  · exact (hd b h hb).symm
  · exact (hd a h' ha).trans hb.symm
  · exact hw a b (Option.some.inj (ha.symm.trans hb))

theorem Describes.site_given (h : Describes otherwise ms op) :
    Absent (Field.site.get? ms) ∧ op.site = none ∨
      Field.site.get? ms = some (Json.option SiteId.toJson op.site) :=
  h.site.imp_right fun ⟨s, hm, hs⟩ => by rw [hm, hs, Json.option]

theorem Describes.unique (h : Describes otherwise ms op) (h' : Describes otherwise ms other) :
    op = other := by
  have hcreated : op.created = other.created := by
    have he := h.created.symm.trans h'.created
    exact Int64.toInt_inj.mp (by simpa [Json.int] using he)
  have hdisabled : op.disabled = other.disabled :=
    given_unique (fun _ _ he => Json.bool.inj he) (fun _ he => Json.noConfusion he)
      h.disabled h'.disabled
  have hsite : op.site = other.site := by
    have hnull : ∀ s, Json.option SiteId.toJson s = .null → s = none := by
      intro s he
      have hn : Json.option SiteId.toJson none = .null := rfl
      exact site_unique (he.trans hn.symm)
    exact given_unique (fun _ _ => site_unique) hnull h.site_given h'.site_given
  have htype : op.operatorType = other.operatorType := by
    have hname : ∀ s t : OperatorType, s.toJson = t.toJson → s = t := by
      intro s t he
      have hn := OperatorType.named?_eq_some_iff.mpr (Json.str.inj he)
      simpa [OperatorType.named?_eq_some_iff.mpr rfl] using hn
    exact given_unique hname (fun _ he => Json.noConfusion he) h.operatorType h'.operatorType
  have hroles : op.roles = other.roles :=
    RoleSet.ext fun r => (h.roles.2 r).trans (h'.roles.2 r).symm
  cases op
  cases other
  simp only [Operator.mk.injEq]
  exact ⟨text_unique h.key h'.key, text_unique h.name h'.name, text_unique h.contact h'.contact,
    text_unique h.protocol h'.protocol, hcreated, hdisabled, hsite, hroles, htype⟩

end Describes

theorem load_eq_ok_iff {otherwise : OperatorType} {v : Json} {op : Operator} :
    load otherwise v = .ok op ↔ ∃ ms, v = .obj ms ∧ Describes otherwise ms op := by
  constructor
  · intro h
    cases v with
    | obj ms =>
        have hc := checks_load ms otherwise
        rw [h] at hc
        exact ⟨ms, rfl, hc.2⟩
    | null | bool | num | str | arr => cases h
  · rintro ⟨ms, rfl, hd⟩
    have hc := checks_load ms otherwise
    cases hl : load otherwise (.obj ms) with
    | ok other =>
        rw [hl] at hc
        rw [hc.2.unique hd]
    | error d =>
        rw [hl] at hc
        obtain ⟨earlier, f, later, -, -, hf, -⟩ := hc
        exact absurd (hd.admits f) hf

theorem load_ok_iff {otherwise : OperatorType} {v : Json} :
    (∃ op, load otherwise v = .ok op) ↔ ∃ ms, v = .obj ms ∧ ∀ f : Field, f.Admits (f.get? ms) := by
  constructor
  · rintro ⟨op, h⟩
    obtain ⟨ms, rfl, hd⟩ := load_eq_ok_iff.mp h
    exact ⟨ms, rfl, hd.admits⟩
  · rintro ⟨ms, rfl, ha⟩
    have hc := checks_load ms otherwise
    cases hl : load otherwise (.obj ms) with
    | ok op => exact ⟨op, rfl⟩
    | error d =>
        rw [hl] at hc
        obtain ⟨earlier, f, later, -, -, hf, -⟩ := hc
        exact absurd (ha f) hf

theorem first_unique {α : Type} {p : α → Prop} {earlier earlier' later later' : List α} {a b : α}
    (h : earlier ++ a :: later = earlier' ++ b :: later') (he : ∀ c ∈ earlier, p c) (ha : ¬ p a)
    (he' : ∀ c ∈ earlier', p c) (hb : ¬ p b) : a = b := by
  induction earlier generalizing earlier' with
  | nil =>
      cases earlier' with
      | nil => exact (List.cons.inj h).1
      | cons e es =>
          obtain rfl : a = e := (List.cons.inj h).1
          exact absurd (he' a (by simp)) ha
  | cons c cs ih =>
      cases earlier' with
      | nil =>
          obtain rfl : c = b := (List.cons.inj h).1
          exact absurd (he c (by simp)) hb
      | cons e es =>
          exact ih (List.cons.inj h).2 (fun d hd => he d (by simp [hd]))
            fun d hd => he' d (by simp [hd])

theorem load_error_iff {otherwise : OperatorType} {v : Json} {label : String} :
    (∃ d, load otherwise v = .error d ∧ d.blamed = label) ↔ FirstFault v label := by
  constructor
  · rintro ⟨d, hl, rfl⟩
    cases v with
    | obj ms =>
        have hc := checks_load ms otherwise
        rw [hl] at hc
        obtain ⟨earlier, f, later, hs, he, hf, hd⟩ := hc
        exact hd ▸ .field hs he hf
    | null | bool | num | str | arr =>
        obtain rfl := Except.error.inj hl
        exact .record (by simp)
  · intro h
    cases h with
    | record h =>
        cases v with
        | obj ms => exact absurd rfl (h ms)
        | null | bool | num | str | arr => exact ⟨_, rfl, rfl⟩
    | @field ms earlier later f hs he hf =>
        have hc := checks_load ms otherwise
        cases hl : load otherwise (.obj ms) with
        | ok op =>
            rw [hl] at hc
            exact absurd (hc.1 f (by simp [hs])) hf
        | error d =>
            rw [hl] at hc
            obtain ⟨earlier', g, later', hs', he', hg, hd⟩ := hc
            rw [first_unique (hs.symm.trans hs') he hf he' hg]
            exact ⟨d, rfl, hd⟩

theorem lastWith_filter {α : Type} {name : String} {p : String × α → Bool}
    (h : ∀ a, p (name, a) = true) (ps : List (String × α)) :
    lastWith name (ps.filter p) = lastWith name ps := by
  rw [lastWith, lastWith, List.foldl_filter]
  congr 1
  funext found q
  rcases q with ⟨other, a⟩
  by_cases hn : other = name
  · subst hn
    simp [h]
  · simp [hn]

theorem load_congr {otherwise : OperatorType} {ms ms' : Members}
    (h : ∀ f : Field, f.get? ms = f.get? ms') :
    load otherwise (.obj ms) = load otherwise (.obj ms') := by
  simp only [load, text, created, disabled, site, operatorType, roles, h]

theorem Field.get?_filter (f : Field) (ms : Members) :
    f.get? (ms.filter fun m => Field.order.any (·.label = m.1)) = f.get? ms :=
  lastWith_filter (fun _ => by cases f <;> rfl) ms

theorem load_filter (otherwise : OperatorType) (ms : Members) :
    load otherwise (.obj (ms.filter fun m => Field.order.any (·.label = m.1))) =
      load otherwise (.obj ms) :=
  load_congr fun f => f.get?_filter ms

section ofRecord

variable {settings : Settings} {v : Json}

theorem value_ofRecord_eq_ok_iff {op : Operator} :
    (Operator.ofRecord settings v).value = .ok op ↔ load settings.operatorType v = .ok op := by
  rw [Operator.ofRecord]
  cases load settings.operatorType v <;> simp

theorem value_ofRecord_eq_error_iff {e : Fault} : (Operator.ofRecord settings v).value = .error e ↔
    ∃ d, load settings.operatorType v = .error d ∧ d.fault = e := by
  rw [Operator.ofRecord]
  cases load settings.operatorType v <;> simp

end ofRecord

/-- The operator of a record is told by its fields alone, and what is no record is refused for the
first thing that is wrong with it. -/
theorem ofRecord_accepts_grammar (settings : Settings) (v : Json) :
    ((∃ op, (Operator.ofRecord settings v).value = .ok op) ↔
      ∃ ms, v = .obj ms ∧ ∀ f : Field, f.Admits (f.get? ms)) ∧
    (∀ op, (Operator.ofRecord settings v).value = .ok op ↔
      ∃ ms, v = .obj ms ∧ Describes settings.operatorType ms op) ∧
    (∀ label, (∃ message, (Operator.ofRecord settings v).value =
      .error (.malformedRecord label message)) ↔ FirstFault v label) ∧
    (∀ message, (Operator.ofRecord settings v).value ≠ .error (.invalidArgument message)) ∧
    ∀ ms, Operator.ofRecord settings (.obj (ms.filter fun m => Field.order.any (·.label = m.1))) =
      Operator.ofRecord settings (.obj ms) := by
  refine ⟨?_, fun op => ?_, fun label => ?_, fun message he => ?_, fun ms => ?_⟩
  · simp only [value_ofRecord_eq_ok_iff]
    exact load_ok_iff
  · rw [value_ofRecord_eq_ok_iff]
    exact load_eq_ok_iff
  · rw [← @load_error_iff settings.operatorType]
    simp only [value_ofRecord_eq_error_iff, Defect.fault, Fault.malformedRecord.injEq]
    constructor
    · rintro ⟨message, d, hl, hb, -⟩
      exact ⟨d, hl, hb⟩
    · rintro ⟨d, hl, hb⟩
      exact ⟨d.message, d, hl, hb, rfl⟩
  · obtain ⟨d, -, hd⟩ := value_ofRecord_eq_error_iff.mp he
    cases hd
  · simp only [Operator.ofRecord, load_filter]

end SiteAccess.Record
