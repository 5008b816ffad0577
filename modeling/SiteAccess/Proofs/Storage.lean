import SiteAccess.Proofs.Json.Fields
import SiteAccess.Proofs.Operator.Storage

namespace SiteAccess

open Json

theorem Fallback.ofDoc?_toJson (f : Fallback) : ofDoc? (.ofJson f.toJson) = some f := by
  cases f <;> rfl

theorem OperatorType.ofDoc?_toJson (t : OperatorType) : ofDoc? (.ofJson t.toJson) = some t :=
  OperatorType.named?_eq_some_iff.mpr rfl

namespace Fault

def content : Fault → List (String × Json)
  | .malformedRecord field message => [("field", .str field), ("message", .str message)]
  | .invalidArgument message => [("message", .str message)]

theorem toJson_eq (f : Fault) : f.toJson = .obj (("type", .str f.code) :: f.content) := by
  cases f <;> rfl

theorem nodup_names (f : Fault) : ((("type", Json.str f.code) :: f.content).map Prod.fst).Nodup := by
  cases f <;> simp [content]

theorem exists_str_of_mem (f : Fault) :
    ∀ m ∈ ("type", Json.str f.code) :: f.content, ∃ s, m.2 = .str s := by
  cases f <;> simp [content]

theorem regular_toJson (f : Fault) (depth : Nat) : Regular (depth + 1) f.toJson := by
  rw [toJson_eq]
  refine .obj f.nodup_names fun m hm => ?_
  obtain ⟨s, hs⟩ := f.exists_str_of_mem m hm
  exact hs ▸ .str depth s

def members (f : Fault) : List (String × Doc) :=
  (("type", Json.str f.code) :: f.content).map fun m => (m.1, .ofJson m.2)

theorem ofJson_toJson (f : Fault) : Doc.ofJson f.toJson = .obj (f.members.map Doc.member) := by
  rw [toJson_eq, ofJson_obj f.nodup_names, Doc.ofMembers_eq_map, members, List.map_map]
  rfl

/-- Whatever fields are looked for, they are found; the others are texts, which are passed over. -/
theorem fields?_toJson (f : Fault) (names : List String) (required : Nat) :
    (Doc.ofJson f.toJson).fields? names required =
      some (names.map fun name => f.members.lookup name) := by
  rw [ofJson_toJson]
  apply Doc.fields?_members required
  · have hn := f.nodup_names
    simpa [members, Function.comp_def] using hn
  · intro m hm
    obtain ⟨m', hm', rfl⟩ := List.mem_map.mp hm
    obtain ⟨s, hs⟩ := f.exists_str_of_mem m' hm'
    exact .inr (by rw [hs]; rfl)

theorem ofContent?_toJson (f : Fault) : ofContent? f.code (.ofJson f.toJson) = some f := by
  cases f with
  | malformedRecord field message =>
      simp only [code, ofContent?, fields?_toJson]
      rfl
  | invalidArgument message =>
      simp only [code, ofContent?, fields?_toJson]
      rfl

theorem ofDoc?_toJson (f : Fault) : ofDoc? (.ofJson f.toJson) = some f := by
  have hv : (Doc.ofJson f.toJson).toJson? = some f.toJson := value?_ofJson (f.regular_toJson 126)
  have ht : (Doc.ofJson f.toJson).fields? ["type"] 1 = some [some (.str (some f.code))] :=
    f.fields?_toJson ["type"] 1
  have hc := f.ofContent?_toJson
  rw [ofJson_toJson] at hv ht hc ⊢
  simp only [ofDoc?, hv, ht]
  exact hc

end Fault

namespace Settings

variable {fallback operatorType logFilter : Json}

def stored (fallback operatorType logFilter : Json) : Json :=
  .obj [("legacy_fallback", fallback), ("default_operator_type", operatorType),
    ("log_filter", logFilter)]

theorem regular_stored {depth : Nat} (hf : Regular depth fallback)
    (ht : Regular depth operatorType) (hl : Regular depth logFilter) :
    Regular (depth + 1) (stored fallback operatorType logFilter) := by
  refine .obj (by simp) ?_
  simp only [List.mem_cons, List.not_mem_nil, or_false, forall_eq_or_imp, forall_eq]
  exact ⟨hf, ht, hl⟩

theorem fields?_stored : (Doc.ofJson (stored fallback operatorType logFilter)).fields? names 3 =
    some [some (.ofJson fallback), some (.ofJson operatorType), some (.ofJson logFilter)] := by
  have hn : ([("legacy_fallback", fallback), ("default_operator_type", operatorType),
      ("log_filter", logFilter)].map Prod.fst).Nodup := by simp
  exact Doc.fields?_ofJson 3 hn

theorem regular_toJson (s : Settings) (depth : Nat) : Regular (depth + 1) s.toJson :=
  regular_stored (.str depth _) (.str depth _) (.str depth _)

theorem ofDoc?_toJson (s : Settings) : ofDoc? (.ofJson s.toJson) = some s := by
  have hf : (Doc.ofJson s.toJson).fields? names 3 = some [some (.ofJson s.fallback.toJson),
      some (.ofJson s.operatorType.toJson), some (.ofJson (.str s.logFilter))] := fields?_stored
  simp only [ofDoc?, hf, Fallback.ofDoc?_toJson, OperatorType.ofDoc?_toJson]
  rfl

end Settings

namespace Overrides

theorem regular_option {α : Type} {write : α → Json} {depth : Nat}
    (h : ∀ a, Regular depth (write a)) (o : Option α) : Regular depth (.option write o) := by
  cases o with
  | none => exact .null depth
  | some a => exact h a

/-- An absent value and one that is there are told apart, as no value is written as null. -/
theorem field?_option {α : Type} {write : α → Json} {read? : Doc → Option α}
    (hr : ∀ a, read? (.ofJson (write a)) = some a) (hn : ∀ a, Doc.ofJson (write a) ≠ .null)
    (o : Option α) : field? read? (some (.ofJson (.option write o))) = some o := by
  cases o with
  | none => rfl
  | some a =>
      rw [field?, Json.option, Doc.nullable?]
      · rw [hr]
        rfl
      · exact hn a

theorem string?_ofJson (s : String) : (Doc.ofJson (.str s)).string? = some s := rfl

theorem regular_toJson (o : Overrides) (depth : Nat) : Regular (depth + 1) o.toJson :=
  Settings.regular_stored (regular_option (fun _ => .str depth _) o.fallback)
    (regular_option (fun _ => .str depth _) o.operatorType)
    (regular_option (.str depth) o.logFilter)

theorem ofDoc?_toJson (o : Overrides) : ofDoc? (.ofJson o.toJson) = some o := by
  have hf : (Doc.ofJson o.toJson).fields? Settings.names 3 =
      some [some (.ofJson (.option Fallback.toJson o.fallback)),
        some (.ofJson (.option OperatorType.toJson o.operatorType)),
        some (.ofJson (.option .str o.logFilter))] := Settings.fields?_stored
  have hfallback := field?_option Fallback.ofDoc?_toJson (fun _ => nofun) o.fallback
  have htype := field?_option OperatorType.ofDoc?_toJson (fun _ => nofun) o.operatorType
  have hfilter := field?_option string?_ofJson (fun _ => nofun) o.logFilter
  simp only [ofDoc?, hf, hfallback, htype, hfilter]
  rfl

end Overrides

namespace RoleSet

theorem entry_option (e : Option Role) : entry (.ofJson (.option Role.toJson e)) = .ok e := by
  cases e with
  | none => rfl
  | some r =>
      have hp : Role.parse r.name = .ok r := by rw [Role.parse, r.named?_name]
      simp only [Json.option, Role.toJson, Doc.ofJson, entry, Role.ofDoc, hp]
      rfl

theorem mapM_entry_option (entries : List (Option Role)) :
    (entries.map fun e => Doc.ofJson (.option Role.toJson e)).mapM entry = .ok entries := by
  induction entries with
  | nil => rfl
  | cons e entries ih =>
      rw [List.map_cons, List.mapM_cons, entry_option, ih]
      rfl

theorem ofDoc_entries (entries : List (Option Role)) :
    ofDoc (.ofJson (.arr (entries.map (.option Role.toJson)))) = .ok (ofNullable (some entries)) := by
  rw [Doc.ofJson, Doc.ofItems_eq_map, List.map_map, ofDoc]
  change Except.map _ ((entries.map fun e => Doc.ofJson (.option Role.toJson e)).mapM entry) = _
  rw [mapM_entry_option]
  rfl

theorem ofDoc_toJson (s : RoleSet) : ofDoc (.ofJson s.toJson) = .ok s := by
  have hi : s.toJson = .arr ((s.roles.map some).map (.option Role.toJson)) := by
    rw [toJson, List.map_map]
    rfl
  rw [hi, ofDoc_entries, ofNullable]
  simp

theorem readText_written (s : RoleSet) : Refusal.readText ofDoc s.toJson.render = .ok s := by
  rw [Refusal.readText, Doc.ofText_render (s.regular_toJson 0)]
  simp only [ofDoc_toJson]
  rfl

end RoleSet

/-- Whatever is written of a value is read as that value. -/
theorem written_values_return :
    (∀ f : Fault, readText? Fault.ofDoc? f.toJson.render = some f) ∧
    (∀ s : Settings, readText? Settings.ofDoc? s.toJson.render = some s) ∧
    (∀ o : Overrides, readText? Overrides.ofDoc? o.toJson.render = some o) ∧
    ∀ s : RoleSet, Refusal.readText RoleSet.ofDoc s.toJson.render = .ok s := by
  refine ⟨fun f => ?_, fun s => ?_, fun o => ?_, fun s => ?_⟩
  · rw [readText?_render _ (f.regular_toJson 0), f.ofDoc?_toJson]
  · rw [readText?_render _ (s.regular_toJson 0), s.ofDoc?_toJson]
  · rw [readText?_render _ (o.regular_toJson 0), o.ofDoc?_toJson]
  · exact s.readText_written

end SiteAccess
