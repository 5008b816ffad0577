import Mathlib.Data.Finset.Card
import Mathlib.Data.List.ReduceOption
import SiteAccess.Proofs.Storage

namespace SiteAccess

open Json

namespace RoleSet

variable {xs ys : List Role} {entries : List (Option Role)} {s t : RoleSet}

theorem contains_normalize {r : Role} :
    (normalize xs).contains r = true ↔ r = .operator ∨ r ∈ xs :=
  contains_iff.trans mem_normalize

theorem normalize_eq_iff : normalize xs = normalize ys ↔ ∀ r, r ≠ .operator → (r ∈ xs ↔ r ∈ ys) := by
  constructor
  · intro h r hr
    have hm : r ∈ (normalize xs).roles ↔ r ∈ (normalize ys).roles := by rw [h]
    simpa [mem_normalize, hr] using hm
  · intro h
    apply ext
    intro r
    rw [mem_normalize, mem_normalize]
    by_cases hr : r = .operator
    · simp [hr]
    · rw [h r hr]

theorem normalize_eq_self_iff : normalize xs = s ↔ ∀ r, r ≠ .operator → (r ∈ xs ↔ r ∈ s.roles) := by
  rw [← normalize_eq_iff, normalize_roles]

theorem normalize_append (xs ys : List Role) :
    normalize (xs ++ ys) = normalize ((normalize xs).roles ++ ys) := by
  rw [normalize_eq_iff]
  intro r hr
  simp [mem_normalize, hr]

theorem normalize_granted (s : RoleSet) : normalize s.granted = s := by
  rw [normalize_eq_self_iff]
  intro r hr
  simp [mem_granted, hr]

theorem size_normalize (xs : List Role) :
    (normalize xs).size = (insert Role.operator xs.toFinset).card := by
  have hs : (normalize xs).roles.toFinset = insert Role.operator xs.toFinset := by
    ext r
    simp [mem_normalize]
  rw [size, ← hs, List.toFinset_card_of_nodup (nodup_roles _)]

theorem ofNullable_some (entries : List (Option Role)) :
    ofNullable (some entries) = normalize entries.reduceOption := rfl

theorem ofNullable_eq_iff {other : List (Option Role)} :
    ofNullable (some entries) = ofNullable (some other) ↔
      ∀ r, r ≠ .operator → (some r ∈ entries ↔ some r ∈ other) := by
  simp only [ofNullable_some, normalize_eq_iff, List.reduceOption_mem_iff]

section text

def listed (entries : List (Option Role)) : Json := .arr (entries.map (.option Role.toJson))

theorem regular_listed (entries : List (Option Role)) (depth : Nat) :
    Regular (depth + 1) (listed entries) := by
  refine .arr fun v hv => ?_
  obtain ⟨e, -, rfl⟩ := List.mem_map.mp hv
  exact Overrides.regular_option (fun r => .str depth r.name) e

theorem readText_listed (entries : List (Option Role)) :
    Refusal.readText ofDoc (listed entries).render = .ok (ofNullable (some entries)) := by
  rw [Refusal.readText, Doc.ofText_render (regular_listed entries 0)]
  simp only [listed, ofDoc_entries]
  rfl

def text (rs : List Role) : String :=
  "[" ++ String.intercalate "," (rs.map fun r => "\"" ++ r.name ++ "\"") ++ "]"

theorem write_name (r : Role) : r.toJson.write = ("\"" ++ r.name ++ "\"").toList := by
  cases r <;> rfl

theorem write_names (rs : List Role) : (rs.map Role.toJson).map write =
    (rs.map fun r => "\"" ++ r.name ++ "\"").map String.toList := by
  rw [List.map_map, List.map_map]
  apply List.map_congr_left
  intro r _
  exact write_name r

theorem render_toJson (s : RoleSet) : s.toJson.render = text s.roles := by
  rw [← String.ofList_toList (s := text s.roles), text, String.toList_append, String.toList_append,
    String.toList_intercalate, ← write_names, render, toJson, write, writeItems_eq]
  rfl

theorem render_eq_iff : s.toJson.render = t.toJson.render ↔ s = t :=
  written_eq_iff (Refusal.readText ofDoc) readText_written fun _ _ => Except.ok.inj

end text

/-- A set that every way of building makes of a list of entries. -/
structure Built (entries : List (Option Role)) (s : RoleSet) : Prop where
  normalizeRoles : SiteAccess.normalizeRoles (some entries) = s
  ofNullable : RoleSet.ofNullable (some entries) = s
  normalize : RoleSet.normalize entries.reduceOption = s
  collect : RoleSet.collect entries.reduceOption = s
  setRoles : ∀ op : Operator,
    op.edit (.setRoles entries.reduceOption) = pure (.ok { op with roles := s })
  withRoles : ∀ op : Operator,
    op.edit (.withRoles entries.reduceOption) = pure (.ok { op with roles := s })
  setNullableRoles : ∀ op : Operator,
    op.edit (.setNullableRoles (some entries)) = pure (.ok { op with roles := s })
  read : ofDoc (.ofJson (listed entries)) = .ok s
  readText : Refusal.readText ofDoc (listed entries).render = .ok s
  contains_iff : ∀ r, s.contains r = true ↔ r = .operator ∨ some r ∈ entries
  mem_granted_iff : ∀ r, r ∈ s.granted ↔ r ≠ .operator ∧ some r ∈ entries
  ascending : s.roles.Pairwise fun a b => a.rank < b.rank
  size_eq : s.size = (insert Role.operator entries.reduceOption.toFinset).card

theorem built_normalize (entries : List (Option Role)) :
    Built entries (.normalize entries.reduceOption) where
  normalizeRoles := ofNullable_some entries
  ofNullable := ofNullable_some entries
  normalize := rfl
  collect := rfl
  setRoles _ := rfl
  withRoles _ := rfl
  setNullableRoles _ := rfl
  read := ofDoc_entries entries
  readText := readText_listed entries
  contains_iff r := by rw [contains_normalize, List.reduceOption_mem_iff]
  mem_granted_iff r := by
    rw [mem_granted, mem_normalize, List.reduceOption_mem_iff]
    exact and_congr_right fun hr => or_iff_right hr
  ascending := (RoleSet.normalize entries.reduceOption).ascending
  size_eq := size_normalize entries.reduceOption

/-- All ways of building agree on one set in order, that of the roles on the list and `operator`.
Nothing of the list shows in it but which roles beyond `operator` are there, so that order and
repetition do not matter. What is in normal form already, in part or as a whole, stays as it is, and
so does a set whose grants are taken for a list. A set is written as its roles in order, and told by
what is written. -/
theorem builders_agree :
    (∀ entries : List (Option Role), ∃ s, Built entries s) ∧
    (∀ entries other : List (Option Role), ofNullable (some entries) = ofNullable (some other) ↔
      ∀ r, r ≠ .operator → (some r ∈ entries ↔ some r ∈ other)) ∧
    (∀ entries other : List (Option Role), entries ⊆ other → other ⊆ entries →
      ofNullable (some entries) = ofNullable (some other)) ∧
    (∀ xs ys : List Role, normalize (xs ++ ys) = normalize ((normalize xs).roles ++ ys)) ∧
    ∀ s : RoleSet, normalize s.roles = s ∧ normalize s.granted = s ∧
      s.toJson.render = text s.roles ∧ ∀ t : RoleSet, s.toJson.render = t.toJson.render ↔ s = t := by
  refine ⟨fun entries => ?_, fun entries other => ofNullable_eq_iff, fun entries other h h' => ?_,
    normalize_append, fun s => ?_⟩
  · exact ⟨_, built_normalize entries⟩
  · rw [ofNullable_eq_iff]
    intro r _
    exact ⟨fun hr => h hr, fun hr => h' hr⟩
  · exact ⟨normalize_roles s, normalize_granted s, s.render_toJson, fun t => render_eq_iff⟩

theorem repeated_in_reverse :
    [none, some Role.administrator, some .optout] ⊆
        [some .optout, some .administrator, none, some .optout] ∧
      [some .optout, some .administrator, none, some .optout] ⊆
        [none, some Role.administrator, some .optout] ∧
      ofNullable (some [none, some .administrator, some .optout]) =
        ofNullable (some [some .optout, some .administrator, none, some .optout]) := by
  have h : [none, some Role.administrator, some .optout] ⊆
      [some .optout, some .administrator, none, some .optout] := by decide
  have h' : [some .optout, some .administrator, none, some .optout] ⊆
      [none, some Role.administrator, some .optout] := by decide
  exact ⟨h, h', builders_agree.2.2.1 _ _ h h'⟩

-- Neither absent entries nor the role that every operator has add anything.
example : (ofNullable (some [some .secretManager, none, some .operator, some .optout])).roles =
    [.operator, .optout, .secretManager] := by decide

end RoleSet

end SiteAccess
