import Mathlib.Data.Set.List
import SiteAccess.Proofs.AccessList
import SiteAccess.Proofs.Decimal
import SiteAccess.Proofs.Json.Fields

namespace SiteAccess.AccessList

open Decimal Json

/-- The two fields as they stand in an object or in an array, of which the second may be left out. -/
inductive Holds : Json → Json → Option Json → Prop
  | object {ms : List (String × Json)} {flag : Json}
      (h : lastWith "is_allow_list" ms = some flag) :
      Holds (.obj ms) flag (lastWith "access_list" ms)
  | flag (flag : Json) : Holds (.arr [flag]) flag none
  | both (flag sites : Json) : Holds (.arr [flag, sites]) flag (some sites)

def IsSite (v : Json) : Prop :=
  ∃ n, v = .int n ∧ Int32.minValue.toInt ≤ n ∧ n ≤ Int32.maxValue.toInt

def AreSites (v : Json) : Prop := ∃ items, v = .arr items ∧ ∀ item ∈ items, IsSite item

def Acceptable (v : Json) : Prop :=
  ∃ flag sites?, Holds v (.bool flag) sites? ∧ ∀ sites, sites? = some sites → AreSites sites

/-- The sites that a field lists, each by its number. A field that is left out lists none. -/
inductive Lists : Option Json → List SiteId → Prop
  | absent : Lists none []
  | numbers (sites : List SiteId) : Lists (some (.arr (sites.map fun s => .int s.toInt))) sites

def Says (v : Json) (flag : Bool) (sites : List SiteId) : Prop :=
  ∃ sites?, Holds v (.bool flag) sites? ∧ Lists sites? sites

variable {v flag : Json} {sites? : Option Json} {sites : List SiteId} {a : AccessList}

theorem isSite_iff : IsSite v ↔ ∃ s : SiteId, Json.int s.toInt = v := by
  constructor
  · rintro ⟨n, rfl, hl, hu⟩
    have hn : (Int32.ofInt n).toInt = n := by
      rw [Int32.toInt_minValue] at hl
      rw [Int32.toInt_maxValue] at hu
      exact Int32.toInt_ofInt_of_le hl (Int.lt_of_le_sub_one hu)
    exact ⟨Int32.ofInt n, by rw [hn]⟩
  · rintro ⟨s, rfl⟩
    exact ⟨s.toInt, rfl, Int32.minValue_le_toInt s, s.toInt_le⟩

theorem areSites_iff : AreSites v ↔ ∃ sites, Lists (some v) sites := by
  constructor
  · rintro ⟨items, rfl, h⟩
    have hr : items ∈ Set.range (List.map fun s : SiteId => Json.int s.toInt) := by
      rw [Set.range_list_map]
      intro item hm
      exact isSite_iff.mp (h item hm)
    obtain ⟨sites, rfl⟩ := hr
    exact ⟨sites, .numbers sites⟩
  · rintro ⟨sites, ⟨⟩⟩
    refine ⟨_, rfl, fun item hm => ?_⟩
    obtain ⟨s, -, rfl⟩ := List.mem_map.mp hm
    exact isSite_iff.mpr ⟨s, rfl⟩

theorem exists_said_iff : (∃ flag sites, Says v flag sites) ↔ Acceptable v := by
  constructor
  · rintro ⟨flag, sites, sites?, hv, hl⟩
    refine ⟨flag, sites?, hv, ?_⟩
    rintro w rfl
    exact areSites_iff.mpr ⟨sites, hl⟩
  · rintro ⟨flag, sites?, hv, hs⟩
    cases sites? with
    | none => exact ⟨flag, [], none, hv, .absent⟩
    | some w =>
        obtain ⟨sites, hl⟩ := areSites_iff.mp (hs w rfl)
        exact ⟨flag, sites, some w, hv, hl⟩

theorem fields?_of_holds (h : Holds v flag sites?) :
    (Doc.ofJson v).fields? names 1 = some [some (.ofJson flag), sites?.map .ofJson] := by
  cases h with
  | object h => simp [Doc.fields?_obj, names, h]
  | flag flag => exact Doc.fields?_arr names 1 [flag]
  | both flag sites => exact Doc.fields?_arr names 1 [flag, sites]

theorem holds_of_fields? {d : Doc} {m : Option Doc}
    (h : (Doc.ofJson v).fields? names 1 = some [some d, m]) :
    ∃ flag sites?, Holds v flag sites? ∧ d = .ofJson flag ∧ m = sites?.map .ofJson := by
  cases v with
  | obj ms =>
      rw [Doc.fields?_obj] at h
      simp only [names, List.map_cons, List.map_nil, Option.some.injEq, List.cons.injEq,
        and_true, Option.map_eq_some_iff] at h
      obtain ⟨⟨flag, hf, rfl⟩, rfl⟩ := h
      exact ⟨flag, _, .object hf, rfl, rfl⟩
  | arr items =>
      rw [Doc.fields?_arr] at h
      match items with
      | [] => cases h
      | [flag] =>
          cases h
          exact ⟨flag, none, .flag flag, rfl, rfl⟩
      | [flag, sites] =>
          cases h
          exact ⟨flag, some sites, .both flag sites, rfl, rfl⟩
      | _ :: _ :: _ :: _ => simp [names] at h
  | null | bool | num | str => simp [Doc.ofJson, Doc.fields?] at h

theorem bool?_ofJson_iff {b : Bool} : (Doc.ofJson v).bool? = some b ↔ v = .bool b := by
  cases v <;> simp [Doc.ofJson, Doc.bool?]

theorem int32?_ofJson_iff {s : SiteId} : (Doc.ofJson v).int32? = some s ↔ v = .int s.toInt := by
  cases v with
  | num n =>
      constructor
      · intro h
        rw [Json.int, ← Number.eq_int_of_int32? h]
      · rintro ⟨⟩
        exact Number.int32?_toInt s
  | null | bool | str | arr | obj => simp [Doc.ofJson, Doc.int32?, Json.int]

theorem mapM_int32?_iff {items : List Json} :
    (items.map Doc.ofJson).mapM Doc.int32? = some sites ↔
      items = sites.map fun s => .int s.toInt := by
  induction items generalizing sites with
  | nil => cases sites <;> simp
  | cons item items ih =>
      rw [List.map_cons, List.mapM_cons]
      simp only [Option.bind_eq_bind, Option.bind_eq_some_iff, Option.pure_def,
        Option.some.injEq, int32?_ofJson_iff, ih]
      constructor
      · rintro ⟨s, rfl, rest, rfl, rfl⟩
        rfl
      · intro h
        cases sites with
        | nil => cases h
        | cons s rest =>
            obtain ⟨rfl, rfl⟩ := List.cons.inj h
            exact ⟨s, rfl, rest, rfl, rfl⟩

theorem list?_ofJson_iff : (Doc.ofJson v).list? Doc.int32? = some sites ↔ Lists (some v) sites := by
  have hl : Lists (some v) sites ↔ v = .arr (sites.map fun s => .int s.toInt) := by
    constructor
    · rintro ⟨⟩
      rfl
    · rintro rfl
      exact .numbers sites
  rw [hl]
  cases v with
  | arr items => rw [Doc.ofJson, Doc.list?, Doc.ofItems_eq_map, mapM_int32?_iff, Json.arr.injEq]
  | null | bool | num | str | obj => simp [Doc.ofJson, Doc.list?]

theorem ofDoc?_eq_some_iff {d : Doc} : ofDoc? d = some a ↔
    ∃ f m, d.fields? names 1 = some [some f, m] ∧ ∃ flag, f.bool? = some flag ∧
      (m = none ∧ a = ofSites flag [] ∨
        ∃ l sites, m = some l ∧ l.list? Doc.int32? = some sites ∧ a = ofSites flag sites) := by
  constructor
  · intro h
    rw [ofDoc?] at h
    split at h
    case h_1 f hd =>
      simp only [Option.bind_eq_bind, Option.bind_eq_some_iff, Option.pure_def,
        Option.some.injEq] at h
      obtain ⟨flag, hf, rfl⟩ := h
      exact ⟨f, none, hd, flag, hf, .inl ⟨rfl, rfl⟩⟩
    case h_2 f l hd =>
      simp only [Option.bind_eq_bind, Option.bind_eq_some_iff, Option.pure_def,
        Option.some.injEq] at h
      obtain ⟨flag, hf, sites, hl, rfl⟩ := h
      exact ⟨f, some l, hd, flag, hf, .inr ⟨l, sites, rfl, hl, rfl⟩⟩
    case h_3 => cases h
  · rintro ⟨f, _, hd, flag, hf, ⟨rfl, rfl⟩ | ⟨l, sites, rfl, hl, rfl⟩⟩
    · rw [ofDoc?, hd]
      simp [hf]
    · rw [ofDoc?, hd]
      simp [hf, hl]

theorem ofDoc?_ofJson_iff : ofDoc? (.ofJson v) = some a ↔
    ∃ flag sites, Says v flag sites ∧ a = ofSites flag sites := by
  rw [ofDoc?_eq_some_iff]
  constructor
  · rintro ⟨f, m, hd, b, hf, hm⟩
    obtain ⟨flag, sites?, hv, rfl, rfl⟩ := holds_of_fields? hd
    obtain rfl := bool?_ofJson_iff.mp hf
    cases sites? with
    | none =>
        rcases hm with ⟨-, rfl⟩ | ⟨l, sites, hl, -, -⟩
        · exact ⟨b, [], ⟨none, hv, .absent⟩, rfl⟩
        · cases hl
    | some w =>
        rcases hm with ⟨hn, -⟩ | ⟨l, sites, hl, hs, rfl⟩
        · cases hn
        · cases hl
          exact ⟨b, sites, ⟨some w, hv, list?_ofJson_iff.mp hs⟩, rfl⟩
  · rintro ⟨b, sites, ⟨sites?, hv, hl⟩, rfl⟩
    refine ⟨_, _, fields?_of_holds hv, b, bool?_ofJson_iff.mpr rfl, ?_⟩
    cases sites? with
    | none =>
        cases hl
        exact .inl ⟨rfl, rfl⟩
    | some w => exact .inr ⟨_, sites, rfl, list?_ofJson_iff.mpr hl, rfl⟩

def text (flag : Bool) (sites : List SiteId) : String :=
  "\x7b\"is_allow_list\":" ++ (if flag then "true" else "false") ++ ",\"access_list\":[" ++
    String.intercalate "," (sites.map fun s => toString s.toInt) ++ "]\x7d"

theorem write_sites (sites : List SiteId) : (sites.map SiteId.toJson).map write =
    (sites.map fun s => toString s.toInt).map String.toList := by
  rw [List.map_map, List.map_map]
  apply List.map_congr_left
  intro s _
  rw [Function.comp_apply, Function.comp_apply, SiteId.toJson, Json.int, write, Number.text,
    intText_eq_toList]

theorem write_flag (flag : Bool) :
    (Json.bool flag).write = (if flag then "true" else "false").toList := by
  cases flag <;> simp [write, literal]

def pieces (flag : Bool) (sites : List SiteId) : List Char :=
  '\x7b' :: (Quoted.encode "is_allow_list" ++ ':' :: (Json.bool flag).write ++
    ',' :: (Quoted.encode "access_list" ++
      ':' :: '[' :: writeItems (sites.map SiteId.toJson) ++ ['\x7d']))

theorem toList_text (flag : Bool) (sites : List SiteId) :
    (text flag sites).toList = pieces flag sites := by
  have hf : "\x7b\"is_allow_list\":".toList =
      '\x7b' :: (Quoted.encode "is_allow_list" ++ [':']) := by rfl
  have hl : ",\"access_list\":[".toList =
      ',' :: (Quoted.encode "access_list" ++ [':', '[']) := by rfl
  have hc : ",".toList = [','] := by rfl
  have he : "]\x7d".toList = [']', '\x7d'] := by rfl
  unfold text
  rw [String.toList_append, String.toList_append, String.toList_append, String.toList_append,
    String.toList_intercalate, hf, hl, hc, he, ← write_flag, ← write_sites, pieces, writeItems_eq]
  simp only [List.append_assoc, List.cons_append, List.nil_append]

theorem write_toJson (a : AccessList) : a.toJson.write = pieces a.isAllowList a.sites := by
  rw [toJson, write, writeMembers, writeMembers, writeMember, writeMember, write.eq_def (.arr _),
    pieces]

theorem render_toJson (a : AccessList) : a.toJson.render = text a.isAllowList a.sites := by
  rw [render, write_toJson, ← toList_text, String.ofList_toList]

theorem regular_toJson (a : AccessList) (depth : Nat) : Regular (depth + 2) a.toJson := by
  have hs : ∀ v ∈ a.sites.map SiteId.toJson, Regular depth v := by
    intro v hv
    obtain ⟨s, -, rfl⟩ := List.mem_map.mp hv
    exact .int depth (fits_int32 s)
  refine .obj (by simp) ?_
  simp only [List.mem_cons, List.not_mem_nil, or_false, forall_eq_or_imp, forall_eq]
  exact ⟨.bool _ _, .arr hs⟩

theorem says_toJson (a : AccessList) : Says a.toJson a.isAllowList a.sites :=
  ⟨_, .object rfl, .numbers a.sites⟩

theorem readText?_written (a : AccessList) : readText? ofDoc? a.toJson.render = some a := by
  rw [readText?_render _ (a.regular_toJson 0), ofDoc?_ofJson_iff]
  exact ⟨_, _, a.says_toJson, a.ofSites_sites.symm⟩

/-- A value is read just when it has the shape of an access list, with nothing but numbers of sites
on it, and then as the list of those sites, each of which is let in or kept out as the flag says. It
is written with its sites in ascending order, and is read back from that text. -/
theorem reads_listed_sites :
    (∀ v : Json, (∃ a, ofDoc? (.ofJson v) = some a) ↔ Acceptable v) ∧
    (∀ (v : Json) (a : AccessList), ofDoc? (.ofJson v) = some a ↔
      ∃ flag sites, Says v flag sites ∧ a = ofSites flag sites) ∧
    ∀ (flag : Bool) (sites : List SiteId),
      (∀ s, (ofSites flag sites).admits s = (decide (s ∈ sites) == flag)) ∧
      ∃ sorted : List SiteId, sorted.Pairwise (· < ·) ∧ (∀ s, s ∈ sorted ↔ s ∈ sites) ∧
        (ofSites flag sites).toJson.render = text flag sorted ∧
        readText? ofDoc? (text flag sorted) = some (ofSites flag sites) := by
  refine ⟨fun v => ?_, fun v a => ofDoc?_ofJson_iff, fun flag sites => ?_⟩
  · rw [← exists_said_iff]
    constructor
    · rintro ⟨a, ha⟩
      obtain ⟨flag, sites, hv, -⟩ := ofDoc?_ofJson_iff.mp ha
      exact ⟨flag, sites, hv⟩
    · rintro ⟨flag, sites, hv⟩
      exact ⟨ofSites flag sites, ofDoc?_ofJson_iff.mpr ⟨flag, sites, hv, rfl⟩⟩
  · have hr := (ofSites flag sites).render_toJson
    refine ⟨admits_ofSites flag sites, (ofSites flag sites).sites, (ofSites flag sites).ascending,
      fun s => mem_ofSites, hr, ?_⟩
    have ht := (ofSites flag sites).readText?_written
    rw [hr] at ht
    exact ht

-- A number beyond 32 bits is no site, though its last 32 bits are those of one.
example : ofDoc? (.ofJson (.arr [.bool true, .arr [.int 4294967301]])) = none := rfl

end SiteAccess.AccessList
