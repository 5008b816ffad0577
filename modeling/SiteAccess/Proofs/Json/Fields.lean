import SiteAccess.Proofs.Json.Text

namespace SiteAccess

namespace Json.Doc

variable {names : List String} {ms : List (String × Doc)}

def member (m : String × Doc) : Option String × Doc := (some m.1, m.2)

theorem acceptable_members (hn : (ms.map Prod.fst).Nodup)
    (h : ∀ m ∈ ms, m.1 ∈ names ∨ m.2.isWhole = true) :
    acceptable names (ms.map member) = true := by
  induction ms with
  | nil => rfl
  | cons m ms ih =>
      obtain ⟨hm, hms⟩ := List.nodup_cons.mp hn
      have ht := ih hms fun m' hm' => h m' (List.mem_cons_of_mem m hm')
      rw [List.map_cons, member, acceptable]
      split
      case isTrue =>
        have hany : (ms.map member).any (·.1 == some m.1) = false := by
          simp only [List.any_map, List.any_eq_false, Function.comp_apply, member, beq_iff_eq,
            Option.some.injEq]
          intro m' hm' he
          exact hm (he ▸ List.mem_map_of_mem hm')
        rw [hany, ht]
        rfl
      case isFalse hname =>
        have hw : m.2.isWhole = true := (h m List.mem_cons_self).resolve_left fun hc =>
          hname (List.contains_iff_mem.mpr hc)
        rw [hw, ht]
        rfl

theorem lookup_members (name : String) : (ms.map member).lookup (some name) = ms.lookup name := by
  induction ms with
  | nil => rfl
  | cons m ms ih =>
      rw [List.map_cons, member, List.lookup_cons, List.lookup_cons, ih]
      rfl

theorem lookup_of_mem (hn : (ms.map Prod.fst).Nodup) {m : String × Doc} (h : m ∈ ms) :
    ms.lookup m.1 = some m.2 := by
  obtain ⟨before, after, rfl⟩ := List.append_of_mem h
  refine List.lookup_eq_some_iff.mpr ⟨before, after, rfl, fun p hp => ?_⟩
  rw [List.map_append, List.map_cons, List.nodup_append] at hn
  have hne : p.1 ≠ m.1 := hn.2.2 p.1 (List.mem_map_of_mem hp) m.1 List.mem_cons_self
  simpa using hne.symm

theorem fields?_members (required : Nat) (hn : (ms.map Prod.fst).Nodup)
    (h : ∀ m ∈ ms, m.1 ∈ names ∨ m.2.isWhole = true) :
    fields? names required (.obj (ms.map member)) = some (names.map fun name => ms.lookup name) := by
  rw [fields?, if_pos (acceptable_members hn h)]
  simp only [lookup_members]

theorem fields?_ofJson {ms : List (String × Json)} (required : Nat)
    (hn : (ms.map Prod.fst).Nodup) :
    fields? (ms.map Prod.fst) required (ofJson (.obj ms)) =
      some (ms.map fun m => some (ofJson m.2)) := by
  let ds : List (String × Doc) := ms.map fun m => (m.1, ofJson m.2)
  have hd : (ds.map Prod.fst).Nodup := by simpa [ds, Function.comp_def] using hn
  have hf : fields? (ds.map Prod.fst) required (.obj (ds.map member)) =
      some (ds.map fun m => some m.2) := by
    rw [fields?_members required hd fun m hm => .inl (List.mem_map_of_mem hm), List.map_map]
    congr 1
    exact List.map_congr_left fun m hm => lookup_of_mem hd hm
  simpa [ofJson_obj hn, ofMembers_eq_map, ds, member, Function.comp_def] using hf

end Json.Doc

section LastMember

variable {α β : Type} {name : String} {ps : List (String × α)}

theorem lastWith_cons (p : String × α) (ps : List (String × α)) :
    lastWith name (p :: ps) = (lastWith name ps).or (if p.1 = name then some p.2 else none) := by
  suffices h : ∀ found, ps.foldl (fun found p => if p.1 = name then some p.2 else found) found =
      (lastWith name ps).or found from h _
  induction ps with
  | nil => exact fun found => rfl
  | cons q qs ih =>
      intro found
      rw [lastWith, List.foldl_cons, List.foldl_cons, ih, ih]
      by_cases hq : q.1 = name <;> simp [hq]

theorem lastWith_eq_none_iff : lastWith name ps = none ↔ ∀ p ∈ ps, p.1 ≠ name := by
  induction ps with
  | nil => simp [lastWith]
  | cons p ps ih => simp [lastWith_cons, ih, and_comm]

theorem lastWith_map (f : α → β) (ps : List (String × α)) :
    lastWith name (ps.map fun p => (p.1, f p.2)) = (lastWith name ps).map f := by
  induction ps with
  | nil => rfl
  | cons p ps ih =>
      rw [List.map_cons, lastWith_cons, lastWith_cons, ih]
      by_cases hp : p.1 = name <;> cases lastWith name ps <;> simp [hp]

theorem any_eq_true_iff : ps.any (·.1 = name) = true ↔ lastWith name ps ≠ none := by
  simp [lastWith_eq_none_iff]

theorem lookup_dropReplaced (name : String) (ps : List (String × α)) :
    (dropReplaced ps).lookup name = lastWith name ps := by
  induction ps with
  | nil => rfl
  | cons p ps ih =>
      rcases p with ⟨key, a⟩
      rw [dropReplaced, lastWith_cons]
      by_cases hk : key = name
      · subst hk
        by_cases ha : ps.any (·.1 = key) = true
        · obtain ⟨b, hs⟩ := Option.ne_none_iff_exists'.mp (any_eq_true_iff.mp ha)
          rw [if_pos ha, ih, hs]
          rfl
        · have hn : lastWith key ps = none :=
            Classical.not_not.mp (mt any_eq_true_iff.mpr ha)
          rw [if_neg ha, hn, List.lookup_cons_self]
          simp
      · have hb : (name == key) = false := beq_false_of_ne (Ne.symm hk)
        rw [if_neg hk, Option.or_none]
        split
        · exact ih
        · rw [List.lookup_cons, hb, ih]

end LastMember

section Replaced

variable {κ α : Type} [DecidableEq κ] {p : κ × α} {ps : List (κ × α)}

theorem mem_of_mem_dropReplaced (h : p ∈ dropReplaced ps) : p ∈ ps := by
  induction ps with
  | nil => exact h
  | cons q qs ih =>
      rw [dropReplaced] at h
      split at h
      · exact List.mem_cons_of_mem q (ih h)
      · exact (List.mem_cons.mp h).elim (· ▸ List.mem_cons_self) fun h =>
          List.mem_cons_of_mem q (ih h)

theorem nodup_dropReplaced (ps : List (κ × α)) : ((dropReplaced ps).map Prod.fst).Nodup := by
  induction ps with
  | nil => exact .nil
  | cons q qs ih =>
      rw [dropReplaced]
      split
      · exact ih
      · next ha =>
        refine List.nodup_cons.mpr ⟨fun hm => ha ?_, ih⟩
        obtain ⟨p, hp, he⟩ := List.mem_map.mp hm
        exact List.any_eq_true.mpr ⟨p, mem_of_mem_dropReplaced hp, by simpa using he⟩

end Replaced

namespace Json.Doc

theorem dropReplaced_map_member (ds : List (String × Doc)) :
    dropReplaced (ds.map member) = (dropReplaced ds).map member := by
  induction ds with
  | nil => rfl
  | cons d ds ih =>
      have ha : (ds.map member).any (·.1 = (member d).1) = ds.any (·.1 = d.1) := by
        simp [List.any_map, Function.comp_def, member]
      rw [List.map_cons, dropReplaced, dropReplaced, ha, ih]
      split <;> rfl

theorem membersWhole_iff {ms : List (Option String × Doc)} :
    membersWhole ms = true ↔ ∀ m ∈ ms, m.2.isWhole = true := by
  induction ms with
  | nil => simp [membersWhole]
  | cons m ms ih =>
      rcases m with ⟨name, d⟩
      simp [membersWhole, memberWhole, ih]

mutual

theorem isWhole_ofJson : ∀ v : Json, (ofJson v).isWhole = true
  | .null | .bool _ | .num _ | .str _ => rfl
  | .arr items => by
      rw [ofJson, isWhole]
      exact areWhole_ofItems items
  | .obj ms => by
      rw [ofJson, isWhole, membersWhole_iff]
      intro m hm
      exact membersWhole_iff.mp (membersWhole_ofMembers ms) m (mem_of_mem_dropReplaced hm)

theorem areWhole_ofItems : ∀ vs : List Json, areWhole (ofItems vs) = true
  | [] => rfl
  | v :: vs => by rw [ofItems, areWhole, isWhole_ofJson v, areWhole_ofItems vs, Bool.and_self]

theorem membersWhole_ofMembers : ∀ ms : List (String × Json), membersWhole (ofMembers ms) = true
  | [] => rfl
  | m :: ms => by
      rw [ofMembers, membersWhole, memberWhole_ofMember m, membersWhole_ofMembers ms, Bool.and_self]

theorem memberWhole_ofMember : ∀ m : String × Json, memberWhole (ofMember m) = true
  | (_, v) => isWhole_ofJson v

end

/-- The fields of a value are the last members of their names, and no other member matters. -/
theorem fields?_obj (names : List String) (required : Nat) (ms : List (String × Json)) :
    fields? names required (ofJson (.obj ms)) =
      some (names.map fun name => (lastWith name ms).map ofJson) := by
  let ds : List (String × Doc) := ms.map fun m => (m.1, ofJson m.2)
  have hd : ofMembers ms = ds.map member := by
    simp [ds, ofMembers_eq_map, member, Function.comp_def]
  have hw : ∀ d ∈ dropReplaced ds, d.1 ∈ names ∨ d.2.isWhole = true := by
    intro d hd
    obtain ⟨m, -, rfl⟩ := List.mem_map.mp (mem_of_mem_dropReplaced hd)
    exact .inr (isWhole_ofJson m.2)
  rw [ofJson, hd, dropReplaced_map_member, fields?_members required (nodup_dropReplaced ds) hw]
  simp only [lookup_dropReplaced, ds, lastWith_map]

theorem fields?_arr (names : List String) (required : Nat) (items : List Json) :
    fields? names required (ofJson (.arr items)) =
      if required ≤ items.length ∧ items.length ≤ names.length then
        some (items.map (fun v => some (ofJson v)) ++
          List.replicate (names.length - items.length) none)
      else none := by
  rw [ofJson, fields?, ofItems_eq_map, List.length_map, List.map_map]
  rfl

end Json.Doc

end SiteAccess
