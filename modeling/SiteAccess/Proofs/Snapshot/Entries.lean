import Mathlib.Data.Finset.Card
import Mathlib.Logic.Relation
import SiteAccess.Proofs.Snapshot.Decision

namespace SiteAccess

namespace Snapshot

variable {rules other : Rules} {site : SiteId} {a : AccessList}

def sites (s : Snapshot) : List SiteId := s.entries.map Prod.fst

theorem nodup_sites (s : Snapshot) : s.sites.Nodup := s.ascending.nodup

theorem mem_sites_iff (s : Snapshot) (site : SiteId) :
    site ∈ s.sites ↔ (s.get? site).isSome := by
  simp [sites, get?, Ascending.find?, List.find?_isSome]

theorem length_sites (s : Snapshot) : s.sites.length = s.size := List.length_map _

theorem mem_entries_iff (s : Snapshot) : (site, a) ∈ s.entries ↔ s.get? site = some a := by
  rw [get?, Option.map_eq_some_iff]
  constructor
  · intro h
    exact ⟨(site, a), (s.ascending.find?_eq_some_iff).mpr ⟨h, rfl⟩, rfl⟩
  · rintro ⟨⟨k, b⟩, h, rfl⟩
    obtain ⟨hm, rfl⟩ := (s.ascending.find?_eq_some_iff).mp h
    exact hm

theorem mem_sites_ofList : site ∈ (ofList rules).sites ↔ site ∈ rules.map Prod.fst := by
  rw [mem_sites_iff, ← not_iff_not, Option.not_isSome_iff_eq_none, get?_ofList_eq_none_iff]
  simp only [List.mem_map, not_exists, not_and, ne_eq]

theorem size_ofList (rules : Rules) :
    (ofList rules).size = (rules.map Prod.fst).toFinset.card := by
  have hs : (ofList rules).sites.toFinset = (rules.map Prod.fst).toFinset := by
    ext site
    rw [List.mem_toFinset, List.mem_toFinset, mem_sites_ofList]
  rw [← length_sites, ← hs, List.toFinset_card_of_nodup (nodup_sites _)]

theorem isEmpty_ofList : (ofList rules).isEmpty = true ↔ rules = [] := by
  rw [isEmpty, List.isEmpty_iff]
  constructor
  · intro h
    have hs (site : SiteId) : site ∉ rules.map Prod.fst := by
      rw [← mem_sites_ofList, sites, h]
      exact List.not_mem_nil
    exact List.map_eq_nil_iff.mp (List.eq_nil_iff_forall_not_mem.mpr hs)
  · rintro rfl
    rfl

theorem ofList_of_perm {s : Snapshot} (h : rules.Perm s.entries) : ofList rules = s := by
  apply ext_get?
  intro site
  have hp : s.entries.Perm rules.reverse := h.symm.trans rules.reverse_perm.symm
  rw [get?_ofList, Ascending.find?_of_perm s.ascending hp site, get?]

section interchange

/-- A change of a list of rules that does not count: two neighbours for different sites change
places, or a rule is dropped that a later one for its site replaces. -/
inductive Immaterial : Rules → Rules → Prop
  | exchange (before after : Rules) {p q : SiteId × AccessList} (h : p.1 ≠ q.1) :
      Immaterial (before ++ p :: q :: after) (before ++ q :: p :: after)
  | drop (before after : Rules) {p q : SiteId × AccessList} (hq : q ∈ after) (h : q.1 = p.1) :
      Immaterial (before ++ p :: after) (before ++ after)

theorem ofList_eq_of_immaterial (h : Immaterial rules other) : ofList rules = ofList other := by
  apply ext_get?
  intro site
  rw [get?_ofList, get?_ofList]
  cases h with
  | @exchange before after p q h =>
      simp only [List.reverse_append, List.reverse_cons, List.append_assoc, List.find?_append,
        List.find?_singleton]
      by_cases hp : p.1 = site
      · have hq : q.1 ≠ site := fun hq => h (hp.trans hq.symm)
        simp [hp, hq]
      · simp [hp]
  | @drop before after p q hq h =>
      simp only [List.reverse_append, List.reverse_cons, List.append_assoc, List.find?_append,
        List.find?_singleton]
      by_cases hp : p.1 = site
      · -- The later rule for the site is found before the one that is dropped.
        have hs : (after.reverse.find? fun r => r.1 = site).isSome := by
          rw [List.find?_isSome]
          exact ⟨q, List.mem_reverse.mpr hq, decide_eq_true (h.trans hp)⟩
        obtain ⟨r, hr⟩ := Option.isSome_iff_exists.mp hs
        simp [hr]
      · simp [hp]

theorem Immaterial.append (h : Immaterial rules other) (earlier later : Rules) :
    Immaterial (earlier ++ rules ++ later) (earlier ++ other ++ later) := by
  cases h with
  | exchange before after h =>
      simpa using Immaterial.exchange (earlier ++ before) (after ++ later) h
  | drop before after hq h =>
      simpa using Immaterial.drop (earlier ++ before) (after ++ later) (List.mem_append_left _ hq) h

/-- Lists of rules that come from each other by changes that do not count. -/
abbrev Interchangeable : Rules → Rules → Prop := Relation.EqvGen Immaterial

theorem Interchangeable.append (h : Interchangeable rules other) (earlier later : Rules) :
    Interchangeable (earlier ++ rules ++ later) (earlier ++ other ++ later) := by
  induction h with
  | rel rules other h => exact .rel _ _ (h.append earlier later)
  | refl rules => exact .refl _
  | symm rules other _ ih => exact .symm _ _ ih
  | trans rules middle other _ _ ih ih' => exact .trans _ _ _ ih ih'

theorem interchangeable_moved {p : SiteId × AccessList} (h : ∀ q ∈ rules, q.1 ≠ p.1) :
    Interchangeable (rules ++ [p]) (p :: rules) := by
  induction rules with
  | nil => exact .refl _
  | cons q rest ih =>
      have ht : Interchangeable (q :: (rest ++ [p])) (q :: p :: rest) := by
        simpa using (ih fun r hr => h r (List.mem_cons_of_mem q hr)).append [q] []
      exact .trans _ _ _ ht (.rel _ _ (.exchange [] rest (h q List.mem_cons_self)))

theorem interchangeable_insert {sorted : Rules} (h : Ascending.Strict Prod.fst sorted)
    (p : SiteId × AccessList) :
    Interchangeable (sorted ++ [p]) (Ascending.insert Prod.fst p sorted) := by
  induction sorted with
  | nil => exact .refl _
  | cons q rest ih =>
      have hq := List.pairwise_cons.mp h
      rw [Ascending.insert]
      split
      case isTrue hlt =>
        -- All rules are for later sites, so that the new one can be moved past them.
        refine interchangeable_moved fun r hr he => ?_
        rcases List.mem_cons.mp hr with rfl | hr
        · exact Std.lt_irrefl (he ▸ hlt)
        · exact Std.lt_irrefl (Std.lt_trans (he ▸ hlt) (hq.1 r hr))
      case isFalse hlt =>
        split
        case isTrue hgt => simpa using (ih hq.2).append [q] []
        case isFalse hgt =>
          have he : p.1 = q.1 := Std.le_antisymm (Std.not_lt.mp hgt) (Std.not_lt.mp hlt)
          have hm : Interchangeable (rest ++ [p]) (p :: rest) := by
            refine interchangeable_moved fun r hr hs => ?_
            exact Std.lt_irrefl (he ▸ hs ▸ hq.1 r hr)
          exact .trans _ _ _ (.rel _ _ (.drop [] (rest ++ [p]) (by simp) he)) hm

theorem interchangeable_entries (rules : Rules) : Interchangeable rules (ofList rules).entries := by
  suffices h : ∀ sorted : Rules, Ascending.Strict Prod.fst sorted →
      Interchangeable (sorted ++ rules)
        (rules.foldl (fun sorted p => Ascending.insert Prod.fst p sorted) sorted) from
    h [] List.Pairwise.nil
  induction rules with
  | nil =>
      intro sorted _
      rw [List.append_nil]
      exact .refl _
  | cons p rest ih =>
      intro sorted hs
      have hp : Interchangeable (sorted ++ p :: rest)
          (Ascending.insert Prod.fst p sorted ++ rest) := by
        simpa using (interchangeable_insert hs p).append [] rest
      exact .trans _ _ _ hp (ih _ (Ascending.strict_insert hs))

theorem ofList_eq_iff_interchangeable :
    ofList rules = ofList other ↔ Interchangeable rules other := by
  constructor
  · intro h
    have ho := interchangeable_entries other
    rw [← h] at ho
    exact .trans _ _ _ (interchangeable_entries rules) (.symm _ _ ho)
  · intro h
    induction h with
    | rel rules other h => exact ofList_eq_of_immaterial h
    | refl rules => rfl
    | symm rules other _ ih => exact ih.symm
    | trans rules middle other _ _ ih ih' => exact ih.trans ih'

end interchange

def IsLast (rules : Rules) (site : SiteId) (a : AccessList) : Prop :=
  ∃ before after, rules = before ++ (site, a) :: after ∧ ∀ p ∈ after, p.1 ≠ site

/-- A snapshot that holds the last rule for every site, each once, and nothing else. -/
structure HoldsLast (rules : Rules) (s : Snapshot) : Prop where
  get?_eq_some_iff : ∀ site a, s.get? site = some a ↔ IsLast rules site a
  get?_eq_none_iff : ∀ site, s.get? site = none ↔ ∀ p ∈ rules, p.1 ≠ site
  mem_entries_iff : ∀ site a, (site, a) ∈ s.entries ↔ IsLast rules site a
  nodup : (s.entries.map Prod.fst).Nodup
  size_eq : s.size = (rules.map Prod.fst).toFinset.card
  isEmpty_iff : s.isEmpty = true ↔ rules = []

theorem holdsLast_ofList (rules : Rules) : HoldsLast rules (ofList rules) where
  get?_eq_some_iff _ _ := get?_ofList_eq_some_iff
  get?_eq_none_iff _ := get?_ofList_eq_none_iff
  mem_entries_iff _ _ := (mem_entries_iff _).trans get?_ofList_eq_some_iff
  nodup := nodup_sites _
  size_eq := size_ofList rules
  isEmpty_iff := isEmpty_ofList

/-- A snapshot of a list of rules holds the last one for every site. It is told by what it has for
each site, so that changes of the list that do not count lead to the same snapshot, and no others;
and its own entries lead back to it in any order. -/
theorem told_by_sites :
    (∀ rules : Rules, HoldsLast rules (ofList rules)) ∧
    (∀ rules other : Rules, ofList rules = ofList other ↔
      ∀ site, (ofList rules).get? site = (ofList other).get? site) ∧
    (∀ rules other : Rules, ofList rules = ofList other ↔ Interchangeable rules other) ∧
    ∀ (s : Snapshot) (rules : Rules), rules.Perm s.entries → ofList rules = s := by
  refine ⟨holdsLast_ofList, fun rules other => ⟨fun h site => ?_, ext_get?⟩, fun rules other => ?_,
    fun s rules h => ofList_of_perm h⟩
  · rw [h]
  · exact ofList_eq_iff_interchangeable

def fourRules : Rules := [(6, .block [7]), (5, .allow [8]), (-6, .block []), (5, .allow [8, 7])]

theorem fourRules_taken_backwards :
    [(6, AccessList.block [7]), (5, .allow [7, 8]), (-6, .block [])].Perm (ofList fourRules).entries ∧
      ofList [(6, .block [7]), (5, .allow [7, 8]), (-6, .block [])] = ofList fourRules := by
  have h : [(6, AccessList.block [7]), (5, .allow [7, 8]), (-6, .block [])].Perm
      (ofList fourRules).entries := by decide
  exact ⟨h, told_by_sites.2.2.2 _ _ h⟩

-- The first list for site 5 is gone, and a list that blocks nothing still counts.
example : (ofList fourRules).size = 3 ∧ (ofList fourRules).get? (-6) = some (.block []) ∧
    (ofList fourRules).get? 7 = none := by decide

end Snapshot

end SiteAccess
