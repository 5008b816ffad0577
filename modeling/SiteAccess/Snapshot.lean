import SiteAccess.Collections
import SiteAccess.Log.Event

namespace SiteAccess

open Json

structure AccessList where
  /-- Listed sites are let in, and no others; if not set, it is the other way round. -/
  isAllowList : Bool
  sites : List SiteId
  ascending : Ascending.Strict id sites

namespace AccessList

theorem eq_of_fields {a b : AccessList} (hf : a.isAllowList = b.isAllowList)
    (hs : a.sites = b.sites) : a = b := by
  cases a; cases b; simp_all

instance : DecidableEq AccessList := fun a b =>
  if h : a.isAllowList = b.isAllowList ∧ a.sites = b.sites then .isTrue (eq_of_fields h.1 h.2)
  else .isFalse fun he => h ⟨he ▸ rfl, he ▸ rfl⟩

def ofSites (isAllowList : Bool) (sites : List SiteId) : AccessList :=
  ⟨isAllowList, Ascending.ofList id sites, Ascending.strict_ofList id sites⟩

def allow (sites : List SiteId) : AccessList := ofSites true sites

def block (sites : List SiteId) : AccessList := ofSites false sites

def admits (a : AccessList) (s : SiteId) : Bool := a.sites.contains s == a.isAllowList

def toJson (a : AccessList) : Json :=
  .obj [("is_allow_list", .bool a.isAllowList), ("access_list", .arr (a.sites.map SiteId.toJson))]

def names : List String := ["is_allow_list", "access_list"]

/-- Without the second field no sites are listed. -/
def ofDoc? (d : Doc) : Option AccessList :=
  match d.fields? names 1 with
  | some [some flag, none] => return ofSites (← flag.bool?) []
  | some [some flag, some sites] => return ofSites (← flag.bool?) (← sites.list? Doc.int32?)
  | _ => none

theorem mem_ofSites {flag : Bool} {sites : List SiteId} {s : SiteId} :
    s ∈ (ofSites flag sites).sites ↔ s ∈ sites := by
  have h := @Ascending.find?_ofList SiteId SiteId _ _ _ _ _ id _ s sites
  have hm : ∀ xs : List SiteId, s ∈ xs ↔ (xs.find? fun x => decide (id x = s)).isSome := by
    intro xs
    simp [List.find?_isSome]
  show s ∈ Ascending.ofList id sites ↔ s ∈ sites
  rw [hm (Ascending.ofList id sites)]
  simp only [Ascending.find?] at h
  rw [h, ← hm, List.mem_reverse]

theorem admits_ofSites (flag : Bool) (sites : List SiteId) (s : SiteId) :
    (ofSites flag sites).admits s = (decide (s ∈ sites) == flag) := by
  have h : (ofSites flag sites).sites.contains s = decide (s ∈ sites) := by
    rw [Bool.eq_iff_iff]
    simp [mem_ofSites]
  rw [admits, h]
  rfl

end AccessList

structure Snapshot where
  entries : List (SiteId × AccessList)
  ascending : Ascending.Strict Prod.fst entries

namespace Snapshot

theorem eq_of_entries {s t : Snapshot} (h : s.entries = t.entries) : s = t := by
  cases s; cases t; simp_all

instance : DecidableEq Snapshot := fun s t =>
  if h : s.entries = t.entries then .isTrue (eq_of_entries h) else .isFalse fun he => h (he ▸ rfl)

/-- Of several access lists for a site the last one counts. -/
def ofList (pairs : List (SiteId × AccessList)) : Snapshot :=
  ⟨Ascending.ofList Prod.fst pairs, Ascending.strict_ofList Prod.fst pairs⟩

def empty : Snapshot := ⟨[], List.Pairwise.nil⟩

def get? (s : Snapshot) (site : SiteId) : Option AccessList :=
  (Ascending.find? Prod.fst site s.entries).map Prod.snd

def size (s : Snapshot) : Nat := s.entries.length

def isEmpty (s : Snapshot) : Bool := s.entries.isEmpty

/-- A site's own keys are open to it whatever its access list says, and the fallback counts only
where there is no access list. -/
def decision (s : Snapshot) (requester keySite : SiteId) (fallback : Fallback) : Decision :=
  if requester = keySite then ⟨true, .sameSite⟩
  else match s.get? keySite with
    | none => ⟨fallback.allows, .noAclFallback⟩
    | some list => if list.admits requester then ⟨true, .aclAllow⟩ else ⟨false, .aclDeny⟩

def ask (s : Snapshot) (r : Request) : Logged (Except Fault Decision) := do
  match r.requester with
  | none =>
      Logged.emit (.undecidable r.keySite)
      return .error .noSite
  | some requester =>
      let d := s.decision requester r.keySite r.fallback
      Logged.emit (.decided requester r.keySite d r.fallback)
      return .ok d

def canAccess (s : Snapshot) (r : Request) : Logged (Except Fault Bool) := do
  return (← s.ask r).map Decision.allow

theorem get?_ofList (pairs : List (SiteId × AccessList)) (site : SiteId) :
    (ofList pairs).get? site = (pairs.reverse.find? fun p => p.1 = site).map Prod.snd := by
  simp [get?, ofList, Ascending.find?_ofList]

theorem ext_get? {s t : Snapshot} (h : ∀ site, s.get? site = t.get? site) : s = t := by
  refine eq_of_entries (Ascending.eq_of_find?_eq s.ascending t.ascending fun site => ?_)
  have hs := h site
  simp only [get?] at hs
  have key : ∀ (xs : List (SiteId × AccessList)) p, Ascending.find? Prod.fst site xs = some p →
      p.1 = site := fun xs p hp => by simpa using List.find?_some hp
  cases hf : Ascending.find? Prod.fst site s.entries with
  | none =>
      cases hg : Ascending.find? Prod.fst site t.entries with
      | none => rfl
      | some q => simp [hf, hg] at hs
  | some p =>
      cases hg : Ascending.find? Prod.fst site t.entries with
      | none => simp [hf, hg] at hs
      | some q =>
          simp only [hf, hg, Option.map_some, Option.some.injEq] at hs
          exact congrArg some (Prod.ext ((key _ p hf).trans (key _ q hg).symm) hs)

end Snapshot

end SiteAccess
