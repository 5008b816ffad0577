import SiteAccess.Proofs.Snapshot.Decision

namespace SiteAccess

namespace AccessList

def enlist (a : AccessList) (x : SiteId) : AccessList := ofSites a.isAllowList (x :: a.sites)

variable {a : AccessList} {r x : SiteId}

theorem admits_of_mem (h : r ∈ a.sites) : a.admits r = a.isAllowList := by
  simp [admits, h]

theorem admits_of_not_mem (h : r ∉ a.sites) : a.admits r = !a.isAllowList := by
  simp [admits, h]

theorem mem_sites_enlist : r ∈ (a.enlist x).sites ↔ r = x ∨ r ∈ a.sites := by
  rw [enlist, mem_ofSites, List.mem_cons]

theorem admits_enlist_self (a : AccessList) (x : SiteId) :
    (a.enlist x).admits x = a.isAllowList :=
  admits_of_mem (mem_sites_enlist.mpr (.inl rfl))

theorem admits_enlist_of_ne (h : r ≠ x) : (a.enlist x).admits r = a.admits r := by
  have hm : r ∈ (a.enlist x).sites ↔ r ∈ a.sites := by simp [mem_sites_enlist, h]
  by_cases hr : r ∈ a.sites
  · rw [admits_of_mem (hm.mpr hr), admits_of_mem hr]
    rfl
  · rw [admits_of_not_mem (mt hm.mp hr), admits_of_not_mem hr]
    rfl

theorem admits_ne_enlist_iff :
    a.admits r ≠ (a.enlist x).admits r ↔ r = x ∧ x ∉ a.sites := by
  by_cases hr : r = x
  · subst hr
    rw [admits_enlist_self]
    by_cases hm : r ∈ a.sites
    · simp [admits_of_mem hm, hm]
    · simp [admits_of_not_mem hm, hm]
  · simp [admits_enlist_of_ne hr, hr]

end AccessList

namespace Snapshot

/-- The snapshot rebuilt with another access list for a site. -/
def put (s : Snapshot) (owner : SiteId) (a : AccessList) : Snapshot :=
  ofList (s.entries ++ [(owner, a)])

variable {s : Snapshot} {owner x requester keySite : SiteId} {a : AccessList} {fallback : Fallback}

theorem get?_put (s : Snapshot) (owner : SiteId) (a : AccessList) (site : SiteId) :
    (s.put owner a).get? site = if owner = site then some a else s.get? site := by
  have he : (s.entries.reverse.find? fun p => p.1 = site) = Ascending.find? Prod.fst site s.entries :=
    Ascending.find?_of_perm s.ascending s.entries.reverse_perm.symm site
  rw [put, get?_ofList, List.reverse_append, List.reverse_singleton, List.singleton_append,
    List.find?_cons]
  by_cases h : owner = site
  · simp [h]
  · simp [h, he, get?]

theorem get?_put_self (s : Snapshot) (owner : SiteId) (a : AccessList) :
    (s.put owner a).get? owner = some a := by
  rw [get?_put, if_pos rfl]

theorem decision_put_of_ne (h : keySite ≠ owner) :
    (s.put owner a).decision requester keySite fallback =
      s.decision requester keySite fallback := by
  apply decision_eq_of_alike
  rw [get?_put, if_neg h.symm]
  exact .refl keySite _

/-- What an access list decides on a site that it admits or not. -/
def ruling (admitted : Bool) : Decision :=
  if admitted then ⟨true, .aclAllow⟩ else ⟨false, .aclDeny⟩

theorem ruling_ne_iff {b c : Bool} : ruling b ≠ ruling c ↔ b ≠ c := by
  cases b <;> cases c <;> decide

theorem decision_eq_ruling (h : requester ≠ keySite) (hg : s.get? keySite = some a) :
    s.decision requester keySite fallback = ruling (a.admits requester) :=
  decision_of_some h hg

theorem decision_ne_put_iff (h : s.get? owner = some a) :
    s.decision requester keySite fallback ≠
        (s.put owner (a.enlist x)).decision requester keySite fallback ↔
      keySite = owner ∧ requester = x ∧ x ≠ owner ∧ x ∉ a.sites := by
  by_cases hk : keySite = owner
  · subst hk
    by_cases hr : requester = keySite
    · -- The owner's own requests pass by the list, so that it may be the owner that was added.
      rw [decision_of_eq s hr, decision_of_eq _ hr]
      constructor
      · exact fun hn => absurd rfl hn
      · rintro ⟨-, rfl, hx, -⟩
        exact absurd hr hx
    · rw [decision_eq_ruling hr h, decision_eq_ruling hr (get?_put_self ..), ruling_ne_iff,
        AccessList.admits_ne_enlist_iff]
      constructor
      · rintro ⟨rfl, hm⟩
        exact ⟨rfl, rfl, hr, hm⟩
      · rintro ⟨-, hx, -, hm⟩
        exact ⟨hx, hm⟩
  · simp [decision_put_of_ne hk, hk]

/-- The turn of an answer to a site that is put on a list that allows, or on one that blocks. -/
inductive Turns : Bool → Decision → Decision → Prop
  | allowed : Turns true ⟨false, .aclDeny⟩ ⟨true, .aclAllow⟩
  | blocked : Turns false ⟨true, .aclAllow⟩ ⟨false, .aclDeny⟩

theorem turns_put (h : s.get? owner = some a) (hx : x ≠ owner) (hm : x ∉ a.sites) :
    Turns a.isAllowList (s.decision x owner fallback)
      ((s.put owner (a.enlist x)).decision x owner fallback) := by
  rw [decision_eq_ruling hx h, decision_eq_ruling hx (get?_put_self ..),
    AccessList.admits_of_not_mem hm, AccessList.admits_enlist_self]
  cases a.isAllowList with
  | true => exact .allowed
  | false => exact .blocked

theorem decision_ne_fallback_iff :
    s.decision requester keySite .defaultDeny ≠ s.decision requester keySite .defaultAllow ↔
      requester ≠ keySite ∧ s.get? keySite = none := by
  by_cases hr : requester = keySite
  · rw [decision_of_eq s hr, decision_of_eq s hr]
    simp [hr]
  · cases hg : s.get? keySite with
    | none => simp [decision_of_none hr hg, hr]
    | some a => simp [decision_of_some hr hg]

theorem value_ask_ne_iff {t : Snapshot} {requester : Option SiteId} {fallback' : Fallback} :
    (s.ask ⟨requester, keySite, fallback⟩).value ≠ (t.ask ⟨requester, keySite, fallback'⟩).value ↔
      ∃ r, requester = some r ∧
        s.decision r keySite fallback ≠ t.decision r keySite fallback' := by
  cases requester <;> simp [ask]

/-- One more site on an access list turns the answers to that site on the owner's keys, unless it
was listed before or is the owner: a list that allows lets it in from then on, one that blocks keeps
it out. To allow by default instead of denying lets other sites in where there is no list. -/
theorem answer_changes_iff :
    (∀ {s : Snapshot} {owner : SiteId} {a : AccessList}, s.get? owner = some a →
      ∀ (x : SiteId) (q : Request),
        ((s.ask q).value ≠ ((s.put owner (a.enlist x)).ask q).value ↔
          q.keySite = owner ∧ q.requester = some x ∧ x ≠ owner ∧ x ∉ a.sites) ∧
        ((s.ask q).value ≠ ((s.put owner (a.enlist x)).ask q).value →
          ∃ d e, (s.ask q).value = .ok d ∧ ((s.put owner (a.enlist x)).ask q).value = .ok e ∧
            Turns a.isAllowList d e)) ∧
    ∀ (s : Snapshot) (requester : Option SiteId) (keySite : SiteId),
      ((s.ask ⟨requester, keySite, .defaultDeny⟩).value ≠
          (s.ask ⟨requester, keySite, .defaultAllow⟩).value ↔
        ∃ r, requester = some r ∧ r ≠ keySite ∧ s.get? keySite = none) ∧
      ((s.ask ⟨requester, keySite, .defaultDeny⟩).value ≠
          (s.ask ⟨requester, keySite, .defaultAllow⟩).value →
        (s.ask ⟨requester, keySite, .defaultDeny⟩).value = .ok ⟨false, .noAclFallback⟩ ∧
        (s.ask ⟨requester, keySite, .defaultAllow⟩).value = .ok ⟨true, .noAclFallback⟩) := by
  constructor
  · rintro s owner a h x ⟨requester, keySite, fallback⟩
    rw [value_ask_ne_iff]
    simp only [decision_ne_put_iff h]
    constructor
    · constructor
      · rintro ⟨r, rfl, hk, rfl, hx, hm⟩
        exact ⟨hk, rfl, hx, hm⟩
      · rintro ⟨hk, hr, hx, hm⟩
        exact ⟨x, hr, hk, rfl, hx, hm⟩
    · rintro ⟨r, rfl, rfl, rfl, hx, hm⟩
      exact ⟨_, _, rfl, rfl, turns_put h hx hm⟩
  · intro s requester keySite
    simp only [value_ask_ne_iff, decision_ne_fallback_iff, true_and]
    rintro ⟨r, rfl, hr, hg⟩
    simp only [ask, decision_of_none hr hg]
    exact ⟨rfl, rfl⟩

def twoLists : Snapshot := ofList [(6, .block [7]), (5, .allow [8, 7])]

theorem nine_enlisted_twice :
    twoLists.get? 5 = some (.allow [7, 8]) ∧ twoLists.get? 6 = some (.block [7]) ∧
      ((twoLists.ask ⟨some 9, 5, .defaultAllow⟩).value ≠
        ((twoLists.put 5 ((AccessList.allow [7, 8]).enlist 9)).ask
          ⟨some 9, 5, .defaultAllow⟩).value) ∧
      ((twoLists.ask ⟨some 9, 6, .defaultDeny⟩).value ≠
        ((twoLists.put 6 ((AccessList.block [7]).enlist 9)).ask ⟨some 9, 6, .defaultDeny⟩).value) ∧
      (twoLists.ask ⟨some 9, 7, .defaultDeny⟩).value ≠
        (twoLists.ask ⟨some 9, 7, .defaultAllow⟩).value := by
  have h5 : twoLists.get? 5 = some (.allow [7, 8]) := by decide
  have h6 : twoLists.get? 6 = some (.block [7]) := by decide
  have h7 : twoLists.get? 7 = none := by decide
  refine ⟨h5, h6, ?_, ?_, ?_⟩
  · exact (answer_changes_iff.1 h5 9 _).1.mpr ⟨rfl, rfl, by decide, by decide⟩
  · exact (answer_changes_iff.1 h6 9 _).1.mpr ⟨rfl, rfl, by decide, by decide⟩
  · exact (answer_changes_iff.2 twoLists (some 9) 7).1.mpr ⟨9, rfl, by decide, h7⟩

end Snapshot

end SiteAccess
