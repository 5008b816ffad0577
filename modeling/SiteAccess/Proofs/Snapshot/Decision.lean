import SiteAccess.Proofs.AccessList

namespace SiteAccess.Snapshot

abbrev Rules := List (SiteId × AccessList)

variable {rules : Rules} {site : SiteId}

theorem get?_ofList_eq_none_iff : (ofList rules).get? site = none ↔ ∀ p ∈ rules, p.1 ≠ site := by
  simp [get?_ofList]

theorem get?_ofList_eq_some_iff {a : AccessList} : (ofList rules).get? site = some a ↔
    ∃ before after, rules = before ++ (site, a) :: after ∧ ∀ p ∈ after, p.1 ≠ site := by
  rw [get?_ofList]
  exact find?_reverse_eq_some_iff

/-- What rules say to a site that asks for a key of a site. -/
inductive Decides (rules : Rules) (requester keySite : SiteId) (fallback : Fallback) :
    Decision → Prop
  | sameSite (h : requester = keySite) : Decides rules requester keySite fallback ⟨true, .sameSite⟩
  | noRule (h : requester ≠ keySite) (hn : ∀ p ∈ rules, p.1 ≠ keySite) :
      Decides rules requester keySite fallback ⟨fallback = .defaultAllow, .noAclFallback⟩
  | allowed {before after : Rules} {flag : Bool} {sites : List SiteId} (h : requester ≠ keySite)
      (hs : rules = before ++ (keySite, .ofSites flag sites) :: after)
      (hn : ∀ p ∈ after, p.1 ≠ keySite)
      (ha : requester ∈ sites ∧ flag = true ∨ requester ∉ sites ∧ flag = false) :
      Decides rules requester keySite fallback ⟨true, .aclAllow⟩
  | denied {before after : Rules} {flag : Bool} {sites : List SiteId} (h : requester ≠ keySite)
      (hs : rules = before ++ (keySite, .ofSites flag sites) :: after)
      (hn : ∀ p ∈ after, p.1 ≠ keySite)
      (hd : requester ∈ sites ∧ flag = false ∨ requester ∉ sites ∧ flag = true) :
      Decides rules requester keySite fallback ⟨false, .aclDeny⟩

theorem admits_ofSites_iff {flag : Bool} {sites : List SiteId} {s : SiteId} :
    (AccessList.ofSites flag sites).admits s = true ↔
      s ∈ sites ∧ flag = true ∨ s ∉ sites ∧ flag = false := by
  rw [AccessList.admits_ofSites]
  by_cases hs : s ∈ sites <;> cases flag <;> simp [hs]

theorem admits_ofSites_eq_false_iff {flag : Bool} {sites : List SiteId} {s : SiteId} :
    (AccessList.ofSites flag sites).admits s = false ↔
      s ∈ sites ∧ flag = false ∨ s ∉ sites ∧ flag = true := by
  rw [AccessList.admits_ofSites]
  by_cases hs : s ∈ sites <;> cases flag <;> simp [hs]

variable {requester keySite : SiteId} {fallback : Fallback} {d : Decision}

theorem decision_of_eq (s : Snapshot) (h : requester = keySite) :
    s.decision requester keySite fallback = ⟨true, .sameSite⟩ := by
  rw [decision, if_pos h]

theorem decision_of_none {s : Snapshot} (h : requester ≠ keySite) (hg : s.get? keySite = none) :
    s.decision requester keySite fallback = ⟨fallback = .defaultAllow, .noAclFallback⟩ := by
  rw [decision, if_neg h, hg]
  cases fallback <;> rfl

theorem decision_of_some {s : Snapshot} {a : AccessList} (h : requester ≠ keySite)
    (hg : s.get? keySite = some a) : s.decision requester keySite fallback =
      if a.admits requester then ⟨true, .aclAllow⟩ else ⟨false, .aclDeny⟩ := by
  rw [decision, if_neg h, hg]

theorem decides_decision (rules : Rules) (requester keySite : SiteId) (fallback : Fallback) :
    Decides rules requester keySite fallback
      ((ofList rules).decision requester keySite fallback) := by
  by_cases hk : requester = keySite
  · rw [decision_of_eq _ hk]
    exact .sameSite hk
  · cases hg : (ofList rules).get? keySite with
    | none =>
        rw [decision_of_none hk hg]
        exact .noRule hk (get?_ofList_eq_none_iff.mp hg)
    | some a =>
        rw [decision_of_some hk hg]
        obtain ⟨before, after, hs, hn⟩ := get?_ofList_eq_some_iff.mp hg
        rw [← a.ofSites_sites] at hs
        cases ha : a.admits requester with
        | true =>
            rw [← a.ofSites_sites, admits_ofSites_iff] at ha
            exact .allowed hk hs hn ha
        | false =>
            rw [← a.ofSites_sites, admits_ofSites_eq_false_iff] at ha
            exact .denied hk hs hn ha

theorem Decides.eq_decision (h : Decides rules requester keySite fallback d) :
    (ofList rules).decision requester keySite fallback = d := by
  cases h with
  | sameSite h => exact decision_of_eq _ h
  | noRule h hn => exact decision_of_none h (get?_ofList_eq_none_iff.mpr hn)
  | allowed h hs hn ha =>
      rw [decision_of_some h (get?_ofList_eq_some_iff.mpr ⟨_, _, hs, hn⟩),
        if_pos (admits_ofSites_iff.mpr ha)]
  | denied h hs hn hd =>
      rw [decision_of_some h (get?_ofList_eq_some_iff.mpr ⟨_, _, hs, hn⟩),
        admits_ofSites_eq_false_iff.mpr hd]
      rfl

theorem decision_eq_iff :
    (ofList rules).decision requester keySite fallback = d ↔
      Decides rules requester keySite fallback d := by
  constructor
  · rintro rfl
    exact decides_decision rules requester keySite fallback
  · exact Decides.eq_decision

/-- A request is refused just when its principal has no site, and otherwise decided by the rules;
the bare answer tells the same. -/
theorem ask_decides_by_rules (rules : Rules) (requester : Option SiteId) (keySite : SiteId)
    (fallback : Fallback) :
    (∀ e, ((ofList rules).ask ⟨requester, keySite, fallback⟩).value = .error e ↔
      requester = none ∧ e = .invalidArgument "principal has no site id") ∧
    (∀ d, ((ofList rules).ask ⟨requester, keySite, fallback⟩).value = .ok d ↔
      ∃ r, requester = some r ∧ Decides rules r keySite fallback d) ∧
    (∀ e, ((ofList rules).canAccess ⟨requester, keySite, fallback⟩).value = .error e ↔
      requester = none ∧ e = .invalidArgument "principal has no site id") ∧
    ∀ b, ((ofList rules).canAccess ⟨requester, keySite, fallback⟩).value = .ok b ↔
      ∃ r d, requester = some r ∧ Decides rules r keySite fallback d ∧ d.allow = b := by
  cases requester with
  | none => simp [canAccess, ask, Fault.noSite, Except.map, eq_comm]
  | some r => simp [canAccess, ask, Except.map, ← decision_eq_iff]

-- The second access list of a site replaces the first.
example : (ofList [(5, .allow [7]), (5, .block [7])]).decision 7 5 .defaultAllow =
    ⟨false, .aclDeny⟩ := by decide

/-- What two snapshots have for a site cannot be told apart by the answers to other sites. -/
inductive Alike (owner : SiteId) : Option AccessList → Option AccessList → Prop
  | absent : Alike owner none none
  | present {a b : AccessList} (h : ∀ r, r ≠ owner → a.admits r = b.admits r) :
      Alike owner (some a) (some b)

theorem Alike.refl (owner : SiteId) (found : Option AccessList) : Alike owner found found := by
  cases found with
  | none => exact .absent
  | some a => exact .present fun _ _ => rfl

theorem alike_ofSites {owner : SiteId} {flag : Bool} {sites sites' : List SiteId}
    (h : ∀ r, r ≠ owner → (r ∈ sites ↔ r ∈ sites')) :
    Alike owner (some (.ofSites flag sites)) (some (.ofSites flag sites')) := by
  apply Alike.present
  intro r hr
  simp only [AccessList.admits_ofSites, h r hr]

theorem exists_other (site : SiteId) : ∃ r : SiteId, r ≠ site := by
  by_cases h : site = 0
  · exact ⟨1, by rw [h]; decide⟩
  · exact ⟨0, fun he => h he.symm⟩

variable {s t : Snapshot} {requester keySite : SiteId} {fallback : Fallback}

theorem decision_eq_of_alike (h : Alike keySite (s.get? keySite) (t.get? keySite))
    (requester : SiteId) (fallback : Fallback) : s.decision requester keySite fallback =
      t.decision requester keySite fallback := by
  by_cases hk : requester = keySite
  · rw [decision_of_eq s hk, decision_of_eq t hk]
  · generalize hs : s.get? keySite = found at h
    generalize ht : t.get? keySite = found' at h
    cases h with
    | absent => rw [decision_of_none hk hs, decision_of_none hk ht]
    | present h => rw [decision_of_some hk hs, decision_of_some hk ht, h requester hk]

theorem ask_eq_of_alike {q : Request} (h : Alike q.keySite (s.get? q.keySite) (t.get? q.keySite)) :
    s.ask q = t.ask q := by
  have hd (r : SiteId) := decision_eq_of_alike h r q.fallback
  simp only [ask, hd]

theorem canAccess_eq_of_ask_eq {q : Request} (h : s.ask q = t.ask q) :
    s.canAccess q = t.canAccess q := by
  simp only [canAccess, h]

theorem value_canAccess (s : Snapshot) (requester keySite : SiteId) (fallback : Fallback) :
    (s.canAccess ⟨some requester, keySite, fallback⟩).value =
      .ok (s.decision requester keySite fallback).allow := rfl

theorem allow_of_none (h : requester ≠ keySite) (hg : s.get? keySite = none) :
    (s.decision requester keySite fallback).allow = decide (fallback = .defaultAllow) := by
  rw [decision_of_none h hg]

theorem allow_of_some {a : AccessList} (h : requester ≠ keySite) (hg : s.get? keySite = some a) :
    (s.decision requester keySite fallback).allow = a.admits requester := by
  rw [decision_of_some h hg]
  cases a.admits requester <;> rfl

theorem exists_answer_ne {a : AccessList} (hs : s.get? keySite = none)
    (ht : t.get? keySite = some a) :
    ∃ q : Request, q.keySite = keySite ∧ (s.canAccess q).value ≠ (t.canAccess q).value := by
  obtain ⟨r, hr⟩ := exists_other keySite
  -- The list answers whatever the fallback, and without a list the fallback is the answer.
  cases ha : a.admits r with
  | true =>
      refine ⟨⟨some r, keySite, .defaultDeny⟩, rfl, ?_⟩
      simp [value_canAccess, allow_of_none hr hs, allow_of_some hr ht, ha]
  | false =>
      refine ⟨⟨some r, keySite, .defaultAllow⟩, rfl, ?_⟩
      simp [value_canAccess, allow_of_none hr hs, allow_of_some hr ht, ha]

theorem alike_of_answers
    (h : ∀ q, (s.canAccess q).value = (t.canAccess q).value) (owner : SiteId) :
    Alike owner (s.get? owner) (t.get? owner) := by
  cases hs : s.get? owner with
  | none =>
      cases ht : t.get? owner with
      | none => exact .absent
      | some b =>
          obtain ⟨q, -, hq⟩ := exists_answer_ne hs ht
          exact absurd (h q) hq
  | some a =>
      cases ht : t.get? owner with
      | none =>
          obtain ⟨q, -, hq⟩ := exists_answer_ne ht hs
          exact absurd (h q).symm hq
      | some b =>
          -- Between two lists the fallback plays no part, so that any will do.
          apply Alike.present
          intro r hr
          have hq := h ⟨some r, owner, .defaultDeny⟩
          rw [value_canAccess, value_canAccess, allow_of_some hr hs, allow_of_some hr ht] at hq
          exact Except.ok.inj hq

/-- Answers agree on all requests just when every site has alike lists, and then so do reasons and
log. A change of one site's list shows on that site's keys only, a list always shows against none,
and a site's place on its own list never does. -/
theorem answers_agree_iff_alike (s t : Snapshot) :
    ((∀ q, (s.canAccess q).value = (t.canAccess q).value) ↔
      ∀ owner, Alike owner (s.get? owner) (t.get? owner)) ∧
    ((∀ q, (s.canAccess q).value = (t.canAccess q).value) ↔ ∀ q, s.ask q = t.ask q) ∧
    (∀ changed, (∀ site, site ≠ changed → s.get? site = t.get? site) →
      ∀ q, q.keySite ≠ changed → s.canAccess q = t.canAccess q ∧ s.ask q = t.ask q) ∧
    (∀ site a, s.get? site = none → t.get? site = some a →
      ∃ q, q.keySite = site ∧ (s.canAccess q).value ≠ (t.canAccess q).value) ∧
    ∀ owner flag sites sites', (∀ r, r ≠ owner → (r ∈ sites ↔ r ∈ sites')) →
      s.get? owner = some (.ofSites flag sites) → t.get? owner = some (.ofSites flag sites') →
      ∀ q, q.keySite = owner → s.canAccess q = t.canAccess q ∧ s.ask q = t.ask q := by
  refine ⟨⟨alike_of_answers, fun h q => ?_⟩, ⟨fun h q => ?_, fun h q => ?_⟩, ?_, ?_, ?_⟩
  · rw [canAccess_eq_of_ask_eq (ask_eq_of_alike (h q.keySite))]
  · exact ask_eq_of_alike (alike_of_answers h q.keySite)
  · rw [canAccess_eq_of_ask_eq (h q)]
  · intro changed h q hq
    have ha : s.ask q = t.ask q := ask_eq_of_alike (h q.keySite hq ▸ .refl _ _)
    exact ⟨canAccess_eq_of_ask_eq ha, ha⟩
  · intro site a hs ht
    exact exists_answer_ne hs ht
  · rintro owner flag sites sites' h hs ht q rfl
    have ha : s.ask q = t.ask q := by
      apply ask_eq_of_alike
      rw [hs, ht]
      exact alike_ofSites h
    exact ⟨canAccess_eq_of_ask_eq ha, ha⟩

def oneRule : Snapshot := ofList [(5, .allow [7])]

def ownerListed : Snapshot := ofList [(5, .allow [5, 7])]

theorem ownerListed_answers_as_oneRule :
    empty.get? 5 = none ∧ oneRule.get? 5 = some (.ofSites true [7]) ∧
      ownerListed.get? 5 = some (.ofSites true [5, 7]) ∧
      (∀ r : SiteId, r ≠ 5 → (r ∈ ([7] : List SiteId) ↔ r ∈ ([5, 7] : List SiteId))) ∧
      (∀ site, site ≠ 5 → empty.get? site = oneRule.get? site) ∧
      empty.canAccess ⟨some 7, 6, .defaultDeny⟩ = oneRule.canAccess ⟨some 7, 6, .defaultDeny⟩ ∧
      (∃ q : Request, q.keySite = 5 ∧ (empty.canAccess q).value ≠ (oneRule.canAccess q).value) ∧
      ∀ q : Request, q.keySite = 5 → oneRule.canAccess q = ownerListed.canAccess q := by
  have hn : empty.get? 5 = none := by decide
  have ho : oneRule.get? 5 = some (.ofSites true [7]) := by decide
  have hw : ownerListed.get? 5 = some (.ofSites true [5, 7]) := by decide
  have hs : ∀ r : SiteId, r ≠ 5 → (r ∈ ([7] : List SiteId) ↔ r ∈ ([5, 7] : List SiteId)) := by
    intro r hr
    simp [hr]
  have he : ∀ site, site ≠ 5 → empty.get? site = oneRule.get? site := by
    intro site h
    have hr : oneRule.get? site = none := get?_ofList_eq_none_iff.mpr (by simpa using h.symm)
    rw [hr]
    rfl
  refine ⟨hn, ho, hw, hs, he, ?_, ?_, fun q hq => ?_⟩
  · exact ((answers_agree_iff_alike empty oneRule).2.2.1 5 he _ (by decide)).1
  · exact (answers_agree_iff_alike empty oneRule).2.2.2.1 5 _ hn ho
  · exact ((answers_agree_iff_alike oneRule ownerListed).2.2.2.2 5 true [7] [5, 7] hs ho hw q hq).1

end SiteAccess.Snapshot
