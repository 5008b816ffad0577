import SiteAccess.Proofs.Operator.History
import SiteAccess.Proofs.Snapshot.Entries
import SiteAccess.Service

namespace SiteAccess

namespace Event

def version? : Event → Option UInt64
  | .published v _ => some v
  | _ => none

def allowed? (e : Event) : Option Bool :=
  match e.details.lookup "allow" with
  | some (.bool b) => some b
  | _ => none

end Event

namespace Service

/-- The snapshot that a call gives to a publisher. -/
def published? (t : Service) : Call → Option Snapshot
  | .publisher i (.publish s) => t.publishers[i]?.map fun _ => s
  | .publisher i (.republish name) => t.publishers[i]?.bind fun p => p.held.get? name
  | _ => none

/-- The snapshot that a call asks, and what it asks. -/
def asked? (t : Service) : Call → Option (Snapshot × Request)
  | .publisher i (.ask r none) => t.publishers[i]?.map fun p => (p.publisher.current, r)
  | .publisher i (.ask r (some name)) =>
      t.publishers[i]?.bind fun p => (p.held.get? name).map fun s => (s, r)
  | .operator i (.ask s keySite fallback) =>
      t.operators[i]?.map fun o => (s, .of o.operator keySite fallback)
  | .ask s r | .canAccess s r => some (s, r)
  | _ => none

namespace Answer

def version? : Answer → Option UInt64
  | .publisher (.published v _) => some v
  | _ => none

/-- An answer tells the outcome of a decision in full, or only if access is allowed. -/
inductive Tells (x : Except Fault Decision) : Answer → Prop
  | decision : Tells x (.decision x)
  | publisher : Tells x (.publisher (.decision x))
  | operator : Tells x (.operator (.decision x))
  | access : Tells x (.access (x.map Decision.allow))

def allowed? : Answer → Option Bool
  | .decision (.ok d) | .publisher (.decision (.ok d)) | .operator (.decision (.ok d)) =>
      some d.allow
  | .access (.ok b) => some b
  | _ => none

/-- What is wrong with a record that is rejected. A text that is no record, or that goes on after
one, is refused without that. -/
def rejection? : Answer → Option Fault
  | .loaded (.error f) | .read (.error (.fault f)) => some f
  | _ => none

variable {a : Answer}

theorem exists_published {v : UInt64} (h : a.version? = some v) :
    ∃ p, a = .publisher (.published v p) := by
  rw [version?.eq_def] at h
  split at h
  · obtain rfl := Option.some.inj h
    exact ⟨_, rfl⟩
  · cases h

theorem Tells.allowed_eq {x : Except Fault Decision} (h : a.Tells x) :
    a.allowed? = x.toOption.map Decision.allow := by
  cases h <;> cases x <;> rfl

theorem allowed_eq_none {f : Fault} (h : a.rejection? = some f) : a.allowed? = none := by
  rw [rejection?.eq_def] at h
  split at h
  · rfl
  · rfl
  · cases h

end Answer

/-- What is written to the log for a call that is answered in some way. -/
inductive Accounted (t : Service) (c : Call) (a : Answer) : List Event → Prop
  | published {s : Snapshot} {v : UInt64} {sites : List SiteId} {e : Event}
      (hp : t.published? c = some s) (ha : a.version? = some v)
      (hn : sites.Nodup) (hs : ∀ site, site ∈ sites ↔ (s.get? site).isSome)
      (hl : e.level = .info) (hv : e.version? = some v)
      (hd : e.details = [("version", .int v.toNat), ("sites", .int sites.length)]) :
      Accounted t c a [e]
  | decided {s : Snapshot} {r : Request} {requester : SiteId} {d : Decision} {e : Event}
      (hq : t.asked? c = some (s, r)) (hr : r.requester = some requester)
      (hs : s.decision requester r.keySite r.fallback = d) (ha : a.Tells (.ok d))
      (hl : e.level = .debug)
      (hd : e.details = [("requester", .int requester.toInt), ("key_site", .int r.keySite.toInt),
        ("allow", .bool d.allow), ("reason", .str d.reason.name),
        ("fallback", .str r.fallback.label)]) :
      Accounted t c a [e]
  | undecided {s : Snapshot} {r : Request} {e : Event}
      (hq : t.asked? c = some (s, r)) (hr : r.requester = none) (ha : a.Tells (.error .noSite))
      (hl : e.level = .warn) (hd : e.details = [("key_site", .int r.keySite.toInt)]) :
      Accounted t c a [e]
  | rejected {f : Fault} {e : Event} (ha : a.rejection? = some f) (hl : e.level = .warn)
      (hd : e.details = [("code", .str f.code), ("field", .str (f.field?.getD ""))])
      (hm : e.message = "rejected operator record: " ++ f.message) :
      Accounted t c a [e]
  | quiet (hp : t.published? c = none) (hq : t.asked? c = none) (hv : a.version? = none)
      (hd : a.allowed? = none) (hr : a.rejection? = none) :
      Accounted t c a []

variable {t : Service} {c : Call} {a : Answer} {s : Snapshot} {r : Request}

theorem accounted_published {v : UInt64} (hp : t.published? c = some s)
    (ha : a.version? = some v) : Accounted t c a [.published v s.size] := by
  refine .published hp ha s.nodup_sites s.mem_sites_iff rfl rfl ?_
  rw [s.length_sites, Event.details]

theorem accounted_asked (hq : t.asked? c = some (s, r)) (ha : a.Tells (s.ask r).value) :
    Accounted t c a ((s.ask r).log ++ []) := by
  rw [List.append_nil, Snapshot.ask]
  rw [Snapshot.ask] at ha
  cases hr : r.requester with
  | none =>
      rw [hr] at ha
      exact .undecided hq hr ha rfl rfl
  | some requester =>
      rw [hr] at ha
      exact .decided hq hr rfl ha rfl rfl

theorem accounted_rejection (hp : t.published? c = none) (hq : t.asked? c = none)
    (hv : a.version? = none) (hd : a.allowed? = none) :
    Accounted t c a (a.rejection?.toList.map .rejected) := by
  cases hr : a.rejection? with
  | none => exact .quiet hp hq hv hd hr
  | some f => exact .rejected hr rfl rfl rfl

theorem log_ofRecord (settings : Settings) (v : Json) : (Operator.ofRecord settings v).log =
    (Answer.loaded (Operator.ofRecord settings v).value).rejection?.toList.map .rejected := by
  rw [Operator.ofRecord]
  cases Record.load settings.operatorType v <;> rfl

theorem log_ofJson (v : Json) : (Operator.ofJson v).log =
    (Answer.read (Operator.ofJson v).value).rejection?.toList.map .rejected := by
  rw [Operator.ofJson, Operator.ofRecord]
  cases Record.load Settings.standard.operatorType v <;> rfl

theorem log_ofText (text : String) : (Operator.ofText text).log =
    (Answer.read (Operator.ofText text).value).rejection?.toList.map .rejected := by
  rw [Operator.ofText]
  rcases Json.Doc.ofText text with ⟨d, rest⟩
  dsimp only
  cases d.toJson? with
  | none => rfl
  | some record =>
      simp only [Logged.log_bind, Logged.value_bind, log_ofJson]
      cases (Operator.ofJson record).value with
      | error e => exact List.append_nil _
      | ok op => cases (Json.Doc.skipSpaces rest).isEmpty <;> rfl

theorem accounted_publisher {i : Nat} {p : Publisher.Session} (hp : t.publishers[i]? = some p)
    (step : Publisher.Step) :
    Accounted t (.publisher i step) (.publisher (p.step step).value.2) (p.step step).log := by
  cases step with
  | publish s =>
      have hs : t.published? (.publisher i (.publish s)) = some s := by simp [published?, hp]
      exact accounted_published hs rfl
  | version | current | hold => exact .quiet rfl rfl rfl rfl rfl
  | republish name =>
      rw [Publisher.Session.step, Publisher.Session.withHeld]
      cases hn : p.held.get? name with
      | none => exact .quiet (by simp [published?, hp, hn]) rfl rfl rfl rfl
      | some s => exact accounted_published (by simp [published?, hp, hn]) rfl
  | compare name =>
      rw [Publisher.Session.step, Publisher.Session.withHeld]
      cases p.held.get? name with
      | none | some => exact .quiet rfl rfl rfl rfl rfl
  | ask r held =>
      cases held with
      | none =>
          have hq : t.asked? (.publisher i (.ask r none)) = some (p.publisher.current, r) := by
            simp [asked?, hp]
          exact accounted_asked hq .publisher
      | some name =>
          rw [Publisher.Session.step, Publisher.Session.withHeld]
          cases hn : p.held.get? name with
          | none => exact .quiet rfl (by simp [asked?, hp, hn]) rfl rfl rfl
          | some s =>
              have hq : t.asked? (.publisher i (.ask r (some name))) = some (s, r) := by
                simp [asked?, hp, hn]
              exact accounted_asked hq .publisher

theorem accounted_operator {i : Nat} {o : Operator.Session} (ho : t.operators[i]? = some o)
    (step : Operator.Step) :
    Accounted t (.operator i step) (.operator (o.step step).value.2) (o.step step).log := by
  cases step with
  | edit e =>
      -- No edit is refused, so that writing out and reading in rejects nothing.
      rw [Operator.Session.step, Operator.edit_eq_after]
      exact .quiet rfl rfl rfl rfl rfl
  | hasRole | site | granted | render | save => exact .quiet rfl rfl rfl rfl rfl
  | restore name | compare name =>
      rw [Operator.Session.step, Operator.Session.withSaved]
      cases o.saved.get? name with
      | none | some => exact .quiet rfl rfl rfl rfl rfl
  | ask s keySite fallback =>
      have hq : t.asked? (.operator i (.ask s keySite fallback)) =
          some (s, .of o.operator keySite fallback) := by simp [asked?, ho]
      exact accounted_asked hq .operator

theorem quiet_without_publisher {i : Nat} (hp : t.publishers[i]? = none) (step : Publisher.Step) :
    t.published? (.publisher i step) = none ∧ t.asked? (.publisher i step) = none := by
  cases step with
  | publish | republish => exact ⟨by simp [published?, hp], rfl⟩
  | version | current | hold | compare => exact ⟨rfl, rfl⟩
  | ask r held => cases held <;> exact ⟨rfl, by simp [asked?, hp]⟩

theorem accounted_step (t : Service) (c : Call) :
    Accounted t c (t.step c).value.2 (t.step c).log := by
  cases c with
  | openPublisher | openOperator | roleSet | readRoleSet | accessList | readAccessList =>
      exact .quiet rfl rfl rfl rfl rfl
  | publisher i step =>
      rw [Service.step]
      cases hp : t.publishers[i]? with
      | none =>
          obtain ⟨hn, hq⟩ := quiet_without_publisher hp step
          exact .quiet hn hq rfl rfl rfl
      | some p => simpa using accounted_publisher hp step
  | operator i step =>
      rw [Service.step]
      cases ho : t.operators[i]? with
      | none =>
          have hq : t.asked? (.operator i step) = none := by cases step <;> simp [asked?, ho]
          exact .quiet rfl hq rfl rfl rfl
      | some o => simpa using accounted_operator ho step
  | load | readRecord | readText =>
      simp only [Service.step, Logged.log_bind, Logged.log_pure, List.append_nil, log_ofRecord,
        log_ofJson, log_ofText]
      exact accounted_rejection rfl rfl rfl rfl
  | ask s r => exact accounted_asked rfl .decision
  | canAccess s r =>
      have hq : t.asked? (.canAccess s r) = some (s, r) := rfl
      simpa [Service.step, Snapshot.canAccess] using accounted_asked hq .access

theorem Accounted.allowed_eq {es : List Event} (h : Accounted t c a es) :
    es.filterMap Event.allowed? = a.allowed?.toList := by
  cases h with
  | published hp ha hn hs hl hv hd =>
      obtain ⟨p, rfl⟩ := Answer.exists_published ha
      simp [Event.allowed?, hd, List.lookup_cons, Answer.allowed?]
  | decided hq hr hs ha hl hd | undecided hq hr ha hl hd =>
      simp [Event.allowed?, hd, List.lookup_cons, ha.allowed_eq, Except.toOption]
  | rejected ha hl hd hm =>
      simp [Event.allowed?, hd, List.lookup_cons, Answer.allowed_eq_none ha]
  | quiet hp hq hv hd hr => rw [hd]; rfl

end Service

end SiteAccess
