import Mathlib.Data.List.Chain
import SiteAccess.Proofs.Service.Account

namespace SiteAccess.Service

structure Entry where
  before : Service
  call : Call
  answer : Answer
  events : List Event

def trail (t : Service) : List Call → List Entry
  | [] => []
  | c :: cs => ⟨t, c, (t.step c).value.2, (t.step c).log⟩ :: (t.step c).value.1.trail cs

theorem map_call_trail (t : Service) (cs : List Call) : (t.trail cs).map Entry.call = cs := by
  induction cs generalizing t with
  | nil => rfl
  | cons c cs ih => exact congrArg _ (ih (t.step c).value.1)

theorem log_run (t : Service) (cs : List Call) :
    (t.run cs).log = (t.trail cs).flatMap Entry.events := by
  induction cs generalizing t with
  | nil => rfl
  | cons c cs ih => exact congrArg _ (ih (t.step c).value.1)

theorem accounted_trail (t : Service) (cs : List Call) {e : Entry} (h : e ∈ t.trail cs) :
    Accounted e.before e.call e.answer e.events := by
  induction cs generalizing t with
  | nil => cases h
  | cons c cs ih =>
      rcases List.mem_cons.mp h with rfl | h
      · exact t.accounted_step c
      · exact ih _ h

theorem allowed_log (t : Service) (cs : List Call) :
    (t.run cs).log.filterMap Event.allowed? =
      (t.trail cs).filterMap fun e => e.answer.allowed? := by
  induction cs generalizing t with
  | nil => rfl
  | cons c cs ih =>
      have hc := (t.accounted_step c).allowed_eq
      calc (t.run (c :: cs)).log.filterMap Event.allowed?
        _ = (t.step c).log.filterMap Event.allowed? ++
              ((t.step c).value.1.run cs).log.filterMap Event.allowed? := List.filterMap_append
        _ = (t.step c).value.2.allowed?.toList ++
              ((t.step c).value.1.trail cs).filterMap fun e => e.answer.allowed? := by rw [hc, ih]
        _ = (t.trail (c :: cs)).filterMap fun e => e.answer.allowed? := by
          rw [trail, List.filterMap_cons]
          cases (t.step c).value.2.allowed? <;> rfl

section versions

variable {t : Service} {c : Call}

def Call.publisher? : Call → Option Nat
  | .publisher i _ => some i
  | _ => none

def Entry.versions (i : Nat) (e : Entry) : List UInt64 :=
  if e.call.publisher? = some i then e.events.filterMap Event.version? else []

/-- The versions that the log has of one publisher. -/
def versions (t : Service) (i : Nat) (cs : List Call) : List UInt64 :=
  (t.trail cs).flatMap (Entry.versions i)

def version? (t : Service) (i : Nat) : Option UInt64 :=
  t.publishers[i]?.map fun p => p.publisher.version

theorem version_answer (p : Publisher.Session) (s : Snapshot) (r : Request) :
    (p.answer s r).log.filterMap Event.version? = [] := by
  rw [Publisher.Session.answer, Snapshot.ask]
  cases r.requester <;> rfl

theorem version_publisher (p : Publisher.Session) (step : Publisher.Step) :
    (p.step step).value.1.publisher.version = p.publisher.version + 1 ∧
      (p.step step).log.filterMap Event.version? = [p.publisher.version + 1] ∨
    (p.step step).value.1.publisher.version = p.publisher.version ∧
      (p.step step).log.filterMap Event.version? = [] := by
  cases step with
  | publish s => exact .inl ⟨rfl, rfl⟩
  | version | current | hold => exact .inr ⟨rfl, rfl⟩
  | republish name =>
      rw [Publisher.Session.step, Publisher.Session.withHeld]
      cases p.held.get? name with
      | none => exact .inr ⟨rfl, rfl⟩
      | some s => exact .inl ⟨rfl, rfl⟩
  | compare name =>
      rw [Publisher.Session.step, Publisher.Session.withHeld]
      cases p.held.get? name with
      | none | some => exact .inr ⟨rfl, rfl⟩
  | ask r held =>
      cases held with
      | none => exact .inr ⟨rfl, version_answer p _ r⟩
      | some name =>
          rw [Publisher.Session.step, Publisher.Session.withHeld]
          cases p.held.get? name with
          | none => exact .inr ⟨rfl, rfl⟩
          | some s => exact .inr ⟨rfl, version_answer p s r⟩

theorem publishers_enroll {ε : Type} (t : Service) (x : Except ε Operator) :
    (t.enroll x).publishers = t.publishers := by
  cases x <;> rfl

/-- Publishers are not closed, and change by their own steps only. -/
theorem publishers_step (h : c.publisher? = none) :
    t.publishers <+: (t.step c).value.1.publishers := by
  cases c with
  | publisher => cases h
  | openPublisher initial => exact List.prefix_append _ _
  | operator i s =>
      rw [Service.step]
      cases t.operators[i]? with
      | none | some => exact List.prefix_rfl
  | load | readRecord | readText =>
      simp only [Service.step, Logged.value_bind, Logged.value_pure, publishers_enroll]
      exact List.prefix_rfl
  | openOperator | ask | canAccess | roleSet | readRoleSet | accessList | readAccessList =>
      exact List.prefix_rfl

theorem version_step (t : Service) (c : Call) (i : Nat) :
    (∃ v, t.version? i = some v ∧ (t.step c).value.1.version? i = some (v + 1) ∧
      t.versions i [c] = [v + 1]) ∨
    (∀ v, t.version? i = some v → (t.step c).value.1.version? i = some v) ∧
      t.versions i [c] = [] := by
  simp only [versions, trail, List.flatMap_cons, List.flatMap_nil, List.append_nil, Entry.versions,
    version?]
  cases hc : c.publisher? with
  | none =>
      refine .inr ⟨fun v hv => ?_, rfl⟩
      obtain ⟨p, hp, rfl⟩ := Option.map_eq_some_iff.mp hv
      obtain ⟨later, hl⟩ := publishers_step (t := t) hc
      rw [← hl, List.getElem?_append_left (List.getElem?_eq_some_iff.mp hp).1, hp]
      rfl
  | some j =>
      cases c with
      | publisher k step =>
          obtain rfl : k = j := Option.some.inj hc
          rw [Service.step]
          cases hp : t.publishers[k]? with
          | none => exact .inr ⟨fun v hv => hv, by simp⟩
          | some p =>
              simp only [Logged.log_bind, Logged.value_bind, Logged.log_pure, Logged.value_pure,
                List.append_nil]
              by_cases hk : k = i
              · subst hk
                have hlt := (List.getElem?_eq_some_iff.mp hp).1
                simp only [List.getElem?_set_self hlt, hp, Option.map_some, if_true,
                  Option.some.injEq, exists_eq_left', forall_eq']
                exact version_publisher p step
              · simp [List.getElem?_set_ne hk, hk]
      | _ => cases hc

theorem isChain_versions (t : Service) (i : Nat) (cs : List Call) :
    ((t.version? i).toList ++ t.versions i cs).IsChain fun v w => w = v + 1 := by
  induction cs generalizing t with
  | nil => cases t.version? i <;> simp [versions, trail]
  | cons c cs ih =>
      have hi := ih (t.step c).value.1
      have hv : t.versions i (c :: cs) =
          t.versions i [c] ++ (t.step c).value.1.versions i cs := by
        simp [versions, trail]
      rw [hv]
      rcases t.version_step c i with ⟨v, hb, ha, hw⟩ | ⟨ha, hw⟩
      · rw [ha] at hi
        rw [hb, hw]
        exact List.isChain_cons_cons.mpr ⟨rfl, hi⟩
      · rw [hw]
        cases hb : t.version? i with
        | some v =>
            rw [ha v hb] at hi
            exact hi
        -- The publisher may have been opened by this very call.
        | none => exact hi.right_of_append

end versions

/-- The log says of every call what it came to, and nothing else. So the versions that it has of a
publisher follow one another, as numbers of 64 bits, and the answers to questions of access can be
read off it. -/
theorem log_is_trail (t : Service) (calls : List Call) :
    (t.trail calls).map Entry.call = calls ∧
    (t.run calls).log = (t.trail calls).flatMap Entry.events ∧
    (∀ e ∈ t.trail calls, Accounted e.before e.call e.answer e.events) ∧
    (∀ i, (t.versions i calls).IsChain fun v w => w = v + 1) ∧
    (t.run calls).log.filterMap Event.allowed? =
      (t.trail calls).filterMap fun e => e.answer.allowed? :=
  ⟨t.map_call_trail calls, t.log_run calls, fun _ => t.accounted_trail calls,
    fun i => (t.isChain_versions i calls).right_of_append, t.allowed_log calls⟩

def openingDay : List Call :=
  [.openPublisher none, .publisher 0 (.publish (.ofList [(5, .allow [7]), (5, .block [])])),
    .publisher 0 (.ask ⟨some 8, 5, .defaultDeny⟩ none), .publisher 0 .version,
    .load .standard .null, .canAccess .empty ⟨none, 5, .defaultAllow⟩]

theorem openingDay_accounted :
    (run ⟨[], []⟩ openingDay).log =
        [.published 1 1, .decided 8 5 ⟨true, .aclAllow⟩ .defaultDeny,
          .rejected (.malformedRecord "<record>" "expected object, found null"), .undecidable 5] ∧
      ∃ e ∈ trail ⟨[], []⟩ openingDay, e.events = [.published 1 1] ∧
        Accounted e.before e.call e.answer e.events := by
  refine ⟨by decide, _, List.mem_cons_of_mem _ List.mem_cons_self, by decide, ?_⟩
  exact (log_is_trail ⟨[], []⟩ openingDay).2.2.1 _ (List.mem_cons_of_mem _ List.mem_cons_self)

end SiteAccess.Service
