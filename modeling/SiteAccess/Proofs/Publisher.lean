import Mathlib.Data.List.Induction
import SiteAccess.Publisher

namespace SiteAccess.Publisher

def made : Option Snapshot → Publisher
  | none => idle
  | some initial => new initial

def firstVersion : Option Snapshot → Nat
  | none => 0
  | some _ => 1

/-- An account of a run that is kept from its steps alone: what there was at first, what was
published since, the latest first, and what was current when a name was last given. -/
structure Ledger where
  first : Snapshot
  published : List Snapshot
  held : String → Option Snapshot

namespace Ledger

def current (l : Ledger) : Snapshot := l.published.headD l.first

def published? (l : Ledger) : Step → Option Snapshot
  | .publish s => some s
  | .republish name => l.held name
  | _ => none

def heldAfter (l : Ledger) : Step → String → Option Snapshot
  | .hold name, other => if name = other then some l.current else l.held other
  | _, other => l.held other

def enter (l : Ledger) (step : Step) : Ledger :=
  ⟨l.first, (l.published? step).toList ++ l.published, l.heldAfter step⟩

def ofSteps (initial : Option Snapshot) (steps : List Step) : Ledger :=
  steps.foldl enter ⟨initial.getD .empty, [], fun _ => none⟩

theorem ofSteps_append (initial : Option Snapshot) (before after : List Step) :
    ofSteps initial (before ++ after) = after.foldl enter (ofSteps initial before) :=
  List.foldl_append

theorem first_foldl (l : Ledger) (steps : List Step) : (steps.foldl enter l).first = l.first := by
  induction steps generalizing l with
  | nil => rfl
  | cons step steps ih => exact ih (l.enter step)

theorem length_published_foldl_le (l : Ledger) (steps : List Step) :
    l.published.length ≤ (steps.foldl enter l).published.length := by
  induction steps generalizing l with
  | nil => exact Nat.le_refl _
  | cons step steps ih =>
      apply Nat.le_trans _ (ih (l.enter step))
      simp [enter]

theorem held_foldl {name : String} {steps : List Step} (h : .hold name ∉ steps) (l : Ledger) :
    (steps.foldl enter l).held name = l.held name := by
  induction steps generalizing l with
  | nil => rfl
  | cons step steps ih =>
      simp only [List.mem_cons, not_or] at h
      rw [List.foldl_cons, ih h.2]
      cases step with
      | hold other =>
          have hne : other ≠ name := fun he => h.1 (he ▸ rfl)
          simp [enter, heldAfter, hne]
      | publish | republish | version | current | compare | ask => rfl

end Ledger

structure Matches (start : UInt64) (l : Ledger) (t : Session) : Prop where
  version : t.publisher.version = start + UInt64.ofNat l.published.length
  current : t.publisher.current = l.current
  held : ∀ name, t.held.get? name = l.held name

def Answer.returned? : Answer → Option UInt64
  | .published returned _ => some returned
  | _ => none

namespace Session

def answers (t : Session) : List Step → List Answer
  | [] => []
  | s :: ss => (t.step s).value.2 :: (t.step s).value.1.answers ss

def returned (t : Session) (steps : List Step) : List UInt64 :=
  (t.answers steps).filterMap Answer.returned?

theorem answers_append (t : Session) (before after : List Step) :
    t.answers (before ++ after) = t.answers before ++ (t.run before).value.answers after := by
  induction before generalizing t with
  | nil => rfl
  | cons s ss ih => exact congrArg _ (ih (t.step s).value.1)

theorem returned_append (t : Session) (before after : List Step) :
    t.returned (before ++ after) = t.returned before ++ (t.run before).value.returned after := by
  rw [returned, answers_append, List.filterMap_append]
  rfl

end Session

section step

variable {start : UInt64} {l : Ledger} {t : Session}

theorem withHeld_induction {P : Session × Answer → Prop} {name : String}
    {f : Snapshot → Logged (Session × Answer)} (hn : P (t, .unknown name))
    (hs : ∀ s, P (f s).value) : P (t.withHeld name f).value := by
  rw [Session.withHeld]
  split
  · exact hs _
  · exact hn

theorem step_publishes (hm : Matches start l t) {step : Step} {s : Snapshot}
    (h : l.published? step = some s) :
    (t.step step).value = (⟨⟨s, t.publisher.version + 1⟩, t.held⟩,
      .published (t.publisher.version + 1) ⟨s, t.publisher.version + 1⟩) := by
  cases step with
  | publish s' =>
      obtain rfl : s' = s := by simpa [Ledger.published?] using h
      rfl
  | republish name =>
      have hn : t.held.get? name = some s := (hm.held name).trans h
      rw [Session.step, Session.withHeld, hn]
      rfl
  | version | current | hold | compare | ask => cases h

theorem step_keeps (hm : Matches start l t) {step : Step} (h : l.published? step = none) :
    (t.step step).value.1.publisher = t.publisher ∧
      (t.step step).value.2.returned? = none := by
  cases step with
  | publish => cases h
  | republish name =>
      have hn : t.held.get? name = none := (hm.held name).trans h
      rw [Session.step, Session.withHeld, hn]
      exact ⟨rfl, rfl⟩
  | version | current | hold => exact ⟨rfl, rfl⟩
  | compare name =>
      rw [Session.step]
      exact withHeld_induction
        (P := fun r => r.1.publisher = t.publisher ∧ r.2.returned? = none) ⟨rfl, rfl⟩
        fun _ => ⟨rfl, rfl⟩
  | ask q on =>
      cases on with
      | none => exact ⟨rfl, rfl⟩
      | some name =>
          rw [Session.step]
          exact withHeld_induction
            (P := fun r => r.1.publisher = t.publisher ∧ r.2.returned? = none) ⟨rfl, rfl⟩
            fun _ => ⟨rfl, rfl⟩

theorem answer_ask_held {name : String} {s : Snapshot} (h : t.held.get? name = some s)
    (q : Request) : (t.step (.ask q (some name))).value.2 = .decision (s.ask q).value := by
  rw [Session.step, Session.withHeld, h]
  rfl

theorem held_step (hm : Matches start l t) (step : Step) (name : String) :
    (t.step step).value.1.held.get? name = l.heldAfter step name := by
  have hh := hm.held name
  cases step with
  | publish | version | current => exact hh
  | republish other | compare other =>
      rw [Session.step]
      exact withHeld_induction (P := fun r => r.1.held.get? name = l.held name) hh fun _ => hh
  | hold other =>
      change (t.held.put other t.publisher.current).get? name = _
      rw [Shelf.get?_put, hm.current, hh]
      rfl
  | ask q on =>
      cases on with
      | none => exact hh
      | some other =>
          rw [Session.step]
          exact withHeld_induction (P := fun r => r.1.held.get? name = l.held name) hh fun _ => hh

theorem Matches.enter (hm : Matches start l t) (step : Step) :
    Matches start (l.enter step) (t.step step).value.1 := by
  have hh := held_step hm step
  cases hp : l.published? step with
  | some s =>
      have hs := step_publishes hm hp
      refine ⟨?_, ?_, hh⟩
      · rw [hs, hm.version]
        simp [Ledger.enter, hp, UInt64.add_assoc]
      · rw [hs]
        simp [Ledger.enter, Ledger.current, hp]
  | none =>
      have hs := (step_keeps hm hp).1
      refine ⟨?_, ?_, hh⟩
      · rw [hs, hm.version]
        simp [Ledger.enter, hp]
      · rw [hs, hm.current]
        simp [Ledger.enter, Ledger.current, hp]

theorem Matches.foldl (hm : Matches start l t) (steps : List Step) :
    Matches start (steps.foldl Ledger.enter l) (t.run steps).value := by
  induction steps generalizing l t with
  | nil => exact hm
  | cons step steps ih => exact ih (hm.enter step)

end step

def opened (initial : Option Snapshot) : Session := ⟨made initial, []⟩

theorem matches_opened (initial : Option Snapshot) (steps : List Step) :
    Matches (UInt64.ofNat (firstVersion initial)) (Ledger.ofSteps initial steps)
      ((opened initial).run steps).value := by
  apply Matches.foldl
  cases initial with
  | none => exact ⟨rfl, rfl, fun _ => rfl⟩
  | some s => exact ⟨rfl, rfl, fun _ => rfl⟩

theorem version_succ (initial : Option Snapshot) (steps : List Step) :
    ((opened initial).run steps).value.publisher.version + 1 =
      UInt64.ofNat
        (firstVersion initial + 1 + (Ledger.ofSteps initial steps).published.length) := by
  rw [(matches_opened initial steps).version, Nat.add_right_comm]
  simp [UInt64.ofNat_add]

/-- The versions returned follow one another, without a gap and up to the version of the end. -/
theorem returned_eq (initial : Option Snapshot) (steps : List Step) :
    (opened initial).returned steps =
      (List.range (Ledger.ofSteps initial steps).published.length).map
        fun i => UInt64.ofNat (firstVersion initial + 1 + i) := by
  -- The ledger of the steps before tells which version the last one returns.
  induction steps using List.reverseRecOn with
  | nil => rfl
  | append_singleton steps step ih =>
      have hm := matches_opened initial steps
      rw [Session.returned_append, ih, Ledger.ofSteps_append]
      cases hp : (Ledger.ofSteps initial steps).published? step with
      | some s =>
          have hr : ((opened initial).run steps).value.returned [step] =
              [((opened initial).run steps).value.publisher.version + 1] := by
            simp [Session.returned, Session.answers, step_publishes hm hp, Answer.returned?]
          rw [hr, version_succ]
          simp [Ledger.enter, hp, List.range_succ]
      | none =>
          have hr : ((opened initial).run steps).value.returned [step] = [] := by
            simp [Session.returned, Session.answers, (step_keeps hm hp).2]
          rw [hr]
          simp [Ledger.enter, hp]

section bounded

variable {initial : Option Snapshot} {steps : List Step}
  (h : firstVersion initial + (Ledger.ofSteps initial steps).published.length < UInt64.size)
include h

theorem toNat_version : ((opened initial).run steps).value.publisher.version.toNat =
    firstVersion initial + (Ledger.ofSteps initial steps).published.length := by
  rw [(matches_opened initial steps).version, ← UInt64.ofNat_add]
  exact UInt64.toNat_ofNat_of_lt h

theorem map_toNat_returned : ((opened initial).returned steps).map UInt64.toNat =
    List.range' (firstVersion initial + 1) (Ledger.ofSteps initial steps).published.length := by
  rw [returned_eq, List.range'_eq_map_range, List.map_map]
  apply List.map_congr_left
  intro i hi
  have hlt := List.mem_range.mp hi
  exact UInt64.toNat_ofNat_of_lt (by omega)

end bounded

theorem held_since (initial : Option Snapshot) (earlier : List Step) {later : List Step}
    {name : String} (h : .hold name ∉ later) :
    ((opened initial).run (earlier ++ .hold name :: later)).value.held.get? name =
      some ((opened initial).run earlier).value.publisher.current := by
  have he := matches_opened initial earlier
  rw [(matches_opened initial _).held, Ledger.ofSteps_append, List.foldl_cons,
    Ledger.held_foldl h, he.current]
  simp [Ledger.enter, Ledger.heldAfter]

/-- How a run from the making of a publisher stands after some steps, by the account of the steps.
Reports and questions change nothing, and each publishing step is answered with the version that
is reported from then on. A snapshot that was taken earlier, under a name that was not given again,
decides as it did and becomes current when it is published again. -/
structure Accounts (initial : Option Snapshot) (steps : List Step) (l : Ledger) (t : Session) :
    Prop where
  version : t.publisher.version.toNat = firstVersion initial + l.published.length
  version_eq_zero_iff : t.publisher.version = 0 ↔ initial = none ∧ l.published = []
  current : t.publisher.current = l.published.headD (initial.getD .empty)
  returned : ((opened initial).returned steps).map UInt64.toNat =
    List.range' (firstVersion initial + 1) l.published.length
  reports : (t.step .version).value.2 = .version t.publisher.version ∧
    (t.step .current).value.2 = .snapshot t.publisher.current
  publishes : ∀ step s, l.published? step = some s →
    ∃ next, (t.step step).value = (⟨next, t.held⟩, .published next.version next) ∧
      next.current = s ∧ next.version = t.publisher.version + 1
  keeps : ∀ step, l.published? step = none → (t.step step).value.1.publisher = t.publisher
  taken : ∀ earlier name later, steps = earlier ++ .hold name :: later → .hold name ∉ later →
    t.held.get? name = some ((opened initial).run earlier).value.publisher.current ∧
    (∀ q, (t.step (.ask q (some name))).value.2 =
      (((opened initial).run earlier).value.step (.ask q none)).value.2) ∧
    (t.step (.republish name)).value.1.publisher.current =
      ((opened initial).run earlier).value.publisher.current

/-- As long as versions do not run out, every part of a run accounts for what was done so far. -/
theorem run_accounts (initial : Option Snapshot) (steps : List Step)
    (h : firstVersion initial + (Ledger.ofSteps initial steps).published.length < UInt64.size) :
    ∀ before after, steps = before ++ after →
      Accounts initial before (Ledger.ofSteps initial before)
        ((opened initial).run before).value := by
  rintro before after rfl
  have hm := matches_opened initial before
  have hb : firstVersion initial + (Ledger.ofSteps initial before).published.length <
      UInt64.size := by
    rw [Ledger.ofSteps_append] at h
    have hl := (Ledger.ofSteps initial before).length_published_foldl_le after
    omega
  have hv := toNat_version hb
  refine ⟨hv, ?_, ?_, map_toNat_returned hb, ⟨rfl, rfl⟩, ?_, ?_, ?_⟩
  · rw [← UInt64.toNat_inj, hv]
    cases initial <;> simp [firstVersion]
  · rw [hm.current, Ledger.current, Ledger.ofSteps, Ledger.first_foldl]
  · intro step s hs
    exact ⟨⟨s, _⟩, step_publishes hm hs, rfl, rfl⟩
  · intro step hs
    exact (step_keeps hm hs).1
  · rintro earlier name later rfl hn
    have hh := held_since initial earlier hn
    have hp : (Ledger.ofSteps initial (earlier ++ .hold name :: later)).published?
        (.republish name) = some ((opened initial).run earlier).value.publisher.current :=
      (hm.held name).symm.trans hh
    refine ⟨hh, fun q => ?_, ?_⟩
    · exact answer_ask_held hh q
    · rw [step_publishes hm hp]

def reinstating : List Step :=
  [.publish (.ofList [(5, .allow [7])]), .hold "first", .publish .empty,
    .ask ⟨some 7, 5, .defaultDeny⟩ (some "first"), .republish "first", .version]

theorem reinstating_accounts :
    firstVersion none + (Ledger.ofSteps none reinstating).published.length < UInt64.size ∧
      Accounts none reinstating (Ledger.ofSteps none reinstating)
        ((opened none).run reinstating).value ∧
      ((opened none).run reinstating).value.publisher.version = 3 := by
  have h : firstVersion none + (Ledger.ofSteps none reinstating).published.length <
      UInt64.size := by decide
  exact ⟨h, run_accounts none reinstating h reinstating [] (List.append_nil _).symm, by decide⟩

end SiteAccess.Publisher
