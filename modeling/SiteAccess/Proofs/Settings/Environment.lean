import SiteAccess.Proofs.Names
import SiteAccess.Settings

namespace SiteAccess

open Text

namespace Overrides

section reading

variable {α ε : Type} {Says : String → α → Prop} {value : Option String} {found : Option α} {below a : α}

/-- What becomes of a setting for the value of its variable. -/
inductive Takes (Says : String → α → Prop) (below : α) : Option String → α → Prop
  | absent : Takes Says below none below
  | replaced {text : String} {a : α} (h : Says text a) : Takes Says below (some text) a
  | kept {text : String} (h : ∀ a, ¬ Says text a) : Takes Says below (some text) below

inductive Warns (Says : String → α → Prop) (name : String) (reason : String → String) :
    Option String → List Event → Prop
  | absent : Warns Says name reason none []
  | understood {text : String} {a : α} (h : Says text a) : Warns Says name reason (some text) []
  | ignored {text : String} {e : Event} (h : ∀ a, ¬ Says text a) (hl : e.level = .warn)
      (ht : e.target = "keyauthz::config")
      (hm : e.message = "ignoring " ++ name ++ ": " ++ reason text) (hd : e.details = []) :
      Warns Says name reason (some text) [e]

def Finds (Says : String → α → Prop) (value : Option String) (found : Option α) : Prop :=
  ∀ a, found = some a ↔ ∃ text, value = some text ∧ Says text a

theorem Finds.takes (h : Finds Says value found) : Takes Says below value (found.getD below) := by
  cases found with
  | some a =>
      obtain ⟨text, rfl, hs⟩ := (h a).mp rfl
      exact .replaced hs
  | none =>
      cases value with
      | none => exact .absent
      | some text =>
          refine .kept fun a hs => ?_
          cases (h a).mpr ⟨text, rfl, hs⟩

theorem Finds.eq_none (h : Finds Says value found)
    (hn : ∀ text, value = some text → ∀ a, ¬ Says text a) : found = none := by
  refine Option.eq_none_iff_forall_ne_some.mpr fun a ha => ?_
  obtain ⟨text, hv, hs⟩ := (h a).mp ha
  exact hn text hv a hs

theorem Finds.getD_eq_iff (h : Finds Says value found) :
    found.getD below = a ↔ Takes Says below value a := by
  constructor
  · rintro rfl
    exact h.takes
  · intro ht
    cases ht with
    | absent => rw [h.eq_none nofun, Option.getD_none]
    | @replaced text _ hs => rw [(h a).mpr ⟨text, rfl, hs⟩, Option.getD_some]
    | @kept text hn =>
        have hv : ∀ t, some text = some t → ∀ a, ¬ Says t a := by
          rintro _ ⟨⟩
          exact hn
        rw [h.eq_none hv, Option.getD_none]

variable {name : String} {parse : String → Except ε α} {say : ε → String} {reason : String → String}

theorem finds_readVariable (hs : ∀ text a, parse text = .ok a ↔ Says text a) :
    Finds Says value (readVariable name parse say value).value := by
  intro a
  cases value with
  | none => simp [readVariable]
  | some text =>
      cases hp : parse text with
      | ok b => simp [readVariable, hp, ← hs]
      | error e => simp [readVariable, hp, ← hs]

theorem warns_readVariable (hs : ∀ text a, parse text = .ok a ↔ Says text a)
    (hr : ∀ text e, parse text = .error e → say e = reason text) :
    Warns Says name reason value (readVariable name parse say value).log := by
  cases value with
  | none => exact .absent
  | some text =>
      rw [readVariable]
      cases hp : parse text with
      | ok a => exact .understood ((hs text a).mp hp)
      | error e =>
          have hn : ∀ a, ¬ Says text a := by
            intro a ha
            rw [(hs text a).mpr ha] at hp
            cases hp
          refine .ignored hn rfl rfl ?_ rfl
          rw [← hr text e hp]
          rfl

end reading

section readers

variable (value : Option String)

theorem finds_readFallback : Finds Fallback.CallsFor value (readFallback value).value :=
  finds_readVariable fun _ _ => Fallback.parse_eq_ok_iff

theorem finds_readOperatorType :
    Finds OperatorType.CallsFor value (readOperatorType value).value :=
  finds_readVariable fun _ _ => OperatorType.parse_upper_eq_ok_iff

theorem warns_readFallback : Warns Fallback.CallsFor "KEYAUTHZ_LEGACY_FALLBACK"
    (fun text => "unknown legacy fallback '" ++ lower (trim text) ++ "'") value
    (readFallback value).log := by
  refine warns_readVariable (fun _ _ => Fallback.parse_eq_ok_iff) fun text e h => ?_
  rw [Fallback.parse_error h]
  rfl

theorem warns_readOperatorType : Warns OperatorType.CallsFor "KEYAUTHZ_DEFAULT_OPERATOR_TYPE"
    (fun text => "unknown operator type '" ++ upper (trim text) ++ "'") value
    (readOperatorType value).log := by
  refine warns_readVariable (fun _ _ => OperatorType.parse_upper_eq_ok_iff) fun text e h => ?_
  rw [OperatorType.parse_error h]
  rfl

def IsFilter (text filter : String) : Prop :=
  filter = text ∧ ∃ c ∈ text.toList, isBlank c = false

theorem finds_readLogFilter : Finds IsFilter value (readLogFilter value) := by
  intro filter
  have ht : trim filter ≠ "" ↔ ∃ c ∈ filter.toList, isBlank c = false := by
    rw [ne_eq, trim_eq_empty_iff]
    simp
  rw [readLogFilter, Option.filter_eq_some_iff, decide_eq_true_iff, ht]
  constructor
  · rintro ⟨hv, hc⟩
    exact ⟨filter, hv, rfl, hc⟩
  · rintro ⟨_, hv, rfl, hc⟩
    exact ⟨hv, hc⟩

end readers

end Overrides

namespace Settings

open Overrides

/-- Settings of which each field follows its own variable, with the warnings in their order. -/
structure Follows (lookup : String → Option String) (base settings : Settings)
    (log : List Event) : Prop where
  fallback : ∀ f, settings.fallback = f ↔
    Takes Fallback.CallsFor base.fallback (lookup "KEYAUTHZ_LEGACY_FALLBACK") f
  operatorType : ∀ t, settings.operatorType = t ↔
    Takes OperatorType.CallsFor base.operatorType (lookup "KEYAUTHZ_DEFAULT_OPERATOR_TYPE") t
  logFilter : ∀ l, settings.logFilter = l ↔
    Takes IsFilter base.logFilter (lookup "KEYAUTHZ_LOG") l
  warnings : ∃ first second, log = first ++ second ∧
    Warns Fallback.CallsFor "KEYAUTHZ_LEGACY_FALLBACK"
      (fun text => "unknown legacy fallback '" ++ lower (trim text) ++ "'")
      (lookup "KEYAUTHZ_LEGACY_FALLBACK") first ∧
    Warns OperatorType.CallsFor "KEYAUTHZ_DEFAULT_OPERATOR_TYPE"
      (fun text => "unknown operator type '" ++ upper (trim text) ++ "'")
      (lookup "KEYAUTHZ_DEFAULT_OPERATOR_TYPE") second

theorem follows_ofEnvironment (lookup : String → Option String) (base : Settings) :
    Follows lookup base (base.layer (Overrides.ofEnvironment lookup).value)
      (Overrides.ofEnvironment lookup).log where
  fallback _ := (finds_readFallback _).getD_eq_iff
  operatorType _ := (finds_readOperatorType _).getD_eq_iff
  logFilter _ := (finds_readLogFilter _).getD_eq_iff
  warnings := by
    refine ⟨_, _, ?_, warns_readFallback _, warns_readOperatorType _⟩
    rw [Overrides.ofEnvironment, Logged.log_bind, Logged.log_bind, Logged.log_pure, List.append_nil]
    rfl

/-- An environment that has one variable of another. -/
def exchanged (name : String) (lookup other : String → Option String) : String → Option String :=
  fun n => if n = name then lookup n else other n

/-- Every field follows its own variable and no other one, whatever that holds, and what is not
understood is left out with a warning, a blank filter without one. -/
theorem fields_follow_variables (lookup : String → Option String) (base : Settings) :
    Follows lookup base (base.layer (Overrides.ofEnvironment lookup).value)
      (Overrides.ofEnvironment lookup).log ∧
    ∀ other : String → Option String,
      (base.layer (Overrides.ofEnvironment
        (exchanged "KEYAUTHZ_LEGACY_FALLBACK" lookup other)).value).fallback =
          (base.layer (Overrides.ofEnvironment lookup).value).fallback ∧
      (base.layer (Overrides.ofEnvironment
        (exchanged "KEYAUTHZ_DEFAULT_OPERATOR_TYPE" lookup other)).value).operatorType =
          (base.layer (Overrides.ofEnvironment lookup).value).operatorType ∧
      (base.layer (Overrides.ofEnvironment
        (exchanged "KEYAUTHZ_LOG" lookup other)).value).logFilter =
          (base.layer (Overrides.ofEnvironment lookup).value).logFilter := by
  refine ⟨follows_ofEnvironment lookup base, fun other => ⟨?_, ?_, ?_⟩⟩
  · rw [(follows_ofEnvironment _ base).fallback, exchanged, if_pos rfl]
    exact ((follows_ofEnvironment lookup base).fallback _).mp rfl
  · rw [(follows_ofEnvironment _ base).operatorType, exchanged, if_pos rfl]
    exact ((follows_ofEnvironment lookup base).operatorType _).mp rfl
  · rw [(follows_ofEnvironment _ base).logFilter, exchanged, if_pos rfl]
    exact ((follows_ofEnvironment lookup base).logFilter _).mp rfl

-- What calls for a fallback names no type of operators, and is no less a filter for that.
example : Overrides.ofEnvironment (fun _ => some " Deny\u00a0") =
    ⟨[.ignored "KEYAUTHZ_DEFAULT_OPERATOR_TYPE" "unknown operator type 'DENY'"],
      ⟨some .defaultDeny, none, some " Deny\u00a0"⟩⟩ := by rfl

end Settings

end SiteAccess
