import SiteAccess.Log.Event
import SiteAccess.Record.Defect

namespace SiteAccess

open Json

structure Settings where
  fallback : Fallback
  operatorType : OperatorType
  logFilter : String
  deriving DecidableEq

structure Overrides where
  fallback : Option Fallback
  operatorType : Option OperatorType
  logFilter : Option String
  deriving DecidableEq

namespace Settings

def standard : Settings := ⟨.defaultAllow, .privateOperator, "info"⟩

def names : List String := ["legacy_fallback", "default_operator_type", "log_filter"]

def toJson (s : Settings) : Json :=
  .obj [("legacy_fallback", s.fallback.toJson), ("default_operator_type", s.operatorType.toJson),
    ("log_filter", .str s.logFilter)]

def ofDoc? (d : Doc) : Option Settings :=
  match d.fields? names 3 with
  | some [some f, some t, some l] =>
      return ⟨← Fallback.ofDoc? f, ← OperatorType.ofDoc? t, ← l.string?⟩
  | _ => none

def layer (base : Settings) (o : Overrides) : Settings :=
  ⟨o.fallback.getD base.fallback, o.operatorType.getD base.operatorType,
    o.logFilter.getD base.logFilter⟩

end Settings

namespace Overrides

def empty : Overrides := ⟨none, none, none⟩

/-- The overrides that have the effect of `a` and after it `b`. -/
def overlay (a b : Overrides) : Overrides :=
  ⟨b.fallback.or a.fallback, b.operatorType.or a.operatorType, b.logFilter.or a.logFilter⟩

def toJson (o : Overrides) : Json :=
  .obj [("legacy_fallback", .option Fallback.toJson o.fallback),
    ("default_operator_type", .option OperatorType.toJson o.operatorType),
    ("log_filter", .option .str o.logFilter)]

def field? {α : Type} (value? : Doc → Option α) : Option Doc → Option (Option α)
  | none => some none
  | some d => d.nullable? value?

def ofDoc? (d : Doc) : Option Overrides :=
  match d.fields? Settings.names 3 with
  | some [f, t, l] =>
      return ⟨← field? Fallback.ofDoc? f, ← field? OperatorType.ofDoc? t, ← field? Doc.string? l⟩
  | _ => none

def fallbackVariable : String := "KEYAUTHZ_LEGACY_FALLBACK"

def operatorTypeVariable : String := "KEYAUTHZ_DEFAULT_OPERATOR_TYPE"

def logFilterVariable : String := "KEYAUTHZ_LOG"

def readVariable {α ε : Type} (name : String) (parse : String → Except ε α) (say : ε → String) :
    Option String → Logged (Option α)
  | none => pure none
  | some text =>
      match parse text with
      | .ok a => pure (some a)
      | .error e => do
          Logged.emit (.ignored name (say e))
          return none

def readFallback : Option String → Logged (Option Fallback) :=
  readVariable fallbackVariable Fallback.parse Fallback.unknownMessage

/-- Other than in a record, blanks around the name and its letter case do not matter. -/
def readOperatorType : Option String → Logged (Option OperatorType) :=
  readVariable operatorTypeVariable (fun text => OperatorType.parse (Text.upper (Text.trim text)))
    Record.Defect.message

/-- A blank filter is passed over in silence. -/
def readLogFilter (value : Option String) : Option String :=
  value.filter fun s => Text.trim s ≠ ""

def ofEnvironment (lookup : String → Option String) : Logged Overrides := do
  let fallback ← readFallback (lookup fallbackVariable)
  let operatorType ← readOperatorType (lookup operatorTypeVariable)
  return ⟨fallback, operatorType, readLogFilter (lookup logFilterVariable)⟩

end Overrides

namespace Settings

def ofEnvironment (lookup : String → Option String) : Logged Settings := do
  return standard.layer (← Overrides.ofEnvironment lookup)

@[simp] theorem layer_empty (s : Settings) : s.layer .empty = s := rfl

theorem layer_overlay (s : Settings) (a b : Overrides) :
    (s.layer a).layer b = s.layer (a.overlay b) := by
  rcases b with ⟨_ | _, _ | _, _ | _⟩ <;> rfl

end Settings

end SiteAccess
