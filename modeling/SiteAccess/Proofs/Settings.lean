import SiteAccess.Proofs.Storage

namespace SiteAccess

open Json

theorem bind_three_eq_some_iff {α β γ δ : Type} {a? : Option α} {b? : Option β} {c? : Option γ}
    {build : α → β → γ → δ} {r : δ} :
    (do return build (← a?) (← b?) (← c?)) = some r ↔
      ∃ a b c, a? = some a ∧ b? = some b ∧ c? = some c ∧ build a b c = r := by
  cases a? <;> cases b? <;> cases c? <;> simp

namespace Settings

theorem ofDoc?_eq_some_iff {d : Doc} {s : Settings} : ofDoc? d = some s ↔
    ∃ f t l, d.fields? names 3 = some [some f, some t, some l] ∧
      Fallback.ofDoc? f = some s.fallback ∧ OperatorType.ofDoc? t = some s.operatorType ∧
      l.string? = some s.logFilter := by
  constructor
  · intro h
    rw [ofDoc?] at h
    split at h
    case h_1 f t l hd =>
      obtain ⟨fallback, type, filter, hf, ht, hl, rfl⟩ := bind_three_eq_some_iff.mp h
      exact ⟨f, t, l, hd, hf, ht, hl⟩
    case h_2 => cases h
  · rintro ⟨f, t, l, hd, hf, ht, hl⟩
    rw [ofDoc?, hd]
    exact bind_three_eq_some_iff.mpr ⟨_, _, _, hf, ht, hl, rfl⟩

end Settings

namespace Overrides

/-- A field of one layer laid over that of another. -/
inductive Covers {α : Type} : Option α → Option α → Option α → Prop
  | given (below : Option α) (a : α) : Covers (some a) below (some a)
  | inherited (below : Option α) : Covers none below below

theorem covers_or {α : Type} (above below : Option α) : Covers above below (above.or below) := by
  cases above with
  | none => exact .inherited below
  | some a => exact .given below a

theorem overlay_self (o : Overrides) : o.overlay o = o := by
  simp [overlay]

def full (s : Settings) : Overrides := ⟨some s.fallback, some s.operatorType, some s.logFilter⟩

def IsFull (o : Overrides) : Prop := o.fallback ≠ none ∧ o.operatorType ≠ none ∧ o.logFilter ≠ none

theorem exists_full {o : Overrides} (h : o.IsFull) : ∃ s, o = full s := by
  obtain ⟨f, hf⟩ := Option.ne_none_iff_exists'.mp h.1
  obtain ⟨t, ht⟩ := Option.ne_none_iff_exists'.mp h.2.1
  obtain ⟨l, hl⟩ := Option.ne_none_iff_exists'.mp h.2.2
  refine ⟨⟨f, t, l⟩, ?_⟩
  rw [full, ← hf, ← ht, ← hl]

theorem ofDoc?_eq_some_iff {d : Doc} {o : Overrides} : ofDoc? d = some o ↔
    ∃ f t l, d.fields? Settings.names 3 = some [f, t, l] ∧
      field? Fallback.ofDoc? f = some o.fallback ∧
      field? OperatorType.ofDoc? t = some o.operatorType ∧
      field? Doc.string? l = some o.logFilter := by
  constructor
  · intro h
    rw [ofDoc?] at h
    split at h
    case h_1 f t l hd =>
      obtain ⟨fallback, type, filter, hf, ht, hl, rfl⟩ := bind_three_eq_some_iff.mp h
      exact ⟨f, t, l, hd, hf, ht, hl⟩
    case h_2 => cases h
  · rintro ⟨f, t, l, hd, hf, ht, hl⟩
    rw [ofDoc?, hd]
    exact bind_three_eq_some_iff.mpr ⟨_, _, _, hf, ht, hl, rfl⟩

theorem field?_eq_some_some_iff {α : Type} {value? : Doc → Option α} (hn : value? .null = none)
    {m : Option Doc} {a : α} :
    field? value? m = some (some a) ↔ ∃ d, m = some d ∧ value? d = some a := by
  cases m with
  | none => simp [field?]
  | some d => cases d <;> simp [field?, Doc.nullable?, hn]

/-- The lenient reader finds every field just where the strict one finds settings. -/
theorem ofDoc?_eq_full_iff {d : Doc} {s : Settings} :
    ofDoc? d = some (full s) ↔ Settings.ofDoc? d = some s := by
  rw [ofDoc?_eq_some_iff, Settings.ofDoc?_eq_some_iff]
  have hf := @field?_eq_some_some_iff _ Fallback.ofDoc? rfl
  have ht := @field?_eq_some_some_iff _ OperatorType.ofDoc? rfl
  have hl := @field?_eq_some_some_iff _ Doc.string? rfl
  simp only [full, hf, ht, hl]
  constructor
  · rintro ⟨_, _, _, hd, ⟨f, rfl, hf⟩, ⟨t, rfl, ht⟩, ⟨l, rfl, hl⟩⟩
    exact ⟨f, t, l, hd, hf, ht, hl⟩
  · rintro ⟨f, t, l, hd, hf, ht, hl⟩
    exact ⟨some f, some t, some l, hd, ⟨f, rfl, hf⟩, ⟨t, rfl, ht⟩, ⟨l, rfl, hl⟩⟩

end Overrides

namespace Settings

open Overrides

@[simp] theorem layer_full (base s : Settings) : base.layer (full s) = s := rfl

structure ReadsAlike (settings? : Option Settings) (overrides? : Option Overrides) : Prop where
  overrides : ∀ s, settings? = some s →
    ∃ o, overrides? = some o ∧ ∀ base : Settings, base.layer o = s
  settings : ∀ o, overrides? = some o → o.IsFull →
    ∃ s, settings? = some s ∧ ∀ base : Settings, base.layer o = s

theorem readsAlike_of_full_iff {settings? : Option Settings} {overrides? : Option Overrides}
    (h : ∀ s, overrides? = some (full s) ↔ settings? = some s) :
    ReadsAlike settings? overrides? := by
  constructor
  · intro s hs
    exact ⟨full s, (h s).mpr hs, fun base => layer_full base s⟩
  · intro o ho hf
    obtain ⟨s, rfl⟩ := exists_full hf
    exact ⟨s, (h s).mp ho, fun base => layer_full base s⟩

theorem readText?_eq_full_iff {text : String} {s : Settings} :
    readText? Overrides.ofDoc? text = some (full s) ↔ readText? ofDoc? text = some s := by
  rw [readText?, readText?]
  split
  split
  · exact ofDoc?_eq_full_iff
  · simp

/-- Two layers come to one, in which what the upper one gives covers what the lower one gives; no
overrides change nothing, and the same ones change nothing more. A value or a text that is read as
settings is read as overrides too, which put those settings in place of any others; and it is read
as settings if as overrides it gives every field. So does the text that is written of settings. -/
theorem layers_cohere :
    (∀ (base : Settings) (a b : Overrides), (base.layer a).layer b = base.layer (a.overlay b)) ∧
    (∀ a b : Overrides, Covers b.fallback a.fallback (a.overlay b).fallback ∧
      Covers b.operatorType a.operatorType (a.overlay b).operatorType ∧
      Covers b.logFilter a.logFilter (a.overlay b).logFilter) ∧
    (∀ base : Settings, base.layer ⟨none, none, none⟩ = base) ∧
    (∀ (base : Settings) (a : Overrides), (base.layer a).layer a = base.layer a) ∧
    (∀ v : Json, ReadsAlike (ofDoc? (.ofJson v)) (Overrides.ofDoc? (.ofJson v))) ∧
    (∀ text, ReadsAlike (readText? ofDoc? text) (readText? Overrides.ofDoc? text)) ∧
    ∀ s : Settings, ∃ o, readText? Overrides.ofDoc? s.toJson.render = some o ∧
      ∀ base : Settings, base.layer o = s := by
  refine ⟨layer_overlay, ?_, layer_empty, ?_, ?_, ?_, ?_⟩
  · intro a b
    exact ⟨covers_or _ _, covers_or _ _, covers_or _ _⟩
  · intro base a
    rw [layer_overlay, overlay_self]
  · intro v
    exact readsAlike_of_full_iff fun _ => ofDoc?_eq_full_iff
  · intro text
    exact readsAlike_of_full_iff fun _ => readText?_eq_full_iff
  · intro s
    have hs : readText? ofDoc? s.toJson.render = some s := by
      rw [readText?_render _ (s.regular_toJson 0), s.ofDoc?_toJson]
    exact ⟨full s, readText?_eq_full_iff.mpr hs, fun base => layer_full base s⟩

def listedFields : Json := .arr [.obj [("default_deny", .null)], .str "PUBLIC", .str ""]

theorem layers_cohere_listedFields :
    ofDoc? (.ofJson listedFields) = some ⟨.defaultDeny, .publicOperator, ""⟩ ∧
      ∃ o, Overrides.ofDoc? (.ofJson listedFields) = some o ∧
        ∀ base : Settings, base.layer o = ⟨.defaultDeny, .publicOperator, ""⟩ := by
  have h : ofDoc? (.ofJson listedFields) = some ⟨.defaultDeny, .publicOperator, ""⟩ := by rfl
  exact ⟨h, (layers_cohere.2.2.2.2.1 listedFields).overrides _ h⟩

end Settings

end SiteAccess
