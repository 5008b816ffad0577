import SiteAccess.Proofs.Text.Word
import SiteAccess.Record.Defect

namespace SiteAccess

open Text

namespace Role

def Spells (text : String) (r : Role) : Prop :=
  ∃ before word after : List Char, text.toList = before ++ word ++ after ∧
    (∀ b ∈ before, isBlank b = true) ∧ (∀ b ∈ after, isBlank b = true) ∧
    lower (String.ofList word) = lower r.name

theorem isBlank_eq_false_of_mem_name (r : Role) :
    ∀ c ∈ (lower r.name).toList, isBlank c = false := by
  apply isBlank_eq_false_of_all
  cases r <;> decide

theorem spells_iff {text : String} {r : Role} :
    Spells text r ↔ Text.Spells Char.toLower text (lower r.name) := by
  have hw (word : List Char) :
      lower (String.ofList word) = lower r.name ↔ word.map Char.toLower = (lower r.name).toList := by
    rw [← String.toList_inj, lower, String.toList_ofList, String.toList_ofList]
  simp only [Spells, Text.Spells, hw]

theorem lower_name_of_named? {text : String} {r : Role} (h : named? text = some r) :
    lower r.name = lower (trim text) := by
  rw [named?] at h
  have hs := List.find?_some h
  exact sameWord_iff.mp hs

theorem named?_eq_some_iff_lower {text : String} {r : Role} :
    named? text = some r ↔ lower r.name = lower (trim text) := by
  refine ⟨lower_name_of_named?, fun h => ?_⟩
  have hfound : (named? text).isSome = true := by
    rw [named?, List.find?_isSome]
    exact ⟨r, r.mem_all, sameWord_iff.mpr h⟩
  obtain ⟨q, hq⟩ := Option.isSome_iff_exists.mp hfound
  have he : q = r := lower_name_injective ((lower_name_of_named? hq).trans h.symm)
  rw [hq, he]

/-- No text names two roles, and one that names a role is read as that role. -/
theorem named?_eq_some_iff_spells {text : String} {r : Role} :
    named? text = some r ↔ Spells text r := by
  rw [named?_eq_some_iff_lower, spells_iff, eq_comm]
  exact lower_trim_eq_iff r.isBlank_eq_false_of_mem_name

end Role

namespace Fallback

def words : Fallback → List String
  | defaultAllow => ["allow", "default_allow"]
  | defaultDeny => ["deny", "default_deny"]

def CallsFor (text : String) (f : Fallback) : Prop :=
  ∃ word ∈ f.words, Spells Char.toLower text word

theorem isBlank_eq_false_of_mem_words (f : Fallback) :
    ∀ word ∈ f.words, ∀ c ∈ word.toList, isBlank c = false := by
  have h : f.words.all (fun word => word.toList.all fun c => !isBlank c) = true := by
    cases f <;> decide
  intro word hw
  exact isBlank_eq_false_of_all (List.all_eq_true.mp h word hw)

theorem parse_eq_ok_iff_canonical {text : String} {f : Fallback} :
    parse text = .ok f ↔ canonical text ∈ f.words := by
  rw [parse]
  split <;> cases f <;> simp_all [words]

theorem parse_eq_ok_iff {text : String} {f : Fallback} :
    parse text = .ok f ↔ CallsFor text f := by
  rw [parse_eq_ok_iff_canonical]
  constructor
  · intro h
    exact ⟨_, h, (lower_trim_eq_iff (f.isBlank_eq_false_of_mem_words _ h)).mp rfl⟩
  · rintro ⟨word, hw, hs⟩
    rw [canonical, (lower_trim_eq_iff (f.isBlank_eq_false_of_mem_words word hw)).mpr hs]
    exact hw

theorem parse_error {text e : String} (h : parse text = .error e) : e = canonical text := by
  rw [parse] at h
  split at h <;> simp_all

end Fallback

namespace OperatorType

def CallsFor (text : String) (t : OperatorType) : Prop := Spells Char.toUpper text t.name

theorem isBlank_eq_false_of_mem_name (t : OperatorType) : ∀ c ∈ t.name.toList, isBlank c = false := by
  apply isBlank_eq_false_of_all
  cases t <;> decide

theorem parse_eq_ok_iff {text : String} {t : OperatorType} : parse text = .ok t ↔ text = t.name := by
  rw [parse, ← named?_eq_some_iff]
  cases named? text <;> simp

theorem parse_upper_eq_ok_iff {text : String} {t : OperatorType} :
    parse (upper (trim text)) = .ok t ↔ CallsFor text t := by
  rw [parse_eq_ok_iff]
  exact upper_trim_eq_iff t.isBlank_eq_false_of_mem_name

theorem parse_error {text : String} {d : Record.Defect} (h : parse text = .error d) :
    d = .unknownOperatorType text := by
  rw [parse] at h
  split at h
  · cases h
  · exact (Except.error.inj h).symm

end OperatorType

end SiteAccess
