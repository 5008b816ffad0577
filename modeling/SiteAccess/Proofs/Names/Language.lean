import SiteAccess.Proofs.Names
import SiteAccess.Proofs.Text.Style

namespace SiteAccess

open Record Text

section recognition

variable {α ε ε' : Type}

/-- A reader that takes just the texts that say something, and complains of all others. -/
structure Recognizes (parse : String → Except ε α) (Says : String → α → Prop)
    (Complains : String → ε → Prop) : Prop where
  accepts : ∀ text a, parse text = .ok a ↔ Says text a
  unique : ∀ text a b, Says text a → Says text b → a = b
  refuses : ∀ text, (∀ a, ¬ Says text a) → ∃ e, parse text = .error e ∧ Complains text e

theorem recognizes_mapError {parse : String → Except ε α} {Says : String → α → Prop}
    {Complains : String → ε' → Prop} {put : ε → ε'}
    (hs : ∀ text a, parse text = .ok a ↔ Says text a)
    (hc : ∀ text e, parse text = .error e → Complains text (put e)) :
    Recognizes (fun text => (parse text).mapError put) Says Complains where
  accepts text a := by
    rw [← hs]
    cases parse text <;> simp [Except.mapError]
  unique text a b ha hb := by
    rw [← hs] at ha hb
    exact Except.ok.inj (ha.symm.trans hb)
  refuses text hn := by
    cases hp : parse text with
    | ok a => exact absurd ((hs text a).mp hp) (hn a)
    | error e => exact ⟨put e, rfl, hc text e hp⟩

end recognition

namespace Role

variable {text other word : String} {r : Role}

/-- Without the blanks around it, a text is the name of a role but for letter case. -/
def Says (text : String) (r : Role) : Prop := ∃ word, Stripped text word ∧ SameLetters word r.name

/-- No part of a name is passed over, and no name is read at the front of something longer. -/
structure ReadWhole (text : String) (r : Role) : Prop where
  word : ∀ word, Stripped text word →
    word.length = r.name.length ∧ ∀ c ∈ word.toList, c.toNat < 128 ∧ isBlank c = false
  append_iff : ∀ more, parse (text ++ more) = .ok r ↔ ∀ c ∈ more.toList, isBlank c = true

theorem parse_eq_ok_iff_lower : parse text = .ok r ↔ lower (trim text) = lower r.name := by
  have hn : parse text = .ok r ↔ named? text = some r := by
    rw [parse]
    cases named? text <;> simp
  rw [hn, named?_eq_some_iff_lower, eq_comm]

theorem parse_eq_ok_iff_says : parse text = .ok r ↔ Says text r := by
  rw [parse_eq_ok_iff_lower, ← sameLetters_iff]
  constructor
  · intro h
    exact ⟨trim text, stripped_trim text, h⟩
  · rintro ⟨word, hs, hl⟩
    rwa [trim_eq_iff.mpr hs]

theorem parse_error {d : Defect} (h : parse text = .error d) : d = .unknownRole text := by
  rw [parse] at h
  split at h
  · cases h
  · exact (Except.error.inj h).symm

theorem parse_restyled (h : Restyled text other) : parse other = .ok r ↔ parse text = .ok r := by
  rw [parse_eq_ok_iff_lower, parse_eq_ok_iff_lower, h.lower_trim]

theorem sameLetters_of_parse (h : parse text = .ok r) (hs : Stripped text word) :
    SameLetters word r.name := by
  rw [sameLetters_iff, ← trim_eq_iff.mpr hs]
  exact parse_eq_ok_iff_lower.mp h

theorem toNat_lt_of_mem_name (r : Role) : ∀ c ∈ (lower r.name).toList, c.toNat < 128 := by
  have h : (lower r.name).toList.all (fun c => c.toNat < 128) = true := by
    cases r <;> decide
  intro c hc
  simpa using List.all_eq_true.mp h c hc

theorem ascii_of_mem_word {c : Char} (h : SameLetters word r.name) (hc : c ∈ word.toList) :
    c.toNat < 128 ∧ isBlank c = false := by
  have hm : c.toLower ∈ (lower r.name).toList := by
    rw [← sameLetters_iff.mp h, lower, String.toList_ofList]
    exact List.mem_map_of_mem hc
  constructor
  · exact Nat.lt_of_le_of_lt (toNat_le_toNat_toLower c) (r.toNat_lt_of_mem_name _ hm)
  · rw [← isBlank_toLower]
    exact r.isBlank_eq_false_of_mem_name _ hm

theorem countP_of_parse (h : parse text = .ok r) :
    text.toList.countP (fun c => !isBlank c) = r.name.length := by
  obtain ⟨word, hs, hl⟩ := parse_eq_ok_iff_says.mp h
  obtain ⟨before, after, ht, hb, ha⟩ := hs.around
  have hnone (cs : List Char) (hc : ∀ c ∈ cs, isBlank c = true) :
      cs.countP (fun c => !isBlank c) = 0 := by
    rw [List.countP_eq_zero]
    intro c hm
    simp [hc c hm]
  have hall : word.toList.countP (fun c => !isBlank c) = word.toList.length := by
    rw [List.countP_eq_length]
    intro c hm
    simp [(ascii_of_mem_word hl hm).2]
  rw [ht, List.countP_append, List.countP_append, hnone before hb, hnone after ha, hall,
    String.length_toList, hl.length_eq]
  omega

theorem readWhole (h : parse text = .ok r) : ReadWhole text r where
  word word hs :=
    have hl := sameLetters_of_parse h hs
    ⟨hl.length_eq, fun _ => ascii_of_mem_word hl⟩
  append_iff more := by
    constructor
    -- The name uses up all that is not blank, so that nothing of the kind is left for what follows.
    · intro hm c hc
      have hn := countP_of_parse hm
      rw [String.toList_append, List.countP_append, countP_of_parse h, Nat.add_eq_left,
        List.countP_eq_zero] at hn
      simpa using hn c hc
    · intro hb
      have hr : Restyled text (text ++ more) :=
        ⟨[], text.toList, more.toList, String.toList_append, by simp, hb,
          forall₂_recased_iff.mpr rfl⟩
      exact (parse_restyled hr).mpr h

end Role

namespace Fallback

variable {text other : String} {f : Fallback}

def Says (text : String) (f : Fallback) : Prop := ∃ name ∈ f.words, Canonical text name

theorem parse_eq_ok_iff_says : parse text = .ok f ↔ Says text f := by
  rw [parse_eq_ok_iff_canonical]
  constructor
  · intro h
    exact ⟨_, h, canonical_iff.mp rfl⟩
  · rintro ⟨name, hn, hc⟩
    rw [canonical, canonical_iff.mpr hc]
    exact hn

theorem parse_restyled (h : Restyled text other) : parse other = parse text := by
  rw [parse, parse, canonical, canonical, h.lower_trim]

end Fallback

/-- A role is read off a text that is its name but for style, and a fallback off a text of which one
of its names is the canonical form; a type of operators is read off its name alone. No text names
two things. One that names none is refused, and quoted as it stands, for a fallback in canonical
form. A name of a role is a word of ASCII, read as a whole. What is read as a role or as a fallback
does not hang on the style of the text. -/
theorem names_recognized :
    Recognizes (fun text => (Role.parse text).mapError Defect.fault) Role.Says
      (fun text f => f = .malformedRecord "roles" ("unknown role '" ++ text ++ "'")) ∧
    Recognizes (fun text => (Fallback.parse text).mapError Fallback.unknownMessage) Fallback.Says
      (fun text m => ∃ quoted, Canonical text quoted ∧
        m = "unknown legacy fallback '" ++ quoted ++ "'") ∧
    Recognizes (fun text => (OperatorType.parse text).mapError Defect.fault)
      (fun text t => text = t.name)
      (fun text f => f =
        .malformedRecord "operator_type" ("unknown operator type '" ++ text ++ "'")) ∧
    (∀ text r, Role.parse text = .ok r → Role.ReadWhole text r) ∧
    ∀ text other, Restyled text other →
      (∀ r, Role.parse other = .ok r ↔ Role.parse text = .ok r) ∧
      Fallback.parse other = Fallback.parse text := by
  refine ⟨?_, ?_, ?_, fun text r => Role.readWhole, fun text other h => ⟨fun r => ?_, ?_⟩⟩
  · refine recognizes_mapError (fun _ _ => Role.parse_eq_ok_iff_says) fun text d h => ?_
    rw [Role.parse_error h]
    rfl
  · refine recognizes_mapError (fun _ _ => Fallback.parse_eq_ok_iff_says) fun text e h => ?_
    exact ⟨e, canonical_iff.mp (Fallback.parse_error h).symm, rfl⟩
  · refine recognizes_mapError (fun _ _ => OperatorType.parse_eq_ok_iff) fun text d h => ?_
    rw [OperatorType.parse_error h]
    rfl
  · exact Role.parse_restyled h
  · exact Fallback.parse_restyled h

theorem optout_deny_restyled :
    Role.parse "\tOptout" = .ok .optout ∧ Restyled "\tOptout" "\u3000\toPTOUT\n" ∧
      Restyled "Deny" "dENY\u00a0" ∧
      Role.ReadWhole "\tOptout" .optout ∧ Role.parse "\u3000\toPTOUT\n" = .ok .optout ∧
      Fallback.parse "dENY\u00a0" = .ok .defaultDeny := by
  have hp : Role.parse "\tOptout" = .ok .optout := by rfl
  have ho : Restyled "\tOptout" "\u3000\toPTOUT\n" :=
    ⟨['\u3000'], "\toPTOUT".toList, ['\n'], by decide, List.all_eq_true.mp (by decide),
      List.all_eq_true.mp (by decide), forall₂_recased_iff.mpr (by decide)⟩
  have hd : Restyled "Deny" "dENY\u00a0" :=
    ⟨[], "dENY".toList, ['\u00a0'], by decide, by simp, List.all_eq_true.mp (by decide),
      forall₂_recased_iff.mpr (by decide)⟩
  obtain ⟨-, -, -, hw, hr⟩ := names_recognized
  refine ⟨hp, ho, hd, hw _ _ hp, ((hr _ _ ho).1 _).mpr hp, ?_⟩
  rw [(hr _ _ hd).2]
  rfl

-- The long s is a letter of its own, and a blank is not the underscore.
example : ["ſECRET_MANAGER", "OPTOUT SERVICE"].map Role.named? = [none, none] := by decide

end SiteAccess
