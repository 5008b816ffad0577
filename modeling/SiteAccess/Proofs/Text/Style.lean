import Mathlib.Data.List.Forall2
import SiteAccess.Proofs.Text.Word

namespace SiteAccess.Text

/-- The same character, or the same one of the 26 letters in the other case. -/
inductive Recased : Char → Char → Prop
  | same (c : Char) : Recased c c
  | lowered {c d : Char} (h : c.isUpper = true) (hd : d.toNat = c.toNat + 32) : Recased c d
  | raised {c d : Char} (h : d.isUpper = true) (hc : c.toNat = d.toNat + 32) : Recased c d

def SameLetters (s t : String) : Prop := List.Forall₂ Recased s.toList t.toList

structure Lowered (word lowered : String) : Prop where
  letters : SameLetters word lowered
  noCapital : ∀ c ∈ lowered.toList, c.isUpper = false

/-- All blanks are gone from the two ends, and nothing else is gone. -/
structure Stripped (text word : String) : Prop where
  around : ∃ before after : List Char, text.toList = before ++ (word.toList ++ after) ∧
    (∀ b ∈ before, isBlank b = true) ∧ ∀ b ∈ after, isBlank b = true
  first : ∀ c ∈ word.toList.head?, isBlank c = false
  last : ∀ c ∈ word.toList.getLast?, isBlank c = false

def Canonical (text canonical : String) : Prop :=
  ∃ word, Stripped text word ∧ Lowered word canonical

/-- Letters of a text were put in the other case, and blanks were put around it. -/
def Restyled (text other : String) : Prop :=
  ∃ before middle after : List Char, other.toList = before ++ (middle ++ after) ∧
    (∀ b ∈ before, isBlank b = true) ∧ (∀ b ∈ after, isBlank b = true) ∧
    List.Forall₂ Recased text.toList middle

section letters

variable {c d : Char} {s t word lowered : String}

theorem isUpper_iff_toNat : c.isUpper = true ↔ 65 ≤ c.toNat ∧ c.toNat ≤ 90 := decide_eq_true_iff

theorem toNat_toLower_of_isUpper (h : c.isUpper = true) : c.toLower.toNat = c.toNat + 32 := by
  have hc := isUpper_iff_toNat.mp h
  have hl : c.toLower = ⟨c.val + 32, _⟩ := dif_pos hc
  have hv : c.val.toNat = c.toNat := rfl
  rw [hl, Char.toNat, UInt32.toNat_add]
  simp only [UInt32.reduceToNat]
  omega

theorem toLower_of_not_isUpper (h : c.isUpper = false) : c.toLower = c := by
  refine dif_neg fun hc => ?_
  rw [isUpper_iff_toNat.mpr hc] at h
  cases h

theorem isUpper_toLower (c : Char) : c.toLower.isUpper = false := by
  cases h : c.isUpper with
  | false => rw [toLower_of_not_isUpper h, h]
  | true =>
      have hl := toNat_toLower_of_isUpper h
      rw [isUpper_iff_toNat] at h
      rw [Bool.eq_false_iff, ne_eq, isUpper_iff_toNat]
      omega

theorem toLower_toLower (c : Char) : c.toLower.toLower = c.toLower :=
  toLower_of_not_isUpper (isUpper_toLower c)

theorem toLower_eq_iff_of_isUpper (h : c.isUpper = true) :
    c.toLower = d ↔ d.toNat = c.toNat + 32 := by
  rw [← Char.toNat_inj, toNat_toLower_of_isUpper h, eq_comm]

theorem toNat_le_toNat_toLower (c : Char) : c.toNat ≤ c.toLower.toNat := by
  cases h : c.isUpper with
  | false => exact Nat.le_of_eq (congrArg Char.toNat (toLower_of_not_isUpper h).symm)
  | true =>
      have hl := toNat_toLower_of_isUpper h
      omega

theorem recased_iff : Recased c d ↔ c.toLower = d.toLower := by
  constructor
  · rintro (_ | ⟨h, hd⟩ | ⟨h, hc⟩)
    · rfl
    · rw [← (toLower_eq_iff_of_isUpper h).mpr hd, toLower_toLower]
    · rw [← (toLower_eq_iff_of_isUpper h).mpr hc, toLower_toLower]
  · intro h
    cases hc : c.isUpper with
    | true =>
        cases hd : d.isUpper with
        | true =>
            have hn := (toLower_eq_iff_of_isUpper hc).mp h
            rw [toNat_toLower_of_isUpper hd, Nat.add_right_cancel_iff, Char.toNat_inj] at hn
            exact hn ▸ .same c
        | false =>
            rw [toLower_of_not_isUpper hd] at h
            exact .lowered hc ((toLower_eq_iff_of_isUpper hc).mp h)
    | false =>
        rw [toLower_of_not_isUpper hc] at h
        cases hd : d.isUpper with
        | true => exact .raised hd ((toLower_eq_iff_of_isUpper hd).mp h.symm)
        | false =>
            rw [toLower_of_not_isUpper hd] at h
            exact h ▸ .same c

theorem forall₂_recased_iff {cs ds : List Char} :
    List.Forall₂ Recased cs ds ↔ cs.map Char.toLower = ds.map Char.toLower := by
  have h : Recased = fun c d => c.toLower = d.toLower := by
    funext c d
    exact propext recased_iff
  rw [h, ← List.forall₂_eq_eq_eq, List.forall₂_map_left_iff, List.forall₂_map_right_iff]

theorem sameLetters_iff : SameLetters s t ↔ lower s = lower t := by
  rw [SameLetters, forall₂_recased_iff, lower, lower, String.ofList_inj]

theorem SameLetters.length_eq (h : SameLetters s t) : s.length = t.length := by
  rw [← String.length_toList, ← String.length_toList]
  exact List.Forall₂.length_eq h

theorem map_toLower_eq_self {cs : List Char} (h : ∀ c ∈ cs, c.toLower = c) :
    cs.map Char.toLower = cs :=
  (List.map_congr_left h).trans (List.map_id' cs)

theorem lower_eq_self (h : ∀ c ∈ s.toList, c.isUpper = false) : lower s = s := by
  rw [lower, map_toLower_eq_self fun c hc => toLower_of_not_isUpper (h c hc), String.ofList_toList]

theorem isUpper_eq_false_of_mem_lower (h : c ∈ (lower s).toList) : c.isUpper = false := by
  rw [lower, String.toList_ofList] at h
  obtain ⟨d, -, rfl⟩ := List.mem_map.mp h
  exact isUpper_toLower d

theorem lower_eq_iff : lower word = lowered ↔ Lowered word lowered := by
  constructor
  · rintro rfl
    refine ⟨sameLetters_iff.mpr ?_, fun c => isUpper_eq_false_of_mem_lower⟩
    rw [lower_eq_self fun c => isUpper_eq_false_of_mem_lower]
  · rintro ⟨hs, hn⟩
    rw [sameLetters_iff.mp hs, lower_eq_self hn]

end letters

section blanks

variable {text other word canonical : String}

theorem isBlank_toLower (c : Char) : isBlank c.toLower = isBlank c := by
  cases h : c.isUpper with
  | false => rw [toLower_of_not_isUpper h]
  | true =>
      have hl := toNat_toLower_of_isUpper h
      rw [isUpper_iff_toNat] at h
      rw [isBlank_eq_false_of_toNat (c := c.toLower) (by omega) (by omega),
        isBlank_eq_false_of_toNat (c := c) (by omega) (by omega)]

theorem map_toLower_blanks {bs : List Char} (h : ∀ b ∈ bs, isBlank b = true) :
    bs.map Char.toLower = bs :=
  map_toLower_eq_self fun b hb => toLower_of_isBlank (h b hb)

theorem stripped_trim (text : String) : Stripped text (trim text) := by
  obtain ⟨before, after, ht, hb, ha⟩ := exists_trim text
  refine ⟨⟨before, after, by rw [ht, List.append_assoc], hb, ha⟩, fun c hc => ?_, fun c hc => ?_⟩
  -- Blanks dropped from the end of a text do not change what it begins with.
  · obtain ⟨blanks, -, hs⟩ := exists_trimEnd (trimStart text.toList)
    have hh : c ∈ (trimStart text.toList).head? := by
      rw [trim, String.toList_ofList, Option.mem_def] at hc
      rw [hs, List.head?_append, hc]
      rfl
    exact isBlank_head_trimStart hh
  · rw [trim, String.toList_ofList] at hc
    exact isBlank_getLast_trimEnd hc

theorem trim_eq_iff : trim text = word ↔ Stripped text word := by
  constructor
  · rintro rfl
    exact stripped_trim text
  · rintro ⟨⟨before, after, ht, hb, ha⟩, hf, hl⟩
    rw [trim, ht, trimEnd_trimStart_surrounded hb ha hf hl, String.ofList_toList]

theorem Stripped.surrounded (h : Stripped text word) {before after : List Char}
    (hb : ∀ b ∈ before, isBlank b = true) (ha : ∀ b ∈ after, isBlank b = true)
    (ho : other.toList = before ++ (text.toList ++ after)) : Stripped other word := by
  obtain ⟨⟨b, a, ht, hb', ha'⟩, hf, hl⟩ := h
  refine ⟨⟨before ++ b, a ++ after, by simp [ho, ht], ?_, ?_⟩, hf, hl⟩
  · intro c hc
    exact (List.mem_append.mp hc).elim (hb c) (hb' c)
  · intro c hc
    exact (List.mem_append.mp hc).elim (ha' c) (ha c)

theorem Stripped.lower (h : Stripped text word) : Stripped (lower text) (lower word) := by
  obtain ⟨⟨b, a, ht, hb, ha⟩, hf, hl⟩ := h
  refine ⟨⟨b, a, ?_, hb, ha⟩, fun c hc => ?_, fun c hc => ?_⟩
  · simp [Text.lower, ht, map_toLower_blanks hb, map_toLower_blanks ha]
  · rw [Text.lower, String.toList_ofList, List.head?_map] at hc
    obtain ⟨d, hd, rfl⟩ := Option.map_eq_some_iff.mp hc
    rw [isBlank_toLower, hf d hd]
  · rw [Text.lower, String.toList_ofList, List.getLast?_map] at hc
    obtain ⟨d, hd, rfl⟩ := Option.map_eq_some_iff.mp hc
    rw [isBlank_toLower, hl d hd]

theorem canonical_iff : lower (trim text) = canonical ↔ Canonical text canonical := by
  rw [lower_eq_iff]
  constructor
  · intro h
    exact ⟨trim text, stripped_trim text, h⟩
  · rintro ⟨word, hs, hl⟩
    rwa [trim_eq_iff.mpr hs]

theorem Restyled.lower_trim (h : Restyled text other) : lower (trim other) = lower (trim text) := by
  obtain ⟨before, middle, after, ho, hb, ha, hm⟩ := h
  have hs : Stripped (lower other) (lower (trim text)) := by
    refine (stripped_trim text).lower.surrounded hb ha ?_
    rw [forall₂_recased_iff] at hm
    simp [lower, ho, hm, map_toLower_blanks hb, map_toLower_blanks ha]
  rw [← trim_eq_iff.mpr hs, trim_eq_iff.mpr (stripped_trim other).lower]

end blanks

end SiteAccess.Text
