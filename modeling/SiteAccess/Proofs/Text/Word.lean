import SiteAccess.Text

namespace SiteAccess.Text

theorem toNat_of_isBlank {c : Char} (h : isBlank c = true) : c.toNat ≤ 0x20 ∨ 0x85 ≤ c.toNat := by
  simp only [isBlank, blankRanges, Ranges.holds, List.any_cons, List.any_nil, Bool.or_false,
    Bool.or_eq_true, Bool.and_eq_true, decide_eq_true_eq] at h
  omega

theorem toLower_of_isBlank {c : Char} (h : isBlank c = true) : c.toLower = c := by
  have hn : ¬ (65 ≤ c.toNat ∧ c.toNat ≤ 90) := by
    have hc := toNat_of_isBlank h
    omega
  exact dif_neg hn

theorem isBlank_eq_false_of_toNat {c : Char} (h : 0x20 < c.toNat) (h' : c.toNat < 0x85) :
    isBlank c = false := by
  cases hb : isBlank c with
  | false => rfl
  | true =>
      have hc := toNat_of_isBlank hb
      omega

theorem isBlank_eq_false_of_isDigit {c : Char} (h : c.isDigit = true) : isBlank c = false := by
  have hd : 48 ≤ c.toNat ∧ c.toNat ≤ 57 := Char.isDigit_iff_toNat.mp h
  exact isBlank_eq_false_of_toNat (by omega) (by omega)

theorem trimStart_eq_nil {cs : List Char} (h : ∀ c ∈ cs, isBlank c = true) : trimStart cs = [] := by
  rw [← List.append_nil cs, trimStart_append_blanks h]
  rfl

theorem trimEnd_eq_self {cs : List Char} (h : ∀ c ∈ cs.getLast?, isBlank c = false) :
    trimEnd cs = cs := by
  rcases List.eq_nil_or_concat cs with rfl | ⟨front, c, rfl⟩
  · rfl
  · rw [List.concat_eq_append] at h ⊢
    exact trimEnd_append_singleton (h c (by simp))

theorem trimEnd_trimStart_surrounded {before word after : List Char}
    (hb : ∀ b ∈ before, isBlank b = true) (ha : ∀ b ∈ after, isBlank b = true)
    (hf : ∀ c ∈ word.head?, isBlank c = false) (hl : ∀ c ∈ word.getLast?, isBlank c = false) :
    trimEnd (trimStart (before ++ (word ++ after))) = word := by
  rw [trimStart_append_blanks hb]
  cases word with
  | nil => rw [List.nil_append, trimStart_eq_nil ha]; rfl
  | cons c cs =>
      rw [List.cons_append, trimStart_of_head (hf c (by simp)), ← List.cons_append,
        trimEnd_append_blanks ha, trimEnd_eq_self hl]

theorem exists_trimStart (cs : List Char) :
    ∃ blanks, (∀ b ∈ blanks, isBlank b = true) ∧ cs = blanks ++ trimStart cs := by
  refine ⟨cs.takeWhile isBlank, fun b hb => ?_, List.takeWhile_append_dropWhile.symm⟩
  exact List.all_eq_true.mp List.all_takeWhile b hb

theorem exists_trimEnd (cs : List Char) :
    ∃ blanks, (∀ b ∈ blanks, isBlank b = true) ∧ cs = trimEnd cs ++ blanks := by
  obtain ⟨blanks, hb, hs⟩ := exists_trimStart cs.reverse
  refine ⟨blanks.reverse, fun b h => hb b (List.mem_reverse.mp h), ?_⟩
  have hr := congrArg List.reverse hs
  simpa [trimEnd, trimStart] using hr

theorem isBlank_head_trimStart {c : Char} {cs : List Char} (h : c ∈ (trimStart cs).head?) :
    isBlank c = false := by
  have hd := List.head?_dropWhile_not isBlank cs
  rw [show (cs.dropWhile isBlank).head? = some c from h] at hd
  exact hd

theorem isBlank_getLast_trimEnd {c : Char} {cs : List Char} (h : c ∈ (trimEnd cs).getLast?) :
    isBlank c = false := by
  rw [trimEnd, List.getLast?_reverse] at h
  exact isBlank_head_trimStart h

/-- A text that is a word when its letters are folded, with any blanks before and after it. -/
def Spells (fold : Char → Char) (text word : String) : Prop :=
  ∃ before middle after : List Char, text.toList = before ++ middle ++ after ∧
    (∀ b ∈ before, isBlank b = true) ∧ (∀ b ∈ after, isBlank b = true) ∧
    middle.map fold = word.toList

variable {fold : Char → Char} {text word : String}

theorem toUpper_of_isBlank {c : Char} (h : isBlank c = true) : c.toUpper = c := by
  have hn : ¬ (97 ≤ c.toNat ∧ c.toNat ≤ 122) := by
    have hc := toNat_of_isBlank h
    omega
  exact dif_neg hn

theorem isBlank_eq_false_of_all {cs : List Char} (h : cs.all (fun c => !isBlank c) = true) :
    ∀ c ∈ cs, isBlank c = false := by
  intro c hc
  simpa using List.all_eq_true.mp h c hc

theorem exists_trim (text : String) : ∃ before after : List Char,
    text.toList = before ++ (trim text).toList ++ after ∧
      (∀ b ∈ before, isBlank b = true) ∧ ∀ b ∈ after, isBlank b = true := by
  obtain ⟨before, hb, hs⟩ := exists_trimStart text.toList
  obtain ⟨after, ha, he⟩ := exists_trimEnd (trimStart text.toList)
  refine ⟨before, after, ?_, hb, ha⟩
  rw [trim, String.toList_ofList, List.append_assoc, ← he, ← hs]

theorem trim_eq_empty_iff : trim text = "" ↔ ∀ c ∈ text.toList, isBlank c = true := by
  constructor
  · intro h
    obtain ⟨before, after, ht, hb, ha⟩ := exists_trim text
    rw [ht, h]
    intro c hc
    rw [String.toList_empty, List.append_nil, List.mem_append] at hc
    exact hc.elim (hb c) (ha c)
  · intro h
    rw [trim, trimStart_eq_nil h]
    rfl

theorem map_trim_eq_iff (hf : ∀ c, isBlank c = true → fold c = c)
    (hw : ∀ c ∈ word.toList, isBlank c = false) :
    (trim text).toList.map fold = word.toList ↔ Spells fold text word := by
  constructor
  · intro h
    obtain ⟨before, after, ht, hb, ha⟩ := exists_trim text
    exact ⟨before, _, after, ht, hb, ha, h⟩
  · rintro ⟨before, middle, after, ht, hb, ha, h⟩
    have hm : ∀ c ∈ middle, isBlank c = false := by
      intro c hc
      have hfc : isBlank (fold c) = false := hw _ (h ▸ List.mem_map_of_mem hc)
      cases hb : isBlank c with
      | false => rfl
      | true =>
          rw [hf c hb] at hfc
          exact hb.symm.trans hfc
    rw [trim, ht, String.toList_ofList, List.append_assoc,
      trimEnd_trimStart_surrounded hb ha (fun c hc => hm c (List.mem_of_mem_head? hc))
        fun c hc => hm c (List.mem_of_mem_getLast? hc), h]

theorem lower_trim_eq_iff (hw : ∀ c ∈ word.toList, isBlank c = false) :
    lower (trim text) = word ↔ Spells Char.toLower text word := by
  rw [← map_trim_eq_iff (fun _ => toLower_of_isBlank) hw, ← String.toList_inj, lower,
    String.toList_ofList]

theorem upper_trim_eq_iff (hw : ∀ c ∈ word.toList, isBlank c = false) :
    upper (trim text) = word ↔ Spells Char.toUpper text word := by
  rw [← map_trim_eq_iff (fun _ => toUpper_of_isBlank) hw, ← String.toList_inj, upper,
    String.toList_ofList]

end SiteAccess.Text
