import Mathlib.Algebra.Group.Nat.Defs
import Mathlib.Data.List.Basic
import SiteAccess.Decimal.Literal

namespace SiteAccess.Decimal

theorem intText_eq_toList (n : Int) : intText n = (toString n).toList := by
  cases n with
  | ofNat n => simp [intText, natText, Int.repr]
  | negSucc n => simp [intText, natText, Int.repr]

theorem padded_ne_nil (width n : Nat) : padded width n ≠ [] := by
  simp [padded, natText, Nat.toDigits_ne_nil]

theorem length_padded {width n : Nat} (hw : 0 < width) (h : n < 10 ^ width) :
    (padded width n).length = width := by
  have hl : (natText n).length ≤ width := (Nat.length_toDigits_le_iff (by omega) hw).mpr h
  simp only [padded, List.length_append, List.length_replicate]
  omega

theorem exists_padded_two {n : Nat} (h : n < 10 ^ 2) : ∃ a b, padded 2 n = [a, b] ∧
    a.isDigit = true ∧ b.isDigit = true ∧ natValue [a, b] = n := by
  obtain ⟨a, b, hp⟩ := List.length_eq_two.mp (length_padded Nat.zero_lt_two h)
  have hd (c : Char) (hc : c ∈ [a, b]) : c.isDigit = true := isDigit_of_mem_padded (hp ▸ hc)
  exact ⟨a, b, hp, hd a (by simp), hd b (by simp), by rw [← hp, natValue_padded]⟩

namespace Number

theorem eq_int_of_int64? {n : Number} {t : Int64} (h : n.int64? = some t) : n = .int t.toInt := by
  cases n with
  | int i => rw [int64?_int_eq_some_iff.mp h]
  | float x => cases h

theorem eq_int_of_int32? {n : Number} {s : Int32} (h : n.int32? = some s) : n = .int s.toInt := by
  cases n with
  | int i => rw [int32?_int_eq_some_iff.mp h]
  | float x => cases h

theorem int64?_ne_none {i : Int} (hl : Int64.minValue.toInt ≤ i) (hu : i ≤ Int64.maxValue.toInt) :
    int64? (.int i) ≠ none := by
  rw [int64?, if_pos ⟨hl, hu⟩]
  simp

theorem int32?_ne_none {i : Int} (hl : Int32.minValue.toInt ≤ i) (hu : i ≤ Int32.maxValue.toInt) :
    int32? (.int i) ≠ none := by
  rw [int32?, if_pos ⟨hl, hu⟩]
  simp

end Number

def EndsNumber (rest : List Char) : Prop :=
  ∀ c ∈ rest.head?, c.isDigit = false ∧ c ≠ '.' ∧ c ≠ 'e' ∧ c ≠ 'E'

/-- The integers that a literal can stand for: those of 64 bits, with or without a sign. -/
def Fits (n : Int) : Prop := Int64.minValue.toInt ≤ n ∧ n < UInt64.size

theorem fits_int64 (t : Int64) : Fits t.toInt := by
  have h := t.toInt_le
  rw [Int64.toInt_maxValue] at h
  exact ⟨Int64.minValue_le_toInt t, by simp only [UInt64.size]; omega⟩

theorem fits_int32 (s : Int32) : Fits s.toInt := by
  have hl := s.le_toInt
  have hu := s.toInt_lt
  refine ⟨?_, ?_⟩
  · rw [Int64.toInt_minValue]; omega
  · simp only [UInt64.size]; omega

theorem natText_ne_nil (n : Nat) : natText n ≠ [] := Nat.toDigits_ne_nil

theorem natText_eq_zero_cons {n : Nat} {ds : List Char} (h : natText n = '0' :: ds) : ds = [] := by
  induction n using Nat.strongRecOn generalizing ds with
  | ind n ih =>
      by_cases hn : n < 10
      · rw [natText, Nat.toDigits_of_lt_base hn] at h
        simpa using (List.cons.inj h).2.symm
      · rw [natText, Nat.toDigits_of_base_le (by omega) (by omega)] at h
        obtain ⟨d, ds', hd⟩ := List.exists_cons_of_ne_nil (natText_ne_nil (n / 10))
        rw [natText] at hd
        rw [hd, List.cons_append, List.cons.injEq] at h
        obtain ⟨rfl, rfl⟩ := h
        have hz : ds' = [] := ih (n / 10) (by omega) hd
        have hv := natValue_natText (n / 10)
        rw [natText, hd, hz] at hv
        have : n / 10 = 0 := hv.symm
        omega

namespace Literal

def ofInt (n : Int) : Literal := ⟨decide (n < 0), natText n.natAbs, none, none⟩

theorem readDigits?_natText (n : Nat) {rest : List Char} (h : EndsNumber rest) :
    readDigits? (natText n ++ rest) = some (natText n, rest) := by
  have hs : splitDigits (natText n ++ rest) = (natText n, rest) :=
    splitDigits_append (fun c => isDigit_of_mem_natText) fun c hc => (h c hc).1
  cases hn : natText n with
  | nil => exact absurd hn (natText_ne_nil n)
  | cons d ds =>
      rw [hn] at hs
      rw [readDigits?, hs]

theorem readWhole?_natText (n : Nat) {rest : List Char} (h : EndsNumber rest) :
    readWhole? (natText n ++ rest) = some (natText n, rest) := by
  rw [readWhole?, readDigits?_natText n h]
  split
  · next d ds _ he =>
      have hn : natText n = '0' :: d :: ds := by simpa using congrArg (Option.map Prod.fst) he
      exact absurd (natText_eq_zero_cons hn) (by simp)
  · rfl

theorem readFraction?_of_endsNumber {rest : List Char} (h : EndsNumber rest) :
    readFraction? rest = some (none, rest) := by
  cases rest with
  | nil => rfl
  | cons c cs =>
      have hc := (h c rfl).2.1
      simp [readFraction?, hc]

theorem readExponent?_of_endsNumber {rest : List Char} (h : EndsNumber rest) :
    readExponent? rest = some (none, rest) := by
  cases rest with
  | nil => rfl
  | cons c cs =>
      have hc := (h c rfl).2.2
      simp [readExponent?, hc]

theorem readSign_intText (n : Int) (rest : List Char) :
    readSign (intText n ++ rest) = (decide (n < 0), natText n.natAbs ++ rest) := by
  cases n with
  | ofNat n =>
      obtain ⟨d, ds, hd⟩ := List.exists_cons_of_ne_nil (natText_ne_nil n)
      have hm : d.isDigit = true := isDigit_of_mem_natText (n := n) (by simp [hd])
      have hne : d ≠ '-' := fun he => by simp [he] at hm
      simp [intText, hd, readSign, hne]
  | negSucc n => simp [intText, readSign, Int.negSucc_lt_zero]

theorem read?_intText (n : Int) {rest : List Char} (h : EndsNumber rest) :
    read? (intText n ++ rest) = some (ofInt n, rest) := by
  simp [read?, readSign_intText, readWhole?_natText _ h, readFraction?_of_endsNumber h,
    readExponent?_of_endsNumber h, ofInt]

theorem number?_ofInt {n : Int} (h : Fits n) : (ofInt n).number? = some (.int n) := by
  obtain ⟨hl, hu⟩ := h
  have hi : (ofInt n).integer? = some n := by
    by_cases hn : n < 0
    · have hp : 0 < (n.natAbs : Int) ∧ Int64.minValue.toInt ≤ -(n.natAbs : Int) := by omega
      simp only [integer?, ofInt, hn, natValue_natText, decide_true, if_true, if_pos hp]
      exact congrArg some (by omega)
    · have hp : (n.natAbs : Int) < UInt64.size := by omega
      simp only [integer?, ofInt, hn, natValue_natText, decide_false, if_pos hp]
      exact congrArg some (by omega)
  rw [number?, hi]

end Literal

end SiteAccess.Decimal
