namespace SiteAccess.Decimal

def natText (n : Nat) : List Char := Nat.toDigits 10 n

def intText : Int → List Char
  | .ofNat n => natText n
  | .negSucc n => '-' :: natText (n + 1)

def padded (width n : Nat) : List Char :=
  List.replicate (width - (natText n).length) '0' ++ natText n

def natValue (ds : List Char) : Nat := Nat.ofDigitChars 10 ds 0

def splitDigits (cs : List Char) : List Char × List Char :=
  (cs.takeWhile Char.isDigit, cs.dropWhile Char.isDigit)

@[simp] theorem natValue_natText (n : Nat) : natValue (natText n) = n :=
  Nat.ofDigitChars_toDigits (by omega) (by omega)

theorem isDigit_of_mem_natText {n : Nat} {c : Char} (h : c ∈ natText n) : c.isDigit = true :=
  Nat.isDigit_of_mem_toDigits (by omega) (by omega) h

theorem splitDigits_append {ds rest : List Char} (hd : ∀ c ∈ ds, c.isDigit = true)
    (hr : ∀ c ∈ rest.head?, c.isDigit = false) : splitDigits (ds ++ rest) = (ds, rest) := by
  induction ds with
  | nil =>
      cases rest with
      | nil => rfl
      | cons c cs =>
          have hc : c.isDigit = false := hr c (by simp)
          simp [splitDigits, hc]
  | cons d ds ih =>
      have hc := hd d (by simp)
      have ht := ih fun c h => hd c (by simp [h])
      simp only [splitDigits, Prod.mk.injEq] at ht
      simp [splitDigits, hc, ht.1, ht.2]

theorem natValue_zeros_append (k : Nat) (ds : List Char) :
    natValue (List.replicate k '0' ++ ds) = natValue ds := by
  induction k with
  | zero => rfl
  | succ k ih =>
      simpa [List.replicate_succ, natValue, Nat.ofDigitChars] using ih

@[simp] theorem natValue_padded (width n : Nat) : natValue (padded width n) = n := by
  rw [padded, natValue_zeros_append, natValue_natText]

theorem isDigit_of_mem_padded {width n : Nat} {c : Char} (h : c ∈ padded width n) :
    c.isDigit = true := by
  rcases List.mem_append.mp h with h | h
  · rw [(List.mem_replicate.mp h).2]; rfl
  · exact isDigit_of_mem_natText h

structure Scientific where
  digits : Nat
  exponent : Int
  deriving DecidableEq

/-- The numbers that round to a binary64 number, in multiples of `1 / unit`: from `low` to `high`
around `value`, with the two ends if `closed`. -/
structure Window where
  low : Nat
  value : Nat
  high : Nat
  unit : Nat
  closed : Bool

namespace Window

def fractions : Nat := 1 <<< 52

/-- The window of `m * 2 ^ q`. A power of two has a lower neighbour at half the usual distance. -/
def ofDyadic (m : Nat) (q : Int) : Window :=
  let gap := if m = fractions ∧ -1074 < q then 1 else 2
  let up := (q - 2).toNat
  { low := (4 * m - gap) <<< up, value := (4 * m) <<< up, high := (4 * m + 2) <<< up,
    unit := 1 <<< (2 - q).toNat, closed := m % 2 == 0 }

def ofBits (bits : Nat) : Window :=
  let fraction := bits % fractions
  let exponent := bits / fractions % 2048
  if exponent = 0 then ofDyadic fraction (-1074)
  else ofDyadic (fractions + fraction) ((exponent : Int) - 1075)

def onGrid (w : Window) (k : Int) : Window :=
  let up := Nat.pow 10 (-k).toNat
  { w with low := w.low * up, value := w.value * up, high := w.high * up,
           unit := w.unit * Nat.pow 10 k.toNat }

def holds (w : Window) (c : Nat) : Bool :=
  if w.closed then w.low ≤ c * w.unit && c * w.unit ≤ w.high
  else w.low < c * w.unit && c * w.unit < w.high

/-- The whole number of steps in the window that is nearest to the value, if there is one; of two
that are equally near, the even one. -/
def nearest? (w : Window) : Option Nat :=
  let c := w.value / w.unit
  match w.holds c, w.holds (c + 1) with
  | false, false => none
  | true, false => some c
  | false, true => some (c + 1)
  | true, true =>
      if 2 * w.value < (2 * c + 1) * w.unit then some c
      else if (2 * c + 1) * w.unit < 2 * w.value then some (c + 1)
      else some (c + c % 2)

def order (w : Window) : Int :=
  if w.unit ≤ w.value then ((natText (w.value / w.unit)).length : Int) - 1
  else -((natText ((w.unit + w.value - 1) / w.value - 1)).length : Int)

def shortest (w : Window) : Scientific :=
  let found := (List.range 17).findSome? fun (n : Nat) =>
    let k := w.order - n
    (w.onGrid k).nearest?.map fun c => (⟨c, k⟩ : Scientific)
  found.getD ⟨0, 0⟩

end Window

structure Layout where
  leastPoint : Int
  greatestPoint : Int

/-- The text of a number with `ds` as its digits and the point `p` places after the first digit's
left edge: in place with at least one digit on each side, or else with a signed exponent. -/
def Layout.text (l : Layout) (ds : List Char) (p : Int) : List Char :=
  if l.leastPoint ≤ p ∧ p ≤ 0 then ['0', '.'] ++ List.replicate (-p).toNat '0' ++ ds
  else if 0 < p ∧ p ≤ l.greatestPoint then
    if (ds.length : Int) ≤ p then ds ++ List.replicate (p - ds.length).toNat '0' ++ ['.', '0']
    else ds.take p.toNat ++ '.' :: ds.drop p.toNat
  else
    let fraction := if ds.length ≤ 1 then [] else '.' :: ds.drop 1
    let exponent := if 1 ≤ p then '+' :: natText (p - 1).toNat else '-' :: natText (1 - p).toNat
    ds.take 1 ++ fraction ++ 'e' :: exponent

def trimZeros (ds : List Char) : List Char := (ds.reverse.dropWhile (· == '0')).reverse

def Scientific.text (s : Scientific) (l : Layout) : List Char :=
  let ds := natText s.digits
  l.text (trimZeros ds) (ds.length + s.exponent)

def Layout.floatText (l : Layout) (x : Float) : List Char :=
  let bits := x.toBits.toNat
  let magnitude := bits % (1 <<< 63)
  let sign := if magnitude < bits then ['-'] else []
  if magnitude = 0 then sign ++ ['0', '.', '0']
  else sign ++ (Window.ofBits magnitude).shortest.text l

/-- A number is an integer between `-2^63` and `2^64 - 1`, or a binary64 number. -/
inductive Number
  | int (n : Int)
  | float (x : Float)

/-- Whole numbers keep one zero after the point, and the point is written in place from `0.00001`
up to sixteen digits. -/
def Number.layout : Layout := ⟨-4, 16⟩

def Number.text : Number → List Char
  | .int n => intText n
  | .float x => Number.layout.floatText x

namespace Number

def int32? : Number → Option Int32
  | .int n =>
      if Int32.minValue.toInt ≤ n ∧ n ≤ Int32.maxValue.toInt then some (Int32.ofInt n) else none
  | .float _ => none

def int64? : Number → Option Int64
  | .int n =>
      if Int64.minValue.toInt ≤ n ∧ n ≤ Int64.maxValue.toInt then some (Int64.ofInt n) else none
  | .float _ => none

@[simp] theorem int32?_toInt (x : Int32) : int32? (.int x.toInt) = some x := by
  rw [int32?, if_pos ⟨Int32.minValue_le_toInt x, Int32.toInt_le x⟩, Int32.ofInt_toInt]

@[simp] theorem int64?_toInt (x : Int64) : int64? (.int x.toInt) = some x := by
  rw [int64?, if_pos ⟨Int64.minValue_le_toInt x, Int64.toInt_le x⟩, Int64.ofInt_toInt]

theorem int32?_int_eq_some_iff {n : Int} {x : Int32} : int32? (.int n) = some x ↔ n = x.toInt := by
  constructor
  · intro h
    simp only [int32?] at h
    split at h
    · next hr =>
        rw [Int32.toInt_minValue, Int32.toInt_maxValue] at hr
        rw [← Option.some.inj h, Int32.toInt_ofInt_of_le hr.1 (Int.lt_of_le_sub_one hr.2)]
    · simp at h
  · rintro rfl
    exact int32?_toInt x

theorem int64?_int_eq_some_iff {n : Int} {x : Int64} : int64? (.int n) = some x ↔ n = x.toInt := by
  constructor
  · intro h
    simp only [int64?] at h
    split at h
    · next hr =>
        rw [Int64.toInt_minValue, Int64.toInt_maxValue] at hr
        rw [← Option.some.inj h, Int64.toInt_ofInt_of_le hr.1 (Int.lt_of_le_sub_one hr.2)]
    · simp at h
  · rintro rfl
    exact int64?_toInt x

end Number

end SiteAccess.Decimal
