import SiteAccess.Decimal.Number

namespace SiteAccess.Decimal

structure Literal where
  negative : Bool
  whole : List Char
  fraction : Option (List Char)
  exponent : Option (Bool × List Char)

namespace Literal

def readDigits? (cs : List Char) : Option (List Char × List Char) :=
  match splitDigits cs with
  | ([], _) => none
  | split => some split

def readWhole? (cs : List Char) : Option (List Char × List Char) :=
  match readDigits? cs with
  | some ('0' :: _ :: _, _) => none
  | split => split

def readFraction? : List Char → Option (Option (List Char) × List Char)
  | '.' :: cs => (readDigits? cs).map fun (ds, rest) => (some ds, rest)
  | cs => some (none, cs)

def readExponentDigits? (negative : Bool) (cs : List Char) :
    Option (Option (Bool × List Char) × List Char) :=
  (readDigits? cs).map fun (ds, rest) => (some (negative, ds), rest)

def readExponent? : List Char → Option (Option (Bool × List Char) × List Char)
  | c :: cs =>
      if c = 'e' ∨ c = 'E' then
        match cs with
        | '+' :: ds => readExponentDigits? false ds
        | '-' :: ds => readExponentDigits? true ds
        | ds => readExponentDigits? false ds
      else some (none, c :: cs)
  | [] => some (none, [])

def readSign : List Char → Bool × List Char
  | '-' :: cs => (true, cs)
  | cs => (false, cs)

def read? (cs : List Char) : Option (Literal × List Char) := do
  let (negative, cs) := readSign cs
  let (whole, cs) ← readWhole? cs
  let (fraction, cs) ← readFraction? cs
  let (exponent, cs) ← readExponent? cs
  return (⟨negative, whole, fraction, exponent⟩, cs)

end Literal

/-- The leading digits of a literal as a natural number below `2^64`, and the digits after them. -/
structure Significand where
  value : Nat
  rest : List Char

def Significand.extend (v : Nat) : List Char → Significand
  | [] => ⟨v, []⟩
  | d :: ds =>
      let next := 10 * v + (d.toNat - '0'.toNat)
      if next < UInt64.size then extend next ds else ⟨v, d :: ds⟩

def powerOfTen (e : Nat) : Float := Float.ofScientific 1 false e

/-- `f * 10 ^ e` rounded after each step; no number where it exceeds the largest finite one. Three
divisions by `10 ^ 308` bring every number to zero. -/
def scale (f : Float) (e : Int) (rounds : Nat) : Option Float :=
  if e.natAbs ≤ 308 then
    if 0 ≤ e then
      let g := f * powerOfTen e.toNat
      if g.isInf then none else some g
    else some (f / powerOfTen e.natAbs)
  else if f == 0 then some f
  else if 0 ≤ e then none
  else match rounds with
    | 0 => some 0
    | rounds + 1 => scale (f / powerOfTen 308) (e + 308) rounds

namespace Literal

def signed (l : Literal) (x : Float) : Float := if l.negative then -x else x

/-- The exponent as written; none where its digits exceed the largest 32-bit integer. -/
def exponentValue? (l : Literal) : Option Int :=
  match l.exponent with
  | none => some 0
  | some (negative, ds) =>
      let n : Int := natValue ds
      if n ≤ Int32.maxValue.toInt then some (if negative then -n else n) else none

def exponentIsNegative (l : Literal) : Bool :=
  match l.exponent with
  | some (negative, _) => negative
  | none => false

/-- Digits before the point that no longer fit raise the exponent by one each; digits after the
point that no longer fit are dropped. -/
def float? (l : Literal) : Option Float :=
  let whole := Significand.extend 0 l.whole
  let fraction := l.fraction.getD []
  let all := Significand.extend whole.value fraction
  let point := (whole.rest.length : Int) - ((fraction.length - all.rest.length : Nat) : Int)
  match l.exponentValue? with
  | some e => (scale all.value.toUInt64.toFloat (point + e) 3).map l.signed
  | none =>
      if all.value = 0 ∨ l.exponentIsNegative then some (l.signed 0) else none

/-- A literal without fraction and exponent that fits is an integer, except for minus zero. -/
def integer? (l : Literal) : Option Int :=
  match l.fraction, l.exponent with
  | none, none =>
      let n : Int := natValue l.whole
      if l.negative then if 0 < n ∧ Int64.minValue.toInt ≤ -n then some (-n) else none
      else if n < UInt64.size then some n else none
  | _, _ => none

/-- The number of a literal; none where its magnitude exceeds every finite binary64 number. -/
def number? (l : Literal) : Option Number :=
  match l.integer? with
  | some n => some (.int n)
  | none => l.float?.map .float

end Literal

end SiteAccess.Decimal
