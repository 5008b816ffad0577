import SiteAccess.Decimal.Number
import SiteAccess.Text
import SiteAccess.Time.Date

namespace SiteAccess.Time

open Decimal Text

namespace Instant

/-- Four digits from year 0 to 9999, and otherwise a sign before at least four digits. -/
def yearText (y : Int) : List Char :=
  if 0 ≤ y ∧ y ≤ 9999 then padded 4 y.toNat
  else (if 0 ≤ y then '+' else '-') :: padded 4 y.natAbs

/-- The fewest of 0, 3, 6 and 9 digits that are exact. -/
def fractionText (nanos : Nat) : List Char :=
  if nanos = 0 then []
  else if nanos % 1000000 = 0 then '.' :: padded 3 (nanos / 1000000)
  else if nanos % 1000 = 0 then '.' :: padded 6 (nanos / 1000)
  else '.' :: padded 9 nanos

def timeText (secondOfDay nanos : Nat) : List Char :=
  let second := secondOfDay % 60 + nanos / 1000000000
  padded 2 (secondOfDay / 3600) ++ ':' :: padded 2 (secondOfDay / 60 % 60) ++
    ':' :: padded 2 second ++ fractionText (nanos % 1000000000)

def text (t : Instant) : List Char :=
  yearText t.date.year ++ '-' :: padded 2 t.date.month ++ '-' :: padded 2 t.date.day ++
    'T' :: timeText t.secondOfDay t.nanos ++ ['Z']

end Instant

namespace Timestamp

def number? (most : Nat) (cs : List Char) : Option (Nat × List Char) :=
  let ds := (cs.take most).takeWhile Char.isDigit
  if ds.isEmpty then none else some (natValue ds, cs.drop ds.length)

def sized? (most : Nat) (cs : List Char) : Option (Nat × List Char) := number? most (trimStart cs)

def expect? (c : Char) : List Char → Option (List Char)
  | [] => none
  | d :: rest => if d = c then some rest else none

/-- A character that has to come next, but for blanks before it. -/
def mark? (c : Char) (cs : List Char) : Option (List Char) := expect? c (trimStart cs)

def year? (cs : List Char) : Option (Int × List Char) :=
  match trimStart cs with
  | '-' :: ds => (number? ds.length ds).map fun (n, rest) => (-(n : Int), rest)
  | '+' :: ds => (number? ds.length ds).map fun (n, rest) => ((n : Int), rest)
  | ds => (number? 4 ds).map fun (n, rest) => ((n : Int), rest)

def date? (cs : List Char) : Option (Date × List Char) := do
  let (year, cs) ← year? cs
  let (month, cs) ← sized? 2 (← mark? '-' cs)
  let (day, cs) ← sized? 2 (← mark? '-' cs)
  return (⟨year, month, day⟩, cs)

/-- Nanoseconds from the first nine digits of a fraction; the digits after them are dropped. -/
def fraction? : List Char → Option (Nat × List Char)
  | '.' :: cs => do
      let (n, rest) ← number? 9 cs
      let read := cs.length - rest.length
      return (n * Nat.pow 10 (9 - read), rest.dropWhile Char.isDigit)
  | cs => some (0, cs)

structure Clock where
  hour : Nat
  minute : Nat
  second : Nat
  nanos : Nat

def clock? (cs : List Char) : Option (Clock × List Char) := do
  let (hour, cs) ← sized? 2 cs
  let (minute, cs) ← sized? 2 (← mark? ':' cs)
  let (second, cs) ← sized? 2 (← mark? ':' cs)
  let (nanos, cs) ← fraction? cs
  return (⟨hour, minute, second, nanos⟩, cs)

def Clock.isValid (c : Clock) : Bool := c.hour < 24 && c.minute < 60 && c.second ≤ 60

/-- Second 60 counts as second 59 with another billion of nanoseconds. -/
def Clock.secondOfDay (c : Clock) : Nat := 3600 * c.hour + 60 * c.minute + min c.second 59

def Clock.allNanos (c : Clock) : Nat := c.nanos + if c.second = 60 then 1000000000 else 0

def isOffsetSeparator (c : Char) : Bool := c == ':' || isBlank c

/-- Two digits of hours and two of minutes, in seconds; colons and blanks between them do not
count. -/
def offset? (cs : List Char) : Option (Nat × List Char) :=
  match cs with
  | a :: b :: rest =>
      match rest.dropWhile isOffsetSeparator with
      | c :: d :: rest =>
          if [a, b, c, d].all Char.isDigit && natValue [c, d] < 60 then
            some (3600 * natValue [a, b] + 60 * natValue [c, d], rest)
          else none
      | _ => none
  | _ => none

/-- How many seconds local time is ahead of universal time. A minus sign may be the hyphen or the
mathematical one. -/
def zone? (cs : List Char) : Option (Int × List Char) :=
  if sameWord (String.ofList (cs.take 3)) "UTC" then some (0, cs.drop 3)
  else match cs with
    | 'Z' :: rest | 'z' :: rest => some (0, rest)
    | '+' :: rest => (offset? rest).map fun (n, rest) => ((n : Int), rest)
    | '-' :: rest | '\u2212' :: rest => (offset? rest).map fun (n, rest) => (-(n : Int), rest)
    | _ => none

def isDateEnd (c : Char) : Bool := c == 'T' || c == 't' || c == ' '

def dateEnd? : List Char → Option (List Char)
  | [] => none
  | c :: rest => if isDateEnd c then some rest else none

def instant? (d : Date) (c : Clock) (offset : Int) : Option Instant :=
  if firstYear ≤ d.year ∧ d.year ≤ lastYear ∧ d.isValid ∧ c.isValid ∧ offset.natAbs < 86400 then
    Instant.ofSeconds? (86400 * d.dayNumber + c.secondOfDay - offset) c.allNanos
  else none

def read? (s : String) : Option Instant := do
  let (date, cs) ← date? s.toList
  let (clock, cs) ← clock? (← dateEnd? cs)
  let (offset, cs) ← zone? (trimStart cs)
  if (trimStart cs).isEmpty then instant? date clock offset else none

end Timestamp

end SiteAccess.Time
