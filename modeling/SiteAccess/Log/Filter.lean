import SiteAccess.Log.Event
import SiteAccess.Log.Pattern

namespace SiteAccess.Log

open Decimal Text

namespace Field

def value? (field : List Char) : Option (List Char) :=
  match field.dropWhile (· != '=') with
  | [] => none
  | _ :: rest => some (rest.takeWhile (· != '='))

def withoutSign : List Char → List Char
  | '+' :: cs | '-' :: cs => cs
  | cs => cs

def isExponent : List Char → Bool
  | [] => true
  | c :: cs =>
      let ds := withoutSign cs
      (c == 'e' || c == 'E') && !ds.isEmpty && ds.all Char.isDigit

def isDecimal (cs : List Char) : Bool :=
  let (whole, rest) := splitDigits cs
  let (fraction, rest) := match rest with
    | '.' :: rest => splitDigits rest
    | rest => ([], rest)
  !(whole ++ fraction).isEmpty && isExponent rest

def isNumeral (cs : List Char) : Bool :=
  let unsigned := withoutSign cs
  isDecimal unsigned ||
    ["inf", "infinity", "nan"].any fun word => sameWord word (String.ofList unsigned)

def isValid (field : List Char) : Bool :=
  (value? field).all fun v => isNumeral v || Pattern.isWellFormed v

end Field

namespace Level

def ofName? (s : String) : Option Level := all.find? fun l => sameWord l.name s

def ofNumber? (cs : List Char) : Option Level :=
  let ds := match cs with
    | '+' :: ds => ds
    | ds => ds
  if !ds.isEmpty && ds.all Char.isDigit then all[natValue ds]? else none

def parse? (cs : List Char) : Option Level :=
  match ofNumber? cs with
  | some l => some l
  | none => ofName? (String.ofList cs)

end Level

namespace Filter

/-- The level that a piece has from a byte on. To say none is to ask for the most verbose one. -/
def assigned? (piece : List Char) (start : Nat) : Option Level :=
  match dropBytes? start piece with
  | none => none
  | some [] => some .trace
  | some level => Level.parse? level

def afterSpan? (piece : List Char) (start : Nat) : List Char → Option Level
  | [] => some .trace
  | '=' :: _ => assigned? piece (start + 1)
  | _ => none

/-- A field within braces, up to the bracket that closes the span. To filter by the value of a field
takes every level. -/
def field? (piece : List Char) (start : Nat) (cs : List Char) : Option Level := do
  let size := byteSize (cs.takeWhile (· != '\x7d'))
  match cs.dropWhile (· != '\x7d') with
  | '\x7d' :: ']' :: rest =>
      let field ← takeBytes? size (← dropBytes? start piece)
      if field.isEmpty || !Field.isValid field then none
      else
        let level ← afterSpan? piece (start + size + 2) rest
        return if (Field.value? field).isSome then .trace else level
  | _ => none

def span? (piece : List Char) (start : Nat) (cs : List Char) : Option Level :=
  let isEnd (c : Char) := c == ']' || c == '\x7b'
  let next := start + byteSize (cs.takeWhile (!isEnd ·)) + 1
  match cs.dropWhile (!isEnd ·) with
  | ']' :: rest => afterSpan? piece next rest
  | '\x7b' :: rest => field? piece next rest
  | _ => none

def isFirst (c : Char) : Bool := c == '-' || c == ':' || c == '_' || isLetterOrNumber c

/-- The level of a directive. The places of its parts are counted without the blanks around it, but
the parts are taken from the piece with its blanks. A word alone that is no level is a target with
every level. -/
def directive? (piece : List Char) : Option Level :=
  let isEnd (c : Char) := c == '=' || c == '['
  match trimEnd (trimStart piece) with
  | [] => none
  | '[' :: rest => span? piece 1 rest
  | c :: cs =>
      if isFirst c then
        let next := byteSize ((c :: cs).takeWhile (!isEnd ·)) + 1
        match (c :: cs).dropWhile (!isEnd ·) with
        | [] => some ((Level.parse? piece).getD .trace)
        | '=' :: _ => assigned? piece next
        | _ :: rest => span? piece next rest
      else none

/-- The level of a filter, none for an invalid one. Empty pieces do not count, and a filter without
directives lets nothing pass. -/
def parse? (s : String) : Option Level :=
  (((s.toList.splitOn ',').filter (!·.isEmpty)).mapM directive?).map Level.most

end Filter

end SiteAccess.Log
