import SiteAccess.Decimal.Literal
import SiteAccess.Json.Doc

namespace SiteAccess.Json.Doc

def isSpace (c : Char) : Bool := c == ' ' || c == '\n' || c == '\r' || c == '\t'

def skipSpaces (cs : List Char) : List Char := cs.dropWhile isSpace

def readNumber (cs : List Char) : Doc × List Char :=
  match Decimal.Literal.read? cs with
  | some (l, rest) => (.num l.number?, rest)
  | none => (.broken, [])

def readString (cs : List Char) : Doc × List Char :=
  match Quoted.read? cs with
  | some (s, rest) => (.str s, rest)
  | none => (.broken, [])

def readName? (cs : List Char) : Option (Option String × List Char) :=
  match skipSpaces cs with
  | '"' :: cs =>
      match Quoted.read? cs with
      | some (name, rest) =>
          match skipSpaces rest with
          | ':' :: rest => some (name, rest)
          | _ => none
      | none => none
  | _ => none

mutual

def read (fuel : Nat) (cs : List Char) : Doc × List Char :=
  match fuel with
  | 0 => (.broken, [])
  | fuel + 1 =>
      match skipSpaces cs with
      | 'n' :: 'u' :: 'l' :: 'l' :: rest => (.null, rest)
      | 't' :: 'r' :: 'u' :: 'e' :: rest => (.bool true, rest)
      | 'f' :: 'a' :: 'l' :: 's' :: 'e' :: rest => (.bool false, rest)
      | '"' :: rest => readString rest
      | '[' :: rest =>
          match skipSpaces rest with
          | ']' :: rest => (.arr [], rest)
          | rest =>
              let (items, rest) := readItems fuel rest
              (.arr items, rest)
      | '\x7b' :: rest =>
          match skipSpaces rest with
          | '\x7d' :: rest => (.obj [], rest)
          | rest =>
              let (members, rest) := readMembers fuel rest
              (.obj members, rest)
      | rest => readNumber rest

def readItems (fuel : Nat) (cs : List Char) : List Doc × List Char :=
  match fuel with
  | 0 => ([.broken], [])
  | fuel + 1 =>
      let (d, rest) := read fuel cs
      match skipSpaces rest with
      | ']' :: rest => ([d], rest)
      | ',' :: rest =>
          let (ds, rest) := readItems fuel rest
          (d :: ds, rest)
      | _ => ([d, .broken], [])

def readMembers (fuel : Nat) (cs : List Char) : List (Option String × Doc) × List Char :=
  match fuel with
  | 0 => ([(none, .broken)], [])
  | fuel + 1 =>
      match readName? cs with
      | none => ([(none, .broken)], [])
      | some (name, rest) =>
          let (d, rest) := read fuel rest
          match skipSpaces rest with
          | '\x7d' :: rest => ([(name, d)], rest)
          | ',' :: rest =>
              let (ms, rest) := readMembers fuel rest
              ((name, d) :: ms, rest)
          | _ => ([(name, d), (none, .broken)], [])

end

/-- The document at the front of a text, and what follows it. No character takes more than two
nested steps. -/
def ofText (s : String) : Doc × List Char := read (2 * s.toList.length + 1) s.toList

end Doc

def readText? {α : Type} (read? : Doc → Option α) (s : String) : Option α :=
  match Doc.ofText s with
  | (d, rest) => if (Doc.skipSpaces rest).isEmpty then read? d else none

def ofText? (s : String) : Option Json := readText? Doc.toJson? s

end SiteAccess.Json
