import SiteAccess.Decimal.Number
import SiteAccess.Text

namespace SiteAccess

open Decimal

inductive Json
  | null
  | bool (b : Bool)
  | num (n : Number)
  | str (s : String)
  | arr (items : List Json)
  | obj (members : List (String × Json))

namespace Json

inductive Kind
  | null
  | boolean
  | number
  | string
  | array
  | object
  deriving DecidableEq

def Kind.name : Kind → String
  | .null => "null"
  | .boolean => "boolean"
  | .number => "number"
  | .string => "string"
  | .array => "array"
  | .object => "object"

def kind : Json → Kind
  | .null => .null
  | .bool _ => .boolean
  | .num _ => .number
  | .str _ => .string
  | .arr _ => .array
  | .obj _ => .object

def int (n : Int) : Json := .num (.int n)

def option {α : Type} (f : α → Json) : Option α → Json
  | none => .null
  | some a => f a

end Json

def lastWith {α : Type} (name : String) (pairs : List (String × α)) : Option α :=
  pairs.foldl (fun found p => if p.1 = name then some p.2 else found) none

/-- The pairs without those that a later pair with the same key replaces. -/
def dropReplaced {κ α : Type} [DecidableEq κ] : List (κ × α) → List (κ × α)
  | [] => []
  | p :: ps => if ps.any (·.1 = p.1) then dropReplaced ps else p :: dropReplaced ps

namespace Json.Quoted

open Text

inductive Piece
  | plain (c : Char)
  | unit (n : Nat)

def shortEscapes : List (Char × Char) :=
  [('"', '"'), ('\\', '\\'), ('\x08', 'b'), ('\x0c', 'f'), ('\n', 'n'), ('\r', 'r'), ('\t', 't')]

def encodeChar (c : Char) : List Char :=
  match shortEscapes.lookup c with
  | some letter => ['\\', letter]
  | none =>
      if c.toNat < 0x20 then ['\\', 'u', '0', '0', hexDigit (c.toNat / 16), hexDigit (c.toNat % 16)]
      else [c]

def encode (s : String) : List Char := '"' :: s.toList.flatMap encodeChar ++ ['"']

def escaped? (letter : Char) : Option Char :=
  if letter = '/' then some '/' else (shortEscapes.find? (·.2 == letter)).map (·.1)

def scan? : List Char → Option (List Piece × List Char)
  | [] => none
  | '"' :: rest => some ([], rest)
  | '\\' :: 'u' :: a :: b :: c :: d :: rest => do
      let n ← hexNumber? [a, b, c, d]
      let (pieces, rest) ← scan? rest
      return (.unit n :: pieces, rest)
  | '\\' :: letter :: rest => do
      let c ← escaped? letter
      let (pieces, rest) ← scan? rest
      return (.plain c :: pieces, rest)
  | c :: rest =>
      if c.toNat < 0x20 then none
      else do
        let (pieces, rest) ← scan? rest
        return (.plain c :: pieces, rest)

def isHighSurrogate (n : Nat) : Bool := 0xD800 ≤ n && n < 0xDC00

def isLowSurrogate (n : Nat) : Bool := 0xDC00 ≤ n && n < 0xE000

/-- The characters that the pieces stand for; none if a surrogate is not in a pair. -/
def join? : List Piece → Option (List Char)
  | [] => some []
  | .plain c :: ps => (join? ps).map (c :: ·)
  | .unit n :: .unit m :: ps =>
      if isHighSurrogate n then
        if isLowSurrogate m then
          (join? ps).map (Char.ofNat (0x10000 + (n - 0xD800) * 0x400 + (m - 0xDC00)) :: ·)
        else none
      else if isLowSurrogate n then none
      else (join? (.unit m :: ps)).map (Char.ofNat n :: ·)
  | .unit n :: ps =>
      if isHighSurrogate n || isLowSurrogate n then none else (join? ps).map (Char.ofNat n :: ·)

/-- The string after an opening quote, and what follows it. The outer option is none where the text
is malformed, the inner one where it is well formed but names no string. -/
def read? (cs : List Char) : Option (Option String × List Char) :=
  (scan? cs).map fun (pieces, rest) => ((join? pieces).map String.ofList, rest)

end Json.Quoted

namespace Json

def literal (s : String) : List Char := s.toList

mutual

def write : Json → List Char
  | .null => literal "null"
  | .bool true => literal "true"
  | .bool false => literal "false"
  | .num n => n.text
  | .str s => Quoted.encode s
  | .arr items => '[' :: writeItems items
  | .obj members => '\x7b' :: writeMembers members

def writeItems : List Json → List Char
  | [] => [']']
  | [v] => write v ++ [']']
  | v :: w :: rest => write v ++ ',' :: writeItems (w :: rest)

def writeMembers : List (String × Json) → List Char
  | [] => ['\x7d']
  | [m] => writeMember m ++ ['\x7d']
  | m :: n :: rest => writeMember m ++ ',' :: writeMembers (n :: rest)

def writeMember : String × Json → List Char
  | (name, v) => Quoted.encode name ++ ':' :: write v

end

def render (v : Json) : String := String.ofList v.write

end Json

end SiteAccess
