import SiteAccess.Text

namespace SiteAccess.Log.Pattern

open Text

/-- Parts that stand side by side: how many they are, and how deep the deepest of them nests. -/
structure Parts where
  count : Nat
  depth : Nat
  deriving DecidableEq

namespace Parts

def empty : Parts := ⟨0, 0⟩

def add (p : Parts) (depth : Nat) : Parts := ⟨p.count + 1, max p.depth depth⟩

/-- Several parts are held together by something that nests one deeper than they do. A single part
stands for itself. -/
def whole (p : Parts) : Nat := if p.count ≤ 1 then p.depth else p.depth + 1

end Parts

def greatestDepth : Nat := 250

structure Mode where
  anyCase : Bool
  /-- What is matched are bytes, of which only those of ASCII can be listed. -/
  ascii : Bool
  /-- Blanks in the pattern do not count, nor does a line from a number sign on. -/
  spaced : Bool
  deriving DecidableEq

namespace Mode

def plain : Mode := ⟨false, false, false⟩

/-- Without a table of cases, nothing beyond ASCII is matched in any case. -/
def knowsCases (m : Mode) : Bool := m.ascii || !m.anyCase

def allFlags : List Char := ['i', 'm', 's', 'U', 'u', 'R', 'x']

def set (m : Mode) (flag : Char) (on : Bool) : Mode :=
  match flag with
  | 'i' => { m with anyCase := on }
  | 'u' => { m with ascii := !on }
  | 'x' => { m with spaced := on }
  | _ => m

def withFlags? (on : Bool) (seen : List Char) (m : Mode) : List Char → Option Mode
  | [] => some m
  | ['-'] => none
  | c :: cs =>
      if c = '-' then if on then withFlags? false seen m cs else none
      else if allFlags.contains c && !seen.contains c then
        withFlags? on (c :: seen) (m.set c on) cs
      else none

def skipComments (inComment : Bool) : List Char → List Char
  | [] => []
  | c :: cs =>
      if inComment then skipComments (c != '\n') cs
      else if c = '#' then skipComments true cs
      else if isBlank c then skipComments false cs
      else c :: cs

def skip (m : Mode) (cs : List Char) : List Char := if m.spaced then skipComments false cs else cs

/-- The character that is looked at ahead. Of a comment only the number sign is passed over. -/
def ahead? (m : Mode) (cs : List Char) : Option Char :=
  if m.spaced then
    match cs.dropWhile isBlank with
    | '#' :: rest => (rest.dropWhile isBlank).head?
    | rest => rest.head?
  else cs.head?

end Mode

inductive Escape
  | char (c : Char) (isByte : Bool)
  | kind (isNegated : Bool)
  | textEdge
  | wordEdge

namespace Escape

def controls : List (Char × Char) :=
  [('a', '\x07'), ('f', '\x0c'), ('t', '\t'), ('n', '\n'), ('r', '\r'), ('v', '\x0b')]

def isAscii (c : Char) : Bool := c.toNat < 128

def isMark (c : Char) : Bool := isAscii c && !c.isAlphanum

def digits? (m : Mode) : Nat → List Char → Option (List Char × List Char)
  | 0, cs => some ([], cs)
  | n + 1, cs =>
      match m.skip cs with
      | [] => none
      | c :: rest => do
          let (ds, rest) ← digits? m n rest
          return (c :: ds, rest)

def hex? (m : Mode) (count : Nat) (cs : List Char) : Option (Char × List Char) := do
  let (ds, rest) ← digits? m count cs
  let n ← hexNumber? ds
  if n.isValidChar then some (Char.ofNat n, rest) else none

def read? (m : Mode) : List Char → Option (Escape × List Char)
  | [] => none
  | c :: rest =>
      match c with
      | 'x' => (hex? m 2 rest).map fun (c, rest) => (.char c true, rest)
      | 'u' => (hex? m 4 rest).map fun (c, rest) => (.char c false, rest)
      | 'U' => (hex? m 8 rest).map fun (c, rest) => (.char c false, rest)
      | 'd' | 's' | 'w' => some (.kind false, rest)
      | 'D' | 'S' | 'W' => some (.kind true, rest)
      | 'A' | 'z' => some (.textEdge, rest)
      | 'b' | 'B' | '<' | '>' => some (.wordEdge, rest)
      | c =>
          match controls.lookup c with
          | some control => some (.char control false, rest)
          | none => if isMark c then some (.char c false, rest) else none

end Escape

namespace Mode

def lists (m : Mode) (c : Char) : Bool := m.knowsCases && (!m.ascii || Escape.isAscii c)

/-- Kinds of characters are known for ASCII alone, where the rest cannot be listed. -/
def knowsKind (m : Mode) (isNegated : Bool) : Bool := m.ascii && !isNegated

end Mode

structure Brackets where
  /-- There was nothing yet but hyphens, which are members at this place. -/
  isFresh : Bool
  left : Option Nat
  members : Parts

namespace Brackets

def start : Brackets := ⟨true, none, .empty⟩

def add (b : Brackets) (depth : Nat) : Brackets :=
  { b with isFresh := false, members := b.members.add depth }

def depth (b : Brackets) : Nat :=
  match b.left with
  | none => b.members.whole
  | some left => max left b.members.whole + 1

/-- A doubled sign combines what comes after it with all that was before. -/
def combine (b : Brackets) : Brackets := ⟨false, some b.depth, .empty⟩

def member? (m : Mode) : List Char → Option (Option Char × List Char)
  | [] => none
  | '\\' :: cs =>
      match Escape.read? m cs with
      | some (.char c _, rest) => if m.lists c then some (some c, rest) else none
      | some (.kind isNegated, rest) => if m.knowsKind isNegated then some (none, rest) else none
      | _ => none
  | c :: rest => if m.lists c then some (some c, rest) else none

/-- What follows a member or a range. A hyphen before another or before the closing bracket makes no
range. -/
def afterRange? (m : Mode) (cs : List Char) : Option (List Char) := do
  let (first, rest) ← member? m cs
  match m.skip rest with
  | '-' :: rest =>
      if m.ahead? rest = some ']' ∨ m.ahead? rest = some '-' then some ('-' :: rest)
      else do
        let (last, rest) ← member? m (m.skip rest)
        if (← first) ≤ (← last) then some rest else none
  | rest => some rest

def kindNames : List String :=
  ["alnum", "alpha", "ascii", "blank", "cntrl", "digit", "graph", "lower", "print", "punct",
    "space", "upper", "word", "xdigit"]

def named? : List Char → Option (Bool × List Char)
  | ':' :: cs =>
      let (isNegated, cs) := match cs with
        | '^' :: cs => (true, cs)
        | cs => (false, cs)
      match cs.dropWhile (· != ':') with
      | ':' :: ']' :: rest =>
          if kindNames.contains (String.ofList (cs.takeWhile (· != ':'))) then
            some (isNegated, rest)
          else none
      | _ => none
  | _ => none

/-- What follows the opening of a class. Beyond ASCII nothing can be listed that a class leaves
out. -/
def afterOpening? (m : Mode) (cs : List Char) : Option (List Char) :=
  match m.skip cs with
  | '^' :: rest => if m.ascii then none else some rest
  | rest => some rest

/-- The depth of the outermost class, and what follows it. A closing bracket right at the start is
a member. -/
def close? (m : Mode) : Nat → Brackets → List Brackets → List Char → Option (Nat × List Char)
  | 0, _, _, _ => none
  | fuel + 1, b, outer, cs =>
      match m.skip cs with
      | [] => none
      | ']' :: rest =>
          if b.isFresh && b.members.count == 0 then
            if m.lists ']' then close? m fuel (b.add 0) outer rest else none
          else match outer with
            | [] => some (b.depth + 1, rest)
            | o :: outer => close? m fuel (o.add (b.depth + 1)) outer rest
      | '[' :: rest =>
          match named? rest with
          | some (isNegated, rest) =>
              if m.knowsCases && !(m.ascii && isNegated) then close? m fuel (b.add 0) outer rest
              else none
          | none => do close? m fuel start (b :: outer) (← afterOpening? m rest)
      | '-' :: rest =>
          if b.isFresh then
            if m.lists '-' then close? m fuel { b with members := b.members.add 0 } outer rest
            else none
          else match rest with
            | '-' :: rest => close? m fuel b.combine outer rest
            | rest => do close? m fuel (b.add 0) outer (← afterRange? m ('-' :: rest))
      | '&' :: '&' :: rest | '~' :: '~' :: rest => close? m fuel b.combine outer rest
      | cs => do close? m fuel (b.add 0) outer (← afterRange? m cs)

def read? (m : Mode) (cs : List Char) : Option (Nat × List Char) := do
  close? m (cs.length + 1) start [] (← afterOpening? m cs)

end Brackets

end SiteAccess.Log.Pattern
