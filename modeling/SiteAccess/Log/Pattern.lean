import SiteAccess.Log.Pattern.Brackets
import SiteAccess.Text.Letter

namespace SiteAccess.Log

open Text

namespace Pattern

structure Group where
  mode : Mode
  choices : Parts
  parts : Parts

namespace Group

def start (m : Mode) : Group := ⟨m, .empty, .empty⟩

def add (g : Group) (depth : Nat) : Group := { g with parts := g.parts.add depth }

def bar (g : Group) : Group := { g with choices := g.choices.add g.parts.whole, parts := .empty }

def depth (g : Group) : Nat := g.bar.choices.whole

end Group

structure State where
  group : Group
  outer : List Group
  /-- The depth of what came just before, if that can be repeated. -/
  last : Option Nat
  names : List (List Char)

namespace State

def start : State := ⟨.start .plain, [], none, []⟩

def mode (s : State) : Mode := s.group.mode

def add (s : State) (depth : Nat) : State := { s with group := s.group.add depth, last := some depth }

def bar (s : State) : State := { s with group := s.group.bar, last := none }

def openGroup (s : State) (m : Mode) : State :=
  { s with group := .start m, outer := s.group :: s.outer, last := none }

def closeGroup? (s : State) : Option State :=
  match s.outer with
  | [] => none
  | g :: outer => some (State.add { s with group := g, outer } (s.group.depth + 1))

def setMode (s : State) (m : Mode) : State :=
  { s with group := { s.group.add 0 with mode := m }, last := none }

/-- A repetition takes the place of what it repeats. -/
def repeat? (s : State) : Option State :=
  s.last.map fun depth =>
    let parts := { s.group.parts with depth := max s.group.parts.depth (depth + 1) }
    { s with group := { s.group with parts }, last := some (depth + 1) }

def isName : List Char → Bool
  | [] => false
  | c :: cs =>
      (c == '_' || isLetter c) &&
        cs.all fun d => d == '_' || d == '.' || d == '[' || d == ']' || isLetterOrNumber d

def namedGroup? (s : State) (cs : List Char) : Option (State × List Char) :=
  let name := cs.takeWhile (· != '>')
  match cs.dropWhile (· != '>') with
  | '>' :: rest =>
      if isName name && !s.names.contains name then
        some ({ s.openGroup s.mode with names := name :: s.names }, rest)
      else none
  | _ => none

def isFlagsEnd (c : Char) : Bool := c == ':' || c == ')'

def flags? (s : State) (cs : List Char) : Option (State × List Char) := do
  let flags := cs.takeWhile (!isFlagsEnd ·)
  let m ← s.mode.withFlags? true [] flags
  match cs.dropWhile (!isFlagsEnd ·) with
  | ':' :: rest => some (s.openGroup m, rest)
  | ')' :: rest => if flags.isEmpty then none else some (s.setMode m, rest)
  | _ => none

def group? (s : State) (cs : List Char) : Option (State × List Char) :=
  match s.mode.skip cs with
  | '?' :: 'P' :: '<' :: rest | '?' :: '<' :: rest => s.namedGroup? rest
  | '?' :: rest => s.flags? rest
  | rest => some (s.openGroup s.mode, rest)

def escape? (s : State) (cs : List Char) : Option (State × List Char) := do
  let (e, rest) ← Escape.read? s.mode cs
  let holds := match e with
    | .char c isByte => s.mode.knowsCases && !(s.mode.ascii && isByte && !Escape.isAscii c)
    | .kind isNegated => s.mode.knowsKind isNegated
    | .textEdge => true
    | .wordEdge => s.mode.ascii
  if holds then some (s.add 0, rest) else none

/-- Reads one element, if there is one to read. A counted repetition has no place in a field, whose
braces it would need. -/
def step? (s : State) : List Char → Option (State × List Char)
  | [] => none
  | c :: rest =>
      match c with
      | '(' => s.group? rest
      | ')' => s.closeGroup?.map (·, rest)
      | '|' => some (s.bar, rest)
      | '[' => (Brackets.read? s.mode rest).map fun (depth, rest) => (s.add depth, rest)
      | '\\' => s.escape? rest
      | '?' | '*' | '+' =>
          match rest with
          | '?' :: rest => s.repeat?.map (·, rest)
          | rest => s.repeat?.map (·, rest)
      | '{' => none
      | '.' => if s.mode.ascii then none else some (s.add 0, rest)
      | '^' | '$' => some (s.add 0, rest)
      | _ => if s.mode.knowsCases then some (s.add 0, rest) else none

def reads : Nat → State → List Char → Bool
  | 0, _, _ => false
  | fuel + 1, s, cs =>
      match s.mode.skip cs with
      | [] => s.outer.isEmpty && s.group.depth ≤ greatestDepth
      | cs =>
          match s.step? cs with
          | some (s, rest) => reads fuel s rest
          | none => false

end State

def isWellFormed (cs : List Char) : Bool := State.start.reads (cs.length + 1) cs

end Pattern

end SiteAccess.Log
