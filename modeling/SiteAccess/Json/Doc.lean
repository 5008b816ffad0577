import SiteAccess.Json.Value

namespace SiteAccess.Json

open Decimal

inductive Doc
  | broken
  | null
  | bool (b : Bool)
  /-- None is a literal beyond all numbers. -/
  | num (n : Option Number)
  /-- None is a string with a surrogate that is not in a pair. -/
  | str (s : Option String)
  | arr (items : List Doc)
  | obj (members : List (Option String × Doc))

namespace Doc

mutual

def isWhole : Doc → Bool
  | .broken => false
  | .null | .bool _ | .num _ | .str _ => true
  | .arr items => areWhole items
  | .obj members => membersWhole members

def areWhole : List Doc → Bool
  | [] => true
  | d :: ds => d.isWhole && areWhole ds

def membersWhole : List (Option String × Doc) → Bool
  | [] => true
  | m :: ms => memberWhole m && membersWhole ms

def memberWhole : Option String × Doc → Bool
  | (_, d) => d.isWhole

end

mutual

def value? (depth : Nat) : Doc → Option Json
  | .broken => none
  | .null => some .null
  | .bool b => some (.bool b)
  | .num n => n.map .num
  | .str s => s.map .str
  | .arr items =>
      match depth with
      | 0 => none
      | depth + 1 => (items? depth items).map .arr
  | .obj members =>
      match depth with
      | 0 => none
      | depth + 1 => (members? depth members).map fun ms => .obj (dropReplaced ms)

def items? (depth : Nat) : List Doc → Option (List Json)
  | [] => some []
  | d :: ds => do
      let v ← d.value? depth
      let vs ← items? depth ds
      return v :: vs

def members? (depth : Nat) : List (Option String × Doc) → Option (List (String × Json))
  | [] => some []
  | m :: ms => do
      let v ← member? depth m
      let vs ← members? depth ms
      return v :: vs

def member? (depth : Nat) : Option String × Doc → Option (String × Json)
  | (name, d) => do
      let name ← name
      let v ← d.value? depth
      return (name, v)

end

def greatestDepth : Nat := 127

def toJson? (d : Doc) : Option Json := d.value? greatestDepth

mutual

def ofJson : Json → Doc
  | .null => .null
  | .bool b => .bool b
  | .num n => .num (some n)
  | .str s => .str (some s)
  | .arr items => .arr (ofItems items)
  | .obj members => .obj (dropReplaced (ofMembers members))

def ofItems : List Json → List Doc
  | [] => []
  | v :: vs => ofJson v :: ofItems vs

def ofMembers : List (String × Json) → List (Option String × Doc)
  | [] => []
  | m :: ms => ofMember m :: ofMembers ms

def ofMember : String × Json → Option String × Doc
  | (name, v) => (some name, ofJson v)

end

theorem ofItems_eq_map (vs : List Json) : ofItems vs = vs.map ofJson := by
  induction vs with
  | nil => rfl
  | cons v vs ih => simp [ofItems, ih]

theorem ofMembers_eq_map (ms : List (String × Json)) :
    ofMembers ms = ms.map fun m => (some m.1, ofJson m.2) := by
  induction ms with
  | nil => rfl
  | cons m ms ih => cases m; simp [ofMembers, ofMember, ih]

def bool? : Doc → Option Bool
  | .bool b => some b
  | _ => none

def string? : Doc → Option String
  | .str s => s
  | _ => none

def int32? : Doc → Option Int32
  | .num (some n) => n.int32?
  | _ => none

def list? {α : Type} (item? : Doc → Option α) : Doc → Option (List α)
  | .arr items => items.mapM item?
  | _ => none

/-- A word stands as a string or as the only member of an object, with null for its value. -/
def word? {α : Type} (meaning? : String → Option α) : Doc → Option α
  | .str (some s) => meaning? s
  | .obj [(some s, .null)] => meaning? s
  | _ => none

def nullable? {α : Type} (value? : Doc → Option α) : Doc → Option (Option α)
  | .null => some none
  | d => (value? d).map some

/-- A member of a record is named once if a field is called so. Other members are passed over, as
long as they are well formed. -/
def acceptable (names : List String) : List (Option String × Doc) → Bool
  | [] => true
  | (none, _) :: _ => false
  | (some name, d) :: ms =>
      if names.contains name then !(ms.any (·.1 == some name)) && acceptable names ms
      else d.isWhole && acceptable names ms

/-- What a record holds for each of the named fields. A record is an object, or an array of the
fields' values in order, of which the first `required` have to be there. -/
def fields? (names : List String) (required : Nat) : Doc → Option (List (Option Doc))
  | .obj members =>
      if acceptable names members then some (names.map fun name => members.lookup (some name))
      else none
  | .arr items =>
      if required ≤ items.length ∧ items.length ≤ names.length then
        some (items.map some ++ List.replicate (names.length - items.length) none)
      else none
  | _ => none

end Doc

end SiteAccess.Json
