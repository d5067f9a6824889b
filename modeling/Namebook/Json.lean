/-!
JSON values. Lists and objects keep their order, and an object may name a field twice.
-/

namespace Namebook

inductive Json where
  | null
  | bool (value : Bool)
  | int (value : Int)
  /-- A number that is no integer of 64 bits. -/
  | real (value : Float)
  | text (value : String)
  | list (items : List Json)
  | record (fields : List (String × Json))
  /-- What is written as a string or a number and is none: a string with half of a surrogate pair,
  or a number beyond all floats. -/
  | void
  /-- The value of a field whose name is void. -/
  | unnamed (value : Json)
  /-- The place where a text stops being JSON; nothing of the text comes after it. -/
  | cut
  deriving Repr, Inhabited

namespace Json

def texts (items : List String) : Json := .list (items.map .text)

/-- The fields of an object that has some of them only. -/
def given : List (String × Option Json) → Json := fun fields =>
  .record (fields.filterMap fun (name, value?) => value?.map fun value => (name, value))

def field? (name : String) : Json → Option Json
  | .record fields => (fields.find? fun (n, _) => n == name).map (·.2)
  | _ => none

def item? (i : Nat) : Json → Option Json
  | .list items => items[i]?
  | _ => none

mutual

/-- Whether the text of the value was JSON to its end. -/
def isWhole : Json → Bool
  | .cut => false
  | .list items => areWhole items
  | .record fields => areWholeFields fields
  | .unnamed v => v.isWhole
  | _ => true

def areWhole : List Json → Bool
  | [] => true
  | v :: vs => v.isWhole && areWhole vs

def areWholeFields : List (String × Json) → Bool
  | [] => true
  | (_, v) :: vs => v.isWhole && areWholeFields vs

end

mutual

/-- Whether the value is whole and nothing in it is void. -/
def isReadable : Json → Bool
  | .cut => false
  | .void => false
  | .unnamed _ => false
  | .list items => areReadable items
  | .record fields => areReadableFields fields
  | _ => true

def areReadable : List Json → Bool
  | [] => true
  | v :: vs => v.isReadable && areReadable vs

def areReadableFields : List (String × Json) → Bool
  | [] => true
  | (_, v) :: vs => v.isReadable && areReadableFields vs

end

mutual

/-- How deep lists and objects stand in each other. -/
def depth : Json → Nat
  | .list items => depthOfItems items + 1
  | .record fields => depthOfFields fields + 1
  | .unnamed v => v.depth
  | _ => 0

def depthOfItems : List Json → Nat
  | [] => 0
  | v :: vs => max v.depth (depthOfItems vs)

def depthOfFields : List (String × Json) → Nat
  | [] => 0
  | (_, v) :: vs => max v.depth (depthOfFields vs)

end

end Json

end Namebook
