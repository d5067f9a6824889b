/-!
Finite maps from texts, as pairs sorted by key.
-/

namespace Namebook.Table

/-- Puts a pair at its place in key order, over an older pair with that key. -/
def insert {α : Type} (key : String) (value : α) : List (String × α) → List (String × α)
  | [] => [(key, value)]
  | (k, v) :: rest =>
    if key < k then (key, value) :: (k, v) :: rest
    else if key = k then (key, value) :: rest
    else (k, v) :: insert key value rest

/-- Changes the value of a key; a key that is not there has the value `initial`. -/
def change {α : Type} (key : String) (initial : α) (f : α → α) (table : List (String × α)) :
    List (String × α) :=
  insert key (f ((table.lookup key).getD initial)) table

end Namebook.Table
