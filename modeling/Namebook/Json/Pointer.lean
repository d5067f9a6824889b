import Namebook.Json
import Namebook.Text.Decimal
import Namebook.Text.Split

/-!
Pointers into JSON values: the names of fields and the numbers of items on the way to a part, each
after a slash. A slash in a name is written `~1`, a tilde `~0`.
-/

namespace Namebook.Json

/-- The name that a segment stands for. -/
def segmentName : List Char → List Char
  | '~' :: '1' :: cs => '/' :: segmentName cs
  | '~' :: '0' :: cs => '~' :: segmentName cs
  | c :: cs => c :: segmentName cs
  | [] => []

/-- The number that a segment stands for, without a sign or needless zeros. -/
def segmentIndex? (segment : List Char) : Option Nat :=
  if segment.head? = some '0' ∧ segment ≠ ['0'] then none else Text.digitsValue? segment

def descend (v : Json) (segment : List Char) : Option Json :=
  match v with
  | .list items => (segmentIndex? segment).bind fun i => items[i]?
  | v => v.field? (String.ofList (segmentName segment))

/-- The part of a value that a pointer names. -/
def at? (v : Json) (pointer : String) : Option Json :=
  match pointer.toList with
  | [] => some v
  | '/' :: cs => (Text.pieces '/' cs).foldlM descend v
  | _ => none

end Namebook.Json
