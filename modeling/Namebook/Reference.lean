import Namebook.Json.Shape
import Namebook.Text.Blank
import Namebook.Text.Split

/-!
References to the objects that publish names, written `kind/namespace/name`. White space around a
segment does not count; case does.
-/

namespace Namebook

/-- `space` is the namespace that the object is in. -/
structure Reference where
  kind : String
  space : String
  name : String
  deriving DecidableEq, Repr

/-- A text that is no reference, kept as it was given. -/
structure NotAReference where
  raw : String
  deriving DecidableEq, Repr

def NotAReference.message (e : NotAReference) : String :=
  "Invalid resource reference '" ++ e.raw ++ "': expected 'kind/namespace/name'"

namespace Reference

/-- The reference to nothing. -/
def zero : Reference := ⟨"", "", ""⟩

def isZero (r : Reference) : Bool := r.kind.isEmpty && r.space.isEmpty && r.name.isEmpty

/-- Three segments, none of them blank. -/
def ofSegments? : List (List Char) → Option Reference
  | [kind, space, name] =>
    let kind := Text.trimChars kind
    let space := Text.trimChars space
    let name := Text.trimChars name
    if kind.isEmpty || space.isEmpty || name.isEmpty then none
    else some ⟨String.ofList kind, String.ofList space, String.ofList name⟩
  | _ => none

def parse? (raw : String) : Option Reference := ofSegments? (Text.pieces '/' raw.toList)

def parse (raw : String) : Except NotAReference Reference :=
  match parse? raw with
  | some r => .ok r
  | none => .error ⟨raw⟩

def render (r : Reference) : String := r.kind ++ "/" ++ r.space ++ "/" ++ r.name

/-- By kind, then namespace, then name. -/
def le (a b : Reference) : Bool :=
  a.kind < b.kind || (a.kind == b.kind &&
    (a.space < b.space || (a.space == b.space && !(b.name < a.name))))

/-- In order and without repetition. -/
def sorted (refs : List Reference) : List Reference := (refs.mergeSort le).eraseReps

def toJson (r : Reference) : Json := .text r.render

def shape : Json.Shape Reference := fun v => do
  let raw ← Json.Shape.text v
  Json.Shape.required (parse? raw)

end Reference

end Namebook
