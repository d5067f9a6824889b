import Namebook.Json.Reader
import Namebook.Table

/-!
The shapes that values are required to have. A reader goes through a value in the order of its
text and stops at the first fault.
-/

namespace Namebook.Json

inductive Fault where
  /-- The text is not JSON. -/
  | malformed
  /-- The value has another shape. -/
  | mismatch
  deriving DecidableEq, Repr

abbrev Shape (α : Type) := Json → Except Fault α

namespace Shape

/-- The fault of a value that is not of the wanted kind. -/
def refuse {α : Type} : Shape α
  | .cut => .error .malformed
  | .void => .error .malformed
  | .unnamed _ => .error .malformed
  | _ => .error .mismatch

def text : Shape String
  | .text s => .ok s
  | v => refuse v

def optional {α : Type} (shape : Shape α) : Shape (Option α)
  | .null => .ok none
  | v => (shape v).map some

def each {α : Type} (shape : Shape α) : List Json → Except Fault (List α)
  | [] => .ok []
  | v :: vs => do return (← shape v) :: (← each shape vs)

def list {α : Type} (shape : Shape α) : Shape (List α)
  | .list items => each shape items
  | v => refuse v

def int (low high : Int) : Shape Int
  | .int n => if low ≤ n ∧ n ≤ high then .ok n else .error .mismatch
  | v => refuse v

/-- An integer of 64 bits with a sign. -/
def int64 : Shape Int := int Int64.minValue.toInt Int64.maxValue.toInt

def bool : Shape Bool
  | .bool b => .ok b
  | v => refuse v

/-- A value that nobody reads still has to be JSON. -/
def ignored : Shape Unit := fun v => if v.isWhole then .ok () else .error .malformed

/-- A value of any shape that is read to its ground, which may lie so deep. -/
def anything (deepest : Option Nat) : Shape Json := fun v =>
  if v.isReadable && deepest.all (v.depth ≤ ·) then .ok v else .error .malformed

def entries {α : Type} (shape : Shape α) :
    List (String × α) → List (String × Json) → Except Fault (List (String × α))
  | read, [] => .ok read
  | read, (key, v) :: rest => do entries shape (Table.insert key (← shape v) read) rest

/-- An object with free keys; the pairs come out sorted, and the last of equal keys counts. -/
def map {α : Type} (shape : Shape α) : Shape (List (String × α))
  | .record fields => entries shape [] fields
  | v => refuse v

/-- One of some words. A word may also be the only key of an object, over null. -/
def word {α : Type} (meaning : String → Option α) : Shape α
  | .text s => (meaning s).elim (.error .mismatch) .ok
  | .record [(s, .null)] => (meaning s).elim (.error .mismatch) .ok
  | .record fields => if (Json.record fields).isWhole then .error .mismatch else .error .malformed
  | v => refuse v

/-- A field of an object that is read into a draft. -/
structure Member (σ : Type) where
  name : String
  /-- Whether the positional form may end before this field. -/
  trailing : Bool
  read : Json → σ → Except Fault σ

def positional {σ : Type} : List (Member σ) → List Json → σ → Except Fault σ
  | [], [], draft => .ok draft
  | [], _ :: _, _ => .error .malformed
  | m :: ms, [], draft => if (m :: ms).all (·.trailing) then .ok draft else .error .mismatch
  | m :: ms, v :: vs, draft => do positional ms vs (← m.read v draft)

/-- `other` is for the values of fields that are not known. -/
def named {σ : Type} (members : List (Member σ)) (other : Shape Unit) (repeats : Bool) :
    List String → List (String × Json) → σ → Except Fault σ
  | _, [], draft => .ok draft
  | _, (_, .unnamed _) :: _, _ => .error .malformed
  | seen, (name, v) :: rest, draft =>
    match members.find? (·.name == name) with
    | none => do other v; named members other repeats seen rest draft
    | some m =>
      if !repeats && seen.contains name then .error .mismatch
      else do named members other repeats (name :: seen) rest (← m.read v draft)

/-- An object with known fields, each given once at most and others not looked at; or a list of
the values of the fields in their order. -/
def members {σ : Type} (ms : List (Member σ)) (blank : σ) : Shape σ
  | .record fields => named ms ignored false [] fields blank
  | .list items => positional ms items blank
  | v => refuse v

/-- An object with known fields, the last of equal names counting. -/
def openMembers {σ : Type} (ms : List (Member σ)) (blank : σ) : Shape σ
  | .record fields => named ms ignored true [] fields blank
  | v => refuse v

/-- An object with known fields, each given once at most, and others of any shape. -/
def extensible {σ : Type} (ms : List (Member σ)) (deepest : Option Nat) (blank : σ) : Shape σ
  | .record fields => named ms (fun v => do let _ ← anything deepest v) false [] fields blank
  | v => refuse v

def required {α : Type} : Option α → Except Fault α
  | some x => .ok x
  | none => .error .mismatch

end Shape

/-- Reads a whole text by a shape. -/
def Document.decode {α : Type} (shape : Shape α) (doc : Document) : Except Fault α := do
  let x ← shape doc.value
  if doc.ends then .ok x else .error .malformed

end Namebook.Json
