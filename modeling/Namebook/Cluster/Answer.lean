import Namebook.RecordSet.Encoding

/-!
What the cluster answers: a page of record sets, or a status that says what went wrong.
-/

namespace Namebook.Cluster

structure Answer where
  status : Nat
  body : String

/-- The answer of a server that has nothing to say. -/
def Answer.silence : Answer := ⟨500, ""⟩

inductive Failure where
  /-- The server refused. -/
  | refused (code : Nat) (reason message : String)
  /-- The request could not be sent, or its answer not be understood. -/
  | unreadable
  deriving DecidableEq, Repr

open Json Json.Shape RecordSet

/-! Pages. -/

structure Page where
  sets : List RecordSet
  /-- What to ask the next page by; absent or empty on the last one. -/
  token : Option String

/-- What a page says about itself. -/
def tokenShape : Json.Shape (Option String) := openMembers [
    maybe "continue" text fun x _ => x,
    maybe "remainingItemCount" long fun _ t => t,
    maybe "resourceVersion" text fun _ t => t,
    maybe "selfLink" text fun _ t => t] none

structure PageDraft where
  sets : Option (List RecordSet) := none
  token : Option String := none

/-- How deep lists and objects may stand in each other where an answer is read to its ground. -/
def deepest : Nat := 127

/-- How many of them stand around a field of a page, and around the fields of a manager in it. -/
def aroundField : Nat := 1

def aroundManaged : Nat := 6

def setShape : Json.Shape RecordSet := shapeWithin (some (deepest - aroundManaged))

/-- The record sets have to be there, and may be null. -/
def pageShape : Json.Shape Page := fun v => do
  let draft ← extensible [
    ⟨"metadata", true, fun v d => return { d with token := ← tokenShape v }⟩,
    ⟨"items", false, fun v d =>
      return { d with sets := some ((← optional (list setShape) v).getD []) }⟩]
    (some (deepest - aroundField)) ({} : PageDraft) v
  return ⟨← required draft.sets, draft.token⟩

/-! Statuses. -/

structure Status where
  code : Nat := 0
  reason : String := ""
  message : String := ""

/-- A field that has to have a shape, and does not count otherwise. -/
def unread {σ α : Type} (name : String) (shape : Json.Shape α) : Member σ :=
  ⟨name, true, fun v draft => do
    let _ ← shape v
    return draft⟩

def outcome : Json.Shape String :=
  word fun s => if s = "Success" ∨ s = "Failure" then some s else none

def causeShape : Json.Shape Unit :=
  members [unread "reason" text, unread "message" text, unread "field" text] ()

def detailsShape : Json.Shape Unit :=
  members [unread "name" text, unread "group" text, unread "kind" text, unread "uid" text,
    unread "causes" (list causeShape), unread "retryAfterSeconds" (int 0 0xFFFFFFFF)] ()

def statusShape : Json.Shape Status := members [
    unread "status" (optional outcome),
    ⟨"code", true, fun v s => return { s with code := (← int 0 65535 v).toNat }⟩,
    ⟨"message", true, fun v s => return { s with message := ← text v }⟩,
    unread "metadata" (optional tokenShape),
    ⟨"reason", true, fun v s => return { s with reason := ← text v }⟩,
    unread "details" (optional detailsShape)] {}

/-- An answer that is no status is the message itself. -/
def failureOf (a : Answer) : Failure :=
  match (Json.read a.body).decode statusShape with
  | .ok s => .refused s.code s.reason s.message
  | .error _ => .refused a.status "Failed to parse error data" a.body

/-- Whether a status says that something went wrong. -/
def isFailure (status : Nat) : Bool := 400 ≤ status && status < 600

def Answer.page (a : Answer) : Except Failure Page :=
  if isFailure a.status then .error (failureOf a)
  else ((Json.read a.body).decode pageShape).mapError fun _ => .unreadable

end Namebook.Cluster
