import Namebook.Http.Message

/-!
Request bodies. A body that is not said to be JSON, one that is not JSON, and JSON of another
shape are told apart.
-/

namespace Namebook.Http

open Json Json.Shape

/-- A name to check, with what it should resolve to. -/
structure CheckRequest where
  name : String
  type : String
  targets : List String

structure CheckDraft where
  name : Option String := none
  type : String := ""
  targets : List String := []

def CheckRequest.shape : Json.Shape CheckRequest := fun v => do
  let draft ← members [
    ⟨"name", false, fun v d => return { d with name := some (← text v) }⟩,
    ⟨"recordType", true, fun v d => return { d with type := ← text v }⟩,
    ⟨"targets", true, fun v d => return { d with targets := ← list text v }⟩]
    ({} : CheckDraft) v
  return ⟨← required draft.name, draft.type, draft.targets⟩

/-- An object whose groups are asked for. -/
structure GroupsRequest where
  labels : Option Grouping.Labels := none
  space : String := ""

def GroupsRequest.shape : Json.Shape GroupsRequest := members [
    ⟨"labels", true, fun v d => return { d with labels := ← optional (map text) v }⟩,
    ⟨"namespace", true, fun v d => return { d with space := ← text v }⟩] {}

/-- Reads a body, or says why it cannot be read. -/
def decodeBody {α : Type} (shape : Json.Shape α) (r : Request) : Except Reply α :=
  if !(r.header? "content-type").any MediaType.isJson then
    .error (Reply.rejected 415 "the body has to be of type application/json")
  else
    match (Json.read r.body).decode shape with
    | .ok x => .ok x
    | .error .malformed => .error (Reply.rejected 400 "the body is not JSON")
    | .error .mismatch => .error (Reply.rejected 422 "the body has another shape")

end Namebook.Http
