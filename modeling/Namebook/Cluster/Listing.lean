import Namebook.Cluster.Answer
import Namebook.Cluster.Request
import Namebook.Store

/-!
Reading record sets from the cluster. The pages are read one after the other, and the first
failure makes all that was read before it count for nothing.
-/

namespace Namebook.Cluster

/-- A failure of the cluster as one of the store that it is. -/
def Failure.ofStore : Failure → StoreFailure
  | refused _ _ message => .cluster message
  | unreadable => .cluster "the answer is not readable"

/-- What was asked, in order, and what came of it. -/
structure Reading where
  requests : List String
  result : Except Failure (List RecordSet)

/-- The page that comes after a token, if there is one. -/
def following? (token : Option String) : Option String := token.filter fun t => !t.isEmpty

def failed (target : String) (f : Failure) : Reading := ⟨[target], .error f⟩

/-- Reads from the page of a token on. The answers are those that the server gives, one to each
request. -/
def readFrom (space : Option String) (token : Option String) : List Answer → Reading
  | [] =>
    match sent? (pageTarget space token) with
    | none => ⟨[], .error .unreadable⟩
    | some target => failed target (failureOf Answer.silence)
  | answer :: answers =>
    match sent? (pageTarget space token) with
    | none => ⟨[], .error .unreadable⟩
    | some target =>
      match answer.page with
      | .error f => failed target f
      | .ok page =>
        match following? page.token with
        | none => ⟨[target], .ok page.sets⟩
        | some token =>
          let rest := readFrom space (some token) answers
          ⟨target :: rest.requests, rest.result.map (page.sets ++ ·)⟩

/-- All record sets, or those of the watched namespace. -/
def readAll (watched : Option String) (answers : List Answer) : Reading :=
  readFrom watched none answers

/-- The record sets that a selector matches. Nothing is asked for a namespace that is not
watched. -/
def readMatching (watched : Option String) (sel : Selector) (answers : List Answer) : Reading :=
  if (watched.isSome && sel.space.isSome && watched != sel.space) then ⟨[], .ok []⟩
  else
    let all := readFrom (watched.or sel.space) none answers
    { all with result := all.result.map fun sets => sets.filter sel.matches }

end Namebook.Cluster
