import Namebook.Filter

/-!
The store that record sets are read from. A call takes a while, and only at its end shows whether
it succeeds and what it gives.
-/

namespace Namebook

inductive StoreFailure where
  /-- The cluster refused or failed to list. -/
  | cluster (reason : String)
  | unavailable (reason : String)
  deriving DecidableEq, Repr

def StoreFailure.message : StoreFailure → String
  | cluster reason => "Failed to list DNSRecordSets: " ++ reason
  | unavailable reason => "Backing store unavailable: " ++ reason

/-- `latency` is what a call takes, in milliseconds, and `calls` the number of calls begun. -/
structure Store where
  sets : List RecordSet := []
  failure : Option String := none
  latency : Nat := 0
  calls : Nat := 0

namespace Store

def called (s : Store) : Store := { s with calls := s.calls + 1 }

/-- What a call that ends now gives. -/
def all (s : Store) : Except StoreFailure (List RecordSet) :=
  match s.failure with
  | some reason => .error (.unavailable reason)
  | none => .ok s.sets

/-- The sets that a selector matches, in the order of the store. -/
def matching (s : Store) (sel : Selector) : Except StoreFailure (List RecordSet) :=
  s.all.map fun sets => sets.filter sel.matches

end Store

end Namebook
