import Namebook.Listing

/-!
Snapshots of all names. Every commit makes a new snapshot of the generation after the last one, so
that generation zero means that nothing was committed yet.
-/

namespace Namebook

structure Snapshot where
  generation : Nat
  /-- When it was committed. -/
  refreshed : Option Time.Instant
  sets : List RecordSet
  /-- The listing of the sets without a filter. -/
  records : List Record

namespace Snapshot

def empty : Snapshot := ⟨0, none, [], []⟩

def isReady (s : Snapshot) : Bool := 0 < s.generation

/-- The snapshot after this one. -/
def commit (s : Snapshot) (now : Time.Instant) (sets : List RecordSet) : Snapshot :=
  ⟨s.generation + 1, some now, sets, listing Filters.unfiltered sets⟩

/-- Whether a view is the listing that the snapshot holds already. -/
def isShared (f : Filters) : Bool := f.isEmpty

/-- The records that filters let through. -/
def view (s : Snapshot) (f : Filters) : List Record :=
  if isShared f then s.records else listing f s.sets

end Snapshot

end Namebook
