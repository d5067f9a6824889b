import Namebook.Snapshot

/-!
Watching snapshots. A subscription remembers the generation that it has seen, and so meets every
commit after its start; of several commits it meets the last one.
-/

namespace Namebook

/-- What there is to see now. -/
inductive Poll (α : Type) where
  | ready (value : α)
  | pending
  /-- Nothing will come any more. -/
  | closed

/-- `seen` is the generation that was current at the start, and then the one last given out. -/
structure Subscription where
  seen : Nat
  deriving DecidableEq, Repr

namespace Subscription

def start (current : Snapshot) : Subscription := ⟨current.generation⟩

/-- What an answer is while no snapshot is due; `held` says whether the cache is still there. -/
def idle {α : Type} (held : Bool) : Poll α := if held then .pending else .closed

/-- Gives the current snapshot if it is newer than the one seen. -/
def next (s : Subscription) (current : Snapshot) (held : Bool) : Poll Snapshot × Subscription :=
  if s.seen < current.generation then (.ready current, ⟨current.generation⟩)
  else (idle held, s)

/-- Gives the current snapshot once there was a commit. -/
def whenReady (s : Subscription) (current : Snapshot) (held : Bool) :
    Poll Snapshot × Subscription :=
  if current.isReady then (.ready current, ⟨current.generation⟩) else (idle held, s)

end Subscription

end Namebook
