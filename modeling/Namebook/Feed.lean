import Namebook.Change
import Namebook.Metrics.Basic
import Namebook.Snapshot

/-!
A feed sends one subscriber the changes of a view, through a queue of limited size. It begins as if
the subscriber had been shown the empty view. Snapshots that come while it is busy or blocked are
not sent one by one: the next changes lead from the view shown last to the latest one.
-/

namespace Namebook

/-- What the producer of a feed is about. -/
inductive FeedPhase where
  /-- It waits for a snapshot that it has not seen. -/
  | waiting
  | sending (left : List Change)
  | finished
  deriving DecidableEq, Repr

structure Feed where
  filters : Filters
  /-- How many changes the queue holds. -/
  capacity : Nat
  phase : FeedPhase
  /-- The generation that `shown` is a view of. -/
  seen : Nat
  /-- The view that the subscriber has once all is sent. -/
  shown : List Record
  /-- What is sent and not read, oldest first. -/
  queue : List Change
  cancelled : Bool
  /-- Whether the subscriber may still read. -/
  receiving : Bool

namespace Feed

/-- A queue holds one change at least. -/
def start (filters : Filters) (buffer : Nat) : Feed where
  filters
  capacity := max buffer 1
  phase := .waiting
  seen := 0
  shown := []
  queue := []
  cancelled := false
  receiving := true

def isFinished (f : Feed) : Bool := f.phase = .finished

def finish (f : Feed) : Feed × List Happening :=
  ({ f with phase := .finished }, [.streamClosed])

/-- One step of the producer, if it can take one while a snapshot is current. Being cancelled or
left by the subscriber comes before everything else. -/
def step? (current : Snapshot) (f : Feed) : Option (Feed × List Happening) :=
  match f.phase with
  | .finished => none
  | .waiting =>
    if f.cancelled || !f.receiving then some f.finish
    else if f.seen < current.generation then
      let view := current.view f.filters
      some ({ f with
        phase := .sending (Change.between f.shown view)
        seen := current.generation
        shown := view }, [])
    else none
  | .sending [] => some ({ f with phase := .waiting }, [])
  | .sending (c :: left) =>
    if f.cancelled || !f.receiving then some f.finish
    else if f.queue.length < f.capacity then
      some ({ f with phase := .sending left, queue := f.queue ++ [c] },
        [.streamEvent c.kind.word])
    else none

/-- Sending ends in waiting, and waiting may end for good. -/
def rank (f : Feed) : Nat :=
  match f.phase with
  | .finished => 0
  | .waiting => 1
  | .sending left => left.length + 2

theorem step?_decreases {current : Snapshot} {f g : Feed} {noted : List Happening}
    (h : f.step? current = some (g, noted)) :
    current.generation - g.seen < current.generation - f.seen ∨
      g.seen = f.seen ∧ g.rank < f.rank := by
  unfold step? at h
  split at h
  · simp at h
  · rename_i hp
    split at h
    · simp only [finish, Option.some.injEq, Prod.mk.injEq] at h
      obtain ⟨rfl, -⟩ := h
      exact .inr ⟨rfl, by simp [rank, hp]⟩
    · split at h
      · simp only [Option.some.injEq, Prod.mk.injEq] at h
        obtain ⟨rfl, -⟩ := h
        exact .inl (by simp only; omega)
      · simp at h
  · rename_i hp
    simp only [Option.some.injEq, Prod.mk.injEq] at h
    obtain ⟨rfl, -⟩ := h
    exact .inr ⟨rfl, by simp [rank, hp]⟩
  · rename_i hp
    split at h
    · simp only [finish, Option.some.injEq, Prod.mk.injEq] at h
      obtain ⟨rfl, -⟩ := h
      exact .inr ⟨rfl, by simp [rank, hp]⟩
    · split at h
      · simp only [Option.some.injEq, Prod.mk.injEq] at h
        obtain ⟨rfl, -⟩ := h
        exact .inr ⟨rfl, by simp [rank, hp]⟩
      · simp at h

/-- Lets the producer go on until it waits, is blocked or has finished. -/
def settle (current : Snapshot) (f : Feed) : Feed × List Happening :=
  match _h : f.step? current with
  | none => (f, [])
  | some (g, noted) =>
    let (g, more) := settle current g
    (g, noted ++ more)
  termination_by (current.generation - f.seen, f.rank)
  decreasing_by
    rcases step?_decreases _h with hs | ⟨hs, hr⟩
    · exact Prod.Lex.left _ _ hs
    · rw [hs]; exact Prod.Lex.right _ hr

/-- The subscriber takes the oldest change from the queue. -/
def take? (f : Feed) : Option (Change × Feed) :=
  match f.queue with
  | [] => none
  | c :: queue => some (c, { f with queue })

/-- Whether the subscriber sees the end of the feed. -/
def isOver (f : Feed) : Bool := f.isFinished && f.queue.isEmpty

def cancel (f : Feed) : Feed := { f with cancelled := true }

/-- The subscriber goes away, and what is in the queue is lost. -/
def leave (f : Feed) : Feed := { f with receiving := false, queue := [] }

/-- What the subscriber can still get while no other snapshot comes. -/
def outstanding (current : Snapshot) (f : Feed) : List Change :=
  let left := match f.phase with
    | .sending left => left
    | _ => []
  let coming := if f.seen < current.generation then
      Change.between f.shown (current.view f.filters)
    else []
  f.queue ++ left ++ coming

/-- What a subscriber got. -/
structure Reading where
  changes : List Change
  feed : Feed
  happenings : List Happening

/-- Takes changes until none is ready, and at most so many; the producer goes on before each. -/
def read (current : Snapshot) : Nat → Feed → Reading
  | 0, f =>
    let (f, noted) := f.settle current
    ⟨[], f, noted⟩
  | most + 1, f =>
    let (f, noted) := f.settle current
    match f.take? with
    | none => ⟨[], f, noted⟩
    | some (c, f) =>
      let r := read current most f
      ⟨c :: r.changes, r.feed, noted ++ r.happenings⟩

end Feed

end Namebook
