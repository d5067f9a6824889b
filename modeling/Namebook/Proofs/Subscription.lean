import Namebook.Subscription

/-!
# Subscriptions to a versioned cell

A cell holds a value and counts its changes, and whoever watches it knows the count that it saw
last. The count of the cell that the snapshots are put into is their generation, so what a
subscription remembers is such a count, and its questions are those that can be put to a cell.
-/

namespace Namebook

structure Cell (α : Type) where
  value : α
  version : Nat

namespace Cell

variable {α : Type}

def modify (c : Cell α) (f : α → α) : Cell α := ⟨f c.value, c.version + 1⟩

/-- Whether there was a change since a version was seen, which makes it the version seen. -/
def changed (c : Cell α) (seen : Nat) (held : Bool) : Poll Unit × Nat :=
  if seen = c.version then (Subscription.idle held, seen) else (.ready (), c.version)

/-- The value, which is seen thereby. -/
def look (c : Cell α) : α × Nat := (c.value, c.version)

/-- One waits for a change and then looks. -/
def next (c : Cell α) (seen : Nat) (held : Bool) : Poll α × Nat :=
  match c.changed seen held with
  | (.ready (), _) => (.ready c.look.1, c.look.2)
  | (.pending, seen) => (.pending, seen)
  | (.closed, seen) => (.closed, seen)

theorem next_le (c : Cell α) {seen : Nat} (h : seen ≤ c.version) (held : Bool) :
    (c.next seen held).2 ≤ c.version := by
  unfold next changed
  by_cases he : seen = c.version
  · rw [if_pos he]
    cases held <;> exact h
  · rw [if_neg he]
    exact Nat.le_refl c.version

/-- The value if it is one of those that are waited for. It is seen in any case. -/
def waitFor (c : Cell α) (p : α → Bool) (held : Bool) : Poll α × Nat :=
  (if p c.value then .ready c.value else Subscription.idle held, c.version)

/-- Every change was a commit. -/
def IsNumbered (c : Cell Snapshot) : Prop := c.version = c.value.generation

theorem isNumbered_modify_commit {c : Cell Snapshot} (h : c.IsNumbered) (now : Time.Instant)
    (sets : List RecordSet) : (c.modify (·.commit now sets)).IsNumbered :=
  congrArg (· + 1) h

end Cell

namespace Subscription

variable {c : Cell Snapshot} {s : Subscription}

/-- To ask for the next snapshot is to wait for a change of the cell. -/
theorem next_eq (h : c.IsNumbered) (hs : s.seen ≤ c.version) (held : Bool) :
    s.next c.value held = ((c.next s.seen held).1, ⟨(c.next s.seen held).2⟩) := by
  unfold next Cell.next Cell.changed
  rw [← h]
  by_cases he : s.seen = c.version
  · rw [if_neg (he ▸ Nat.lt_irrefl _), if_pos he]
    cases held <;> rfl
  · rw [if_pos (Nat.lt_of_le_of_ne hs he), if_neg he]
    rfl

/-- To ask whether the snapshot is ready is to wait for a value that is. One that is not ready is
nothing new to see, as nothing was committed then. -/
theorem whenReady_eq (h : c.IsNumbered) (hs : s.seen ≤ c.version) (held : Bool) :
    s.whenReady c.value held =
      ((c.waitFor Snapshot.isReady held).1, ⟨(c.waitFor Snapshot.isReady held).2⟩) := by
  unfold whenReady Cell.waitFor
  rw [h]
  by_cases hr : c.value.isReady = true
  · rw [if_pos hr, if_pos hr]
  · have hzero : c.value.generation = 0 := by
      simpa [Snapshot.isReady] using hr
    have hseen : s.seen = c.value.generation := by
      rw [h, hzero] at hs
      rw [hzero]
      exact Nat.le_zero.mp hs
    rw [if_neg hr, if_neg hr, ← hseen]

/-- A question that is answered with the current snapshot, which then is seen, or not at all. -/
def IsHonest (question : Subscription → Snapshot → Bool → Poll Snapshot × Subscription) : Prop :=
  ∀ s current held, question s current held = (.ready current, ⟨current.generation⟩) ∨
    question s current held = (idle held, s)

theorem isHonest_next : IsHonest next := by
  intro s current held
  unfold next
  split
  · exact .inl rfl
  · exact .inr rfl

theorem isHonest_whenReady : IsHonest whenReady := by
  intro s current held
  unfold whenReady
  split
  · exact .inl rfl
  · exact .inr rfl

end Subscription

end Namebook
