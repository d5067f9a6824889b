import Namebook.Feed
import Namebook.Proofs.Change
import Namebook.Proofs.Snapshot
import Namebook.Subscription

/-!
# Steps of a feed

What one step of the producer can do, and the changes that a feed sends over its life: first the
whole view of one snapshot, then what leads from each view to the next one shown.
-/

namespace Namebook.Feed

/-- What the producer still has to put into the queue before it waits again. -/
def left (f : Feed) : List Change :=
  match f.phase with
  | .sending left => left
  | _ => []

/-- Neither cancelled nor left by its subscriber. -/
def IsOpen (f : Feed) : Prop := f.cancelled = false ∧ f.receiving = true

theorem isOpen_iff {f : Feed} : f.IsOpen ↔ ¬(f.cancelled || !f.receiving) = true := by
  unfold IsOpen
  cases f.cancelled <;> cases f.receiving <;> simp

/-- The producer takes up a snapshot. -/
def takeUp (current : Snapshot) (f : Feed) : Feed :=
  { f with
    phase := .sending (Change.between f.shown (current.view f.filters))
    seen := current.generation
    shown := current.view f.filters }

/-- The four things that a producer does. -/
theorem step?_cases {current : Snapshot} {f g : Feed} {noted : List Happening}
    (h : f.step? current = some (g, noted)) :
    (¬f.IsOpen ∧ g = { f with phase := .finished }) ∨
    (f.phase = .waiting ∧ f.IsOpen ∧ f.seen < current.generation ∧ g = f.takeUp current) ∨
    (f.phase = .sending [] ∧ g = { f with phase := .waiting }) ∨
    (∃ c left, f.phase = .sending (c :: left) ∧ f.IsOpen ∧ f.queue.length < f.capacity ∧
      g = { f with phase := .sending left, queue := f.queue ++ [c] }) := by
  unfold step? at h
  split at h
  · simp at h
  · rename_i hp
    split at h
    · rename_i ho
      simp only [finish, Option.some.injEq, Prod.mk.injEq] at h
      exact .inl ⟨fun hopen => isOpen_iff.mp hopen ho, h.1.symm⟩
    · rename_i ho
      split at h
      · simp only [Option.some.injEq, Prod.mk.injEq] at h
        exact .inr (.inl ⟨hp, isOpen_iff.mpr ho, ‹_›, h.1.symm⟩)
      · simp at h
  · rename_i hp
    simp only [Option.some.injEq, Prod.mk.injEq] at h
    exact .inr (.inr (.inl ⟨hp, h.1.symm⟩))
  · rename_i c left hp
    split at h
    · rename_i ho
      simp only [finish, Option.some.injEq, Prod.mk.injEq] at h
      exact .inl ⟨fun hopen => isOpen_iff.mp hopen ho, h.1.symm⟩
    · rename_i ho
      split at h
      · simp only [Option.some.injEq, Prod.mk.injEq] at h
        exact .inr (.inr (.inr ⟨c, left, hp, isOpen_iff.mpr ho, ‹_›, h.1.symm⟩))
      · simp at h

theorem receiving_step? {s : Snapshot} {f g : Feed} {noted : List Happening}
    (h : f.step? s = some (g, noted)) : g.receiving = f.receiving := by
  rcases step?_cases h with ⟨-, rfl⟩ | ⟨-, -, -, rfl⟩ | ⟨-, rfl⟩ | ⟨c, left, -, -, -, rfl⟩ <;> rfl

/-- A producer that waits and cannot go on has shown the current snapshot. -/
theorem generation_le_seen {current : Snapshot} {f : Feed} (hp : f.phase = .waiting)
    (h : f.step? current = none) : f.IsOpen ∧ current.generation ≤ f.seen := by
  unfold step? at h
  rw [hp] at h
  dsimp only at h
  split at h
  · simp at h
  · rename_i ho
    split at h
    · simp at h
    · exact ⟨isOpen_iff.mpr ho, Nat.le_of_not_lt ‹_›⟩

/-- The step of a producer that waits and is answered. -/
def heed (f : Feed) : Poll Snapshot → Option (Feed × List Happening)
  | .ready s => some (f.takeUp s, [])
  | _ => none

/-- A feed waits as a subscription does: at first until there is a snapshot, and then for one that
is newer than the last. The producer itself holds the cache, which so is never closed to it. -/
theorem step?_waiting {current : Snapshot} {f : Feed} (hp : f.phase = .waiting) (ho : f.IsOpen)
    (t : Subscription) (ht : f.seen ≠ 0 → t.seen = f.seen) :
    f.step? current =
      f.heed (if f.seen = 0 then t.whenReady current true else t.next current true).1 := by
  have hopen : ¬(f.cancelled || !f.receiving) = true := isOpen_iff.mp ho
  unfold step?
  rw [hp]
  dsimp only
  rw [if_neg hopen]
  by_cases hz : f.seen = 0
  · rw [if_pos hz, Subscription.whenReady, hz]
    by_cases hg : 0 < current.generation
    · simp [Snapshot.isReady, hg, heed, takeUp]
    · simp [Snapshot.isReady, hg, heed, Subscription.idle]
  · rw [if_neg hz, Subscription.next, ht hz]
    by_cases hg : f.seen < current.generation
    · simp [hg, heed, takeUp]
    · simp [hg, heed, Subscription.idle]

/-! ## The changes of a whole feed -/

/-- What leads from the view of one snapshot through those of later ones. -/
def continuation (f : Filters) : Snapshot → List Snapshot → List Change
  | _, [] => []
  | s, t :: later => Change.between (s.view f) (t.view f) ++ continuation f t later

/-- What a feed sends that takes up these snapshots: all of the first view as new, and then what
becomes different. -/
def script (f : Filters) : List Snapshot → List Change
  | [] => []
  | first :: later => Change.arrivals (first.view f) ++ continuation f first later

/-- The view that is reached in the end. -/
def lastView (f : Filters) (taken : List Snapshot) : List Record :=
  taken.getLast?.elim [] fun s => s.view f

@[simp] theorem lastView_concat (f : Filters) (taken : List Snapshot) (s : Snapshot) :
    lastView f (taken ++ [s]) = s.view f := by
  simp [lastView]

theorem continuation_concat (f : Filters) (s : Snapshot) (later : List Snapshot) (t : Snapshot) :
    continuation f s (later ++ [t]) =
      continuation f s later ++ Change.between (lastView f (s :: later)) (t.view f) := by
  induction later generalizing s with
  | nil => simp [continuation, lastView]
  | cons u later ih =>
    rw [List.cons_append, continuation, ih, continuation, List.append_assoc]
    simp [lastView]

theorem script_concat (f : Filters) (taken : List Snapshot) (s : Snapshot) :
    script f (taken ++ [s]) =
      script f taken ++ Change.between (lastView f taken) (s.view f) := by
  cases taken with
  | nil => simp [script, continuation, lastView, Change.between_nil]
  | cons first later =>
    rw [List.cons_append, script, continuation_concat, script, List.append_assoc]

theorem nodup_keys_lastView {f : Filters} {taken : List Snapshot}
    (h : ∀ s ∈ taken, s.IsFaithful) : ((lastView f taken).map Record.key).Nodup := by
  induction taken using List.reverseRecOn with
  | nil => simp [lastView]
  | append_singleton taken s _ =>
    rw [lastView_concat]
    exact Snapshot.nodup_keys_view (h s (by simp)) f

/-- A script can be replayed from nothing, and leads to a mirror of the last view. -/
theorem replay_script {f : Filters} {taken : List Snapshot} (h : ∀ s ∈ taken, s.IsFaithful) :
    Change.Lawful Holding.empty (script f taken) ∧
      (Change.replay Holding.empty (script f taken)).Mirrors (lastView f taken) := by
  induction taken using List.reverseRecOn with
  | nil => exact ⟨trivial, Holding.mirrors_empty⟩
  | append_singleton taken s ih =>
    have hs := Snapshot.nodup_keys_view (h s (by simp)) f
    have ht : ∀ t ∈ taken, t.IsFaithful := fun t ht => h t (List.mem_append_left _ ht)
    obtain ⟨hl, hm⟩ := ih ht
    rw [script_concat, lastView_concat, Change.lawful_append, Change.replay_append]
    exact ⟨⟨hl, Change.lawful_between (nodup_keys_lastView ht) hs hm⟩,
      Change.mirrors_replay_between (nodup_keys_lastView ht) hs hm⟩

/-! ## Reading without pause -/

/-- A feed that still works, with a queue that holds something. -/
structure IsLive (f : Feed) : Prop where
  isOpen : f.IsOpen
  unfinished : f.phase ≠ .finished
  roomy : 0 < f.capacity

theorem outstanding_eq (current : Snapshot) (f : Feed) :
    f.outstanding current = f.queue ++ f.left ++
      if f.seen < current.generation then Change.between f.shown (current.view f.filters)
      else [] := rfl

/-- The producer moves changes nearer to the subscriber and neither drops nor adds any. -/
theorem outstanding_step? {current : Snapshot} {f g : Feed} {noted : List Happening}
    (hf : f.IsLive) (h : f.step? current = some (g, noted)) :
    g.IsLive ∧ g.outstanding current = f.outstanding current := by
  obtain ⟨ho, hu, hr⟩ := hf
  rcases step?_cases h with ⟨hn, -⟩ | ⟨hp, -, hlt, rfl⟩ | ⟨hp, rfl⟩ | ⟨c, left, hp, -, -, rfl⟩
  · exact absurd ho hn
  · refine ⟨⟨ho, nofun, hr⟩, ?_⟩
    simp [outstanding_eq, Feed.left, takeUp, hp, hlt]
  · refine ⟨⟨ho, nofun, hr⟩, ?_⟩
    simp [outstanding_eq, Feed.left, hp]
  · refine ⟨⟨ho, nofun, hr⟩, ?_⟩
    simp [outstanding_eq, Feed.left, hp]

theorem outstanding_settle (current : Snapshot) {f : Feed} (hf : f.IsLive) :
    (f.settle current).1.IsLive ∧
      (f.settle current).1.outstanding current = f.outstanding current ∧
      (f.settle current).1.step? current = none := by
  fun_induction settle current f with
  | case1 f hs => exact ⟨hf, rfl, hs⟩
  | case2 f g noted hs g' more hg ih =>
    obtain ⟨hl, he⟩ := outstanding_step? hf hs
    rw [hg] at ih
    obtain ⟨hl', he', hs'⟩ := ih hl
    exact ⟨hl', he'.trans he, hs'⟩

/-- A producer that cannot go on has filled the queue, or it waits. -/
theorem waiting_of_queue_nil {current : Snapshot} {f : Feed} (hf : f.IsLive)
    (hs : f.step? current = none) (hq : f.queue = []) : f.phase = .waiting := by
  cases hp : f.phase with
  | finished => exact absurd hp hf.unfinished
  | waiting => rfl
  | sending left =>
    have hopen : ¬(f.cancelled || !f.receiving) = true := isOpen_iff.mp hf.isOpen
    unfold step? at hs
    rw [hp] at hs
    cases left with
    | nil => simp at hs
    | cons c left => simp [hopen, hq, hf.roomy] at hs

theorem outstanding_of_queue_nil {current : Snapshot} {f : Feed} (hf : f.IsLive)
    (hs : f.step? current = none) (hq : f.queue = []) : f.outstanding current = [] := by
  have hp := waiting_of_queue_nil hf hs hq
  have hle := (generation_le_seen hp hs).2
  simp [outstanding_eq, Feed.left, hp, hq, Nat.not_lt.mpr hle]

/-- A subscriber gets what is outstanding in its order, as much as it asks for, and the rest stays
outstanding. -/
theorem outstanding_read {current : Snapshot} (most : Nat) {f : Feed} (hf : f.IsLive) :
    let r := f.read current most
    r.changes = (f.outstanding current).take most ∧ r.feed.IsLive ∧
      r.feed.outstanding current = (f.outstanding current).drop most ∧
      r.feed.step? current = none := by
  induction most generalizing f with
  | zero =>
    obtain ⟨hl, he, hs⟩ := outstanding_settle current hf
    exact ⟨rfl, hl, he, hs⟩
  | succ most ih =>
    obtain ⟨hl, he, hs⟩ := outstanding_settle current hf
    unfold read
    rw [← he]
    generalize f.settle current = settled at *
    obtain ⟨g, noted⟩ := settled
    dsimp only at *
    unfold take?
    cases hq : g.queue with
    | nil =>
      have hnone := outstanding_of_queue_nil hl hs hq
      rw [hnone, List.take_nil, List.drop_nil]
      exact ⟨rfl, hl, rfl, hs⟩
    | cons c queue =>
      have hl' : IsLive { g with queue } := ⟨hl.isOpen, hl.unfinished, hl.roomy⟩
      have hc : g.outstanding current = c :: outstanding current { g with queue } := by
        simp [outstanding_eq, Feed.left, hq]
      obtain ⟨hchanges, hrest⟩ := ih hl'
      rw [hc, List.take_succ_cons, List.drop_succ_cons, ← hchanges]
      exact ⟨rfl, hrest⟩

theorem changes_read {current : Snapshot} (most : Nat) {f : Feed} (hf : f.IsLive) :
    (f.read current most).changes = (f.outstanding current).take most :=
  (outstanding_read most hf).1

/-- Whoever reads all that is outstanding leaves an empty queue. -/
theorem queue_read_all {current : Snapshot} {f : Feed} (hf : f.IsLive) :
    (f.read current (f.outstanding current).length).feed.queue = [] := by
  obtain ⟨-, -, hrest, -⟩ := outstanding_read (f.outstanding current).length hf
  rw [List.drop_length, outstanding_eq] at hrest
  exact (List.append_eq_nil_iff.mp (List.append_eq_nil_iff.mp hrest).1).1

/-- A new feed has the whole view outstanding. -/
theorem changes_read_start {current : Snapshot} (hc : current.isReady = true) (f : Filters)
    (buffer most : Nat) :
    ((start f buffer).read current most).changes =
      (Change.arrivals (current.view f)).take most := by
  have hroom : 0 < (start f buffer).capacity := Nat.le_max_right buffer 1
  have hl : (start f buffer).IsLive := ⟨⟨rfl, rfl⟩, nofun, hroom⟩
  have hpos : 0 < current.generation := by simpa [Snapshot.isReady] using hc
  rw [changes_read most hl, outstanding_eq]
  simp [start, Feed.left, hpos, Change.between_nil]

end Namebook.Feed
