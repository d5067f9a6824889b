import Namebook.Snapshot
import Namebook.Proofs.Listing

/-!
# Views of a snapshot

A snapshot that was made by commits holds the listing of its own sets, so the listing it shares for
an empty filter and the one it makes for any other are the same function of its sets.
-/

namespace Namebook.Snapshot

/-- The records that are held are those of the sets that are held. -/
def IsFaithful (s : Snapshot) : Prop := s.records = listing Filters.unfiltered s.sets

theorem isFaithful_empty : empty.IsFaithful := by
  simp [IsFaithful, empty, listing, sightings, gather]

theorem isFaithful_commit (s : Snapshot) (now : Time.Instant) (sets : List RecordSet) :
    (s.commit now sets).IsFaithful := rfl

/-- What commits make of the snapshot before them. -/
def commits (s : Snapshot) (published : List (Time.Instant × List RecordSet)) : Snapshot :=
  published.foldl (fun s p => s.commit p.1 p.2) s

theorem isFaithful_commits {s : Snapshot} (h : s.IsFaithful)
    (published : List (Time.Instant × List RecordSet)) : (s.commits published).IsFaithful := by
  induction published generalizing s with
  | nil => exact h
  | cons p ps ih => exact ih (isFaithful_commit s p.1 p.2)

theorem eq_unfiltered_of_isEmpty {f : Filters} (h : f.isEmpty = true) :
    f = Filters.unfiltered := by
  obtain ⟨space, portal, provenance, search⟩ := f
  simp only [Filters.isEmpty, Bool.and_eq_true, Option.isNone_iff_eq_none] at h
  obtain ⟨⟨⟨rfl, rfl⟩, rfl⟩, rfl⟩ := h
  rfl

/-- The shared listing is no other than the one that would be made anew. -/
theorem view_eq_listing {s : Snapshot} (h : s.IsFaithful) (f : Filters) :
    s.view f = listing f s.sets := by
  unfold view isShared
  split
  · rename_i he
    rw [eq_unfiltered_of_isEmpty he]
    exact h
  · rfl

theorem nodup_keys_view {s : Snapshot} (h : s.IsFaithful) (f : Filters) :
    ((s.view f).map Record.key).Nodup := by
  rw [view_eq_listing h]
  exact nodup_keys_listing f s.sets

theorem pairwise_before_view {s : Snapshot} (h : s.IsFaithful) (f : Filters) :
    (s.view f).Pairwise Record.Before := by
  rw [view_eq_listing h]
  exact pairwise_before_listing f s.sets

end Namebook.Snapshot
