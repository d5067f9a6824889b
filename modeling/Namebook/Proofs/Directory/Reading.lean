import Namebook.Directory.Service
import Namebook.Proofs.Directory.Time
import Namebook.Proofs.Feed

/-!
# The ways to read the records

Records are read from the store, from the last snapshot when the store fails, as a view of the
snapshot, and through a feed. Sets are dropped in some of these before the names are gathered and in
others while they are, which makes no difference: all of them give one list.
-/

namespace Namebook

/-- Dropping the sets that do not match beforehand changes nothing. -/
theorem listing_filter_matches (f : Filters) (sets : List RecordSet) :
    listing f (sets.filter f.selector.matches) = listing f sets := by
  rw [listing, sightings, List.filter_filter]
  simp only [Bool.and_self]
  rfl

namespace Directory

theorem records_of_works {d : Directory} (hd : d.store.failure = none) (f : Filters) :
    (d.concludeList f).1 = .ok (listing f d.store.sets) := by
  have hm : d.store.matching f.selector = .ok (d.store.sets.filter f.selector.matches) := by
    rw [Store.matching, Store.all, hd]
    rfl
  rw [concludeList, hm]
  exact congrArg Except.ok (listing_filter_matches f d.store.sets)

theorem records_of_fails {d : Directory} {reason : String} (hd : d.store.failure = some reason)
    (hr : d.snapshot.isReady = true) (f : Filters) :
    (d.concludeList f).1 = .ok (listing f d.snapshot.sets) := by
  have hm : d.store.matching f.selector = .error (.unavailable reason) := by
    rw [Store.matching, Store.all, hd]
    rfl
  rw [concludeList, hm]
  simp [hr]

/-- A list that ends now has nothing to be made of: the store fails, and nothing was published
yet. -/
def IsUnready (d : Directory) (f : Filters) (failure : StoreFailure) : Prop :=
  d.store.matching f.selector = .error failure ∧ d.snapshot.generation = 0

/-- The sets that a list that ends now is made of, those of the snapshot if the store fails. -/
def listedSets (d : Directory) : List RecordSet :=
  if d.store.failure.isSome then d.snapshot.sets else d.store.sets

theorem records_of_unready {d : Directory} {f : Filters} {failure : StoreFailure}
    (h : d.IsUnready f failure) : (d.concludeList f).1 = .error (.notReady failure) := by
  have hready : d.snapshot.isReady = false := by simp [Snapshot.isReady, h.2]
  rw [concludeList, h.1]
  simp [hready]

theorem records_of_ready {d : Directory} {f : Filters} (h : ∀ failure, ¬d.IsUnready f failure) :
    (d.concludeList f).1 = .ok (listing f d.listedSets) := by
  cases hd : d.store.failure with
  | none => simp [records_of_works hd, listedSets, hd]
  | some reason =>
    have hready : d.snapshot.isReady = true := by
      have hfails : d.store.matching f.selector = .error (.unavailable reason) := by
        simp [Store.matching, Store.all, hd, Except.map]
      have hne : d.snapshot.generation ≠ 0 := fun hzero => h _ ⟨hfails, hzero⟩
      simpa [Snapshot.isReady] using Nat.pos_of_ne_zero hne
    simp [records_of_fails hd hready, listedSets, hd]

theorem list_eq (d : Directory) (f : Filters) (size : Nat) (token : String) :
    (d.list f size token).1 =
      (d.awaitStore.concludeList f).1.map fun all => Page.of all size token := rfl

/-- A list from a working store, and one from the snapshot of its sets while the store fails, are
the same page. The page of all of them is the view of that snapshot, and these are the records that
a feed on it begins with. -/
theorem list_eq_view (sets : List RecordSet) (f : Filters) (size : Nat) (token : String)
    (d d' : Directory) (hsets : d.store.sets = sets) (hworks : d.store.failure = none)
    (reason : String) (hfails : d'.store.failure = some reason) (s : Snapshot)
    (now : Time.Instant) (hlast : d'.snapshot = s.commit now sets) :
    ∃ page, (d.list f size token).1 = .ok page ∧ (d'.list f size token).1 = .ok page ∧
      (size = 0 → page.records = d'.snapshot.view f ∧
        ∀ buffer most, page.records.length ≤ most →
          ((Feed.start f buffer).read d'.snapshot most).changes =
            Change.arrivals page.records) := by
  have hd := d.resembles_awaitStore
  have hd' := d'.resembles_awaitStore
  have hsnap : d'.awaitStore.snapshot = s.commit now sets :=
    (hd'.snapshot (by rw [hfails]; rfl)).trans hlast
  refine ⟨Page.of (listing f sets) size token, ?_, ?_, fun hsize => ?_⟩
  · rw [list_eq, records_of_works (hd.failure.trans hworks), hd.sets, hsets]
    rfl
  · rw [list_eq, records_of_fails (hd'.failure.trans hfails) (by rw [hsnap]; rfl), hsnap]
    rfl
  · have hview : d'.snapshot.view f = listing f sets := by
      rw [hlast]
      exact Snapshot.view_eq_listing (s.isFaithful_commit now sets) f
    have hpage : (Page.of (listing f sets) size token).records = listing f sets := by
      rw [Page.of, if_pos hsize]
    rw [hpage, hview]
    refine ⟨rfl, fun buffer most hmost => ?_⟩
    have hready : d'.snapshot.isReady = true := by rw [hlast]; rfl
    rw [Feed.changes_read_start hready, hview, Change.arrivals]
    exact List.take_of_length_le (by rwa [List.length_map])

/-- A blank search is a filter that lets all names through, so the view is made anew. A loop goes
on scanning in vain. -/
theorem list_eq_view_blankSearch :
    let sets := [RecordSet.single "x", RecordSet.single "y"]
    let f : Filters := { search := some " " }
    let works : Directory := { resolver := .ofTables [] [], streamBuffer := 1, store := { sets } }
    let fails : Directory :=
      { resolver := .ofTables [] [], streamBuffer := 1, store := { failure := some "down" },
        snapshot := Snapshot.empty.commit .epoch sets, loops := [RefreshLoop.start 30 0] }
    fails.snapshot.view f = [.single "x"] ∧
      ∃ page, (works.list f 0 "").1 = .ok page ∧ (fails.list f 0 "").1 = .ok page ∧
        page.records = fails.snapshot.view f ∧
        ∀ buffer most, page.records.length ≤ most →
          ((Feed.start f buffer).read fails.snapshot most).changes =
            Change.arrivals page.records := by
  intro sets f works fails
  obtain ⟨page, hw, hf, hrest⟩ := list_eq_view sets f 0 "" works fails rfl rfl "down" rfl
    Snapshot.empty .epoch rfl
  exact ⟨listing_eq_singleton (by decide), page, hw, hf, hrest rfl⟩

end Directory

end Namebook
