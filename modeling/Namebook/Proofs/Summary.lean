import Namebook.Directory.Service
import Namebook.Proofs.Catalogue
import Namebook.Proofs.Key

/-!
# The counts of a summary

A summary counts the names of the records of a snapshot, and a record is made of the first entry of
its key alone. So manual entries count before discovered ones only as far as they lead their key: of
two entries of one name and type the first decides.
-/

namespace Namebook

/-- To whom an entry attributes its name. -/
def Occurrence.attribution (o : Occurrence) : String × Provenance := (o.name, o.entry.provenance)

theorem mem_attributions {os : List Occurrence} {name : String} {p : Provenance} :
    (name, p) ∈ os.map Occurrence.attribution ↔
      ∃ o ∈ os, o.name = name ∧ o.entry.provenance = p := by
  simp only [List.mem_map, Occurrence.attribution, Prod.mk.injEq]

/-- The first entries of all keys. -/
def leaders : List Occurrence → List Occurrence
  | [] => []
  | o :: os => o :: (leaders os).filter fun x => x.key ≠ o.key

theorem mem_leaders {os : List Occurrence} {o : Occurrence} :
    o ∈ leaders os ↔ os.find? (fun x => x.key == o.key) = some o := by
  induction os with
  | nil => simp [leaders]
  | cons first os ih =>
    rw [leaders, List.mem_cons, List.mem_filter, ih]
    by_cases hk : first.key = o.key
    · rw [List.find?_cons_of_pos (by simpa using hk)]
      simp [hk, eq_comm]
    · have hne : o ≠ first := fun he => hk (he ▸ rfl)
      rw [List.find?_cons_of_neg (by simpa using hk)]
      simp [hne, Ne.symm hk]

theorem mem_of_mem_leaders {os : List Occurrence} {o : Occurrence} (h : o ∈ leaders os) : o ∈ os :=
  List.mem_of_find?_eq_some (mem_leaders.mp h)

theorem exists_leader {os : List Occurrence} {o : Occurrence} (h : o ∈ os) :
    ∃ first ∈ leaders os, first.key = o.key := by
  have hsome : (os.find? fun x => x.key == o.key).isSome = true :=
    List.find?_isSome.mpr ⟨o, h, beq_self_eq_true o.key⟩
  obtain ⟨first, hfirst⟩ := Option.isSome_iff_exists.mp hsome
  have hkey : first.key = o.key := by simpa using List.find?_some hfirst
  rw [← hkey] at hfirst
  exact ⟨first, mem_leaders.mpr hfirst, hkey⟩

/-! ## Records and leaders -/

variable {sets : List RecordSet}

theorem exists_leader_of_mem_listing {r : Record} (hr : r ∈ listing Filters.unfiltered sets) :
    ∃ o ∈ leaders (occurrences sets), o.key = r.key ∧ r.attribution = o.attribution := by
  obtain ⟨x, hx, he⟩ := eq_record_of_mem_listing hr
  rw [sightings_unfiltered, List.find?_map, Option.map_eq_some_iff] at hx
  obtain ⟨o, ho, rfl⟩ := hx
  have hfirst : (occurrences sets).find? (fun o => o.key == r.key) = some o := ho
  have hkey : o.key = r.key := by simpa using List.find?_some hfirst
  refine ⟨o, mem_leaders.mpr (hkey ▸ hfirst), hkey, ?_⟩
  rw [he]
  rfl

theorem mem_attributions_listing {a : String × Provenance} :
    a ∈ (listing Filters.unfiltered sets).map Record.attribution ↔
      a ∈ (leaders (occurrences sets)).map Occurrence.attribution := by
  constructor
  · intro ha
    obtain ⟨r, hr, rfl⟩ := List.mem_map.mp ha
    obtain ⟨o, ho, -, he⟩ := exists_leader_of_mem_listing hr
    exact he ▸ List.mem_map_of_mem ho
  · intro ha
    obtain ⟨o, ho, rfl⟩ := List.mem_map.mp ha
    obtain ⟨r, hr, hrk⟩ := exists_mem_listing_of_occurrence (mem_of_mem_leaders ho)
    obtain ⟨first, hfirst, hkey, he⟩ := exists_leader_of_mem_listing hr
    -- A key has one leader.
    have hsame : first = o := by
      have h := mem_leaders.mp hfirst
      rw [hkey, hrk, mem_leaders.mp ho] at h
      exact (Option.some.inj h).symm
    rw [← hsame, ← he]
    exact List.mem_map_of_mem hr

/-! ## The summary of a commit -/

theorem bySource_commit (s : Snapshot) (now : Time.Instant) (sets : List RecordSet) :
    (s.commit now sets).summary.bySource =
      countNames ((leaders (occurrences sets)).map Occurrence.attribution) := by
  have hcount : (s.commit now sets).summary.bySource =
      countNames ((listing Filters.unfiltered sets).map Record.attribution) :=
    Catalogue.length_byProvenance_ofList _
  exact hcount.trans (countNames_congr_mem fun _ => mem_attributions_listing)

/-- Where entries of one key agree about it, the leaders attribute all that any entry does. -/
theorem mem_attributions_leaders {os : List Occurrence}
    (h : ∀ o ∈ os, ∀ x ∈ os, o.key = x.key → o.attribution = x.attribution)
    {a : String × Provenance} :
    a ∈ (leaders os).map Occurrence.attribution ↔ a ∈ os.map Occurrence.attribution := by
  constructor
  · intro ha
    obtain ⟨o, ho, rfl⟩ := List.mem_map.mp ha
    exact List.mem_map_of_mem (mem_of_mem_leaders ho)
  · intro ha
    obtain ⟨o, ho, rfl⟩ := List.mem_map.mp ha
    obtain ⟨first, hfirst, hkey⟩ := exists_leader ho
    rw [← h first (mem_of_mem_leaders hfirst) o ho hkey]
    exact List.mem_map_of_mem hfirst

/-- The summary of a commit counts the names of the first entries of all keys. These are the counts
of all entries, in which manual ones come before discovered ones, exactly as long as every name
leads some key and every name with a manual entry leads some key with one. So it is where entries of
one key agree in their name and provenance, and then the order of sets, groups and entries does not
matter. -/
theorem summary_of_leaders (s : Snapshot) (now : Time.Instant) (sets : List RecordSet) :
    let os := occurrences sets
    let counts := (s.commit now sets).summary.bySource
    counts = countNames ((leaders os).map Occurrence.attribution) ∧
      (counts = countNames (os.map Occurrence.attribution) ↔
        (∀ o ∈ os, ∃ x ∈ leaders os, x.name = o.name) ∧
          ∀ o ∈ os, o.entry.provenance = .manual →
            ∃ x ∈ leaders os, x.name = o.name ∧ x.entry.provenance = .manual) ∧
      ((∀ o ∈ os, ∀ x ∈ os, o.key = x.key → o.attribution = x.attribution) →
        ∀ others, (occurrences others).Perm os →
          (s.commit now others).summary.bySource = countNames (os.map Occurrence.attribution)) := by
  intro os counts
  have hleaders : counts = countNames ((leaders os).map Occurrence.attribution) :=
    bySource_commit s now sets
  refine ⟨hleaders, ?_, fun h others hperm => ?_⟩
  · have hsub : ∀ a ∈ (leaders os).map Occurrence.attribution,
        a ∈ os.map Occurrence.attribution := by
      intro a ha
      obtain ⟨o, ho, rfl⟩ := List.mem_map.mp ha
      exact List.mem_map_of_mem (mem_of_mem_leaders ho)
    rw [hleaders, countNames_eq_iff hsub, List.map_map, List.map_map, List.forall_mem_map]
    refine and_congr (forall₂_congr fun o _ => List.mem_map) ?_
    simp only [mem_attributions]
    constructor
    · exact fun h o ho hm => h o.name ⟨o, ho, rfl, hm⟩
    · rintro h _ ⟨o, ho, rfl, hm⟩
      exact h o ho hm
  · have hagree : ∀ o ∈ occurrences others, ∀ x ∈ occurrences others, o.key = x.key →
        o.attribution = x.attribution := fun o ho x hx =>
      h o (hperm.mem_iff.mp ho) x (hperm.mem_iff.mp hx)
    rw [bySource_commit]
    exact countNames_congr_mem fun a =>
      (mem_attributions_leaders hagree).trans (hperm.map Occurrence.attribution).mem_iff

/-- A set with two entries of one name and type. -/
def RecordSet.claimedTwice (first second : Provenance) : RecordSet where
  metadata := { name := some "one" }
  spec := {}
  status := some { groups := [⟨"Apps",
    [{ name := "x", type := "A", provenance := first },
      { name := "x", type := "A", provenance := second }]⟩] }

/-- A manual entry is not counted after a discovered one of its name and type, but before it. -/
theorem claimedTwice_counts_first :
    let late : List RecordSet := [.claimedTwice .discovered .manual]
    let early : List RecordSet := [.claimedTwice .manual .discovered]
    countNames ((occurrences late).map Occurrence.attribution) = [(.manual, 1)] ∧
      (Snapshot.empty.commit .epoch late).summary.bySource = [(.discovered, 1)] ∧
      (Snapshot.empty.commit .epoch early).summary.bySource = [(.manual, 1)] := by
  refine ⟨by decide +kernel, ?_, ?_⟩
  · rw [bySource_commit]
    decide +kernel
  · rw [bySource_commit]
    decide +kernel

end Namebook
