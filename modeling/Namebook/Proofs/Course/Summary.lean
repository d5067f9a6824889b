import Namebook.Proofs.Catalogue.ReadOut
import Namebook.Proofs.Course.Snapshot
import Namebook.Proofs.Summary

/-!
# The summary in the course of a directory

Whatever was done to a directory, its summary counts the records and the names of one snapshot. Each
name is counted once, as manual if any record of it is.
-/

namespace Namebook

/-! ## Counts of names -/

section
variable {attributions : List (String × Provenance)} {rs : List Record}

theorem pos_of_mem_countNames {p : Provenance × Nat} (h : p ∈ countNames attributions) :
    0 < p.2 := by
  apply Nat.pos_of_ne_zero
  simpa using (List.mem_filter.mp h).2

/-- Every name is counted once. -/
theorem sum_countNames (attributions : List (String × Provenance)) :
    ((countNames attributions).map Prod.snd).sum = (namesOf attributions).card := by
  have hsub : manualNamesOf attributions ⊆ namesOf attributions := by
    intro name hname
    exact mem_namesOf.mpr (List.mem_map_of_mem (mem_manualNamesOf.mp hname))
  have hsum := Finset.card_sdiff_add_card_eq_card hsub
  rw [← hsum, countNames]
  generalize (manualNamesOf attributions).card = m
  generalize (namesOf attributions \ manualNamesOf attributions).card = n
  cases m <;> cases n <;> simp [Nat.add_comm]

theorem namesOf_attributions (rs : List Record) :
    namesOf (rs.map Record.attribution) = (rs.map Record.name).toFinset := by
  rw [namesOf, List.map_map]
  rfl

theorem manualNamesOf_attributions (rs : List Record) :
    manualNamesOf (rs.map Record.attribution) =
      (rs.map Record.name).toFinset.filter fun name =>
        ∃ r ∈ rs, r.name = name ∧ r.provenance = .manual := by
  ext name
  simp only [mem_manualNamesOf, Finset.mem_filter, List.mem_toFinset, List.mem_map,
    Record.attribution, Prod.mk.injEq]
  constructor
  · rintro ⟨r, hr, hname, hmanual⟩
    exact ⟨⟨r, hr, hname⟩, r, hr, hname, hmanual⟩
  · exact fun h => h.2

/-- What is stored of a name is manual as soon as any record of it is. -/
theorem Catalogue.exists_find?_ofList {name : String} (h : name ∈ (rs.map Record.name).toFinset) :
    ∃ stored, (ofList rs).find? name = some stored ∧
      (stored.provenance = .manual ↔ ∃ r ∈ rs, r.name = name ∧ r.provenance = .manual) := by
  have hnodup : ((ofList rs).records.map Record.name).Nodup := nodup_names_ofList rs
  rw [List.mem_toFinset, ← List.mem_eraseDups, ← names_ofList] at h
  obtain ⟨stored, hstored, rfl⟩ := List.mem_map.mp h
  refine ⟨stored, find?_of_mem hnodup hstored, ?_⟩
  have hmanual : (stored.name, .manual) ∈ (ofList rs).records.map Record.attribution ↔
      (stored.name, .manual) ∈ rs.map Record.attribution := manual_ofList
  simp only [List.mem_map, Record.attribution, Prod.mk.injEq] at hmanual
  rw [← hmanual]
  constructor
  · exact fun hp => ⟨stored, hstored, rfl, hp⟩
  · rintro ⟨x, hx, hname, hp⟩
    rwa [List.inj_on_of_nodup_map hnodup hx hstored hname] at hp

end

/-! ## The summary of a snapshot -/

namespace Snapshot

theorem bySource_summary (s : Snapshot) :
    s.summary.bySource = countNames (s.records.map Record.attribution) :=
  Catalogue.length_byProvenance_ofList s.records

theorem totalNames_summary (s : Snapshot) :
    s.summary.totalNames = (s.records.map Record.name).toFinset.card :=
  Catalogue.size_ofList s.records

/-- Where the records are the listing of the sets, there are as many as keys occur in these. -/
theorem totalRecords_summary {s : Snapshot} (h : s.IsFaithful) :
    s.summary.totalRecords = ((occurrences s.sets).map Occurrence.key).toFinset.card := by
  have hnodup : (s.records.map Record.key).Nodup := h ▸ nodup_keys_listing _ s.sets
  have hkeys : (s.records.map Record.key).toFinset =
      ((occurrences s.sets).map Occurrence.key).toFinset := by
    ext key
    rw [List.mem_toFinset, List.mem_toFinset, h, mem_keys_listing, sightings_unfiltered,
      List.map_map]
    rfl
  rw [← hkeys, List.toFinset_card_of_nodup hnodup, List.length_map]
  rfl

/-- The order of the records does not matter to what is counted of names. -/
theorem summary_of_perm (s : Snapshot) {order : List Record} (h : order.Perm s.records) :
    let reordered : Snapshot := { s with records := order }
    reordered.summary.bySource = s.summary.bySource ∧
      reordered.summary.totalNames = s.summary.totalNames := by
  intro reordered
  rw [bySource_summary, bySource_summary, totalNames_summary, totalNames_summary]
  refine ⟨countNames_congr_mem fun _ => (h.map Record.attribution).mem_iff, ?_⟩
  exact congrArg Finset.card (List.toFinset_eq_of_perm _ _ (h.map Record.name))

/-- What the summary of a snapshot is that publications made. -/
theorem IsMadeOf.summary {s : Snapshot} {published : List (List RecordSet)}
    (h : s.IsMadeOf published) :
    let sets := published.getLast?.getD []
    let names := (s.records.map Record.name).toFinset
    let manual := names.filter fun name =>
      ∃ r ∈ s.records, r.name = name ∧ r.provenance = .manual
    s.summary.totalRecords = ((occurrences sets).map Occurrence.key).toFinset.card ∧
      s.summary.totalNames = names.card ∧
      (∀ p ∈ s.summary.bySource, 0 < p.2) ∧
      (s.summary.bySource.map Prod.snd).sum = s.summary.totalNames ∧
      s.summary.bySource =
        [(.manual, manual.card), (.discovered, (names \ manual).card)].filter (fun p => p.2 ≠ 0) ∧
      (∀ name ∈ names, ∃ stored, (Catalogue.ofList s.records).find? name = some stored ∧
        (stored.provenance = .manual ↔ name ∈ manual)) ∧
      (∀ order : List Record, order.Perm s.records →
        let reordered : Snapshot := { s with records := order }
        reordered.summary.bySource = s.summary.bySource ∧
          reordered.summary.totalNames = s.summary.totalNames) ∧
      s.summary.generation = s.generation ∧ s.summary.refreshed = s.refreshed ∧
      (s.summary.ready = true ↔ 0 < s.summary.generation) ∧
      (s.summary.ready = true ↔ s.summary.refreshed.isSome = true) := by
  intro sets names manual
  have hmanual : manualNamesOf (s.records.map Record.attribution) = manual :=
    manualNamesOf_attributions s.records
  have hcounts := s.bySource_summary
  refine ⟨?records, s.totalNames_summary, ?positive, ?sum, ?counts, fun name hname => ?stored,
    fun order => s.summary_of_perm, rfl, rfl, ?generation, ?refreshed⟩
  case records =>
    have hsets : sets = s.sets := h.sets.symm
    rw [hsets]
    exact totalRecords_summary h.records
  case positive =>
    rw [hcounts]
    exact fun p => pos_of_mem_countNames
  case sum =>
    rw [hcounts, sum_countNames, namesOf_attributions, totalNames_summary]
  case counts => rw [hcounts, countNames, hmanual, namesOf_attributions]
  case stored =>
    obtain ⟨stored, hfound, hp⟩ := Catalogue.exists_find?_ofList hname
    refine ⟨stored, hfound, ?_⟩
    rw [hp, Finset.mem_filter, and_iff_right hname]
  case generation => exact decide_eq_true_iff
  case refreshed => exact h.isReady.trans h.refreshed.symm

end Snapshot

namespace Course

/-- The summary in any course of a new directory. There is a record for each key among the entries
that were published last. Every name of a record is counted once, and a provenance that is listed
has names: the manual ones are those that any record gives as manual, and as such they are stored;
the order of the records does not matter. Whether there is a snapshot, its generation and its moment
are those of the snapshot that is counted, and they agree. -/
theorem summary_of_course (grouping : Grouping) (resolver : Dns.Resolver) (streamBuffer : Nat)
    (deeds : List Deed) :
    let s := ((new grouping resolver streamBuffer).run deeds).directory.snapshot
    let sets :=
      (publications ((new grouping resolver streamBuffer).history deeds)).getLast?.getD []
    let names := (s.records.map Record.name).toFinset
    let manual := names.filter fun name =>
      ∃ r ∈ s.records, r.name = name ∧ r.provenance = .manual
    s.summary.totalRecords = ((occurrences sets).map Occurrence.key).toFinset.card ∧
      s.summary.totalNames = names.card ∧
      (∀ p ∈ s.summary.bySource, 0 < p.2) ∧
      (s.summary.bySource.map Prod.snd).sum = s.summary.totalNames ∧
      s.summary.bySource =
        [(.manual, manual.card), (.discovered, (names \ manual).card)].filter (fun p => p.2 ≠ 0) ∧
      (∀ name ∈ names, ∃ stored, (Catalogue.ofList s.records).find? name = some stored ∧
        (stored.provenance = .manual ↔ name ∈ manual)) ∧
      (∀ order : List Record, order.Perm s.records →
        let reordered : Snapshot := { s with records := order }
        reordered.summary.bySource = s.summary.bySource ∧
          reordered.summary.totalNames = s.summary.totalNames) ∧
      s.summary.generation = s.generation ∧ s.summary.refreshed = s.refreshed ∧
      (s.summary.ready = true ↔ 0 < s.summary.generation) ∧
      (s.summary.ready = true ↔ s.summary.refreshed.isSome = true) := by
  intro s sets names manual
  have hmade : s.IsMadeOf (publications ((new grouping resolver streamBuffer).history deeds)) :=
    isMadeOf_run_new grouping resolver streamBuffer deeds
  exact hmade.summary

end Course

end Namebook
