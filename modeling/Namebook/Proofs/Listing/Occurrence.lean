import Namebook.Proofs.Listing
import Namebook.Proofs.Reference

/-!
# The listing in terms of the status entries

An occurrence is an entry of a set at its place, met in the order of the sets, their groups and the
entries of these. Without filters the listing has one record for each key that occurs, taken from
the first occurrence of the key and in the groups of all of them.
-/

namespace Namebook

theorem Sighting.isZero_of_origin {x : Sighting} {r : Reference} (h : x.origin = some r) :
    r.isZero = false := by
  obtain ⟨raw, -, hp⟩ := Option.bind_eq_some_iff.mp h
  exact Reference.isZero_of_parse? hp

/-- All that the first sighting of a name says is in its record. -/
theorem Sighting.record_eq (x : Sighting) :
    x.record =
      { name := x.name, provenance := x.entry.provenance, description := x.entry.description,
        type := x.type, targets := x.entry.targets, groups := [x.group], origin := x.origin,
        status := x.entry.status, seen := x.seen } := by
  have ho : x.origin.filter (fun o => !o.isZero) = x.origin := by
    cases h : x.origin with
    | none => rfl
    | some r => simp [isZero_of_origin h]
  unfold record Record.withOrigin
  rw [ho]
  rfl

/-- An entry together with the set and the group that it is in. -/
structure Occurrence where
  set : RecordSet
  group : RecordSet.Group
  entry : RecordSet.Entry

namespace Occurrence

def name (o : Occurrence) : String := Text.normalizeName o.entry.name

def key (o : Occurrence) : String := o.name ++ "/" ++ Text.normalizeType o.entry.type

/-- The trimmed name of the group; a blank one is replaced. -/
def shown (o : Occurrence) : String :=
  if Text.trim o.group.name = "" then "Services" else Text.trim o.group.name

def sighting (o : Occurrence) : Sighting := ⟨o.set.space, o.set.portal, o.group.shown, o.entry⟩

@[simp] theorem name_sighting (o : Occurrence) : o.sighting.name = o.name := rfl

@[simp] theorem group_sighting (o : Occurrence) : o.sighting.group = o.shown := by
  unfold sighting RecordSet.Group.shown Text.nonBlank? shown
  by_cases h : Text.trim o.group.name = "" <;> simp [h, fallbackGroup]

end Occurrence

/-- The entries of one set that have a name, group by group. -/
def RecordSet.occurrences (s : RecordSet) : List Occurrence :=
  (s.groups.flatMap fun g => g.entries.map fun e => ⟨s, g, e⟩).filter fun o => o.name ≠ ""

/-- The entries that have a name, in the order in which the sets are scanned. -/
def occurrences (sets : List RecordSet) : List Occurrence := sets.flatMap RecordSet.occurrences

theorem RecordSet.sightings_eq (s : RecordSet) :
    s.sightings = s.occurrences.map Occurrence.sighting := by
  have hs : (s.groups.flatMap fun g => g.entries.map (Sighting.mk s.space s.portal g.shown)) =
      (s.groups.flatMap fun g => g.entries.map (Occurrence.mk s g)).map Occurrence.sighting := by
    rw [List.map_flatMap]
    simp only [List.map_map]
    rfl
  have hn : (fun x : Sighting => !x.name.isEmpty) ∘ Occurrence.sighting =
      fun o => decide (o.name ≠ "") := by
    funext o
    rw [Function.comp_apply, Occurrence.name_sighting]
    by_cases h : o.name = "" <;> simp [h]
  rw [sightings, occurrences, hs, List.filter_map, hn]

theorem sightings_unfiltered (sets : List RecordSet) :
    sightings Filters.unfiltered sets = (occurrences sets).map Occurrence.sighting := by
  have hs : sets.filter Filters.unfiltered.selector.matches = sets :=
    List.filter_eq_self.mpr fun _ _ => rfl
  rw [sightings, hs, occurrences, List.map_flatMap]
  congr 1
  funext s
  rw [← s.sightings_eq]
  exact List.filter_eq_self.mpr fun _ _ => rfl

/-- The listing is what its specification says: a record for each key that occurs and no other,
with the data of the first occurrence and the groups of all of them, strictly by name and type. -/
theorem listing_unfiltered (sets : List RecordSet) :
    let rs := listing Filters.unfiltered sets
    let os := occurrences sets
    (rs.map Record.key).Nodup ∧
      (∀ key, key ∈ rs.map Record.key ↔ key ∈ os.map Occurrence.key) ∧
      (∀ r ∈ rs, ∃ first, os.find? (fun o => o.key == r.key) = some first ∧
        r =
          { name := first.name
            provenance := first.entry.provenance
            description := first.entry.description
            type := Text.normalizeType first.entry.type
            targets := first.entry.targets
            groups := ((os.filter fun o => o.key == r.key).map Occurrence.shown).eraseDups
            origin := first.entry.origin.bind Reference.parse?
            status := first.entry.status
            seen := (first.entry.seen.bind Time.Instant.parse?).getD Time.Instant.epoch }) ∧
      rs.Pairwise fun a b => a.name < b.name ∨ a.name = b.name ∧ a.type < b.type := by
  intro rs os
  refine ⟨nodup_keys_listing _ sets, fun key => ?_, fun r hr => ?_,
    pairwise_before_listing _ sets⟩
  · rw [mem_keys_listing, sightings_unfiltered, List.map_map]
    rfl
  · obtain ⟨x, hx, he⟩ := eq_record_of_mem_listing hr
    rw [sightings_unfiltered, List.find?_map, Option.map_eq_some_iff] at hx
    obtain ⟨first, hf, rfl⟩ := hx
    refine ⟨first, hf, ?_⟩
    rw [sightings_unfiltered, List.filter_map, List.map_map, Sighting.record_eq] at he
    have hg : Sighting.group ∘ Occurrence.sighting = Occurrence.shown :=
      funext Occurrence.group_sighting
    rw [hg] at he
    exact he

end Namebook
