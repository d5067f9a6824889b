import Namebook.Proofs.Listing.Restriction
import Namebook.Proofs.Text.Lowercase

/-!
# What a search finds

A search text and a name are put into lower case apart from each other. A name is found by every
part of it, but for this: a capital sigma that ends a word in the part and not in the name, or in
the name and not in the part, is one small letter here and another there.
-/

namespace Namebook

variable {sets : List RecordSet}

theorem sightings_search (needle : String) (sets : List RecordSet) :
    sightings { search := some needle } sets =
      ((occurrences sets).map Occurrence.sighting).filter
        (Filters.admits { search := some needle }) := by
  have hsets : sets.filter (Filters.selector { search := some needle }).matches = sets :=
    List.filter_eq_self.mpr fun _ _ => rfl
  rw [← sightings_unfiltered, sightings_eq_flatMap, List.filter_flatMap, sightings, hsets]

theorem admits_search (needle : String) (o : Occurrence) :
    Filters.admits { search := some needle } o.sighting = true ↔
      Text.trim needle = "" ∨ (Text.normalizeName needle).toList <:+: o.name.toList := by
  rw [Filters.admits_eq]
  simp only [RecordSet.Entry.isWanted, Option.all_none, Option.all_some, Bool.true_and]
  exact decide_eq_true_iff

theorem mem_keys_listing_search {needle key : String} (h : Text.trim needle ≠ "") :
    key ∈ (listing { search := some needle } sets).map Record.key ↔
      ∃ o ∈ occurrences sets, o.key = key ∧
        (Text.normalizeName needle).toList <:+: o.name.toList := by
  rw [mem_keys_listing, sightings_search]
  simp only [List.mem_map, List.mem_filter]
  constructor
  · rintro ⟨x, ⟨⟨o, ho, rfl⟩, hadmits⟩, rfl⟩
    exact ⟨o, ho, rfl, ((admits_search needle o).mp hadmits).resolve_left h⟩
  · rintro ⟨o, ho, rfl, hoccurs⟩
    exact ⟨o.sighting, ⟨⟨o, ho, rfl⟩, (admits_search needle o).mpr (.inr hoccurs)⟩, rfl⟩

theorem mem_occurrences {s : RecordSet} {g : RecordSet.Group} {e : RecordSet.Entry} (hs : s ∈ sets)
    (hg : g ∈ s.groups) (he : e ∈ g.entries) (hne : Text.trim e.name ≠ "") :
    ⟨s, g, e⟩ ∈ occurrences sets := by
  have hname : Occurrence.name ⟨s, g, e⟩ ≠ "" := mt Text.normalizeName_eq_empty_iff.mp hne
  refine List.mem_flatMap.mpr ⟨s, hs, List.mem_filter.mpr ⟨?_, by simpa using hname⟩⟩
  exact List.mem_flatMap.mpr ⟨g, hg, List.mem_map_of_mem he⟩

/-- A part of a name finds the name if each capital sigma of the part has the same lower case in
both, and so it does if it has none. In any case a key is found exactly if the normal form of a name
with that key contains that of the part, and for the name itself this is so but for the two small
sigmas. -/
theorem search_of_part (sets : List RecordSet) {s : RecordSet} (hs : s ∈ sets)
    {g : RecordSet.Group} (hg : g ∈ s.groups) {e : RecordSet.Entry} (he : e ∈ g.entries)
    {part : String} (hpart : part.toList <:+: e.name.toList) (hblank : Text.trim part ≠ "") :
    let key := Occurrence.key ⟨s, g, e⟩
    let found := key ∈ (listing { search := some part } sets).map Record.key
    (found ↔ ∃ o ∈ occurrences sets, o.key = key ∧
        (Text.normalizeName part).toList <:+: o.name.toList) ∧
      (∀ before after, e.name.toList = before ++ part.toList ++ after →
        Text.KeepsSigmas before part.toList after → found) ∧
      ('Σ' ∉ part.toList → found) ∧
      (Text.normalizeName part).toList.map Text.plainSigma <:+:
        (Text.normalizeName e.name).toList.map Text.plainSigma := by
  intro key found
  have ho : ⟨s, g, e⟩ ∈ occurrences sets :=
    mem_occurrences hs hg he (Text.trim_ne_empty_of_part hpart hblank)
  have hkeeps (before after : List Char) (hname : e.name.toList = before ++ part.toList ++ after)
      (h : Text.KeepsSigmas before part.toList after) : found :=
    (mem_keys_listing_search hblank).mpr ⟨_, ho, rfl, Text.normalizeName_occurs hname h⟩
  refine ⟨mem_keys_listing_search hblank, hkeeps, fun hsigma => ?_,
    Text.map_normalizeName_occurs hpart⟩
  obtain ⟨before, after, hname⟩ := hpart
  exact hkeeps before after hname.symm (Text.keepsSigmas_of_notMem hsigma before after)

/-- The sigma ends a word before the space, so it does not matter that the name goes on after it. -/
theorem search_of_part_word :
    let e : RecordSet.Entry := { name := "www.ΟΔΟΣ ΝΕΑ", type := "A" }
    let g : RecordSet.Group := ⟨"Apps", [e]⟩
    let s := RecordSet.ofGroups "one" [g]
    "ΟΔΟΣ ".toList <:+: e.name.toList ∧
      Occurrence.key ⟨s, g, e⟩ ∈ (listing { search := some "ΟΔΟΣ " } [s]).map Record.key := by
  intro e g s
  have hpart : "ΟΔΟΣ ".toList <:+: e.name.toList := ⟨"www.".toList, "ΝΕΑ".toList, by decide⟩
  obtain ⟨-, hkeeps, -⟩ := search_of_part [s] List.mem_cons_self List.mem_cons_self
    List.mem_cons_self hpart (by decide)
  exact ⟨hpart, hkeeps "www.".toList "ΝΕΑ".toList (by decide) (by decide +kernel)⟩

/-- The sigma ends the word that is searched for, but after it the name goes on with a letter behind
a point. -/
theorem search_misses_part :
    let e : RecordSet.Entry := { name := "ΟΔΟΣ.example", type := "A" }
    let g : RecordSet.Group := ⟨"Apps", [e]⟩
    let s := RecordSet.ofGroups "one" [g]
    "ΟΔΟΣ".toList <:+: e.name.toList ∧ Text.trim "ΟΔΟΣ" ≠ "" ∧
      Occurrence.key ⟨s, g, e⟩ ∉ (listing { search := some "ΟΔΟΣ" } [s]).map Record.key := by
  intro e g s
  refine ⟨⟨[], ".example".toList, by decide⟩, by decide, ?_⟩
  have hnone : listing { search := some "ΟΔΟΣ" } [s] = [] := by decide +kernel
  simp [hnone]

end Namebook
