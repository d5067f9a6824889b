import Mathlib.Data.Finset.Dedup
import Namebook.Proofs.Listing.Occurrence
import Namebook.Proofs.Text.Blank

/-!
# Which keys are listed, and in which groups

The first entry of a key decides what its record says, but not whether there is a record and which
groups it is in: these depend on nothing but the set of places in which names are given, whatever
the order of sets, groups and entries and however often something is said.
-/

namespace Namebook

/-- Where an entry gives a name, and all that filters can ask for. -/
structure Citation where
  space : Option String
  portal : String
  provenance : Provenance
  group : String
  name : String
  type : String
  deriving DecidableEq, Repr

namespace Citation

def key (c : Citation) : String := Record.keyOf c.name c.type

def passes (f : Filters) (c : Citation) : Bool :=
  f.space.all (fun space => c.space == some space) &&
    f.portal.all (fun portal => c.portal == portal) && f.admitsEntry c.name c.provenance

end Citation

/-- What the entries of one set cite; blank names are not cited. -/
def RecordSet.citations (s : RecordSet) : List Citation :=
  s.groups.flatMap fun g =>
    (g.entries.filter fun e => Text.trim e.name ≠ "").map fun e =>
      ⟨s.space, s.portal, e.provenance, g.shown, Text.normalizeName e.name,
        Text.normalizeType e.type⟩

def citations (sets : List RecordSet) : List Citation := sets.flatMap RecordSet.citations

/-- The same keys, each in the same groups, whatever else the records say. -/
structure SameMembers (rs ss : List Record) : Prop where
  keys : ∀ key, key ∈ rs.map Record.key ↔ key ∈ ss.map Record.key
  groups : ∀ r ∈ rs, ∀ s ∈ ss, r.key = s.key → ∀ group, group ∈ r.groups ↔ group ∈ s.groups

/-! ## Sightings are citations -/

def Sighting.citation (x : Sighting) : Citation :=
  ⟨x.space, x.portal, x.entry.provenance, x.group, x.name, x.type⟩

@[simp] theorem Sighting.key_citation (x : Sighting) : x.citation.key = x.key := rfl

theorem RecordSet.citations_eq (s : RecordSet) :
    s.citations = s.sightings.map Sighting.citation := by
  unfold citations sightings
  rw [List.filter_flatMap, List.map_flatMap]
  congr 1
  funext g
  rw [List.filter_map, List.map_map]
  have hnamed : (fun x : Sighting => !x.name.isEmpty) ∘ Sighting.mk s.space s.portal g.shown =
      fun e => decide (Text.trim e.name ≠ "") := by
    funext e
    have hblank := Text.normalizeName_eq_empty_iff (s := e.name)
    by_cases h : Text.trim e.name = "" <;> simp [Sighting.name, hblank, h]
  rw [hnamed]
  rfl

theorem citation_of_mem_sightings {s : RecordSet} {x : Sighting} (hx : x ∈ s.sightings) :
    x.space = s.space ∧ x.portal = s.portal := by
  obtain ⟨g, -, hg⟩ := List.mem_flatMap.mp (List.mem_filter.mp hx).1
  obtain ⟨e, -, rfl⟩ := List.mem_map.mp hg
  exact ⟨rfl, rfl⟩

/-- The filters of sets and those of entries ask no more than what is cited. -/
theorem mem_citations_sightings {f : Filters} {sets : List RecordSet} {c : Citation} :
    c ∈ (sightings f sets).map Sighting.citation ↔ c ∈ citations sets ∧ c.passes f = true := by
  have hpasses {s : RecordSet} {x : Sighting} (hx : x ∈ s.sightings) :
      x.citation.passes f = true ↔ f.selector.matches s = true ∧ f.admits x = true := by
    obtain ⟨hspace, hportal⟩ := citation_of_mem_sightings hx
    unfold Citation.passes Sighting.citation Selector.matches Filters.selector Filters.admits
    rw [← hspace, ← hportal]
    exact Bool.and_eq_true_iff
  simp only [citations, sightings, RecordSet.citations_eq, List.mem_map, List.mem_flatMap,
    List.mem_filter]
  constructor
  · rintro ⟨x, ⟨s, ⟨hs, hm⟩, hx, ha⟩, rfl⟩
    exact ⟨⟨s, hs, x, hx, rfl⟩, (hpasses hx).mpr ⟨hm, ha⟩⟩
  · rintro ⟨⟨s, hs, x, hx, rfl⟩, hp⟩
    obtain ⟨hm, ha⟩ := (hpasses hx).mp hp
    exact ⟨x, ⟨s, ⟨hs, hm⟩, hx, ha⟩, rfl⟩

/-! ## What a listing takes from them -/

variable {f : Filters} {sets : List RecordSet}

theorem mem_keys_listing_iff_cited {key : String} :
    key ∈ (listing f sets).map Record.key ↔
      ∃ c ∈ citations sets, c.passes f = true ∧ c.key = key := by
  rw [mem_keys_listing]
  constructor
  · intro hkey
    obtain ⟨x, hx, rfl⟩ := List.mem_map.mp hkey
    obtain ⟨hc, hp⟩ := mem_citations_sightings.mp (List.mem_map_of_mem hx)
    exact ⟨x.citation, hc, hp, rfl⟩
  · rintro ⟨c, hc, hp, rfl⟩
    obtain ⟨x, hx, rfl⟩ := List.mem_map.mp (mem_citations_sightings.mpr ⟨hc, hp⟩)
    exact List.mem_map_of_mem hx

theorem mem_groups_listing_iff_cited {r : Record} (hr : r ∈ listing f sets) {group : String} :
    group ∈ r.groups ↔
      ∃ c ∈ citations sets, c.passes f = true ∧ c.key = r.key ∧ c.group = group := by
  obtain ⟨first, -, he⟩ := eq_record_of_mem_listing hr
  have hgroups : group ∈ r.groups ↔
      ∃ x ∈ sightings f sets, x.key = r.key ∧ x.group = group := by
    rw [congrArg Record.groups he]
    simp only [List.mem_eraseDups, List.mem_map, List.mem_filter, beq_iff_eq, and_assoc]
  rw [hgroups]
  constructor
  · rintro ⟨x, hx, hk, hg⟩
    obtain ⟨hc, hp⟩ := mem_citations_sightings.mp (List.mem_map_of_mem hx)
    exact ⟨x.citation, hc, hp, hk, hg⟩
  · rintro ⟨c, hc, hp, hk, hg⟩
    obtain ⟨x, hx, rfl⟩ := List.mem_map.mp (mem_citations_sightings.mpr ⟨hc, hp⟩)
    exact ⟨x, hx, hk, hg⟩

theorem sameMembers_of_mem_citations {others : List RecordSet}
    (h : ∀ c, c ∈ citations sets ↔ c ∈ citations others) :
    SameMembers (listing f sets) (listing f others) where
  keys key := by
    simp only [mem_keys_listing_iff_cited, h]
  groups r hr s hs hk group := by
    rw [mem_groups_listing_iff_cited hr, mem_groups_listing_iff_cited hs]
    simp only [h, hk]

/-- Two lists of sets that cite the same, in any order and as often as they like, have the same keys
listed, and each key in the same groups. So it is when the sets come in another order, and when all
of them come once more. -/
theorem listing_of_citations (f : Filters) (sets others : List RecordSet) :
    ((citations sets).toFinset = (citations others).toFinset →
        SameMembers (listing f sets) (listing f others)) ∧
      (sets.Perm others → SameMembers (listing f sets) (listing f others)) ∧
      SameMembers (listing f sets) (listing f (sets ++ sets)) := by
  refine ⟨fun h => ?_, fun h => ?_, ?_⟩
  · apply sameMembers_of_mem_citations
    intro c
    rw [← List.mem_toFinset, h, List.mem_toFinset]
  · apply sameMembers_of_mem_citations
    intro c
    exact (h.flatMap_right RecordSet.citations).mem_iff
  · apply sameMembers_of_mem_citations
    intro c
    rw [citations, citations, List.flatMap_append, List.mem_append, or_self]

/-- A set of that name with these groups. -/
def RecordSet.ofGroups (name : String) (groups : List RecordSet.Group) : RecordSet where
  metadata := { name := some name }
  spec := {}
  status := some { groups }

/-- Sets, groups and entries change their places, and some of them are repeated with other data. -/
theorem listing_of_citations_shuffled :
    let web : RecordSet.Entry := { name := "web.example", type := "A" }
    let mail : RecordSet.Entry := { name := "mail.example", type := "MX" }
    let sets := [RecordSet.ofGroups "one" [⟨"Apps", [web, mail]⟩, ⟨" ", [web]⟩],
      RecordSet.ofGroups "two" [⟨"Tools", [mail]⟩]]
    let others := [
      RecordSet.ofGroups "two" [⟨" Tools", [{ mail with description := "old" }, mail]⟩],
      RecordSet.ofGroups "one" [⟨"", [{ web with name := "WEB.example " }]⟩],
      RecordSet.ofGroups "one" [⟨"Apps", [{ mail with type := "mx" }, { name := " " }, web]⟩]]
    let f : Filters := { portal := some "one", search := some "EXAMPLE" }
    (citations sets).toFinset = (citations others).toFinset ∧
      SameMembers (listing f sets) (listing f others) := by
  intro web mail sets others f
  have h : (citations sets).toFinset = (citations others).toFinset := by decide
  exact ⟨h, (listing_of_citations f sets others).1 h⟩

end Namebook
