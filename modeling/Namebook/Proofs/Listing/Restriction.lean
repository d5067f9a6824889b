import Mathlib.Data.List.Infix
import Namebook.Proofs.Listing.Membership

/-!
# Filters restrict what is listed

To ask for some names only is to drop all else from the sets and to list what is left. Filters are
independent of each other, so they may be applied one after the other, in any order, and some of
them before the scan and the others while it goes on.
-/

namespace Namebook

/-- The space and the portal of the set are those that are asked for. -/
def RecordSet.isWanted (f : Filters) (s : RecordSet) : Bool :=
  f.space.all (fun space => s.space = some space) && f.portal.all fun portal => s.portal = portal

/-- The entry has the provenance that is asked for, and its name contains what is searched for, both
in normal form. A blank search drops nothing. -/
def RecordSet.Entry.isWanted (f : Filters) (e : RecordSet.Entry) : Bool :=
  f.provenance.all (fun p => e.provenance = p) && f.search.all fun search =>
    Text.trim search = "" ∨
      (Text.normalizeName search).toList <:+: (Text.normalizeName e.name).toList

/-- Drops the other entries from all groups. -/
def RecordSet.keeping (wanted : RecordSet.Entry → Bool) (s : RecordSet) : RecordSet :=
  { s with status := s.status.map fun status =>
    { status with groups := status.groups.map fun g =>
      { g with entries := g.entries.filter wanted } } }

/-- Drops the sets that are not wanted, and from the others the entries that are not. -/
def restrict (f : Filters) (sets : List RecordSet) : List RecordSet :=
  (sets.filter (RecordSet.isWanted f)).map (RecordSet.keeping (RecordSet.Entry.isWanted f))

namespace Filters

/-- These are the other filters with some of them left out. -/
structure Weakens (g f : Filters) : Prop where
  space : g.space = none ∨ g.space = f.space
  portal : g.portal = none ∨ g.portal = f.portal
  provenance : g.provenance = none ∨ g.provenance = f.provenance
  search : g.search = none ∨ g.search = f.search

/-- Each filter of the whole is in one part or in both, and the parts have no others. -/
structure Splits (f g h : Filters) : Prop where
  left : g.Weakens f
  right : h.Weakens f
  space : f.space = g.space ∨ f.space = h.space
  portal : f.portal = g.portal ∨ f.portal = h.portal
  provenance : f.provenance = g.provenance ∨ f.provenance = h.provenance
  search : f.search = g.search ∨ f.search = h.search

variable {f g h : Filters}

theorem Weakens.refl (f : Filters) : f.Weakens f := ⟨.inr rfl, .inr rfl, .inr rfl, .inr rfl⟩

theorem Weakens.splits (hw : g.Weakens f) : f.Splits g f :=
  ⟨hw, .refl f, .inr rfl, .inr rfl, .inr rfl, .inr rfl⟩

theorem all_of_splits {α : Type} {whole a b : Option α} (ha : a = none ∨ a = whole)
    (hb : b = none ∨ b = whole) (hab : whole = a ∨ whole = b) (p : α → Bool) :
    whole.all p = (a.all p && b.all p) := by
  rcases hab with rfl | rfl
  · rcases hb with rfl | rfl <;> simp
  · rcases ha with rfl | rfl <;> simp

theorem Splits.isWanted (hs : f.Splits g h) (s : RecordSet) :
    s.isWanted f = (s.isWanted g && s.isWanted h) := by
  simp only [RecordSet.isWanted, all_of_splits hs.left.space hs.right.space hs.space,
    all_of_splits hs.left.portal hs.right.portal hs.portal]
  ac_rfl

theorem Splits.isWanted_entry (hs : f.Splits g h) (e : RecordSet.Entry) :
    e.isWanted f = (e.isWanted g && e.isWanted h) := by
  simp only [RecordSet.Entry.isWanted,
    all_of_splits hs.left.provenance hs.right.provenance hs.provenance,
    all_of_splits hs.left.search hs.right.search hs.search]
  ac_rfl

end Filters

/-! ## One restriction after the other -/

theorem RecordSet.isWanted_keeping (f : Filters) (wanted : RecordSet.Entry → Bool) (s : RecordSet) :
    (s.keeping wanted).isWanted f = s.isWanted f := rfl

theorem RecordSet.keeping_keeping (wanted also : RecordSet.Entry → Bool) (s : RecordSet) :
    (s.keeping wanted).keeping also = s.keeping fun e => also e && wanted e := by
  obtain ⟨metadata, spec, status⟩ := s
  cases status with
  | none => rfl
  | some status => simp [keeping, Function.comp_def, List.filter_filter]

theorem restrict_restrict {f g h : Filters} (hs : f.Splits g h) (sets : List RecordSet) :
    restrict h (restrict g sets) = restrict f sets := by
  have hset : (fun s : RecordSet => s.isWanted h && s.isWanted g) = RecordSet.isWanted f := by
    ext s
    rw [hs.isWanted, Bool.and_comm]
  have hentry : (fun e : RecordSet.Entry => e.isWanted h && e.isWanted g) =
      RecordSet.Entry.isWanted f := by
    ext e
    rw [hs.isWanted_entry, Bool.and_comm]
  simp only [restrict, List.filter_map, List.map_map, Function.comp_def,
    RecordSet.isWanted_keeping, RecordSet.keeping_keeping, List.filter_filter, hset, hentry]

/-! ## What is left is listed -/

theorem Text.contains_iff (needle cs : List Char) :
    Text.contains needle cs = true ↔ needle <:+: cs := by
  induction cs with
  | nil => simp [Text.contains]
  | cons c cs ih => simp [Text.contains, ih, List.infix_cons_iff]

theorem Filters.needle?_all (f : Filters) (name : String) :
    (f.needle?.all fun needle => Text.contains needle name.toList) =
      f.search.all fun search =>
        Text.trim search = "" ∨ (Text.normalizeName search).toList <:+: name.toList := by
  unfold needle?
  cases f.search with
  | none => rfl
  | some search =>
    apply Bool.eq_iff_iff.mpr
    by_cases hblank : Text.trim search = ""
    · have hempty : Text.normalizeName search = "" := Text.normalizeName_eq_empty_iff.mpr hblank
      simp [hblank, hempty]
    · have hne : Text.normalizeName search ≠ "" := mt Text.normalizeName_eq_empty_iff.mp hblank
      simp [hblank, hne, Text.contains_iff]

theorem Filters.admits_eq (f : Filters) (x : Sighting) : f.admits x = x.entry.isWanted f := by
  have hprovenance : (f.provenance.all fun p => p == x.entry.provenance) =
      f.provenance.all fun p => x.entry.provenance = p := by
    congr 1
    ext p
    simp [beq_eq_decide, eq_comm]
  rw [admits, admitsEntry, needle?_all, hprovenance]
  rfl

theorem Filters.matches_eq (f : Filters) (s : RecordSet) : f.selector.matches s = s.isWanted f := by
  simp [Selector.matches, selector, RecordSet.isWanted, beq_eq_decide]

theorem RecordSet.groups_keeping (wanted : RecordSet.Entry → Bool) (s : RecordSet) :
    (s.keeping wanted).groups =
      s.groups.map fun g => { g with entries := g.entries.filter wanted } := by
  obtain ⟨metadata, spec, status⟩ := s
  cases status <;> rfl

theorem RecordSet.sightings_keeping (wanted : RecordSet.Entry → Bool) (s : RecordSet) :
    (s.keeping wanted).sightings = s.sightings.filter fun x => wanted x.entry := by
  have hgroup (g : RecordSet.Group) :
      (((g.entries.filter wanted).map fun e => Sighting.mk s.space s.portal g.shown e).filter
          fun x => !x.name.isEmpty) =
        ((g.entries.map fun e => Sighting.mk s.space s.portal g.shown e).filter
          fun x => !x.name.isEmpty).filter fun x => wanted x.entry := by
    simp only [List.filter_map, List.filter_filter, Function.comp_def, Bool.and_comm]
  rw [sightings, groups_keeping, List.flatMap_map, sightings, List.filter_flatMap,
    List.filter_flatMap, List.filter_flatMap]
  exact congrArg (List.flatMap · s.groups) (funext hgroup)

theorem sightings_eq_flatMap (sets : List RecordSet) :
    sightings Filters.unfiltered sets = sets.flatMap RecordSet.sightings := by
  have hsets : sets.filter Filters.unfiltered.selector.matches = sets :=
    List.filter_eq_self.mpr fun _ _ => rfl
  have hentries (s : RecordSet) : s.sightings.filter Filters.unfiltered.admits = s.sightings :=
    List.filter_eq_self.mpr fun _ _ => rfl
  simp only [sightings, hsets, hentries]

theorem sightings_restrict (f : Filters) (sets : List RecordSet) :
    sightings Filters.unfiltered (restrict f sets) = sightings f sets := by
  have hset : f.selector.matches = RecordSet.isWanted f := by
    ext s
    exact f.matches_eq s
  have hentry : f.admits = fun x => x.entry.isWanted f := by
    ext x
    exact f.admits_eq x
  rw [sightings_eq_flatMap, restrict, List.flatMap_map, sightings, hset, hentry]
  simp only [RecordSet.sightings_keeping]

/-- A listing is that of the sets and entries that are wanted. Some of the filters may be applied
before, and then the rest or all of them once more: whichever way they are shared out between two
times, and in whatever order, the same is left and the same is listed. -/
theorem listing_restrict (f : Filters) (sets : List RecordSet) :
    listing f sets = listing Filters.unfiltered (restrict f sets) ∧
      (∀ g, g.Weakens f → listing f (restrict g sets) = listing f sets) ∧
      ∀ g h, f.Splits g h →
        restrict h (restrict g sets) = restrict f sets ∧
          listing h (restrict g sets) = listing f sets := by
  have hlisting (f : Filters) (sets : List RecordSet) :
      listing Filters.unfiltered (restrict f sets) = listing f sets := by
    rw [listing, sightings_restrict, listing]
  have hsplit (g h : Filters) (hs : f.Splits g h) :
      listing h (restrict g sets) = listing f sets := by
    rw [← hlisting h, restrict_restrict hs, hlisting]
  exact ⟨(hlisting f sets).symm, fun g hg => hsplit g f hg.splits,
    fun g h hs => ⟨restrict_restrict hs sets, hsplit g h hs⟩⟩

/-- Without the entry that was found, the one of a person leads the record and its groups. -/
theorem listing_restrict_promoted :
    let found : RecordSet.Entry := { name := "web.example", type := "A", description := "found" }
    let owned : RecordSet.Entry :=
      { name := "Web.example", type := "a", provenance := .manual, description := "owned" }
    let sets := [RecordSet.ofGroups "one" [⟨"Apps", [found]⟩, ⟨"Tools", [owned]⟩],
      RecordSet.ofGroups "two" [⟨"Apps", [owned]⟩]]
    let f : Filters :=
      { portal := some "one", provenance := some .manual, search := some " WEB" }
    let g : Filters := { provenance := some .manual }
    let h : Filters := { portal := some "one", search := some " WEB" }
    f.Splits g h ∧ listing h (restrict g sets) = listing f sets ∧
      g.Weakens f ∧ listing f (restrict g sets) = listing f sets ∧
      listing f sets =
        [⟨"web.example", .manual, "owned", "A", [], ["Tools"], none, .notAvailable, .epoch⟩] := by
  intro found owned sets f g h
  obtain ⟨-, hweaker, hsplit⟩ := listing_restrict f sets
  have hw : g.Weakens f := ⟨.inl rfl, .inl rfl, .inr rfl, .inl rfl⟩
  have hs : f.Splits g h :=
    ⟨hw, ⟨.inl rfl, .inr rfl, .inl rfl, .inr rfl⟩, .inr rfl, .inr rfl, .inl rfl, .inr rfl⟩
  exact ⟨hs, (hsplit g h hs).2, hw, hweaker g hw, listing_eq_singleton (by decide)⟩

end Namebook
