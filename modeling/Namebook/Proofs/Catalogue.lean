import Mathlib.Data.Finset.Card
import Mathlib.Data.List.Nodup
import Namebook.Catalogue
import Namebook.Proofs.Listing

/-!
# What a catalogue counts

A catalogue has one record for each name, in the order in which the names first arrive. It is manual
as soon as one record of the name is, whichever came first.
-/

namespace Namebook

/-- The names that are attributed to anybody. -/
def namesOf (attributions : List (String × Provenance)) : Finset String :=
  (attributions.map Prod.fst).toFinset

/-- The names that are attributed to a person, whoever else they are attributed to. -/
def manualNamesOf (attributions : List (String × Provenance)) : Finset String :=
  namesOf (attributions.filter fun a => a.2 = .manual)

/-- How many names there are of each provenance. A name that is attributed to both counts as manual,
and a provenance without names is absent. -/
def countNames (attributions : List (String × Provenance)) : List (Provenance × Nat) :=
  [(.manual, (manualNamesOf attributions).card),
    (.discovered, (namesOf attributions \ manualNamesOf attributions).card)].filter fun p => p.2 ≠ 0

section
variable {as bs : List (String × Provenance)} {name : String}

theorem mem_namesOf : name ∈ namesOf as ↔ name ∈ as.map Prod.fst := List.mem_toFinset

theorem mem_manualNamesOf : name ∈ manualNamesOf as ↔ (name, .manual) ∈ as := by
  rw [manualNamesOf, mem_namesOf]
  constructor
  · intro h
    obtain ⟨⟨n, p⟩, ha, rfl⟩ := List.mem_map.mp h
    obtain ⟨hmem, hp⟩ := List.mem_filter.mp ha
    obtain rfl : p = .manual := of_decide_eq_true hp
    exact hmem
  · exact fun h => List.mem_map.mpr ⟨_, List.mem_filter.mpr ⟨h, rfl⟩, rfl⟩

theorem countNames_congr (hnames : ∀ name, name ∈ as.map Prod.fst ↔ name ∈ bs.map Prod.fst)
    (hmanual : ∀ name, (name, .manual) ∈ as ↔ (name, .manual) ∈ bs) :
    countNames as = countNames bs := by
  have hn : namesOf as = namesOf bs := by
    ext name
    rw [mem_namesOf, mem_namesOf, hnames]
  have hm : manualNamesOf as = manualNamesOf bs := by
    ext name
    rw [mem_manualNamesOf, mem_manualNamesOf, hmanual]
  rw [countNames, countNames, hn, hm]

theorem countNames_congr_mem (h : ∀ a, a ∈ as ↔ a ∈ bs) : countNames as = countNames bs :=
  countNames_congr (fun name => by simp only [List.mem_map, h]) fun name => h (name, .manual)

/-- The counts, with zero for a provenance that is absent. -/
theorem lookup_countNames (as : List (String × Provenance)) :
    ((countNames as).lookup .manual).getD 0 = (manualNamesOf as).card ∧
      ((countNames as).lookup .discovered).getD 0 = (namesOf as \ manualNamesOf as).card := by
  unfold countNames
  generalize (manualNamesOf as).card = m
  generalize (namesOf as \ manualNamesOf as).card = n
  cases m <;> cases n <;> exact ⟨rfl, rfl⟩

/-- Some of the attributions give all counts if and only if they miss no name and nothing manual. -/
theorem countNames_eq_iff (h : ∀ a ∈ bs, a ∈ as) :
    countNames bs = countNames as ↔
      (∀ name ∈ as.map Prod.fst, name ∈ bs.map Prod.fst) ∧
        ∀ name, (name, .manual) ∈ as → (name, .manual) ∈ bs := by
  have hnames : ∀ name ∈ bs.map Prod.fst, name ∈ as.map Prod.fst := by
    intro name hn
    obtain ⟨a, ha, rfl⟩ := List.mem_map.mp hn
    exact List.mem_map_of_mem (h a ha)
  constructor
  · intro he
    obtain ⟨hm, hd⟩ := lookup_countNames bs
    rw [he, (lookup_countNames as).1] at hm
    rw [he, (lookup_countNames as).2] at hd
    have hmanual : manualNamesOf bs = manualNamesOf as :=
      Finset.eq_of_subset_of_card_le
        (fun name hn => mem_manualNamesOf.mpr (h _ (mem_manualNamesOf.mp hn))) hm.le
    rw [hmanual] at hd
    have hrest : namesOf bs \ manualNamesOf as = namesOf as \ manualNamesOf as :=
      Finset.eq_of_subset_of_card_le
        (Finset.sdiff_subset_sdiff
          (fun name hn => mem_namesOf.mpr (hnames name (mem_namesOf.mp hn)))
          (Finset.Subset.refl _)) hd.le
    have hmissed : ∀ name, (name, .manual) ∈ as → (name, .manual) ∈ bs := fun name hn =>
      mem_manualNamesOf.mp (hmanual ▸ mem_manualNamesOf.mpr hn)
    refine ⟨fun name hn => ?_, hmissed⟩
    by_cases hname : (name, .manual) ∈ as
    · exact List.mem_map_of_mem (hmissed name hname)
    · have hmem : name ∈ namesOf as \ manualNamesOf as :=
        Finset.mem_sdiff.mpr ⟨mem_namesOf.mpr hn, fun hm => hname (mem_manualNamesOf.mp hm)⟩
      rw [← hrest] at hmem
      exact mem_namesOf.mp (Finset.mem_sdiff.mp hmem).1
  · rintro ⟨hall, hmanual⟩
    exact countNames_congr (fun name => ⟨hnames name, hall name⟩)
      fun name => ⟨h _, hmanual name⟩

end

/-- To whom a record attributes its name. -/
def Record.attribution (r : Record) : String × Provenance := (r.name, r.provenance)

namespace Catalogue

variable {r : Record} {rs : List Record}

/-! ## One record more -/

theorem name_merge {existing incoming : Record} (h : existing.name = incoming.name) :
    (merge existing incoming).name = existing.name := by
  unfold merge
  split
  · exact h.symm
  · rfl

theorem provenance_merge (existing incoming : Record) :
    (merge existing incoming).provenance = .manual ↔
      existing.provenance = .manual ∨ incoming.provenance = .manual := by
  unfold merge
  cases he : existing.provenance <;> cases hi : incoming.provenance <;>
    simp [Record.withSeen, Record.withType, Record.withTargets, he, hi]

theorem names_addTo (r : Record) (rs : List Record) :
    (addTo r rs).map Record.name =
      if r.name ∈ rs.map Record.name then rs.map Record.name
      else rs.map Record.name ++ [r.name] := by
  induction rs with
  | nil => rfl
  | cons x rs ih =>
    unfold addTo
    by_cases hx : x.name = r.name
    · simp [hx, name_merge hx]
    · rw [if_neg hx, List.map_cons, ih]
      exact cons_append_unless_mem hx _

theorem manual_addTo {name : String} :
    (name, .manual) ∈ (addTo r rs).map Record.attribution ↔
      (name, .manual) ∈ rs.map Record.attribution ∨ r.attribution = (name, .manual) := by
  induction rs with
  | nil => simp [addTo, eq_comm]
  | cons x rs ih =>
    unfold addTo
    by_cases hx : x.name = r.name
    · have hmerge : (merge x r).attribution = (name, .manual) ↔
          x.attribution = (name, .manual) ∨ r.attribution = (name, .manual) := by
        simp only [Record.attribution, Prod.mk.injEq, name_merge hx, provenance_merge, ← hx]
        exact and_or_left
      rw [if_pos hx, List.map_cons, List.map_cons, List.mem_cons, List.mem_cons,
        eq_comm, hmerge, eq_comm (a := x.attribution)]
      exact or_right_comm
    · rw [if_neg hx, List.map_cons, List.map_cons, List.mem_cons, List.mem_cons, ih, or_assoc]

/-! ## All records -/

theorem records_ofList_concat (rs : List Record) (r : Record) :
    (ofList (rs ++ [r])).records = addTo r (ofList rs).records := by
  rw [ofList, List.foldl_append]
  rfl

theorem names_ofList (rs : List Record) :
    (ofList rs).records.map Record.name = (rs.map Record.name).eraseDups := by
  induction rs using List.reverseRecOn with
  | nil => rfl
  | append_singleton rs r ih =>
    rw [records_ofList_concat, names_addTo, ih, List.map_append, List.map_singleton,
      eraseDups_concat]
    simp only [List.mem_eraseDups]

/-- No name is stored twice. -/
theorem nodup_names_ofList (rs : List Record) : ((ofList rs).records.map Record.name).Nodup := by
  rw [names_ofList]
  exact nodup_eraseDups _

theorem manual_ofList {name : String} :
    (name, .manual) ∈ (ofList rs).records.map Record.attribution ↔
      (name, .manual) ∈ rs.map Record.attribution := by
  induction rs using List.reverseRecOn with
  | nil => rfl
  | append_singleton rs r ih =>
    rw [records_ofList_concat, manual_addTo, ih, List.map_append, List.mem_append,
      List.map_singleton, List.mem_singleton, eq_comm (a := r.attribution)]

/-! ## Counts -/

theorem map_attribution_filter (rs : List Record) (p : Provenance) :
    ((rs.map Record.attribution).filter fun a => a.2 = p).map Prod.fst =
      (rs.filter fun r => r.provenance = p).map Record.name := by
  rw [List.filter_map, List.map_map]
  rfl

/-- Records of different names are as many as their names. -/
theorem length_ofProvenance {c : Catalogue} (h : (c.records.map Record.name).Nodup)
    (p : Provenance) :
    (c.ofProvenance p).length =
      (namesOf ((c.records.map Record.attribution).filter fun a => a.2 = p)).card := by
  have hnodup : ((c.records.filter fun r => r.provenance = p).map Record.name).Nodup :=
    h.sublist (List.filter_sublist.map Record.name)
  rw [namesOf, map_attribution_filter, List.toFinset_card_of_nodup hnodup, List.length_map]
  exact List.length_mergeSort _

/-- Where names come once, those that are discovered are those that are not manual. -/
theorem namesOf_discovered (h : (rs.map Record.name).Nodup) :
    namesOf ((rs.map Record.attribution).filter fun a => a.2 = .discovered) =
      namesOf (rs.map Record.attribution) \ manualNamesOf (rs.map Record.attribution) := by
  ext name
  rw [Finset.mem_sdiff, mem_manualNamesOf, mem_namesOf, mem_namesOf, map_attribution_filter,
    List.map_map]
  constructor
  · intro hname
    obtain ⟨r, hr, rfl⟩ := List.mem_map.mp hname
    obtain ⟨hmem, hp⟩ := List.mem_filter.mp hr
    refine ⟨List.mem_map_of_mem (f := Prod.fst ∘ Record.attribution) hmem, fun hmanual => ?_⟩
    obtain ⟨x, hx, he⟩ := List.mem_map.mp hmanual
    obtain ⟨hn, hm⟩ := Prod.mk.inj he
    obtain rfl : x = r := List.inj_on_of_nodup_map h hx hmem hn
    exact nomatch hm.symm.trans (of_decide_eq_true hp)
  · rintro ⟨hname, hnot⟩
    obtain ⟨r, hr, rfl⟩ := List.mem_map.mp hname
    refine List.mem_map_of_mem (List.mem_filter.mpr ⟨hr, decide_eq_true ?_⟩)
    cases hp : r.provenance with
    | manual =>
      have hattribution : r.attribution = (r.name, .manual) := Prod.ext rfl hp
      exact absurd (hattribution ▸ List.mem_map_of_mem hr) hnot
    | discovered => rfl

theorem length_byProvenance {c : Catalogue} (h : (c.records.map Record.name).Nodup) :
    c.byProvenance.map (fun p => (p.1, p.2.length)) =
      countNames (c.records.map Record.attribution) := by
  rw [countNames, manualNamesOf, ← length_ofProvenance h, ← manualNamesOf, ← namesOf_discovered h,
    ← length_ofProvenance h]
  let partitions := [Provenance.manual, .discovered].map fun p => (p, c.ofProvenance p)
  let count : Provenance × List Record → Provenance × Nat := fun p => (p.1, p.2.length)
  change (partitions.filter fun p => !p.2.isEmpty).map count =
    (partitions.map count).filter fun p => p.2 ≠ 0
  refine Eq.trans (congrArg (List.map count) (List.filter_congr fun p _ => ?_)) List.filter_map.symm
  cases p with
  | mk p rs => cases rs <;> rfl

/-- The catalogue of some records counts their names. -/
theorem length_byProvenance_ofList (rs : List Record) :
    (ofList rs).byProvenance.map (fun p => (p.1, p.2.length)) =
      countNames (rs.map Record.attribution) := by
  rw [length_byProvenance (nodup_names_ofList rs)]
  refine countNames_congr (fun name => ?_) fun name => manual_ofList
  rw [List.map_map, List.map_map]
  change name ∈ (ofList rs).records.map Record.name ↔ name ∈ rs.map Record.name
  rw [names_ofList, List.mem_eraseDups]

end Catalogue

end Namebook
