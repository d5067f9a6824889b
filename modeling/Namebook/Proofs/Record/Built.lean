import Namebook.Proofs.Catalogue.Stored
import Namebook.Proofs.Listing.Occurrence
import Namebook.Proofs.Text.Case

/-!
# What holds of every record

A record is made for a name as somebody wrote it, filled in by the builders, listed from record sets
or merged in a catalogue. Whatever is done to it, name and type stay in normal form, no group comes
twice, and the origin is one that can be read again. A catalogue finds the same under the name of
the record as under the name that was written.
-/

namespace Namebook.Record

/-- The record can be made for the name, as it was written. Where two records of one name are
merged, it is made for the names of both. An origin is the reference to nothing, or was read from a
text. -/
inductive Built : String → Record → Prop where
  | named (raw : String) (p : Provenance) (seen : Time.Instant) : Built raw (named raw p seen)
  | withType {raw : String} {r : Record} (type : String) : Built raw r → Built raw (r.withType type)
  | withTargets {raw : String} {r : Record} (targets : List String) :
      Built raw r → Built raw (r.withTargets targets)
  | withDescription {raw : String} {r : Record} (description : String) :
      Built raw r → Built raw (r.withDescription description)
  | withStatus {raw : String} {r : Record} (status : SyncStatus) :
      Built raw r → Built raw (r.withStatus status)
  | withSeen {raw : String} {r : Record} (seen : Time.Instant) :
      Built raw r → Built raw (r.withSeen seen)
  | withOrigin {raw : String} {r : Record} {origin : Option Reference}
      (horigin : ∀ o ∈ origin, o = Reference.zero ∨ ∃ text, Reference.parse text = .ok o) :
      Built raw r → Built raw (r.withOrigin origin)
  | withGroups {raw : String} {r : Record} (groups : List String) :
      Built raw r → Built raw (r.withGroups groups)
  | inGroup {raw : String} {r : Record} (group : String) : Built raw r → Built raw (r.inGroup group)
  | merge {raw raw' name : String} {existing incoming : Record} :
      Built raw existing → Built raw' incoming → existing.name = incoming.name →
        name = raw ∨ name = raw' → Built name (Catalogue.merge existing incoming)

/-- What the builders keep. -/
structure WellFormed (r : Record) : Prop where
  name_normal : Text.normalizeName r.name = r.name
  name_lower : Text.lowercase r.name = r.name
  name_trimmed : Text.trim r.name = r.name
  type_normal : Text.normalizeType r.type = r.type
  groups_nodup : r.groups.Nodup
  origin_read : ∀ o ∈ r.origin, o.isZero = false ∧ Reference.parse o.render = .ok o

variable {raw : String} {r : Record}

/-! ## One builder -/

theorem wellFormed_named (raw : String) (p : Provenance) (seen : Time.Instant) :
    (named raw p seen).WellFormed where
  name_normal := Text.normalizeName_normalizeName raw
  name_lower := Text.lowercase_normalizeName raw
  name_trimmed := Text.trim_normalizeName raw
  type_normal := isNormal_named raw p seen
  groups_nodup := List.nodup_nil
  origin_read := nofun

theorem WellFormed.withType (h : r.WellFormed) (type : String) : (r.withType type).WellFormed :=
  { h with type_normal := Text.normalizeType_normalizeType type }

theorem WellFormed.withTargets (h : r.WellFormed) (targets : List String) :
    (r.withTargets targets).WellFormed := { h with }

theorem WellFormed.withSeen (h : r.WellFormed) (seen : Time.Instant) :
    (r.withSeen seen).WellFormed := { h with }

theorem WellFormed.withOrigin (h : r.WellFormed) {origin : Option Reference}
    (horigin : ∀ o ∈ origin, o = Reference.zero ∨ ∃ text, Reference.parse text = .ok o) :
    (r.withOrigin origin).WellFormed := by
  refine { h with origin_read := fun o ho => ?_ }
  obtain ⟨hsome, hkept⟩ := Option.filter_eq_some_iff.mp ho
  have hzero : o.isZero = false := by simpa using hkept
  rcases horigin o hsome with rfl | ⟨text, htext⟩
  · exact nomatch hzero
  · exact ⟨hzero, Reference.parse_render htext⟩

theorem WellFormed.inGroup (h : r.WellFormed) (group : String) : (r.inGroup group).WellFormed := by
  rw [inGroup_eq]
  refine { h with groups_nodup := ?_ }
  dsimp only
  split
  · exact h.groups_nodup
  · rename_i hgroup
    rw [← List.concat_eq_append]
    exact h.groups_nodup.concat hgroup

theorem WellFormed.withGroups (h : r.WellFormed) (groups : List String) :
    (r.withGroups groups).WellFormed := by
  have hnone : ({ r with groups := [] } : Record).WellFormed :=
    { h with groups_nodup := List.nodup_nil }
  rw [Record.withGroups]
  exact List.foldlRecOn groups Record.inGroup hnone fun _ hr group _ => hr.inGroup group

theorem WellFormed.merge {existing incoming : Record} (hexisting : existing.WellFormed)
    (hincoming : incoming.WellFormed) : (Catalogue.merge existing incoming).WellFormed := by
  rw [Catalogue.merge]
  split
  · exact (hincoming.withTargets existing.targets).withType existing.type
  · exact hexisting.withSeen _

/-- A group is added at the end or was there. -/
theorem addGroup_eq (r : Record) (group : String) :
    r.addGroup group =
      if group ∈ r.groups then (r, false)
      else ({ r with groups := r.groups ++ [group] }, true) := by
  simp [addGroup]

/-! ## Any number of builders -/

theorem wellFormed_of_built (h : Built raw r) : r.WellFormed := by
  induction h with
  | named raw p seen => exact wellFormed_named raw p seen
  | withType type _ ih => exact ih.withType type
  | withTargets targets _ ih => exact ih.withTargets targets
  | withDescription _ _ ih => exact { ih with }
  | withStatus _ _ ih => exact { ih with }
  | withSeen seen _ ih => exact ih.withSeen seen
  | withOrigin horigin _ ih => exact ih.withOrigin horigin
  | withGroups groups _ ih => exact ih.withGroups groups
  | inGroup group _ ih => exact ih.inGroup group
  | merge _ _ _ _ hexisting hincoming => exact hexisting.merge hincoming

theorem name_inGroup (r : Record) (group : String) : (r.inGroup group).name = r.name := by
  rw [inGroup_eq]

theorem name_withGroups (groups : List String) (r : Record) :
    (r.withGroups groups).name = r.name := by
  have hgroups (x : Record) : (groups.foldl inGroup x).name = x.name := by
    induction groups generalizing x with
    | nil => rfl
    | cons group groups ih => rw [List.foldl_cons, ih, name_inGroup]
  exact hgroups _

theorem name_of_built (h : Built raw r) : r.name = Text.normalizeName raw := by
  induction h with
  | named => rfl
  | withType _ _ ih => exact ih
  | withTargets _ _ ih => exact ih
  | withDescription _ _ ih => exact ih
  | withStatus _ _ ih => exact ih
  | withSeen _ _ ih => exact ih
  | withOrigin _ _ ih => exact ih
  | withGroups groups _ ih => exact (name_withGroups groups _).trans ih
  | inGroup group _ ih => exact (name_inGroup _ group).trans ih
  | merge _ _ hname hraw hexisting hincoming =>
    rw [Catalogue.name_merge hname]
    rcases hraw with rfl | rfl
    · exact hexisting
    · exact hname.trans hincoming

theorem get?_of_built (h : Built raw r) (c : Catalogue) : c.get? r.name = c.get? raw := by
  rw [Catalogue.get?, Catalogue.get?, name_of_built h, Text.normalizeName_normalizeName]

/-! ## Listed records -/

theorem built_of_sighting (x : Sighting) : Built x.entry.name x.record := by
  have horigin : ∀ o ∈ x.origin, o = Reference.zero ∨ ∃ text, Reference.parse text = .ok o := by
    intro o ho
    obtain ⟨text, -, htext⟩ := Option.bind_eq_some_iff.mp ho
    exact .inr ⟨text, Reference.parse_eq_ok_iff.mpr htext⟩
  have hnamed := Built.named x.entry.name x.entry.provenance x.seen
  have hdata := ((hnamed.withType x.entry.type).withTargets x.entry.targets).withDescription
    x.entry.description
  exact ((hdata.withGroups [x.group]).withStatus x.entry.status).withOrigin horigin

theorem mem_absorb {x : Sighting} {rs : List Record} (h : r ∈ absorb x rs) :
    r = x.record ∨ r ∈ rs ∨ ∃ e ∈ rs, r = e.inGroup x.group := by
  induction rs with
  | nil => exact .inl (List.mem_singleton.mp h)
  | cons e rs ih =>
    rw [absorb] at h
    by_cases hkey : e.key = x.key
    · rw [if_pos hkey] at h
      rcases List.mem_cons.mp h with rfl | hr
      · exact .inr (.inr ⟨e, List.mem_cons_self, rfl⟩)
      · exact .inr (.inl (List.mem_cons_of_mem e hr))
    · rw [if_neg hkey] at h
      rcases List.mem_cons.mp h with rfl | hr
      · exact .inr (.inl List.mem_cons_self)
      · have hmem (y : Record) (hy : y ∈ rs) : y ∈ e :: rs := List.mem_cons_of_mem e hy
        rcases ih hr with hx | hr | ⟨y, hy, hgroup⟩
        · exact .inl hx
        · exact .inr (.inl (hmem r hr))
        · exact .inr (.inr ⟨y, hmem y hy, hgroup⟩)

theorem built_of_mem_gather {xs : List Sighting} (h : r ∈ gather xs) :
    ∃ x ∈ xs, Built x.entry.name r := by
  induction xs using List.reverseRecOn generalizing r with
  | nil => exact nomatch h
  | append_singleton xs x ih =>
    rw [gather_concat] at h
    rcases mem_absorb h with rfl | hr | ⟨e, he, rfl⟩
    · exact ⟨x, by simp, built_of_sighting x⟩
    · obtain ⟨y, hy, hbuilt⟩ := ih hr
      exact ⟨y, List.mem_append_left _ hy, hbuilt⟩
    · obtain ⟨y, hy, hbuilt⟩ := ih he
      exact ⟨y, List.mem_append_left _ hy, hbuilt.inGroup x.group⟩

theorem built_of_mem_listing {f : Filters} {sets : List RecordSet} (h : r ∈ listing f sets) :
    ∃ x ∈ sightings f sets, Built x.entry.name r :=
  built_of_mem_gather ((perm_listing f sets).mem_iff.mp h)

/-! ## Stored records -/

theorem built_of_mergeAll {es : List Record} {name : String} (hname : ∀ e ∈ es, e.name = name)
    (hes : ∀ e ∈ es, ∃ raw, Built raw e) (h : Catalogue.mergeAll es = some r) :
    r.name = name ∧ (∃ raw, Built raw r) ∧ ∀ e ∈ es, ∀ raw, Built raw e → Built raw r := by
  induction es using List.reverseRecOn generalizing r with
  | nil => exact nomatch h
  | append_singleton es e ih =>
    rw [List.forall_mem_append, List.forall_mem_singleton] at hname hes ⊢
    obtain ⟨hnames, hlast⟩ := hname
    obtain ⟨hbuilt, raw, he⟩ := hes
    rw [Catalogue.mergeAll_concat, Option.some.injEq] at h
    cases hx : Catalogue.mergeAll es with
    | none =>
      obtain rfl : es = [] := by
        cases es with
        | nil => rfl
        | cons => exact nomatch hx
      rw [hx] at h
      obtain rfl : e = r := h
      exact ⟨hlast, ⟨raw, he⟩, nofun, fun _ => id⟩
    | some x =>
      rw [hx] at h
      obtain rfl : Catalogue.merge x e = r := h
      obtain ⟨hxname, ⟨raw', hx'⟩, hall⟩ := ih hnames hbuilt hx
      have hsame : x.name = e.name := hxname.trans hlast.symm
      refine ⟨(Catalogue.name_merge hsame).trans hxname, ⟨raw, .merge hx' he hsame (.inr rfl)⟩,
        fun y hy name hbuilt => ?_, fun name hbuilt => ?_⟩
      · exact .merge (hall y hy name hbuilt) he hsame (.inl rfl)
      · exact .merge hx' hbuilt hsame (.inr rfl)

theorem mergeAll_of_mem_ofList {rs : List Record} (h : r ∈ (Catalogue.ofList rs).records) :
    Catalogue.mergeAll (rs.filter fun e => e.name = r.name) = some r := by
  have hnodup : ((Catalogue.ofList rs).records.map Record.name).Nodup := by
    rw [Catalogue.names_ofList]
    exact nodup_eraseDups _
  rw [← Catalogue.find?_ofList, Catalogue.find?_of_mem hnodup h]

/-- A stored record is made for all names that records of its name were made for. -/
theorem built_of_mem_ofList {rs : List Record} (hrs : ∀ e ∈ rs, ∃ raw, Built raw e)
    (h : r ∈ (Catalogue.ofList rs).records) :
    (∃ e ∈ rs, e.name = r.name) ∧ ∀ e ∈ rs, e.name = r.name → ∀ raw, Built raw e → Built raw r := by
  have hmerged := mergeAll_of_mem_ofList h
  have hbuilt : ∀ e ∈ rs.filter (fun e => e.name = r.name), ∃ raw, Built raw e :=
    fun e he => hrs e (List.mem_filter.mp he).1
  constructor
  · have hmem : r.name ∈ (Catalogue.ofList rs).records.map Record.name := List.mem_map_of_mem h
    rw [Catalogue.names_ofList, List.mem_eraseDups] at hmem
    exact List.mem_map.mp hmem
  · intro e he hname
    have hnames : ∀ e ∈ rs.filter (fun e => e.name = r.name), e.name = r.name := by simp
    exact (built_of_mergeAll hnames hbuilt hmerged).2.2 e (by simp [he, hname])

/-- Whatever record is made, its name and its type are in normal form, no group comes twice, and the
origin is read again from its text; and a catalogue finds the same under its name as under the name
it was made for. Listed records are made for the name of an entry, stored ones for the names of the
records that were added. A group is reported as added where the list of groups changes, and then it
comes last. Every normal form is its own. -/
theorem invariant_of_built :
    (∀ raw r, Built raw r →
      r.WellFormed ∧ r.name = Text.normalizeName raw ∧
        ∀ c : Catalogue, c.get? r.name = c.get? raw) ∧
    (∀ f sets, ∀ r ∈ listing f sets, ∃ x ∈ sightings f sets, Built x.entry.name r) ∧
    (∀ rs : List Record, (∀ e ∈ rs, ∃ raw, Built raw e) → ∀ r ∈ (Catalogue.ofList rs).records,
      (∃ e ∈ rs, e.name = r.name) ∧ ∀ e ∈ rs, e.name = r.name → ∀ raw, Built raw e → Built raw r) ∧
    (∀ (r : Record) (group : String),
      ((r.addGroup group).2 = true ↔ (r.addGroup group).1.groups ≠ r.groups) ∧
      (r.addGroup group).1 =
        if (r.addGroup group).2 then { r with groups := r.groups ++ [group] } else r) ∧
    (∀ s, Text.normalizeName (Text.normalizeName s) = Text.normalizeName s) ∧
    ∀ s, Text.normalizeType (Text.normalizeType s) = Text.normalizeType s := by
  refine ⟨fun raw r h => ⟨wellFormed_of_built h, name_of_built h, get?_of_built h⟩,
    fun f sets r => built_of_mem_listing, fun rs hrs r => built_of_mem_ofList hrs,
    fun r group => ?added, Text.normalizeName_normalizeName, Text.normalizeType_normalizeType⟩
  case added =>
    rw [addGroup_eq]
    by_cases h : group ∈ r.groups <;> simp [h]

/-- A letter of two characters and a sigma at the end of its word, found in DNS and then claimed. -/
theorem invariant_of_built_claimed :
    let raw := " İΣ\u3000"
    let found := (named "İΣ" .discovered .epoch).withType " cname"
    let owned := ((named raw .manual .epoch).withOrigin
      (Reference.parse? "Ingress / shop/web")).withGroups ["Apps", "Web", "Apps"]
    let stored := (Catalogue.ofList [found, owned]).records
    Built raw owned ∧ (∀ r ∈ stored, Built raw r ∧ r.WellFormed ∧ r.name = "i̇ς") ∧
      stored.map Record.type = ["CNAME"] ∧ stored.map Record.groups = [["Apps", "Web"]] ∧
      stored.map Record.origin = [some ⟨"Ingress", "shop", "web"⟩] := by
  intro raw found owned stored
  have horigin : ∀ o ∈ Reference.parse? "Ingress / shop/web",
      o = Reference.zero ∨ ∃ text, Reference.parse text = .ok o :=
    fun o ho => .inr ⟨_, Reference.parse_eq_ok_iff.mpr ho⟩
  have hfound : Built "İΣ" found := .withType _ (.named _ _ _)
  have howned : Built raw owned := .withGroups _ (.withOrigin horigin (.named _ _ _))
  obtain ⟨hbuilt, -, hstored, -⟩ := invariant_of_built
  have hall : ∀ e ∈ [found, owned], ∃ raw, Built raw e := by
    simpa using ⟨⟨_, hfound⟩, ⟨_, howned⟩⟩
  have hraw : Text.normalizeName raw = "i̇ς" := by decide +kernel
  have hname : Text.normalizeName "İΣ" = "i̇ς" := by decide +kernel
  refine ⟨howned, fun r hr => ?_, by decide +kernel, by decide +kernel, by decide +kernel⟩
  obtain ⟨⟨e, he, hsame⟩, hnames⟩ := hstored [found, owned] hall r hr
  have hr : r.name = "i̇ς" := by
    rw [← hsame]
    rcases List.mem_pair.mp he with rfl | rfl
    · exact hname
    · exact hraw
  have hb : Built raw r := hnames owned (by simp) (hraw.trans hr.symm) raw howned
  exact ⟨hb, (hbuilt raw r hb).1, hr⟩

end Namebook.Record
