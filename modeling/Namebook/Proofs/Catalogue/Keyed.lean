import Std.Data.HashMap.Lemmas
import Namebook.Proofs.Catalogue.ReadOut

/-!
# A catalogue by its names

The records of a catalogue can be kept under their names in a hash map, so that none has to be
looked for. Such a map has the same record under each name. The order in which it gives its records
is its own, but no reading of a catalogue depends on that.
-/

namespace Namebook.Catalogue

/-- The records under their names. -/
abbrev Keyed := Std.HashMap String Record

namespace Keyed

def add (m : Keyed) (r : Record) : Keyed :=
  match m[r.name]? with
  | none => m.insert r.name r
  | some existing => m.insert r.name (merge existing r)

def ofList (rs : List Record) : Keyed := rs.foldl add ∅

/-- In whatever order the map gives them. -/
def records (m : Keyed) : List Record := m.toList.map Prod.snd

theorem getElem?_add (m : Keyed) (r : Record) (name : String) :
    (m.add r)[name]? =
      if r.name = name then some ((m[name]?.map fun e => merge e r).getD r) else m[name]? := by
  unfold add
  by_cases h : r.name = name
  · subst h
    rw [if_pos rfl]
    cases m[r.name]? with
    | none => exact Std.HashMap.getElem?_insert_self
    | some existing => exact Std.HashMap.getElem?_insert_self
  · rw [if_neg h]
    have hother (e : Record) : (m.insert r.name e)[name]? = m[name]? := by
      rw [Std.HashMap.getElem?_insert, if_neg (mt beq_iff_eq.mp h)]
    cases m[r.name]? with
    | none => exact hother r
    | some existing => exact hother (merge existing r)

/-- Under each name the record is the one that a catalogue stores. -/
theorem getElem?_ofList (rs : List Record) (name : String) :
    (ofList rs)[name]? = (Catalogue.ofList rs).find? name := by
  induction rs using List.reverseRecOn with
  | nil => exact Std.HashMap.getElem?_empty
  | append_singleton rs r ih =>
    rw [ofList, Catalogue.ofList, List.foldl_append, List.foldl_append]
    exact (getElem?_add _ r name).trans (ih ▸ (find?_add _ r name).symm)

/-- The map has the records of the catalogue, each of them once. -/
theorem perm_records (rs : List Record) :
    (records (ofList rs)).Perm (Catalogue.ofList rs).records := by
  let c := Catalogue.ofList rs
  let pairs : List (String × Record) := c.records.map fun r => (r.name, r)
  have hnames : (c.records.map Record.name).Nodup := nodup_names_ofList rs
  have hkeys : pairs.map Prod.fst = c.records.map Record.name := List.map_map
  have hrecords : pairs.map Prod.snd = c.records := List.map_map.trans (List.map_id _)
  have hpairs : pairs.Nodup := List.Nodup.of_map Prod.fst (hkeys ▸ hnames)
  have hentries : (ofList rs).toList.Nodup :=
    Std.HashMap.distinct_keys_toList.imp fun h he => by simp [he] at h
  have hmem (p : String × Record) : p ∈ (ofList rs).toList ↔ p ∈ pairs := by
    obtain ⟨name, r⟩ := p
    rw [Std.HashMap.mem_toList_iff_getElem?_eq_some, getElem?_ofList]
    constructor
    · intro h
      have hname := List.find?_some h
      obtain rfl : r.name = name := beq_iff_eq.mp hname
      exact List.mem_map.mpr ⟨r, List.mem_of_find?_eq_some h, rfl⟩
    · intro h
      obtain ⟨x, hx, he⟩ := List.mem_map.mp h
      obtain ⟨rfl, rfl⟩ := Prod.mk.inj he
      exact find?_of_mem hnames hx
  exact hrecords ▸ ((List.perm_ext_iff_of_nodup hentries hpairs).mpr hmem).map Prod.snd

/-- All readings are those of the catalogue. -/
theorem sameReadings_records (rs : List Record) :
    SameReadings ⟨records (ofList rs)⟩ (Catalogue.ofList rs) ∧
      walk (records (ofList rs)) = (Catalogue.ofList rs).byProvenance ∧
      (ofList rs).size = (Catalogue.ofList rs).size := by
  have hperm := perm_records rs
  have hsame : SameReadings ⟨records (ofList rs)⟩ (Catalogue.ofList rs) :=
    sameReadings_of_perm (nodup_names_ofList rs) hperm
  refine ⟨hsame, (walk_records _).trans hsame.byProvenance, ?_⟩
  rw [← Std.HashMap.length_toList, ← List.length_map Prod.snd]
  exact hperm.length_eq

end Keyed

end Namebook.Catalogue
