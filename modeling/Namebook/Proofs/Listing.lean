import Mathlib.Data.List.Induction
import Namebook.Listing
import Namebook.Proofs.Record

/-!
# What a listing holds

Gathering goes through the sightings in order and keeps one record for each key. Its result has a
closed form: the keys come in the order of their first sightings, the record of a key is that of
its first sighting, and its groups are those of all its sightings, each at its first place. Sorting
then loses nothing, so a listing is determined by the sightings alone.
-/

namespace Namebook

theorem eraseDups_concat {α : Type} [DecidableEq α] (l : List α) (a : α) :
    (l ++ [a]).eraseDups = if a ∈ l then l.eraseDups else l.eraseDups ++ [a] := by
  rw [List.eraseDups_append]
  by_cases h : a ∈ l <;> simp [List.removeAll, List.eraseDups_cons, h]

theorem nodup_eraseDups {α : Type} [DecidableEq α] (l : List α) : l.eraseDups.Nodup := by
  induction l using List.reverseRecOn with
  | nil => simp
  | append_singleton l a ih =>
    rw [eraseDups_concat]
    split
    · exact ih
    · rename_i ha
      refine List.nodup_append.mpr ⟨ih, by simp, fun x hx y hy he => ha ?_⟩
      rw [← List.mem_singleton.mp hy, ← he]
      exact List.mem_eraseDups.mp hx

@[simp] theorem Record.key_inGroup (r : Record) (group : String) :
    (r.inGroup group).key = r.key := by
  unfold inGroup addGroup
  split <;> rfl

theorem Record.inGroup_eq (r : Record) (group : String) :
    r.inGroup group =
      { r with groups := if group ∈ r.groups then r.groups else r.groups ++ [group] } := by
  unfold inGroup addGroup
  by_cases h : group ∈ r.groups <;> simp [h]

@[simp] theorem Sighting.key_record (x : Sighting) : x.record.key = x.key := rfl

/-! ## One sighting more -/

theorem find?_absorb (x : Sighting) (rs : List Record) (key : String) :
    (absorb x rs).find? (fun r => r.key == key) =
      if x.key = key then
        some (((rs.find? fun r => r.key == key).map fun r => r.inGroup x.group).getD x.record)
      else rs.find? fun r => r.key == key := by
  induction rs with
  | nil =>
    by_cases h : x.key = key <;> simp [absorb, h]
  | cons r rs ih =>
    unfold absorb
    by_cases hr : r.key = x.key
    · rw [if_pos hr]
      by_cases h : x.key = key
      · simp [hr, h]
      · simp [hr, h]
    · rw [if_neg hr]
      by_cases hk : r.key = key
      · have h : x.key ≠ key := fun h => hr (hk.trans h.symm)
        simp [hk, h]
      · simp only [List.find?_cons, beq_eq_false_iff_ne.mpr hk]
        exact ih

/-- An addition to the end, unless it is there already, passes by whatever else comes first. -/
theorem cons_append_unless_mem {α : Type} [DecidableEq α] {a k : α} (h : a ≠ k) (l : List α) :
    a :: (if k ∈ l then l else l ++ [k]) = if k ∈ a :: l then a :: l else a :: l ++ [k] := by
  by_cases hk : k ∈ l
  · rw [if_pos hk, if_pos (List.mem_cons_of_mem a hk)]
  · have hc : k ∉ a :: l := List.not_mem_cons_of_ne_of_not_mem (Ne.symm h) hk
    rw [if_neg hk, if_neg hc, List.cons_append]

theorem keys_absorb (x : Sighting) (rs : List Record) :
    (absorb x rs).map Record.key =
      if x.key ∈ rs.map Record.key then rs.map Record.key
      else rs.map Record.key ++ [x.key] := by
  induction rs with
  | nil => simp [absorb]
  | cons r rs ih =>
    unfold absorb
    by_cases hr : r.key = x.key
    · simp [hr]
    · rw [if_neg hr, List.map_cons, ih]
      exact cons_append_unless_mem hr _

/-! ## All sightings -/

theorem gather_concat (xs : List Sighting) (x : Sighting) :
    gather (xs ++ [x]) = absorb x (gather xs) := by
  rw [gather, List.foldl_append]
  rfl

/-- The keys come in the order in which they are first sighted. -/
theorem keys_gather (xs : List Sighting) :
    (gather xs).map Record.key = (xs.map Sighting.key).eraseDups := by
  induction xs using List.reverseRecOn with
  | nil => rfl
  | append_singleton xs x ih =>
    rw [gather_concat, keys_absorb, ih, List.map_append, List.map_singleton, eraseDups_concat]
    simp only [List.mem_eraseDups]

theorem nodup_keys_gather (xs : List Sighting) : ((gather xs).map Record.key).Nodup := by
  rw [keys_gather]
  exact nodup_eraseDups _

/-- The record of a key is that of its first sighting, in the groups of all its sightings. -/
theorem find?_gather (xs : List Sighting) (key : String) :
    (gather xs).find? (fun r => r.key == key) =
      (xs.find? fun x => x.key == key).map fun first =>
        { first.record with
          groups := ((xs.filter fun x => x.key == key).map Sighting.group).eraseDups } := by
  induction xs using List.reverseRecOn with
  | nil => rfl
  | append_singleton xs x ih =>
    rw [gather_concat, find?_absorb, List.find?_append, List.filter_append]
    by_cases hx : x.key = key
    · rw [if_pos hx, ih]
      cases hf : xs.find? fun x => x.key == key with
      | none =>
        have hn : (xs.filter fun x => x.key == key) = [] := by
          simpa [List.filter_eq_nil_iff] using hf
        have hfx : [x].find? (fun x => x.key == key) = some x := by simp [hx]
        have hnx : [x].filter (fun x => x.key == key) = [x] := by simp [hx]
        rw [hn, hnx, hfx]
        rfl
      | some first =>
        simp only [hx, Record.inGroup_eq, eraseDups_concat, List.map_append, List.map_cons,
          List.map_nil, List.filter_cons, List.filter_nil, beq_self_eq_true, if_true,
          Option.map_some, Option.getD_some, Option.some_or, List.mem_eraseDups]
    · rw [if_neg hx, ih]
      simp [hx]

/-! ## The sorted list -/

theorem perm_listing (f : Filters) (sets : List RecordSet) :
    (listing f sets).Perm (gather (sightings f sets)) := List.mergeSort_perm _ _

theorem nodup_keys_listing (f : Filters) (sets : List RecordSet) :
    ((listing f sets).map Record.key).Nodup :=
  (((perm_listing f sets).map Record.key).nodup_iff).mpr (nodup_keys_gather _)

theorem mem_keys_listing {f : Filters} {sets : List RecordSet} {key : String} :
    key ∈ (listing f sets).map Record.key ↔ key ∈ (sightings f sets).map Sighting.key := by
  rw [((perm_listing f sets).map Record.key).mem_iff, keys_gather, List.mem_eraseDups]

theorem pairwise_before_listing (f : Filters) (sets : List RecordSet) :
    (listing f sets).Pairwise Record.Before :=
  Record.pairwise_before_mergeSort (nodup_keys_gather _)

/-- A listed record comes from the first sighting of its key. -/
theorem eq_record_of_mem_listing {f : Filters} {sets : List RecordSet} {r : Record}
    (hr : r ∈ listing f sets) :
    ∃ first, (sightings f sets).find? (fun x => x.key == r.key) = some first ∧
      r = { first.record with
        groups := (((sightings f sets).filter fun x => x.key == r.key).map
          Sighting.group).eraseDups } := by
  have hf := Record.find?_key (nodup_keys_gather (sightings f sets))
    ((perm_listing f sets).mem_iff.mp hr)
  rw [find?_gather, Option.map_eq_some_iff] at hf
  obtain ⟨first, hx, he⟩ := hf
  exact ⟨first, hx, he.symm⟩

/-! ## A single name -/

/-- A set that publishes one name. -/
def RecordSet.single (description : String) : RecordSet where
  metadata := { name := some "shop" }
  spec := {}
  status := some { groups := [⟨"Apps", [{ name := "a.example", type := "A", description }]⟩] }

def Record.single (description : String) : Record :=
  ⟨"a.example", .discovered, description, "A", [], ["Apps"], none, .notAvailable, .epoch⟩

theorem listing_eq_singleton {f : Filters} {sets : List RecordSet} {r : Record}
    (h : gather (sightings f sets) = [r]) : listing f sets = [r] := by
  rw [listing, h, List.mergeSort_singleton]

end Namebook
