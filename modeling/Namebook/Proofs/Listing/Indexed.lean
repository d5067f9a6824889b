import Std.Data.HashMap.Lemmas
import Namebook.Proofs.Listing

/-!
# Gathering with an index

The records can be gathered with an index of the positions of their keys, so that nothing has to be
looked for among them. As long as the index gives the position of every key, a sighting does the
same as without it, and then the index does so again.
-/

namespace Namebook

/-- Records in the order of their first sightings, and the position of each key. -/
structure Indexed where
  index : Std.HashMap String Nat
  records : Array Record

namespace Indexed

def empty : Indexed := ⟨∅, #[]⟩

def absorb (g : Indexed) (x : Sighting) : Indexed :=
  match g.index[x.key]? with
  | some position => { g with records := g.records.modify position fun r => r.inGroup x.group }
  | none => ⟨g.index.insert x.key g.records.size, g.records.push x.record⟩

def gather (xs : List Sighting) : Indexed := xs.foldl absorb empty

/-- The index gives the positions of the keys among some records, and these are stored. -/
structure Holds (g : Indexed) (rs : List Record) : Prop where
  records : g.records.toList = rs
  index : ∀ key, g.index[key]? = (rs.map Record.key).idxOf? key

end Indexed

/-- To put a sighting into its record is to change what is at the position of its key. -/
theorem absorb_eq_modify (x : Sighting) (rs : List Record) :
    absorb x rs =
      match (rs.map Record.key).idxOf? x.key with
      | some position => rs.modify position fun r => r.inGroup x.group
      | none => rs ++ [x.record] := by
  induction rs with
  | nil => rfl
  | cons r rs ih =>
    rw [absorb, List.map_cons, List.idxOf?_cons]
    by_cases hr : r.key = x.key
    · rw [if_pos hr, if_pos (beq_iff_eq.mpr hr)]
      rfl
    · rw [if_neg hr, if_neg (mt beq_iff_eq.mp hr), ih]
      cases (rs.map Record.key).idxOf? x.key <;> rfl

theorem idxOf?_concat {keys : List String} {new : String} (hnew : new ∉ keys) (key : String) :
    (keys ++ [new]).idxOf? key = if new = key then some keys.length else keys.idxOf? key := by
  rw [List.idxOf?, List.findIdx?_append]
  by_cases h : new = key
  · have hnone : keys.findIdx? (· == key) = none := by
      rw [List.findIdx?_eq_none_iff]
      exact fun k hk => beq_eq_false_iff_ne.mpr fun he => hnew (h ▸ he ▸ hk)
    rw [hnone, if_pos h, List.findIdx?_cons, if_pos (beq_iff_eq.mpr h)]
    exact congrArg some (Nat.zero_add _)
  · rw [if_neg h, List.findIdx?_cons, if_neg (mt beq_iff_eq.mp h)]
    exact Option.or_none

namespace Indexed

theorem holds_absorb {g : Indexed} {rs : List Record} (h : g.Holds rs) (x : Sighting) :
    (g.absorb x).Holds (Namebook.absorb x rs) := by
  have hkeys := keys_absorb x rs
  have hposition := h.index x.key
  unfold absorb
  rw [hposition, absorb_eq_modify] at *
  cases hx : (rs.map Record.key).idxOf? x.key with
  | some position =>
    -- The record was there, and its key stays.
    have hmem : x.key ∈ rs.map Record.key := by
      by_contra hnot
      rw [List.idxOf?_eq_none_iff.mpr hnot] at hx
      exact nomatch hx
    rw [hx, if_pos hmem] at hkeys
    refine ⟨?_, fun key => ?_⟩
    · exact (Array.toList_modify ..).trans (congrArg (List.modify · _ _) h.records)
    · exact (h.index key).trans (congrArg (List.idxOf? key) hkeys.symm)
  | none =>
    have hnot : x.key ∉ rs.map Record.key := List.idxOf?_eq_none_iff.mp hx
    have hsize : g.records.size = (rs.map Record.key).length := by
      rw [List.length_map, ← h.records, Array.length_toList]
    refine ⟨?_, fun key => ?_⟩
    · exact Array.toList_push.trans (congrArg (· ++ [x.record]) h.records)
    · change (g.index.insert x.key g.records.size)[key]? =
        ((rs ++ [x.record]).map Record.key).idxOf? key
      rw [Std.HashMap.getElem?_insert, List.map_append, h.index, hsize]
      exact (if_congr beq_iff_eq rfl rfl).trans (idxOf?_concat hnot key).symm

theorem holds_gather (xs : List Sighting) : (gather xs).Holds (Namebook.gather xs) := by
  induction xs using List.reverseRecOn with
  | nil => exact ⟨rfl, fun key => Std.HashMap.getElem?_empty⟩
  | append_singleton xs x ih =>
    rw [gather, List.foldl_append, gather_concat]
    exact holds_absorb ih x

/-- A listing is what an index gives once it is sorted. -/
theorem mergeSort_gather (f : Filters) (sets : List RecordSet) :
    (gather (sightings f sets)).records.toList.mergeSort Record.le = listing f sets :=
  congrArg (List.mergeSort · Record.le) (holds_gather (sightings f sets)).records

end Indexed

end Namebook
