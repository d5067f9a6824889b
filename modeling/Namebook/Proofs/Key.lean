import Mathlib.Data.List.Nodup
import Namebook.Proofs.Change
import Namebook.Proofs.Listing.Occurrence

/-!
# Keys and the records that they stand for

A key is a name and a type with a slash in between. Names and types may hold slashes themselves, so
a key can be cut in more than one place: then records of different names share it. These are the
only ones, and where there are none the listing has all records and a record is only ever modified
into itself.
-/

namespace Namebook

/-- Two ways to cut a list at a separator. -/
theorem append_cons_eq_append_cons_iff {α : Type} {s : α} {xs ys xs' ys' : List α} :
    xs ++ s :: ys = xs' ++ s :: ys' ↔
      xs = xs' ∧ ys = ys' ∨
        (∃ part, xs' = xs ++ s :: part ∧ ys = part ++ s :: ys') ∨
        ∃ part, xs = xs' ++ s :: part ∧ ys' = part ++ s :: ys := by
  constructor
  · intro h
    rcases List.append_eq_append_iff.mp h with ⟨as, rfl, hs⟩ | ⟨bs, rfl, hs⟩
    · cases as with
      | nil => exact .inl ⟨(List.append_nil xs).symm, (List.cons.inj hs).2⟩
      | cons a part =>
        obtain ⟨rfl, hys⟩ := List.cons.inj hs
        exact .inr (.inl ⟨part, rfl, hys⟩)
    · cases bs with
      | nil => exact .inl ⟨List.append_nil xs', (List.cons.inj hs).2.symm⟩
      | cons b part =>
        obtain ⟨rfl, hys⟩ := List.cons.inj hs
        exact .inr (.inr ⟨part, rfl, hys⟩)
  · rintro (⟨rfl, rfl⟩ | ⟨part, rfl, rfl⟩ | ⟨part, rfl, rfl⟩) <;> simp

namespace Record

/-- Of two names one runs on with a part that in the other's place begins the type. -/
def Confusable (name type name' type' : String) : Prop :=
  (∃ part, name' = name ++ "/" ++ part ∧ type = part ++ "/" ++ type') ∨
    ∃ part, name = name' ++ "/" ++ part ∧ type' = part ++ "/" ++ type

theorem keyOf_eq_keyOf_iff {name type name' type' : String} :
    keyOf name type = keyOf name' type' ↔
      name = name' ∧ type = type' ∨ Confusable name type name' type' := by
  have hlist (n t : String) : (keyOf n t).toList = n.toList ++ '/' :: t.toList := by
    simp [keyOf]
  have hpart (n n' : String) (part : List Char) :
      n.toList = n'.toList ++ '/' :: part ↔ n = n' ++ "/" ++ String.ofList part := by
    rw [← String.toList_inj]
    simp
  have hrest (t t' : String) (part : List Char) :
      t.toList = part ++ '/' :: t'.toList ↔ t = String.ofList part ++ "/" ++ t' := by
    rw [← String.toList_inj]
    simp
  have hall {P : String → Prop} : (∃ part : List Char, P (String.ofList part)) ↔ ∃ s, P s :=
    ⟨fun ⟨part, h⟩ => ⟨_, h⟩, fun ⟨s, h⟩ => ⟨s.toList, by rwa [String.ofList_toList]⟩⟩
  rw [← String.toList_inj, hlist, hlist, append_cons_eq_append_cons_iff, String.toList_inj,
    String.toList_inj, Confusable]
  simp only [hpart, hrest]
  rw [hall (P := fun part => name' = name ++ "/" ++ part ∧ type = part ++ "/" ++ type'),
    hall (P := fun part => name = name' ++ "/" ++ part ∧ type' = part ++ "/" ++ type)]

theorem Confusable.name_ne {name type name' type' : String}
    (h : Confusable name type name' type') : name ≠ name' := by
  have hlonger (n part : String) : n ≠ n ++ "/" ++ part := by
    intro he
    have hl := congrArg String.length he
    have hslash : "/".length = 1 := rfl
    rw [String.length_append, String.length_append, hslash] at hl
    omega
  rcases h with ⟨part, rfl, -⟩ | ⟨part, rfl, -⟩
  · exact hlonger name part
  · exact (hlonger name' part).symm

/-- A type without a slash, as all types of DNS are, can be told from the name before it. -/
theorem not_confusable_of_plain {name type name' type' : String} (h : '/' ∉ type.toList)
    (h' : '/' ∉ type'.toList) : ¬Confusable name type name' type' := by
  rintro (⟨part, -, rfl⟩ | ⟨part, -, rfl⟩)
  · exact h (by simp)
  · exact h' (by simp)

theorem sameRecord_iff {a b : Record} :
    a.sameRecord b = true ↔ a.name = b.name ∧ a.type = b.type := by
  rw [sameRecord, Bool.and_eq_true, beq_iff_eq, beq_iff_eq]

theorem key_eq_key_iff {a b : Record} :
    a.key = b.key ↔ a.sameRecord b = true ∨ Confusable a.name a.type b.name b.type := by
  rw [sameRecord_iff, key, key, keyOf_eq_keyOf_iff]

end Record

open Record (Confusable)

/-! ## In a listing -/

def Occurrence.type (o : Occurrence) : String := Text.normalizeType o.entry.type

theorem exists_occurrence_of_mem_listing {sets : List RecordSet} {r : Record}
    (hr : r ∈ listing Filters.unfiltered sets) :
    ∃ o ∈ occurrences sets, r.name = o.name ∧ r.type = o.type := by
  obtain ⟨first, hf, he⟩ := eq_record_of_mem_listing hr
  have hmem := List.mem_of_find?_eq_some hf
  rw [sightings_unfiltered] at hmem
  obtain ⟨o, ho, rfl⟩ := List.mem_map.mp hmem
  rw [he]
  exact ⟨o, ho, rfl, rfl⟩

theorem exists_mem_listing_of_occurrence {sets : List RecordSet} {o : Occurrence}
    (ho : o ∈ occurrences sets) :
    ∃ r ∈ listing Filters.unfiltered sets, r.key = o.key := by
  have hk : o.key ∈ (sightings Filters.unfiltered sets).map Sighting.key := by
    rw [sightings_unfiltered, List.map_map]
    exact List.mem_map_of_mem (f := Sighting.key ∘ Occurrence.sighting) ho
  exact List.mem_map.mp (mem_keys_listing.mpr hk)

/-- Every entry has a record of its own name and type unless two entries can be confused. -/
theorem listing_keeps_all_iff (sets : List RecordSet) :
    (∀ o ∈ occurrences sets,
        ∃ r ∈ listing Filters.unfiltered sets, r.name = o.name ∧ r.type = o.type) ↔
      ∀ o ∈ occurrences sets, ∀ o' ∈ occurrences sets,
        ¬Confusable o.name o.type o'.name o'.type := by
  constructor
  · intro h o ho o' ho' hc
    obtain ⟨r, hr, hn, ht⟩ := h o ho
    obtain ⟨r', hr', hn', ht'⟩ := h o' ho'
    have hk : r.key = r'.key := by
      rw [Record.key_eq_key_iff, hn, ht, hn', ht']
      exact .inr hc
    -- There is one record for the key, and it cannot have both names.
    have he : r = r' := List.inj_on_of_nodup_map (nodup_keys_listing _ sets) hr hr' hk
    exact hc.name_ne (hn.symm.trans (he ▸ hn'))
  · intro h o ho
    obtain ⟨r, hr, hk⟩ := exists_mem_listing_of_occurrence ho
    obtain ⟨o', ho', hn, ht⟩ := exists_occurrence_of_mem_listing hr
    have hk' : Record.keyOf o'.name o'.type = Record.keyOf o.name o.type := by
      rw [← hn, ← ht]
      exact hk
    rcases Record.keyOf_eq_keyOf_iff.mp hk' with ⟨hn', ht'⟩ | hc
    · exact ⟨r, hr, hn.trans hn', ht.trans ht'⟩
    · exact absurd hc (h o' ho' o ho)

theorem listing_keeps_all_of_plain {sets : List RecordSet}
    (h : ∀ o ∈ occurrences sets, '/' ∉ o.type.toList) :
    ∀ o ∈ occurrences sets,
      ∃ r ∈ listing Filters.unfiltered sets, r.name = o.name ∧ r.type = o.type :=
  (listing_keeps_all_iff sets).mpr fun o ho o' ho' =>
    Record.not_confusable_of_plain (h o ho) (h o' ho')

/-! ## Among changes -/

namespace Change

theorem modified_of_mem_between {previous current : List Record} {c : Change}
    (hc : c ∈ between previous current) (hm : c.kind = .modified) :
    c.record ∈ current ∧ ∃ old, lastWith? c.record.key previous = some old ∧
      old.contentEq c.record = false := by
  rcases List.mem_append.mp hc with ha | hd
  · obtain ⟨now, hnow, ha⟩ := List.mem_filterMap.mp ha
    unfold arrival? at ha
    split at ha
    · cases ha
      exact nomatch hm
    · rename_i before hb
      split at ha
      · exact nomatch ha
      · rename_i hne
        cases ha
        exact ⟨hnow, before, hb, Bool.eq_false_iff.mpr hne⟩
  · obtain ⟨gone, -, hd⟩ := List.mem_filterMap.mp hd
    unfold departure? at hd
    split at hd
    · exact nomatch hd
    · cases hd
      exact nomatch hm

theorem modified_mem_between {previous current : List Record} {r old : Record} (hr : r ∈ current)
    (ho : lastWith? r.key previous = some old) (hd : old.contentEq r = false) :
    (⟨.modified, r⟩ : Change) ∈ between previous current := by
  refine List.mem_append_left _ (List.mem_filterMap.mpr ⟨r, hr, ?_⟩)
  simp [arrival?, ho, hd]

/-- What is modified is the same record as before unless the two can be confused. -/
theorem modified_same_iff (previous current : List Record) :
    (∀ c ∈ between previous current, c.kind = .modified →
        ∃ old, lastWith? c.record.key previous = some old ∧ old.sameRecord c.record = true) ↔
      ∀ r ∈ current, ∀ old, lastWith? r.key previous = some old →
        ¬Confusable old.name old.type r.name r.type := by
  constructor
  · intro h r hr old ho hc
    have hd : old.contentEq r = false := by
      rw [Bool.eq_false_iff]
      intro he
      have hn := congrArg Record.name (Record.contentEq_iff.mp he)
      exact hc.name_ne hn
    obtain ⟨old', ho', hs⟩ := h _ (modified_mem_between hr ho hd) rfl
    obtain rfl := Option.some.inj (ho.symm.trans ho')
    exact hc.name_ne (Record.sameRecord_iff.mp hs).1
  · intro h c hc hm
    obtain ⟨hr, old, ho, -⟩ := modified_of_mem_between hc hm
    have hk : old.key = c.record.key := by
      simpa using List.find?_some (show List.find? _ _ = some old from ho)
    rcases Record.key_eq_key_iff.mp hk with hs | hconf
    · exact ⟨old, ho, hs⟩
    · exact absurd hconf (h c.record hr old ho)

theorem modified_same_of_plain {previous current : List Record}
    (hprevious : ∀ r ∈ previous, '/' ∉ r.type.toList)
    (hcurrent : ∀ r ∈ current, '/' ∉ r.type.toList) :
    ∀ c ∈ between previous current, c.kind = .modified →
      ∃ old, lastWith? c.record.key previous = some old ∧ old.sameRecord c.record = true := by
  refine (modified_same_iff previous current).mpr fun r hr old hold => ?_
  have hmem : old ∈ previous := List.mem_reverse.mp (List.mem_of_find?_eq_some hold)
  exact Record.not_confusable_of_plain (hprevious old hmem) (hcurrent r hr)

end Change

/-- Keys tell records apart, a listing keeps every entry, and a modified record is the same as
before, each of them exactly as long as nothing can be confused. -/
theorem kept_apart_iff (a b : Record) (sets : List RecordSet) (previous current : List Record) :
    ((a.key = b.key ↔ a.sameRecord b = true) ↔ ¬Confusable a.name a.type b.name b.type) ∧
      ((∀ o ∈ occurrences sets,
          ∃ r ∈ listing Filters.unfiltered sets, r.name = o.name ∧ r.type = o.type) ↔
        ∀ o ∈ occurrences sets, ∀ o' ∈ occurrences sets,
          ¬Confusable o.name o.type o'.name o'.type) ∧
      ((∀ c ∈ Change.between previous current, c.kind = .modified →
          ∃ old, Change.lastWith? c.record.key previous = some old ∧
            old.sameRecord c.record = true) ↔
        ∀ r ∈ current, ∀ old, Change.lastWith? r.key previous = some old →
          ¬Confusable old.name old.type r.name r.type) := by
  refine ⟨?_, listing_keeps_all_iff sets, Change.modified_same_iff previous current⟩
  rw [Record.key_eq_key_iff]
  constructor
  · intro h hc
    exact hc.name_ne (Record.sameRecord_iff.mp (h.mp (.inr hc))).1
  · intro h
    simp [h]

/-- A set with the name `x` of type `1/2` and the name `x/1` of type `2`. -/
def RecordSet.confusing : RecordSet where
  metadata := { name := some "one" }
  spec := {}
  status := some
    { groups := [⟨"Apps", [{ name := "x", type := "1/2" }, { name := "x/1", type := "2" }]⟩] }

/-- The record of the second name is lost, and the first one would be modified into it. -/
theorem confusing_loses_record :
    let first : Record := ⟨"x", .discovered, "", "1/2", [], ["Apps"], none, .notAvailable, .epoch⟩
    let second : Record := ⟨"x/1", .discovered, "", "2", [], ["Apps"], none, .notAvailable, .epoch⟩
    first.key = second.key ∧ first.sameRecord second = false ∧
      listing Filters.unfiltered [.confusing] = [first] ∧
      Change.between [first] [second] = [⟨.modified, second⟩] := by
  refine ⟨by decide, by decide, listing_eq_singleton (by decide), by decide⟩

end Namebook
