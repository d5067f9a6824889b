import Mathlib.Data.List.Perm.Subperm
import Namebook.Proofs.Change

/-!
# Changes as an edit script

The changes between two lists are a script that turns the one into the other: it is about those keys
only that must change, about each of them once, and no shorter script would do.
-/

namespace Namebook

theorem Record.contentEq_iff_withSeen {a b : Record} :
    a.contentEq b = true ↔ ∀ moment, a.withSeen moment = b.withSeen moment := by
  rw [contentEq_iff]
  constructor
  · intro h moment
    rw [← h]
    rfl
  · intro h
    exact h b.seen

/-- What a list has for each key; of several records with one key the last one counts. -/
def Holding.of (rs : List Record) : Holding := fun key => Change.lastWith? key rs

theorem Holding.of_eq_some_iff {rs : List Record} (h : (rs.map Record.key).Nodup) {key : String}
    {r : Record} : Holding.of rs key = some r ↔ r ∈ rs ∧ r.key = key :=
  Change.lastWith?_eq_some_iff h

theorem Holding.mirrors_of {rs : List Record} (h : (rs.map Record.key).Nodup) :
    (Holding.of rs).Mirrors rs where
  keys key := by
    rw [← not_iff_not, Bool.not_eq_true, Option.isSome_eq_false_iff, Option.isNone_iff_eq_none]
    exact Change.lastWith?_eq_none_iff
  content r hr entry he := by
    have hsame : Holding.of rs r.key = some r := (of_eq_some_iff h).mpr ⟨hr, rfl⟩
    rw [hsame, Option.some.injEq] at he
    rw [← he]
    exact Record.contentEq_refl r

namespace Change

/-- The key is in one of the lists only, or with another content in each. -/
def Differs (previous current : List Record) (key : String) : Prop :=
  (key ∈ previous.map Record.key ∧ key ∉ current.map Record.key) ∨
    (key ∉ previous.map Record.key ∧ key ∈ current.map Record.key) ∨
    ∃ old ∈ previous, ∃ now ∈ current,
      old.key = key ∧ now.key = key ∧ old.contentEq now = false

/-- Changes that turn one list into another, each of them for a reason. -/
structure IsScript (previous current : List Record) (cs : List Change) : Prop where
  once : (cs.map fun c => c.record.key).Nodup
  lawful : Lawful (Holding.of previous) cs
  leads : (replay (Holding.of previous) cs).Mirrors current
  needed : ∀ key, key ∈ cs.map (fun c => c.record.key) ↔ Differs previous current key
  /-- First come records of the second list, in its order, and then what is gone of the first one,
  in its order. -/
  ordered : ∃ arrivals departures, cs = arrivals ++ departures ∧
    (∀ c ∈ arrivals, c.kind = .added ∨ c.kind = .modified) ∧
    (∀ c ∈ departures, c.kind = .deleted) ∧
    (arrivals.map Change.record).Sublist current ∧
    (departures.map Change.record).Sublist previous

variable {previous current : List Record}

/-! ## Which keys change -/

theorem mem_keys_between (hp : (previous.map Record.key).Nodup) {key : String} :
    key ∈ (between previous current).map (fun c => c.record.key) ↔
      Differs previous current key := by
  constructor
  · intro h
    obtain ⟨c, hc, rfl⟩ := List.mem_map.mp h
    rcases (mem_between hp).mp hc with ⟨-, hr, hn⟩ | ⟨-, hr, old, ho, hk, hd⟩ | ⟨-, hr, hn⟩
    · exact .inr (.inl ⟨hn, List.mem_map_of_mem hr⟩)
    · exact .inr (.inr ⟨old, ho, c.record, hr, hk, rfl, hd⟩)
    · exact .inl ⟨List.mem_map_of_mem hr, hn⟩
  · rintro (⟨hin, hn⟩ | ⟨hn, hin⟩ | ⟨old, ho, now, hnow, hok, rfl, hd⟩)
    · obtain ⟨r, hr, rfl⟩ := List.mem_map.mp hin
      exact List.mem_map.mpr ⟨⟨.deleted, r⟩, (mem_between hp).mpr (.inr (.inr ⟨rfl, hr, hn⟩)), rfl⟩
    · obtain ⟨r, hr, rfl⟩ := List.mem_map.mp hin
      exact List.mem_map.mpr ⟨⟨.added, r⟩, (mem_between hp).mpr (.inl ⟨rfl, hr, hn⟩), rfl⟩
    · exact List.mem_map.mpr ⟨⟨.modified, now⟩,
        (mem_between hp).mpr (.inr (.inl ⟨rfl, hnow, old, ho, hok, hd⟩)), rfl⟩

/-- Whatever turns the one list into the other has a change for each key that differs. -/
theorem mem_keys_of_differs (hp : (previous.map Record.key).Nodup) {cs : List Change}
    (hm : (replay (Holding.of previous) cs).Mirrors current) {key : String}
    (hd : Differs previous current key) : key ∈ cs.map fun c => c.record.key := by
  by_contra hk
  have hheld : replay (Holding.of previous) cs key = Holding.of previous key := replay_of_notMem hk
  have hkeys : key ∈ current.map Record.key ↔ key ∈ previous.map Record.key := by
    rw [← hm.keys, hheld, (Holding.mirrors_of hp).keys]
  rcases hd with ⟨hin, hn⟩ | ⟨hn, hin⟩ | ⟨old, ho, now, hnow, hok, rfl, hd⟩
  · exact hn (hkeys.mpr hin)
  · exact hn (hkeys.mp hin)
  · have hold : Holding.of previous now.key = some old :=
      (Holding.of_eq_some_iff hp).mpr ⟨ho, hok⟩
    have hce : old.contentEq now = true := hm.content now hnow old (hheld.trans hold)
    rw [hd] at hce
    exact Bool.false_ne_true hce

/-- No script is shorter. -/
theorem length_between_le (hp : (previous.map Record.key).Nodup)
    (hc : (current.map Record.key).Nodup) {cs : List Change}
    (hm : (replay (Holding.of previous) cs).Mirrors current) :
    (between previous current).length ≤ cs.length := by
  have hsub : (between previous current).map (fun c => c.record.key) ⊆
      cs.map fun c => c.record.key := by
    intro key hkey
    exact mem_keys_of_differs hp hm ((mem_keys_between hp).mp hkey)
  have hlength := (List.subperm_of_subset (nodup_keys_between hp hc) hsub).length_le
  rwa [List.length_map, List.length_map] at hlength

theorem between_eq_nil_iff (hp : (previous.map Record.key).Nodup) :
    between previous current = [] ↔
      (∀ key, key ∈ previous.map Record.key ↔ key ∈ current.map Record.key) ∧
        ∀ old ∈ previous, ∀ now ∈ current, old.key = now.key → old.contentEq now = true := by
  have hnone : between previous current = [] ↔ ∀ key, ¬Differs previous current key := by
    simp only [← mem_keys_between hp, ← List.eq_nil_iff_forall_not_mem, List.map_eq_nil_iff]
  rw [hnone]
  constructor
  · intro h
    refine ⟨fun key => ⟨fun hin => ?_, fun hin => ?_⟩, fun old ho now hnow hk => ?_⟩
    · by_contra hn
      exact h key (.inl ⟨hin, hn⟩)
    · by_contra hn
      exact h key (.inr (.inl ⟨hn, hin⟩))
    · by_contra hd
      exact h now.key (.inr (.inr ⟨old, ho, now, hnow, hk, rfl, Bool.eq_false_iff.mpr hd⟩))
  · rintro ⟨hkeys, hsame⟩ key (⟨hin, hn⟩ | ⟨hn, hin⟩ | ⟨old, ho, now, hnow, hok, rfl, hd⟩)
    · exact hn ((hkeys key).mp hin)
    · exact hn ((hkeys key).mpr hin)
    · rw [hsame old ho now hnow hok] at hd
      exact Bool.false_ne_true hd.symm

/-! ## The script -/

theorem isScript_between (hp : (previous.map Record.key).Nodup)
    (hc : (current.map Record.key).Nodup) :
    IsScript previous current (between previous current) where
  once := nodup_keys_between hp hc
  lawful := lawful_between hp hc (Holding.mirrors_of hp)
  leads := mirrors_replay_between hp hc (Holding.mirrors_of hp)
  needed _ := mem_keys_between hp
  ordered := by
    refine ⟨current.filterMap (arrival? previous), previous.filterMap (departure? current), rfl,
      fun c hmem => ?_, fun c hmem => ?_, ?_, ?_⟩
    · obtain ⟨r, -, hr⟩ := List.mem_filterMap.mp hmem
      rcases ((arrival?_eq_some_iff hp).mp hr).2 with ⟨hk, -⟩ | ⟨hk, -⟩
      · exact .inl hk
      · exact .inr hk
    · obtain ⟨r, -, hr⟩ := List.mem_filterMap.mp hmem
      exact (departure?_eq_some_iff.mp hr).2.1
    · exact sublist_records (fun _ _ h => ((arrival?_eq_some_iff hp).mp h).1) current
    · exact sublist_records (fun _ _ h => (departure?_eq_some_iff.mp h).1) previous

/-- The changes between two lists without repeated keys are a script from the one to the other, of
which none is shorter. There are none if the lists have the same keys with the same content, which
is all of a record but the moment of its last observation. -/
theorem between_is_shortest_script (hp : (previous.map Record.key).Nodup)
    (hc : (current.map Record.key).Nodup) :
    IsScript previous current (between previous current) ∧
      (∀ cs, (replay (Holding.of previous) cs).Mirrors current →
        (between previous current).length ≤ cs.length) ∧
      (between previous current = [] ↔
        (∀ key, key ∈ previous.map Record.key ↔ key ∈ current.map Record.key) ∧
          ∀ old ∈ previous, ∀ now ∈ current, old.key = now.key → old.contentEq now = true) ∧
      ∀ a b : Record, a.contentEq b = true ↔ ∀ moment, a.withSeen moment = b.withSeen moment :=
  ⟨isScript_between hp hc, fun _ => length_between_le hp hc, between_eq_nil_iff hp,
    fun _ _ => Record.contentEq_iff_withSeen⟩

/-- Of four records one goes, one gets another target, one is only seen again, and one is new. -/
theorem between_is_shortest_script_mixed :
    let gone : Record := ⟨"a", .manual, "", "A", [], ["Apps"], none, .sync, .epoch⟩
    let moved : Record := { gone with name := "b" }
    let seen : Record := { gone with name := "c" }
    let fresh : Record := { gone with name := "c", type := "AAAA" }
    let previous := [gone, moved, seen]
    let current := [{ moved with targets := ["192.0.2.1"] }, seen.withSeen (.ofMillis 1000), fresh]
    ((previous.map Record.key).Nodup ∧ (current.map Record.key).Nodup) ∧
      IsScript previous current (between previous current) ∧
      between previous current =
        [⟨.modified, { moved with targets := ["192.0.2.1"] }⟩, ⟨.added, fresh⟩,
          ⟨.deleted, gone⟩] := by
  intro gone moved seen fresh previous current
  have hp : (previous.map Record.key).Nodup := by decide
  have hc : (current.map Record.key).Nodup := by decide
  exact ⟨⟨hp, hc⟩, (between_is_shortest_script hp hc).1, by decide⟩

end Change

end Namebook
