import Namebook.Proofs.Catalogue.Stored

/-!
# How late a name was seen

A record that comes in is never newer than what is then stored of its name. But a manual record that
takes the place of a discovered one brings its own moment with it, so that what is stored may have
been seen earlier than before. Nothing else moves the moment back.
-/

namespace Namebook

namespace Catalogue

/-- The first manual record and all that come after it. -/
def claimed (es : List Record) : List Record := es.dropWhile fun e => e.provenance ≠ .manual

/-! ## One record more -/

theorem le_seen_merge (existing incoming : Record) :
    incoming.seen ≤ (merge existing incoming).seen := by
  by_cases h : existing.provenance = .manual ∨ incoming.provenance ≠ .manual
  · rw [merge_of_stays h]
    exact le_max_right _ _
  · push Not at h
    rw [merge_of_replaced h.1 h.2]
    exact le_rfl

theorem seen_merge_lt_iff (existing incoming : Record) :
    (merge existing incoming).seen < existing.seen ↔
      incoming.provenance = .manual ∧ existing.provenance = .discovered ∧
        incoming.seen < existing.seen := by
  by_cases h : incoming.provenance = .manual ∧ existing.provenance = .discovered
  · have hseen : (merge existing incoming).seen = incoming.seen := by
      rw [merge, if_pos h]
      rfl
    rw [hseen]
    exact ⟨fun hlt => ⟨h.1, h.2, hlt⟩, fun hlt => hlt.2.2⟩
  · have hseen : (merge existing incoming).seen = max existing.seen incoming.seen := by
      rw [merge, if_neg h, Time.Instant.latest_eq_max]
      rfl
    rw [hseen]
    exact ⟨fun hlt => absurd (le_max_left _ _) (not_le_of_gt hlt),
      fun hlt => absurd ⟨hlt.1, hlt.2.1⟩ h⟩

/-! ## All records of a name -/

theorem exists_split_claimed (es : List Record) :
    ∃ before, es = before ++ claimed es ∧ (∀ e ∈ before, e.provenance ≠ .manual) ∧
      ∀ m ∈ (claimed es).head?, m.provenance = .manual := by
  refine ⟨es.takeWhile fun e => e.provenance ≠ .manual, List.takeWhile_append_dropWhile.symm,
    fun e he => ?_, fun m hm => ?_⟩
  · simpa using List.mem_takeWhile_imp he
  · have hnot := List.head?_dropWhile_not (fun e : Record => e.provenance ≠ .manual) es
    rw [claimed] at hm
    rw [Option.mem_def.mp hm] at hnot
    simpa using hnot

/-- What is stored was seen as late as any record from the first manual one on, or as any at all
where none is manual. -/
theorem seen_of_find? {rs : List Record} {name : String} {stored : Record}
    (h : (ofList rs).find? name = some stored) :
    let es := rs.filter fun r => r.name = name
    ((if claimed es = [] then es else claimed es).map Record.seen).max? = some stored.seen := by
  intro es
  obtain ⟨before, hes, hbefore, hhead⟩ := exists_split_claimed es
  have hstays {first : Record} {rest : List Record} (hes : es = first :: rest)
      (hkeeps : first.provenance = .manual ∨ ∀ e ∈ rest, e.provenance ≠ .manual) :
      (es.map Record.seen).max? = some stored.seen := by
    obtain ⟨seen, hseen, hstored⟩ := find?_of_stays hes hkeeps
    obtain rfl := Option.some.inj (h.symm.trans hstored)
    rw [hes]
    exact hseen
  cases hclaimed : claimed es with
  | nil =>
    rw [if_pos rfl]
    rw [hclaimed, List.append_nil] at hes
    cases hfirst : es with
    | nil => exact nomatch h.symm.trans (find?_eq_none hfirst)
    | cons first rest =>
      rw [← hfirst]
      refine hstays hfirst (.inr fun e he => hbefore e ?_)
      rw [← hes, hfirst]
      exact List.mem_cons_of_mem first he
  | cons m later =>
    rw [if_neg (List.cons_ne_nil m later)]
    rw [hclaimed] at hes hhead
    have hm : m.provenance = .manual := hhead m rfl
    cases before with
    | nil =>
      have hall := hstays hes (.inl hm)
      rwa [hes] at hall
    | cons first before =>
      obtain ⟨seen, hseen, hstored⟩ := find?_of_replaced hes hbefore hm
      obtain rfl := Option.some.inj (h.symm.trans hstored)
      exact hseen

/-- A record that comes in moves what is stored of its name back in time exactly if it is manual,
older than what is stored, and that is discovered; other names are left alone. What is stored was
seen as late as any record from the first manual one on, or as any at all where none is manual. So
it was seen as late as any record of its name exactly if none of them is manual, or those from the
first manual one on include one that is as late as any. -/
theorem seen_add_lt_iff (rs : List Record) (r : Record) :
    let c := ofList rs
    (∀ name old, c.find? name = some old →
      ∃ new, (c.add r).find? name = some new ∧
        (new.seen < old.seen ↔
          r.name = name ∧ r.provenance = .manual ∧ old.provenance = .discovered ∧
            r.seen < old.seen)) ∧
      (∃ new, (c.add r).find? r.name = some new ∧ r.seen ≤ new.seen) ∧
      ∀ name stored, c.find? name = some stored →
        let es := rs.filter fun e => e.name = name
        ((if claimed es = [] then es else claimed es).map Record.seen).max? = some stored.seen ∧
          ((es.map Record.seen).max? = some stored.seen ↔
            claimed es = [] ∨ ∀ e ∈ es, ∃ x ∈ claimed es, e.seen ≤ x.seen) := by
  intro c
  refine ⟨fun name old hold => ?_, ?_, fun name stored hstored => ?_⟩
  · rw [find?_add, hold]
    by_cases hname : r.name = name
    · rw [if_pos hname]
      refine ⟨merge old r, rfl, ?_⟩
      rw [seen_merge_lt_iff]
      simp only [hname, true_and]
    · rw [if_neg hname]
      exact ⟨old, rfl, fun hlt => absurd hlt (lt_irrefl _), fun hlt => absurd hlt.1 hname⟩
  · rw [find?_add, if_pos rfl]
    cases c.find? r.name with
    | none => exact ⟨r, rfl, le_rfl⟩
    | some old => exact ⟨merge old r, rfl, le_seen_merge old r⟩
  · intro es
    have hlatest : ((if claimed es = [] then es else claimed es).map Record.seen).max? =
        some stored.seen := seen_of_find? hstored
    refine ⟨hlatest, ?_⟩
    by_cases hnone : claimed es = []
    · rw [if_pos hnone] at hlatest
      exact iff_of_true hlatest (.inl hnone)
    · rw [if_neg hnone, List.max?_eq_some_iff] at hlatest
      obtain ⟨hmem, hle⟩ := hlatest
      obtain ⟨x, hx, hseen⟩ := List.mem_map.mp hmem
      have hsub : x ∈ es := (List.dropWhile_sublist _).subset hx
      rw [List.max?_eq_some_iff, or_iff_right hnone]
      constructor
      · rintro ⟨-, hall⟩ e he
        exact ⟨x, hx, hseen ▸ hall e.seen (List.mem_map_of_mem he)⟩
      · intro hall
        refine ⟨List.mem_map.mpr ⟨x, hsub, hseen⟩, fun t ht => ?_⟩
        obtain ⟨e, he, rfl⟩ := List.mem_map.mp ht
        obtain ⟨y, hy, hey⟩ := hall e he
        exact hey.trans (hle y.seen (List.mem_map_of_mem hy))

/-- A person claims a name that was seen since. -/
theorem seen_moved_back :
    let c := ofList [Record.named "x" .discovered ⟨100, 0⟩]
    let r := Record.named "x" .manual ⟨50, 0⟩
    (c.find? "x").map Record.seen = some ⟨100, 0⟩ ∧
      ((c.add r).find? "x").map Record.seen = some ⟨50, 0⟩ ∧
      (⟨50, 0⟩ : Time.Instant) < ⟨100, 0⟩ := by
  decide

end Catalogue

end Namebook
