import Namebook.Record

/-!
# Order and content of records

Records are ordered by name and then type. The order is linear up to the other fields, so a sorted
list in which no key comes twice is strictly sorted. Content is everything but the moment of the
last observation, and to have the same content is an equivalence.
-/

namespace Namebook

/-- Sorting is strict where no two elements have the same key. -/
theorem pairwise_mergeSort_of_nodup {α β : Type} {le : α → α → Bool} {lt : α → α → Prop}
    {key : α → β} {l : List α} (htrans : ∀ a b c, le a b = true → le b c = true → le a c = true)
    (htotal : ∀ a b, (le a b || le b a) = true)
    (hlt : ∀ a b, le a b = true → key a ≠ key b → lt a b) (h : (l.map key).Nodup) :
    (l.mergeSort le).Pairwise lt := by
  have hle : (l.mergeSort le).Pairwise fun a b => le a b = true :=
    List.pairwise_mergeSort htrans htotal l
  have hne : (l.mergeSort le).Pairwise fun a b => key a ≠ key b :=
    List.pairwise_map.mp (((List.mergeSort_perm l le).map key).nodup_iff.mpr h)
  exact hle.imp₂ hlt hne

namespace Record

/-- By name, then type, in the order of code points. -/
def Before (a b : Record) : Prop := a.name < b.name ∨ a.name = b.name ∧ a.type < b.type

theorem le_iff (a b : Record) :
    a.le b = true ↔ a.name < b.name ∨ a.name = b.name ∧ a.type ≤ b.type := by
  simp only [le, Bool.or_eq_true, Bool.and_eq_true, decide_eq_true_eq, beq_iff_eq,
    Bool.not_eq_eq_eq_not, Bool.not_true, decide_eq_false_iff_not, String.not_lt]

theorem le_total (a b : Record) : (a.le b || b.le a) = true := by
  rw [Bool.or_eq_true, le_iff, le_iff]
  by_cases hab : a.name < b.name
  · exact .inl (.inl hab)
  by_cases hba : b.name < a.name
  · exact .inr (.inl hba)
  have hn : a.name = b.name := String.le_antisymm (String.not_lt.mp hba) (String.not_lt.mp hab)
  rcases String.le_total a.type b.type with ht | ht
  · exact .inl (.inr ⟨hn, ht⟩)
  · exact .inr (.inr ⟨hn.symm, ht⟩)

theorem le_trans (a b c : Record) (hab : a.le b = true) (hbc : b.le c = true) :
    a.le c = true := by
  rw [le_iff] at *
  rcases hab with hab | ⟨hab, htab⟩ <;> rcases hbc with hbc | ⟨hbc, htbc⟩
  · exact .inl (String.lt_trans hab hbc)
  · exact .inl (hbc ▸ hab)
  · exact .inl (hab ▸ hbc)
  · exact .inr ⟨hab.trans hbc, String.le_trans htab htbc⟩

theorem before_of_le {a b : Record} (h : a.le b = true) (hk : a.key ≠ b.key) : a.Before b := by
  rcases (le_iff a b).mp h with hn | ⟨hn, ht⟩
  · exact .inl hn
  · refine .inr ⟨hn, String.not_le.mp fun hba => hk ?_⟩
    rw [key, key, hn, String.le_antisymm ht hba]

/-- Sorting a list in which no key comes twice gives a strictly sorted one. -/
theorem pairwise_before_mergeSort {rs : List Record} (h : (rs.map key).Nodup) :
    (rs.mergeSort le).Pairwise Before :=
  pairwise_mergeSort_of_nodup le_trans le_total (fun _ _ => before_of_le) h

/-- Each record is the one that is found by its key where no key comes twice. -/
theorem find?_key {rs : List Record} (h : (rs.map key).Nodup) {r : Record} (hr : r ∈ rs) :
    rs.find? (fun x => x.key == r.key) = some r := by
  induction rs with
  | nil => simp at hr
  | cons a rs ih =>
    obtain ⟨ha, hrs⟩ := List.nodup_cons.mp h
    rcases List.mem_cons.mp hr with rfl | hr
    · simp
    · have hne : a.key ≠ r.key := fun he => ha (he ▸ List.mem_map_of_mem hr)
      rw [List.find?_cons_of_neg (by simpa using hne)]
      exact ih hrs hr

theorem contentEq_iff {a b : Record} : a.contentEq b = true ↔ a.withSeen b.seen = b := by
  cases a
  cases b
  simp only [contentEq, withSeen, Bool.and_eq_true, beq_iff_eq, Record.mk.injEq]
  grind

theorem contentEq_refl (a : Record) : a.contentEq a = true := contentEq_iff.mpr rfl

theorem contentEq_symm {a b : Record} (h : a.contentEq b = true) : b.contentEq a = true := by
  rw [contentEq_iff] at *
  rw [← h]
  rfl

theorem contentEq_trans {a b c : Record} (hab : a.contentEq b = true)
    (hbc : b.contentEq c = true) : a.contentEq c = true := by
  rw [contentEq_iff] at *
  rw [← hbc, ← hab]
  rfl

end Record

end Namebook
