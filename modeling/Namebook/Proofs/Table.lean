import Mathlib.Data.List.Basic
import Mathlib.Data.String.Basic
import Namebook.Table

/-!
# Reading a table after an insertion

The new pair is found under its key and all others as before, also in a table that is not sorted. In
a sorted one it stands in the place of the older pair with that key. So of all pairs that were put
in under a key the last one is found.
-/

namespace Namebook.Table

variable {α : Type}

theorem lookup_insert_self (key : String) (value : α) (table : List (String × α)) :
    (insert key value table).lookup key = some value := by
  fun_induction insert key value table with
  | case1 => exact List.lookup_cons_self
  | case2 => exact List.lookup_cons_self
  | case3 => exact List.lookup_cons_self
  | case4 k v rest hlt hne ih =>
    rw [List.lookup_cons, beq_false_of_ne hne]
    exact ih

theorem lookup_insert_of_ne {key other : String} (h : other ≠ key) (value : α)
    (table : List (String × α)) : (insert key value table).lookup other = table.lookup other := by
  have hother : (other == key) = false := beq_false_of_ne h
  fun_induction insert key value table with
  | case1 =>
    rw [List.lookup_cons, hother]
  | case2 k v rest hlt =>
    rw [List.lookup_cons, hother]
  | case3 v rest hlt =>
    rw [List.lookup_cons, List.lookup_cons, hother]
  | case4 k v rest hlt hne ih =>
    rw [List.lookup_cons, List.lookup_cons, ih]

theorem lookup_insert (key other : String) (value : α) (table : List (String × α)) :
    (insert key value table).lookup other =
      ([(key, value)].lookup other).or (table.lookup other) := by
  by_cases h : other = key
  · subst h
    rw [lookup_insert_self, List.lookup_cons_self, Option.some_or]
  · rw [lookup_insert_of_ne h, List.lookup_cons, beq_false_of_ne h, List.lookup_nil, Option.none_or]

/-- What is found under a key only depends on what was found there before the insertion. -/
theorem lookup_insert_congr {table table' : List (String × α)} {other : String}
    (h : table'.lookup other = table.lookup other) (key : String) (value : α) :
    (insert key value table').lookup other = (insert key value table).lookup other := by
  rw [lookup_insert, lookup_insert, h]

theorem lookup_map (f : α → α) (table : List (String × α)) (key : String) :
    (table.map fun (k, value) => (k, f value)).lookup key = (table.lookup key).map f := by
  induction table with
  | nil => rfl
  | cons p table ih =>
    rw [List.map_cons, List.lookup_cons, List.lookup_cons]
    cases key == p.1 with
    | true => rfl
    | false => exact ih

theorem mem_of_lookup {key : String} {value : α} {table : List (String × α)}
    (h : table.lookup key = some value) : (key, value) ∈ table := by
  obtain ⟨before, after, rfl, -⟩ := List.lookup_eq_some_iff.mp h
  exact List.mem_append_right before List.mem_cons_self

theorem mem_insert {key : String} {value : α} {table : List (String × α)} {p : String × α}
    (h : p ∈ insert key value table) : p = (key, value) ∨ p ∈ table := by
  fun_induction insert key value table with
  | case1 => exact .inl (List.mem_singleton.mp h)
  | case2 k v rest hlt => exact List.mem_cons.mp h
  | case3 v rest hlt =>
    rcases List.mem_cons.mp h with rfl | hp
    · exact .inl rfl
    · exact .inr (List.mem_cons_of_mem _ hp)
  | case4 k v rest hlt hne ih =>
    rcases List.mem_cons.mp h with rfl | hp
    · exact .inr List.mem_cons_self
    · exact (ih hp).imp_right (List.mem_cons_of_mem _)

/-- Puts in one pair after the other. -/
def insertAll (pairs table : List (String × α)) : List (String × α) :=
  pairs.foldl (fun table p => insert p.1 p.2 table) table

theorem lookup_insertAll (pairs table : List (String × α)) (key : String) :
    (insertAll pairs table).lookup key = (pairs.reverse.lookup key).or (table.lookup key) := by
  unfold insertAll
  induction pairs generalizing table with
  | nil => rw [List.foldl_nil, List.reverse_nil, List.lookup_nil, Option.none_or]
  | cons p pairs ih =>
    rw [List.foldl_cons, ih, lookup_insert, List.reverse_cons, List.lookup_append, Option.or_assoc]

/-- Of all pairs that are put in under a key, the last one is found. -/
theorem lookup_insertAll_eq_some_iff {pairs : List (String × α)} {key : String} {value : α} :
    (insertAll pairs []).lookup key = some value ↔
      ∃ before after, pairs = before ++ (key, value) :: after ∧ ∀ p ∈ after, p.1 ≠ key := by
  rw [lookup_insertAll, List.lookup_nil, Option.or_none, List.lookup_eq_some_iff]
  constructor
  · rintro ⟨after, before, he, hafter⟩
    refine ⟨before.reverse, after.reverse, ?_, fun p hp => ?_⟩
    · rw [← List.reverse_reverse pairs, he]
      simp
    · exact Ne.symm (bne_iff_ne.mp (hafter p (List.mem_reverse.mp hp)))
  · rintro ⟨before, after, rfl, hafter⟩
    refine ⟨after.reverse, before.reverse, by simp, fun p hp => ?_⟩
    exact bne_iff_ne.mpr (Ne.symm (hafter p (List.mem_reverse.mp hp)))

/-- The keys of a table, each after the one before, so that none comes twice. -/
def IsSorted (table : List (String × α)) : Prop := (table.map Prod.fst).Pairwise (· < ·)

theorem mem_keys_insert {key other : String} {value : α} {table : List (String × α)}
    (h : other ∈ (insert key value table).map Prod.fst) :
    other = key ∨ other ∈ table.map Prod.fst := by
  obtain ⟨p, hp, rfl⟩ := List.mem_map.mp h
  rcases mem_insert hp with rfl | hold
  · exact .inl rfl
  · exact .inr (List.mem_map_of_mem hold)

theorem isSorted_insert {table : List (String × α)} (h : IsSorted table) (key : String)
    (value : α) : IsSorted (insert key value table) := by
  unfold IsSorted at *
  fun_induction insert key value table with
  | case1 => exact List.pairwise_singleton _ _
  | case2 k v rest hlt =>
    refine List.pairwise_cons.mpr ⟨fun other hother => ?_, h⟩
    rcases List.mem_cons.mp hother with rfl | hrest
    · exact hlt
    · exact String.lt_trans hlt ((List.pairwise_cons.mp h).1 other hrest)
  | case3 v rest hlt => exact h
  | case4 k v rest hlt hne ih =>
    obtain ⟨hk, hrest⟩ := List.pairwise_cons.mp h
    refine List.pairwise_cons.mpr ⟨fun other hother => ?_, ih hrest⟩
    rcases mem_keys_insert hother with rfl | hold
    · exact lt_of_le_of_ne (String.not_lt.mp hlt) (Ne.symm hne)
    · exact hk other hold

variable {before after : List (String × α)} {key : String} {value : α}

theorem ne_of_isSorted (h : IsSorted (before ++ (key, value) :: after)) :
    ∀ p ∈ before, p.1 < key := by
  intro p hp
  unfold IsSorted at h
  rw [List.map_append, List.map_cons, List.pairwise_append] at h
  exact h.2.2 p.1 (List.mem_map_of_mem hp) key List.mem_cons_self

theorem lookup_of_isSorted (h : IsSorted (before ++ (key, value) :: after)) :
    (before ++ (key, value) :: after).lookup key = some value := by
  refine List.lookup_eq_some_iff.mpr ⟨before, after, rfl, fun p hp => ?_⟩
  exact bne_iff_ne.mpr (ne_of_gt (ne_of_isSorted h p hp))

theorem insert_of_isSorted (h : IsSorted (before ++ (key, value) :: after)) (newer : α) :
    insert key newer (before ++ (key, value) :: after) = before ++ (key, newer) :: after := by
  have hbefore := ne_of_isSorted h
  clear h
  induction before with
  | nil => rw [List.nil_append, insert, if_neg (String.lt_irrefl key), if_pos rfl, List.nil_append]
  | cons p before ih =>
    obtain ⟨k, v⟩ := p
    have hlt : k < key := hbefore (k, v) List.mem_cons_self
    rw [List.cons_append, insert, if_neg (not_lt_of_gt hlt), if_neg (ne_of_gt hlt),
      ih fun q hq => hbefore q (List.mem_cons_of_mem _ hq), List.cons_append]

/-- In a sorted table a pair comes into the place of the one with its key, if there is one. -/
theorem exists_split_of_isSorted {table : List (String × α)} (h : IsSorted table) (key : String)
    (value : α) :
    ∃ before after, insert key value table = before ++ (key, value) :: after ∧
      table = before ++ (table.lookup key).toList.map (key, ·) ++ after := by
  cases hl : table.lookup key with
  | some old =>
    obtain ⟨before, after, rfl, -⟩ := List.lookup_eq_some_iff.mp hl
    exact ⟨before, after, insert_of_isSorted h value, by simp⟩
  | none =>
    clear h
    fun_induction insert key value table with
    | case1 => exact ⟨[], [], rfl, rfl⟩
    | case2 k v rest hlt => exact ⟨[], (k, v) :: rest, rfl, rfl⟩
    | case3 v rest hlt => simp at hl
    | case4 k v rest hlt hne ih =>
      rw [List.lookup_cons, beq_false_of_ne hne] at hl
      obtain ⟨before, after, hinsert, htable⟩ := ih hl
      exact ⟨(k, v) :: before, after, congrArg _ hinsert, congrArg _ htable⟩

/-- How many values are counted after an insertion, against those before. -/
theorem countP_insert {table : List (String × α)} (h : IsSorted table) (p : α → Bool) (key : String)
    (value : α) :
    (insert key value table).countP (fun q => p q.2) + ((table.lookup key).any p).toNat =
      table.countP (fun q => p q.2) + (p value).toNat := by
  obtain ⟨before, after, hinsert, htable⟩ := exists_split_of_isSorted h key value
  rw [hinsert]
  conv_rhs => rw [htable]
  simp only [List.countP_append, List.countP_cons]
  cases table.lookup key with
  | none =>
    cases p value with
    | true => simp; omega
    | false => simp
  | some old =>
    cases ho : p old with
    | true => cases p value <;> simp [ho] <;> omega
    | false => cases p value <;> simp [ho]; omega

end Namebook.Table
