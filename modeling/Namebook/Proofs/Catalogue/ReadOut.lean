import Mathlib.Algebra.GroupWithZero.Nat
import Mathlib.Data.String.Basic
import Namebook.Proofs.Catalogue.Stored

/-!
# What is read out of a catalogue

The names of a catalogue are all different. So its records have one strict order by name, and any
list of the same records in this order is the same list. This makes all ways to read a catalogue
agree, in whatever order they meet its records.
-/

namespace Namebook

namespace Catalogue

variable {rs xs : List Record} {c : Catalogue}

/-! ## Sorting by name -/

theorem nameLe_iff (a b : Record) : nameLe a b = true ↔ a.name ≤ b.name := by
  simp only [nameLe, Bool.not_eq_eq_eq_not, Bool.not_true, decide_eq_false_iff_not, String.not_lt]

theorem perm_sorted (rs : List Record) : (sorted rs).Perm rs := List.mergeSort_perm rs nameLe

/-- Records of different names are in strict order once they are sorted. -/
theorem pairwise_sorted (h : (rs.map Record.name).Nodup) :
    (sorted rs).Pairwise fun a b => a.name < b.name := by
  apply pairwise_mergeSort_of_nodup _ _ _ h
  · intro a b c hab hbc
    rw [nameLe_iff] at *
    exact String.le_trans hab hbc
  · intro a b
    rw [Bool.or_eq_true, nameLe_iff, nameLe_iff]
    exact String.le_total a.name b.name
  · intro a b hab hne
    exact lt_of_le_of_ne ((nameLe_iff a b).mp hab) hne

/-- The records stand in no other strict order. -/
theorem eq_sorted (hperm : xs.Perm rs) (hx : xs.Pairwise fun a b => a.name < b.name) :
    xs = sorted rs := by
  have hnames : (xs.map Record.name).Nodup :=
    List.pairwise_map.mpr (hx.imp fun hlt => ne_of_lt hlt)
  have hrs : (rs.map Record.name).Nodup := (hperm.map Record.name).nodup_iff.mp hnames
  apply List.Perm.eq_of_pairwise _ hx (pairwise_sorted hrs) (hperm.trans (perm_sorted rs).symm)
  exact fun a b _ _ hab hba => absurd hba (lt_asymm hab)

theorem sorted_eq_of_perm (h : (rs.map Record.name).Nodup) (hperm : xs.Perm rs) :
    sorted xs = sorted rs :=
  eq_sorted ((perm_sorted xs).trans hperm)
    (pairwise_sorted ((hperm.map Record.name).nodup_iff.mpr h))

theorem sorted_filter (h : (rs.map Record.name).Nodup) (p : Record → Bool) :
    sorted (rs.filter p) = (sorted rs).filter p :=
  (eq_sorted ((perm_sorted rs).filter p) ((pairwise_sorted h).filter p)).symm

@[simp] theorem isEmpty_sorted (rs : List Record) : (sorted rs).isEmpty = rs.isEmpty := by
  rw [Bool.eq_iff_iff, List.isEmpty_iff_length_eq_zero, List.isEmpty_iff_length_eq_zero,
    (perm_sorted rs).length_eq]

/-! ## One walk over the records -/

/-- Files a record at the end of the list of its provenance. The manual ones are kept in front. -/
def file (r : Record) : List (Provenance × List Record) → List (Provenance × List Record)
  | [] => [(r.provenance, [r])]
  | (p, rs) :: rest =>
    if p = r.provenance then (p, rs ++ [r]) :: rest
    else if r.provenance = .manual then (r.provenance, [r]) :: (p, rs) :: rest
    else (p, rs) :: file r rest

/-- What has been filed at the end of a walk. -/
def filed (order : List Record) : List (Provenance × List Record) :=
  order.foldl (fun partitions r => file r partitions) []

/-- The records of each provenance that has any. -/
theorem filed_eq (order : List Record) :
    filed order =
      ([.manual, .discovered].map fun p => (p, order.filter fun r => r.provenance == p)).filter
        fun part => !part.2.isEmpty := by
  induction order using List.reverseRecOn with
  | nil => rfl
  | append_singleton order r ih =>
    have hstep : filed (order ++ [r]) = file r (filed order) := by simp [filed]
    rw [hstep, ih]
    simp only [List.filter_append, List.map_cons, List.map_nil]
    -- Whether either provenance has been met before decides where the record goes.
    cases hr : r.provenance <;> cases order.filter (fun r => r.provenance == .manual) <;>
      cases order.filter (fun r => r.provenance == .discovered) <;> simp [file, hr]

/-- Each partition is sorted by itself in the end. -/
def walk (order : List Record) : List (Provenance × List Record) :=
  (filed order).map fun part => (part.1, sorted part.2)

theorem walk_records (c : Catalogue) : walk c.records = c.byProvenance := by
  have hkept : (fun part : Provenance × List Record => !part.2.isEmpty) ∘
      (fun part : Provenance × List Record => (part.1, sorted part.2)) =
        fun part => !part.2.isEmpty := by
    funext part
    simp
  rw [walk, filed_eq, ← hkept, ← List.filter_map, List.map_map]
  rfl

/-! ## Readings -/

/-- All that is read out of two catalogues is the same. -/
structure SameReadings (c d : Catalogue) : Prop where
  all : c.all = d.all
  ofProvenance : ∀ p, c.ofProvenance p = d.ofProvenance p
  byProvenance : c.byProvenance = d.byProvenance
  size : c.size = d.size

theorem sameReadings_of_perm {c d : Catalogue} (h : (d.records.map Record.name).Nodup)
    (hperm : c.records.Perm d.records) : SameReadings c d := by
  have hpart (p : Provenance) : c.ofProvenance p = d.ofProvenance p :=
    sorted_eq_of_perm (h.sublist (List.filter_sublist.map Record.name)) (hperm.filter _)
  exact ⟨sorted_eq_of_perm h hperm, hpart, by simp only [byProvenance, hpart], hperm.length_eq⟩

theorem addTo_of_notMem {r : Record} (h : r.name ∉ rs.map Record.name) :
    addTo r rs = rs ++ [r] := by
  induction rs with
  | nil => rfl
  | cons x rs ih =>
    rw [List.map_cons, List.mem_cons, not_or] at h
    rw [addTo, if_neg (Ne.symm h.1), ih h.2, List.cons_append]

/-- Where no two records share a name, none is merged. -/
theorem records_ofList (h : (rs.map Record.name).Nodup) : (ofList rs).records = rs := by
  induction rs using List.reverseRecOn with
  | nil => rfl
  | append_singleton rs r ih =>
    rw [List.map_append, List.map_singleton, List.nodup_append] at h
    have hnew : r.name ∉ rs.map Record.name := fun hr => h.2.2 _ hr _ List.mem_cons_self rfl
    rw [records_ofList_concat, ih h.1, addTo_of_notMem hnew]

/-! ## Partitions -/

theorem lookup_byProvenance (c : Catalogue) (p : Provenance) :
    c.byProvenance.lookup p =
      if c.ofProvenance p = [] then none else some (c.ofProvenance p) := by
  simp only [byProvenance, List.map_cons, List.map_nil]
  cases p <;> cases c.ofProvenance .manual <;> cases c.ofProvenance .discovered <;> rfl

theorem flatMap_byProvenance (c : Catalogue) :
    c.byProvenance.flatMap Prod.snd = c.ofProvenance .manual ++ c.ofProvenance .discovered := by
  simp only [byProvenance, List.map_cons, List.map_nil]
  cases c.ofProvenance .manual <;> cases c.ofProvenance .discovered <;> simp

/-- The partitions have every record once. -/
theorem perm_byProvenance (c : Catalogue) :
    (c.byProvenance.flatMap Prod.snd).Perm c.records := by
  have hnot : (fun r : Record => r.provenance == .discovered) =
      fun r => !(r.provenance == .manual) := by
    funext r
    cases r.provenance <;> rfl
  rw [flatMap_byProvenance]
  apply ((perm_sorted _).append (perm_sorted _)).trans
  rw [hnot]
  exact List.filter_append_perm _ c.records

/-- All readings of a catalogue agree, in whatever order records were added and are met. The records
of all names are those that are stored, strictly by name; those of a provenance are the ones among
them that have it. A provenance has a partition if it has any record, which is its records in this
order, and manual comes before discovered. No two partitions have a name in common, and together
they have all records. The order in which a walk meets what is stored does not matter, nor that in
which records came in as long as they have different names. -/
theorem readings_agree (rs : List Record) :
    let c := ofList rs
    (c.all.Pairwise fun a b => a.name < b.name) ∧ c.all.Perm c.records ∧
      (∀ r, r ∈ c.all ↔ c.find? r.name = some r) ∧
      (∀ p, c.ofProvenance p = c.all.filter fun r => r.provenance = p) ∧
      (∀ p, c.byProvenance.lookup p =
        if c.ofProvenance p = [] then none else some (c.ofProvenance p)) ∧
      (c.byProvenance.map Prod.fst).Sublist [.manual, .discovered] ∧
      (c.byProvenance.Pairwise fun a b => (a.2.map Record.name).Disjoint (b.2.map Record.name)) ∧
      (c.byProvenance.map fun part => part.2.length).sum = c.size ∧
      (∀ order : List Record, order.Perm c.records →
        SameReadings ⟨order⟩ c ∧ walk order = c.byProvenance) ∧
      ((rs.map Record.name).Nodup → ∀ others : List Record, others.Perm rs →
        SameReadings (ofList others) c) := by
  intro c
  have hnames : (c.records.map Record.name).Nodup := nodup_names_ofList rs
  have hall : c.all.Perm c.records := perm_sorted c.records
  have hparts : (c.byProvenance.flatMap Prod.snd).Perm c.records := perm_byProvenance c
  refine ⟨pairwise_sorted hnames, hall, fun r => ?stored, fun p => sorted_filter hnames _,
    lookup_byProvenance c, List.filter_sublist.map Prod.fst, ?disjoint, ?together, ?met, ?added⟩
  case stored =>
    rw [hall.mem_iff]
    exact ⟨find?_of_mem hnames, List.mem_of_find?_eq_some⟩
  case disjoint =>
    have hnodup : ((c.byProvenance.flatMap Prod.snd).map Record.name).Nodup :=
      (hparts.map Record.name).nodup_iff.mpr hnames
    rw [List.map_flatMap] at hnodup
    exact (List.nodup_flatMap.mp hnodup).2
  case together =>
    rw [← List.length_flatMap]
    exact hparts.length_eq
  case met =>
    intro order horder
    have hsame : SameReadings ⟨order⟩ c := sameReadings_of_perm hnames horder
    exact ⟨hsame, (walk_records ⟨order⟩).trans hsame.byProvenance⟩
  case added =>
    intro hdistinct others hothers
    have hnodup : (others.map Record.name).Nodup :=
      (hothers.map Record.name).nodup_iff.mpr hdistinct
    apply sameReadings_of_perm hnames
    rw [records_ofList hnodup, records_ofList hdistinct]
    exact hothers

/-- Three names, added and met in both directions. -/
theorem readings_agree_reversed :
    let rs := [Record.named "b" .discovered .epoch, Record.named "C" .manual .epoch,
      Record.named "a" .manual .epoch]
    (rs.map Record.name).Nodup ∧ rs.reverse.Perm rs ∧
      SameReadings (ofList rs.reverse) (ofList rs) ∧
      walk (ofList rs).records.reverse = (ofList rs).byProvenance := by
  intro rs
  have hdistinct : (rs.map Record.name).Nodup := by decide
  obtain ⟨-, -, -, -, -, -, -, -, hmet, hadded⟩ := readings_agree rs
  exact ⟨hdistinct, rs.reverse_perm, hadded hdistinct rs.reverse rs.reverse_perm,
    (hmet _ (List.reverse_perm _)).2⟩

end Catalogue

end Namebook
