import Namebook.Metrics.Basic
import Namebook.Proofs.Table
import Namebook.Record

/-!
# What counters count

A counter rises by one with every happening of its kind and with no other, so after any happenings
it has risen by the number of those. The gauges show what the last refresh set them to.
-/

namespace Namebook

theorem Table.lookup_change {α : Type} (key : String) (initial : α) (f : α → α)
    (table : List (String × α)) (other : String) :
    (change key initial f table).lookup other =
      if other = key then some (f ((table.lookup key).getD initial)) else table.lookup other := by
  unfold change
  by_cases h : other = key
  · rw [if_pos h, h, lookup_insert_self]
  · rw [if_neg h, lookup_insert_of_ne h]

namespace Happening

def isSuccess : Happening → Bool
  | refreshed .. => true
  | _ => false

def isFailure : Happening → Bool
  | refreshFailed _ => true
  | _ => false

def isOpening : Happening → Bool
  | streamOpened => true
  | _ => false

def isClosing : Happening → Bool
  | streamClosed => true
  | _ => false

/-- What a refresh shows of its snapshot: the generation and the number of records. -/
def gauges? : Happening → Option (Nat × Nat)
  | refreshed _ records generation => some (generation, records)
  | _ => none

def consistency? : Happening → Option String
  | listed consistency => some consistency
  | _ => none

def checkStatus? : Happening → Option String
  | checked status => some status
  | _ => none

def eventKind? : Happening → Option String
  | streamEvent kind => some kind
  | _ => none

end Happening

namespace Metrics

theorem countOf_bump (label other : String) (table : List (String × Nat)) :
    countOf label (bump other table) = countOf label table + (other == label).toNat := by
  unfold countOf bump
  rw [Table.lookup_change]
  by_cases h : label = other
  · simp [h]
  · simp [h, beq_false_of_ne (Ne.symm h)]

/-- How many refreshes ended in each way. -/
def refreshCounts (m : Metrics) : List (String × Nat) :=
  m.refreshes.map fun (status, millis) => (status, millis.length)

theorem countOf_refreshCounts (label : String) (m : Metrics) :
    countOf label m.refreshCounts = ((m.refreshes.lookup label).getD []).length := by
  unfold countOf refreshCounts
  induction m.refreshes with
  | nil => rfl
  | cons p table ih =>
    rw [List.map_cons, List.lookup_cons, List.lookup_cons]
    cases label == p.1 with
    | true => rfl
    | false => exact ih

theorem length_observe (label other : String) (millis : Nat) (table : List (String × List Nat)) :
    (((observe other millis table).lookup label).getD []).length =
      ((table.lookup label).getD []).length + (other == label).toNat := by
  unfold observe
  rw [Table.lookup_change]
  by_cases h : label = other
  · simp [h]
  · simp [h, beq_false_of_ne (Ne.symm h)]

/-! ## Counters -/

/-- The counter rises with the happenings of a kind and no others. -/
def Counts (counter : Metrics → Nat) (kind : Happening → Bool) : Prop :=
  ∀ m n, counter (note m n) = counter m + (kind n).toNat

theorem Counts.noteAll {counter : Metrics → Nat} {kind : Happening → Bool} (h : Counts counter kind)
    (m : Metrics) (happenings : List Happening) :
    counter (m.noteAll happenings) = counter m + happenings.countP kind := by
  induction happenings generalizing m with
  | nil => rfl
  | cons n happenings ih =>
    change counter ((m.note n).noteAll happenings) = _
    rw [ih, h, List.countP_cons]
    cases kind n with
    | true => simp only [Bool.toNat_true, if_true]; omega
    | false => rfl

/-- Two counters of happenings that are never the same, taken together. -/
theorem Counts.add {counter counter' : Metrics → Nat} {kind kind' : Happening → Bool}
    (h : Counts counter kind) (h' : Counts counter' kind')
    (hexclusive : ∀ n, kind n = true → kind' n = false) :
    Counts (fun m => counter m + counter' m) fun n => kind n || kind' n := by
  intro m n
  have hsum : (kind n).toNat + (kind' n).toNat = (kind n || kind' n).toNat := by
    cases hn : kind n with
    | true => rw [hexclusive n hn, Bool.true_or]; rfl
    | false => rw [Bool.false_or, Bool.toNat_false, Nat.zero_add]
  simp only [h m n, h' m n, ← hsum]
  omega

theorem counts_successes :
    Counts (fun m => countOf success m.refreshCounts) Happening.isSuccess := by
  intro m n
  simp only [countOf_refreshCounts]
  cases n with
  | refreshed millis records generation => exact length_observe success success millis m.refreshes
  | refreshFailed millis => exact length_observe success failure millis m.refreshes
  | _ => rfl

theorem counts_failures :
    Counts (fun m => countOf failure m.refreshCounts) Happening.isFailure := by
  intro m n
  simp only [countOf_refreshCounts]
  cases n with
  | refreshed millis records generation => exact length_observe failure success millis m.refreshes
  | refreshFailed millis => exact length_observe failure failure millis m.refreshes
  | _ => rfl

theorem counts_lists (consistency : String) :
    Counts (fun m => countOf consistency m.lists) (·.consistency? == some consistency) := by
  intro m n
  cases n with
  | listed other => exact countOf_bump consistency other m.lists
  | _ => rfl

theorem counts_checks (status : String) :
    Counts (fun m => countOf status m.checks) (·.checkStatus? == some status) := by
  intro m n
  cases n with
  | checked other => exact countOf_bump status other m.checks
  | _ => rfl

theorem counts_streamEvents (kind : String) :
    Counts (fun m => countOf kind m.streamEvents) (·.eventKind? == some kind) := by
  intro m n
  cases n with
  | streamEvent other => exact countOf_bump kind other m.streamEvents
  | _ => rfl

/-! ## Labels together -/

theorem beq_of_label_ne {label other : String} (hne : label ≠ other) {said : Option String}
    (h : (said == some label) = true) : (said == some other) = false := by
  rw [beq_iff_eq.mp h]
  simpa using hne

theorem counts_allLists :
    Counts (fun m => countOf live m.lists + countOf cached m.lists)
      fun n => n.consistency? == some live || n.consistency? == some cached :=
  (counts_lists live).add (counts_lists cached) fun _ => beq_of_label_ne (by decide)

theorem counts_allChecks :
    Counts (fun m => countOf SyncStatus.sync.word m.checks +
        countOf SyncStatus.notSync.word m.checks + countOf SyncStatus.notAvailable.word m.checks)
      fun n => (n.checkStatus? == some SyncStatus.sync.word ||
        n.checkStatus? == some SyncStatus.notSync.word) ||
          n.checkStatus? == some SyncStatus.notAvailable.word := by
  refine ((counts_checks _).add (counts_checks _) ?_).add (counts_checks _) ?_
  · exact fun n => beq_of_label_ne (by decide)
  · intro n h
    rcases (Bool.or_eq_true _ _).mp h with h | h
    · exact beq_of_label_ne (by decide) h
    · exact beq_of_label_ne (by decide) h

/-! ## Gauges -/

theorem streams_noteAll (m : Metrics) (happenings : List Happening) :
    (m.noteAll happenings).streams =
      m.streams + happenings.countP Happening.isOpening -
        happenings.countP Happening.isClosing := by
  induction happenings generalizing m with
  | nil => simp [noteAll]
  | cons n happenings ih =>
    change ((m.note n).noteAll happenings).streams = _
    rw [ih, List.countP_cons, List.countP_cons]
    cases n with
    | streamOpened => simp [note, Happening.isOpening, Happening.isClosing]; omega
    | streamClosed => simp [note, Happening.isOpening, Happening.isClosing]; omega
    | _ => rfl

/-- The generation and the number of records that are shown for the snapshot. -/
def gauges (m : Metrics) : Nat × Nat := (m.generation, m.records)

theorem gauges_noteAll (m : Metrics) (happenings : List Happening) :
    (m.noteAll happenings).gauges =
      (happenings.filterMap Happening.gauges?).getLast?.getD m.gauges := by
  induction happenings generalizing m with
  | nil => rfl
  | cons n happenings ih =>
    change ((m.note n).noteAll happenings).gauges = _
    rw [ih]
    cases n with
    | refreshed millis records generation =>
      rw [List.filterMap_cons, Happening.gauges?, List.getLast?_cons]
      rfl
    | _ => rfl

end Metrics

end Namebook
