/-!
The pace of repeated scans. A scan begins at every deadline, or as soon as the scan before it has
ended; after a late beginning the next deadline is a whole interval away. Times are milliseconds.
-/

namespace Namebook

inductive LoopStage where
  /-- Until the deadline. -/
  | resting
  | scanning (began ends : Nat)
  | ended
  deriving DecidableEq, Repr

structure RefreshLoop where
  interval : Nat
  /-- When the next scan is due. -/
  deadline : Nat
  stage : LoopStage
  cancelled : Bool
  interval_pos : 0 < interval

namespace RefreshLoop

/-- The first scan is due at once. Without an interval there is no loop. -/
def start (interval now : Nat) : RefreshLoop :=
  if h : 0 < interval then ⟨interval, now, .resting, false, h⟩
  else ⟨1, now, .ended, false, by decide⟩

/-- How late a scan may begin and still count as punctual. -/
def tolerance : Nat := 5

/-- The deadline after one that was met at `now`. -/
def deadlineAfter (interval deadline now : Nat) : Nat :=
  if now ≤ deadline + tolerance then deadline + interval else now + interval

/-- What the loop waits for: its deadline, or the end of its scan. -/
def due? (l : RefreshLoop) : Option Nat :=
  match l.stage with
  | .resting => some l.deadline
  | .scanning _ ends => some ends
  | .ended => none

/-- When the loop goes on. Being cancelled it does so at once. -/
def wake? (l : RefreshLoop) : Option Nat := if l.cancelled then l.due?.map fun _ => 0 else l.due?

theorem wake?_of_running {l : RefreshLoop} (h : l.cancelled = false) : l.wake? = l.due? := by
  rw [wake?, h]
  rfl

/-- A scan begins that will take so long. -/
def beginScan (l : RefreshLoop) (now latency : Nat) : RefreshLoop :=
  { l with
    deadline := deadlineAfter l.interval l.deadline now
    stage := .scanning now (now + latency) }

def endScan (l : RefreshLoop) : RefreshLoop := { l with stage := .resting }

def cancel (l : RefreshLoop) : RefreshLoop := { l with cancelled := true }

/-- Ends the loop, with the scan that it is in. -/
def stop (l : RefreshLoop) : RefreshLoop := { l with stage := .ended }

def isOver (l : RefreshLoop) : Bool := l.stage = .ended

theorem wake?_of_isOver {l : RefreshLoop} (h : l.isOver = true) : l.wake? = none := by
  have hdue : l.due? = none := by
    unfold due?
    rw [of_decide_eq_true h]
  rw [wake?, hdue]
  exact ite_self none

theorem wake?_of_cancelled {l : RefreshLoop} (h : l.cancelled = true) (hgoes : l.isOver = false) :
    l.wake? = some 0 := by
  unfold isOver at hgoes
  rw [wake?, if_pos h, due?]
  cases hs : l.stage with
  | ended => simp [hs] at hgoes
  | _ => rfl

theorem lt_deadline_beginScan (l : RefreshLoop) (now latency : Nat)
    (h : l.deadline ≤ now) : l.deadline < (l.beginScan now latency).deadline := by
  have := l.interval_pos
  simp only [beginScan, deadlineAfter]
  split <;> omega

/-- How far the loop is from `limit`: its deadline comes nearer, a scan comes to an end, and so may
the loop. -/
def rank (limit : Nat) (l : RefreshLoop) : Nat :=
  match l.stage with
  | .ended => 0
  | .resting => 2 * (limit - l.deadline) + 1
  | .scanning .. => 2 * (limit - l.deadline) + 2

theorem rank_beginScan {l : RefreshLoop} {now limit : Nat} (latency : Nat)
    (hrest : l.stage = .resting) (h : l.deadline ≤ now) (hl : l.deadline < limit) :
    (l.beginScan now latency).rank limit < l.rank limit := by
  have := l.lt_deadline_beginScan now latency h
  simp only [rank, hrest]
  simp only [beginScan] at *
  omega

theorem rank_endScan {l : RefreshLoop} {began ends : Nat} (h : l.stage = .scanning began ends)
    (limit : Nat) : l.endScan.rank limit < l.rank limit := by
  simp [rank, endScan, h]

theorem rank_stop {l : RefreshLoop} (h : l.isOver = false) (limit : Nat) :
    l.stop.rank limit < l.rank limit := by
  unfold isOver at h
  unfold rank stop
  cases hs : l.stage with
  | ended => simp [hs] at h
  | _ => simp

def rankAll (limit : Nat) : List RefreshLoop → Nat
  | [] => 0
  | l :: loops => l.rank limit + rankAll limit loops

@[simp] theorem rankAll_append (limit : Nat) (before after : List RefreshLoop) :
    rankAll limit (before ++ after) = rankAll limit before + rankAll limit after := by
  induction before with
  | nil => simp [rankAll]
  | cons l before ih => rw [List.cons_append, rankAll, rankAll, ih, Nat.add_assoc]

/-- The loop that goes on first, between the loops before and after it. -/
def first? (loops : List RefreshLoop) :
    Option (List RefreshLoop × RefreshLoop × List RefreshLoop) :=
  let due := (loops.filterMap wake?).min?
  let isFirst := fun (l : RefreshLoop) => l.wake? = due && due.isSome
  match loops.dropWhile fun l => !isFirst l with
  | [] => none
  | l :: after => some (loops.takeWhile fun l => !isFirst l, l, after)

theorem eq_append_of_first? {loops before after : List RefreshLoop} {l : RefreshLoop}
    (h : first? loops = some (before, l, after)) : loops = before ++ l :: after := by
  unfold first? at h
  dsimp only at h
  split at h
  · simp at h
  · rename_i hd
    simp only [Option.some.injEq, Prod.mk.injEq] at h
    obtain ⟨rfl, rfl, rfl⟩ := h
    rw [← hd, List.takeWhile_append_dropWhile]

end RefreshLoop

end Namebook
