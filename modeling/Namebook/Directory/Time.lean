import Namebook.Directory.Basic

/-!
Time goes on in a directory. What its loops have to do is done at their own moments, one after the
other, and when none has anything left to do at a moment the feeds go on until they wait.
-/

namespace Namebook.Directory

/-- One step of a loop: a scan begins, or it ends and shows what it gave. Being cancelled comes
before everything else, and of the scan that the loop is in nothing is shown. -/
def loopStep (d : Directory) (before : List RefreshLoop) (l : RefreshLoop)
    (after : List RefreshLoop) : Directory :=
  if l.cancelled then { d with loops := before ++ l.stop :: after }
  else match l.stage with
  | .ended => d
  | .resting =>
    { d with
      loops := before ++ l.beginScan d.now d.store.latency :: after
      store := d.store.called }
  | .scanning began _ =>
    { (d.concludeRefresh (d.now - began)).2 with loops := before ++ l.endScan :: after }

/-- The next step of a loop, if it is due before `limit`. -/
def dueStep? (d : Directory) (limit : Nat) : Option Directory :=
  match RefreshLoop.first? d.loops with
  | none => none
  | some (before, l, after) =>
    match l.wake? with
    | none => none
    | some due =>
      if due < limit then some ({ d with now := max d.now due }.loopStep before l after) else none

def loopRank (d : Directory) (limit : Nat) : Nat := RefreshLoop.rankAll limit d.loops

theorem loopRank_loopStep {d : Directory} {before after : List RefreshLoop} {l : RefreshLoop}
    {due limit : Nat} (hloops : d.loops = before ++ l :: after) (hdue : l.wake? = some due)
    (hnow : due ≤ d.now) (hlimit : due < limit) :
    (d.loopStep before l after).loopRank limit < d.loopRank limit := by
  have hrank {k : RefreshLoop} (hk : k.rank limit < l.rank limit) :
      RefreshLoop.rankAll limit (before ++ k :: after) < d.loopRank limit := by
    rw [loopRank, hloops]
    simp only [RefreshLoop.rankAll_append, RefreshLoop.rankAll]
    omega
  unfold loopStep
  cases hc : l.cancelled with
  | true =>
    have hgoes : l.isOver = false := by
      refine Bool.eq_false_iff.mpr fun hover => ?_
      exact Option.some_ne_none due (hdue.symm.trans (RefreshLoop.wake?_of_isOver hover))
    exact hrank (RefreshLoop.rank_stop hgoes limit)
  | false =>
    rw [RefreshLoop.wake?_of_running hc, RefreshLoop.due?] at hdue
    cases hs : l.stage with
    | ended => simp [hs] at hdue
    | resting =>
      rw [hs] at hdue
      obtain rfl := Option.some.inj hdue
      exact hrank (RefreshLoop.rank_beginScan d.store.latency hs hnow hlimit)
    | scanning began ends => exact hrank (RefreshLoop.rank_endScan hs limit)

theorem loopRank_dueStep? {d e : Directory} {limit : Nat} (h : d.dueStep? limit = some e) :
    e.loopRank limit < d.loopRank limit := by
  unfold dueStep? at h
  split at h
  · exact nomatch h
  · rename_i before l after hfirst
    split at h
    · exact nomatch h
    · rename_i due hdue
      split at h
      · rename_i hlimit
        rw [← Option.some.inj h]
        exact loopRank_loopStep (d := { d with now := max d.now due })
          (RefreshLoop.eq_append_of_first? hfirst) hdue (Nat.le_max_right d.now due) hlimit
      · exact nomatch h

/-- Whether no loop has anything left to do at this moment. -/
def areLoopsIdle (d : Directory) : Bool := d.loops.all fun l => l.wake?.all fun due => d.now < due

/-- Does all that is due before `limit`. -/
def elapse (limit : Nat) (d : Directory) : Directory :=
  match _h : d.dueStep? limit with
  | none => d
  | some e => elapse limit (if e.areLoopsIdle then e.settleFeeds else e)
  termination_by d.loopRank limit
  decreasing_by
    have := loopRank_dueStep? _h
    split <;> exact this

/-- Does all that is due now. -/
def settle (d : Directory) : Directory := (d.elapse (d.now + 1)).settleFeeds

/-- Lets milliseconds pass. -/
def advance (d : Directory) (millis : Nat) : Directory :=
  let target := d.now + millis
  ({ d.elapse target with now := target }).settle

/-- Begins a call to the store and waits for its end. What others do at the very moment of its end
comes after it. -/
def awaitStore (d : Directory) : Directory :=
  let target := d.now + d.store.latency
  { ({ d with store := d.store.called }).elapse target with now := target }

/-! What is done to the store. -/

def setStore (d : Directory) (sets : List RecordSet) : Directory :=
  { d with store := { d.store with sets } }

/-- Without a reason the store works again. -/
def failStore (d : Directory) (reason : Option String) : Directory :=
  { d with store := { d.store with failure := reason } }

def delayStore (d : Directory) (millis : Nat) : Directory :=
  { d with store := { d.store with latency := millis } }

/-! What is done to the snapshot. -/

/-- Publishes sets, and gives the generation of their snapshot. -/
def publish (d : Directory) (sets : List RecordSet) : Nat × Directory :=
  let d := d.commit sets
  (d.snapshot.generation, d.settle)

/-- Reads the store and publishes what it gives. -/
def refresh (d : Directory) : Except StoreFailure Nat × Directory :=
  let (result, e) := d.awaitStore.concludeRefresh d.store.latency
  (result, e.settle)

/-- Starts one more loop, which scans at once; when the service is ending the loop does, too. -/
def startLoop (d : Directory) (interval : Nat) : Directory :=
  let l := RefreshLoop.start interval d.now
  { d with loops := d.loops ++ [if d.isStopping then l.cancel else l] }.settle

/-- Cancels all loops, in the midst of a scan if there is one, and all feeds. -/
def shutdown (d : Directory) : Directory :=
  { d with
    isStopping := true
    loops := d.loops.map RefreshLoop.cancel
    feeds := d.feeds.map fun (id, f) => (id, Feed.cancel f) }.settle

/-- Whether all loops have ended, if there ever was one. -/
def areLoopsOver? (d : Directory) : Option Bool :=
  if d.loops.isEmpty then none else some (d.loops.all RefreshLoop.isOver)

end Namebook.Directory
