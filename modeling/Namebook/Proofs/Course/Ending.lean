import Namebook.Proofs.Course.Step
import Namebook.Proofs.Table

/-!
# The end of a course

Once nobody holds the snapshots and no call, loop or feed goes on, none will begin again, and the
snapshot stays what it is.
-/

namespace Namebook

namespace Feed

theorem isFinished_takeFrom {f : Feed} (h : f.isFinished = true) :
    (Course.takeFrom f).2.1.isFinished = true := by
  unfold Course.takeFrom take?
  split
  · cases f.queue with
    | nil => exact h
    | cons c queue => exact h
  · exact h

theorem isFinished_produceIn {f : Feed} (h : f.isFinished = true) (current : Snapshot) :
    (Course.produceIn current f).2.1.isFinished = true := by
  have hs : f.step? current = none := by
    unfold step?
    rw [of_decide_eq_true h]
  unfold Course.produceIn
  rw [hs]
  exact h

end Feed

namespace Course

variable {w : Course}

/-- Calls are only made by those who hold the snapshots, and hold them until their end. -/
def IsHeldByCalls (w : Course) : Prop := w.calls ≠ [] → w.directory.isHeld = true

/-- Nobody is left who could bring another snapshot. -/
structure IsOver (w : Course) : Prop where
  released : w.directory.isHeld = false
  calls : w.calls = []
  loops : ∀ l ∈ w.directory.loops, l.isOver = true
  feeds : ∀ p ∈ w.directory.feeds, p.2.isFinished = true

theorem isOver_of_isAlive (hc : w.IsHeldByCalls) (h : w.directory.isAlive = false) : w.IsOver := by
  simp only [Directory.isAlive, Bool.or_eq_false_iff, List.any_eq_false, Bool.not_eq_true,
    Bool.not_eq_false'] at h
  obtain ⟨⟨hheld, hfeeds⟩, hloops⟩ := h
  refine ⟨hheld, ?_, hloops, hfeeds⟩
  by_contra hcalls
  rw [hc hcalls] at hheld
  exact nomatch hheld

theorem isAlive_of_isOver (h : w.IsOver) : w.directory.isAlive = false := by
  simp only [Directory.isAlive, Bool.or_eq_false_iff, List.any_eq_false, Bool.not_eq_true,
    Bool.not_eq_false']
  exact ⟨⟨h.released, h.feeds⟩, h.loops⟩

theorem isHeldByCalls_act (h : w.IsHeldByCalls) (m : Deed) : (w.act m).2.IsHeldByCalls := by
  intro hcalls
  rcases (w.touches_act m).isHeld with hsame | ⟨-, hnone⟩
  · rw [hsame]
    exact ((w.touches_act m).calls hcalls).elim h id
  · exact absurd hnone hcalls

/-- It is over, and the snapshot is as it was. -/
def StaysOver (w : Course) (result : Answer × Course) : Prop :=
  result.2.IsOver ∧ result.2.directory.snapshot = w.directory.snapshot

theorem staysOver_impossible (h : w.IsOver) : w.StaysOver (.impossible, w) := ⟨h, rfl⟩

theorem staysOver_holding (h : w.IsOver) (result : Answer × Course) :
    w.StaysOver (w.holding result) :=
  holding_cases (staysOver_impossible h) fun hheld =>
    absurd hheld (Bool.eq_false_iff.mp h.released)

theorem staysOver_inFeed (h : w.IsOver) {id : String}
    {happens : Feed → Answer × Feed × List Happening}
    (hf : ∀ f : Feed, f.isFinished = true → (happens f).2.1.isFinished = true) :
    w.StaysOver (w.inFeed id happens) := by
  refine inFeed_cases (staysOver_impossible h) fun f hlookup =>
    ⟨⟨h.released, h.calls, h.loops, ?_⟩, rfl⟩
  intro p hp
  rcases Table.mem_insert hp with rfl | hold
  · exact hf f (h.feeds _ (Table.mem_of_lookup hlookup))
  · exact h.feeds p hold

theorem staysOver_act (h : w.IsOver) (m : Deed) : w.StaysOver (w.act m) := by
  cases m with
  | pass millis => exact ⟨⟨h.released, h.calls, h.loops, h.feeds⟩, rfl⟩
  | changeStore sets failure latency => exact ⟨⟨h.released, h.calls, h.loops, h.feeds⟩, rfl⟩
  | commit sets => exact staysOver_holding h _
  | call errand => exact staysOver_holding h _
  | finish place =>
    refine finish_cases (staysOver_impossible h) fun c hc => ?_
    rw [h.calls] at hc
    exact nomatch hc
  | giveUp place =>
    refine giveUp_cases (staysOver_impossible h) fun hlt => ?_
    rw [h.calls] at hlt
    exact absurd hlt (Nat.not_lt_zero place)
  | startLoop interval => exact staysOver_holding h _
  | tick place =>
    refine tick_cases (staysOver_impossible h) fun l hl hdue => ?_
    -- A loop that is over has nothing due.
    have hover : l.isOver = true := h.loops l (List.mem_of_getElem? hl)
    rw [RefreshLoop.wake?_of_isOver hover] at hdue
    exact nomatch hdue
  | shutdown =>
    refine ⟨⟨h.released, h.calls, ?_, ?_⟩, rfl⟩
    · intro l hl
      obtain ⟨k, hk, rfl⟩ := List.mem_map.mp hl
      exact h.loops k hk
    · intro p hp
      obtain ⟨q, hq, rfl⟩ := List.mem_map.mp hp
      exact h.feeds q hq
  | release =>
    exact release_cases (staysOver_impossible h) fun _ => ⟨⟨rfl, h.calls, h.loops, h.feeds⟩, rfl⟩
  | subscribe id => exact staysOver_holding h _
  | next id =>
    exact ask_cases (fun _ => staysOver_impossible h) fun _ _ =>
      ⟨⟨h.released, h.calls, h.loops, h.feeds⟩, rfl⟩
  | whenReady id =>
    exact ask_cases (fun _ => staysOver_impossible h) fun _ _ =>
      ⟨⟨h.released, h.calls, h.loops, h.feeds⟩, rfl⟩
  | openFeed id filters => exact staysOver_holding h _
  | produce id =>
    exact staysOver_inFeed h fun f hf => Feed.isFinished_produceIn hf w.directory.snapshot
  | take id => exact staysOver_inFeed h fun f hf => Feed.isFinished_takeFrom hf
  | cancelFeed id => exact staysOver_inFeed h fun f hf => hf
  | closeFeed id => exact staysOver_inFeed h fun f hf => hf
  | check name type targets => exact ⟨⟨h.released, h.calls, h.loops, h.feeds⟩, rfl⟩

theorem isHeldByCalls_run (h : w.IsHeldByCalls) (deeds : List Deed) :
    (w.run deeds).IsHeldByCalls :=
  run_keeps (I := IsHeldByCalls) (fun _ m h => isHeldByCalls_act h m) h deeds

theorem staysOver_run (h : w.IsOver) (deeds : List Deed) :
    (w.run deeds).IsOver ∧ (w.run deeds).directory.snapshot = w.directory.snapshot := by
  refine run_keeps (I := fun e => e.IsOver ∧ e.directory.snapshot = w.directory.snapshot)
    ?_ ⟨h, rfl⟩ deeds
  rintro e m ⟨hover, hs⟩
  obtain ⟨hover', hs'⟩ := staysOver_act hover m
  exact ⟨hover', hs'.trans hs⟩

end Course

end Namebook
