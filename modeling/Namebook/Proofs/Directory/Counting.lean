import Namebook.Proofs.Course.Step
import Namebook.Proofs.Directory.Time

/-!
# Nothing depends on what was counted

How often the store was called and what happened are counted, but nobody in the directory looks at
it. So two directories that differ in these counts alone go on to do the same. A list does no more
than a call and a note of it, and so it leaves the directory as if only the time of that call had
gone by.
-/

namespace Namebook.Directory

/-- A directory that differs in its counts at most. -/
def AlikeButCounts (d e : Directory) : Prop :=
  ∃ calls metrics, e = { d with store := { d.store with calls }, metrics }

variable {d e : Directory}

namespace AlikeButCounts

theorem snapshot (h : d.AlikeButCounts e) : e.snapshot = d.snapshot := by
  obtain ⟨calls, metrics, rfl⟩ := h
  rfl

theorem now (h : d.AlikeButCounts e) : e.now = d.now := by
  obtain ⟨calls, metrics, rfl⟩ := h
  rfl

theorem withNow (h : d.AlikeButCounts e) (now : Nat) :
    AlikeButCounts { d with now } { e with now } := by
  obtain ⟨calls, metrics, rfl⟩ := h
  exact ⟨calls, metrics, rfl⟩

theorem areLoopsIdle (h : d.AlikeButCounts e) : e.areLoopsIdle = d.areLoopsIdle := by
  obtain ⟨calls, metrics, rfl⟩ := h
  rfl

theorem settleFeeds (h : d.AlikeButCounts e) : d.settleFeeds.AlikeButCounts e.settleFeeds := by
  obtain ⟨calls, metrics, rfl⟩ := h
  exact ⟨calls, _, rfl⟩

theorem concludeRefresh (h : d.AlikeButCounts e) (millis : Nat) :
    (d.concludeRefresh millis).2.AlikeButCounts (e.concludeRefresh millis).2 := by
  obtain ⟨calls, metrics, rfl⟩ := h
  unfold Directory.concludeRefresh Store.all
  cases hfailure : d.store.failure with
  | some reason => exact ⟨calls, _, rfl⟩
  | none => exact ⟨calls, _, rfl⟩

theorem loopStep (h : d.AlikeButCounts e) (before : List RefreshLoop) (l : RefreshLoop)
    (after : List RefreshLoop) :
    (d.loopStep before l after).AlikeButCounts (e.loopStep before l after) := by
  unfold Directory.loopStep
  split
  · obtain ⟨calls, metrics, rfl⟩ := h
    exact ⟨calls, metrics, rfl⟩
  · cases l.stage with
    | ended => exact h
    | resting =>
      obtain ⟨calls, metrics, rfl⟩ := h
      exact ⟨calls + 1, metrics, rfl⟩
    | scanning began ends =>
      obtain ⟨calls, metrics, he⟩ := h.concludeRefresh (d.now - began)
      dsimp only
      rw [h.now, he]
      exact ⟨calls, metrics, rfl⟩

theorem dueStep? (h : d.AlikeButCounts e) (limit : Nat) :
    d.dueStep? limit = none ∧ e.dueStep? limit = none ∨
      ∃ d' e', d.dueStep? limit = some d' ∧ e.dueStep? limit = some e' ∧ d'.AlikeButCounts e' := by
  obtain ⟨calls, metrics, rfl⟩ := h
  unfold Directory.dueStep?
  dsimp only
  cases RefreshLoop.first? d.loops with
  | none => exact .inl ⟨rfl, rfl⟩
  | some first =>
    obtain ⟨before, l, after⟩ := first
    dsimp only
    cases l.wake? with
    | none => exact .inl ⟨rfl, rfl⟩
    | some due =>
      dsimp only
      by_cases hdue : due < limit
      · rw [if_pos hdue, if_pos hdue]
        exact .inr ⟨_, _, rfl, rfl, loopStep ⟨calls, metrics, rfl⟩ before l after⟩
      · rw [if_neg hdue, if_neg hdue]
        exact .inl ⟨rfl, rfl⟩

theorem elapse (h : d.AlikeButCounts e) (limit : Nat) :
    (d.elapse limit).AlikeButCounts (e.elapse limit) := by
  fun_induction Directory.elapse limit d generalizing e with
  | case1 d hnone =>
    rcases h.dueStep? limit with ⟨-, hnone'⟩ | ⟨d', e', hsome, -, -⟩
    · rw [elapse_of_none hnone']
      exact h
    · exact absurd (hsome.symm.trans hnone) (Option.some_ne_none d')
  | case2 d d' hstep ih =>
    rcases h.dueStep? limit with ⟨hnone, -⟩ | ⟨g, e', hsome, hstep', hg⟩
    · exact absurd (hstep.symm.trans hnone) (Option.some_ne_none d')
    · obtain rfl := Option.some.inj (hstep.symm.trans hsome)
      rw [elapse_of_some hstep', hg.areLoopsIdle]
      apply ih
      split
      · exact hg.settleFeeds
      · exact hg

theorem settle (h : d.AlikeButCounts e) : d.settle.AlikeButCounts e.settle := by
  unfold Directory.settle
  rw [h.now]
  exact (h.elapse (d.now + 1)).settleFeeds

end AlikeButCounts

/-- Waiting for the store takes its time and is counted. -/
theorem alikeButCounts_awaitStore (d : Directory) :
    AlikeButCounts { d.elapse (d.now + d.store.latency) with now := d.now + d.store.latency }
      d.awaitStore := by
  have hcall : d.AlikeButCounts { d with store := d.store.called } :=
    ⟨d.store.calls + 1, d.metrics, rfl⟩
  exact (hcall.elapse (d.now + d.store.latency)).withNow (d.now + d.store.latency)

/-- Whoever asks for a list changes no more than the counts. -/
theorem alikeButCounts_list (d : Directory) (f : Filters) (size : Nat) (token : String) :
    (d.advance d.store.latency).AlikeButCounts (d.list f size token).2 := by
  obtain ⟨calls, metrics, hwait⟩ := alikeButCounts_awaitStore d
  obtain ⟨noted, hlist⟩ := d.awaitStore.concludeList_eq f
  have hend : AlikeButCounts
      { d.elapse (d.now + d.store.latency) with now := d.now + d.store.latency }
      (d.awaitStore.concludeList f).2 := by
    rw [hlist, hwait]
    exact ⟨calls, noted, rfl⟩
  exact hend.settle

end Namebook.Directory
