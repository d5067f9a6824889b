import Mathlib.Data.List.TakeWhile
import Namebook.Directory.Time

/-!
# What lasts while time goes on

While time goes on only loops and feeds act. Whatever their single steps keep is kept in the end:
the store has the same sets and the same failure, and a store that fails leaves the snapshot.
-/

namespace Namebook

namespace RefreshLoop

variable {loops before after : List RefreshLoop} {l : RefreshLoop}

/-- The first loop goes on when the earliest of all does. -/
theorem wake?_of_first? (h : first? loops = some (before, l, after)) :
    l.wake? = (loops.filterMap wake?).min? := by
  unfold first? at h
  dsimp only at h
  split at h
  · exact nomatch h
  · rename_i g rest hd
    obtain ⟨-, rfl, -⟩ := Prod.mk.inj (Option.some.inj h)
    have hfirst := List.head?_dropWhile_not
      (fun k : RefreshLoop => !(k.wake? = (loops.filterMap wake?).min? &&
        (loops.filterMap wake?).min?.isSome)) loops
    rw [hd] at hfirst
    simp only [List.head?_cons, Bool.not_eq_false', Bool.and_eq_true, decide_eq_true_eq] at hfirst
    exact hfirst.1

/-- Where no loop is the first, none goes on. -/
theorem wake?_of_first?_eq_none (h : first? loops = none) (hl : l ∈ loops) : l.wake? = none := by
  unfold first? at h
  dsimp only at h
  split at h
  · rename_i hd
    cases hmin : (loops.filterMap wake?).min? with
    | none => exact List.filterMap_eq_nil_iff.mp (List.min?_eq_none_iff.mp hmin) l hl
    | some due =>
      obtain ⟨g, hg, hdue⟩ := List.mem_filterMap.mp (List.min?_mem hmin)
      have hnot := List.dropWhile_eq_nil_iff.mp hd g hg
      simp [hmin, hdue] at hnot
  · exact nomatch h

end RefreshLoop

namespace Directory

/-- No loop has anything to do before a moment. -/
def IsIdleBefore (limit : Nat) (d : Directory) : Prop :=
  ∀ l ∈ d.loops, ∀ due, l.wake? = some due → limit ≤ due

theorem dueStep?_cases {d e : Directory} {limit : Nat} (h : d.dueStep? limit = some e) :
    ∃ before l after due, d.loops = before ++ l :: after ∧ l.wake? = some due ∧ due < limit ∧
      d.IsIdleBefore due ∧ e = loopStep { d with now := max d.now due } before l after := by
  unfold dueStep? at h
  split at h
  · exact nomatch h
  · rename_i before l after hfirst
    split at h
    · exact nomatch h
    · rename_i due hdue
      split at h
      · refine ⟨before, l, after, due, RefreshLoop.eq_append_of_first? hfirst, hdue, ‹_›, ?_,
          (Option.some.inj h).symm⟩
        have hmin := (RefreshLoop.wake?_of_first? hfirst).symm.trans hdue
        exact fun k hk due' hdue' =>
          (List.min?_eq_some_iff.mp hmin).2 due' (List.mem_filterMap.mpr ⟨k, hk, hdue'⟩)
      · exact nomatch h

theorem isIdleBefore_of_dueStep?_eq_none {d : Directory} {limit : Nat}
    (h : d.dueStep? limit = none) : d.IsIdleBefore limit := by
  intro k hk due' hdue'
  unfold dueStep? at h
  split at h
  · rename_i hfirst
    rw [RefreshLoop.wake?_of_first?_eq_none hfirst hk] at hdue'
    cases hdue'
  · rename_i before l after hfirst
    have hmin := RefreshLoop.wake?_of_first? hfirst
    have hmem : due' ∈ d.loops.filterMap RefreshLoop.wake? := List.mem_filterMap.mpr ⟨k, hk, hdue'⟩
    split at h
    · rename_i hnone
      rw [List.min?_eq_none_iff.mp (hmin.symm.trans hnone)] at hmem
      cases hmem
    · rename_i due hdue
      have hle : due ≤ due' := (List.min?_eq_some_iff.mp (hmin.symm.trans hdue)).2 due' hmem
      split at h
      · cases h
      · omega

theorem elapse_of_none {d : Directory} {limit : Nat} (h : d.dueStep? limit = none) :
    d.elapse limit = d := by
  rw [elapse]
  split
  · rfl
  · rename_i hsome
    rw [h] at hsome
    contradiction

theorem elapse_of_some {d e : Directory} {limit : Nat} (h : d.dueStep? limit = some e) :
    d.elapse limit = (if e.areLoopsIdle then e.settleFeeds else e).elapse limit := by
  rw [elapse]
  split
  · rename_i hnone
    rw [h] at hnone
    contradiction
  · rename_i g hsome
    rw [Option.some.inj (hsome.symm.trans h)]

/-- What is due before a moment is done when that comes. -/
theorem isIdleBefore_elapse (d : Directory) (limit : Nat) :
    (d.elapse limit).IsIdleBefore limit := by
  fun_induction elapse limit d with
  | case1 d hnone => exact isIdleBefore_of_dueStep?_eq_none hnone
  | case2 d e hstep ih => exact ih

/-- What every step of a loop and the settling of feeds keep, the passing of time keeps. -/
theorem elapse_keeps {P : Directory → Prop} {limit : Nat}
    (hstep : ∀ d e, P d → d.dueStep? limit = some e → P e)
    (hsettle : ∀ d, P d → P d.settleFeeds) (d : Directory) (h : P d) : P (d.elapse limit) := by
  fun_induction elapse limit d with
  | case1 d hd => exact h
  | case2 d e hd ih =>
    apply ih
    have he := hstep d e h hd
    split
    · exact hsettle e he
    · exact he

/-- The same store apart from its calls, and the same snapshot if that store fails. -/
structure Resembles (d e : Directory) : Prop where
  sets : e.store.sets = d.store.sets
  failure : e.store.failure = d.store.failure
  snapshot : d.store.failure.isSome = true → e.snapshot = d.snapshot

theorem Resembles.refl (d : Directory) : d.Resembles d := ⟨rfl, rfl, fun _ => rfl⟩

theorem Resembles.trans {d e g : Directory} (h : d.Resembles e) (h' : e.Resembles g) :
    d.Resembles g where
  sets := h'.sets.trans h.sets
  failure := h'.failure.trans h.failure
  snapshot hf := (h'.snapshot (h.failure ▸ hf)).trans (h.snapshot hf)

theorem resembles_concludeRefresh (d : Directory) (millis : Nat) :
    d.Resembles (d.concludeRefresh millis).2 := by
  unfold concludeRefresh Store.all
  cases hf : d.store.failure with
  | some reason => exact ⟨rfl, rfl, fun _ => rfl⟩
  | none => exact ⟨rfl, rfl, fun h => by simp [hf] at h⟩

theorem resembles_loopStep (d : Directory) (before : List RefreshLoop) (l : RefreshLoop)
    (after : List RefreshLoop) : d.Resembles (d.loopStep before l after) := by
  unfold loopStep
  split
  · exact ⟨rfl, rfl, fun _ => rfl⟩
  · cases l.stage with
    | ended => exact .refl d
    | resting => exact ⟨rfl, rfl, fun _ => rfl⟩
    | scanning began ends =>
      obtain ⟨hs, hf, hn⟩ := d.resembles_concludeRefresh (d.now - began)
      exact ⟨hs, hf, hn⟩

theorem resembles_elapse (d : Directory) (limit : Nat) : d.Resembles (d.elapse limit) := by
  apply elapse_keeps
  · intro e g he hg
    obtain ⟨before, l, after, due, -, -, -, -, rfl⟩ := dueStep?_cases hg
    have hl := resembles_loopStep { e with now := max e.now due } before l after
    exact he.trans ⟨hl.sets, hl.failure, hl.snapshot⟩
  · exact fun e he => he.trans ⟨rfl, rfl, fun _ => rfl⟩
  · exact .refl d

theorem resembles_awaitStore (d : Directory) : d.Resembles d.awaitStore := by
  have h := resembles_elapse { d with store := d.store.called } (d.now + d.store.latency)
  exact ⟨h.sets, h.failure, h.snapshot⟩

end Directory

end Namebook
