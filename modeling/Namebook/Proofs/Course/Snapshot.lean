import Mathlib.Data.List.Induction
import Namebook.Proofs.Course.Step
import Namebook.Proofs.Snapshot

/-!
# The snapshot in the course of a directory

A deed publishes sets or leaves the snapshot as it is. What is published is the next snapshot, and
its generation is returned; a refresh that fails, or that is given up, publishes nothing.
-/

namespace Namebook

namespace Directory

/-- A refresh fails and changes nothing but the counters, or it publishes what the store holds. -/
theorem concludeRefresh_cases (d : Directory) (millis : Nat) :
    (∃ failure, (d.concludeRefresh millis).1 = .error failure ∧
        (d.concludeRefresh millis).2.snapshot = d.snapshot) ∨
      (d.concludeRefresh millis).1 = .ok (d.snapshot.generation + 1) ∧
        (d.concludeRefresh millis).2.snapshot = d.snapshot.commit d.instant d.store.sets := by
  unfold concludeRefresh Store.all
  cases d.store.failure with
  | some reason => exact .inl ⟨_, rfl, rfl⟩
  | none => exact .inr ⟨rfl, rfl⟩

theorem snapshot_concludeList (d : Directory) (filters : Filters) :
    (d.concludeList filters).2.snapshot = d.snapshot := by
  obtain ⟨metrics, he⟩ := d.concludeList_eq filters
  rw [he]

end Directory

/-- A snapshot that publications, one after the other, made of the empty one. -/
structure Snapshot.IsMadeOf (s : Snapshot) (published : List (List RecordSet)) : Prop where
  generation : s.generation = published.length
  sets : s.sets = published.getLast?.getD []
  records : s.records = listing Filters.unfiltered s.sets
  isReady : s.isReady = true ↔ published ≠ []
  refreshed : s.refreshed.isSome = true ↔ published ≠ []

namespace Snapshot.IsMadeOf

theorem empty : Snapshot.empty.IsMadeOf [] where
  generation := rfl
  sets := rfl
  records := isFaithful_empty
  isReady := by decide
  refreshed := by decide

theorem commit {s : Snapshot} {published : List (List RecordSet)} (h : s.IsMadeOf published)
    (now : Time.Instant) (sets : List RecordSet) :
    (s.commit now sets).IsMadeOf (published ++ [sets]) where
  generation := by
    rw [List.length_append, ← h.generation]
    rfl
  sets := by
    rw [List.getLast?_concat]
    rfl
  records := isFaithful_commit s now sets
  isReady := iff_of_true (decide_eq_true s.generation.succ_pos) (List.concat_ne_nil sets published)
  refreshed := iff_of_true rfl (List.concat_ne_nil sets published)

end Snapshot.IsMadeOf

namespace Course

variable {w : Course}

/-- Nothing was published. -/
def Keeps (w : Course) (result : Answer × Course) : Prop :=
  result.1.generation? = none ∧ result.2.directory.snapshot = w.directory.snapshot

/-- The sets of the store were made the next snapshot. -/
def Refreshes (w : Course) (result : Answer × Course) : Prop :=
  result.1 = .refreshed (.ok (w.directory.snapshot.generation + 1)) ∧
    result.2.directory.snapshot =
      w.directory.snapshot.commit w.directory.instant w.directory.store.sets

theorem keeps_impossible : w.Keeps (.impossible, w) := ⟨rfl, rfl⟩

theorem generation?_produceIn (current : Snapshot) (f : Feed) :
    (produceIn current f).1.generation? = none := by
  unfold produceIn
  cases f.step? current <;> rfl

theorem generation?_takeFrom (f : Feed) : (takeFrom f).1.generation? = none := by
  unfold takeFrom
  split
  · cases f.take? with
    | some taken => rfl
    | none => dsimp only; split <;> rfl
  · rfl

theorem keeps_inFeed {id : String} {happens : Feed → Answer × Feed × List Happening}
    (h : ∀ f, (happens f).1.generation? = none) : w.Keeps (w.inFeed id happens) :=
  inFeed_cases keeps_impossible fun f _ => ⟨h f, rfl⟩

/-- The end of a refresh, whoever made it. -/
theorem keeps_or_refreshes {e : Course} {millis : Nat}
    (he : e.directory.snapshot = (w.directory.concludeRefresh millis).2.snapshot) :
    w.Keeps (.refreshed (w.directory.concludeRefresh millis).1, e) ∨
      w.Refreshes (.refreshed (w.directory.concludeRefresh millis).1, e) := by
  rcases w.directory.concludeRefresh_cases millis with ⟨failure, hr, hs⟩ | ⟨hr, hs⟩
  · rw [hr]
    exact .inl ⟨rfl, he.trans hs⟩
  · rw [hr]
    exact .inr ⟨rfl, he.trans hs⟩

theorem keeps_or_refreshes_finishCall (place : Nat) (c : Call) :
    w.Keeps (w.finishCall place c) ∨ w.Refreshes (w.finishCall place c) := by
  unfold finishCall
  cases c.errand with
  | refresh => exact keeps_or_refreshes rfl
  | list filters size token =>
    exact .inl ⟨rfl, w.directory.snapshot_concludeList filters⟩

theorem keeps_or_refreshes_tick (place : Nat) :
    w.Keeps (w.act (.tick place)) ∨ w.Refreshes (w.act (.tick place)) := by
  rcases w.act_tick_cases place with
    hnone | ⟨l, hl, ⟨hcancelled, hgoes⟩ | ⟨hgoes, ⟨hrest, hdue⟩ | ⟨began, ends, hscan, hdue⟩⟩⟩
  · exact .inl (hnone ▸ keeps_impossible)
  · rw [act_tick_stops hl hcancelled hgoes]
    exact .inl ⟨rfl, rfl⟩
  · rw [act_tick_begins hl hgoes hrest hdue]
    exact .inl ⟨rfl, rfl⟩
  · rw [act_tick_ends hl hgoes hscan hdue]
    exact keeps_or_refreshes rfl

theorem keeps_call (errand : Errand) : w.Keeps (w.act (.call errand)) :=
  holding_cases keeps_impossible fun _ => ⟨rfl, rfl⟩

theorem keeps_giveUp (place : Nat) : w.Keeps (w.giveUp place) :=
  giveUp_cases keeps_impossible fun _ => ⟨rfl, rfl⟩

/-- A deed that does not commit keeps the snapshot or refreshes it. -/
theorem keeps_or_refreshes_act (m : Deed) (h : ∀ sets, m ≠ .commit sets) :
    w.Keeps (w.act m) ∨ w.Refreshes (w.act m) := by
  cases m with
  | pass millis => exact .inl ⟨rfl, rfl⟩
  | changeStore sets failure latency => exact .inl ⟨rfl, rfl⟩
  | commit sets => exact absurd rfl (h sets)
  | call errand => exact .inl (keeps_call errand)
  | finish place =>
    exact finish_cases (P := fun r => w.Keeps r ∨ w.Refreshes r) (.inl keeps_impossible)
      fun c _ => keeps_or_refreshes_finishCall place c
  | giveUp place => exact .inl (keeps_giveUp place)
  | startLoop interval => exact .inl (holding_cases keeps_impossible fun _ => ⟨rfl, rfl⟩)
  | tick place => exact keeps_or_refreshes_tick place
  | shutdown => exact .inl ⟨rfl, rfl⟩
  | release => exact .inl (release_cases keeps_impossible fun _ => ⟨rfl, rfl⟩)
  | subscribe id => exact .inl (holding_cases keeps_impossible fun _ => ⟨rfl, rfl⟩)
  | next id => exact .inl (ask_cases (fun _ => keeps_impossible) fun _ _ => ⟨rfl, rfl⟩)
  | whenReady id => exact .inl (ask_cases (fun _ => keeps_impossible) fun _ _ => ⟨rfl, rfl⟩)
  | openFeed id filters =>
    exact .inl (holding_cases keeps_impossible fun _ =>
      openFeed_cases keeps_impossible fun _ => ⟨rfl, rfl⟩)
  | produce id => exact .inl (keeps_inFeed (generation?_produceIn w.directory.snapshot))
  | take id => exact .inl (keeps_inFeed generation?_takeFrom)
  | cancelFeed id => exact .inl (keeps_inFeed fun _ => rfl)
  | closeFeed id => exact .inl (keeps_inFeed fun _ => rfl)
  | check name type targets => exact .inl ⟨rfl, rfl⟩

theorem published?_of_keeps {m : Deed} (h : w.Keeps (w.act m)) :
    (Event.mk w m).published? = none := by
  have hg : (w.act m).1.generation? = none := h.1
  unfold Event.published? Event.answer
  generalize (w.act m).1 = answer at hg
  split
  · exact nomatch hg
  · exact nomatch hg
  · rfl

theorem published?_of_refreshes {m : Deed} (h : w.Refreshes (w.act m)) :
    (Event.mk w m).published? = some w.directory.store.sets := by
  unfold Event.published? Event.answer
  rw [h.1]
  cases m <;> rfl

theorem act_commit (h : w.directory.isHeld = true) (sets : List RecordSet) :
    w.act (.commit sets) = (.published (w.directory.snapshot.generation + 1),
      { w with directory := w.directory.commit sets }) := if_pos h

/-- The course after a commit of sets that have this listing. -/
def committing (w : Course) (sets : List RecordSet) (records : List Record) : Course :=
  { w with directory := { w.directory with
    snapshot :=
      ⟨w.directory.snapshot.generation + 1, some w.directory.instant, sets, records⟩ } }

section
variable {sets : List RecordSet} {records : List Record}

theorem act_commit_of_listing (h : w.directory.isHeld = true)
    (hlisting : listing Filters.unfiltered sets = records) :
    (w.act (.commit sets)).2 = w.committing sets records := by
  rw [act_commit h, ← hlisting]
  rfl

theorem run_commit_of_listing (h : w.directory.isHeld = true)
    (hlisting : listing Filters.unfiltered sets = records) (deeds : List Deed) :
    w.run (.commit sets :: deeds) = (w.committing sets records).run deeds :=
  congrArg (·.run deeds) (act_commit_of_listing h hlisting)

theorem history_commit_of_listing (h : w.directory.isHeld = true)
    (hlisting : listing Filters.unfiltered sets = records) (deeds : List Deed) :
    w.history (.commit sets :: deeds) =
      ⟨w, .commit sets⟩ :: (w.committing sets records).history deeds := by
  rw [history, act_commit_of_listing h hlisting]

end

/-- A commit is made by whoever holds the snapshots. -/
theorem published?_commit (h : w.directory.isHeld = true) (sets : List RecordSet) :
    (Event.mk w (.commit sets)).published? = some sets := by
  unfold Event.published? Event.answer
  rw [act_commit h]

/-- What an event does to the snapshot: it leaves it, or it publishes sets as the next one and
returns the generation of that. -/
theorem publication_cases (w : Course) (m : Deed) :
    (Event.mk w m).published? = none ∧ w.Keeps (w.act m) ∨
      ∃ sets, (Event.mk w m).published? = some sets ∧
        (w.act m).1.generation? = some (w.directory.snapshot.generation + 1) ∧
        (w.act m).2.directory.snapshot =
          w.directory.snapshot.commit w.directory.instant sets := by
  -- Only a commit has sets of its own; whatever else publishes takes those of the store.
  by_cases hm : ∃ sets, m = .commit sets
  · obtain ⟨sets, rfl⟩ := hm
    by_cases hh : w.directory.isHeld = true
    · refine .inr ⟨sets, published?_commit hh sets, ?_, ?_⟩
      · rw [act_commit hh]
        rfl
      · rw [act_commit hh]
        rfl
    · have ha : w.act (.commit sets) = (.impossible, w) := if_neg hh
      have hk : w.Keeps (w.act (.commit sets)) := ha ▸ keeps_impossible
      exact .inl ⟨published?_of_keeps hk, hk⟩
  · rcases keeps_or_refreshes_act m fun sets he => hm ⟨sets, he⟩ with hk | hr
    · exact .inl ⟨published?_of_keeps hk, hk⟩
    · refine .inr ⟨w.directory.store.sets, published?_of_refreshes hr, ?_, hr.2⟩
      rw [hr.1]
      rfl

/-- What was published, from the first to the last. -/
def publications (events : List Event) : List (List RecordSet) := events.filterMap Event.published?

/-- The generations that were returned for what was published. -/
def generations (events : List Event) : List Nat := events.filterMap Event.generation?

theorem isMadeOf_act {published : List (List RecordSet)}
    (h : w.directory.snapshot.IsMadeOf published) (m : Deed) :
    (w.act m).2.directory.snapshot.IsMadeOf (published ++ (Event.mk w m).published?.toList) := by
  rcases w.publication_cases m with ⟨hp, -, hs⟩ | ⟨sets, hp, -, hs⟩
  · rw [hp, hs, Option.toList_none, List.append_nil]
    exact h
  · rw [hp, hs]
    exact h.commit _ sets

/-- An event returns the generation after that of the snapshot, if it publishes. -/
theorem toList_generation? (m : Deed) :
    (Event.mk w m).generation?.toList =
      List.range' (w.directory.snapshot.generation + 1)
        (Event.mk w m).published?.toList.length := by
  unfold Event.generation? Event.answer
  rcases w.publication_cases m with ⟨hp, hg, -⟩ | ⟨sets, hp, hg, -⟩
  · rw [hp, hg]
    rfl
  · rw [hp, hg]
    rfl

theorem isMadeOf_run {published : List (List RecordSet)}
    (h : w.directory.snapshot.IsMadeOf published) (deeds : List Deed) :
    (w.run deeds).directory.snapshot.IsMadeOf (published ++ publications (w.history deeds)) :=
  run_keeps_log (I := fun published e => e.directory.snapshot.IsMadeOf published)
    (fun _ _ m h => isMadeOf_act h m) h deeds

/-- The snapshot of a new directory is made of what was published since. -/
theorem isMadeOf_run_new (grouping : Grouping) (resolver : Dns.Resolver) (streamBuffer : Nat)
    (deeds : List Deed) :
    ((new grouping resolver streamBuffer).run deeds).directory.snapshot.IsMadeOf
      (publications ((new grouping resolver streamBuffer).history deeds)) :=
  isMadeOf_run (w := new grouping resolver streamBuffer) Snapshot.IsMadeOf.empty deeds

/-- A snapshot that is ready stays so. -/
theorem isReady_run {published : List (List RecordSet)}
    (h : w.directory.snapshot.IsMadeOf published) (hready : w.directory.snapshot.isReady = true)
    (deeds : List Deed) : (w.run deeds).directory.snapshot.isReady = true :=
  (isMadeOf_run h deeds).isReady.mpr
    (List.append_ne_nil_of_left_ne_nil (h.isReady.mp hready) _)

theorem generations_history {published : List (List RecordSet)}
    (h : w.directory.snapshot.IsMadeOf published) (deeds : List Deed) :
    generations (w.history deeds) =
      List.range' (published.length + 1) (publications (w.history deeds)).length := by
  induction deeds generalizing w published with
  | nil => rfl
  | cons m deeds ih =>
    unfold publications generations at *
    rw [filterMap_history_cons, filterMap_history_cons, ih (isMadeOf_act h m), toList_generation?,
      h.generation, List.length_append, List.length_append, Nat.add_right_comm,
      List.range'_append_1]

/-- A refresh publishes what the store gives at its end, if it gives anything. -/
theorem published?_finish {place began : Nat} (h : w.calls[place]? = some ⟨began, .refresh⟩) :
    (Event.mk w (.finish place)).published? = w.directory.store.all.toOption := by
  have ha : (w.act (.finish place)).1 =
      .refreshed (w.directory.concludeRefresh (w.directory.now - began)).1 := by
    change (w.finish place).1 = _
    unfold finish
    rw [h]
    rfl
  unfold Event.published? Event.answer
  rw [ha]
  unfold Directory.concludeRefresh Store.all
  cases w.directory.store.failure with
  | some reason => rfl
  | none => rfl

theorem snapshot_of_published?_eq_none {m : Deed} (h : (Event.mk w m).published? = none) :
    (w.act m).2.directory.snapshot = w.directory.snapshot := by
  rcases w.publication_cases m with ⟨-, -, hs⟩ | ⟨sets, hp, -⟩
  · exact hs
  · rw [h] at hp
    exact nomatch hp

theorem published?_of_failed {m : Deed} {failure : StoreFailure}
    (h : (w.act m).1 = .refreshed (.error failure)) : (Event.mk w m).published? = none := by
  rcases w.publication_cases m with ⟨hp, -⟩ | ⟨sets, -, hg, -⟩
  · exact hp
  · rw [h] at hg
    exact nomatch hg

/-- The snapshot in any course of a new directory. It is made of what was published by commits and
by refreshes that succeeded, whose generations, from one on, are returned one after the other. Once
there was a commit it stays ready. A refresh that fails leaves the whole snapshot as it was, and so
do its beginning, its being given up, and a shutdown in its midst. -/
theorem snapshot_of_course (grouping : Grouping) (resolver : Dns.Resolver) (streamBuffer : Nat)
    (deeds : List Deed) :
    let w := (new grouping resolver streamBuffer).run deeds
    let events := (new grouping resolver streamBuffer).history deeds
    w.directory.snapshot.IsMadeOf (publications events) ∧
      generations events = List.range' 1 (publications events).length ∧
      (∀ later, w.directory.snapshot.isReady = true →
        (w.run later).directory.snapshot.isReady = true) ∧
      (∀ sets, w.directory.isHeld = true → (Event.mk w (.commit sets)).published? = some sets) ∧
      (∀ place began, w.calls[place]? = some ⟨began, .refresh⟩ →
        (Event.mk w (.finish place)).published? = w.directory.store.all.toOption) ∧
      (∀ m, (Event.mk w m).published? = none →
        (w.act m).2.directory.snapshot = w.directory.snapshot) ∧
      (∀ m failure, (w.act m).1 = .refreshed (.error failure) →
        (w.act m).2.directory.snapshot = w.directory.snapshot) ∧
      (∀ errand, (w.act (.call errand)).2.directory.snapshot = w.directory.snapshot) ∧
      (∀ place, (w.act (.giveUp place)).2.directory.snapshot = w.directory.snapshot) ∧
      (w.act .shutdown).2.directory.snapshot = w.directory.snapshot := by
  intro w events
  have hmade : w.directory.snapshot.IsMadeOf (publications events) :=
    isMadeOf_run_new grouping resolver streamBuffer deeds
  have hnumbers : generations events = List.range' 1 (publications events).length :=
    generations_history (w := new grouping resolver streamBuffer) Snapshot.IsMadeOf.empty deeds
  exact ⟨hmade, hnumbers, fun later hready => isReady_run hmade hready later,
    fun sets h => published?_commit h sets, fun place began => published?_finish,
    fun m => snapshot_of_published?_eq_none,
    fun m failure h => snapshot_of_published?_eq_none (published?_of_failed h),
    fun errand => (keeps_call errand).2, fun place => (keeps_giveUp place).2, rfl⟩

/-- Of three refreshes between two commits one fails, one is given up and one succeeds. -/
example :
    let w := (new {} (.ofTables [] []) 1).run
      [.commit [], .call .refresh, .call .refresh, .changeStore [] (some "down") 0, .finish 0,
        .giveUp 0, .call .refresh, .changeStore [] none 0, .finish 0, .commit []]
    w.directory.snapshot.generation = 3 ∧ w.calls = [] := ⟨rfl, rfl⟩

end Course

end Namebook
