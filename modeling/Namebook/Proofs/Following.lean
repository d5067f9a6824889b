import Mathlib.Data.List.Basic
import Namebook.Proofs.Feed

/-!
# Following a cache through a feed

A subscriber follows the snapshots of a cache through the queue of a feed. Commits, steps of the
producer and readings come in any order, and the feed may be cancelled or left at any time. At every
moment what was read is a beginning of the script of the snapshots that the producer took up, and
once all is read it leads to the current view.
-/

namespace Namebook

/-- `got` is what the subscriber has read, oldest first. -/
structure Following where
  snapshot : Snapshot
  feed : Feed
  got : List Change

namespace Following

/-- What can happen next. The producer and the subscriber stay as they are when they cannot act. -/
inductive Move where
  | commit (now : Time.Instant) (sets : List RecordSet)
  | produce
  | take
  | cancel
  | leave

def Move.isCommit : Move → Bool
  | commit _ _ => true
  | _ => false

def move (w : Following) : Move → Following
  | .commit now sets => { w with snapshot := w.snapshot.commit now sets }
  | .produce =>
    match w.feed.step? w.snapshot with
    | some (feed, _) => { w with feed }
    | none => w
  | .take =>
    match w.feed.take? with
    | some (c, feed) => { w with feed, got := w.got ++ [c] }
    | none => w
  | .cancel => { w with feed := w.feed.cancel }
  | .leave => { w with feed := w.feed.leave }

def run (w : Following) (moves : List Move) : Following := moves.foldl move w

/-- A feed is opened after some commits. -/
def opened (published : List (Time.Instant × List RecordSet)) (f : Filters) (buffer : Nat) :
    Following :=
  ⟨Snapshot.empty.commits published, Feed.start f buffer, []⟩

theorem run_concat (w : Following) (moves : List Move) (m : Move) :
    w.run (moves ++ [m]) = (w.run moves).move m := by
  rw [run, List.foldl_append]
  rfl

/-- How far the subscriber of a feed with filters `f` is along the script of the snapshots that
were taken up. A feed that was left or has finished may have lost what it had not delivered. -/
structure Tracks (w : Following) (f : Filters) (taken : List Snapshot) : Prop where
  filters : w.feed.filters = f
  faithful : w.snapshot.IsFaithful
  taken_faithful : ∀ s ∈ taken, s.IsFaithful
  taken_ready : ∀ s ∈ taken, s.isReady = true
  taken_seen : ∀ s ∈ taken, s.generation ≤ w.feed.seen
  taken_current : ∀ s ∈ taken, s = w.snapshot ∨ s.generation < w.snapshot.generation
  rising : taken.Pairwise fun s t => s.generation < t.generation
  seen : w.feed.seen = (taken.getLast?.map Snapshot.generation).getD 0
  shown : w.feed.shown = Feed.lastView f taken
  sent : w.got ++ w.feed.queue <+: Feed.script f taken
  pending : w.feed.phase ≠ .finished → w.feed.receiving = true →
    w.got ++ w.feed.queue ++ w.feed.left = Feed.script f taken

theorem tracks_opened (published : List (Time.Instant × List RecordSet)) (f : Filters)
    (buffer : Nat) : (opened published f buffer).Tracks f [] where
  filters := rfl
  faithful := Snapshot.isFaithful_commits Snapshot.isFaithful_empty published
  taken_faithful := by simp
  taken_ready := by simp
  taken_seen := by simp
  taken_current := by simp
  rising := .nil
  seen := rfl
  shown := rfl
  sent := List.prefix_rfl
  pending _ _ := rfl

variable {w : Following} {f : Filters} {taken : List Snapshot}

theorem tracks_commit (h : w.Tracks f taken) (now : Time.Instant) (sets : List RecordSet) :
    (w.move (.commit now sets)).Tracks f taken :=
  { h with
    faithful := Snapshot.isFaithful_commit w.snapshot now sets
    taken_current := fun s hs => by
      refine .inr (Nat.lt_succ_of_le ?_)
      rcases h.taken_current s hs with rfl | hlt
      · exact Nat.le_refl _
      · exact Nat.le_of_lt hlt }

theorem tracks_cancel (h : w.Tracks f taken) : (w.move .cancel).Tracks f taken := { h with }

theorem tracks_leave (h : w.Tracks f taken) : (w.move .leave).Tracks f taken :=
  { h with
    sent := by
      refine List.IsPrefix.trans ?_ h.sent
      simp [move, Feed.leave]
    pending := fun _ hr => nomatch hr }

theorem tracks_take (h : w.Tracks f taken) : (w.move .take).Tracks f taken := by
  unfold move Feed.take?
  cases hq : w.feed.queue with
  | nil => exact h
  | cons c queue =>
    exact { h with
      sent := by simpa [hq] using h.sent
      pending := fun hp hr => by simpa [hq, Feed.left] using h.pending hp hr }

theorem tracks_finish (h : w.Tracks f taken) :
    Tracks { w with feed := { w.feed with phase := .finished } } f taken :=
  { h with pending := fun hp _ => absurd rfl hp }

theorem tracks_rest (h : w.Tracks f taken) (hp : w.feed.phase = .sending []) :
    Tracks { w with feed := { w.feed with phase := .waiting } } f taken :=
  { h with
    pending := fun _ hr => by simpa [Feed.left, hp] using h.pending (by simp [hp]) hr }

theorem tracks_put (h : w.Tracks f taken) {c : Change} {left : List Change}
    (hp : w.feed.phase = .sending (c :: left)) (ho : w.feed.IsOpen) :
    Tracks
      { w with feed := { w.feed with phase := .sending left, queue := w.feed.queue ++ [c] } }
      f taken := by
  have hs : w.got ++ (w.feed.queue ++ [c]) ++ left = Feed.script f taken := by
    simpa [Feed.left, hp] using h.pending (by simp [hp]) ho.2
  exact { h with
    sent := ⟨left, hs⟩
    pending := fun _ _ => hs }

/-- The script grows by what leads from the last view to the one that is taken up. -/
theorem tracks_takeUp (h : w.Tracks f taken) (hp : w.feed.phase = .waiting) (ho : w.feed.IsOpen)
    (hlt : w.feed.seen < w.snapshot.generation) :
    Tracks { w with feed := w.feed.takeUp w.snapshot } f (taken ++ [w.snapshot]) := by
  have hs : w.got ++ w.feed.queue = Feed.script f taken := by
    simpa [Feed.left, hp] using h.pending (by simp [hp]) ho.2
  have hscript : Feed.script f (taken ++ [w.snapshot]) =
      w.got ++ w.feed.queue ++ Change.between w.feed.shown (w.snapshot.view f) := by
    rw [Feed.script_concat, hs, h.shown]
  constructor
  case filters => exact h.filters
  case faithful => exact h.faithful
  case taken_faithful =>
    simpa [or_imp, forall_and] using ⟨h.taken_faithful, h.faithful⟩
  case taken_ready =>
    have hr : w.snapshot.isReady = true := by simp [Snapshot.isReady]; omega
    simpa [or_imp, forall_and] using ⟨h.taken_ready, hr⟩
  case taken_seen =>
    have hle (s : Snapshot) (hs : s ∈ taken) : s.generation ≤ w.snapshot.generation :=
      Nat.le_of_lt (Nat.lt_of_le_of_lt (h.taken_seen s hs) hlt)
    simpa [or_imp, forall_and, Feed.takeUp] using hle
  case taken_current =>
    simpa [or_imp, forall_and] using h.taken_current
  case rising =>
    rw [List.pairwise_append]
    refine ⟨h.rising, List.pairwise_singleton _ _, fun s hs t ht => ?_⟩
    rw [List.mem_singleton.mp ht]
    exact Nat.lt_of_le_of_lt (h.taken_seen s hs) hlt
  case seen => simp [Feed.takeUp]
  case shown => rw [Feed.lastView_concat, ← h.filters]; rfl
  case sent => exact ⟨_, hscript.symm⟩
  case pending =>
    intro _ _
    rw [hscript, ← h.filters]
    rfl

theorem tracks_produce (h : w.Tracks f taken) :
    ∃ more, (more = [] ∨ more = [w.snapshot]) ∧
      (w.move .produce).Tracks f (taken ++ more) := by
  unfold move
  cases hg : w.feed.step? w.snapshot with
  | none => exact ⟨[], .inl rfl, by simpa using h⟩
  | some next =>
    obtain ⟨g, noted⟩ := next
    rcases Feed.step?_cases hg with
      ⟨-, rfl⟩ | ⟨hp, ho, hlt, rfl⟩ | ⟨hp, rfl⟩ | ⟨c, left, hp, ho, -, rfl⟩
    · exact ⟨[], .inl rfl, by simpa using tracks_finish h⟩
    · exact ⟨[w.snapshot], .inr rfl, tracks_takeUp h hp ho hlt⟩
    · exact ⟨[], .inl rfl, by simpa using tracks_rest h hp⟩
    · exact ⟨[], .inl rfl, by simpa using tracks_put h hp ho⟩

theorem tracks_move (h : w.Tracks f taken) (m : Move) :
    ∃ more, (more = [] ∨ more = [w.snapshot]) ∧ (w.move m).Tracks f (taken ++ more) := by
  have same {v : Following} (hv : v.Tracks f taken) :
      ∃ more, (more = [] ∨ more = [w.snapshot]) ∧ v.Tracks f (taken ++ more) :=
    ⟨[], .inl rfl, by simpa using hv⟩
  cases m with
  | commit now sets => exact same (tracks_commit h now sets)
  | produce => exact tracks_produce h
  | take => exact same (tracks_take h)
  | cancel => exact same (tracks_cancel h)
  | leave => exact same (tracks_leave h)

/-- Every run keeps track of a script, and all its snapshots were current in the run. -/
theorem exists_tracks_run (h : w.Tracks f []) (moves : List Move) :
    ∃ taken, (w.run moves).Tracks f taken ∧
      ∀ s ∈ taken, ∃ earlier, earlier <+: moves ∧ (w.run earlier).snapshot = s := by
  induction moves using List.reverseRecOn with
  | nil => exact ⟨[], h, by simp⟩
  | append_singleton moves m ih =>
    obtain ⟨taken, ht, hcur⟩ := ih
    obtain ⟨more, hm, ht'⟩ := tracks_move ht m
    refine ⟨taken ++ more, run_concat w moves m ▸ ht', fun s hs => ?_⟩
    have hpre : moves <+: moves ++ [m] := List.prefix_append _ _
    rcases List.mem_append.mp hs with hs | hs
    · obtain ⟨earlier, he, hes⟩ := hcur s hs
      exact ⟨earlier, he.trans hpre, hes⟩
    · rcases hm with rfl | rfl
      · simp at hs
      · exact ⟨moves, hpre, (List.mem_singleton.mp hs).symm⟩

/-! ## What is read -/

theorem snapshot_run_of_noCommit (w : Following) {moves : List Move}
    (h : ∀ m ∈ moves, m.isCommit = false) : (w.run moves).snapshot = w.snapshot := by
  induction moves generalizing w with
  | nil => rfl
  | cons m moves ih =>
    have hm : (w.move m).snapshot = w.snapshot := by
      cases m with
      | commit => exact nomatch h _ List.mem_cons_self
      | produce => simp only [move]; split <;> rfl
      | take => simp only [move]; split <;> rfl
      | cancel => rfl
      | leave => rfl
    exact (ih (w.move m) fun n hn => h n (List.mem_cons_of_mem m hn)).trans hm

/-- Of a ready snapshot that the producer has nothing more to send about, all was read. -/
theorem Tracks.mirrors (h : w.Tracks f taken) (hready : w.snapshot.isReady = true)
    (hp : w.feed.phase = .waiting) (hblocked : w.feed.step? w.snapshot = none)
    (hq : w.feed.queue = []) :
    (Change.replay Holding.empty w.got).Mirrors (w.snapshot.view f) := by
  obtain ⟨ho, hle⟩ := Feed.generation_le_seen hp hblocked
  have hgot : w.got = Feed.script f taken := by
    simpa [hq, hp, Feed.left] using h.pending (by simp [hp]) ho.2
  have hpos : 0 < w.snapshot.generation := by simpa [Snapshot.isReady] using hready
  have hlast : Feed.lastView f taken = w.snapshot.view f := by
    rcases taken.eq_nil_or_concat' with rfl | ⟨earlier, s, rfl⟩
    · have hz : w.feed.seen = 0 := h.seen
      omega
    · have hseen : w.feed.seen = s.generation := by simpa using h.seen
      -- The last snapshot that was taken up is as new as the current one, so it is the current one.
      rcases h.taken_current s (by simp) with rfl | hlt
      · exact Feed.lastView_concat f earlier _
      · exact absurd hlt (by omega)
  rw [hgot, ← hlast]
  exact (Feed.replay_script h.taken_faithful).2

/-- Every change that was read fits what was read before it. -/
theorem Tracks.fits (h : w.Tracks f taken) {before after : List Change} {c : Change}
    (hgot : w.got = before ++ c :: after) :
    Change.Fits (Change.replay Holding.empty before) c := by
  have hpre : w.got <+: Feed.script f taken := (List.prefix_append _ _).trans h.sent
  have hl : Change.Lawful Holding.empty (Feed.script f taken) :=
    (Feed.replay_script h.taken_faithful).1
  exact Change.lawful_iff.mp (Change.lawful_of_prefix hpre hl) before c after hgot

/-- Once a producer that is neither cancelled nor left waits for the next snapshot and all that it
sent was read, the subscriber has the current view, whatever snapshots went by unseen. -/
theorem mirrors_view_of_drained (published : List (Time.Instant × List RecordSet)) (f : Filters)
    (buffer : Nat) (moves : List Move) :
    let w := (opened published f buffer).run moves
    w.snapshot.isReady = true → w.feed.phase = .waiting → w.feed.step? w.snapshot = none →
      w.feed.queue = [] →
      (Change.replay Holding.empty w.got).Mirrors (w.snapshot.view f) := by
  intro w
  obtain ⟨taken, h, -⟩ := exists_tracks_run (tracks_opened published f buffer) moves
  exact h.mirrors

/-- The second of three commits is skipped, as it comes while the queue of one place is full. -/
theorem mirrors_view_of_drained_coalesced :
    let w := (opened [(.epoch, [.single "x"])] Filters.unfiltered 0).run
      [.produce, .produce, .commit .epoch [.single "y"], .commit .epoch [.single "z"], .produce,
        .take, .produce, .produce, .produce, .take, .produce]
    w.snapshot.isReady = true ∧ w.feed.phase = .waiting ∧ w.feed.step? w.snapshot = none ∧
      w.feed.queue = [] ∧ w.got = [⟨.added, .single "x"⟩, ⟨.modified, .single "z"⟩] ∧
      (Change.replay Holding.empty w.got).Mirrors (w.snapshot.view Filters.unfiltered) := by
  intro w
  have hx : listing Filters.unfiltered [.single "x"] = [.single "x"] :=
    listing_eq_singleton (by decide)
  have hz : listing Filters.unfiltered [.single "z"] = [.single "z"] :=
    listing_eq_singleton (by decide)
  have hnew : Change.between [] [.single "x"] = [⟨.added, .single "x"⟩] := rfl
  have hold : Change.between [.single "x"] [.single "z"] = [⟨.modified, .single "z"⟩] := by decide
  have hshared : Snapshot.isShared Filters.unfiltered = true := rfl
  have hw : w.snapshot.isReady = true ∧ w.feed.phase = .waiting ∧
      w.feed.step? w.snapshot = none ∧ w.feed.queue = [] ∧
      w.got = [⟨.added, .single "x"⟩, ⟨.modified, .single "z"⟩] := by
    simp [w, opened, run, move, Snapshot.commits, Snapshot.commit, Snapshot.empty,
      Snapshot.isReady, Snapshot.view, hshared, hx, hz, Feed.start, Feed.step?, Feed.take?, hnew,
      hold]
  obtain ⟨hready, hp, hblocked, hq, hgot⟩ := hw
  exact ⟨hready, hp, hblocked, hq, hgot,
    mirrors_view_of_drained _ _ _ _ hready hp hblocked hq⟩

/-- Nothing is read before the first commit. What is read is a beginning of the script of ready
snapshots that were current one after the other, with rising generations; their views are sorted.
Every change that is read fits what was read before it. -/
theorem got_wellFormed (published : List (Time.Instant × List RecordSet)) (f : Filters)
    (buffer : Nat) (moves : List Move) :
    let start := opened published f buffer
    let got := (start.run moves).got
    (published = [] → (∀ m ∈ moves, m.isCommit = false) → got = []) ∧
      (∃ taken : List Snapshot, got <+: Feed.script f taken ∧
        (∀ s ∈ taken, s.isReady = true ∧ (s.view f).Pairwise Record.Before ∧
          ∃ earlier, earlier <+: moves ∧ (start.run earlier).snapshot = s) ∧
        taken.Pairwise fun s t => s.generation < t.generation) ∧
      ∀ before c after, got = before ++ c :: after →
        Change.Fits (Change.replay Holding.empty before) c := by
  intro start got
  obtain ⟨taken, h, hcur⟩ := exists_tracks_run (tracks_opened published f buffer) moves
  have hpre : got <+: Feed.script f taken := (List.prefix_append _ _).trans h.sent
  refine ⟨fun hnone hm => ?_, ⟨taken, hpre, fun s hs => ⟨h.taken_ready s hs,
    Snapshot.pairwise_before_view (h.taken_faithful s hs) f, hcur s hs⟩, h.rising⟩,
    fun before c after => h.fits⟩
  have hempty : taken = [] := by
    apply List.eq_nil_iff_forall_not_mem.mpr
    intro s hs
    obtain ⟨earlier, he, hes⟩ := hcur s hs
    have hz := snapshot_run_of_noCommit start fun m hme => hm m (he.subset hme)
    have hr := h.taken_ready s hs
    subst hnone
    rw [← hes, hz] at hr
    exact nomatch hr
  rw [hempty] at hpre
  exact List.prefix_nil.mp hpre

/-- Nothing is read before the first of two commits, and the second one takes back what it gave. -/
theorem got_wellFormed_drained :
    let start := opened [] Filters.unfiltered 1
    let moves : List Move :=
      [.produce, .take, .commit .epoch [.single "x"], .produce, .produce, .take, .produce,
        .commit .epoch [], .produce, .produce, .take, .produce]
    let w := start.run moves
    (start.run (moves.take 2)).got = [] ∧ w.feed.phase = .waiting ∧ w.feed.queue = [] ∧
      w.got = [⟨.added, .single "x"⟩, ⟨.deleted, .single "x"⟩] ∧
      (∃ taken : List Snapshot, w.got <+: Feed.script Filters.unfiltered taken ∧
        (∀ s ∈ taken, s.isReady = true ∧
          ∃ earlier, earlier <+: moves ∧ (start.run earlier).snapshot = s) ∧
        taken.Pairwise fun s t => s.generation < t.generation) ∧
      Change.Fits (Change.replay Holding.empty [⟨.added, .single "x"⟩])
        ⟨.deleted, .single "x"⟩ := by
  intro start moves w
  have hx : listing Filters.unfiltered [.single "x"] = [.single "x"] :=
    listing_eq_singleton (by decide)
  have hnone : listing Filters.unfiltered [] = [] := List.mergeSort_nil
  have hnew : Change.between [] [.single "x"] = [⟨.added, .single "x"⟩] := rfl
  have hgone : Change.between [.single "x"] [] = [⟨.deleted, .single "x"⟩] := by decide
  have hshared : Snapshot.isShared Filters.unfiltered = true := rfl
  have hw : w.feed.phase = .waiting ∧ w.feed.queue = [] ∧
      w.got = [⟨.added, .single "x"⟩, ⟨.deleted, .single "x"⟩] := by
    simp [w, start, moves, opened, run, move, Snapshot.commits, Snapshot.commit, Snapshot.empty,
      Snapshot.view, hshared, hx, hnone, Feed.start, Feed.step?, Feed.take?, hnew, hgone]
  obtain ⟨hp, hq, hgot⟩ := hw
  obtain ⟨hsilent, -, -⟩ := got_wellFormed [] Filters.unfiltered 1 (moves.take 2)
  obtain ⟨-, ⟨taken, hpre, htaken, hrising⟩, hfits⟩ := got_wellFormed [] Filters.unfiltered 1 moves
  refine ⟨hsilent rfl (by decide), hp, hq, hgot, ⟨taken, hpre, fun s hs => ?_, hrising⟩, ?_⟩
  · obtain ⟨hready, -, hcurrent⟩ := htaken s hs
    exact ⟨hready, hcurrent⟩
  · exact hfits [⟨.added, .single "x"⟩] _ [] hgot

end Following

end Namebook
