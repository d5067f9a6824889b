import Namebook.Proofs.Course.Sign
import Namebook.Proofs.Following

/-!
# A feed of a course is followed

What happens to the snapshot and to one feed of a course are the moves of a subscriber that follows
the snapshots through this feed. Whatever else is done in the course is no move. So what a reader
gets is in every course what it is for such a subscriber.
-/

namespace Namebook

open Following (Move)

namespace Course

/-- What a deed is to one who follows the feed `id`. -/
def Deed.move? (id : String) : Deed → Option Move
  | produce i => if i = id then some .produce else none
  | take i => if i = id then some .take else none
  | cancelFeed i => if i = id then some .cancel else none
  | closeFeed i => if i = id then some .leave else none
  | shutdown => some .cancel
  | _ => none

/-- Whatever publishes sets commits them. -/
def Event.move? (id : String) (e : Event) : Option Move :=
  (e.published?.map fun sets => .commit e.before.directory.instant sets).or (e.deed.move? id)

/-- The moves of the feed `id` among these events. -/
def moves (id : String) (events : List Event) : List Move := events.filterMap (Event.move? id)

variable {w : Course}

/-- When something is published the snapshot is committed with the moment. -/
def Event.commit? (e : Event) : Option (Time.Instant × List RecordSet) :=
  e.published?.map fun sets => (e.before.directory.instant, sets)

/-- The snapshot is what the commits made of the one at the beginning. -/
theorem snapshot_run (w : Course) (deeds : List Deed) :
    (w.run deeds).directory.snapshot =
      w.directory.snapshot.commits ((w.history deeds).filterMap Event.commit?) := by
  induction deeds generalizing w with
  | nil => rfl
  | cons m deeds ih =>
    have hfirst : (w.act m).2.directory.snapshot =
        w.directory.snapshot.commits (Event.mk w m).commit?.toList := by
      unfold Event.commit?
      rcases w.publication_cases m with ⟨hp, -, hs⟩ | ⟨sets, hp, -, hs⟩
      · rw [hp, hs]
        rfl
      · rw [hp, hs]
        rfl
    unfold Snapshot.commits at hfirst ih ⊢
    rw [filterMap_history_cons, List.foldl_append, ← hfirst]
    exact ih (w.act m).2

theorem history_take (w : Course) (deeds : List Deed) (n : Nat) :
    w.history (deeds.take n) = (w.history deeds).take n := by
  induction deeds generalizing w n with
  | nil => rw [List.take_nil, history, List.take_nil]
  | cons m deeds ih =>
    cases n with
    | zero => rfl
    | succ n => exact congrArg (Event.mk w m :: ·) (ih (w.act m).2 n)

/-- A beginning of what happened is what happened at a beginning of the deeds. -/
theorem exists_prefix_of_prefix_history {deeds : List Deed} {events : List Event}
    (h : events <+: w.history deeds) :
    ∃ earlier, earlier <+: deeds ∧ w.history earlier = events := by
  refine ⟨deeds.take events.length, List.take_prefix _ deeds, ?_⟩
  rw [history_take]
  exact (List.prefix_iff_eq_take.mp h).symm

end Course

namespace Following

open Course (Deed Event Answer moves received receipt signs)

variable {v : Following} {w : Course} {id : String}

/-- The snapshot and the feed `id` of a course. From a feed that was left there is nothing to
read. -/
structure IsOf (v : Following) (w : Course) (id : String) : Prop where
  snapshot : v.snapshot = w.directory.snapshot
  feed : w.directory.feeds.lookup id = some v.feed
  left : v.feed.receiving = false → v.feed.queue = []

/-- An event is a move or nothing. -/
def heed (id : String) (v : Following) (e : Event) : Following := (e.move? id).elim v v.move

/-- What comes of an event: the same subscriber is followed, and got what was received. -/
structure Heeds (v : Following) (id : String) (e : Event) : Prop where
  isOf : (v.heed id e).IsOf e.after id
  got : (v.heed id e).got = v.got ++ (e.received? id).toList

/-- A deed that is about neither this feed nor all of them is no move, but it may publish. -/
theorem heeds_of_other (h : v.IsOf w id) {m : Deed} (hm : m.feed? ≠ some id) (hs : m ≠ .shutdown) :
    v.Heeds id ⟨w, m⟩ := by
  have hmove : m.move? id = none := by
    have hne (i : String) (hi : some i ≠ some id) : i ≠ id := fun he => hi (congrArg some he)
    cases m with
    | produce i => exact if_neg (hne i hm)
    | take i => exact if_neg (hne i hm)
    | cancelFeed i => exact if_neg (hne i hm)
    | closeFeed i => exact if_neg (hne i hm)
    | shutdown => exact absurd rfl hs
    | _ => rfl
  have hreceived : (Event.mk w m).received? id = none := by
    rw [Course.received?_eq h.feed]
    cases m with
    | take i => exact if_neg fun hi => hm (congrArg some hi.1)
    | _ => rfl
  have hfeed : (w.act m).2.directory.feeds.lookup id = some v.feed :=
    (Course.lookup_feeds_act_of_other hm hs).trans h.feed
  have hheed : v.heed id ⟨w, m⟩ = ((Event.mk w m).published?.map fun sets =>
      Move.commit w.directory.instant sets).elim v v.move := by
    unfold heed Event.move?
    rw [hmove, Option.or_none]
  refine ⟨?_, ?_⟩
  · rw [hheed]
    rcases w.publication_cases m with ⟨hp, -, hsnapshot⟩ | ⟨sets, hp, -, hsnapshot⟩
    · rw [hp]
      exact ⟨h.snapshot.trans hsnapshot.symm, hfeed, h.left⟩
    · rw [hp]
      refine ⟨?_, hfeed, h.left⟩
      exact (congrArg (Snapshot.commit · w.directory.instant sets) h.snapshot).trans hsnapshot.symm
  · rw [hheed, hreceived, Option.toList_none, List.append_nil]
    cases (Event.mk w m).published? with
    | none => rfl
    | some sets => rfl

/-- A deed about the feed publishes nothing. -/
theorem heeds_of_move (h : v.IsOf w id) {m : Deed} {move : Move} (hm : m.move? id = some move)
    (hkeeps : w.Keeps (w.act m)) (hsnapshot : (v.move move).snapshot = v.snapshot)
    (hfeed : (v.move move).feed = m.onFeed id w.directory.snapshot v.feed)
    (hleft : (v.move move).feed.receiving = false → (v.move move).feed.queue = [])
    (hgot : (v.move move).got = v.got ++ (m.brings? id v.feed).toList) : v.Heeds id ⟨w, m⟩ := by
  have hspares : m.Spares id := by
    rintro filters rfl
    exact nomatch hm
  have hheed : v.heed id ⟨w, m⟩ = v.move move := by
    unfold heed Event.move?
    rw [Course.published?_of_keeps hkeeps, hm]
    rfl
  refine ⟨?_, ?_⟩
  · rw [hheed]
    refine ⟨hsnapshot.trans (h.snapshot.trans hkeeps.2.symm), ?_, hleft⟩
    rw [hfeed]
    exact Course.lookup_feeds_act h.feed (hspares.not_opens w)
  · rw [hheed, hgot, Course.received?_eq h.feed]

theorem heeds_produce (h : v.IsOf w id) : v.Heeds id ⟨w, .produce id⟩ := by
  have hfeed : (v.move .produce).feed = (Course.produceIn w.directory.snapshot v.feed).2.1 := by
    unfold move Course.produceIn
    rw [h.snapshot]
    cases v.feed.step? w.directory.snapshot with
    | none => rfl
    | some next => rfl
  have hsame : (v.move .produce).snapshot = v.snapshot ∧ (v.move .produce).got = v.got := by
    unfold move
    dsimp only
    split <;> exact ⟨rfl, rfl⟩
  refine heeds_of_move h (if_pos rfl)
    (Course.keeps_inFeed (Course.generation?_produceIn w.directory.snapshot)) hsame.1
    (hfeed.trans (Deed.onFeed_produce id _ _).symm) (fun hr => ?_)
    (hsame.2.trans (List.append_nil _).symm)
  rw [hfeed, Course.receiving_produceIn] at hr
  have hclosed : ¬v.feed.IsOpen := fun ho => Bool.false_ne_true (hr.symm.trans ho.2)
  rw [hfeed, Course.queue_produceIn_of_closed hclosed]
  exact h.left hr

theorem heeds_take (h : v.IsOf w id) : v.Heeds id ⟨w, .take id⟩ := by
  have hmove : (v.move .take).snapshot = v.snapshot ∧
      (v.move .take).feed = (Course.takeFrom v.feed).2.1 ∧
      (v.move .take).got = v.got ++ ((Deed.take id).brings? id v.feed).toList := by
    cases hq : v.feed.queue with
    | nil =>
      have hstays : (Course.takeFrom v.feed).2.1 = v.feed := by
        cases hr : v.feed.receiving with
        | false => rw [Course.takeFrom_of_left hr]
        | true => rw [Course.takeFrom_of_nil hr hq]
      simp [move, Feed.take?, hq, hstays, Deed.brings?]
    | cons c queue =>
      have hr : v.feed.receiving = true :=
        Bool.of_not_eq_false fun hr => List.cons_ne_nil c queue (hq.symm.trans (h.left hr))
      simp [move, Feed.take?, hq, Course.takeFrom_of_cons hr hq, Deed.brings?, hr]
  refine heeds_of_move h (if_pos rfl) (Course.keeps_inFeed Course.generation?_takeFrom) hmove.1
    (hmove.2.1.trans (Deed.onFeed_take id _ _).symm) (fun hr => ?_) hmove.2.2
  rw [hmove.2.1, (Course.takeFrom_keeps v.feed).2.1] at hr
  rw [hmove.2.1, Course.takeFrom_of_left hr]
  exact h.left hr

theorem heeds_of_impossible (h : v.IsOf w id) {i : String} {filters : Filters}
    (ha : w.act (.openFeed i filters) = (.impossible, w)) :
    v.Heeds id ⟨w, .openFeed i filters⟩ := by
  have hkeeps : w.Keeps (w.act (.openFeed i filters)) := ha ▸ Course.keeps_impossible
  have hheed : v.heed id ⟨w, .openFeed i filters⟩ = v := by
    unfold heed Event.move?
    rw [Course.published?_of_keeps hkeeps]
    rfl
  have hafter : (Event.mk w (.openFeed i filters)).after = w := congrArg Prod.snd ha
  refine ⟨?_, ?_⟩
  · rw [hheed, hafter]
    exact h
  · rw [hheed]
    exact (List.append_nil v.got).symm

/-- What is done to a feed that is not opened anew is a move, and whatever else publishes is one. -/
theorem heeds_event (h : v.IsOf w id) {m : Deed}
    (hm : ∀ filters, ¬(Event.mk w m).Opens id filters) : v.Heeds id ⟨w, m⟩ := by
  by_cases hfeed : m.feed? = some id
  · cases m with
    | openFeed i filters =>
      obtain rfl := Option.some.inj hfeed
      rcases w.act_openFeed_cases i filters with himpossible | hdone
      · exact heeds_of_impossible h himpossible
      · exact absurd ⟨rfl, congrArg Prod.fst hdone⟩ (hm filters)
    | produce i =>
      obtain rfl := Option.some.inj hfeed
      exact heeds_produce h
    | take i =>
      obtain rfl := Option.some.inj hfeed
      exact heeds_take h
    | cancelFeed i =>
      obtain rfl := Option.some.inj hfeed
      exact heeds_of_move h (if_pos rfl) (Course.keeps_inFeed fun _ => rfl) rfl (if_pos rfl).symm
        h.left (List.append_nil _).symm
    | closeFeed i =>
      obtain rfl := Option.some.inj hfeed
      exact heeds_of_move h (if_pos rfl) (Course.keeps_inFeed fun _ => rfl) rfl (if_pos rfl).symm
        (fun _ => rfl) (List.append_nil _).symm
    | _ => exact nomatch hfeed
  · by_cases hs : m = .shutdown
    · subst hs
      exact heeds_of_move h rfl ⟨rfl, rfl⟩ rfl rfl h.left (List.append_nil _).symm
    · exact heeds_of_other h hfeed hs

/-- From its opening on a feed of a course runs as one that is followed: the moves are read off what
happens, and what the subscriber has read is what was received. -/
theorem isOf_run (h : v.IsOf w id) {later : List Deed}
    (hspares : ∀ e ∈ w.history later, ∀ filters, ¬e.Opens id filters) :
    (v.run (moves id (w.history later))).IsOf (w.run later) id ∧
      (v.run (moves id (w.history later))).got = v.got ++ received id (w.history later) := by
  induction later generalizing w v with
  | nil => exact ⟨h, (List.append_nil v.got).symm⟩
  | cons m later ih =>
    obtain ⟨hfirst, hrest⟩ := List.forall_mem_cons.mp hspares
    have hheeds := heeds_event h hfirst
    have hrun : v.run (moves id (w.history (m :: later))) =
        (v.heed id ⟨w, m⟩).run (moves id ((w.act m).2.history later)) := by
      unfold moves heed
      rw [Course.filterMap_history_cons]
      cases (Event.mk w m).move? id with
      | none => rfl
      | some move => rfl
    have hone : (v.heed id ⟨w, m⟩).IsOf (w.act m).2 id := hheeds.isOf
    obtain ⟨hisOf, hgot⟩ := ih hone hrest
    rw [hrun]
    refine ⟨hisOf, ?_⟩
    unfold received at hgot ⊢
    rw [hgot, hheeds.got, Course.filterMap_history_cons, List.append_assoc]

/-- A feed that is opened is followed from the snapshot of that moment on. In a directory that is
ending it is cancelled at once. -/
def atOpening (w : Course) (filters : Filters) : Following :=
  let v : Following := ⟨w.directory.snapshot, Feed.start filters w.directory.streamBuffer, []⟩
  if w.directory.isStopping then v.move .cancel else v

theorem isOf_atOpening {m : Deed} {filters : Filters} (h : (Event.mk w m).Opens id filters) :
    (atOpening w filters).IsOf (w.act m).2 id := by
  obtain rfl : m = .openFeed id filters := h.deed
  have hdone : (w.act (.openFeed id filters)).1 = .done := h.answer
  rcases w.act_openFeed_cases id filters with ha | ha
  · rw [ha] at hdone
    exact nomatch hdone
  · rw [ha]
    unfold atOpening
    by_cases hs : w.directory.isStopping = true
    · rw [if_pos hs, if_pos hs]
      exact ⟨rfl, Table.lookup_insert_self id _ _, nofun⟩
    · rw [if_neg hs, if_neg hs]
      exact ⟨rfl, Table.lookup_insert_self id _ _, nofun⟩

end Following

namespace Course

variable {grouping : Grouping} {resolver : Dns.Resolver} {streamBuffer : Nat} {id : String}
variable {deeds : List Deed} {p : Receipt}

theorem streamBuffer_run (w : Course) (deeds : List Deed) :
    (w.run deeds).directory.streamBuffer = w.directory.streamBuffer :=
  run_keeps (I := fun e => e.directory.streamBuffer = w.directory.streamBuffer)
    (fun e m h => (e.touches_act m).streamBuffer.trans h) rfl deeds

/-- At its opening nothing was taken up and nothing was read. -/
theorem tracks_atOpening (earlier : List Deed) (filters : Filters) :
    (Following.atOpening ((new grouping resolver streamBuffer).run earlier) filters).Tracks
      filters [] := by
  let start := new grouping resolver streamBuffer
  let v := Following.opened ((start.history earlier).filterMap Event.commit?) filters streamBuffer
  have hv : v.Tracks filters [] := Following.tracks_opened _ filters streamBuffer
  have hatOpening : Following.atOpening (start.run earlier) filters =
      if (start.run earlier).directory.isStopping then v.move .cancel else v := by
    unfold Following.atOpening
    rw [snapshot_run, streamBuffer_run]
    rfl
  rw [hatOpening]
  split
  · exact Following.tracks_cancel hv
  · exact hv

/-- Whoever has a receipt has followed the snapshots through the feed, and all that the producer
took up was current in the course. -/
theorem exists_tracks
    (h : receipt id (signs ((new grouping resolver streamBuffer).history deeds)) = some p) :
    let start := new grouping resolver streamBuffer
    ∃ v taken, Following.IsOf v (start.run deeds) id ∧ v.got = p.got ∧
      Following.Tracks v p.filters taken ∧
      ∀ s ∈ taken, ∃ before, before <+: deeds ∧ (start.run before).directory.snapshot = s := by
  intro start
  obtain ⟨earlier, m, later, rfl, hopens, hspares, hgot⟩ := exists_opening h
  have hrun (first : List Deed) : start.run (earlier ++ m :: first) =
      (((start.run earlier).act m).2.run first) := List.foldl_append
  obtain ⟨taken, htracks, hcurrent⟩ := Following.exists_tracks_run
    (tracks_atOpening earlier p.filters) (moves id (((start.run earlier).act m).2.history later))
  have hat := Following.isOf_atOpening hopens
  obtain ⟨hisOf, hread⟩ := Following.isOf_run hat hspares
  refine ⟨_, taken, hrun later ▸ hisOf, ?got, htracks, fun s hs => ?current⟩
  case got =>
    have hnothing : (Following.atOpening (start.run earlier) p.filters).got = [] := by
      unfold Following.atOpening
      dsimp only
      split <;> rfl
    rw [hread, hnothing, List.nil_append, hgot]
  case current =>
    obtain ⟨before, hbefore, hs⟩ := hcurrent s hs
    obtain ⟨events, hevents, rfl⟩ := List.prefix_filterMap_iff.mp hbefore
    obtain ⟨first, hfirst, rfl⟩ := exists_prefix_of_prefix_history hevents
    refine ⟨earlier ++ m :: first, ?_, ?_⟩
    · exact (List.prefix_append_right_inj earlier).mpr ((List.prefix_cons_inj m).mpr hfirst)
    · obtain ⟨hfollows, -⟩ := Following.isOf_run hat fun e he => hspares e (hevents.subset he)
      rw [hrun, ← hfollows.snapshot]
      exact hs

theorem publications_eq_nil_of_silent {w : Course} {before : List Deed} (hbefore : before <+: deeds)
    (h : publications (w.history deeds) = []) : publications (w.history before) = [] := by
  obtain ⟨rest, rfl⟩ := hbefore
  unfold publications at h ⊢
  rw [history_append, List.filterMap_append] at h
  exact (List.append_eq_nil_iff.mp h).1

/-- The reader of a feed, at any time of any course of a new directory. It gets nothing before the
first publication. What it gets is a beginning of the script of ready snapshots that were current
one after the other, with rising generations, whose views are sorted, and every change fits those
before it. Once the producer waits for the next snapshot and all that it sent was read, the reader
has the current view. -/
theorem receipt_of_course (grouping : Grouping) (resolver : Dns.Resolver) (streamBuffer : Nat)
    (deeds : List Deed) (id : String) (p : Receipt)
    (h : receipt id (signs ((new grouping resolver streamBuffer).history deeds)) = some p) :
    let start := new grouping resolver streamBuffer
    let w := start.run deeds
    ∃ f, w.directory.feeds.lookup id = some f ∧ f.filters = p.filters ∧
      (publications (start.history deeds) = [] → p.got = []) ∧
      (∃ taken : List Snapshot, p.got <+: Feed.script p.filters taken ∧
        (∀ s ∈ taken, s.isReady = true ∧ (s.view p.filters).Pairwise Record.Before ∧
          ∃ before, before <+: deeds ∧ (start.run before).directory.snapshot = s) ∧
        taken.Pairwise fun s t => s.generation < t.generation) ∧
      (∀ before c after, p.got = before ++ c :: after →
        Change.Fits (Change.replay Holding.empty before) c) ∧
      (w.directory.snapshot.isReady = true → f.phase = .waiting →
        f.step? w.directory.snapshot = none → f.queue = [] →
        (Change.replay Holding.empty p.got).Mirrors (w.directory.snapshot.view p.filters)) := by
  intro start w
  obtain ⟨v, taken, hisOf, hgot, htracks, hcurrent⟩ := exists_tracks h
  have hpre : p.got <+: Feed.script p.filters taken :=
    hgot ▸ (List.prefix_append _ _).trans htracks.sent
  refine ⟨v.feed, hisOf.feed, htracks.filters, fun hnone => ?silent,
    ⟨taken, hpre, fun s hs => ⟨htracks.taken_ready s hs,
      Snapshot.pairwise_before_view (htracks.taken_faithful s hs) p.filters, hcurrent s hs⟩,
      htracks.rising⟩,
    fun before c after hsplit => htracks.fits (hgot.trans hsplit),
    fun hready hp hblocked hq => ?mirrors⟩
  case silent =>
    have hempty : taken = [] := by
      apply List.eq_nil_iff_forall_not_mem.mpr
      intro s hs
      obtain ⟨before, hbefore, rfl⟩ := hcurrent s hs
      have hmade := isMadeOf_run_new grouping resolver streamBuffer before
      exact hmade.isReady.mp (htracks.taken_ready _ hs)
        (publications_eq_nil_of_silent hbefore hnone)
    rw [hempty] at hpre
    exact List.prefix_nil.mp hpre
  case mirrors =>
    have hs : v.snapshot = w.directory.snapshot := hisOf.snapshot
    rw [← hgot, ← hs]
    exact htracks.mirrors (hs ▸ hready) hp (hs ▸ hblocked) hq

end Course

end Namebook
