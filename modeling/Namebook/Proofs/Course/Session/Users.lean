import Namebook.Proofs.Course.Following
import Namebook.Proofs.Course.Session

/-!
# The users of a session

Readers of feeds and subscribers only know what was answered to them. In every session it is what it
is in every course; and as all that can go on does so before the next request, a reader who takes
all that is there has the current view.
-/

namespace Namebook

theorem Directory.poll_of_lookup (d : Directory) {id : String} {s : Subscription}
    (h : d.subscriptions.lookup id = some s)
    (question : Subscription → Snapshot → Bool → Poll Snapshot × Subscription) :
    (d.poll id question).1 = some (question s d.snapshot d.isAlive).1 := by
  unfold poll
  rw [h]

/-- Reading all that is outstanding in an open feed empties its queue, and does nothing else. -/
theorem Directory.readFeed_all {d : Directory} (hrest : d.AtRest) {id : String} {f : Feed}
    (hf : d.feed? id = some f) (hlive : f.IsLive) :
    ∃ r, (d.readFeed id none).1 = some r ∧ (d.readFeed id none).2.snapshot = d.snapshot ∧
      ∃ g, (d.readFeed id none).2.feeds.lookup id = some g ∧ g.IsOpen ∧ g.queue = [] := by
  let r := f.read d.snapshot (f.outstanding d.snapshot).length
  let e := (d.putFeed id r.feed).noteAll r.happenings
  obtain ⟨hlive', -, hstays⟩ : r.feed.IsLive ∧ _ ∧ r.feed.step? d.snapshot = none :=
    (Feed.outstanding_read (f.outstanding d.snapshot).length hlive).2
  have hidle : e.IsIdleBefore (e.now + 1) := hrest.loops
  have hread : (d.readFeed id none).2 = e.settleFeeds := by
    unfold readFeed
    rw [hf]
    exact settle_of_isIdleBefore hidle
  have hanswer : ∃ r, (d.readFeed id none).1 = some r := by
    unfold readFeed
    rw [hf]
    exact ⟨_, rfl⟩
  obtain ⟨answer, ha⟩ := hanswer
  have hlookup : e.settleFeeds.feeds.lookup id = some r.feed := by
    have hput : e.feeds.lookup id = some r.feed := Table.lookup_insert_self id r.feed d.feeds
    have hsettled : r.feed.settle e.snapshot = (r.feed, []) := Feed.settle_of_step?_eq_none hstays
    have hmap := Table.lookup_map (fun g : Feed => (g.settle e.snapshot).1) e.feeds id
    rw [feeds_settleFeeds]
    refine hmap.trans ?_
    rw [hput, Option.map_some, hsettled]
  rw [hread]
  exact ⟨answer, ha, rfl, r.feed, hlookup, hlive'.isOpen, Feed.queue_read_all hlive⟩

namespace Course

/-- Changes that are brought go to the receipt in their order. -/
theorem receipt_brought (id : String) (p : Receipt) (changes : List Change) :
    (changes.map (Sign.brought id)).foldl (Sign.receipt id) (some p) =
      some { p with got := p.got ++ changes } := by
  induction changes generalizing p with
  | nil => rw [List.append_nil]; rfl
  | cons c changes ih =>
    rw [List.map_cons, List.foldl_cons]
    have hfirst : Sign.receipt id (some p) (.brought id c) = some { p with got := p.got ++ [c] } :=
      if_pos rfl
    rw [hfirst, ih, List.append_assoc]
    rfl

/-! ## Answers -/

theorem act_next {d : Directory} {calls : List Call} {id : String} {s : Subscription}
    (h : d.subscriptions.lookup id = some s) :
    (Course.mk d calls).act (.next id) =
      (.polled (s.next d.snapshot d.isAlive).1, ⟨(d.next id).2, calls⟩) := by
  change (Course.mk d calls).ask (d.next id) = _
  unfold Directory.next Directory.poll ask
  rw [h]

theorem next_of_act {d : Directory} {calls : List Call} {id : String} {answer : Poll Snapshot}
    (h : ((Course.mk d calls).act (.next id)).1 = .polled answer) :
    (d.next id).1 = some answer := by
  change ((Course.mk d calls).ask (d.next id)).1 = _ at h
  unfold ask at h
  cases hd : d.next id with
  | mk result e =>
    rw [hd] at h
    cases result with
    | none => exact nomatch h
    | some given => exact congrArg some (Answer.polled.inj h)

theorem serves_of_next (s : Subscription) (current : Snapshot) (alive : Bool) :
    (Answer.polled (s.next current alive).1).Serves (s.seen < current.generation) (some current)
      alive := by
  unfold Subscription.next
  by_cases hlt : s.seen < current.generation
  · rw [if_pos hlt]
    exact Answer.serves_ready hlt rfl alive
  · rw [if_neg hlt]
    exact Answer.serves_idle hlt _ alive

theorem serves_of_whenReady (s : Subscription) (current : Snapshot) (alive : Bool) :
    (Answer.polled (s.whenReady current alive).1).Serves (0 < current.generation) (some current)
      alive := by
  unfold Subscription.whenReady Snapshot.isReady
  by_cases hpos : 0 < current.generation
  · rw [if_pos (decide_eq_true hpos)]
    exact Answer.serves_ready hpos rfl alive
  · rw [if_neg fun h => hpos (of_decide_eq_true h)]
    exact Answer.serves_idle hpos _ alive

section
variable (grouping : Grouping) (resolver : Dns.Resolver) (streamBuffer : Nat)
variable (requests : List Request) {id : String}

/-! ## Readers of feeds -/

/-- A feed that is open in a session has a producer that goes on. -/
theorem isLive_of_session {f : Feed}
    (hf : (session (new grouping resolver streamBuffer).directory requests).feeds.lookup id =
      some f) (ho : f.IsOpen) : f.IsLive := by
  have hkept : HasRoom ⟨session (new grouping resolver streamBuffer).directory requests, []⟩ ∧
      GoesOn ⟨session (new grouping resolver streamBuffer).directory requests, []⟩ :=
    session_keeps grouping resolver streamBuffer (I := fun w => w.HasRoom ∧ w.GoesOn)
      (fun _ m h => ⟨hasRoom_act h.1 m, goesOn_act h.2 m⟩)
      ⟨List.forall_mem_nil _, List.forall_mem_nil _⟩ requests
  exact isLive_of_isOpen hkept.1 hkept.2 hf ho

/-- The reader of a feed in any session with a new directory. It gets nothing before the first
snapshot. What it gets is a beginning of the script of ready snapshots with rising generations,
whose views are sorted, and every change fits those before it. Once it has read all that was sent in
a feed that is open it has the current view. -/
theorem receipt_of_session {p : Receipt}
    (h : receipt id (sessionSigns (new grouping resolver streamBuffer).directory requests) =
      some p) :
    let d := session (new grouping resolver streamBuffer).directory requests
    ∃ f, d.feeds.lookup id = some f ∧ f.filters = p.filters ∧
      (d.snapshot.generation = 0 → p.got = []) ∧
      (∃ taken : List Snapshot, p.got <+: Feed.script p.filters taken ∧
        (∀ s ∈ taken, s.isReady = true ∧ (s.view p.filters).Pairwise Record.Before) ∧
        taken.Pairwise fun s t => s.generation < t.generation) ∧
      (∀ before c after, p.got = before ++ c :: after →
        Change.Fits (Change.replay Holding.empty before) c) ∧
      (d.snapshot.isReady = true → f.IsOpen → f.queue = [] →
        (Change.replay Holding.empty p.got).Mirrors (d.snapshot.view p.filters)) := by
  intro d
  obtain ⟨deeds, -, hrun, hsigns⟩ := tells_session_new grouping resolver streamBuffer requests
  rw [← hsigns] at h
  obtain ⟨f, hf, hfilters, hsilent, ⟨taken, hpre, htaken, hrising⟩, hfits, hmirrors⟩ :=
    receipt_of_course grouping resolver streamBuffer deeds id p h
  have hmade : d.snapshot.IsMadeOf
      (publications ((new grouping resolver streamBuffer).history deeds)) := by
    have hcourse := isMadeOf_run_new grouping resolver streamBuffer deeds
    rwa [hrun] at hcourse
  rw [hrun] at hf hmirrors
  refine ⟨f, hf, hfilters, fun hzero => ?silent, ⟨taken, hpre, fun s hs => ?_, hrising⟩, hfits,
    fun hready ho hq => ?mirrors⟩
  case silent => exact hsilent (List.length_eq_zero_iff.mp (hmade.generation.symm.trans hzero))
  case mirrors =>
    have hrest := (atRest_session_new grouping resolver streamBuffer requests).2.feeds (id, f)
      (Table.mem_of_lookup hf)
    have hp :=
      Feed.waiting_of_queue_nil (isLive_of_session grouping resolver streamBuffer requests hf ho)
        hrest hq
    exact hmirrors hready hp hrest hq
  exact ⟨(htaken s hs).1, (htaken s hs).2.1⟩

/-- Whoever reads all that is outstanding in an open feed has the current view then, whatever was
read before and whatever snapshots went by. -/
theorem mirrors_of_readAll {p : Receipt}
    (h : receipt id (sessionSigns (new grouping resolver streamBuffer).directory requests) =
      some p) :
    let d := session (new grouping resolver streamBuffer).directory requests
    d.snapshot.isReady = true → (∃ f, d.feeds.lookup id = some f ∧ f.IsOpen) →
      ∃ r, (d.readFeed id none).1 = some r ∧
        (Change.replay Holding.empty (p.got ++ r.changes)).Mirrors
          (d.snapshot.view p.filters) := by
  rintro d hready ⟨f, hf, ho⟩
  have hrest := (atRest_session_new grouping resolver streamBuffer requests).2
  have hlive := isLive_of_session grouping resolver streamBuffer requests hf ho
  have hreceives : d.feed? id = some f := Option.filter_eq_some_iff.mpr ⟨hf, ho.2⟩
  obtain ⟨r, hr, hsnapshot, g, hg, hopen, hq⟩ := Directory.readFeed_all hrest hreceives hlive
  refine ⟨r, hr, ?_⟩
  have hlater : session (new grouping resolver streamBuffer).directory
      (requests ++ [.readFeed id none]) = (d.readFeed id none).2 := session_append _ requests _
  have hreceipt : receipt id (sessionSigns (new grouping resolver streamBuffer).directory
      (requests ++ [.readFeed id none])) = some { p with got := p.got ++ r.changes } := by
    have hsigns : sessionSigns d [.readFeed id none] = r.changes.map (.brought id) ++ [] := by
      change (((d.readFeed id none).1.elim [] Directory.FeedReading.changes).map _) ++ [] = _
      rw [hr]
      rfl
    unfold receipt at h ⊢
    rw [sessionSigns_append, List.foldl_append, h, hsigns, List.append_nil, receipt_brought]
  obtain ⟨k, hk, -, -, -, -, hmirrors⟩ :=
    receipt_of_session grouping resolver streamBuffer (requests ++ [.readFeed id none]) hreceipt
  rw [hlater] at hk hmirrors
  obtain rfl : g = k := Option.some.inj (hg.symm.trans hk)
  rw [hsnapshot] at hmirrors
  exact hmirrors hready hopen hq

/-! ## Subscribers -/

/-- How a subscriber is answered in any session with a new directory. One who asks for the next
snapshot gets the current one exactly if it has not seen that, and one who asks whether the snapshot
is ready gets it exactly if it is; who gets nothing is told whether something may still come. The
generations that are given never fall, the current one has been given once the next one was asked
for, and after the end of all there is nothing more. -/
theorem account_of_session {a : Account}
    (h : (sessionSigns (new grouping resolver streamBuffer).directory requests).foldl
      (Sign.account id) none = some a) :
    let d := session (new grouping resolver streamBuffer).directory requests
    (∃ answer, (d.next id).1 = some answer ∧
      (Answer.polled answer).Serves (a.seen < d.snapshot.generation) (some d.snapshot) d.isAlive ∧
      (a.start < d.snapshot.generation →
        ∃ s ∈ (a.hear (.polled answer)).given, s.generation = d.snapshot.generation)) ∧
      (∃ answer, (d.whenReady id).1 = some answer ∧
        (Answer.polled answer).Serves (0 < d.snapshot.generation) (some d.snapshot) d.isAlive) ∧
      a.generations.Pairwise (· ≤ ·) ∧
      (d.isAlive = false → ∀ later, ((session (d.next id).2 later).next id).1 = some .closed) := by
  intro d
  obtain ⟨deeds, -, hrun, hsigns⟩ := tells_session_new grouping resolver streamBuffer requests
  have hright : a.IsRight ⟨d, []⟩ id := by
    rw [← hsigns, ← account_eq_foldl] at h
    have hcourse := isRight_account h
    rwa [hrun] at hcourse
  have hlookup : d.subscriptions.lookup id = some ⟨a.seen⟩ := hright.lookup
  refine ⟨⟨_, d.poll_of_lookup hlookup Subscription.next, serves_of_next _ _ _, fun hstart => ?met⟩,
    ⟨_, d.poll_of_lookup hlookup Subscription.whenReady, serves_of_whenReady _ _ _⟩, hright.rising,
    fun hdead later => ?closed⟩
  case met =>
    have hseen := seen_hear_next hright
    rw [act_next hlookup] at hseen
    obtain ⟨s, hs, he⟩ := Account.exists_given (b := a.hear _) (by
      rw [Account.start_hear, hseen]
      exact hstart)
    exact ⟨s, hs, he.trans hseen⟩
  case closed =>
    obtain ⟨hsorted, hrest⟩ := atRest_session_new grouping resolver streamBuffer requests
    obtain ⟨hnext, hrest'⟩ := tells_pose hsorted hrest (.next id)
    obtain ⟨deeds, -, he, -⟩ := tells_session (hnext.isSorted hsorted) hrest' later
    have hclosed := closed_after_next hright (fun hne => absurd rfl hne) hdead deeds
    rw [act_next hlookup] at hclosed
    change (((Course.mk (d.next id).2 []).run deeds).act (.next id)).1 = _ at hclosed
    rw [show (Course.mk (d.next id).2 []).run deeds = _ from he] at hclosed
    exact next_of_act hclosed

end

end Course

end Namebook
