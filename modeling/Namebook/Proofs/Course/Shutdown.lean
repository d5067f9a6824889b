import Namebook.Proofs.Course.Feeds
import Namebook.Proofs.Course.Snapshot

/-!
# Shutdown

A shutdown cancels all loops and feeds. The next thing that a loop does is to end, even in the midst
of a scan and whatever the store would have given, so from then on no loop scans or commits. No feed
puts anything more into its queue: its reader still gets what is there, and then sees the end.
-/

namespace Namebook

namespace Metrics

/-- What the counters tell of refreshes. -/
def ofRefreshes (m : Metrics) : List (String × List Nat) × Nat × Nat :=
  (m.refreshes, m.records, m.generation)

theorem ofRefreshes_noteAll (m : Metrics) {noted : List Happening}
    (h : ∀ n ∈ noted, ∀ m : Metrics, (m.note n).ofRefreshes = m.ofRefreshes) :
    (m.noteAll noted).ofRefreshes = m.ofRefreshes := by
  induction noted generalizing m with
  | nil => rfl
  | cons n noted ih =>
    exact (ih (m.note n) fun k hk => h k (List.mem_cons_of_mem n hk)).trans
      (h n List.mem_cons_self m)

end Metrics

/-- The producer of a feed does not refresh anything. -/
theorem Feed.ofRefreshes_step? {current : Snapshot} {f g : Feed} {noted : List Happening}
    (h : f.step? current = some (g, noted)) :
    ∀ n ∈ noted, ∀ m : Metrics, (m.note n).ofRefreshes = m.ofRefreshes := by
  have hclosed (f : Feed) :
      ∀ n ∈ f.finish.2, ∀ m : Metrics, (m.note n).ofRefreshes = m.ofRefreshes := by
    intro n hn m
    rw [List.mem_singleton.mp hn]
    rfl
  unfold step? at h
  split at h
  · exact nomatch h
  · split at h
    · rw [← (Prod.mk.inj (Option.some.inj h)).2]
      exact hclosed f
    · split at h
      · cases h
        exact fun _ hn => nomatch hn
      · exact nomatch h
  · cases h
    exact fun _ hn => nomatch hn
  · split at h
    · rw [← (Prod.mk.inj (Option.some.inj h)).2]
      exact hclosed f
    · split at h
      · cases h
        intro n hn m
        rw [List.mem_singleton.mp hn]
        rfl
      · exact nomatch h

namespace Course

variable {w : Course}

/-! ## Loops -/

/-- An answer that tells of a commit or of the end of a refresh. -/
def Answer.isRefresh : Answer → Bool
  | published _ | refreshed _ => true
  | _ => false

/-- Neither the snapshot nor what is counted of refreshes is another one. -/
structure SameRefreshes (w e : Course) : Prop where
  snapshot : e.directory.snapshot = w.directory.snapshot
  metrics : e.directory.metrics.ofRefreshes = w.directory.metrics.ofRefreshes

theorem SameRefreshes.trans {e g : Course} (h : w.SameRefreshes e) (h' : e.SameRefreshes g) :
    w.SameRefreshes g := ⟨h'.snapshot.trans h.snapshot, h'.metrics.trans h.metrics⟩

theorem sameRefreshes_inFeed {id : String} (happens : Feed → Answer × Feed × List Happening)
    (h : ∀ f, ∀ n ∈ (happens f).2.2, ∀ m : Metrics, (m.note n).ofRefreshes = m.ofRefreshes) :
    w.SameRefreshes (w.inFeed id happens).2 :=
  inFeed_cases (P := fun r => w.SameRefreshes r.2) ⟨rfl, rfl⟩ fun f _ =>
    ⟨rfl, w.directory.metrics.ofRefreshes_noteAll (h f)⟩

theorem sameRefreshes_concludeList (filters : Filters) :
    (w.directory.concludeList filters).2.metrics.ofRefreshes =
      w.directory.metrics.ofRefreshes := by
  unfold Directory.concludeList
  cases w.directory.store.matching filters.selector with
  | ok sets => rfl
  | error failure => dsimp only; split <;> rfl

theorem noted_takeFrom (f : Feed) : (takeFrom f).2.2 = [] := by
  unfold takeFrom
  split
  · split <;> rfl
  · rfl

/-- A deed whose answer tells of no refresh made none. -/
theorem sameRefreshes_act {m : Deed} (h : (w.act m).1.isRefresh = false) :
    w.SameRefreshes (w.act m).2 := by
  let P (r : Answer × Course) : Prop := r.1.isRefresh = false → w.SameRefreshes r.2
  have himpossible : P (.impossible, w) := fun _ => ⟨rfl, rfl⟩
  have hask (id : String)
      (question : Subscription → Snapshot → Bool → Poll Snapshot × Subscription) :
      P (w.ask (w.directory.poll id question)) :=
    ask_cases (fun _ => himpossible) fun _ _ _ => ⟨rfl, rfl⟩
  suffices hP : P (w.act m) from hP h
  cases m with
  | pass millis => exact fun _ => ⟨rfl, rfl⟩
  | changeStore sets failure latency => exact fun _ => ⟨rfl, rfl⟩
  | commit sets => exact holding_cases himpossible fun _ hanswer => nomatch hanswer
  | call errand => exact holding_cases himpossible fun _ _ => ⟨rfl, rfl⟩
  | finish place =>
    refine finish_cases (P := P) himpossible fun c _ => ?_
    unfold finishCall
    cases c.errand with
    | refresh => exact fun hanswer => nomatch hanswer
    | list filters size token =>
      exact fun _ => ⟨w.directory.snapshot_concludeList filters, sameRefreshes_concludeList filters⟩
  | giveUp place => exact giveUp_cases (P := P) himpossible fun _ _ => ⟨rfl, rfl⟩
  | startLoop interval => exact holding_cases himpossible fun _ _ => ⟨rfl, rfl⟩
  | tick place =>
    rcases w.act_tick_cases place with
      hnone | ⟨l, hl, ⟨hcancelled, hgoes⟩ | ⟨hgoes, ⟨hrest, hdue⟩ | ⟨began, ends, hscan, hdue⟩⟩⟩
    · exact hnone ▸ himpossible
    · rw [act_tick_stops hl hcancelled hgoes]
      exact fun _ => ⟨rfl, rfl⟩
    · rw [act_tick_begins hl hgoes hrest hdue]
      exact fun _ => ⟨rfl, rfl⟩
    · rw [act_tick_ends hl hgoes hscan hdue]
      exact fun hanswer => nomatch hanswer
  | shutdown => exact fun _ => ⟨rfl, rfl⟩
  | release => exact release_cases (P := P) himpossible fun _ _ => ⟨rfl, rfl⟩
  | subscribe id => exact holding_cases himpossible fun _ _ => ⟨rfl, rfl⟩
  | next id => exact hask id _
  | whenReady id => exact hask id _
  | openFeed id filters =>
    exact holding_cases himpossible fun _ => openFeed_cases (P := P) himpossible
      fun _ _ => ⟨rfl, rfl⟩
  | produce id =>
    refine fun _ => sameRefreshes_inFeed (produceIn w.directory.snapshot) fun f n hn => ?_
    unfold produceIn at hn
    cases hs : f.step? w.directory.snapshot with
    | none =>
      rw [hs] at hn
      exact nomatch hn
    | some next =>
      rw [hs] at hn
      exact Feed.ofRefreshes_step? hs n hn
  | take id =>
    refine fun _ => sameRefreshes_inFeed takeFrom fun f n hn => ?_
    rw [noted_takeFrom] at hn
    exact nomatch hn
  | cancelFeed id => exact fun _ => sameRefreshes_inFeed _ fun _ _ hn => nomatch hn
  | closeFeed id => exact fun _ => sameRefreshes_inFeed _ fun _ _ hn => nomatch hn
  | check name type targets => exact fun _ => ⟨rfl, rfl⟩

/-- The service was told to end, and so was each of its loops. -/
structure IsStopped (w : Course) : Prop where
  isStopping : w.directory.isStopping = true
  loops : ∀ l ∈ w.directory.loops, l.cancelled = true

theorem isStopped_shutdown (w : Course) : (w.act .shutdown).2.IsStopped := by
  refine ⟨rfl, fun l hl => ?_⟩
  obtain ⟨k, -, rfl⟩ := List.mem_map.mp hl
  rfl

/-- A tick of a cancelled loop ends it, and does nothing else. -/
theorem act_tick_of_isStopped (h : w.IsStopped) (place : Nat) :
    (w.act (.tick place) = (.impossible, w) ∧
        ∀ l, w.directory.loops[place]? = some l → l.isOver = true) ∨
      ∃ l, w.directory.loops[place]? = some l ∧ l.isOver = false ∧
        w.act (.tick place) = (.done, { w with directory := { w.directory with
          loops := w.directory.loops.set place l.stop } }) := by
  cases hl : w.directory.loops[place]? with
  | none =>
    refine .inl ⟨?_, nofun⟩
    change w.tick place = _
    unfold tick
    rw [hl]
  | some l =>
    have hcancelled : l.cancelled = true := h.loops l (List.mem_of_getElem? hl)
    cases hover : l.isOver with
    | true =>
      refine .inl ⟨?_, fun g hg => Option.some.inj hg ▸ hover⟩
      change w.tick place = _
      unfold tick
      rw [hl]
      dsimp only
      rw [RefreshLoop.wake?_of_isOver hover]
      rfl
    | false => exact .inr ⟨l, rfl, hover, act_tick_stops hl hcancelled hover⟩

theorem isStopped_act (h : w.IsStopped) (m : Deed) : (w.act m).2.IsStopped := by
  have htouches := w.touches_act m
  have hstopping : (w.act m).2.directory.isStopping = true := by
    rcases htouches.isStopping with hsame | rfl
    · exact hsame.trans h.isStopping
    · rfl
  refine ⟨hstopping, ?_⟩
  rcases htouches.loops with hsame | hm
  · rw [hsame]
    exact h.loops
  · cases m with
    | startLoop interval =>
      refine holding_cases (P := fun r => ∀ l ∈ r.2.directory.loops, l.cancelled = true) h.loops
        fun _ l hl => ?_
      rcases List.mem_append.mp hl with hold | hnew
      · exact h.loops l hold
      · rw [List.mem_singleton.mp hnew, if_pos h.isStopping]
        rfl
    | tick place =>
      rcases act_tick_of_isStopped h place with ⟨hnone, -⟩ | ⟨l, hl, -, hstops⟩
      · rw [hnone]
        exact h.loops
      · rw [hstops]
        intro g hg
        rcases List.mem_or_eq_of_mem_set hg with hold | rfl
        · exact h.loops g hold
        · exact h.loops l (List.mem_of_getElem? hl)
    | shutdown => exact (isStopped_shutdown w).loops
    | _ => exact nomatch hm

theorem isStopped_run (h : w.IsStopped) (later : List Deed) : (w.run later).IsStopped :=
  run_keeps (I := IsStopped) (fun _ m h => isStopped_act h m) h later

/-- A loop that is told to end is over once it had a turn, and stays so. -/
theorem loop_act_of_isStopped (h : w.IsStopped) {place : Nat} {l : RefreshLoop}
    (hl : w.directory.loops[place]? = some l) (m : Deed) :
    ∃ g, (w.act m).2.directory.loops[place]? = some g ∧
      (l.isOver = true ∨ m = .tick place → g.isOver = true) := by
  have htouches := w.touches_act m
  cases m with
  | startLoop interval =>
    have hstays : l.isOver = true ∨ Deed.startLoop interval = .tick place → l.isOver = true :=
      fun hover => hover.elim (fun h => h) nofun
    refine holding_cases (P := fun r => ∃ g, r.2.directory.loops[place]? = some g ∧
      (l.isOver = true ∨ Deed.startLoop interval = .tick place → g.isOver = true))
      ⟨l, hl, hstays⟩ fun _ => ?_
    have hlt : place < w.directory.loops.length := (List.getElem?_eq_some_iff.mp hl).1
    exact ⟨l, (List.getElem?_append_left hlt).trans hl, hstays⟩
  | tick other =>
    rcases act_tick_of_isStopped h other with ⟨hnone, hover⟩ | ⟨g, hg, -, hstops⟩
    · rw [hnone]
      exact ⟨l, hl, fun h => h.elim (fun h => h) fun he => hover l (Deed.tick.inj he ▸ hl)⟩
    · rw [hstops]
      by_cases hsame : other = place
      · subst hsame
        exact ⟨g.stop, getElem?_set_of_getElem? hg g.stop, fun _ => rfl⟩
      · exact ⟨l, (List.getElem?_set_ne hsame).trans hl,
          fun h => h.elim (fun h => h) fun he => absurd (Deed.tick.inj he) hsame⟩
  | shutdown =>
    refine ⟨l.cancel, ?_, fun h => h.elim (fun h => h) nofun⟩
    change (w.directory.loops.map RefreshLoop.cancel)[place]? = _
    rw [List.getElem?_map, hl]
    rfl
  | _ =>
    rw [htouches.loops.resolve_right nofun]
    exact ⟨l, hl, fun h => h.elim (fun h => h) nofun⟩

theorem loop_run_of_isStopped (h : w.IsStopped) {place : Nat} {l : RefreshLoop}
    (hl : w.directory.loops[place]? = some l) (later : List Deed) :
    ∃ g, (w.run later).directory.loops[place]? = some g ∧
      (l.isOver = true ∨ .tick place ∈ later → g.isOver = true) := by
  induction later generalizing w l with
  | nil => exact ⟨l, hl, fun h => h.elim (fun h => h) nofun⟩
  | cons m later ih =>
    obtain ⟨g, hg, hone⟩ := loop_act_of_isStopped h hl m
    obtain ⟨k, hk, hrest⟩ := ih (isStopped_act h m) hg
    refine ⟨k, hk, fun hover => ?_⟩
    rcases hover with hover | hturn
    · exact hrest (.inl (hone (.inl hover)))
    · rcases List.mem_cons.mp hturn with he | hturn
      · exact hrest (.inl (hone (.inr he.symm)))
      · exact hrest (.inr hturn)

/-- While nobody else commits or refreshes, the snapshot stays. -/
theorem sameRefreshes_run (h : w.IsStopped) {later : List Deed}
    (hquiet : ∀ e ∈ w.history later, (∀ place, e.deed ≠ .tick place) → e.answer.isRefresh = false) :
    w.SameRefreshes (w.run later) := by
  induction later generalizing w with
  | nil => exact ⟨rfl, rfl⟩
  | cons m later ih =>
    have hfirst : (w.act m).1.isRefresh = false := by
      by_cases hm : ∃ place, m = .tick place
      · obtain ⟨place, rfl⟩ := hm
        rcases act_tick_of_isStopped h place with ⟨hnone, -⟩ | ⟨l, -, -, hstops⟩
        · rw [hnone]
          rfl
        · rw [hstops]
          rfl
      · exact hquiet ⟨w, m⟩ List.mem_cons_self fun place he => hm ⟨place, he⟩
    exact (sameRefreshes_act hfirst).trans
      (ih (isStopped_act h m) fun e he => hquiet e (List.mem_cons_of_mem _ he))

/-! ## Feeds -/

variable {id : String} {f : Feed}

/-- How many turns the producer of a cancelled feed needs to come to its end. -/
def turnsLeft (f : Feed) : Nat :=
  match f.phase with
  | .finished => 0
  | .sending [] => 2
  | _ => 1

theorem turnsLeft_le (f : Feed) : turnsLeft f ≤ 2 := by
  unfold turnsLeft
  split <;> decide

/-- The turns that the producer of a feed gets. -/
def turns (id : String) (deeds : List Deed) : Nat := deeds.countP (Deed.isTurn id)

theorem isFinished_of_turnsLeft (h : turnsLeft f = 0) : f.isFinished = true := by
  unfold turnsLeft at h
  split at h
  · exact decide_eq_true ‹_›
  · exact nomatch h
  · exact nomatch h

theorem turnsLeft_produceIn (h : f.cancelled = true) (current : Snapshot) :
    turnsLeft (produceIn current f).2.1 ≤ turnsLeft f - 1 := by
  have hclosed : (f.cancelled || !f.receiving) = true := by simp [h]
  unfold produceIn Feed.step? turnsLeft
  cases hp : f.phase with
  | finished => simp [hp]
  | waiting => simp [hclosed, Feed.finish]
  | sending left =>
    cases left with
    | nil => simp
    | cons c left => simp [hclosed, Feed.finish]

/-- How a cancelled feed goes on: its reader got some changes and its producer had some turns. What
is read comes from the queue in its order, and nothing else gets there. -/
structure Drains (f : Feed) (got : List Change) (turns : Nat) (g : Feed) : Prop where
  cancelled : g.cancelled = true
  queue : got ++ g.queue <+: f.queue
  whole : g.receiving = true → f.receiving = true ∧ got ++ g.queue = f.queue
  turns : turnsLeft g ≤ turnsLeft f - turns

theorem Drains.refl (h : f.cancelled = true) : Drains f [] 0 f :=
  ⟨h, List.prefix_rfl, fun hr => ⟨hr, rfl⟩, Nat.le_refl _⟩

theorem Drains.trans {got more : List Change} {turns later : Nat} {g k : Feed}
    (h : Drains f got turns g) (h' : Drains g more later k) :
    Drains f (got ++ more) (turns + later) k where
  cancelled := h'.cancelled
  queue := by
    rw [List.append_assoc]
    exact ((List.prefix_append_right_inj got).mpr h'.queue).trans h.queue
  whole hr := by
    obtain ⟨hg, hqueue'⟩ := h'.whole hr
    obtain ⟨hf, hqueue⟩ := h.whole hg
    rw [List.append_assoc, hqueue', hqueue]
    exact ⟨hf, rfl⟩
  turns := by
    have := h.turns
    have := h'.turns
    omega

theorem drains_onFeed (id : String) (h : f.cancelled = true) (m : Deed) (current : Snapshot) :
    Drains f (m.brings? id f).toList (if m.isTurn id then 1 else 0) (m.onFeed id current f) := by
  rcases m.feed_cases id with rfl | rfl | rfl | hidle
  · obtain ⟨hc, hq⟩ := produceIn_of_cancelled h current
    simp only [Deed.onFeed_produce, Deed.isTurn, beq_self_eq_true, if_true]
    exact ⟨hc, hq ▸ List.prefix_rfl, fun hr => ⟨(receiving_produceIn current f) ▸ hr, hq⟩,
      turnsLeft_produceIn h current⟩
  · obtain ⟨hc, hr, hp⟩ := takeFrom_keeps f
    have hq := brings?_append_takeFrom id f
    have hturn : (Deed.take id).isTurn id = false := rfl
    rw [Deed.onFeed_take, hturn]
    refine ⟨hc.trans h, hq ▸ List.prefix_rfl, fun hg => ⟨hr ▸ hg, hq⟩, ?_⟩
    simp [turnsLeft, hp]
  · rw [Deed.onFeed_closeFeed]
    exact ⟨h, List.nil_prefix, nofun, Nat.le_refl _⟩
  · rw [hidle.brings?, hidle.isTurn]
    refine ⟨hidle.cancelled current f h, ?_, fun hr => ?_, ?_⟩
    · exact (hidle.queue current f) ▸ List.prefix_rfl
    · exact ⟨(hidle.receiving current f) ▸ hr, hidle.queue current f⟩
    · simp [turnsLeft, hidle.phase current f]

theorem drains_run (hf : w.directory.feeds.lookup id = some f) (h : f.cancelled = true)
    {later : List Deed} (hspares : ∀ e ∈ w.history later, ∀ filters, ¬e.Opens id filters) :
    ∃ g, (w.run later).directory.feeds.lookup id = some g ∧
      Drains f (received id (w.history later)) (turns id later) g := by
  induction later generalizing w f with
  | nil => exact ⟨f, hf, .refl h⟩
  | cons m later ih =>
    have hone := drains_onFeed id h m w.directory.snapshot
    obtain ⟨hfirst, hlater⟩ := List.forall_mem_cons.mp hspares
    obtain ⟨g, hg, hrest⟩ := ih (lookup_feeds_act hf hfirst) hone.cancelled hlater
    refine ⟨g, hg, ?_⟩
    rw [received_history_cons hf, turns, List.countP_cons, Nat.add_comm]
    exact hone.trans hrest

/-- Of a feed without changes in its queue nothing is read any more. -/
theorem received_eq_nil (hf : w.directory.feeds.lookup id = some f) (h : f.cancelled = true)
    (hq : f.queue = []) {later : List Deed} (hspares : ∀ m ∈ later, m.Spares id) :
    received id (w.history later) = [] := by
  obtain ⟨g, -, hdrains⟩ := drains_run hf h (not_opens_of_spares hspares w)
  have hnil := hdrains.queue
  rw [hq, List.prefix_nil, List.append_eq_nil_iff] at hnil
  exact hnil.1

/-- One and the same deed is done to two feeds, of which the first is cancelled and has a beginning
of the queue of the second. Both bring the same change, or the first has none left. -/
theorem brings?_cases (m : Deed) {f g : Feed} (h : f.cancelled = true)
    (hr : g.receiving = f.receiving) (hq : f.queue <+: g.queue) (current now : Snapshot) :
    (m.onFeed id now g).receiving = (m.onFeed id current f).receiving ∧
      (m.brings? id f = m.brings? id g ∧
          (m.onFeed id current f).queue <+: (m.onFeed id now g).queue ∨
        m.brings? id f = none ∧ (m.onFeed id current f).queue = []) := by
  rcases m.feed_cases id with rfl | rfl | rfl | hidle
  · rw [Deed.onFeed_produce, Deed.onFeed_produce, receiving_produceIn, receiving_produceIn,
      (produceIn_of_cancelled h current).2]
    exact ⟨hr, .inl ⟨rfl, hq.trans (queue_produceIn now g)⟩⟩
  · rw [Deed.onFeed_take, Deed.onFeed_take, (takeFrom_keeps f).2.1, (takeFrom_keeps g).2.1]
    refine ⟨hr, ?_⟩
    cases hf : f.receiving with
    | false =>
      rw [takeFrom_of_left hf, takeFrom_of_left (hr.trans hf)]
      exact .inl ⟨by simp [Deed.brings?, hf, hr], hq⟩
    | true =>
      cases hqueue : f.queue with
      | nil =>
        rw [takeFrom_of_nil hf hqueue]
        exact .inr ⟨by simp [Deed.brings?, hqueue], hqueue⟩
      | cons c queue =>
        obtain ⟨rest, hrest⟩ := hq
        rw [hqueue, List.cons_append] at hrest
        rw [takeFrom_of_cons hf hqueue, takeFrom_of_cons (hr.trans hf) hrest.symm]
        exact .inl ⟨by simp [Deed.brings?, hf, hr, hqueue, ← hrest], List.prefix_append _ _⟩
  · rw [Deed.onFeed_closeFeed, Deed.onFeed_closeFeed]
    exact ⟨rfl, .inr ⟨rfl, rfl⟩⟩
  · rw [hidle.receiving, hidle.receiving, hidle.brings?, hidle.brings?, hidle.queue, hidle.queue]
    exact ⟨hr, .inl ⟨rfl, hq⟩⟩

theorem received_append (id : String) (events more : List Event) :
    received id (events ++ more) = received id events ++ received id more := List.filterMap_append

theorem received_prefix {w v : Course} {f g : Feed} (hf : w.directory.feeds.lookup id = some f)
    (hg : v.directory.feeds.lookup id = some g) (h : f.cancelled = true)
    (hr : g.receiving = f.receiving) (hq : f.queue <+: g.queue) {later : List Deed}
    (hspares : ∀ m ∈ later, m.Spares id) :
    received id (w.history later) <+: received id (v.history later) := by
  induction later generalizing w v f g with
  | nil => exact List.prefix_rfl
  | cons m later ih =>
    have hm := hspares m List.mem_cons_self
    have hlater : ∀ k ∈ later, k.Spares id := fun k hk => hspares k (List.mem_cons_of_mem m hk)
    have hf' := lookup_feeds_act hf (hm.not_opens w)
    have hg' := lookup_feeds_act hg (hm.not_opens v)
    have hc := (drains_onFeed id h m w.directory.snapshot).cancelled
    obtain ⟨hr', hcase⟩ :=
      brings?_cases m h hr hq w.directory.snapshot v.directory.snapshot
    rw [received_history_cons hf, received_history_cons hg]
    rcases hcase with ⟨hbrings, hq'⟩ | ⟨hbrings, hq'⟩
    · rw [hbrings, List.prefix_append_right_inj]
      exact ih hf' hg' hc hr' hq' hlater
    · rw [hbrings, received_eq_nil hf' hc hq' hlater]
      exact List.nil_prefix

/-- After a shutdown, at any time of any course of a new directory. All that a loop can still do, in
the midst of a scan or not, is to end, and once it had a turn it is over. So, while nobody else
commits or refreshes, the snapshot and the counters of refreshes stay. A feed has no more in its
queue than it has room for, and nothing gets there any more; as long as its reader stays, the
changes in the queue are read one after the other, and then, after two turns of the producer at
most, the end is seen. What is read of the feed in all is the beginning of what would have been read
without the shutdown. -/
theorem frozen_by_shutdown (grouping : Grouping) (resolver : Dns.Resolver) (streamBuffer : Nat)
    (deeds : List Deed) :
    let start := new grouping resolver streamBuffer
    let w := start.run deeds
    let stopped := (w.act .shutdown).2
    (∀ later,
        let u := stopped.run later
        (∀ place,
          (u.act (.tick place) = (.impossible, u) ∧
              ∀ l, u.directory.loops[place]? = some l → l.isOver = true) ∨
            ∃ l, u.directory.loops[place]? = some l ∧ l.isOver = false ∧
              u.act (.tick place) = (.done, { u with directory := { u.directory with
                loops := u.directory.loops.set place l.stop } })) ∧
          (∀ place < w.directory.loops.length, .tick place ∈ later →
            ∃ l, u.directory.loops[place]? = some l ∧ l.isOver = true) ∧
          ((∀ e ∈ stopped.history later, (∀ place, e.deed ≠ .tick place) →
              e.answer.isRefresh = false) →
            w.SameRefreshes u)) ∧
      ∀ id f, w.directory.feeds.lookup id = some f →
        f.queue.length ≤ max streamBuffer 1 ∧
          ∀ later, (∀ m ∈ later, m.Spares id) →
            let u := stopped.run later
            let got := received id (stopped.history later)
            (∃ g, u.directory.feeds.lookup id = some g ∧ got ++ g.queue <+: f.queue ∧
              (g.receiving = true →
                got ++ g.queue = f.queue ∧
                (∀ c rest, f.queue = got ++ c :: rest → (u.act (.take id)).1 = .took c) ∧
                (f.queue = got → 2 ≤ turns id later → (u.act (.take id)).1 = .over))) ∧
            received id (start.history (deeds ++ .shutdown :: later)) <+:
              received id (start.history (deeds ++ later)) := by
  intro start w stopped
  have hstopped : stopped.IsStopped := isStopped_shutdown w
  refine ⟨fun later => ⟨act_tick_of_isStopped (isStopped_run hstopped later),
    fun place hplace hturn => ?_, fun hquiet => ?_⟩, ?_⟩
  · have hl : stopped.directory.loops[place]? = some w.directory.loops[place].cancel := by
      change (w.directory.loops.map RefreshLoop.cancel)[place]? = _
      rw [List.getElem?_map, List.getElem?_eq_getElem hplace]
      rfl
    obtain ⟨l, hlater, hover⟩ := loop_run_of_isStopped hstopped hl later
    exact ⟨l, hlater, hover (.inr hturn)⟩
  · exact (sameRefreshes_act (w := w) (m := .shutdown) rfl).trans
      (sameRefreshes_run hstopped hquiet)
  · intro id f hf
    have hroom : w.HasRoom ∧ w.directory.streamBuffer = streamBuffer := by
      refine run_keeps (I := fun e => e.HasRoom ∧ e.directory.streamBuffer = streamBuffer)
        (fun e m he => ⟨hasRoom_act he.1 m, (e.touches_act m).streamBuffer.trans he.2⟩) ?_ deeds
      exact ⟨List.forall_mem_nil _, rfl⟩
    have hcancelled : stopped.directory.feeds.lookup id = some f.cancel :=
      lookup_feeds_act hf (m := .shutdown) fun _ hopens => nomatch hopens.deed
    refine ⟨?_, fun later hspares => ⟨?_, ?_⟩⟩
    · rw [← hroom.2]
      exact (hroom.1 _ (Table.mem_of_lookup hf)).queue
    · obtain ⟨g, hg, hdrains⟩ := drains_run hcancelled rfl (not_opens_of_spares hspares stopped)
      refine ⟨g, hg, hdrains.queue, fun hr => ?_⟩
      have hqueue : received id (stopped.history later) ++ g.queue = f.queue := (hdrains.whole hr).2
      have hanswer : ((stopped.run later).act (.take id)).1 = (takeFrom g).1 :=
        answer_inFeed hg takeFrom
      refine ⟨hqueue, fun c rest hrest => ?_, fun hall hturns => ?_⟩
      · have hcons : g.queue = c :: rest := List.append_cancel_left (hqueue.trans hrest)
        rw [hanswer, takeFrom_of_cons hr hcons]
      · have hnil : g.queue = [] := by
          rw [hall] at hqueue
          exact List.append_right_eq_self.mp hqueue
        have hfinished : g.isFinished = true := by
          have hleft := hdrains.turns
          have htwo := turnsLeft_le f.cancel
          exact isFinished_of_turnsLeft (by omega)
        rw [hanswer, takeFrom_of_nil hr hnil, if_pos hfinished]
    · rw [history_append, history_append, received_append, received_append,
        List.prefix_append_right_inj]
      exact received_prefix hcancelled hf rfl rfl List.prefix_rfl hspares

/-- The service is shut down in the midst of a scan, while a change waits to be read. -/
theorem frozen_by_shutdown_scanning :
    let start := new {} (.ofTables [] []) 1
    let deeds : List Deed :=
      [.commit [.single "x"], .startLoop 10, .changeStore [.single "y"] none 5, .tick 0,
        .openFeed "f" Filters.unfiltered, .produce "f", .produce "f"]
    let later : List Deed := [.pass 5, .tick 0, .produce "f", .take "f", .produce "f"]
    let w := start.run deeds
    let stopped := (w.act .shutdown).2
    let u := stopped.run later
    w.directory.loops.map RefreshLoop.stage = [.scanning 0 5] ∧
      (∃ f, w.directory.feeds.lookup "f" = some f ∧ f.queue = [⟨.added, .single "x"⟩]) ∧
      (∃ l, u.directory.loops[0]? = some l ∧ l.isOver = true) ∧ w.SameRefreshes u ∧
      received "f" (stopped.history later) = [⟨.added, .single "x"⟩] ∧
      (u.act (.take "f")).1 = .over ∧
      received "f" (start.history (deeds ++ .shutdown :: later)) <+:
        received "f" (start.history (deeds ++ later)) := by
  intro start deeds later w stopped u
  have hlisting : listing Filters.unfiltered [.single "x"] = [.single "x"] :=
    listing_eq_singleton (by decide)
  have hw : w = _ := run_commit_of_listing (w := start) rfl hlisting deeds.tail
  have hscanning : w.directory.loops.map RefreshLoop.stage = [.scanning 0 5] := by
    rw [hw]
    decide +kernel
  have hqueue : (w.directory.feeds.lookup "f").map Feed.queue = some [⟨.added, .single "x"⟩] := by
    rw [hw]
    decide +kernel
  have hquiet : ∀ e ∈ stopped.history later, e.answer.isRefresh = false := by
    unfold stopped
    rw [hw]
    decide +kernel
  have hgot : received "f" (stopped.history later) = [⟨.added, .single "x"⟩] := by
    unfold stopped
    rw [hw]
    decide +kernel
  have hreceiving : (u.directory.feeds.lookup "f").map Feed.receiving = some true := by
    unfold u stopped
    rw [hw]
    decide +kernel
  -- Courses that are written the same need not be computed to be compared.
  unfold u stopped w start at *
  obtain ⟨hloops, hfeeds⟩ := frozen_by_shutdown {} (.ofTables [] []) 1 deeds
  obtain ⟨-, hends, hfrozen⟩ := hloops later
  obtain ⟨f, hf, hqueue⟩ := Option.map_eq_some_iff.mp hqueue
  obtain ⟨-, hreads⟩ := hfeeds "f" f hf
  obtain ⟨⟨g, hg, -, hdrained⟩, hprefix⟩ := hreads later (by simp [later, Deed.Spares])
  rw [hg, Option.map_some, Option.some.injEq] at hreceiving
  obtain ⟨-, -, hover⟩ := hdrained hreceiving
  have hplace : 0 < ((new {} (.ofTables [] []) 1).run deeds).directory.loops.length := by
    rw [← List.length_map, hscanning]
    exact Nat.one_pos
  exact ⟨hscanning, ⟨f, hf, hqueue⟩, hends 0 hplace (by simp [later]),
    hfrozen fun e he _ => hquiet e he, hgot, hover (hqueue.trans hgot.symm) (by decide), hprefix⟩

end Course

end Namebook
