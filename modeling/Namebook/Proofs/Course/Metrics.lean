import Namebook.Proofs.Course.Happenings

/-!
# What the metrics of a course tell

Since the metrics note the happenings of each event and nothing else, they are after any course the
counts of its events: of refreshes by how they ended, of lists, of checks, of the changes that came
into queues, and of producers that still go on. The gauges show the snapshot of the last refresh.
-/

namespace Namebook

namespace Course

namespace Event

/-- A refresh that gave a generation. -/
def isRefresh (e : Event) : Bool := e.answer matches .refreshed (.ok _)

def isFailedRefresh (e : Event) : Bool := e.answer matches .refreshed (.error _)

/-- A list that gave a page. -/
def isList (e : Event) : Bool := e.answer matches .listed (.ok _)

/-- What a check found. -/
def status? (e : Event) : Option SyncStatus :=
  match e.answer with
  | .checked result => some result.status
  | _ => none

def isCheck (e : Event) : Bool := e.answer matches .checked _

end Event

variable {w : Course}

/-! ## Counters -/

/-- What counts the happenings of a kind counts the events that have one. -/
theorem counter_run {counter : Metrics → Nat} {kind : Happening → Bool} {counted : Event → Bool}
    (hcounter : Metrics.Counts counter kind)
    (hkind : ∀ e : Event, e.happenings.countP kind = (counted e).toNat) (w : Course)
    (deeds : List Deed) :
    counter (w.run deeds).directory.metrics =
      counter w.directory.metrics + (w.history deeds).countP counted := by
  induction deeds generalizing w with
  | nil => rfl
  | cons m deeds ih =>
    have hact : counter (w.act m).2.directory.metrics =
        counter w.directory.metrics + (counted ⟨w, m⟩).toNat := by
      rw [notes_act w m, hcounter.noteAll, hkind]
    change counter ((w.act m).2.run deeds).directory.metrics = _
    rw [ih, hact, history, List.countP_cons]
    cases counted ⟨w, m⟩ <;> simp; omega

theorem countP_singleton (kind : Happening → Bool) (n : Happening) :
    [n].countP kind = (kind n).toNat := by
  cases h : kind n <;> simp [h]

theorem countP_happenings (kind : Happening → Bool) (e : Event) :
    e.happenings.countP kind = e.ofAnswer.countP kind +
      (e.queued?.any fun c => kind (.streamEvent c.kind.word)).toNat +
        (e.starts && kind .streamOpened).toNat + (e.finishes && kind .streamClosed).toNat := by
  have hqueued : (e.queued?.toList.map fun c => Happening.streamEvent c.kind.word).countP kind =
      (e.queued?.any fun c => kind (.streamEvent c.kind.word)).toNat := by
    cases e.queued? with
    | none => rfl
    | some c => exact countP_singleton kind _
  have hturn (turns : Bool) (n : Happening) :
      (if turns then [n] else []).countP kind = (turns && kind n).toNat := by
    cases turns with
    | true => exact countP_singleton kind n
    | false => rfl
  simp only [Event.happenings, Event.ofFeed, List.countP_append, hqueued, hturn]
  omega

/-- What is not counted of feeds is counted of answers. -/
theorem countP_happenings_of_answer {kind : Happening → Bool}
    (hevent : ∀ kindWord, kind (.streamEvent kindWord) = false)
    (hopened : kind .streamOpened = false) (hclosed : kind .streamClosed = false) (e : Event) :
    e.happenings.countP kind = e.ofAnswer.countP kind := by
  rw [countP_happenings]
  simp [hevent, hopened, hclosed]

/-- What is not counted of answers is counted of feeds. -/
theorem countP_happenings_of_feed {kind : Happening → Bool}
    (hrefreshed : ∀ millis records generation,
      kind (.refreshed millis records generation) = false)
    (hfailed : ∀ millis, kind (.refreshFailed millis) = false)
    (hlisted : ∀ consistency, kind (.listed consistency) = false)
    (hchecked : ∀ status, kind (.checked status) = false) (e : Event) :
    e.happenings.countP kind = (e.queued?.any fun c => kind (.streamEvent c.kind.word)).toNat +
      (e.starts && kind .streamOpened).toNat + (e.finishes && kind .streamClosed).toNat := by
  have hanswer : e.ofAnswer.countP kind = 0 := by
    unfold Event.ofAnswer
    split <;> simp [hrefreshed, hfailed, hlisted, hchecked]
  rw [countP_happenings, hanswer, Nat.zero_add]

theorem countP_isRefresh (e : Event) :
    e.happenings.countP Happening.isSuccess = e.isRefresh.toNat := by
  rw [countP_happenings_of_answer (fun _ => rfl) rfl rfl]
  unfold Event.ofAnswer Event.isRefresh
  split <;> simp [*, Happening.isSuccess]

theorem countP_isFailedRefresh (e : Event) :
    e.happenings.countP Happening.isFailure = e.isFailedRefresh.toNat := by
  rw [countP_happenings_of_answer (fun _ => rfl) rfl rfl]
  unfold Event.ofAnswer Event.isFailedRefresh
  split <;> simp [*, Happening.isFailure]

theorem countP_isList (e : Event) :
    e.happenings.countP (fun n => n.consistency? == some Metrics.live ||
      n.consistency? == some Metrics.cached) = e.isList.toNat := by
  rw [countP_happenings_of_answer (fun _ => rfl) rfl rfl]
  unfold Event.ofAnswer Event.isList
  split <;> simp only [*]
  case h_3 => cases e.before.directory.store.failure <;> rfl
  all_goals rfl

theorem countP_status (status : SyncStatus) (e : Event) :
    e.happenings.countP (·.checkStatus? == some status.word) =
      (e.status? == some status).toNat := by
  rw [countP_happenings_of_answer (fun _ => rfl) rfl rfl]
  unfold Event.ofAnswer Event.status?
  split <;> simp only [*]
  case h_4 result _ =>
    rw [countP_singleton]
    cases result.status <;> cases status <;> rfl
  all_goals rfl

theorem countP_isCheck (e : Event) :
    e.happenings.countP (fun n => (n.checkStatus? == some SyncStatus.sync.word ||
      n.checkStatus? == some SyncStatus.notSync.word) ||
        n.checkStatus? == some SyncStatus.notAvailable.word) = e.isCheck.toNat := by
  rw [countP_happenings_of_answer (fun _ => rfl) rfl rfl]
  unfold Event.ofAnswer Event.isCheck
  split <;> simp only [*]
  case h_4 result _ => cases result.status <;> rfl
  all_goals rfl

theorem countP_queued (kind : ChangeKind) (e : Event) :
    e.happenings.countP (·.eventKind? == some kind.word) =
      (e.queued?.map Change.kind == some kind).toNat := by
  have hword (c : Change) : (some c.kind.word == some kind.word) = (some c.kind == some kind) := by
    cases c.kind <;> cases kind <;> rfl
  rw [countP_happenings_of_feed (fun _ _ _ => rfl) (fun _ => rfl) (fun _ => rfl) fun _ => rfl]
  cases e.queued? <;> simp [Happening.eventKind?, hword]

theorem countP_starts (e : Event) :
    e.happenings.countP Happening.isOpening = e.starts.toNat := by
  rw [countP_happenings_of_feed (fun _ _ _ => rfl) (fun _ => rfl) (fun _ => rfl) fun _ => rfl]
  simp [Happening.isOpening]

theorem countP_finishes (e : Event) :
    e.happenings.countP Happening.isClosing = e.finishes.toNat := by
  rw [countP_happenings_of_feed (fun _ _ _ => rfl) (fun _ => rfl) (fun _ => rfl) fun _ => rfl]
  simp [Happening.isClosing]

/-! ## Producers -/

theorem streams_act (w : Course) (m : Deed) :
    (w.act m).2.directory.metrics.streams = w.directory.metrics.streams +
      (Event.mk w m).starts.toNat - (Event.mk w m).finishes.toNat := by
  rw [notes_act w m, Metrics.streams_noteAll, countP_starts, countP_finishes]

/-- Producers that go on, and those that finish, are those that went on and those that start. -/
theorem producing_act (hsorted : Table.IsSorted w.directory.feeds) (m : Deed) :
    (w.act m).2.producing + (Event.mk w m).finishes.toNat =
      w.producing + (Event.mk w m).starts.toNat := by
  rcases (w.touches_act m).feeds with hsame | ⟨id, f, hm, he⟩ | ⟨rfl, he⟩
  · simp [producing, Event.starts, Event.finishes, Event.after, isProducing, hsame]
  · have hcount := Table.countP_insert hsorted (fun f => !f.isFinished) id f
    have hafter : (w.act m).2.isProducing id = !f.isFinished := by
      rw [isProducing, he, Table.lookup_insert_self, Option.any_some]
    simp only [producing, he, Event.starts, Event.finishes, Event.after, hm, Option.any_some,
      hafter]
    change _ + (w.isProducing id).toNat = _ at hcount
    cases hw : w.isProducing id <;> cases hf : f.isFinished <;> simp_all
  · rw [producing, he, List.countP_map]
    rfl

theorem producing_run (hsorted : Table.IsSorted w.directory.feeds) (deeds : List Deed) :
    (w.run deeds).producing + (w.history deeds).countP Event.finishes =
      w.producing + (w.history deeds).countP Event.starts := by
  induction deeds generalizing w with
  | nil => rfl
  | cons m deeds ih =>
    have hact := producing_act hsorted m
    have hrest := ih (isSorted_act hsorted m)
    change ((w.act m).2.run deeds).producing + _ = _
    simp only [history, List.countP_cons]
    cases hs : (Event.mk w m).starts <;> cases hf : (Event.mk w m).finishes <;>
      simp [hs, hf] at hact ⊢ <;> omega

theorem streams_run (hsorted : Table.IsSorted w.directory.feeds)
    (h : w.directory.metrics.streams = w.producing) (deeds : List Deed) :
    (w.run deeds).directory.metrics.streams = (w.run deeds).producing := by
  refine (run_keeps (I := fun e => Table.IsSorted e.directory.feeds ∧
    e.directory.metrics.streams = e.producing) ?_ ⟨hsorted, h⟩ deeds).2
  rintro e m ⟨hsorted, h⟩
  have hact := producing_act hsorted m
  refine ⟨isSorted_act hsorted m, ?_⟩
  rw [streams_act, h]
  omega

/-- No producer goes on exactly when all have finished. -/
theorem producing_eq_zero_iff :
    w.producing = 0 ↔ ∀ p ∈ w.directory.feeds, p.2.isFinished = true := by
  simp [producing, List.countP_eq_zero]

/-! ## Gauges -/

/-- What the gauges show of a snapshot. -/
def shown (s : Snapshot) : Nat × Nat := (s.generation, s.records.length)

theorem gauges_act (w : Course) (m : Deed) :
    (w.act m).2.directory.metrics.gauges =
      ((Event.mk w m).refreshed?.map shown).getD w.directory.metrics.gauges := by
  have hfeed : (Event.mk w m).ofFeed.filterMap Happening.gauges? = [] := by
    cases (Event.mk w m).starts <;> cases (Event.mk w m).finishes <;>
      simp [Event.ofFeed, Happening.gauges?, *]
  rw [notes_act w m, Metrics.gauges_noteAll, Event.happenings, List.filterMap_append, hfeed,
    List.append_nil]
  unfold Event.ofAnswer Event.refreshed?
  split <;> simp [*, Happening.gauges?, shown]

theorem gauges_run (w : Course) (deeds : List Deed) :
    (w.run deeds).directory.metrics.gauges =
      (((w.history deeds).filterMap Event.refreshed?).getLast?.map shown).getD
        w.directory.metrics.gauges := by
  induction deeds generalizing w with
  | nil => rfl
  | cons m deeds ih =>
    change ((w.act m).2.run deeds).directory.metrics.gauges = _
    rw [ih, gauges_act, filterMap_history_cons, List.getLast?_append]
    cases (((w.act m).2.history deeds).filterMap Event.refreshed?).getLast? <;>
      cases (Event.mk w m).refreshed? <;> rfl

/-- After any course the metrics of the directory account for what happened in it. -/
theorem metrics_of_course (grouping : Grouping) (resolver : Dns.Resolver) (streamBuffer : Nat)
    (deeds : List Deed) :
    let w := (new grouping resolver streamBuffer).run deeds
    let events := (new grouping resolver streamBuffer).history deeds
    let m := w.directory.metrics
    Metrics.countOf Metrics.success m.refreshCounts = events.countP Event.isRefresh ∧
    Metrics.countOf Metrics.failure m.refreshCounts = events.countP Event.isFailedRefresh ∧
    (m.generation, m.records) =
      ((events.filterMap Event.refreshed?).getLast?.map shown).getD (0, 0) ∧
    Metrics.countOf Metrics.live m.lists + Metrics.countOf Metrics.cached m.lists =
      events.countP Event.isList ∧
    Metrics.countOf SyncStatus.sync.word m.checks +
      Metrics.countOf SyncStatus.notSync.word m.checks +
      Metrics.countOf SyncStatus.notAvailable.word m.checks = events.countP Event.isCheck ∧
    (∀ status : SyncStatus, Metrics.countOf status.word m.checks =
      events.countP fun e => e.status? == some status) ∧
    (∀ kind : ChangeKind, Metrics.countOf kind.word m.streamEvents =
      events.countP fun e => e.queued?.map Change.kind == some kind) ∧
    w.producing + events.countP Event.finishes = events.countP Event.starts ∧
    m.streams = w.producing ∧ 0 ≤ m.streams ∧
    (m.streams = 0 ↔ ∀ p ∈ w.directory.feeds, p.2.isFinished = true) := by
  intro w events m
  have hsorted : Table.IsSorted (new grouping resolver streamBuffer).directory.feeds :=
    List.Pairwise.nil
  have hcounts {counter : Metrics → Nat} {kind : Happening → Bool} {counted : Event → Bool}
      (hcounter : Metrics.Counts counter kind)
      (hkind : ∀ e : Event, e.happenings.countP kind = (counted e).toNat)
      (hzero : counter {} = 0) : counter m = events.countP counted := by
    have hrun := counter_run hcounter hkind (new grouping resolver streamBuffer) deeds
    exact hrun.trans ((congrArg (· + _) hzero).trans (Nat.zero_add _))
  have hproducing : w.producing + events.countP Event.finishes = events.countP Event.starts :=
    (producing_run hsorted deeds).trans (Nat.zero_add _)
  have hstreams : m.streams = w.producing := streams_run hsorted rfl deeds
  refine ⟨hcounts Metrics.counts_successes countP_isRefresh rfl,
    hcounts Metrics.counts_failures countP_isFailedRefresh rfl, gauges_run _ deeds,
    hcounts Metrics.counts_allLists countP_isList rfl,
    hcounts Metrics.counts_allChecks countP_isCheck rfl,
    fun status => hcounts (Metrics.counts_checks status.word) (countP_status status) rfl,
    fun kind => hcounts (Metrics.counts_streamEvents kind.word) (countP_queued kind) rfl,
    hproducing, hstreams, ?_, ?_⟩
  · rw [hstreams]
    exact Int.natCast_nonneg _
  · rw [hstreams, Int.natCast_eq_zero, producing_eq_zero_iff]

/-- A change is sent, one of two feeds ends, a refresh fails after one that did not, and a list is
given all the same. -/
theorem metrics_of_course_failing :
    let start := new {} (.ofTables [] []) 1
    let deeds : List Deed :=
      [.commit [.single "x"], .openFeed "a" Filters.unfiltered, .openFeed "b" Filters.unfiltered,
        .produce "a", .produce "a", .cancelFeed "b", .produce "b", .call .refresh, .finish 0,
        .changeStore [] (some "down") 0, .call .refresh, .finish 0,
        .call (.list Filters.unfiltered 10 ""), .finish 0, .check "x" "A" []]
    let m := (start.run deeds).directory.metrics
    Metrics.countOf Metrics.success m.refreshCounts = 1 ∧
      Metrics.countOf Metrics.failure m.refreshCounts = 1 ∧ (m.generation, m.records) = (2, 0) ∧
      Metrics.countOf Metrics.live m.lists + Metrics.countOf Metrics.cached m.lists = 1 ∧
      Metrics.countOf SyncStatus.notAvailable.word m.checks = 1 ∧
      Metrics.countOf ChangeKind.added.word m.streamEvents = 1 ∧ m.streams = 1 := by
  intro start deeds m
  have hlisting : listing Filters.unfiltered [.single "x"] = [.single "x"] :=
    listing_eq_singleton (by decide)
  obtain ⟨hsuccess, hfailure, hgauges, hlists, -, hchecks, hevents, -, hstreams, -⟩ :=
    metrics_of_course {} (.ofTables [] []) 1 deeds
  unfold m start
  refine ⟨hsuccess.trans ?_, hfailure.trans ?_, hgauges.trans ?_, hlists.trans ?_,
    (hchecks .notAvailable).trans ?_, (hevents .added).trans ?_, hstreams.trans ?streams⟩
  case streams =>
    rw [run_commit_of_listing rfl hlisting]
    decide +kernel
  all_goals
    rw [history_commit_of_listing rfl hlisting]
    decide +kernel

end Course

end Namebook
