import Namebook.Proofs.Course.Feeds
import Namebook.Proofs.Course.Service
import Namebook.Proofs.Course.Shutdown
import Namebook.Proofs.Metrics

/-!
# What happens in a course

Each event has its happenings, which can be read off its answer and off the feed that it is about.
The metrics note these and nothing else.
-/

namespace Namebook

namespace Course

/-- What is in the queue of the feed `id`, if there is one. -/
def queueOf (w : Course) (id : String) : List Change :=
  ((w.directory.feeds.lookup id).map Feed.queue).getD []

/-- Whether the feed `id` has a producer that has not finished. -/
def isProducing (w : Course) (id : String) : Bool :=
  (w.directory.feeds.lookup id).any fun f => !f.isFinished

/-- How many producers have not finished. -/
def producing (w : Course) : Nat := w.directory.feeds.countP fun p => !p.2.isFinished

namespace Event

/-- The change that an event puts into the queue of the feed that it is about. -/
def queued? (e : Event) : Option Change :=
  e.deed.feed?.bind fun id => (e.after.queueOf id)[(e.before.queueOf id).length]?

/-- Whether a producer starts. -/
def starts (e : Event) : Bool :=
  e.deed.feed?.any fun id => e.after.isProducing id && !e.before.isProducing id

/-- Whether a producer finishes. -/
def finishes (e : Event) : Bool :=
  e.deed.feed?.any fun id => e.before.isProducing id && !e.after.isProducing id

/-- The snapshot of a refresh that gave a generation. -/
def refreshed? (e : Event) : Option Snapshot :=
  match e.answer with
  | .refreshed (.ok _) => some e.after.directory.snapshot
  | _ => none

/-- When the call to the store began that ends with the event. -/
def began? (e : Event) : Option Nat :=
  match e.deed with
  | .finish place => e.before.calls[place]?.map Call.began
  | .tick place =>
    match e.before.directory.loops[place]?.map RefreshLoop.stage with
    | some (.scanning began _) => some began
    | _ => none
  | _ => none

/-- How long that call took. -/
def lasted (e : Event) : Nat :=
  e.before.directory.now - e.began?.getD e.before.directory.now

/-- What is worth counting of an answer. -/
def ofAnswer (e : Event) : List Happening :=
  match e.answer with
  | .refreshed (.ok _) =>
    [.refreshed e.lasted e.after.directory.snapshot.records.length
      e.after.directory.snapshot.generation]
  | .refreshed (.error _) => [.refreshFailed e.lasted]
  | .listed (.ok _) =>
    [.listed (if e.before.directory.store.failure.isNone then Metrics.live else Metrics.cached)]
  | .checked result => [.checked result.status.word]
  | _ => []

/-- What is worth counting of a feed. -/
def ofFeed (e : Event) : List Happening :=
  (e.queued?.toList.map fun c => .streamEvent c.kind.word) ++
    (if e.starts then [.streamOpened] else []) ++ if e.finishes then [.streamClosed] else []

def happenings (e : Event) : List Happening := e.ofAnswer ++ e.ofFeed

end Event

end Course

namespace Feed

/-- What is worth counting when one feed takes the place of another. -/
def tells (f g : Feed) : List Happening :=
  (g.queue[f.queue.length]?.toList.map fun c => .streamEvent c.kind.word) ++
    (if g.isFinished || !f.isFinished then [] else [.streamOpened]) ++
      if g.isFinished && !f.isFinished then [.streamClosed] else []

theorem tells_eq_nil {f g : Feed} (hq : g.queue.length ≤ f.queue.length) (hp : g.phase = f.phase) :
    f.tells g = [] := by
  have hnone : g.queue[f.queue.length]? = none := List.getElem?_eq_none hq
  unfold tells isFinished
  rw [hnone, hp]
  cases decide (f.phase = .finished) <;> rfl

/-- What is noted at a step of a producer: a change that comes into the queue, or its end. -/
theorem noted_step? {current : Snapshot} {f g : Feed} {noted : List Happening}
    (h : f.step? current = some (g, noted)) : noted = f.tells g := by
  unfold step? at h
  split at h
  · exact nomatch h
  · rename_i hp
    split at h
    · cases h
      simp [tells, isFinished, hp]
    · split at h
      · cases h
        simp [tells, isFinished, hp]
      · exact nomatch h
  · rename_i hp
    cases h
    simp [tells, isFinished, hp]
  · rename_i c left hp
    split at h
    · cases h
      simp [tells, isFinished, hp]
    · split at h
      · cases h
        simp [tells, isFinished, hp]
      · exact nomatch h

end Feed

/-- A list is counted where it comes from, and one that fails is not counted. -/
theorem Directory.noted_concludeList (d : Directory) (filters : Filters) :
    (d.store.failure.isNone = true ∧
      ∃ records, d.concludeList filters = (.ok records, d.note (.listed Metrics.live))) ∨
    (d.store.failure.isNone = false ∧
      ∃ records, d.concludeList filters = (.ok records, d.note (.listed Metrics.cached))) ∨
    ∃ refusal, d.concludeList filters = (.error refusal, d) := by
  unfold concludeList Store.matching Store.all
  cases d.store.failure with
  | none => exact .inl ⟨rfl, _, rfl⟩
  | some reason =>
    cases hready : d.snapshot.isReady with
    | true => exact .inr (.inl ⟨rfl, _, rfl⟩)
    | false => exact .inr (.inr ⟨_, rfl⟩)

namespace Course

variable {w : Course} {m : Deed}

/-! ## Happenings of feeds -/

theorem ofFeed_of_no_feed (h : m.feed? = none) : (Event.mk w m).ofFeed = [] := by
  simp [Event.ofFeed, Event.queued?, Event.starts, Event.finishes, h]

theorem ofFeed_of_lookup {id : String} {f g : Feed} (hm : m.feed? = some id)
    (hf : w.directory.feeds.lookup id = some f)
    (hg : (w.act m).2.directory.feeds.lookup id = some g) : (Event.mk w m).ofFeed = f.tells g := by
  simp [Event.ofFeed, Event.queued?, Event.starts, Event.finishes, Event.after, queueOf,
    isProducing, hm, hf, hg, Feed.tells]
  cases f.isFinished <;> cases g.isFinished <;> simp

theorem ofFeed_of_same (h : (w.act m).2.directory.feeds = w.directory.feeds) :
    (Event.mk w m).ofFeed = [] := by
  have hqueue (id : String) : (w.act m).2.queueOf id = w.queueOf id := by
    rw [queueOf, h, queueOf]
  have hproducing (id : String) : (w.act m).2.isProducing id = w.isProducing id := by
    rw [isProducing, h, isProducing]
  simp [Event.ofFeed, Event.queued?, Event.starts, Event.finishes, Event.after, hqueue, hproducing]

/-! ## The metrics note them -/

/-- The metrics note the happenings of an event. -/
def Notes (w : Course) (m : Deed) : Prop :=
  (w.act m).2.directory.metrics = w.directory.metrics.noteAll (Event.mk w m).happenings

/-- Answers that nothing is counted for. -/
def Answer.isQuiet : Answer → Bool
  | refreshed _ | listed (.ok _) | checked _ => false
  | _ => true

theorem ofAnswer_of_isQuiet (h : (w.act m).1.isQuiet = true) : (Event.mk w m).ofAnswer = [] := by
  unfold Event.ofAnswer Event.answer
  generalize (w.act m).1 = answer at h
  split
  · exact nomatch h
  · exact nomatch h
  · exact nomatch h
  · exact nomatch h
  · rfl

/-- A deed that is answered without anything to count. -/
structure IsSilent (w : Course) (result : Answer × Course) : Prop where
  answer : result.1.isQuiet = true := by rfl
  metrics : result.2.directory.metrics = w.directory.metrics := by rfl

theorem notes_of_isSilent (h : w.IsSilent (w.act m)) (hfeed : (Event.mk w m).ofFeed = []) :
    w.Notes m := by
  unfold Notes Event.happenings
  rw [ofAnswer_of_isQuiet h.answer, hfeed]
  exact h.metrics

theorem notes_of_impossible (h : w.act m = (.impossible, w)) : w.Notes m :=
  notes_of_isSilent (h ▸ {}) (ofFeed_of_same (by rw [h]))

theorem notes_inFeed {id : String} (happens : Feed → Answer × Feed × List Happening)
    (hact : w.act m = w.inFeed id happens) (hm : m.feed? = some id)
    (hquiet : ∀ f, (happens f).1.isQuiet = true)
    (hnoted : ∀ f, (happens f).2.2 = f.tells (happens f).2.1) : w.Notes m := by
  cases hf : w.directory.feeds.lookup id with
  | none =>
    apply notes_of_impossible
    rw [hact, inFeed, hf]
  | some f =>
    have hg : (w.act m).2.directory.feeds.lookup id = some (happens f).2.1 := by
      rw [hact]
      exact lookup_inFeed hf happens
    have hanswer : (w.act m).1.isQuiet = true := by
      rw [hact, answer_inFeed hf]
      exact hquiet f
    unfold Notes Event.happenings
    rw [ofAnswer_of_isQuiet hanswer, ofFeed_of_lookup hm hf hg, ← hnoted f, hact, inFeed, hf]
    rfl

theorem noted_produceIn (current : Snapshot) (f : Feed) :
    (produceIn current f).2.2 = f.tells (produceIn current f).2.1 := by
  unfold produceIn
  cases hs : f.step? current with
  | none => exact (Feed.tells_eq_nil (Nat.le_refl _) rfl).symm
  | some next => exact Feed.noted_step? hs

theorem isQuiet_produceIn (current : Snapshot) (f : Feed) :
    (produceIn current f).1.isQuiet = true := by
  unfold produceIn
  cases f.step? current <;> rfl

theorem tells_takeFrom (f : Feed) : (takeFrom f).2.2 = f.tells (takeFrom f).2.1 := by
  rw [noted_takeFrom]
  refine (Feed.tells_eq_nil ?_ (takeFrom_keeps f).2.2).symm
  rw [← brings?_append_takeFrom "" f, List.length_append]
  exact Nat.le_add_left _ _

theorem isQuiet_takeFrom (f : Feed) : (takeFrom f).1.isQuiet = true := by
  unfold takeFrom
  split
  · split
    · rfl
    · split <;> rfl
  · rfl

theorem notes_openFeed (id : String) (filters : Filters) : w.Notes (.openFeed id filters) := by
  by_cases hheld : w.directory.isHeld = true
  · by_cases hfree : (w.directory.feeds.lookup id).all Feed.isFinished = true
    · let f := Feed.start filters w.directory.streamBuffer
      let g := if w.directory.isStopping then f.cancel else f
      have hact : w.act (.openFeed id filters) =
          w.does ((w.directory.putFeed id g).note .streamOpened) :=
        (if_pos hheld).trans (if_pos hfree)
      have hlookup : (w.act (.openFeed id filters)).2.directory.feeds.lookup id = some g := by
        rw [hact]
        exact Table.lookup_insert_self id g _
      have hg : g.queue = [] ∧ g.isFinished = false := by
        dsimp only [g]
        split <;> exact ⟨rfl, rfl⟩
      have hidle : w.isProducing id = false := by
        unfold isProducing
        cases hf : w.directory.feeds.lookup id with
        | none => rfl
        | some old =>
          rw [hf] at hfree
          simpa using hfree
      have hfeed : (Event.mk w (.openFeed id filters)).ofFeed = [.streamOpened] := by
        simp [Event.ofFeed, Event.queued?, Event.starts, Event.finishes, Event.after, Deed.feed?,
          queueOf, isProducing, hlookup, hg] at hidle ⊢
        simp [hidle]
      unfold Notes Event.happenings
      rw [ofAnswer_of_isQuiet (by rw [hact]; rfl), hfeed, hact]
      rfl
    · exact notes_of_impossible ((if_pos hheld).trans (if_neg hfree))
  · exact notes_of_impossible (if_neg hheld)

/-- The end of a refresh, whoever made it. -/
theorem notes_refresh {e : Course} {millis : Nat} (hfeed : m.feed? = none)
    (hact : w.act m = (.refreshed (w.directory.concludeRefresh millis).1, e))
    (hlasted : (Event.mk w m).lasted = millis)
    (hmetrics : e.directory.metrics = (w.directory.concludeRefresh millis).2.metrics)
    (hsnapshot : e.directory.snapshot = (w.directory.concludeRefresh millis).2.snapshot) :
    w.Notes m := by
  unfold Notes Event.happenings Event.ofAnswer Event.answer Event.after
  rw [ofFeed_of_no_feed hfeed, hact, hlasted]
  dsimp only
  rw [hmetrics, hsnapshot]
  unfold Directory.concludeRefresh
  cases w.directory.store.all with
  | error failure => rfl
  | ok sets => rfl

theorem act_finish_of_call {place : Nat} {c : Call} (hc : w.calls[place]? = some c) :
    w.act (.finish place) = w.finishCall place c := by
  change w.finish place = _
  rw [finish, hc]

theorem notes_list {filters : Filters} {size : Nat} {token : String} {place began : Nat}
    (hc : w.calls[place]? = some ⟨began, .list filters size token⟩) : w.Notes (.finish place) := by
  unfold Notes Event.happenings Event.ofAnswer Event.answer
  rw [ofFeed_of_no_feed rfl, act_finish_of_call hc]
  unfold finishCall
  rcases w.directory.noted_concludeList filters with
    ⟨hworks, records, hlist⟩ | ⟨hfails, records, hlist⟩ | ⟨refusal, hlist⟩
  · simp [hlist, hworks, Except.map]
    rfl
  · simp [hlist, hfails, Except.map]
    rfl
  · simp [hlist, Except.map]
    rfl

theorem notes_finish (place : Nat) : w.Notes (.finish place) := by
  cases hc : w.calls[place]? with
  | none =>
    apply notes_of_impossible
    change w.finish place = _
    rw [finish, hc]
  | some c =>
    obtain ⟨began, errand⟩ := c
    cases errand with
    | list filters size token => exact notes_list hc
    | refresh =>
      have hlasted : (Event.mk w (.finish place)).lasted = w.directory.now - began := by
        simp [Event.lasted, Event.began?, hc]
      exact notes_refresh rfl (act_finish_of_call hc) hlasted rfl rfl

theorem notes_tick (place : Nat) : w.Notes (.tick place) := by
  rcases w.act_tick_cases place with
    hnone | ⟨l, hl, ⟨hcancelled, hgoes⟩ | ⟨hgoes, ⟨hrest, hdue⟩ | ⟨began, ends, hscan, hdue⟩⟩⟩
  · exact notes_of_impossible hnone
  · exact notes_of_isSilent (act_tick_stops hl hcancelled hgoes ▸ {}) (ofFeed_of_no_feed rfl)
  · exact notes_of_isSilent (act_tick_begins hl hgoes hrest hdue ▸ {}) (ofFeed_of_no_feed rfl)
  · have hlasted : (Event.mk w (.tick place)).lasted = w.directory.now - began := by
      simp [Event.lasted, Event.began?, hl, hscan]
    exact notes_refresh rfl (act_tick_ends hl hgoes hscan hdue) hlasted rfl rfl

/-- Whatever is done, the metrics note what happens. -/
theorem notes_act (w : Course) (m : Deed) : w.Notes m := by
  have hask {id : String} {question : Subscription → Snapshot → Bool → Poll Snapshot × Subscription}
      (hact : w.act m = w.ask (w.directory.poll id question)) (hfeed : m.feed? = none) :
      w.Notes m := by
    refine notes_of_isSilent ?_ (ofFeed_of_no_feed hfeed)
    rw [hact]
    exact ask_cases (fun _ => {}) fun _ _ => {}
  cases m with
  | pass millis => exact notes_of_isSilent {} (ofFeed_of_no_feed rfl)
  | changeStore sets failure latency => exact notes_of_isSilent {} (ofFeed_of_no_feed rfl)
  | commit sets => exact notes_of_isSilent (holding_cases {} fun _ => {}) (ofFeed_of_no_feed rfl)
  | call errand => exact notes_of_isSilent (holding_cases {} fun _ => {}) (ofFeed_of_no_feed rfl)
  | finish place => exact notes_finish place
  | giveUp place => exact notes_of_isSilent (giveUp_cases {} fun _ => {}) (ofFeed_of_no_feed rfl)
  | startLoop interval =>
    exact notes_of_isSilent (holding_cases {} fun _ => {}) (ofFeed_of_no_feed rfl)
  | tick place => exact notes_tick place
  | shutdown => exact notes_of_isSilent {} (ofFeed_of_no_feed rfl)
  | release => exact notes_of_isSilent (release_cases {} fun _ => {}) (ofFeed_of_no_feed rfl)
  | subscribe id => exact notes_of_isSilent (holding_cases {} fun _ => {}) (ofFeed_of_no_feed rfl)
  | next id => exact hask rfl rfl
  | whenReady id => exact hask rfl rfl
  | openFeed id filters => exact notes_openFeed id filters
  | produce id =>
    exact notes_inFeed _ rfl rfl (isQuiet_produceIn w.directory.snapshot)
      (noted_produceIn w.directory.snapshot)
  | take id => exact notes_inFeed takeFrom rfl rfl isQuiet_takeFrom tells_takeFrom
  | cancelFeed id =>
    exact notes_inFeed (fun f => (.done, f.cancel, [])) rfl rfl (fun _ => rfl) fun f =>
      (Feed.tells_eq_nil (Nat.le_refl f.queue.length) rfl).symm
  | closeFeed id =>
    refine notes_inFeed (fun f => (.done, f.leave, [])) rfl rfl (fun _ => rfl) fun f => ?_
    exact (Feed.tells_eq_nil (f := f) (g := f.leave) (Nat.zero_le f.queue.length) rfl).symm
  | check name type targets =>
    unfold Notes Event.happenings
    rw [ofFeed_of_no_feed rfl]
    rfl

end Course

end Namebook
