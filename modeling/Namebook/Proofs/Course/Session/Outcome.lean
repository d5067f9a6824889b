import Namebook.Proofs.Course.Metrics
import Namebook.Proofs.Course.Separation
import Namebook.Proofs.Course.Session.Upkeep
import Namebook.Proofs.Course.Summary

/-!
# What comes of a session

The generations that users are given rise, and the summary of a session counts what was published
last. The counters of lists and checks are the answers that users were given. What a session is to
those who do not read some of the feeds could have come about without these.
-/

namespace Namebook

namespace Course

/-! ## What is noticed of answers -/

namespace Sign

/-- What an answer tells of the store or of a check. -/
def isAnswer : Sign → Bool
  | published _ | refreshed _ | listed _ | checked _ => true
  | _ => false

def generation? : Sign → Option Nat
  | published generation => some generation
  | refreshed (.ok generation) => some generation
  | _ => none

/-- A list that gave a page. -/
def isPage (s : Sign) : Bool := s matches .listed (.ok _)

/-- A refresh that gave a generation. -/
def isSuccess (s : Sign) : Bool := s matches .refreshed (.ok _)

def isFailure (s : Sign) : Bool := s matches .refreshed (.error _)

/-- A check that found this. -/
def isCheck (status : SyncStatus) : Sign → Bool
  | checked result => result.status == status
  | _ => false

/-- The end of a call that was to list records. -/
def list? : Sign → Option (Except Refusal Page)
  | listed result => some result
  | _ => none

end Sign

theorem answer_of_sign {m : Deed} {generation : Nat} {answer : Answer} {s : Sign}
    (hs : s.isAnswer = true) (h : m.sign? generation answer = some s) : answer.sign? = some s := by
  unfold Deed.sign? at h
  split at h
  all_goals first
    | exact h
    | exact absurd hs (Option.some.inj h ▸ Bool.false_ne_true)
    | exact nomatch h

/-- A loop is told nothing of lists and checks. -/
theorem sign?_tick {w : Course} {place : Nat} {s : Sign}
    (h : (w.act (.tick place)).1.sign? = some s) :
    w.directory.loops ≠ [] ∧ ∃ result, s = .refreshed result := by
  rcases w.act_tick_cases place with
    hnone | ⟨l, hl, ⟨hcancelled, hgoes⟩ | ⟨hgoes, ⟨hrest, hdue⟩ | ⟨began, ends, hscan, hdue⟩⟩⟩
  · rw [hnone] at h
    exact nomatch h
  · rw [act_tick_stops hl hcancelled hgoes] at h
    exact nomatch h
  · rw [act_tick_begins hl hgoes hrest hdue] at h
    exact nomatch h
  · rw [act_tick_ends hl hgoes hscan hdue] at h
    exact ⟨List.ne_nil_of_mem (List.mem_of_getElem? hl), _, (Option.some.inj h).symm⟩

/-- An answer is noticed as what it tells, or it tells nothing, or a loop keeps it to itself. -/
theorem Event.sign?_cases (e : Event) :
    e.sign? = e.answer.sign? ∨
      (e.answer.sign? = none ∧ ∃ s, e.sign? = some s ∧ s.isAnswer = false) ∨
      e.sign? = none ∧ e.before.directory.loops ≠ [] ∧
        ∃ result, e.answer.sign? = some (.refreshed result) := by
  obtain ⟨w, m⟩ := e
  by_cases hm : ∃ place, m = .tick place
  · obtain ⟨place, rfl⟩ := hm
    cases ha : (Event.mk w (.tick place)).answer.sign? with
    | none => exact .inl rfl
    | some s =>
      obtain ⟨hloops, result, rfl⟩ := sign?_tick ha
      exact .inr (.inr ⟨rfl, hloops, result, rfl⟩)
  · cases ha : (Event.mk w m).answer.sign? with
    | some s => exact .inl (sign?_of_answer (fun place hplace => hm ⟨place, hplace⟩) ha)
    | none =>
      cases hs : (Event.mk w m).sign? with
      | none => exact .inl rfl
      | some s =>
        refine .inr (.inl ⟨rfl, s, rfl, Bool.eq_false_iff.mpr fun h => ?_⟩)
        exact Option.some_ne_none s ((answer_of_sign h hs).symm.trans ha)

/-- What is read off answers alone is noticed, as far as it does not come from loops. -/
theorem Event.elim_sign? {α : Type} {otherwise : α} {read : Sign → α}
    (hread : ∀ s, s.isAnswer = false → read s = otherwise) (e : Event)
    (hloop : e.before.directory.loops ≠ [] → ∀ result, read (.refreshed result) = otherwise) :
    e.answer.sign?.elim otherwise read = e.sign?.elim otherwise read := by
  rcases e.sign?_cases with hsame | ⟨hnone, s, hs, hquiet⟩ | ⟨hnone, hloops, result, hs⟩
  · rw [hsame]
  · rw [hnone, hs]
    exact (hread s hquiet).symm
  · rw [hnone, hs]
    exact hloop hloops result

/-! ## Answers that are counted -/

theorem countP_signs {p : Sign → Bool} {counted : Event → Bool} {events : List Event}
    (h : ∀ e ∈ events, counted e = e.sign?.elim false p) :
    (signs events).countP p = events.countP counted := by
  have helim (s : Option Sign) : (s.map p).getD false = s.elim false p := by cases s <;> rfl
  unfold signs
  rw [List.countP_filterMap]
  exact List.countP_congr fun e he => by rw [helim, h e he]

theorem isList_eq (e : Event) : e.isList = e.sign?.elim false Sign.isPage := by
  rw [← e.elim_sign? (fun s hs => by cases s <;> first | rfl | exact nomatch hs) fun _ _ => rfl]
  unfold Event.isList
  cases e.answer with
  | listed result => cases result <;> rfl
  | _ => rfl

theorem status?_eq (status : SyncStatus) (e : Event) :
    (e.status? == some status) = e.sign?.elim false (Sign.isCheck status) := by
  rw [← e.elim_sign? (fun s hs => by cases s <;> first | rfl | exact nomatch hs) fun _ _ => rfl]
  unfold Event.status?
  cases e.answer <;> rfl

section
variable {e : Event} (hloops : e.before.directory.loops = [])
include hloops

theorem isRefresh_eq : e.isRefresh = e.sign?.elim false Sign.isSuccess := by
  rw [← e.elim_sign? (fun s hs => by cases s <;> first | rfl | exact nomatch hs)
    fun h => absurd hloops h]
  unfold Event.isRefresh
  cases e.answer with
  | refreshed result => cases result <;> rfl
  | _ => rfl

theorem isFailedRefresh_eq : e.isFailedRefresh = e.sign?.elim false Sign.isFailure := by
  rw [← e.elim_sign? (fun s hs => by cases s <;> first | rfl | exact nomatch hs)
    fun h => absurd hloops h]
  unfold Event.isFailedRefresh
  cases e.answer with
  | refreshed result => cases result <;> rfl
  | _ => rfl

end

/-- As long as nobody notices that one is started there is no loop. -/
theorem loops_eq_nil {w : Course} {deeds : List Deed} (hloops : w.directory.loops = [])
    (hnone : ∀ interval, .started interval ∉ signs (w.history deeds)) :
    ∀ e ∈ w.history deeds, e.before.directory.loops = [] := by
  refine forall_history (P := fun e => ∀ interval, e.sign? ≠ some (.started interval))
    (I := fun w => w.directory.loops = []) (fun w m hm hw => ?_) hloops fun e he interval hs =>
      hnone interval (List.mem_filterMap.mpr ⟨e, he, hs⟩)
  exact List.eq_nil_of_length_eq_zero ((length_loops_act hm).trans (congrArg List.length hw))

/-! ## Generations that are returned -/

theorem generation?_eq_elim (e : Event) :
    e.generation? = e.answer.sign?.elim none Sign.generation? := by
  unfold Event.generation?
  cases e.answer with
  | refreshed result => cases result <;> rfl
  | _ => rfl

theorem generation?_of_isAnswer {s : Sign} (h : s.isAnswer = false) : s.generation? = none := by
  cases s <;> first | rfl | exact nomatch h

theorem filterMap_signs_generation? (events : List Event) :
    (signs events).filterMap Sign.generation? =
      events.filterMap fun e => e.sign?.elim none Sign.generation? := by
  unfold signs
  rw [List.filterMap_filterMap]
  refine List.filterMap_congr fun e _ => ?_
  cases e.sign? <;> rfl

theorem sublist_filterMap {α β : Type} {log more : α → Option β}
    (h : ∀ x, log x = more x ∨ log x = none) (xs : List α) :
    (xs.filterMap log).Sublist (xs.filterMap more) := by
  induction xs with
  | nil => exact .slnil
  | cons x xs ih =>
    rw [List.filterMap_cons, List.filterMap_cons]
    rcases h x with hsame | hnone
    · rw [hsame]
      cases more x with
      | none => exact ih
      | some y => exact ih.cons_cons y
    · rw [hnone]
      cases more x with
      | none => exact ih
      | some y => exact ih.cons y

/-- Of the generations that are returned, users notice those that are not returned to loops. -/
theorem sublist_generations (events : List Event) :
    ((signs events).filterMap Sign.generation?).Sublist (generations events) := by
  rw [filterMap_signs_generation?]
  refine sublist_filterMap (fun e => ?_) events
  rw [generation?_eq_elim]
  rcases e.sign?_cases with hsame | ⟨-, s, hs, hquiet⟩ | ⟨hnone, -⟩
  · exact .inl (hsame ▸ rfl)
  · exact .inr (hs ▸ generation?_of_isAnswer hquiet)
  · exact .inr (hnone ▸ rfl)

theorem generations_eq_of_no_loop {events : List Event}
    (h : ∀ e ∈ events, e.before.directory.loops = []) :
    (signs events).filterMap Sign.generation? = generations events := by
  rw [filterMap_signs_generation?]
  refine List.filterMap_congr fun e he => ?_
  rw [generation?_eq_elim]
  exact (e.elim_sign? (fun _ => generation?_of_isAnswer) fun hloops => absurd (h e he) hloops).symm

section
variable (grouping : Grouping) (resolver : Dns.Resolver) (streamBuffer : Nat)
variable (requests : List Request)

/-- The snapshot after any session with a new directory. It is made of publications, and as soon as
it is ready it stays so in whatever follows. The generations that users are given for commits and
refreshes rise up to that of the snapshot, and as long as nobody starts a loop none is left out. -/
theorem snapshot_of_session :
    let start := (new grouping resolver streamBuffer).directory
    let d := session start requests
    let noticed := sessionSigns start requests
    let returned := noticed.filterMap Sign.generation?
    (∃ published, d.snapshot.IsMadeOf published) ∧
      (∀ later, d.snapshot.isReady = true →
        (session start (requests ++ later)).snapshot.isReady = true) ∧
      returned.Sublist (List.range' 1 d.snapshot.generation) ∧
      ((∀ interval, .started interval ∉ noticed) →
        returned = List.range' 1 d.snapshot.generation) := by
  intro start d noticed returned
  obtain ⟨deeds, -, hrun, hsigns⟩ : Tells _ noticed ⟨d, []⟩ :=
    tells_session_new grouping resolver streamBuffer requests
  have hmade : d.snapshot.IsMadeOf
      (publications ((new grouping resolver streamBuffer).history deeds)) := by
    have hcourse := isMadeOf_run_new grouping resolver streamBuffer deeds
    rwa [hrun] at hcourse
  have hgenerations : generations ((new grouping resolver streamBuffer).history deeds) =
      List.range' 1 d.snapshot.generation := by
    rw [hmade.generation]
    exact generations_history (w := new grouping resolver streamBuffer) .empty deeds
  have hreturned : returned =
      (signs ((new grouping resolver streamBuffer).history deeds)).filterMap Sign.generation? := by
    rw [hsigns]
  rw [hreturned, ← hgenerations]
  refine ⟨⟨_, hmade⟩, fun later hready => ?_, sublist_generations _, fun hnone => ?_⟩
  · obtain ⟨hsorted, hrest⟩ := atRest_session_new grouping resolver streamBuffer requests
    obtain ⟨more, -, hmore, -⟩ := tells_session hsorted hrest later
    have hlater := isReady_run (w := ⟨d, []⟩) hmade hready more
    rw [hmore] at hlater
    rw [session_append]
    exact hlater
  · rw [← hsigns] at hnone
    exact generations_eq_of_no_loop
      (loops_eq_nil (w := new grouping resolver streamBuffer) rfl hnone)

/-- The metrics after any session with a new directory. Counted are the lists that gave a page, the
checks by what they found and, as long as nobody starts a loop, the refreshes by how they ended. The
gauge of streams shows how many producers go on, of which there are none exactly when all have
finished. -/
theorem metrics_of_session :
    let d := session (new grouping resolver streamBuffer).directory requests
    let noticed := sessionSigns (new grouping resolver streamBuffer).directory requests
    Metrics.countOf Metrics.live d.metrics.lists + Metrics.countOf Metrics.cached d.metrics.lists =
        noticed.countP Sign.isPage ∧
      (∀ status : SyncStatus, Metrics.countOf status.word d.metrics.checks =
        noticed.countP (Sign.isCheck status)) ∧
      ((∀ interval, .started interval ∉ noticed) →
        Metrics.countOf Metrics.success d.metrics.refreshCounts = noticed.countP Sign.isSuccess ∧
          Metrics.countOf Metrics.failure d.metrics.refreshCounts = noticed.countP Sign.isFailure) ∧
      d.metrics.streams = d.feeds.countP (fun p => !p.2.isFinished) ∧
      (d.metrics.streams = 0 ↔ ∀ p ∈ d.feeds, p.2.isFinished = true) := by
  intro d noticed
  obtain ⟨deeds, -, hrun, hsigns⟩ := tells_session_new grouping resolver streamBuffer requests
  have hcounts {counter : Metrics → Nat} {kind : Happening → Bool} {counted : Event → Bool}
      {p : Sign → Bool} (hcounter : Metrics.Counts counter kind)
      (hkind : ∀ e : Event, e.happenings.countP kind = (counted e).toNat)
      (hzero : counter {} = 0)
      (hp : ∀ e ∈ (new grouping resolver streamBuffer).history deeds,
        counted e = e.sign?.elim false p) :
      counter d.metrics = noticed.countP p := by
    have hcount := counter_run hcounter hkind (new grouping resolver streamBuffer) deeds
    rw [hrun, ← countP_signs hp, hsigns] at hcount
    exact hcount.trans ((congrArg (· + _) hzero).trans (Nat.zero_add _))
  have hstreams : d.metrics.streams = producing ⟨d, []⟩ := by
    have h := streams_run (w := new grouping resolver streamBuffer) List.Pairwise.nil rfl deeds
    rwa [hrun] at h
  refine ⟨hcounts Metrics.counts_allLists countP_isList rfl fun e _ => isList_eq e,
    fun status => hcounts (Metrics.counts_checks status.word) (countP_status status) rfl
      fun e _ => status?_eq status e, fun hnone => ?refreshes, hstreams, ?_⟩
  case refreshes =>
    change ∀ interval, _ ∉ sessionSigns _ _ at hnone
    rw [← hsigns] at hnone
    have hloops := loops_eq_nil (w := new grouping resolver streamBuffer) rfl hnone
    exact ⟨hcounts Metrics.counts_successes countP_isRefresh rfl
        fun e he => isRefresh_eq (hloops e he),
      hcounts Metrics.counts_failures countP_isFailedRefresh rfl
        fun e he => isFailedRefresh_eq (hloops e he)⟩
  rw [hstreams, Int.natCast_eq_zero, producing_eq_zero_iff]

/-- The summary after any session counts what was published last: each name once, as manual if any
record gives it as that, and it shows whether there is a snapshot. -/
theorem summary_of_session :
    let s := (session (new grouping resolver streamBuffer).directory requests).snapshot
    let names := (s.records.map Record.name).toFinset
    let manual := names.filter fun name =>
      ∃ r ∈ s.records, r.name = name ∧ r.provenance = .manual
    s.summary.totalRecords = ((occurrences s.sets).map Occurrence.key).toFinset.card ∧
      s.summary.totalNames = names.card ∧
      (s.summary.bySource.map Prod.snd).sum = s.summary.totalNames ∧
      s.summary.bySource =
        [(.manual, manual.card), (.discovered, (names \ manual).card)].filter (fun p => p.2 ≠ 0) ∧
      (s.summary.ready = true ↔ 0 < s.summary.generation) ∧
      (s.summary.ready = true ↔ s.summary.refreshed.isSome = true) := by
  intro s names manual
  obtain ⟨deeds, -, hrun, -⟩ := tells_session_new grouping resolver streamBuffer requests
  have hmade := isMadeOf_run_new grouping resolver streamBuffer deeds
  rw [hrun] at hmade
  obtain ⟨hrecords, hnames, -, hsum, hcounts, -, -, -, -, hgeneration, hrefreshed⟩ := hmade.summary
  rw [← hmade.sets] at hrecords
  exact ⟨hrecords, hnames, hsum, hcounts, hgeneration, hrefreshed⟩

/-! ## Without some of the feeds -/

/-- Only the end of a call gives a list, and it is always noticed. -/
theorem list?_eq_bind (e : Event) : e.list? = e.sign?.bind Sign.list? := by
  obtain ⟨w, m⟩ := e
  cases m with
  | commit sets =>
    exact holding_cases (P := fun r => none = r.1.sign?.bind Sign.list?) rfl fun _ => rfl
  | check name type targets =>
    change none = (w.act (.check name type targets)).1.sign?.bind Sign.list?
    rw [act_check]
    rfl
  | _ =>
    unfold Event.list? Event.sign? Deed.sign?
    generalize Event.answer _ = answer
    cases answer <;> rfl

/-- What is left of a session for those who do not care for some of the feeds could have come about
without these: in a course in which nothing is ever done to them the directory comes to be the same
but for them and the counters, the same lists are given, and the readers of the other feeds get the
same. -/
theorem session_without_feeds (ids : String → Bool) :
    let start := new grouping resolver streamBuffer
    let noticed := sessionSigns start.directory requests
    ∃ deeds, (∀ m ∈ deeds, m.isAbout ids = false) ∧
      AlikeBut ids ⟨session start.directory requests, []⟩ (start.run deeds) ∧
      lists (start.history deeds) = noticed.filterMap Sign.list? ∧
      ∀ id, ids id = false →
        received id (start.history deeds) = noticed.filterMap (Sign.brings? id) := by
  intro start noticed
  obtain ⟨deeds, -, hrun, hsigns⟩ : start.Tells noticed _ :=
    tells_session_new grouping resolver streamBuffer requests
  have h : start.AlikeBut ids start := .refl ids start
  refine ⟨kept ids deeds, fun m hm => ?about, hrun ▸ alikeBut_run h deeds, ?lists, fun id hid => ?_⟩
  case about => simpa using (List.mem_filter.mp hm).2
  case lists =>
    refine (filterMap_history_kept (fun _ _ => list?_of_agrees) (fun _ => list?_of_about) h
      deeds).trans ?_
    rw [← hsigns, signs, List.filterMap_filterMap]
    exact List.filterMap_congr fun e _ => list?_eq_bind e
  · have hreceived : received id (start.history (kept ids deeds)) =
        received id (start.history deeds) := by
      refine filterMap_history_kept (fun e e' ha => ?_) (fun e hout => ?_) h deeds
      · exact congrArg (·.bind Answer.change?) (heard?_of_agrees ha id)
      · exact congrArg (·.bind Answer.change?) (heard?_of_about hout hid)
    rw [hreceived, received_eq_filterMap, hsigns]

end

end Course

end Namebook
