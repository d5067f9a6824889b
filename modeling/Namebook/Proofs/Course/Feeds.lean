import Namebook.Proofs.Course.Step
import Namebook.Proofs.Feed
import Namebook.Proofs.Table

/-!
# One feed in a course

A feed is only changed by the deeds about it and by a shutdown. What becomes of it, and what its
reader hears, depends on the feed itself and on the snapshot that is current at its steps.
-/

namespace Namebook

namespace Course

/-- What a deed does to the feed `id`, which is open already. -/
def Deed.onFeed (id : String) (current : Snapshot) (m : Deed) (f : Feed) : Feed :=
  match m with
  | .produce i => if i = id then (produceIn current f).2.1 else f
  | .take i => if i = id then (takeFrom f).2.1 else f
  | .cancelFeed i => if i = id then f.cancel else f
  | .closeFeed i => if i = id then f.leave else f
  | .shutdown => f.cancel
  | _ => f

/-- The change that a deed brings to the reader of the feed `id`. -/
def Deed.brings? (id : String) (m : Deed) (f : Feed) : Option Change :=
  match m with
  | .take i => if i = id ∧ f.receiving = true then f.queue.head? else none
  | _ => none

/-- Whether the producer of the feed `id` takes a turn. -/
def Deed.isTurn (id : String) : Deed → Bool
  | produce i => i == id
  | _ => false

/-- A deed that is not about the feed `id`, or no more than cancels it. -/
structure Deed.IsIdle (id : String) (m : Deed) : Prop where
  brings? : ∀ f, m.brings? id f = none
  isTurn : m.isTurn id = false
  queue : ∀ current f, (m.onFeed id current f).queue = f.queue
  receiving : ∀ current f, (m.onFeed id current f).receiving = f.receiving
  phase : ∀ current f, (m.onFeed id current f).phase = f.phase
  cancelled : ∀ current f, f.cancelled = true → (m.onFeed id current f).cancelled = true

theorem Deed.isIdle_of_onFeed {id : String} {m : Deed} (hb : ∀ f, m.brings? id f = none)
    (ht : m.isTurn id = false)
    (h : ∀ current f, m.onFeed id current f = f ∨ m.onFeed id current f = f.cancel) :
    m.IsIdle id := by
  refine ⟨hb, ht, fun current f => ?_, fun current f => ?_, fun current f => ?_,
    fun current f hc => ?_⟩ <;> rcases h current f with he | he <;> rw [he]
  all_goals first | rfl | exact hc

/-- What a deed can be for a feed. -/
theorem Deed.feed_cases (id : String) (m : Deed) :
    m = .produce id ∨ m = .take id ∨ m = .closeFeed id ∨ m.IsIdle id := by
  cases m with
  | produce i =>
    by_cases hi : i = id
    · exact .inl (congrArg _ hi)
    · exact .inr (.inr (.inr (isIdle_of_onFeed (fun _ => rfl) (beq_false_of_ne hi)
        fun _ _ => .inl (if_neg hi))))
  | take i =>
    by_cases hi : i = id
    · exact .inr (.inl (congrArg _ hi))
    · exact .inr (.inr (.inr (isIdle_of_onFeed (fun _ => if_neg fun h => hi h.1) rfl
        fun _ _ => .inl (if_neg hi))))
  | closeFeed i =>
    by_cases hi : i = id
    · exact .inr (.inr (.inl (congrArg _ hi)))
    · exact .inr (.inr (.inr (isIdle_of_onFeed (fun _ => rfl) rfl fun _ _ => .inl (if_neg hi))))
  | cancelFeed i =>
    refine .inr (.inr (.inr (isIdle_of_onFeed (fun _ => rfl) rfl fun current f => ?_)))
    by_cases hi : i = id
    · exact .inr (if_pos hi)
    · exact .inl (if_neg hi)
  | shutdown => exact .inr (.inr (.inr (isIdle_of_onFeed (fun _ => rfl) rfl fun _ _ => .inr rfl)))
  | _ => exact .inr (.inr (.inr (isIdle_of_onFeed (fun _ => rfl) rfl fun _ _ => .inl rfl)))

@[simp] theorem Deed.onFeed_produce (id : String) (current : Snapshot) (f : Feed) :
    (Deed.produce id).onFeed id current f = (produceIn current f).2.1 := if_pos rfl

@[simp] theorem Deed.onFeed_take (id : String) (current : Snapshot) (f : Feed) :
    (Deed.take id).onFeed id current f = (takeFrom f).2.1 := if_pos rfl

@[simp] theorem Deed.onFeed_closeFeed (id : String) (current : Snapshot) (f : Feed) :
    (Deed.closeFeed id).onFeed id current f = f.leave := if_pos rfl

/-- The text `id` is not given to another feed. -/
def Deed.Spares (id : String) (m : Deed) : Prop := ∀ filters, m ≠ .openFeed id filters

/-- An event opens a feed in the place of what `id` named before. -/
structure Event.Opens (id : String) (filters : Filters) (e : Event) : Prop where
  deed : e.deed = .openFeed id filters
  answer : e.answer = .done

theorem Deed.Spares.not_opens {id : String} {m : Deed} (h : m.Spares id) (w : Course)
    (filters : Filters) : ¬(Event.mk w m).Opens id filters := fun hopens => h filters hopens.deed

theorem not_opens_of_spares {id : String} {later : List Deed} (h : ∀ m ∈ later, m.Spares id)
    (w : Course) : ∀ e ∈ w.history later, ∀ filters, ¬e.Opens id filters := by
  induction later generalizing w with
  | nil => exact List.forall_mem_nil _
  | cons m later ih =>
    obtain ⟨hfirst, hlater⟩ := List.forall_mem_cons.mp h
    exact List.forall_mem_cons.mpr ⟨hfirst.not_opens w, ih hlater (w.act m).2⟩

variable {w : Course} {id : String} {f : Feed}

theorem lookup_inFeed (h : w.directory.feeds.lookup id = some f)
    (happens : Feed → Answer × Feed × List Happening) :
    (w.inFeed id happens).2.directory.feeds.lookup id = some (happens f).2.1 := by
  unfold inFeed
  rw [h]
  exact Table.lookup_insert_self id _ _

theorem answer_inFeed (h : w.directory.feeds.lookup id = some f)
    (happens : Feed → Answer × Feed × List Happening) :
    (w.inFeed id happens).1 = (happens f).1 := by
  unfold inFeed
  rw [h]

/-- Nothing else is done to a feed. -/
theorem lookup_feeds_act_of_other {m : Deed} (hm : m.feed? ≠ some id) (hs : m ≠ .shutdown) :
    (w.act m).2.directory.feeds.lookup id = w.directory.feeds.lookup id := by
  rcases (w.touches_act m).feeds with hsame | ⟨i, g, hi, he⟩ | ⟨hshutdown, -⟩
  · rw [hsame]
  · rw [he]
    exact Table.lookup_insert_of_ne (fun hid => hm (hi.trans (congrArg some hid.symm))) g _
  · exact absurd hshutdown hs

/-- A feed is opened unless this is not possible now. One of a directory that is ending is
cancelled. -/
theorem act_openFeed_cases (w : Course) (id : String) (filters : Filters) :
    w.act (.openFeed id filters) = (.impossible, w) ∨
      w.act (.openFeed id filters) = w.does ((w.directory.putFeed id
        (if w.directory.isStopping then (Feed.start filters w.directory.streamBuffer).cancel
          else Feed.start filters w.directory.streamBuffer)).note .streamOpened) := by
  refine holding_cases (P := fun r => r = (.impossible, w) ∨ r = _) (.inl rfl) fun _ => ?_
  unfold openFeed
  dsimp only
  split
  · exact .inr rfl
  · exact .inl rfl

theorem lookup_feeds_act (h : w.directory.feeds.lookup id = some f) {m : Deed}
    (hm : ∀ filters, ¬(Event.mk w m).Opens id filters) :
    (w.act m).2.directory.feeds.lookup id = some (m.onFeed id w.directory.snapshot f) := by
  have other {m : Deed} (hfeed : m.feed? ≠ some id) (hs : m ≠ .shutdown)
      (hon : m.onFeed id w.directory.snapshot f = f) :
      (w.act m).2.directory.feeds.lookup id = some (m.onFeed id w.directory.snapshot f) := by
    rw [hon, lookup_feeds_act_of_other hfeed hs, h]
  have hne {i : String} (hi : i ≠ id) : some i ≠ some id := fun he => hi (Option.some.inj he)
  cases m with
  | openFeed i filters =>
    rcases w.act_openFeed_cases i filters with ha | ha
    · rw [ha]
      exact h
    · have hi : i ≠ id := by
        rintro rfl
        exact hm filters ⟨rfl, congrArg Prod.fst ha⟩
      exact other (hne hi) (by simp) rfl
  | produce i =>
    by_cases hi : i = id
    · subst hi
      rw [Deed.onFeed_produce]
      exact lookup_inFeed h (produceIn w.directory.snapshot)
    · exact other (hne hi) (by simp) (if_neg hi)
  | take i =>
    by_cases hi : i = id
    · subst hi
      rw [Deed.onFeed_take]
      exact lookup_inFeed h takeFrom
    · exact other (hne hi) (by simp) (if_neg hi)
  | cancelFeed i =>
    by_cases hi : i = id
    · subst hi
      rw [Deed.onFeed, if_pos rfl]
      exact lookup_inFeed h fun f => (.done, f.cancel, [])
    · exact other (hne hi) (by simp) (if_neg hi)
  | closeFeed i =>
    by_cases hi : i = id
    · subst hi
      rw [Deed.onFeed_closeFeed]
      exact lookup_inFeed h fun f => (.done, f.leave, [])
    · exact other (hne hi) (by simp) (if_neg hi)
  | shutdown =>
    change (w.directory.feeds.map _).lookup id = _
    rw [Table.lookup_map, h]
    rfl
  | _ => exact other (by simp [Deed.feed?]) (by simp) rfl

/-! ## What its reader hears -/

/-- What the reader of the feed `id` hears when it asks: a change, the end, or nothing yet. -/
def Event.heard? (id : String) (e : Event) : Option Answer :=
  match e.deed with
  | .take i => if i = id then some e.answer else none
  | _ => none

/-- All that the reader of a feed hears, in its order. -/
def heard (id : String) (events : List Event) : List Answer := events.filterMap (Event.heard? id)

def Answer.change? : Answer → Option Change
  | took c => some c
  | _ => none

def Event.received? (id : String) (e : Event) : Option Change := (e.heard? id).bind Answer.change?

/-- The changes among it. -/
def received (id : String) (events : List Event) : List Change :=
  events.filterMap (Event.received? id)

theorem takeFrom_of_cons {c : Change} {queue : List Change} (hr : f.receiving = true)
    (hq : f.queue = c :: queue) : takeFrom f = (.took c, { f with queue }, []) := by
  simp [takeFrom, Feed.take?, hr, hq]

theorem takeFrom_of_nil (hr : f.receiving = true) (hq : f.queue = []) :
    takeFrom f = (if f.isFinished then .over else .impossible, f, []) := by
  simp [takeFrom, Feed.take?, Feed.isOver, hr, hq]

theorem takeFrom_of_left (hr : f.receiving = false) : takeFrom f = (.impossible, f, []) := by
  simp [takeFrom, hr]

theorem received?_eq (h : w.directory.feeds.lookup id = some f) (m : Deed) :
    (Event.mk w m).received? id = m.brings? id f := by
  cases m with
  | take i =>
    by_cases hi : i = id
    · subst hi
      have ha : (Event.mk w (.take i)).answer = (takeFrom f).1 := answer_inFeed h takeFrom
      simp only [Event.received?, Event.heard?, ha, if_true, Option.bind_some, Deed.brings?,
        true_and]
      cases hr : f.receiving with
      | false =>
        rw [takeFrom_of_left hr]
        rfl
      | true =>
        cases hq : f.queue with
        | nil =>
          rw [takeFrom_of_nil hr hq]
          dsimp only
          split <;> rfl
        | cons c queue =>
          rw [takeFrom_of_cons hr hq]
          rfl
    · simp [Event.received?, Event.heard?, Deed.brings?, hi]
  | _ => rfl

theorem received_history_cons (h : w.directory.feeds.lookup id = some f) (m : Deed)
    (later : List Deed) :
    received id (w.history (m :: later)) =
      (m.brings? id f).toList ++ received id ((w.act m).2.history later) := by
  unfold received
  rw [filterMap_history_cons, received?_eq h]

/-! ## What is in the queue -/

theorem queue_produceIn (current : Snapshot) (f : Feed) :
    f.queue <+: (produceIn current f).2.1.queue := by
  unfold produceIn
  cases hs : f.step? current with
  | none => exact List.prefix_rfl
  | some next =>
    obtain ⟨g, noted⟩ := next
    rcases Feed.step?_cases hs with ⟨-, rfl⟩ | ⟨-, -, -, rfl⟩ | ⟨-, rfl⟩ | ⟨c, left, -, -, -, rfl⟩
    · exact List.prefix_rfl
    · exact List.prefix_rfl
    · exact List.prefix_rfl
    · exact List.prefix_append _ _

theorem not_isOpen_of_cancelled (h : f.cancelled = true) : ¬f.IsOpen :=
  fun ho => Bool.false_ne_true (ho.1.symm.trans h)

theorem receiving_produceIn (current : Snapshot) (f : Feed) :
    (produceIn current f).2.1.receiving = f.receiving := by
  unfold produceIn
  cases hs : f.step? current with
  | none => rfl
  | some next => exact Feed.receiving_step? hs

/-- Nothing more is put into the queue of a feed that is cancelled or was left. -/
theorem queue_produceIn_of_closed (h : ¬f.IsOpen) (current : Snapshot) :
    (produceIn current f).2.1.queue = f.queue := by
  unfold produceIn
  cases hs : f.step? current with
  | none => rfl
  | some next =>
    obtain ⟨g, noted⟩ := next
    rcases Feed.step?_cases hs with ⟨-, rfl⟩ | ⟨-, ho, -⟩ | ⟨-, rfl⟩ | ⟨c, left, -, ho, -⟩
    · rfl
    · exact absurd ho h
    · rfl
    · exact absurd ho h

theorem cancelled_produceIn (current : Snapshot) (f : Feed) :
    (produceIn current f).2.1.cancelled = f.cancelled := by
  unfold produceIn
  cases hs : f.step? current with
  | none => rfl
  | some next =>
    obtain ⟨g, noted⟩ := next
    rcases Feed.step?_cases hs with ⟨-, rfl⟩ | ⟨-, -, -, rfl⟩ | ⟨-, rfl⟩ | ⟨c, left, -, -, -, rfl⟩
    all_goals rfl

/-- A feed that is cancelled puts nothing more into its queue. -/
theorem produceIn_of_cancelled (h : f.cancelled = true) (current : Snapshot) :
    (produceIn current f).2.1.cancelled = true ∧
      (produceIn current f).2.1.queue = f.queue :=
  ⟨(cancelled_produceIn current f).trans h,
    queue_produceIn_of_closed (not_isOpen_of_cancelled h) current⟩

theorem brings?_append_takeFrom (id : String) (f : Feed) :
    ((Deed.take id).brings? id f).toList ++ (takeFrom f).2.1.queue = f.queue := by
  cases hr : f.receiving with
  | false => simp [Deed.brings?, takeFrom_of_left hr, hr]
  | true =>
    cases hq : f.queue with
    | nil => simp [Deed.brings?, takeFrom_of_nil hr hq, hr, hq]
    | cons c queue => simp [Deed.brings?, takeFrom_of_cons hr hq, hr, hq]

theorem takeFrom_keeps (f : Feed) :
    (takeFrom f).2.1.cancelled = f.cancelled ∧ (takeFrom f).2.1.receiving = f.receiving ∧
      (takeFrom f).2.1.phase = f.phase := by
  cases hr : f.receiving with
  | false => simp [takeFrom_of_left hr, hr]
  | true =>
    cases hq : f.queue with
    | nil => simp [takeFrom_of_nil hr hq, hr]
    | cons c queue => simp [takeFrom_of_cons hr hq, hr]

/-! ## What all feeds keep -/

/-- What holds of a feed at its start and is kept by all that is done to feeds. -/
structure IsKept (P : Feed → Prop) (current : Snapshot) (capacity : Nat) : Prop where
  start : ∀ filters, P (Feed.start filters capacity)
  produce : ∀ f, P f → P (produceIn current f).2.1
  take : ∀ f, P f → P (takeFrom f).2.1
  cancel : ∀ f, P f → P f.cancel
  leave : ∀ f, P f → P f.leave

theorem forall_feeds_inFeed {P : Feed → Prop} (h : ∀ p ∈ w.directory.feeds, P p.2)
    {happens : Feed → Answer × Feed × List Happening} (hkept : ∀ f, P f → P (happens f).2.1) :
    ∀ p ∈ (w.inFeed id happens).2.directory.feeds, P p.2 := by
  refine inFeed_cases (P := fun r => ∀ p ∈ r.2.directory.feeds, P p.2) h fun f hf p hp => ?_
  rcases Table.mem_insert hp with rfl | hold
  · exact hkept f (h _ (Table.mem_of_lookup hf))
  · exact h p hold

theorem forall_feeds_act {P : Feed → Prop}
    (hkept : IsKept P w.directory.snapshot w.directory.streamBuffer)
    (h : ∀ p ∈ w.directory.feeds, P p.2) (m : Deed) :
    ∀ p ∈ (w.act m).2.directory.feeds, P p.2 := by
  have htouches := w.touches_act m
  have other (hm : m.feed? = none) (hs : m ≠ .shutdown) :
      ∀ p ∈ (w.act m).2.directory.feeds, P p.2 := by
    rcases htouches.feeds with hsame | ⟨i, g, hi, -⟩ | ⟨hshutdown, -⟩
    · rwa [hsame]
    · exact nomatch hm.symm.trans hi
    · exact absurd hshutdown hs
  cases m with
  | openFeed i filters =>
    refine holding_cases (P := fun r => ∀ p ∈ r.2.directory.feeds, P p.2) h fun _ => ?_
    unfold openFeed
    dsimp only
    split
    · intro p hp
      rcases Table.mem_insert hp with rfl | hold
      · split
        · exact hkept.cancel _ (hkept.start filters)
        · exact hkept.start filters
      · exact h p hold
    · exact h
  | produce i => exact forall_feeds_inFeed h hkept.produce
  | take i => exact forall_feeds_inFeed h hkept.take
  | cancelFeed i => exact forall_feeds_inFeed h hkept.cancel
  | closeFeed i => exact forall_feeds_inFeed h hkept.leave
  | shutdown =>
    intro p hp
    obtain ⟨q, hq, rfl⟩ := List.mem_map.mp hp
    exact hkept.cancel q.2 (h q hq)
  | _ => exact other rfl nofun

/-! ## Room in the queue -/

/-- Whether a feed holds no more than so many changes. -/
structure Fits (room : Nat) (f : Feed) : Prop where
  capacity : f.capacity = room
  queue : f.queue.length ≤ room

theorem fits_produceIn {room : Nat} (h : Fits room f) (current : Snapshot) :
    Fits room (produceIn current f).2.1 := by
  unfold produceIn
  cases hs : f.step? current with
  | none => exact h
  | some next =>
    obtain ⟨g, noted⟩ := next
    rcases Feed.step?_cases hs with
      ⟨-, rfl⟩ | ⟨-, -, -, rfl⟩ | ⟨-, rfl⟩ | ⟨c, left, -, -, hroom, rfl⟩
    · exact ⟨h.capacity, h.queue⟩
    · exact ⟨h.capacity, h.queue⟩
    · exact ⟨h.capacity, h.queue⟩
    · refine ⟨h.capacity, ?_⟩
      rw [List.length_append, List.length_singleton, ← h.capacity]
      exact hroom

theorem fits_takeFrom {room : Nat} (h : Fits room f) : Fits room (takeFrom f).2.1 := by
  cases hr : f.receiving with
  | false => rwa [takeFrom_of_left hr]
  | true =>
    cases hq : f.queue with
    | nil => rwa [takeFrom_of_nil hr hq]
    | cons c queue =>
      rw [takeFrom_of_cons hr hq]
      refine ⟨h.capacity, Nat.le_of_succ_le ?_⟩
      simpa [hq] using h.queue

/-- All feeds of the directory have room for as many changes as it says, and for one at least. -/
def HasRoom (w : Course) : Prop :=
  ∀ p ∈ w.directory.feeds, Fits (max w.directory.streamBuffer 1) p.2

theorem hasRoom_act (h : w.HasRoom) (m : Deed) : (w.act m).2.HasRoom := by
  have hkept : IsKept (Fits (max w.directory.streamBuffer 1)) w.directory.snapshot
      w.directory.streamBuffer :=
    { start := fun _ => ⟨rfl, Nat.zero_le _⟩
      produce := fun _ hf => fits_produceIn hf w.directory.snapshot
      take := fun _ hf => fits_takeFrom hf
      cancel := fun _ hf => ⟨hf.capacity, hf.queue⟩
      leave := fun _ hf => ⟨hf.capacity, Nat.zero_le _⟩ }
  unfold HasRoom
  rw [(w.touches_act m).streamBuffer]
  exact forall_feeds_act hkept h m

/-! ## What has been seen -/

/-- The producers have seen no generation that has not come yet. -/
def HasSeenPast (w : Course) : Prop :=
  ∀ p ∈ w.directory.feeds, p.2.seen ≤ w.directory.snapshot.generation

theorem seen_produceIn_le {current : Snapshot} (h : f.seen ≤ current.generation) :
    (produceIn current f).2.1.seen ≤ current.generation := by
  unfold produceIn
  cases hs : f.step? current with
  | none => exact h
  | some next =>
    obtain ⟨g, noted⟩ := next
    rcases Feed.step?_cases hs with ⟨-, rfl⟩ | ⟨-, -, -, rfl⟩ | ⟨-, rfl⟩ | ⟨c, left, -, -, -, rfl⟩
    · exact h
    · exact Nat.le_refl current.generation
    · exact h
    · exact h

theorem seen_takeFrom (f : Feed) : (takeFrom f).2.1.seen = f.seen := by
  cases hr : f.receiving with
  | false => rw [takeFrom_of_left hr]
  | true =>
    cases hq : f.queue with
    | nil => rw [takeFrom_of_nil hr hq]
    | cons c queue => rw [takeFrom_of_cons hr hq]

/-- A deed makes no producer see more than the snapshot before it. -/
theorem seen_act_le (h : w.HasSeenPast) (m : Deed) :
    ∀ p ∈ (w.act m).2.directory.feeds, p.2.seen ≤ w.directory.snapshot.generation := by
  have hkept : IsKept (fun f => f.seen ≤ w.directory.snapshot.generation) w.directory.snapshot
      w.directory.streamBuffer :=
    { start := fun _ => Nat.zero_le _
      produce := fun _ hf => seen_produceIn_le hf
      take := fun f hf => (seen_takeFrom f).trans_le hf
      cancel := fun _ hf => hf
      leave := fun _ hf => hf }
  exact forall_feeds_act hkept h m

/-! ## When a producer finishes -/

/-- No producer finishes unless its feed was cancelled or left. -/
def GoesOn (w : Course) : Prop := ∀ p ∈ w.directory.feeds, p.2.phase = .finished → ¬p.2.IsOpen

theorem isOpen_of_finished_produceIn (current : Snapshot) (h : f.phase = .finished → ¬f.IsOpen) :
    (produceIn current f).2.1.phase = .finished → ¬(produceIn current f).2.1.IsOpen := by
  unfold produceIn
  cases hs : f.step? current with
  | none => exact h
  | some next =>
    obtain ⟨g, noted⟩ := next
    rcases Feed.step?_cases hs with
      ⟨hclosed, rfl⟩ | ⟨-, -, -, rfl⟩ | ⟨-, rfl⟩ | ⟨c, left, -, -, -, rfl⟩
    · exact fun _ => hclosed
    all_goals exact nofun

theorem goesOn_act (h : w.GoesOn) (m : Deed) : (w.act m).2.GoesOn := by
  have hkept : IsKept (fun f => f.phase = .finished → ¬f.IsOpen) w.directory.snapshot
      w.directory.streamBuffer :=
    { start := fun _ => nofun
      produce := fun _ hf => isOpen_of_finished_produceIn w.directory.snapshot hf
      take := fun f hf => by
        obtain ⟨hc, hr, hp⟩ := takeFrom_keeps f
        unfold Feed.IsOpen at hf ⊢
        rwa [hc, hr, hp]
      cancel := fun _ _ _ ho => nomatch ho.1
      leave := fun _ _ _ ho => nomatch ho.2 }
  exact forall_feeds_act hkept h m

/-- A feed that is neither cancelled nor left goes on. -/
theorem isLive_of_isOpen (hroom : w.HasRoom) (hgoes : w.GoesOn)
    (hf : w.directory.feeds.lookup id = some f) (ho : f.IsOpen) : f.IsLive := by
  have hmem := Table.mem_of_lookup hf
  refine ⟨ho, fun hp => hgoes _ hmem hp ho, ?_⟩
  rw [(hroom _ hmem).capacity]
  exact Nat.lt_of_lt_of_le Nat.zero_lt_one (Nat.le_max_right _ 1)

end Course

end Namebook
