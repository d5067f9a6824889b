import Namebook.Proofs.Course

/-!
# Single deeds and runs of them

What each deed can do is said here once. What every deed keeps is kept by a run, and so are a log of
its events and what the log tells.
-/

namespace Namebook

namespace Directory

/-- The end of a refresh only concerns the snapshot and the metrics. -/
theorem concludeRefresh_eq (d : Directory) (millis : Nat) :
    ∃ snapshot metrics, (d.concludeRefresh millis).2 = { d with snapshot, metrics } := by
  unfold concludeRefresh
  cases d.store.all with
  | error failure => exact ⟨_, _, rfl⟩
  | ok sets => exact ⟨_, _, rfl⟩

theorem concludeList_eq (d : Directory) (filters : Filters) :
    ∃ metrics, (d.concludeList filters).2 = { d with metrics } := by
  unfold concludeList
  cases d.store.matching filters.selector with
  | ok sets => exact ⟨_, rfl⟩
  | error failure =>
    dsimp only
    split
    · exact ⟨_, rfl⟩
    · exact ⟨_, rfl⟩

theorem loopStep_eq (d : Directory) (before : List RefreshLoop) (l : RefreshLoop)
    (after : List RefreshLoop) :
    ∃ snapshot metrics loops store,
      d.loopStep before l after = { d with snapshot, metrics, loops, store } := by
  unfold loopStep
  split
  · exact ⟨_, _, _, _, rfl⟩
  · cases l.stage with
    | resting => exact ⟨_, _, _, _, rfl⟩
    | ended => exact ⟨_, _, _, _, rfl⟩
    | scanning began ends =>
      obtain ⟨snapshot, metrics, he⟩ := d.concludeRefresh_eq (d.now - began)
      exact ⟨snapshot, metrics, before ++ l.endScan :: after, d.store,
        congrArg (fun e : Directory => { e with loops := before ++ l.endScan :: after }) he⟩

end Directory

namespace Course

/-! ## Cases

What holds when a deed is not possible, and when it is, holds of its result. -/

section
variable {w : Course} {P : Answer × Course → Prop}

theorem holding_cases {result : Answer × Course} (himpossible : P (.impossible, w))
    (hresult : w.directory.isHeld = true → P result) : P (w.holding result) := by
  unfold holding
  split
  · exact hresult ‹_›
  · exact himpossible

theorem finish_cases {place : Nat} (himpossible : P (.impossible, w))
    (hends : ∀ c, w.calls[place]? = some c → P (w.finishCall place c)) : P (w.finish place) := by
  unfold finish
  cases h : w.calls[place]? with
  | none => exact himpossible
  | some c => exact hends c h

theorem giveUp_cases {place : Nat} (himpossible : P (.impossible, w))
    (hgone : place < w.calls.length → P (.done, { w with calls := w.calls.eraseIdx place })) :
    P (w.giveUp place) := by
  unfold giveUp
  split
  · exact hgone ‹_›
  · exact himpossible

theorem tick_cases {place : Nat} (himpossible : P (.impossible, w))
    (hticks : ∀ l, w.directory.loops[place]? = some l → l.wake?.any (· ≤ w.directory.now) = true →
      P (w.tickLoop place l)) : P (w.tick place) := by
  unfold tick
  cases h : w.directory.loops[place]? with
  | none => exact himpossible
  | some l =>
    dsimp only
    split
    · exact hticks l h ‹_›
    · exact himpossible

theorem act_tick_of_due {place due : Nat} {l : RefreshLoop}
    (hl : w.directory.loops[place]? = some l) (hwake : l.wake? = some due)
    (hdue : due ≤ w.directory.now) : w.act (.tick place) = w.tickLoop place l := by
  change w.tick place = _
  unfold tick
  rw [hl]
  dsimp only
  rw [hwake, Option.any_some, if_pos (decide_eq_true hdue)]

/-! A tick does nothing, ends a cancelled loop, begins a scan or ends one. -/

theorem set_eq_of_getElem? {α : Type} {l : List α} {i : Nat} {a : α} (h : l[i]? = some a) (b : α) :
    l.set i b = l.take i ++ b :: l.drop (i + 1) := by
  rw [List.set_eq_take_append_cons_drop, if_pos (List.getElem?_eq_some_iff.mp h).1]

theorem getElem?_set_of_getElem? {α : Type} {l : List α} {i : Nat} {a : α} (h : l[i]? = some a)
    (b : α) : (l.set i b)[i]? = some b :=
  List.getElem?_set_self (List.getElem?_eq_some_iff.mp h).1

theorem act_tick_stops {place : Nat} {l : RefreshLoop} (hl : w.directory.loops[place]? = some l)
    (hcancelled : l.cancelled = true) (hgoes : l.isOver = false) :
    w.act (.tick place) = (.done, { w with directory := { w.directory with
      loops := w.directory.loops.set place l.stop } }) := by
  have hwake := RefreshLoop.wake?_of_cancelled hcancelled hgoes
  rw [act_tick_of_due hl hwake (Nat.zero_le _), set_eq_of_getElem? hl]
  unfold tickLoop Directory.loopStep
  dsimp only
  rw [if_pos hcancelled, if_pos hcancelled]

theorem act_tick_begins {place : Nat} {l : RefreshLoop} (hl : w.directory.loops[place]? = some l)
    (hgoes : l.cancelled = false) (hrest : l.stage = .resting)
    (hdue : l.deadline ≤ w.directory.now) :
    w.act (.tick place) = (.done, { w with directory := { w.directory with
      loops := w.directory.loops.set place (l.beginScan w.directory.now w.directory.store.latency)
      store := w.directory.store.called } }) := by
  have hwake : l.wake? = some l.deadline := by
    rw [RefreshLoop.wake?_of_running hgoes, RefreshLoop.due?, hrest]
  rw [act_tick_of_due hl hwake hdue, set_eq_of_getElem? hl]
  unfold tickLoop Directory.loopStep
  rw [hgoes, hrest]
  rfl

theorem act_tick_ends {place began ends : Nat} {l : RefreshLoop}
    (hl : w.directory.loops[place]? = some l) (hgoes : l.cancelled = false)
    (hscan : l.stage = .scanning began ends) (hdue : ends ≤ w.directory.now) :
    w.act (.tick place) =
      (.refreshed (w.directory.concludeRefresh (w.directory.now - began)).1,
        { w with directory :=
          { (w.directory.concludeRefresh (w.directory.now - began)).2 with
            loops := w.directory.loops.set place l.endScan } }) := by
  have hwake : l.wake? = some ends := by
    rw [RefreshLoop.wake?_of_running hgoes, RefreshLoop.due?, hscan]
  rw [act_tick_of_due hl hwake hdue, set_eq_of_getElem? hl]
  unfold tickLoop Directory.loopStep
  rw [hgoes, hscan]
  rfl

theorem act_tick_cases (w : Course) (place : Nat) :
    w.act (.tick place) = (.impossible, w) ∨
      ∃ l, w.directory.loops[place]? = some l ∧
        (l.cancelled = true ∧ l.isOver = false ∨
          l.cancelled = false ∧ (l.stage = .resting ∧ l.deadline ≤ w.directory.now ∨
            ∃ began ends, l.stage = .scanning began ends ∧ ends ≤ w.directory.now)) := by
  refine tick_cases (P := fun r => r = (.impossible, w) ∨ _) (.inl rfl) fun l hl hdue => ?_
  refine .inr ⟨l, hl, ?_⟩
  cases hc : l.cancelled with
  | true =>
    refine .inl ⟨rfl, Bool.eq_false_iff.mpr fun hover => ?_⟩
    rw [RefreshLoop.wake?_of_isOver hover] at hdue
    exact Bool.false_ne_true hdue
  | false =>
    refine .inr ⟨rfl, ?_⟩
    rw [RefreshLoop.wake?_of_running hc, RefreshLoop.due?] at hdue
    cases hs : l.stage with
    | resting =>
      rw [hs] at hdue
      exact .inl ⟨rfl, of_decide_eq_true hdue⟩
    | scanning began ends =>
      rw [hs] at hdue
      exact .inr ⟨began, ends, rfl, of_decide_eq_true hdue⟩
    | ended =>
      rw [hs] at hdue
      exact absurd hdue Bool.false_ne_true

theorem release_cases (himpossible : P (.impossible, w))
    (hreleased : w.calls.isEmpty = true → P (w.does w.directory.release)) : P w.release := by
  unfold release
  split
  · exact hreleased ‹_›
  · exact himpossible

theorem ask_cases {id : String}
    {question : Subscription → Snapshot → Bool → Poll Snapshot × Subscription}
    (himpossible : w.directory.subscriptions.lookup id = none → P (.impossible, w))
    (hanswer : ∀ s, w.directory.subscriptions.lookup id = some s →
      P (.polled (question s w.directory.snapshot w.directory.isAlive).1,
        { w with directory := { w.directory with
          subscriptions := Table.insert id
            (question s w.directory.snapshot w.directory.isAlive).2
            w.directory.subscriptions } })) :
    P (w.ask (w.directory.poll id question)) := by
  unfold Directory.poll ask
  cases h : w.directory.subscriptions.lookup id with
  | none => exact himpossible h
  | some s => exact hanswer s h

theorem inFeed_cases {id : String} {happens : Feed → Answer × Feed × List Happening}
    (himpossible : P (.impossible, w))
    (hhappens : ∀ f, w.directory.feeds.lookup id = some f →
      P ((happens f).1, { w with
        directory := (w.directory.putFeed id (happens f).2.1).noteAll (happens f).2.2 })) :
    P (w.inFeed id happens) := by
  unfold inFeed
  cases h : w.directory.feeds.lookup id with
  | none => exact himpossible
  | some f => exact hhappens f h

theorem openFeed_cases {id : String} {filters : Filters} (himpossible : P (.impossible, w))
    (hopened : ∀ f, P (w.does ((w.directory.putFeed id f).note .streamOpened))) :
    P (w.openFeed id filters) := by
  unfold openFeed
  dsimp only
  split
  · exact hopened _
  · exact himpossible

end

/-! What the ends of a call and of a scan concern. -/

theorem finishCall_eq (w : Course) (place : Nat) (c : Call) :
    ∃ snapshot metrics, (w.finishCall place c).2 =
      ⟨{ w.directory with snapshot, metrics }, w.calls.eraseIdx place⟩ := by
  unfold finishCall
  cases c.errand with
  | refresh =>
    obtain ⟨snapshot, metrics, he⟩ := w.directory.concludeRefresh_eq (w.directory.now - c.began)
    exact ⟨snapshot, metrics, congrArg (Course.mk · _) he⟩
  | list filters size token =>
    obtain ⟨metrics, he⟩ := w.directory.concludeList_eq filters
    exact ⟨w.directory.snapshot, metrics, congrArg (Course.mk · _) he⟩

theorem tickLoop_eq (w : Course) (place : Nat) (l : RefreshLoop) :
    ∃ snapshot metrics loops store, (w.tickLoop place l).2 =
      { w with directory := { w.directory with snapshot, metrics, loops, store } } := by
  obtain ⟨snapshot, metrics, loops, store, he⟩ :=
    w.directory.loopStep_eq (w.directory.loops.take place) l (w.directory.loops.drop (place + 1))
  exact ⟨snapshot, metrics, loops, store, congrArg (Course.mk · w.calls) he⟩

/-! ## What a deed can touch -/

/-- Whose subscription a deed is about. -/
def Deed.subscriber? : Deed → Option String
  | subscribe id => some id
  | next id => some id
  | whenReady id => some id
  | _ => none

/-- Whose feed a deed is about. -/
def Deed.feed? : Deed → Option String
  | openFeed id _ | produce id | take id | cancelFeed id | closeFeed id => some id
  | _ => none

/-- Whether a deed is about loops. -/
def Deed.isOfLoops : Deed → Bool
  | startLoop _ | tick _ | shutdown => true
  | _ => false

/-- What a deed can do. Time only goes by, loops and feeds are only changed by deeds about them, and
a shutdown is about all of them. A call is made by one who holds the snapshots, and they are not let
go while there is one. -/
structure Touches (w : Course) (m : Deed) (e : Course) : Prop where
  now : e.directory.now = w.directory.now ∨ ∃ millis, m = .pass millis := by exact .inl rfl
  streamBuffer : e.directory.streamBuffer = w.directory.streamBuffer := by rfl
  isStopping : e.directory.isStopping = w.directory.isStopping ∨ m = .shutdown := by exact .inl rfl
  loops : e.directory.loops = w.directory.loops ∨ m.isOfLoops = true := by exact .inl rfl
  subscriptions : e.directory.subscriptions = w.directory.subscriptions ∨
    (∃ id s, m.subscriber? = some id ∧
      e.directory.subscriptions = Table.insert id s w.directory.subscriptions) := by exact .inl rfl
  feeds : e.directory.feeds = w.directory.feeds ∨
    (∃ id f, m.feed? = some id ∧ e.directory.feeds = Table.insert id f w.directory.feeds) ∨
    (m = .shutdown ∧ e.directory.feeds = w.directory.feeds.map fun (id, f) => (id, f.cancel)) := by
      exact .inl rfl
  isHeld : e.directory.isHeld = w.directory.isHeld ∨ w.calls = [] ∧ e.calls = [] := by
    exact .inl rfl
  calls : e.calls ≠ [] → w.calls ≠ [] ∨ w.directory.isHeld = true := by exact fun hne => .inl hne

theorem touches_act (w : Course) (m : Deed) : w.Touches m (w.act m).2 := by
  let P (r : Answer × Course) : Prop := w.Touches m r.2
  have himpossible : P (.impossible, w) := {}
  have hask {id : String} (hm : m.subscriber? = some id)
      (question : Subscription → Snapshot → Bool → Poll Snapshot × Subscription) :
      P (w.ask (w.directory.poll id question)) :=
    ask_cases (fun _ => himpossible) fun _ _ => { subscriptions := .inr ⟨id, _, hm, rfl⟩ }
  have hfeed {id : String} (hm : m.feed? = some id)
      (happens : Feed → Answer × Feed × List Happening) : P (w.inFeed id happens) :=
    inFeed_cases himpossible fun _ _ => { feeds := .inr (.inl ⟨id, _, hm, rfl⟩) }
  cases m with
  | pass millis => exact { now := .inr ⟨millis, rfl⟩ }
  | changeStore sets failure latency => exact {}
  | commit sets => exact holding_cases (P := P) himpossible fun _ => {}
  | call errand =>
    exact holding_cases (P := P) himpossible fun hheld => { calls := fun _ => .inr hheld }
  | finish place =>
    refine finish_cases (P := P) himpossible fun c hc => ?_
    have hcalls : w.calls ≠ [] := List.ne_nil_of_mem (List.mem_of_getElem? hc)
    obtain ⟨snapshot, metrics, he⟩ := w.finishCall_eq place c
    change w.Touches _ (w.finishCall place c).2
    rw [he]
    exact { calls := fun _ => .inl hcalls }
  | giveUp place =>
    refine giveUp_cases (P := P) himpossible fun hlt => ?_
    exact { calls := fun _ => .inl (List.ne_nil_of_length_pos (Nat.zero_lt_of_lt hlt)) }
  | startLoop interval => exact holding_cases (P := P) himpossible fun _ => { loops := .inr rfl }
  | tick place =>
    refine tick_cases (P := P) himpossible fun l _ _ => ?_
    obtain ⟨snapshot, metrics, loops, store, he⟩ := w.tickLoop_eq place l
    change w.Touches _ (w.tickLoop place l).2
    rw [he]
    exact { loops := .inr rfl }
  | shutdown =>
    exact { isStopping := .inr rfl, loops := .inr rfl, feeds := .inr (.inr ⟨rfl, rfl⟩) }
  | release =>
    refine release_cases (P := P) himpossible fun hnone => ?_
    have hnil : w.calls = [] := List.isEmpty_iff.mp hnone
    exact { isHeld := .inr ⟨hnil, hnil⟩ }
  | subscribe id =>
    exact holding_cases (P := P) himpossible fun _ =>
      { subscriptions := .inr ⟨id, _, rfl, rfl⟩ }
  | next id => exact hask rfl _
  | whenReady id => exact hask rfl _
  | openFeed id filters =>
    exact holding_cases (P := P) himpossible fun _ => openFeed_cases (P := P) himpossible
      fun _ => { feeds := .inr (.inl ⟨id, _, rfl, rfl⟩) }
  | produce id => exact hfeed rfl _
  | take id => exact hfeed rfl _
  | cancelFeed id => exact hfeed rfl _
  | closeFeed id => exact hfeed rfl _
  | check name type targets => exact {}

/-! ## Runs -/

/-- What every deed keeps, a run keeps. -/
theorem run_keeps {I : Course → Prop} (hstep : ∀ w m, I w → I (w.act m).2) {w : Course} (h : I w)
    (deeds : List Deed) : I (w.run deeds) := by
  induction deeds generalizing w with
  | nil => exact h
  | cons m deeds ih => exact ih (hstep w m h)

/-- And it holds at the beginning of every event, when only some of the events happen. -/
theorem forall_history {I : Course → Prop} {P : Event → Prop}
    (hstep : ∀ w m, P ⟨w, m⟩ → I w → I (w.act m).2) {w : Course} (h : I w) {deeds : List Deed}
    (hevents : ∀ e ∈ w.history deeds, P e) : ∀ e ∈ w.history deeds, I e.before := by
  induction deeds generalizing w with
  | nil => exact List.forall_mem_nil _
  | cons m deeds ih =>
    obtain ⟨hfirst, hrest⟩ := List.forall_mem_cons.mp hevents
    exact List.forall_mem_cons.mpr ⟨h, ih (hstep w m hfirst h) hrest⟩

theorem history_append (w : Course) (deeds later : List Deed) :
    w.history (deeds ++ later) = w.history deeds ++ (w.run deeds).history later := by
  induction deeds generalizing w with
  | nil => rfl
  | cons m deeds ih => exact congrArg (Event.mk w m :: ·) (ih (w.act m).2)

theorem isPrompt_append {w : Course} {place : Nat} {deeds later : List Deed} :
    w.IsPrompt place (deeds ++ later) ↔
      w.IsPrompt place deeds ∧ (w.run deeds).IsPrompt place later := by
  unfold IsPrompt
  rw [history_append, List.forall_mem_append]

theorem isPrompt_pass {w : Course} {place : Nat} {l : RefreshLoop}
    (hl : w.directory.loops[place]? = some l)
    (millis : Nat) :
    (Event.mk w (.pass millis)).isPrompt place = true ↔
      (l.cancelled = false → ∀ due, l.due? = some due → millis ≤ due - w.directory.now) := by
  change w.directory.loops[place]?.all _ = true ↔ _
  rw [hl, Option.all_some]
  cases l.cancelled with
  | true => exact iff_of_true rfl nofun
  | false =>
    rw [Bool.false_or, Option.all_eq_true]
    exact ⟨fun h _ due hdue => of_decide_eq_true (h due hdue),
      fun h due hdue => decide_eq_true (h rfl due hdue)⟩

theorem filterMap_history_cons {α : Type} (log : Event → Option α) (w : Course) (m : Deed)
    (deeds : List Deed) :
    (w.history (m :: deeds)).filterMap log =
      (log ⟨w, m⟩).toList ++ ((w.act m).2.history deeds).filterMap log := by
  rw [history, List.filterMap_cons]
  cases log ⟨w, m⟩ with
  | none => rfl
  | some x => rfl

/-- What every deed keeps together with a log of the events, a run keeps together with it, when only
some of the events happen. -/
theorem run_keeps_log_of {α : Type} {log : Event → Option α} {I : List α → Course → Prop}
    {P : Event → Prop}
    (hstep : ∀ logged w m, P ⟨w, m⟩ → I logged w →
      I (logged ++ (log ⟨w, m⟩).toList) (w.act m).2)
    {logged : List α} {w : Course} (h : I logged w) {deeds : List Deed}
    (hevents : ∀ e ∈ w.history deeds, P e) :
    I (logged ++ (w.history deeds).filterMap log) (w.run deeds) := by
  induction deeds generalizing w logged with
  | nil =>
    rw [history, List.filterMap_nil, List.append_nil]
    exact h
  | cons m deeds ih =>
    obtain ⟨hfirst, hrest⟩ := List.forall_mem_cons.mp hevents
    rw [filterMap_history_cons, ← List.append_assoc]
    exact ih (hstep logged w m hfirst h) hrest

theorem run_keeps_log {α : Type} {log : Event → Option α} {I : List α → Course → Prop}
    (hstep : ∀ logged w m, I logged w → I (logged ++ (log ⟨w, m⟩).toList) (w.act m).2)
    {logged : List α} {w : Course} (h : I logged w) (deeds : List Deed) :
    I (logged ++ (w.history deeds).filterMap log) (w.run deeds) :=
  run_keeps_log_of (fun logged w m _ => hstep logged w m) h fun _ _ => trivial

end Course

end Namebook
