import Mathlib.Data.List.Forall2
import Namebook.Proofs.Course.Feeds
import Namebook.Proofs.Course.Subscription

/-!
# Feeds do not disturb each other

Some of the feeds of a course are left out, with all that is done to them and all that they do. The
rest of the course goes on as before: it has the same snapshots, calls and loops at every moment,
the other feeds are the same, and whoever reads one of them or asks for a list hears the same. Only
the counters tell the two courses apart.
-/

namespace Namebook

namespace Directory

/-- A directory that differs in these feeds and in the counters at most. -/
def AlikeBut (ids : String → Bool) (d e : Directory) : Prop :=
  ∃ feeds metrics, e = { d with feeds, metrics } ∧
    ∀ id, ids id = false → feeds.lookup id = d.feeds.lookup id

variable {ids : String → Bool} {d e : Directory}

/-- What concerns neither feeds nor counters comes to the same. -/
theorem AlikeBut.map (h : d.AlikeBut ids e) (f : Directory → Directory)
    (hcommutes : ∀ d feeds metrics, f { d with feeds, metrics } = { f d with feeds, metrics })
    (hkeeps : ∀ d, (f d).feeds = d.feeds) : (f d).AlikeBut ids (f e) := by
  obtain ⟨feeds, metrics, rfl, hfeeds⟩ := h
  exact ⟨feeds, metrics, hcommutes d feeds metrics, hkeeps d ▸ hfeeds⟩

theorem alikeBut_concludeRefresh (h : d.AlikeBut ids e) (millis : Nat) :
    (e.concludeRefresh millis).1 = (d.concludeRefresh millis).1 ∧
      (d.concludeRefresh millis).2.AlikeBut ids (e.concludeRefresh millis).2 := by
  obtain ⟨feeds, metrics, rfl, hfeeds⟩ := h
  unfold concludeRefresh
  dsimp only
  cases d.store.all with
  | error failure => exact ⟨rfl, feeds, _, rfl, hfeeds⟩
  | ok sets => exact ⟨rfl, feeds, _, rfl, hfeeds⟩

theorem alikeBut_concludeList (h : d.AlikeBut ids e) (filters : Filters) :
    (e.concludeList filters).1 = (d.concludeList filters).1 ∧
      (d.concludeList filters).2.AlikeBut ids (e.concludeList filters).2 := by
  obtain ⟨feeds, metrics, rfl, hfeeds⟩ := h
  unfold concludeList
  dsimp only
  cases d.store.matching filters.selector with
  | ok sets => exact ⟨rfl, feeds, _, rfl, hfeeds⟩
  | error failure =>
    dsimp only
    by_cases hready : d.snapshot.isReady = true
    · rw [if_pos hready, if_pos hready]
      exact ⟨rfl, feeds, _, rfl, hfeeds⟩
    · rw [if_neg hready, if_neg hready]
      exact ⟨rfl, feeds, metrics, rfl, hfeeds⟩

theorem alikeBut_loopStep (h : d.AlikeBut ids e) (before : List RefreshLoop) (l : RefreshLoop)
    (after : List RefreshLoop) :
    (d.loopStep before l after).AlikeBut ids (e.loopStep before l after) := by
  unfold loopStep
  split
  · obtain ⟨feeds, metrics, rfl, hfeeds⟩ := h
    exact ⟨feeds, metrics, rfl, hfeeds⟩
  · cases l.stage with
    | ended => exact h
    | resting =>
      obtain ⟨feeds, metrics, rfl, hfeeds⟩ := h
      exact ⟨feeds, metrics, rfl, hfeeds⟩
    | scanning began ends =>
      have hnow : e.now = d.now := by
        obtain ⟨feeds, metrics, rfl, -⟩ := h
        rfl
      obtain ⟨feeds, metrics, he, hfeeds⟩ := (alikeBut_concludeRefresh h (d.now - began)).2
      dsimp only
      rw [hnow, he]
      exact ⟨feeds, metrics, rfl, hfeeds⟩

/-- The same is put in the place of the same feed. -/
theorem AlikeBut.putFeed (h : d.AlikeBut ids e) (id : String) (f : Feed)
    (noted : List Happening) :
    ((d.putFeed id f).noteAll noted).AlikeBut ids ((e.putFeed id f).noteAll noted) := by
  obtain ⟨feeds, metrics, rfl, hfeeds⟩ := h
  exact ⟨_, _, rfl, fun other hother => Table.lookup_insert_congr (hfeeds other hother) id f⟩

/-- Only one of the two has another feed. -/
theorem AlikeBut.putFeed_left (h : d.AlikeBut ids e) {id : String} (hid : ids id = true)
    (f : Feed) (noted : List Happening) :
    ((d.putFeed id f).noteAll noted).AlikeBut ids e := by
  obtain ⟨feeds, metrics, rfl, hfeeds⟩ := h
  refine ⟨feeds, metrics, rfl, fun other hother => ?_⟩
  have hne : other ≠ id := fun he => Bool.false_ne_true (hother.symm.trans (he ▸ hid))
  exact (hfeeds other hother).trans (Table.lookup_insert_of_ne hne f _).symm

end Directory

namespace Course

/-- A course that differs in these feeds and in the counters at most. -/
structure AlikeBut (ids : String → Bool) (w v : Course) : Prop where
  calls : v.calls = w.calls
  directory : w.directory.AlikeBut ids v.directory

/-- Whether a deed is about one of these feeds. -/
def Deed.isAbout (ids : String → Bool) (m : Deed) : Bool := m.feed?.any ids

/-- One deed came to the same in two courses. -/
structure Agree (ids : String → Bool) (r s : Answer × Course) : Prop where
  answer : s.1 = r.1
  course : r.2.AlikeBut ids s.2

variable {ids : String → Bool} {w v : Course}

theorem AlikeBut.refl (ids : String → Bool) (w : Course) : w.AlikeBut ids w :=
  ⟨rfl, w.directory.feeds, w.directory.metrics, rfl, fun _ _ => rfl⟩

theorem AlikeBut.snapshot (h : w.AlikeBut ids v) : v.directory.snapshot = w.directory.snapshot := by
  obtain ⟨feeds, metrics, he, -⟩ := h.directory
  rw [he]

theorem AlikeBut.now (h : w.AlikeBut ids v) : v.directory.now = w.directory.now := by
  obtain ⟨feeds, metrics, he, -⟩ := h.directory
  rw [he]

theorem AlikeBut.isHeld (h : w.AlikeBut ids v) : v.directory.isHeld = w.directory.isHeld := by
  obtain ⟨feeds, metrics, he, -⟩ := h.directory
  rw [he]

theorem AlikeBut.isAlive (h : w.AlikeBut ids v) (hheld : w.directory.isHeld = true) :
    v.directory.isAlive = w.directory.isAlive := by
  simp [Directory.isAlive, hheld, h.isHeld]

theorem AlikeBut.lookup (h : w.AlikeBut ids v) {id : String} (hid : ids id = false) :
    v.directory.feeds.lookup id = w.directory.feeds.lookup id := by
  obtain ⟨feeds, metrics, he, hfeeds⟩ := h.directory
  rw [he]
  exact hfeeds id hid

/-! ## Deeds that are left out -/

theorem alikeBut_inFeed_left (h : w.AlikeBut ids v) {id : String} (hid : ids id = true)
    (happens : Feed → Answer × Feed × List Happening) :
    (w.inFeed id happens).2.AlikeBut ids v :=
  inFeed_cases (P := fun r => r.2.AlikeBut ids v) h fun _ _ =>
    ⟨h.calls, h.directory.putFeed_left hid _ _⟩

/-- What is done to a feed that does not count, or done by it, is done to nothing else. -/
theorem alikeBut_act_left (h : w.AlikeBut ids v) {m : Deed} (hm : m.isAbout ids = true) :
    (w.act m).2.AlikeBut ids v := by
  cases m with
  | openFeed id filters =>
    exact holding_cases (P := fun r => r.2.AlikeBut ids v) h fun _ =>
      openFeed_cases (P := fun r => r.2.AlikeBut ids v) h fun f =>
        ⟨h.calls, h.directory.putFeed_left hm f [.streamOpened]⟩
  | produce id => exact alikeBut_inFeed_left h hm _
  | take id => exact alikeBut_inFeed_left h hm _
  | cancelFeed id => exact alikeBut_inFeed_left h hm _
  | closeFeed id => exact alikeBut_inFeed_left h hm _
  | _ => exact nomatch hm

/-! ## Deeds in both courses -/

theorem agree_impossible (h : w.AlikeBut ids v) :
    Agree ids (.impossible, w) (.impossible, v) := ⟨rfl, h⟩

theorem agree_holding (h : w.AlikeBut ids v) {r s : Answer × Course} (hr : Agree ids r s) :
    Agree ids (w.holding r) (v.holding s) := by
  unfold holding
  rw [h.isHeld]
  split
  · exact hr
  · exact agree_impossible h

theorem agree_finishCall (h : w.AlikeBut ids v) (place : Nat) (c : Call) :
    Agree ids (w.finishCall place c) (v.finishCall place c) := by
  have hcalls : v.calls.eraseIdx place = w.calls.eraseIdx place :=
    congrArg (List.eraseIdx · _) h.calls
  unfold finishCall
  cases c.errand with
  | refresh =>
    obtain ⟨hresult, hdirectory⟩ :=
      Directory.alikeBut_concludeRefresh h.directory (w.directory.now - c.began)
    dsimp only
    rw [h.now]
    exact ⟨congrArg Answer.refreshed hresult, hcalls, hdirectory⟩
  | list filters size token =>
    obtain ⟨hrecords, hdirectory⟩ := Directory.alikeBut_concludeList h.directory filters
    refine ⟨?_, hcalls, hdirectory⟩
    dsimp only
    rw [hrecords]

theorem agree_finish (h : w.AlikeBut ids v) (place : Nat) :
    Agree ids (w.finish place) (v.finish place) := by
  unfold finish
  rw [h.calls]
  cases w.calls[place]? with
  | none => exact agree_impossible h
  | some c => exact agree_finishCall h place c

theorem agree_giveUp (h : w.AlikeBut ids v) (place : Nat) :
    Agree ids (w.giveUp place) (v.giveUp place) := by
  unfold giveUp
  rw [h.calls]
  split
  · exact ⟨rfl, rfl, h.directory⟩
  · exact agree_impossible h

theorem agree_tick (h : w.AlikeBut ids v) (place : Nat) :
    Agree ids (w.tick place) (v.tick place) := by
  have hloops : v.directory.loops = w.directory.loops := by
    obtain ⟨feeds, metrics, he, -⟩ := h.directory
    rw [he]
  unfold tick
  rw [hloops, h.now]
  cases w.directory.loops[place]? with
  | none => exact agree_impossible h
  | some l =>
    dsimp only
    split
    · refine ⟨?_, h.calls, ?_⟩
      · unfold tickLoop
        dsimp only
        split
        · rfl
        · cases l.stage with
          | scanning began ends =>
            dsimp only
            rw [h.now, (Directory.alikeBut_concludeRefresh h.directory _).1]
          | _ => rfl
      · unfold tickLoop
        dsimp only
        rw [hloops]
        exact Directory.alikeBut_loopStep h.directory _ l _
    · exact agree_impossible h

theorem agree_release (h : w.AlikeBut ids v) : Agree ids w.release v.release := by
  unfold release
  rw [h.calls]
  split
  · exact ⟨rfl, h.calls, h.directory.map Directory.release (fun _ _ _ => rfl) fun _ => rfl⟩
  · exact agree_impossible h

theorem agree_commit (h : w.AlikeBut ids v) (sets : List RecordSet) :
    Agree ids (w.act (.commit sets)) (v.act (.commit sets)) := by
  refine agree_holding h ⟨?_, h.calls, h.directory.map (fun d => d.commit sets)
    (fun _ _ _ => rfl) fun _ => rfl⟩
  change Answer.published (v.directory.snapshot.generation + 1) = _
  rw [h.snapshot]
  rfl

theorem agree_call (h : w.AlikeBut ids v) (errand : Errand) :
    Agree ids (w.act (.call errand)) (v.act (.call errand)) := by
  refine agree_holding h ⟨rfl, ?_, h.directory.map (fun d => { d with store := d.store.called })
    (fun _ _ _ => rfl) fun _ => rfl⟩
  change v.calls ++ [⟨v.directory.now, errand⟩] = _
  rw [h.calls, h.now]

theorem agree_startLoop (h : w.AlikeBut ids v) (interval : Nat) :
    Agree ids (w.act (.startLoop interval)) (v.act (.startLoop interval)) :=
  agree_holding h ⟨rfl, h.calls, h.directory.map
    (fun d =>
      let l := RefreshLoop.start interval d.now
      { d with loops := d.loops ++ [if d.isStopping then l.cancel else l] })
    (fun _ _ _ => rfl) fun _ => rfl⟩

theorem agree_check (h : w.AlikeBut ids v) (name type : String) (targets : List String) :
    Agree ids (w.act (.check name type targets)) (v.act (.check name type targets)) := by
  obtain ⟨feeds, metrics, he, hfeeds⟩ := h.directory
  refine ⟨?_, h.calls, ?_⟩
  · change Answer.checked (Namebook.check v.directory.resolver name type targets) = _
    rw [he]
    rfl
  · change Directory.AlikeBut ids _ (v.directory.checkName name type targets).2
    rw [he]
    exact ⟨feeds, _, rfl, hfeeds⟩

theorem agree_inFeed (h : w.AlikeBut ids v) {id : String} (hid : ids id = false)
    (happens : Feed → Answer × Feed × List Happening) :
    Agree ids (w.inFeed id happens) (v.inFeed id happens) := by
  unfold inFeed
  rw [h.lookup hid]
  cases w.directory.feeds.lookup id with
  | none => exact agree_impossible h
  | some f => exact ⟨rfl, h.calls, h.directory.putFeed id _ _⟩

theorem agree_openFeed (h : w.AlikeBut ids v) {id : String} (hid : ids id = false)
    (filters : Filters) : Agree ids (w.openFeed id filters) (v.openFeed id filters) := by
  have hsame : v.directory.streamBuffer = w.directory.streamBuffer ∧
      v.directory.isStopping = w.directory.isStopping := by
    obtain ⟨feeds, metrics, he, -⟩ := h.directory
    rw [he]
    exact ⟨rfl, rfl⟩
  unfold openFeed
  dsimp only
  rw [h.lookup hid, hsame.1, hsame.2]
  split
  · exact ⟨rfl, h.calls, h.directory.putFeed id _ [.streamOpened]⟩
  · exact agree_impossible h

theorem agree_shutdown (h : w.AlikeBut ids v) :
    Agree ids (w.act .shutdown) (v.act .shutdown) := by
  obtain ⟨feeds, metrics, he, hfeeds⟩ := h.directory
  refine ⟨rfl, h.calls, feeds.map fun p => (p.1, p.2.cancel), metrics, ?_, fun id hid => ?_⟩
  · change ({ v.directory with isStopping := true, loops := _, feeds := _ } : Directory) = _
    rw [he]
    rfl
  · have hold := hfeeds id hid
    change (feeds.map _).lookup id = (w.directory.feeds.map _).lookup id
    rw [Table.lookup_map, Table.lookup_map, hold]

/-- A subscription remembers the same in both courses. While the snapshots are held it is answered
the same, too; later it may be told of a feed that is left. -/
theorem alikeBut_ask (h : w.AlikeBut ids v) (id : String)
    {question : Subscription → Snapshot → Bool → Poll Snapshot × Subscription}
    (hq : ∀ s current held held', (question s current held).2 = (question s current held').2) :
    (w.ask (w.directory.poll id question)).2.AlikeBut ids
        (v.ask (v.directory.poll id question)).2 ∧
      (w.directory.isHeld = true →
        (v.ask (v.directory.poll id question)).1 = (w.ask (w.directory.poll id question)).1) := by
  have halive := h.isAlive
  obtain ⟨feeds, metrics, he, hfeeds⟩ := h.directory
  unfold Directory.poll
  rw [he] at halive ⊢
  dsimp only
  cases w.directory.subscriptions.lookup id with
  | none => exact ⟨h, fun _ => rfl⟩
  | some s =>
    refine ⟨⟨h.calls, feeds, metrics, ?_, hfeeds⟩, fun hheld => ?_⟩
    · dsimp only [ask]
      rw [hq s w.directory.snapshot w.directory.isAlive]
    · dsimp only [ask]
      rw [halive hheld]

theorem seen_next_congr (s : Subscription) (current : Snapshot) (held held' : Bool) :
    (s.next current held).2 = (s.next current held').2 := by
  unfold Subscription.next
  split <;> rfl

theorem seen_whenReady_congr (s : Subscription) (current : Snapshot) (held held' : Bool) :
    (s.whenReady current held).2 = (s.whenReady current held').2 := by
  unfold Subscription.whenReady
  split <;> rfl

/-- A deed that is not about the feeds that do not count comes to the same in both courses. -/
theorem alikeBut_act (h : w.AlikeBut ids v) {m : Deed} (hm : m.isAbout ids = false) :
    (w.act m).2.AlikeBut ids (v.act m).2 ∧
      (m.subscriber? = none ∨ w.directory.isHeld = true → (v.act m).1 = (w.act m).1) := by
  have agreed {r s : Answer × Course} {q : Prop} (hr : Agree ids r s) :
      r.2.AlikeBut ids s.2 ∧ (q → s.1 = r.1) := ⟨hr.course, fun _ => hr.answer⟩
  cases m with
  | pass millis =>
    exact agreed ⟨rfl, h.calls, h.directory.map (fun d => { d with now := d.now + millis })
      (fun _ _ _ => rfl) fun _ => rfl⟩
  | changeStore sets failure latency =>
    exact agreed ⟨rfl, h.calls, h.directory.map
      (fun d => ((d.setStore sets).failStore failure).delayStore latency)
      (fun _ _ _ => rfl) fun _ => rfl⟩
  | commit sets => exact agreed (agree_commit h sets)
  | call errand => exact agreed (agree_call h errand)
  | finish place => exact agreed (agree_finish h place)
  | giveUp place => exact agreed (agree_giveUp h place)
  | startLoop interval => exact agreed (agree_startLoop h interval)
  | tick place => exact agreed (agree_tick h place)
  | shutdown => exact agreed (agree_shutdown h)
  | release => exact agreed (agree_release h)
  | subscribe id =>
    exact agreed (agree_holding h ⟨rfl, h.calls, h.directory.map (fun d => d.subscribe id)
      (fun _ _ _ => rfl) fun _ => rfl⟩)
  | next id =>
    obtain ⟨hcourse, hanswer⟩ := alikeBut_ask h id seen_next_congr
    exact ⟨hcourse, fun hq => hanswer (hq.resolve_left nofun)⟩
  | whenReady id =>
    obtain ⟨hcourse, hanswer⟩ := alikeBut_ask h id seen_whenReady_congr
    exact ⟨hcourse, fun hq => hanswer (hq.resolve_left nofun)⟩
  | openFeed id filters => exact agreed (agree_holding h (agree_openFeed h hm filters))
  | produce id =>
    have hagree := agree_inFeed h hm (produceIn w.directory.snapshot)
    refine agreed ⟨?_, ?_⟩
    · change (v.inFeed id (produceIn v.directory.snapshot)).1 = _
      rw [h.snapshot]
      exact hagree.answer
    · change AlikeBut ids _ (v.inFeed id (produceIn v.directory.snapshot)).2
      rw [h.snapshot]
      exact hagree.course
  | take id => exact agreed (agree_inFeed h hm takeFrom)
  | cancelFeed id => exact agreed (agree_inFeed h hm fun f => (.done, f.cancel, []))
  | closeFeed id => exact agreed (agree_inFeed h hm fun f => (.done, f.leave, []))
  | check name type targets => exact agreed (agree_check h name type targets)

/-! ## Runs -/

/-- An event of one course and the one of the other that comes of the same deed. -/
structure Event.Agrees (ids : String → Bool) (e e' : Event) : Prop where
  deed : e'.deed = e.deed
  before : e.before.AlikeBut ids e'.before
  after : e.after.AlikeBut ids e'.after
  answer : e.deed.subscriber? = none ∨ e.before.directory.isHeld = true → e'.answer = e.answer

/-- The deeds that are not about these feeds. -/
def kept (ids : String → Bool) (deeds : List Deed) : List Deed :=
  deeds.filter fun m => !m.isAbout ids

theorem kept_cons_of_about {m : Deed} (hm : m.isAbout ids = true) (deeds : List Deed) :
    kept ids (m :: deeds) = kept ids deeds := List.filter_cons_of_neg (by simp [hm])

theorem kept_cons_of_not_about {m : Deed} (hm : m.isAbout ids = false) (deeds : List Deed) :
    kept ids (m :: deeds) = m :: kept ids deeds := List.filter_cons_of_pos (by simp [hm])

theorem agrees_act (h : w.AlikeBut ids v) {m : Deed} (hm : m.isAbout ids = false) :
    (Event.mk w m).Agrees ids ⟨v, m⟩ :=
  ⟨rfl, h, (alikeBut_act h hm).1, (alikeBut_act h hm).2⟩

theorem alikeBut_run (h : w.AlikeBut ids v) (deeds : List Deed) :
    (w.run deeds).AlikeBut ids (v.run (kept ids deeds)) := by
  induction deeds generalizing w v with
  | nil => exact h
  | cons m deeds ih =>
    cases hm : m.isAbout ids with
    | true =>
      rw [kept_cons_of_about hm]
      exact ih (alikeBut_act_left h hm)
    | false =>
      rw [kept_cons_of_not_about hm]
      exact ih (alikeBut_act h hm).1

theorem agrees_history (h : w.AlikeBut ids v) (deeds : List Deed) :
    List.Forall₂ (Event.Agrees ids) ((w.history deeds).filter fun e => !e.deed.isAbout ids)
      (v.history (kept ids deeds)) := by
  induction deeds generalizing w v with
  | nil => exact .nil
  | cons m deeds ih =>
    cases hm : m.isAbout ids with
    | true =>
      rw [kept_cons_of_about hm, history, List.filter_cons_of_neg (by simp [hm])]
      exact ih (alikeBut_act_left h hm)
    | false =>
      rw [kept_cons_of_not_about hm, history, List.filter_cons_of_pos (by simp [hm])]
      exact .cons (agrees_act h hm) (ih (alikeBut_act h hm).1)

/-- A log that tells nothing of the feeds that are left out tells the same of both courses. -/
theorem filterMap_history_kept {α : Type} {log : Event → Option α}
    (hsame : ∀ e e' : Event, e.Agrees ids e' → log e' = log e)
    (hout : ∀ e : Event, e.deed.isAbout ids = true → log e = none) (h : w.AlikeBut ids v)
    (deeds : List Deed) :
    (v.history (kept ids deeds)).filterMap log = (w.history deeds).filterMap log := by
  induction deeds generalizing w v with
  | nil => rfl
  | cons m deeds ih =>
    cases hm : m.isAbout ids with
    | true =>
      rw [kept_cons_of_about hm, filterMap_history_cons, hout ⟨w, m⟩ hm]
      exact ih (alikeBut_act_left h hm)
    | false =>
      rw [kept_cons_of_not_about hm, filterMap_history_cons, filterMap_history_cons,
        hsame _ _ (agrees_act h hm), ih (alikeBut_act h hm).1]

/-! ## What is heard -/

/-- The end of a call that was to list records. -/
def Event.list? (e : Event) : Option (Except Refusal Page) :=
  match e.deed, e.answer with
  | .finish _, .listed result => some result
  | _, _ => none

def lists (events : List Event) : List (Except Refusal Page) := events.filterMap Event.list?

theorem heard?_of_agrees {e e' : Event} (h : e.Agrees ids e') (id : String) :
    e'.heard? id = e.heard? id := by
  have ha := h.answer
  unfold Event.heard?
  rw [h.deed]
  cases hd : e.deed with
  | take i =>
    rw [hd] at ha
    rw [ha (.inl rfl)]
  | _ => rfl

theorem heard?_of_about {e : Event} (h : e.deed.isAbout ids = true) {id : String}
    (hid : ids id = false) : e.heard? id = none := by
  unfold Event.heard?
  cases hd : e.deed with
  | take i =>
    rw [hd] at h
    refine if_neg fun hi => Bool.false_ne_true (hid.symm.trans ?_)
    exact hi ▸ h
  | _ => rfl

theorem list?_of_agrees {e e' : Event} (h : e.Agrees ids e') : e'.list? = e.list? := by
  have ha := h.answer
  unfold Event.list?
  rw [h.deed]
  cases hd : e.deed with
  | finish place =>
    rw [hd] at ha
    rw [ha (.inl rfl)]
  | _ => rfl

theorem list?_of_about {e : Event} (h : e.deed.isAbout ids = true) : e.list? = none := by
  unfold Event.list?
  cases hd : e.deed with
  | finish place =>
    rw [hd] at h
    exact nomatch h
  | _ => rfl

/-- A commit is what raises the generation. -/
theorem committed?_eq (e : Event) :
    e.committed? =
      if e.before.directory.snapshot.generation < e.after.directory.snapshot.generation then
        some e.after.directory.snapshot
      else none := by
  unfold Event.committed? Event.after
  rcases e.before.publication_cases e.deed with ⟨hp, -, hs⟩ | ⟨sets, hp, -, hs⟩
  · rw [hp, hs, if_neg (Nat.lt_irrefl _)]
    rfl
  · rw [hp, hs]
    exact (if_pos (Nat.lt_succ_self _)).symm

theorem committed?_of_agrees {e e' : Event} (h : e.Agrees ids e') :
    e'.committed? = e.committed? := by
  rw [committed?_eq, committed?_eq, h.before.snapshot, h.after.snapshot]

theorem committed?_of_about {e : Event} (h : e.deed.isAbout ids = true) : e.committed? = none := by
  have hs : e.before.directory.snapshot = e.after.directory.snapshot :=
    (alikeBut_act_left (.refl ids e.before) h).snapshot
  rw [committed?_eq, hs, if_neg (Nat.lt_irrefl _)]

/-- A course of a new directory, and the same course without all that concerns some of the feeds.
They differ in these feeds and in the counters at most: at every deed that is left both are alike
before and after it, and it is answered the same. So the readers of the other feeds hear the same
changes and the same end, the same snapshots are committed, and the same lists are given. Only a
subscription may notice, after the snapshots were let go, whether a feed still holds them. -/
theorem course_without_feeds (grouping : Grouping) (resolver : Dns.Resolver) (streamBuffer : Nat)
    (deeds : List Deed) (ids : String → Bool) :
    let start := new grouping resolver streamBuffer
    let events := start.history deeds
    let fewer := start.history (kept ids deeds)
    (start.run deeds).AlikeBut ids (start.run (kept ids deeds)) ∧
      List.Forall₂ (Event.Agrees ids) (events.filter fun e => !e.deed.isAbout ids) fewer ∧
      (∀ id, ids id = false → heard id fewer = heard id events) ∧
      committed fewer = committed events ∧ lists fewer = lists events := by
  intro start events fewer
  have h : start.AlikeBut ids start := .refl ids start
  refine ⟨alikeBut_run h deeds, agrees_history h deeds, fun id hid => ?_, ?_, ?_⟩
  · exact filterMap_history_kept (fun _ _ ha => heard?_of_agrees ha id)
      (fun _ hout => heard?_of_about hout hid) h deeds
  · exact filterMap_history_kept (fun _ _ => committed?_of_agrees)
      (fun _ => committed?_of_about) h deeds
  · exact filterMap_history_kept (fun _ _ => list?_of_agrees) (fun _ => list?_of_about) h deeds

/-- One feed is read, while nobody reads the other, which is left out. -/
theorem course_without_feeds_unread :
    let start := new {} (.ofTables [] []) 1
    let deeds : List Deed :=
      [.commit [.single "x"], .openFeed "unread" Filters.unfiltered,
        .openFeed "f" Filters.unfiltered, .produce "unread", .produce "unread", .produce "f",
        .produce "f", .take "f"]
    let fewer := kept (· == "unread") deeds
    fewer = [.commit [.single "x"], .openFeed "f" Filters.unfiltered, .produce "f", .produce "f",
        .take "f"] ∧
      ((start.run deeds).directory.feeds.lookup "unread").map Feed.queue =
        some [⟨.added, .single "x"⟩] ∧
      (heard "f" (start.history fewer)).filterMap Answer.change? = [⟨.added, .single "x"⟩] ∧
      (start.run deeds).AlikeBut (· == "unread") (start.run fewer) := by
  intro start deeds fewer
  have hlisting : listing Filters.unfiltered [.single "x"] = [.single "x"] :=
    listing_eq_singleton (by decide)
  obtain ⟨halike, -, hheard, -⟩ := course_without_feeds {} (.ofTables [] []) 1 deeds (· == "unread")
  refine ⟨rfl, ?_, ?_, halike⟩
  · rw [run_commit_of_listing rfl hlisting]
    decide +kernel
  · rw [hheard "f" rfl, history_commit_of_listing rfl hlisting]
    decide +kernel

end Course

end Namebook
