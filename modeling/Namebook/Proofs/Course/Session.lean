import Namebook.Proofs.Course.Service

/-!
# Sessions

A session puts requests to a new directory, one after the other, and lets everything go on after
each until it waits. It is a course, of which users notice the answers, so what holds in every
course holds in every session.
-/

namespace Namebook

namespace Feed

/-! ## Feeds at rest -/

theorem step?_settle (s : Snapshot) (f : Feed) : (f.settle s).1.step? s = none := by
  fun_induction settle s f with
  | case1 f hnone => exact hnone
  | case2 f g noted hstep g' more hg ih =>
    rw [hg] at ih
    exact ih

theorem settle_of_step?_eq_none {s : Snapshot} {f : Feed} (h : f.step? s = none) :
    f.settle s = (f, []) := by
  fun_induction settle s f with
  | case1 f hnone => rfl
  | case2 f g noted hstep => exact absurd (hstep.symm.trans h) (Option.some_ne_none _)

theorem receiving_settle (s : Snapshot) (f : Feed) : (f.settle s).1.receiving = f.receiving := by
  fun_induction settle s f with
  | case1 f hnone => rfl
  | case2 f g noted hstep g' more hg ih =>
    rw [hg] at ih
    exact ih.trans (receiving_step? hstep)

theorem receiving_take? {f g : Feed} {c : Change} (h : f.take? = some (c, g)) :
    g.receiving = f.receiving := by
  unfold take? at h
  split at h
  · exact nomatch h
  · cases h
    rfl

/-- A producer that is cancelled or whose subscriber is gone comes to rest only when it has
finished. -/
theorem isFinished_of_closed {s : Snapshot} {f : Feed} (h : f.step? s = none)
    (hclosed : ¬f.IsOpen) : f.isFinished = true := by
  have hshut : (f.cancelled || !f.receiving) = true := not_not.mp (mt isOpen_iff.mpr hclosed)
  unfold step? at h
  rw [hshut] at h
  cases hp : f.phase with
  | finished => exact decide_eq_true hp
  | waiting =>
    rw [hp] at h
    simp at h
  | sending left =>
    rw [hp] at h
    cases left <;> simp at h

end Feed

namespace Directory

/-- Nothing can go on as long as no time passes and nothing else is done. -/
structure AtRest (d : Directory) : Prop where
  feeds : ∀ p ∈ d.feeds, p.2.step? d.snapshot = none
  loops : d.IsIdleBefore (d.now + 1)

/-- Whose subscriber may still read. -/
def receivers (d : Directory) : List (String × Bool) := d.feeds.map fun p => (p.1, p.2.receiving)

theorem feeds_settleFeeds (d : Directory) :
    d.settleFeeds.feeds = d.feeds.map fun p => (p.1, (p.2.settle d.snapshot).1) := List.map_map

/-- What is due now is done in no time. -/
theorem now_settle (d : Directory) : d.settle.now = d.now := by
  have hstep (e g : Directory) (he : e.now = d.now) (hg : e.dueStep? (d.now + 1) = some g) :
      g.now = d.now := by
    obtain ⟨before, l, after, due, -, -, hlt, -, rfl⟩ := dueStep?_cases hg
    obtain ⟨snapshot, metrics, loops, store, hl⟩ :=
      loopStep_eq { e with now := max e.now due } before l after
    rw [hl]
    change max e.now due = d.now
    omega
  exact elapse_keeps (P := fun e => e.now = d.now) hstep (fun _ he => he) d rfl

theorem atRest_settle (d : Directory) : d.settle.AtRest := by
  refine ⟨fun p hp => ?_, ?_⟩
  · change p ∈ (d.elapse (d.now + 1)).settleFeeds.feeds at hp
    rw [feeds_settleFeeds] at hp
    obtain ⟨q, -, rfl⟩ := List.mem_map.mp hp
    exact Feed.step?_settle _ _
  · rw [now_settle]
    exact d.isIdleBefore_elapse (d.now + 1)

/-- Where no loop has anything to do, only the feeds go on. -/
theorem settle_of_isIdleBefore {d : Directory} (h : d.IsIdleBefore (d.now + 1)) :
    d.settle = d.settleFeeds := by
  have hnone : d.dueStep? (d.now + 1) = none := by
    refine Option.eq_none_iff_forall_ne_some.mpr fun e he => ?_
    obtain ⟨before, l, after, due, hloops, hdue, hlt, -, -⟩ := dueStep?_cases he
    exact absurd hlt (Nat.not_lt.mpr (h l (hloops ▸ List.mem_append_cons_self) due hdue))
  unfold settle
  rw [elapse_of_none hnone]

theorem receivers_settleFeeds (d : Directory) : d.settleFeeds.receivers = d.receivers := by
  unfold receivers
  rw [feeds_settleFeeds, List.map_map]
  exact List.map_congr_left fun p _ => congrArg (Prod.mk p.1) (Feed.receiving_settle _ _)

/-- While time goes on nobody comes or goes. -/
theorem sameFollowers_settle (d : Directory) :
    d.settle.receivers = d.receivers ∧ d.settle.isHeld = d.isHeld := by
  have h : (d.elapse (d.now + 1)).receivers = d.receivers ∧
      (d.elapse (d.now + 1)).isHeld = d.isHeld := by
    refine elapse_keeps (P := fun e => e.receivers = d.receivers ∧ e.isHeld = d.isHeld)
      ?step ?settle d ⟨rfl, rfl⟩
    case step =>
      intro e g he hg
      obtain ⟨before, l, after, due, -, -, -, -, rfl⟩ := dueStep?_cases hg
      obtain ⟨snapshot, metrics, loops, store, hl⟩ :=
        loopStep_eq { e with now := max e.now due } before l after
      rw [hl]
      exact he
    case settle => exact fun e he => ⟨(receivers_settleFeeds e).trans he.1, he.2⟩
  exact ⟨(receivers_settleFeeds _).trans h.1, h.2⟩

theorem lookup_receivers (d : Directory) (id : String) :
    d.receivers.lookup id = (d.feeds.lookup id).map Feed.receiving := by
  unfold receivers
  induction d.feeds with
  | nil => rfl
  | cons p feeds ih =>
    rw [List.map_cons, List.lookup_cons, List.lookup_cons]
    cases id == p.1 with
    | true => rfl
    | false => exact ih

/-- A text that nobody reads by can name a new feed. -/
theorem all_isFinished_of_atRest {d : Directory} (h : d.AtRest) {id : String}
    (hid : d.receivers.lookup id ≠ some true) : (d.feeds.lookup id).all Feed.isFinished = true := by
  rw [lookup_receivers] at hid
  cases hf : d.feeds.lookup id with
  | none => rfl
  | some f =>
    rw [hf] at hid
    have hr : f.receiving = false := Bool.eq_false_iff.mpr fun he => hid (congrArg some he)
    exact Feed.isFinished_of_closed (h.feeds (id, f) (Table.mem_of_lookup hf))
      fun ho => Bool.false_ne_true (hr.symm.trans ho.2)

end Directory

namespace Course

variable {w : Course} {d : Directory} {calls : List Call}

/-! ## Reading and leaving feeds -/

theorem act_take {before after : List (String × Feed)} {id : String} {f g : Feed} {c : Change}
    (hf : w.directory.feeds = before ++ (id, f) :: after)
    (hsorted : Table.IsSorted w.directory.feeds) (hr : f.receiving = true)
    (htake : f.take? = some (c, g)) :
    w.act (.take id) = (.took c, w.withFeeds (before ++ (id, g) :: after) []) := by
  have htakeFrom : takeFrom f = (.took c, g, []) := by
    unfold takeFrom
    rw [if_pos hr, htake]
  have hlookup : w.directory.feeds.lookup id = some f := by
    rw [hf] at hsorted ⊢
    exact Table.lookup_of_isSorted hsorted
  have hanswer := answer_inFeed hlookup takeFrom
  have hafter := inFeed_eq hf hsorted takeFrom
  rw [htakeFrom] at hanswer hafter
  exact Prod.ext hanswer hafter

theorem tells_read {s : Snapshot} {before after : List (String × Feed)} {id : String} {f : Feed}
    (most : Nat) (hs : w.directory.snapshot = s)
    (hf : w.directory.feeds = before ++ (id, f) :: after)
    (hsorted : Table.IsSorted w.directory.feeds) (hr : f.receiving = true) :
    w.Tells ((f.read s most).changes.map (.brought id))
      (w.withFeeds (before ++ (id, (f.read s most).feed) :: after)
        (f.read s most).happenings) := by
  induction most generalizing w f with
  | zero => exact leads_settleFeed hs hf hsorted
  | succ most ih =>
    have hset : w.Leads (w.withFeeds (before ++ (id, (f.settle s).1) :: after) (f.settle s).2) :=
      leads_settleFeed hs hf hsorted
    have hr' : (f.settle s).1.receiving = true := (Feed.receiving_settle s f).trans hr
    unfold Feed.read
    generalize f.settle s = settled at *
    obtain ⟨f, noted⟩ := settled
    dsimp only at *
    cases ht : f.take? with
    | none => exact hset
    | some taken =>
      obtain ⟨c, g⟩ := taken
      have ha := act_take rfl (hset.isSorted hsorted) hr' ht
      rw [withFeeds_withFeeds, List.append_nil] at ha
      have htook : w.Tells [.brought id c] (w.withFeeds (before ++ (id, g) :: after) noted) :=
        hset.tells (.act _ ha rfl)
      have hrest := ih (w := w.withFeeds (before ++ (id, g) :: after) noted) hs rfl
        (htook.isSorted hsorted) ((Feed.receiving_take? ht).trans hr')
      rw [withFeeds_withFeeds] at hrest
      exact htook.trans hrest

theorem feeds_eq_of_lookup {id : String} {f : Feed} (h : d.feeds.lookup id = some f) :
    ∃ before after, d.feeds = before ++ (id, f) :: after := by
  obtain ⟨before, after, he, -⟩ := List.lookup_eq_some_iff.mp h
  exact ⟨before, after, he⟩

theorem lookup_of_feed? {id : String} {f : Feed} (h : d.feed? id = some f) :
    d.feeds.lookup id = some f ∧ f.receiving = true := Option.filter_eq_some_iff.mp h

theorem tells_readFeed (hsorted : Table.IsSorted d.feeds) (id : String) (most : Option Nat) :
    (Course.mk d calls).Tells
      (((d.readFeed id most).1.elim [] Directory.FeedReading.changes).map (.brought id))
      ⟨(d.readFeed id most).2, calls⟩ := by
  unfold Directory.readFeed
  cases hfeed : d.feed? id with
  | none => exact Leads.refl _
  | some f =>
    obtain ⟨hlookup, hr⟩ := lookup_of_feed? hfeed
    obtain ⟨before, after, hf⟩ := feeds_eq_of_lookup hlookup
    let r := f.read d.snapshot (most.getD (f.outstanding d.snapshot).length)
    have hread : (Course.mk d calls).Tells (r.changes.map (.brought id))
        ((Course.mk d calls).withFeeds (before ++ (id, r.feed) :: after) r.happenings) :=
      tells_read (w := ⟨d, calls⟩) _ rfl hf hsorted hr
    have hput : (Course.mk d calls).withFeeds (before ++ (id, r.feed) :: after) r.happenings =
        ⟨(d.putFeed id r.feed).noteAll r.happenings, calls⟩ := by
      unfold withFeeds Directory.putFeed Directory.noteAll
      dsimp only
      rw [hf, Table.insert_of_isSorted (hf ▸ hsorted)]
    rw [hput] at hread
    exact hread.settle hsorted

theorem leads_closeFeed (hsorted : Table.IsSorted d.feeds) (id : String) :
    (Course.mk d calls).Leads ⟨(d.closeFeed id).2, calls⟩ := by
  unfold Directory.closeFeed
  cases hfeed : d.feed? id with
  | none => exact .refl _
  | some f =>
    have hone : (Course.mk d calls).Leads ⟨d.putFeed id f.leave, calls⟩ := by
      refine .act (.closeFeed id) ?_
      change ((Course.mk d calls).inFeed id fun f => (.done, f.leave, [])).2 = _
      unfold inFeed
      dsimp only
      rw [(lookup_of_feed? hfeed).1]
      rfl
    exact hone.settle hsorted

theorem leads_cancelFeed (hsorted : Table.IsSorted d.feeds) (id : String) :
    (Course.mk d calls).Leads ⟨d.cancelFeed id, calls⟩ := by
  unfold Directory.cancelFeed
  cases hlookup : d.feeds.lookup id with
  | none => exact .refl _
  | some f =>
    have hone : (Course.mk d calls).Leads ⟨d.putFeed id f.cancel, calls⟩ := by
      refine .act (.cancelFeed id) ?_
      change ((Course.mk d calls).inFeed id fun f => (.done, f.cancel, [])).2 = _
      unfold inFeed
      dsimp only
      rw [hlookup]
      rfl
    exact hone.settle hsorted

theorem all_isFinished_closeFeed (hrest : d.AtRest) (id : String) :
    ((d.closeFeed id).2.feeds.lookup id).all Feed.isFinished = true := by
  unfold Directory.closeFeed
  cases hfeed : d.feed? id with
  | none =>
    refine Directory.all_isFinished_of_atRest hrest fun hreading => ?_
    rw [Directory.lookup_receivers] at hreading
    obtain ⟨f, hlookup, hr⟩ := Option.map_eq_some_iff.mp hreading
    have : d.feed? id = some f := Option.filter_eq_some_iff.mpr ⟨hlookup, hr⟩
    rw [hfeed] at this
    exact nomatch this
  | some f =>
    refine Directory.all_isFinished_of_atRest (Directory.atRest_settle _) fun hreading => ?_
    rw [(Directory.sameFollowers_settle _).1, Directory.lookup_receivers,
      Directory.putFeed, Table.lookup_insert_self] at hreading
    exact nomatch hreading

theorem isHeld_closeFeed (d : Directory) (id : String) : (d.closeFeed id).2.isHeld = d.isHeld := by
  unfold Directory.closeFeed
  cases d.feed? id with
  | none => rfl
  | some f => exact (Directory.sameFollowers_settle _).2

theorem tells_addFeed (hsorted : Table.IsSorted d.feeds) (hheld : d.isHeld = true)
    (hrest : d.AtRest) (id : String) (filters : Filters) :
    (Course.mk d calls).Tells [.opened id filters] ⟨d.addFeed id filters, calls⟩ := by
  have hclose : (Course.mk d calls).Leads ⟨(d.closeFeed id).2, calls⟩ :=
    leads_closeFeed hsorted id
  have ha : (Course.mk (d.closeFeed id).2 calls).act (.openFeed id filters) =
      (.done, ⟨d.addFeed id filters, calls⟩) := by
    change (Course.mk (d.closeFeed id).2 calls).holding
      ((Course.mk (d.closeFeed id).2 calls).openFeed id filters) = _
    unfold holding openFeed
    dsimp only
    rw [if_pos ((isHeld_closeFeed d id).trans hheld), if_pos (all_isFinished_closeFeed hrest id)]
    rfl
  exact hclose.tells (.act _ ha rfl)

theorem feed?_addFeed (d : Directory) (id : String) (filters : Filters) :
    ∃ f, (d.addFeed id filters).feed? id = some f := by
  unfold Directory.addFeed Directory.feed? Directory.putFeed Directory.note
  dsimp only
  rw [Table.lookup_insert_self]
  split
  · exact ⟨_, rfl⟩
  · exact ⟨_, rfl⟩

theorem tells_openFeed (hsorted : Table.IsSorted d.feeds) (hheld : d.isHeld = true)
    (hrest : d.AtRest) (id : String) (filters : Filters) :
    (Course.mk d calls).Tells [.opened id filters] ⟨d.openFeed id filters, calls⟩ :=
  (tells_addFeed hsorted hheld hrest id filters).settle hsorted

theorem tells_touchFeed (hsorted : Table.IsSorted d.feeds) (hheld : d.isHeld = true)
    (hrest : d.AtRest) (id : String) (filters : Filters) :
    (Course.mk d calls).Tells [.opened id filters] ⟨d.touchFeed id filters, calls⟩ := by
  have hadd : (Course.mk d calls).Tells [.opened id filters] ⟨d.addFeed id filters, calls⟩ :=
    tells_addFeed hsorted hheld hrest id filters
  exact hadd.leads (leads_closeFeed (hadd.isSorted hsorted) id)

theorem tells_poll (id : String)
    (question : Subscription → Snapshot → Bool → Poll Snapshot × Subscription) {m : Deed}
    (hm : (Course.mk d calls).act m = (Course.mk d calls).ask (d.poll id question))
    (hsign : ∀ answer, m.sign? d.snapshot.generation (.polled answer) = some (.polled id answer))
    (hsilent : m.sign? d.snapshot.generation .impossible = none)
    (hprompt : ∀ place, (Event.mk ⟨d, calls⟩ m).isPrompt place = true) :
    (Course.mk d calls).Tells ((d.poll id question).1.toList.map (.polled id))
      ⟨(d.poll id question).2, calls⟩ := by
  unfold Directory.poll at hm ⊢
  cases hlookup : d.subscriptions.lookup id with
  | none =>
    rw [hlookup] at hm
    refine Leads.act m (congrArg Prod.snd hm) hprompt ?_
    unfold Event.sign? Event.answer
    rw [hm]
    exact hsilent
  | some s =>
    rw [hlookup] at hm
    exact .act m hm (hsign _) hprompt

theorem act_check (name type : String) (targets : List String) :
    w.act (.check name type targets) = (.checked (w.directory.checkName name type targets).1,
      { w with directory := (w.directory.checkName name type targets).2 }) := by
  unfold act
  dsimp only

/-! ## Requests -/

/-- What a session can ask for. -/
inductive Request where
  | setStore (sets : List RecordSet)
  | failStore (reason : Option String)
  | delayStore (millis : Nat)
  | publish (sets : List RecordSet)
  | refresh
  | list (filters : Filters) (size : Nat) (token : String)
  | startLoop (interval : Nat)
  | advance (millis : Nat)
  | shutdown
  | release
  | subscribe (id : String)
  | next (id : String)
  | whenReady (id : String)
  | openFeed (id : String) (filters : Filters)
  | touchFeed (id : String) (filters : Filters)
  | readFeed (id : String) (most : Option Nat)
  | cancelFeed (id : String)
  | closeFeed (id : String)
  | check (name type : String) (targets : List String)

/-- Whether one must hold the snapshots to ask for it. -/
def Request.needsHold : Request → Bool
  | publish _ | refresh | list .. | startLoop _ | subscribe _ | openFeed .. | touchFeed .. => true
  | _ => false

/-- What the service makes of a request. -/
def Request.serve (d : Directory) : Request → Directory
  | setStore sets => d.setStore sets
  | failStore reason => d.failStore reason
  | delayStore millis => d.delayStore millis
  | publish sets => (d.publish sets).2
  | refresh => d.refresh.2
  | list filters size token => (d.list filters size token).2
  | startLoop interval => d.startLoop interval
  | advance millis => d.advance millis
  | shutdown => d.shutdown
  | release => d.release
  | subscribe id => d.subscribe id
  | next id => (d.next id).2
  | whenReady id => (d.whenReady id).2
  | openFeed id filters => d.openFeed id filters
  | touchFeed id filters => d.touchFeed id filters
  | readFeed id most => (d.readFeed id most).2
  | cancelFeed id => d.cancelFeed id
  | closeFeed id => (d.closeFeed id).2
  | check name type targets => (d.checkName name type targets).2

/-- What users notice of a request. -/
def Request.signs (d : Directory) : Request → List Sign
  | publish sets => [.published (d.publish sets).1]
  | refresh => [.refreshed d.refresh.1]
  | list filters size token => [.listed (d.list filters size token).1]
  | startLoop interval => [.started interval]
  | shutdown => [.stopped]
  | subscribe id => [.subscribed id d.snapshot.generation]
  | next id => (d.next id).1.toList.map (.polled id)
  | whenReady id => (d.whenReady id).1.toList.map (.polled id)
  | openFeed id filters | touchFeed id filters => [.opened id filters]
  | readFeed id most =>
    ((d.readFeed id most).1.elim [] Directory.FeedReading.changes).map (.brought id)
  | check name type targets => [.checked (d.checkName name type targets).1]
  | _ => []

theorem tells_serve (hsorted : Table.IsSorted d.feeds) (hrest : d.AtRest) {r : Request}
    (hheld : r.needsHold = true → d.isHeld = true) :
    (Course.mk d []).Tells (r.signs d) ⟨r.serve d, []⟩ := by
  cases r with
  | setStore sets => exact Leads.act (.changeStore sets d.store.failure d.store.latency) rfl
  | failStore reason => exact Leads.act (.changeStore d.store.sets reason d.store.latency) rfl
  | delayStore millis => exact Leads.act (.changeStore d.store.sets d.store.failure millis) rfl
  | publish sets => exact tells_publish hsorted (hheld rfl) sets
  | refresh => exact tells_refresh hsorted (hheld rfl)
  | list filters size token => exact tells_list hsorted (hheld rfl) filters size token
  | startLoop interval => exact tells_startLoop hsorted (hheld rfl) interval
  | advance millis => exact leads_advance hsorted millis
  | shutdown => exact tells_shutdown hsorted
  | release => exact Leads.act .release rfl
  | subscribe id =>
    have ha : (Course.mk d []).act (.subscribe id) = (.done, ⟨d.subscribe id, []⟩) :=
      if_pos (hheld rfl)
    exact .act _ ha rfl
  | next id =>
    exact tells_poll id Subscription.next (m := .next id) rfl (fun _ => rfl) rfl fun _ => rfl
  | whenReady id =>
    exact tells_poll id Subscription.whenReady (m := .whenReady id) rfl (fun _ => rfl) rfl
      fun _ => rfl
  | openFeed id filters => exact tells_openFeed hsorted (hheld rfl) hrest id filters
  | touchFeed id filters => exact tells_touchFeed hsorted (hheld rfl) hrest id filters
  | readFeed id most => exact tells_readFeed hsorted id most
  | cancelFeed id => exact leads_cancelFeed hsorted id
  | closeFeed id => exact leads_closeFeed hsorted id
  | check name type targets => exact .act _ (act_check name type targets) rfl

theorem atRest_poll (h : d.AtRest) (id : String)
    (question : Subscription → Snapshot → Bool → Poll Snapshot × Subscription) :
    (d.poll id question).2.AtRest := by
  unfold Directory.poll
  cases d.subscriptions.lookup id with
  | none => exact h
  | some s => exact ⟨h.feeds, h.loops⟩

/-- After every request all feeds and loops wait. -/
theorem atRest_serve (h : d.AtRest) (r : Request) : (r.serve d).AtRest := by
  cases r with
  | setStore sets => exact ⟨h.feeds, h.loops⟩
  | failStore reason => exact ⟨h.feeds, h.loops⟩
  | delayStore millis => exact ⟨h.feeds, h.loops⟩
  | publish sets => exact Directory.atRest_settle _
  | refresh => exact Directory.atRest_settle _
  | list filters size token => exact Directory.atRest_settle _
  | startLoop interval => exact Directory.atRest_settle _
  | advance millis => exact Directory.atRest_settle _
  | shutdown => exact Directory.atRest_settle _
  | release => exact ⟨h.feeds, h.loops⟩
  | subscribe id => exact ⟨h.feeds, h.loops⟩
  | next id => exact atRest_poll h id Subscription.next
  | whenReady id => exact atRest_poll h id Subscription.whenReady
  | openFeed id filters => exact Directory.atRest_settle _
  | touchFeed id filters =>
    obtain ⟨f, hf⟩ := feed?_addFeed d id filters
    change ((d.addFeed id filters).closeFeed id).2.AtRest
    unfold Directory.closeFeed
    rw [hf]
    exact Directory.atRest_settle _
  | readFeed id most =>
    change (d.readFeed id most).2.AtRest
    unfold Directory.readFeed
    cases d.feed? id with
    | none => exact h
    | some f => exact Directory.atRest_settle _
  | cancelFeed id =>
    change (d.cancelFeed id).AtRest
    unfold Directory.cancelFeed
    cases d.feeds.lookup id with
    | none => exact h
    | some f => exact Directory.atRest_settle _
  | closeFeed id =>
    change (d.closeFeed id).2.AtRest
    unfold Directory.closeFeed
    cases d.feed? id with
    | none => exact h
    | some f => exact Directory.atRest_settle _
  | check name type targets => exact ⟨h.feeds, h.loops⟩

/-- A request is put to the service. What needs a hold is not asked for without one. -/
def Request.pose (d : Directory) (r : Request) : List Sign × Directory :=
  if r.needsHold && !d.isHeld then ([], d) else (r.signs d, r.serve d)

/-- What the service makes of a session. -/
def session (d : Directory) (requests : List Request) : Directory :=
  requests.foldl (fun d r => (r.pose d).2) d

/-- What users notice of it. -/
def sessionSigns (d : Directory) : List Request → List Sign
  | [] => []
  | r :: requests => (r.pose d).1 ++ sessionSigns (r.pose d).2 requests

theorem tells_pose (hsorted : Table.IsSorted d.feeds) (hrest : d.AtRest) (r : Request) :
    (Course.mk d []).Tells (r.pose d).1 ⟨(r.pose d).2, []⟩ ∧ (r.pose d).2.AtRest := by
  unfold Request.pose
  split
  · exact ⟨Leads.refl _, hrest⟩
  · rename_i hasked
    have hheld : r.needsHold = true → d.isHeld = true := by
      intro hneeds
      simpa [hneeds] using hasked
    exact ⟨tells_serve hsorted hrest hheld, atRest_serve hrest r⟩

theorem session_append (d : Directory) (requests later : List Request) :
    session d (requests ++ later) = session (session d requests) later := List.foldl_append

theorem sessionSigns_append (d : Directory) (requests later : List Request) :
    sessionSigns d (requests ++ later) =
      sessionSigns d requests ++ sessionSigns (session d requests) later := by
  induction requests generalizing d with
  | nil => rfl
  | cons r requests ih =>
    rw [List.cons_append, sessionSigns, sessionSigns, ih, List.append_assoc]
    rfl

theorem atRest_session (hsorted : Table.IsSorted d.feeds) (hrest : d.AtRest)
    (requests : List Request) :
    Table.IsSorted (session d requests).feeds ∧ (session d requests).AtRest := by
  induction requests generalizing d with
  | nil => exact ⟨hsorted, hrest⟩
  | cons r requests ih =>
    obtain ⟨hone, hrest'⟩ := tells_pose hsorted hrest r
    exact ih (hone.isSorted hsorted) hrest'

/-- Every session is a course, in which no loop is ever late and of which nothing is noticed but the
answers. -/
theorem tells_session (hsorted : Table.IsSorted d.feeds) (hrest : d.AtRest)
    (requests : List Request) :
    (Course.mk d []).Tells (sessionSigns d requests) ⟨session d requests, []⟩ := by
  induction requests generalizing d with
  | nil => exact Leads.refl _
  | cons r requests ih =>
    obtain ⟨hone, hrest'⟩ := tells_pose hsorted hrest r
    exact hone.trans (ih (hone.isSorted hsorted) hrest')

section
variable (grouping : Grouping) (resolver : Dns.Resolver) (streamBuffer : Nat)

theorem atRest_new :
    Table.IsSorted (new grouping resolver streamBuffer).directory.feeds ∧
      (new grouping resolver streamBuffer).directory.AtRest :=
  ⟨List.Pairwise.nil, List.forall_mem_nil _, List.forall_mem_nil _⟩

theorem atRest_session_new (requests : List Request) :
    Table.IsSorted (session (new grouping resolver streamBuffer).directory requests).feeds ∧
      (session (new grouping resolver streamBuffer).directory requests).AtRest :=
  have ⟨hsorted, hrest⟩ := atRest_new grouping resolver streamBuffer
  atRest_session hsorted hrest requests

theorem tells_session_new (requests : List Request) :
    (new grouping resolver streamBuffer).Tells
      (sessionSigns (new grouping resolver streamBuffer).directory requests)
      ⟨session (new grouping resolver streamBuffer).directory requests, []⟩ :=
  have ⟨hsorted, hrest⟩ := atRest_new grouping resolver streamBuffer
  tells_session hsorted hrest requests

/-- What every deed keeps holds in every session. -/
theorem session_keeps {I : Course → Prop} (hstep : ∀ w m, I w → I (w.act m).2)
    (h : I (new grouping resolver streamBuffer)) (requests : List Request) :
    I ⟨session (new grouping resolver streamBuffer).directory requests, []⟩ := by
  obtain ⟨deeds, -, he, -⟩ := tells_session_new grouping resolver streamBuffer requests
  rw [← he]
  exact run_keeps hstep h deeds

end

end Course

end Namebook
