import Namebook.Directory.Service
import Namebook.Proofs.Course.Sign
import Namebook.Proofs.Directory.Time

/-!
# The service as a course

Whatever the service does in one go is a sequence of single deeds: what it was asked for, and what
falls due and what feeds do meanwhile. Users notice what they asked for, and nothing of the rest. So
what lasts through every course lasts in the service.
-/

namespace Namebook

namespace Metrics

theorem noteAll_append (m : Metrics) (happenings more : List Happening) :
    m.noteAll (happenings ++ more) = (m.noteAll happenings).noteAll more := List.foldl_append

end Metrics

namespace Directory

theorem now_elapse_le (d : Directory) (limit : Nat) : (d.elapse limit).now ≤ max d.now limit := by
  refine elapse_keeps (P := fun e => e.now ≤ max d.now limit) ?step ?settle d (Nat.le_max_left _ _)
  case step =>
    intro e g he hg
    obtain ⟨before, l, after, due, -, -, hlt, -, rfl⟩ := dueStep?_cases hg
    obtain ⟨snapshot, metrics, loops, store, hl⟩ :=
      loopStep_eq { e with now := max e.now due } before l after
    rw [hl]
    exact Nat.max_le.mpr ⟨he, Nat.le_trans (Nat.le_of_lt hlt) (Nat.le_max_right _ _)⟩
  case settle => exact fun _ he => he

end Directory

namespace Course

/-- From one course another one is reached by some deeds, of which users notice these signs. Every
loop does everything at its time among them. -/
def Tells (w : Course) (noticed : List Sign) (e : Course) : Prop :=
  ∃ deeds, (∀ place, w.IsPrompt place deeds) ∧ w.run deeds = e ∧ signs (w.history deeds) = noticed

/-- Nobody notices anything. -/
def Leads (w e : Course) : Prop := w.Tells [] e

variable {w e g : Course} {noticed more : List Sign}

theorem signs_append (events later : List Event) :
    signs (events ++ later) = signs events ++ signs later := List.filterMap_append

namespace Tells

theorem trans (h : w.Tells noticed e) (h' : e.Tells more g) : w.Tells (noticed ++ more) g := by
  obtain ⟨deeds, hdeeds, rfl, rfl⟩ := h
  obtain ⟨later, hlater, rfl, rfl⟩ := h'
  refine ⟨deeds ++ later, fun place => isPrompt_append.mpr ⟨hdeeds place, hlater place⟩,
    List.foldl_append, ?_⟩
  rw [history_append, signs_append]

theorem leads (h : w.Tells noticed e) (h' : e.Leads g) : w.Tells noticed g :=
  List.append_nil noticed ▸ h.trans h'

theorem act (m : Deed) {answer : Answer} (h : w.act m = (answer, e)) {s : Sign}
    (hsign : m.sign? w.directory.snapshot.generation answer = some s)
    (hprompt : ∀ place, (Event.mk w m).isPrompt place = true := by exact fun _ => rfl) :
    w.Tells [s] e := by
  have hs : (Event.mk w m).sign? = some s := by
    unfold Event.sign? Event.answer
    rw [h, hsign]
  refine ⟨[m], fun place => List.forall_mem_singleton.mpr (hprompt place), congrArg Prod.snd h, ?_⟩
  unfold signs
  rw [filterMap_history_cons, hs]
  rfl

end Tells

namespace Leads

theorem refl (w : Course) : w.Leads w := ⟨[], fun _ => List.forall_mem_nil _, rfl, rfl⟩

theorem trans (h : w.Leads e) (h' : e.Leads g) : w.Leads g := Tells.trans h h'

theorem tells (h : w.Leads e) (h' : e.Tells more g) : w.Tells more g := Tells.trans h h'

theorem act (m : Deed) (h : (w.act m).2 = e)
    (hprompt : ∀ place, (Event.mk w m).isPrompt place = true := by exact fun _ => rfl)
    (hsilent : (Event.mk w m).sign? = none := by rfl) : w.Leads e := by
  refine ⟨[m], fun place => List.forall_mem_singleton.mpr (hprompt place), h, ?_⟩
  unfold signs
  rw [filterMap_history_cons, hsilent]
  rfl

end Leads

/-- The feeds keep their order. -/
theorem isSorted_act (h : Table.IsSorted w.directory.feeds) (m : Deed) :
    Table.IsSorted (w.act m).2.directory.feeds := by
  rcases (w.touches_act m).feeds with hsame | ⟨id, f, -, he⟩ | ⟨-, hcancelled⟩
  · rw [hsame]
    exact h
  · rw [he]
    exact Table.isSorted_insert h id f
  · rw [hcancelled]
    unfold Table.IsSorted
    rw [List.map_map]
    exact h

theorem Tells.isSorted (h : w.Tells noticed e) (hw : Table.IsSorted w.directory.feeds) :
    Table.IsSorted e.directory.feeds := by
  obtain ⟨deeds, -, rfl, -⟩ := h
  exact run_keeps (I := fun e => Table.IsSorted e.directory.feeds)
    (fun _ m h => isSorted_act h m) hw deeds

/-! ## Feeds go on until they wait -/

/-- The course after something happened in its feeds. -/
def withFeeds (w : Course) (feeds : List (String × Feed)) (noted : List Happening) : Course :=
  { w with directory := { w.directory with
    feeds, metrics := w.directory.metrics.noteAll noted } }

theorem withFeeds_withFeeds (w : Course) (feeds newer : List (String × Feed))
    (noted more : List Happening) :
    (w.withFeeds feeds noted).withFeeds newer more = w.withFeeds newer (noted ++ more) := by
  unfold withFeeds
  rw [Metrics.noteAll_append]

theorem inFeed_eq {before after : List (String × Feed)} {id : String} {f : Feed}
    (hf : w.directory.feeds = before ++ (id, f) :: after)
    (hsorted : Table.IsSorted w.directory.feeds)
    (happens : Feed → Answer × Feed × List Happening) :
    (w.inFeed id happens).2 =
      w.withFeeds (before ++ (id, (happens f).2.1) :: after) (happens f).2.2 := by
  rw [hf] at hsorted
  have hlookup : w.directory.feeds.lookup id = some f := by
    rw [hf]
    exact Table.lookup_of_isSorted hsorted
  unfold inFeed
  rw [hlookup]
  unfold Directory.putFeed
  dsimp only
  rw [hf, Table.insert_of_isSorted hsorted]
  rfl

theorem act_produce {before after : List (String × Feed)} {id : String} {f g : Feed}
    {noted : List Happening} (hf : w.directory.feeds = before ++ (id, f) :: after)
    (hsorted : Table.IsSorted w.directory.feeds)
    (hstep : f.step? w.directory.snapshot = some (g, noted)) :
    (w.act (.produce id)).2 = w.withFeeds (before ++ (id, g) :: after) noted := by
  have hproduce : produceIn w.directory.snapshot f = (.done, g, noted) := by
    unfold produceIn
    rw [hstep]
  have h := inFeed_eq hf hsorted (produceIn w.directory.snapshot)
  rwa [hproduce] at h

theorem leads_settleFeed {s : Snapshot} {before after : List (String × Feed)} {id : String}
    {f : Feed} (hs : w.directory.snapshot = s)
    (hf : w.directory.feeds = before ++ (id, f) :: after)
    (hsorted : Table.IsSorted w.directory.feeds) :
    w.Leads (w.withFeeds (before ++ (id, (f.settle s).1) :: after) (f.settle s).2) := by
  fun_induction Feed.settle s f generalizing w with
  | case1 f hnone =>
    rw [← hf]
    exact .refl w
  | case2 f g noted hstep g' more hg ih =>
    have hone : w.Leads (w.withFeeds (before ++ (id, g) :: after) noted) :=
      .act (.produce id) (act_produce hf hsorted (hs ▸ hstep))
    have hrest := ih (w := w.withFeeds (before ++ (id, g) :: after) noted) hs rfl
      (hone.isSorted hsorted)
    rw [withFeeds_withFeeds, hg] at hrest
    exact hone.trans hrest

theorem leads_settleFeeds_after {s : Snapshot} (before after : List (String × Feed))
    (hs : w.directory.snapshot = s) (hf : w.directory.feeds = before ++ after)
    (hsorted : Table.IsSorted w.directory.feeds) :
    w.Leads (w.withFeeds (before ++ after.map fun p => (p.1, (p.2.settle s).1))
      (after.flatMap fun p => (p.2.settle s).2)) := by
  -- By induction on the feeds that have not settled yet; those before them have.
  induction after generalizing w before with
  | nil =>
    rw [List.map_nil, List.flatMap_nil, ← hf]
    exact .refl w
  | cons p after ih =>
    obtain ⟨id, f⟩ := p
    let e := w.withFeeds (before ++ (id, (f.settle s).1) :: after) (f.settle s).2
    have hone : w.Leads e := leads_settleFeed hs hf hsorted
    have hrest := ih (w := e) (before ++ [(id, (f.settle s).1)]) hs
      (List.append_cons before (id, (f.settle s).1) after) (hone.isSorted hsorted)
    rw [withFeeds_withFeeds, ← List.append_cons] at hrest
    exact hone.trans hrest

theorem leads_settleFeeds (hsorted : Table.IsSorted w.directory.feeds) :
    w.Leads { w with directory := w.directory.settleFeeds } := by
  have h := leads_settleFeeds_after [] w.directory.feeds rfl rfl hsorted
  have he : w.withFeeds
      ([] ++ w.directory.feeds.map fun p => (p.1, (p.2.settle w.directory.snapshot).1))
      (w.directory.feeds.flatMap fun p => (p.2.settle w.directory.snapshot).2) =
        { w with directory := w.directory.settleFeeds } := by
    unfold withFeeds Directory.settleFeeds
    simp only [List.nil_append, List.map_map, List.flatMap_map]
    rfl
  exact he ▸ h

/-! ## Time goes on -/

/-- As long as no loop has anything to do, time can go by. -/
theorem isPrompt_of_isIdleBefore {limit : Nat} (h : w.directory.IsIdleBefore limit) (place : Nat) :
    (Event.mk w (.pass (limit - w.directory.now))).isPrompt place = true := by
  cases hl : w.directory.loops[place]? with
  | none =>
    change w.directory.loops[place]?.all _ = true
    rw [hl]
    rfl
  | some l =>
    refine (isPrompt_pass hl _).mpr fun hgoes due hdue => ?_
    have hle : limit ≤ due :=
      h l (List.mem_of_getElem? hl) due ((RefreshLoop.wake?_of_running hgoes).trans hdue)
    exact Nat.sub_le_sub_right hle w.directory.now

theorem leads_now {limit : Nat} (h : w.directory.IsIdleBefore limit) :
    w.Leads { w with directory := { w.directory with now := max w.directory.now limit } } := by
  refine .act (.pass (limit - w.directory.now)) ?_ (isPrompt_of_isIdleBefore h)
  have hnow : w.directory.now + (limit - w.directory.now) = max w.directory.now limit := by omega
  change Course.mk { w.directory with now := w.directory.now + (limit - w.directory.now) } _ = _
  rw [hnow]

theorem act_tick {before after : List RefreshLoop} {l : RefreshLoop} {due : Nat}
    (hloops : w.directory.loops = before ++ l :: after) (hdue : l.wake? = some due)
    (hle : due ≤ w.directory.now) :
    (w.act (.tick before.length)).2 =
      { w with directory := w.directory.loopStep before l after } := by
  have hl : w.directory.loops[before.length]? = some l := by
    rw [hloops, List.getElem?_append_right (Nat.le_refl _), Nat.sub_self, List.getElem?_cons_zero]
  have hafter : w.directory.loops.drop (before.length + 1) = after := by
    rw [hloops, List.append_cons, List.drop_left' (by simp)]
  rw [act_tick_of_due hl hdue hle]
  unfold tickLoop
  dsimp only
  rw [hafter, hloops, List.take_left]

section
variable {d : Directory} {calls : List Call}

theorem leads_dueStep? {e : Directory} {limit : Nat} (h : d.dueStep? limit = some e) :
    (Course.mk d calls).Leads ⟨e, calls⟩ := by
  obtain ⟨before, l, after, due, hloops, hdue, -, hidle, rfl⟩ := Directory.dueStep?_cases h
  have hlate : (Course.mk d calls).Leads ⟨{ d with now := max d.now due }, calls⟩ :=
    leads_now hidle
  exact hlate.trans (.act (.tick before.length) (act_tick hloops hdue (Nat.le_max_right d.now due)))

theorem leads_elapse (hsorted : Table.IsSorted d.feeds) (limit : Nat) :
    (Course.mk d calls).Leads ⟨d.elapse limit, calls⟩ := by
  fun_induction Directory.elapse limit d with
  | case1 d hnone => exact .refl _
  | case2 d e hstep ih =>
    have hone : (Course.mk d calls).Leads ⟨e, calls⟩ := leads_dueStep? hstep
    have hsettled : (Course.mk d calls).Leads
        ⟨if e.areLoopsIdle then e.settleFeeds else e, calls⟩ := by
      split
      · exact hone.trans (leads_settleFeeds (hone.isSorted hsorted))
      · exact hone
    exact hsettled.trans (ih (hsettled.isSorted hsorted))

theorem leads_settle (hsorted : Table.IsSorted d.feeds) :
    (Course.mk d calls).Leads ⟨d.settle, calls⟩ := by
  have h : (Course.mk d calls).Leads ⟨d.elapse (d.now + 1), calls⟩ := leads_elapse hsorted _
  exact h.trans (leads_settleFeeds (h.isSorted hsorted))

/-- Until a moment, what is due before it is done. -/
theorem leads_until (hsorted : Table.IsSorted d.feeds) {target : Nat} (h : d.now ≤ target) :
    (Course.mk d calls).Leads ⟨{ d.elapse target with now := target }, calls⟩ := by
  have hnow : (d.elapse target).now ≤ target :=
    Nat.le_trans (d.now_elapse_le target) (Nat.max_le.mpr ⟨h, Nat.le_refl target⟩)
  have he : (Course.mk d calls).Leads ⟨d.elapse target, calls⟩ := leads_elapse hsorted target
  have hlate : (Course.mk (d.elapse target) calls).Leads
      ⟨{ d.elapse target with now := max (d.elapse target).now target }, calls⟩ :=
    leads_now (d.isIdleBefore_elapse target)
  rw [Nat.max_eq_right hnow] at hlate
  exact he.trans hlate

/-! ## Operations -/

/-- An operation that begins with a deed settles afterwards. -/
theorem Tells.settle {w : Course} {noticed : List Sign} (h : w.Tells noticed ⟨d, calls⟩)
    (hsorted : Table.IsSorted w.directory.feeds) : w.Tells noticed ⟨d.settle, calls⟩ :=
  h.leads (leads_settle (h.isSorted hsorted))

theorem leads_advance (hsorted : Table.IsSorted d.feeds) (millis : Nat) :
    (Course.mk d calls).Leads ⟨d.advance millis, calls⟩ :=
  (leads_until hsorted (Nat.le_add_right d.now millis)).settle hsorted

theorem tells_publish (hsorted : Table.IsSorted d.feeds) (hheld : d.isHeld = true)
    (sets : List RecordSet) :
    (Course.mk d calls).Tells [.published (d.publish sets).1] ⟨(d.publish sets).2, calls⟩ := by
  have ha : (Course.mk d calls).act (.commit sets) =
      (.published (d.publish sets).1, ⟨d.commit sets, calls⟩) := if_pos hheld
  exact (Tells.act _ ha rfl).settle hsorted

theorem tells_startLoop (hsorted : Table.IsSorted d.feeds) (hheld : d.isHeld = true)
    (interval : Nat) :
    (Course.mk d calls).Tells [.started interval] ⟨d.startLoop interval, calls⟩ := by
  let l := RefreshLoop.start interval d.now
  let e := { d with loops := d.loops ++ [if d.isStopping then l.cancel else l] }
  have ha : (Course.mk d calls).act (.startLoop interval) = (.done, ⟨e, calls⟩) := if_pos hheld
  exact (Tells.act _ ha rfl).settle hsorted

theorem tells_shutdown (hsorted : Table.IsSorted d.feeds) :
    (Course.mk d calls).Tells [.stopped] ⟨d.shutdown, calls⟩ :=
  (Tells.act .shutdown rfl rfl).settle hsorted

/-- A call begins, and what is due until its end is done. -/
theorem leads_awaitStore (hsorted : Table.IsSorted d.feeds) (hheld : d.isHeld = true)
    (errand : Errand) :
    (Course.mk d calls).Leads ⟨d.awaitStore, calls ++ [⟨d.now, errand⟩]⟩ := by
  have hcall : (Course.mk d calls).Leads
      ⟨{ d with store := d.store.called }, calls ++ [⟨d.now, errand⟩]⟩ :=
    .act (.call errand) (congrArg Prod.snd (if_pos hheld))
  exact hcall.trans (leads_until (d := { d with store := d.store.called }) hsorted
    (Nat.le_add_right d.now d.store.latency))

theorem act_finish {c : Call} :
    (Course.mk d (calls ++ [c])).act (.finish calls.length) =
      (Course.mk d (calls ++ [c])).finishCall calls.length c := by
  have hc : (calls ++ [c])[calls.length]? = some c := by
    rw [List.getElem?_append_right (Nat.le_refl _), Nat.sub_self, List.getElem?_cons_zero]
  change (Course.mk d (calls ++ [c])).finish calls.length = _
  unfold finish
  rw [hc]

theorem eraseIdx_concat (c : Call) : (calls ++ [c]).eraseIdx calls.length = calls := by
  rw [List.eraseIdx_append_of_length_le (Nat.le_refl _), Nat.sub_self, List.eraseIdx_cons_zero,
    List.append_nil]

theorem tells_refresh (hsorted : Table.IsSorted d.feeds) (hheld : d.isHeld = true) :
    (Course.mk d calls).Tells [.refreshed d.refresh.1] ⟨d.refresh.2, calls⟩ := by
  have hwait : (Course.mk d calls).Leads ⟨d.awaitStore, calls ++ [⟨d.now, .refresh⟩]⟩ :=
    leads_awaitStore hsorted hheld .refresh
  have ha : (Course.mk d.awaitStore (calls ++ [⟨d.now, .refresh⟩])).act (.finish calls.length) =
      (.refreshed d.refresh.1, ⟨(d.awaitStore.concludeRefresh d.store.latency).2, calls⟩) := by
    have hlasted : d.awaitStore.now - d.now = d.store.latency :=
      Nat.add_sub_cancel_left d.now d.store.latency
    rw [act_finish]
    unfold finishCall
    dsimp only
    rw [eraseIdx_concat, hlasted]
    rfl
  exact (hwait.tells (.act _ ha rfl)).settle hsorted

theorem tells_list (hsorted : Table.IsSorted d.feeds) (hheld : d.isHeld = true)
    (filters : Filters) (size : Nat) (token : String) :
    (Course.mk d calls).Tells [.listed (d.list filters size token).1]
      ⟨(d.list filters size token).2, calls⟩ := by
  have hwait : (Course.mk d calls).Leads
      ⟨d.awaitStore, calls ++ [⟨d.now, .list filters size token⟩]⟩ :=
    leads_awaitStore hsorted hheld (.list filters size token)
  have ha : (Course.mk d.awaitStore (calls ++ [⟨d.now, .list filters size token⟩])).act
      (.finish calls.length) =
        (.listed (d.list filters size token).1,
          ⟨(d.awaitStore.concludeList filters).2, calls⟩) := by
    rw [act_finish]
    unfold finishCall
    dsimp only
    rw [eraseIdx_concat]
    rfl
  exact (hwait.tells (.act _ ha rfl)).settle hsorted

end

end Course

end Namebook
