import Namebook.Proofs.Course.Pace
import Namebook.Proofs.Course.Session
import Namebook.Proofs.Course.Shutdown

/-!
# Loops and shutdown in a session

In a session all loops do everything at its time, so they keep their pace there. A shutdown ends
them at once, since a session waits after it until nothing can go on, and all feeds have finished
then, with what was in their queues.
-/

namespace Namebook

open Scan (KeepPace)

namespace Course

/-- A sign of a commit or of a refresh that somebody asked for. -/
def Sign.isRefresh : Sign → Bool
  | published _ | refreshed _ => true
  | _ => false

theorem isRefresh_of_answer {answer : Answer} (h : answer.isRefresh = true) :
    ∃ s, answer.sign? = some s ∧ s.isRefresh = true := by
  cases answer with
  | published generation => exact ⟨_, rfl, rfl⟩
  | refreshed result => exact ⟨_, rfl, rfl⟩
  | _ => exact nomatch h

/-- Where nobody notices a commit or a refresh there is none but those of loops. -/
theorem isRefresh_of_signs {w : Course} {deeds : List Deed}
    (h : ∀ s ∈ signs (w.history deeds), s.isRefresh = false) :
    ∀ e ∈ w.history deeds, (∀ place, e.deed ≠ .tick place) → e.answer.isRefresh = false := by
  intro e he hdeed
  refine Bool.eq_false_iff.mpr fun hrefresh => ?_
  obtain ⟨s, hs, hs'⟩ := isRefresh_of_answer hrefresh
  have hnoticed : s ∈ signs (w.history deeds) :=
    List.mem_filterMap.mpr ⟨e, he, sign?_of_answer hdeed hs⟩
  exact Bool.false_ne_true ((h s hnoticed).symm.trans hs')

/-- A cancelled loop is over once nothing can go on. -/
theorem isOver_of_atRest {w : Course} (h : w.IsStopped) (hrest : w.directory.AtRest) :
    ∀ l ∈ w.directory.loops, l.isOver = true := by
  intro l hl
  refine Bool.of_not_eq_false fun hgoes => ?_
  have hwake := RefreshLoop.wake?_of_cancelled (h.loops l hl) hgoes
  exact absurd (hrest.loops l hl 0 hwake) (Nat.not_succ_le_zero _)

/-- What begins with a deed and goes on as a session. -/
theorem tells_session_of_settle {d : Directory} (hsorted : Table.IsSorted d.feeds)
    (later : List Request) :
    (Course.mk d []).Tells (sessionSigns d.settle later) ⟨session d.settle later, []⟩ ∧
      (session d.settle later).AtRest := by
  have hsettles : (Course.mk d []).Leads ⟨d.settle, []⟩ := leads_settle hsorted
  have hsorted' : Table.IsSorted d.settle.feeds := hsettles.isSorted hsorted
  exact ⟨hsettles.tells (tells_session hsorted' d.atRest_settle later),
    (atRest_session hsorted' d.atRest_settle later).2⟩

/-! ## Loops -/

theorem stopped_of_shutdown {w : Course} {deeds : List Deed} (h : .shutdown ∈ deeds) :
    .stopped ∈ signs (w.history deeds) := by
  obtain ⟨before, after, rfl⟩ := List.append_of_mem h
  rw [history_append, signs_append]
  exact List.mem_append_right _ List.mem_cons_self

/-- There are as many loops as were started. -/
theorem length_loops_act {w : Course} {m : Deed}
    (h : ∀ interval, (Event.mk w m).sign? ≠ some (.started interval)) :
    (w.act m).2.directory.loops.length = w.directory.loops.length := by
  rcases (w.touches_act m).loops with hsame | hm
  · rw [hsame]
  · cases m with
    | startLoop interval =>
      refine holding_cases (P := fun r => r.2.directory.loops.length = _) rfl fun hheld => ?_
      refine absurd ?_ (h interval)
      have ha : (w.act (.startLoop interval)).1 = .done := congrArg Prod.fst (if_pos hheld)
      unfold Event.sign? Event.answer
      rw [ha]
      rfl
    | tick place =>
      rcases w.act_tick_cases place with
        hnone | ⟨l, hl, ⟨hcancelled, hgoes⟩ | ⟨hgoes, ⟨hrest, hdue⟩ | ⟨began, ends, hscan, hdue⟩⟩⟩
      · rw [hnone]
      · rw [act_tick_stops hl hcancelled hgoes]
        exact List.length_set
      · rw [act_tick_begins hl hgoes hrest hdue]
        exact List.length_set
      · rw [act_tick_ends hl hgoes hscan hdue]
        exact List.length_set
    | shutdown => exact List.length_map _
    | _ => exact nomatch hm

/-- A tick that returns a generation ends a scan of a loop. -/
theorem scan?_of_generation {w : Course} {place : Nat}
    (h : (Event.mk w (.tick place)).generation? ≠ none) :
    place < w.directory.loops.length ∧ ((Event.mk w (.tick place)).scan? place).isSome = true := by
  constructor
  · rcases w.act_tick_cases place with hnone | ⟨l, hl, -⟩
    · refine absurd ?_ h
      unfold Event.generation? Event.answer
      rw [hnone]
      rfl
    · exact (List.getElem?_eq_some_iff.mp hl).1
  · have hcount := succeeded_scan?_tick w place
    cases hs : (Event.mk w (.tick place)).scan? place with
    | some s => rfl
    | none =>
      rw [hs] at hcount
      obtain ⟨generation, hg⟩ := Option.ne_none_iff_exists'.mp h
      rw [hg] at hcount
      exact nomatch hcount

/-- Where nobody notices a commit, a refresh or the start of a loop, only the one loop that there is
publishes. -/
theorem scan?_of_alone {w : Course} {deeds : List Deed} (hone : w.directory.loops.length = 1)
    (hquiet : ∀ s ∈ signs (w.history deeds),
      s.isRefresh = false ∧ ∀ interval, s ≠ .started interval) :
    ∀ e ∈ w.history deeds, e.generation? ≠ none → (e.scan? 0).isSome = true := by
  have hnone : ∀ e ∈ w.history deeds, ∀ interval, e.sign? ≠ some (.started interval) :=
    fun e he interval hs => (hquiet _ (List.mem_filterMap.mpr ⟨e, he, hs⟩)).2 interval rfl
  have hlength := forall_history (I := fun w => w.directory.loops.length = 1)
    (fun w m hm hw => (length_loops_act hm).trans hw) hone hnone
  rintro ⟨before, m⟩ he hg
  by_cases hm : ∃ place, m = .tick place
  · obtain ⟨place, rfl⟩ := hm
    obtain ⟨hlt, hscan⟩ := scan?_of_generation hg
    obtain rfl : place = 0 := Nat.lt_one_iff.mp (hlength _ he ▸ hlt)
    exact hscan
  · have hrefresh :=
      isRefresh_of_signs (fun s hs => (hquiet s hs).1) _ he fun place hp => hm ⟨place, hp⟩
    refine absurd ?_ hg
    unfold Event.generation?
    generalize (Event.mk before m).answer = answer at hrefresh
    cases answer with
    | published generation => exact nomatch hrefresh
    | refreshed result => exact nomatch hrefresh
    | _ => rfl

section
variable (grouping : Grouping) (resolver : Dns.Resolver) (streamBuffer : Nat)
variable (requests : List Request)

/-! ## Shutdown -/

/-- A shutdown at any time of any session. All loops are over, now and later, so while nobody
commits or refreshes the snapshot and the counters of refreshes stay. All feeds have finished; the
reader of one that had changes in its queue gets these in their order, as many as it reads, and
nothing else. -/
theorem shutdown_of_session (later : List Request) :
    let d := session (new grouping resolver streamBuffer).directory requests
    let e := session d.shutdown later
    let noticed := sessionSigns d.shutdown later
    (∀ l ∈ e.loops, l.isOver = true) ∧
      ((∀ s ∈ noticed, s.isRefresh = false) →
        e.snapshot = d.snapshot ∧ e.metrics.ofRefreshes = d.metrics.ofRefreshes) ∧
      ∀ id f, d.feeds.lookup id = some f →
        f.queue.length ≤ max streamBuffer 1 ∧
          ((∀ filters, .opened id filters ∉ noticed) →
            let got := noticed.filterMap (Sign.brings? id)
            ∃ g, e.feeds.lookup id = some g ∧ g.isFinished = true ∧ got ++ g.queue <+: f.queue ∧
              (g.receiving = true → got ++ g.queue = f.queue)) := by
  intro d e noticed
  obtain ⟨hsorted, hrest⟩ := atRest_session_new grouping resolver streamBuffer requests
  let w : Course := ⟨d, []⟩
  let stopped : Course := (w.act .shutdown).2
  have hstopped : stopped.IsStopped := isStopped_shutdown w
  obtain ⟨⟨deeds, -, hrun, hsigns⟩, hatEnd⟩ : stopped.Tells noticed ⟨e, []⟩ ∧ e.AtRest :=
    tells_session_of_settle (isSorted_act hsorted .shutdown) later
  refine ⟨?loops, fun hquiet => ?refreshes, fun id f hf => ⟨?room, fun hspares => ?feed⟩⟩
  case loops =>
    have hover := isStopped_run hstopped deeds
    rw [hrun] at hover
    exact isOver_of_atRest hover hatEnd
  case refreshes =>
    rw [← hsigns] at hquiet
    have hsame := (sameRefreshes_act (w := w) (m := .shutdown) rfl).trans
      (sameRefreshes_run hstopped (isRefresh_of_signs hquiet))
    rw [hrun] at hsame
    exact ⟨hsame.snapshot, hsame.metrics⟩
  case room =>
    have hroom := session_keeps grouping resolver streamBuffer
      (I := fun w => w.HasRoom ∧ w.directory.streamBuffer = streamBuffer)
      (fun w m h => ⟨hasRoom_act h.1 m, (w.touches_act m).streamBuffer.trans h.2⟩)
      ⟨List.forall_mem_nil _, rfl⟩ requests
    have hfits := (hroom.1 _ (Table.mem_of_lookup hf)).queue
    rwa [hroom.2] at hfits
  case feed =>
    have hcancelled : stopped.directory.feeds.lookup id = some f.cancel :=
      lookup_feeds_act (w := w) hf (m := .shutdown) fun _ hopens => nomatch hopens.deed
    have hopens : ∀ ev ∈ stopped.history deeds, ∀ filters, ¬ev.Opens id filters :=
      fun ev hev filters h =>
        hspares filters (hsigns ▸ List.mem_filterMap.mpr ⟨ev, hev, opens_iff.mp h⟩)
    obtain ⟨g, hg, hdrains⟩ := drains_run hcancelled rfl hopens
    rw [hrun] at hg
    rw [received_eq_filterMap, hsigns] at hdrains
    have hfinished : g.isFinished = true :=
      Feed.isFinished_of_closed (hatEnd.feeds (id, g) (Table.mem_of_lookup hg))
        (not_isOpen_of_cancelled hdrains.cancelled)
    exact ⟨g, hg, hfinished, hdrains.queue, fun hr => (hdrains.whole hr).2⟩

/-- The scans of a loop that is started in any session while the service is not ending. Whatever is
asked for, they keep the pace of its interval, and the loop goes on as long as nobody notices a
shutdown. If it is the only loop and nobody else publishes, each scan that succeeds gives one
generation more. -/
theorem pace_of_session {interval : Nat} (hpos : 0 < interval) (later : List Request) :
    let d := session (new grouping resolver streamBuffer).directory requests
    let e := session (d.startLoop interval) later
    let noticed := sessionSigns (d.startLoop interval) later
    d.isHeld = true → d.isStopping = false →
      ∃ log, KeepPace interval d.now log ∧
        (.stopped ∉ noticed → ∃ l, e.loops[d.loops.length]? = some l ∧
          l.Stands interval d.now log e.now) ∧
        (d.loops = [] →
          (∀ s ∈ noticed, s.isRefresh = false ∧ ∀ interval, s ≠ .started interval) →
          e.snapshot.generation = d.snapshot.generation + log.countP Scan.succeeded) := by
  intro d e noticed hheld hrunning
  obtain ⟨hsorted, -⟩ := atRest_session_new grouping resolver streamBuffer requests
  let w : Course := ⟨d, []⟩
  let l := RefreshLoop.start interval d.now
  let e' := { d with loops := d.loops ++ [if d.isStopping then l.cancel else l] }
  have ha : (w.act (.startLoop interval)).2 = ⟨e', []⟩ := congrArg Prod.snd (if_pos hheld)
  obtain ⟨⟨deeds, hprompt, hrun, hsigns⟩, -⟩ :
      (Course.mk e' []).Tells noticed ⟨e, []⟩ ∧ e.AtRest :=
    tells_session_of_settle (d := e') hsorted later
  rw [← ha] at hprompt hrun hsigns
  obtain ⟨hpace, hstands, hgeneration⟩ :=
    scans_of_started (w := w) hheld hrunning hpos (hprompt d.loops.length)
  rw [hrun] at hstands hgeneration
  refine ⟨_, hpace, fun hgoes => hstands fun hshutdown => hgoes ?stopped,
    fun hnone hquiet => ?alone⟩
  case stopped => exact hsigns ▸ stopped_of_shutdown hshutdown
  case alone =>
    refine hgeneration ?_
    have hplace : w.directory.loops.length = 0 := congrArg List.length hnone
    rw [hplace]
    rw [← hsigns] at hquiet
    refine scan?_of_alone ?_ hquiet
    rw [ha]
    change (d.loops ++ [_]).length = 1
    rw [hnone]
    rfl

end

end Course

end Namebook
