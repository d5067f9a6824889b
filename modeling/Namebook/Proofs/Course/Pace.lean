import Mathlib.Data.List.Chain
import Namebook.Proofs.Course.Snapshot

/-!
# The pace of scans

A loop scans again and again. When each scan began and ended is read off the events. During a scan
the deadline of the next one is a whole interval after its beginning, short of the tolerance at
most, and this is all that the next one needs to keep the pace.
-/

namespace Namebook

/-- One scan of a loop, from its beginning to its end. -/
structure Scan where
  began : Nat
  ended : Nat
  succeeded : Bool
  deriving DecidableEq, Repr

namespace Scan

/-- When the scan after this one may begin: as soon as this one has ended, unless the interval since
its beginning is not over yet. -/
def IsFollowedAt (interval : Nat) (s : Scan) (t : Nat) : Prop :=
  max s.ended (s.began + interval - RefreshLoop.tolerance) ≤ t ∧
    t ≤ max s.ended (s.began + interval)

/-- When a scan may begin after those of a log. The first one begins at the start of the loop. -/
def MayBegin (interval start : Nat) (log : List Scan) (t : Nat) : Prop :=
  match log.getLast? with
  | none => t = start
  | some s => s.IsFollowedAt interval t

/-- Scans one after the other, from the start of a loop on. -/
structure KeepPace (interval start : Nat) (log : List Scan) : Prop where
  first : ∀ s ∈ log.head?, s.began = start
  lasting : ∀ s ∈ log, s.began ≤ s.ended
  chain : log.IsChain fun s next => s.IsFollowedAt interval next.began

variable {interval start : Nat} {log : List Scan}

theorem KeepPace.nil : KeepPace interval start [] where
  first := nofun
  lasting := List.forall_mem_nil _
  chain := List.isChain_nil

theorem KeepPace.concat (h : KeepPace interval start log) {s : Scan}
    (hbegan : MayBegin interval start log s.began) (hlasts : s.began ≤ s.ended) :
    KeepPace interval start (log ++ [s]) where
  first := by
    cases log with
    | nil =>
      intro r hr
      obtain rfl : s = r := Option.some.inj hr
      exact hbegan
    | cons r log => exact h.first
  lasting := by
    intro r hr
    rcases List.mem_append.mp hr with hold | hnew
    · exact h.lasting r hold
    · rw [List.mem_singleton.mp hnew]
      exact hlasts
  chain := by
    refine List.isChain_append.mpr ⟨h.chain, List.isChain_singleton s, fun r hr t ht => ?_⟩
    obtain rfl : s = t := Option.some.inj ht
    unfold MayBegin at hbegan
    rw [Option.mem_def.mp hr] at hbegan
    exact hbegan

end Scan

open Scan (MayBegin KeepPace)

namespace RefreshLoop

variable {l : RefreshLoop} {interval start now : Nat} {log : List Scan}

/-- The loop goes on, and nobody has told it to end. -/
structure Runs (l : RefreshLoop) : Prop where
  cancelled : l.cancelled = false
  notOver : l.isOver = false

/-- When the scan that the loop is in began. -/
def began? (l : RefreshLoop) : Option Nat :=
  match l.stage with
  | .scanning began _ => some began
  | _ => none

/-- Where a loop stands after the scans of a log. The next scan begins at the deadline, or now if
that is over; or it has begun and not come to its end, and the deadline is about an interval after
that. -/
inductive Stands (interval start : Nat) (log : List Scan) (now : Nat) (l : RefreshLoop) : Prop where
  | resting (hrest : l.stage = .resting)
      (hnext : MayBegin interval start log (max now l.deadline))
  | scanning {began ends : Nat} (hscan : l.stage = .scanning began ends)
      (hbegan : MayBegin interval start log began) (hpast : began ≤ now) (hfuture : now ≤ ends)
      (hsoon : began + interval ≤ l.deadline + tolerance) (hlate : l.deadline ≤ began + interval)

/-- The deadline is set at the beginning of a scan: an interval after the old one, which it has not
missed by more than the tolerance, or an interval after the beginning. -/
theorem deadlineAfter_mem (interval : Nat) {deadline : Nat} (hdue : deadline ≤ now) :
    now + interval ≤ deadlineAfter interval deadline now + tolerance ∧
      deadlineAfter interval deadline now ≤ now + interval := by
  unfold deadlineAfter
  split <;> omega

namespace Stands

theorem beginScan (h : Stands l.interval start log now l) (hrest : l.stage = .resting)
    (hdue : l.deadline ≤ now) (latency : Nat) :
    Stands l.interval start log now (l.beginScan now latency) := by
  cases h with
  | resting _ hnext =>
    rw [Nat.max_eq_left hdue] at hnext
    obtain ⟨hsoon, hlate⟩ := deadlineAfter_mem l.interval hdue
    exact .scanning rfl hnext (Nat.le_refl now) (Nat.le_add_right now latency) hsoon hlate
  | scanning hscan => exact nomatch hrest.symm.trans hscan

theorem endScan {began ends : Nat} (h : Stands interval start log now l)
    (hscan : l.stage = .scanning began ends) (succeeded : Bool) :
    Stands interval start (log ++ [⟨began, now, succeeded⟩]) now l.endScan := by
  cases h with
  | resting hrest _ => exact nomatch hrest.symm.trans hscan
  | scanning hscan' hbegan hpast hfuture hsoon hlate =>
    cases hscan.symm.trans hscan'
    refine .resting rfl ?_
    unfold Scan.MayBegin
    rw [List.getLast?_concat]
    change max now (began + interval - tolerance) ≤ max now l.deadline ∧
      max now l.deadline ≤ max now (began + interval)
    omega

/-- While nothing is due, time goes by. -/
theorem pass (h : Stands interval start log now l) {millis : Nat}
    (hprompt : ∀ due, l.due? = some due → millis ≤ due - now) :
    Stands interval start log (now + millis) l := by
  unfold due? at hprompt
  cases h with
  | resting hrest hnext =>
    rw [hrest] at hprompt
    have hle : millis ≤ l.deadline - now := hprompt _ rfl
    have hsame : max (now + millis) l.deadline = max now l.deadline := by omega
    exact .resting hrest (hsame ▸ hnext)
  | scanning hscan hbegan hpast hfuture hsoon hlate =>
    rw [hscan] at hprompt
    have hle := hprompt _ rfl
    exact .scanning hscan hbegan (by omega) (by omega) hsoon hlate

end Stands

end RefreshLoop

namespace Course

variable {w : Course} {place : Nat} {l : RefreshLoop}

/-! ## What a deed means for a loop -/

/-- A scan of the loop at this place that ends with an event. -/
def Event.scan? (place : Nat) (e : Event) : Option Scan :=
  match e.deed, e.answer with
  | .tick other, .refreshed result =>
    if other = place then
      (e.before.directory.loops[place]?.bind RefreshLoop.began?).map fun began =>
        ⟨began, e.before.directory.now, result.isOk⟩
    else none
  | _, _ => none

/-- The scans of the loop at this place, from the first to the last that ended. -/
def scans (place : Nat) (events : List Event) : List Scan := events.filterMap (Event.scan? place)

/-- What a deed means for a loop: what becomes of it, the time, and the scan that ends. -/
inductive Meets (w : Course) (place : Nat) (l : RefreshLoop) :
    Deed → RefreshLoop → Nat → Option Scan → Prop where
  | passes (millis : Nat) : Meets w place l (.pass millis) l (w.directory.now + millis) none
  | begins (hgoes : l.cancelled = false) (hrest : l.stage = .resting)
      (hdue : l.deadline ≤ w.directory.now) :
    Meets w place l (.tick place) (l.beginScan w.directory.now w.directory.store.latency)
      w.directory.now none
  | ends {began ends : Nat} (hgoes : l.cancelled = false)
      (hscan : l.stage = .scanning began ends) (hdue : ends ≤ w.directory.now) (succeeded : Bool) :
    Meets w place l (.tick place) l.endScan w.directory.now
      (some ⟨began, w.directory.now, succeeded⟩)
  | isCancelled : Meets w place l .shutdown l.cancel w.directory.now none
  | stops (hcancelled : l.cancelled = true) :
    Meets w place l (.tick place) l.stop w.directory.now none
  | stays {m : Deed} (hm : m ≠ .shutdown) : Meets w place l m l w.directory.now none

/-- What the loop at a place meets with. -/
def MeetsAt (w : Course) (place : Nat) (l : RefreshLoop) (m : Deed) (e : Course)
    (scan : Option Scan) : Prop :=
  ∃ g, e.directory.loops[place]? = some g ∧ w.Meets place l m g e.directory.now scan

theorem scan?_of_ne {m : Deed} (h : m ≠ .tick place) : (Event.mk w m).scan? place = none := by
  unfold Event.scan?
  split
  · rename_i other _ hm _
    change m = .tick other at hm
    exact if_neg fun hsame : other = place => h (hsame ▸ hm)
  · rfl

theorem scan?_of_answer {m : Deed} (h : ∀ result, (w.act m).1 ≠ .refreshed result) :
    (Event.mk w m).scan? place = none := by
  unfold Event.scan?
  split
  · exact absurd ‹_› (h _)
  · rfl

theorem scan?_tick {began ends : Nat} (hl : w.directory.loops[place]? = some l)
    (hgoes : l.cancelled = false) (hscan : l.stage = .scanning began ends)
    (hdue : ends ≤ w.directory.now) :
    (Event.mk w (.tick place)).scan? place = some ⟨began, w.directory.now,
      (w.directory.concludeRefresh (w.directory.now - began)).1.isOk⟩ := by
  unfold Event.scan? Event.answer
  rw [act_tick_ends hl hgoes hscan hdue]
  dsimp only
  rw [if_pos rfl, hl]
  simp [RefreshLoop.began?, hscan]

theorem meets_tick_self (hl : w.directory.loops[place]? = some l) :
    w.MeetsAt place l (.tick place) (w.act (.tick place)).2
      ((Event.mk w (.tick place)).scan? place) := by
  rcases w.act_tick_cases place with hnone | ⟨g, hg, hcase⟩
  · rw [scan?_of_answer (by rw [hnone]; nofun), hnone]
    exact ⟨l, hl, .stays nofun⟩
  · obtain rfl : l = g := Option.some.inj (hl.symm.trans hg)
    rcases hcase with ⟨hcancelled, hgoes⟩ | ⟨hgoes, ⟨hrest, hdue⟩ | ⟨began, ends, hscan, hdue⟩⟩
    · have ha := act_tick_stops hl hcancelled hgoes
      rw [scan?_of_answer (by rw [ha]; nofun), ha]
      exact ⟨_, getElem?_set_of_getElem? hl _, .stops hcancelled⟩
    · have ha := act_tick_begins hl hgoes hrest hdue
      rw [scan?_of_answer (by rw [ha]; nofun), ha]
      exact ⟨_, getElem?_set_of_getElem? hl _, .begins hgoes hrest hdue⟩
    · rw [scan?_tick hl hgoes hscan hdue, act_tick_ends hl hgoes hscan hdue]
      obtain ⟨snapshot, metrics, he⟩ :=
        w.directory.concludeRefresh_eq (w.directory.now - began)
      refine ⟨_, getElem?_set_of_getElem? hl _, ?_⟩
      rw [he]
      exact .ends hgoes hscan hdue _

theorem meets_tick_other {other : Nat} (hl : w.directory.loops[place]? = some l)
    (hne : other ≠ place) :
    w.MeetsAt place l (.tick other) (w.act (.tick other)).2
      ((Event.mk w (.tick other)).scan? place) := by
  rw [scan?_of_ne fun he => hne (Deed.tick.inj he)]
  have hset (g : RefreshLoop) : (w.directory.loops.set other g)[place]? = some l :=
    (List.getElem?_set_ne hne).trans hl
  rcases w.act_tick_cases other with
    hnone | ⟨g, hg, ⟨hcancelled, hgoes⟩ | ⟨hgoes, ⟨hrest, hdue⟩ | ⟨began, ends, hscan, hdue⟩⟩⟩
  · rw [hnone]
    exact ⟨l, hl, .stays nofun⟩
  · rw [act_tick_stops hg hcancelled hgoes]
    exact ⟨l, hset _, .stays nofun⟩
  · rw [act_tick_begins hg hgoes hrest hdue]
    exact ⟨l, hset _, .stays nofun⟩
  · obtain ⟨snapshot, metrics, he⟩ := w.directory.concludeRefresh_eq (w.directory.now - began)
    rw [act_tick_ends hg hgoes hscan hdue]
    refine ⟨l, hset _, ?_⟩
    rw [he]
    exact .stays nofun

theorem meets_other (hl : w.directory.loops[place]? = some l) {m : Deed}
    (hm : m.isOfLoops = false) (hpass : ∀ millis, m ≠ .pass millis) :
    w.MeetsAt place l m (w.act m).2 ((Event.mk w m).scan? place) := by
  have htouches : w.Touches m (w.act m).2 := w.touches_act m
  have hnow : (w.act m).2.directory.now = w.directory.now :=
    htouches.now.resolve_right fun ⟨millis, he⟩ => hpass millis he
  have hloops : (w.act m).2.directory.loops = w.directory.loops :=
    htouches.loops.resolve_right (Bool.eq_false_iff.mp hm)
  have hne {k : Deed} (hk : k.isOfLoops = true) : m ≠ k := by
    rintro rfl
    exact nomatch hm.symm.trans hk
  unfold MeetsAt
  rw [scan?_of_ne (hne rfl), hnow, hloops]
  exact ⟨l, hl, .stays (hne rfl)⟩

theorem meets_act (hl : w.directory.loops[place]? = some l) (m : Deed) :
    w.MeetsAt place l m (w.act m).2 ((Event.mk w m).scan? place) := by
  cases m with
  | pass millis => exact ⟨l, hl, .passes millis⟩
  | startLoop interval =>
    refine holding_cases (P := fun r => w.MeetsAt place l _ r.2 _) ⟨l, hl, .stays nofun⟩ fun _ => ?_
    have hlt : place < w.directory.loops.length := (List.getElem?_eq_some_iff.mp hl).1
    exact ⟨l, (List.getElem?_append_left hlt).trans hl, .stays nofun⟩
  | tick other =>
    by_cases hsame : other = place
    · subst hsame
      exact meets_tick_self hl
    · exact meets_tick_other hl hsame
  | shutdown =>
    refine ⟨l.cancel, ?_, .isCancelled⟩
    change (w.directory.loops.map RefreshLoop.cancel)[place]? = _
    rw [List.getElem?_map, hl]
    rfl
  | _ => exact meets_other hl rfl nofun

/-! ## Runs -/

/-- A loop that keeps its pace: it has done so in all scans of a log, and goes on from there if it
runs. -/
structure Paces (interval start : Nat) (log : List Scan) (now : Nat) (l : RefreshLoop) : Prop where
  interval_eq : l.interval = interval
  scans : KeepPace interval start log
  stands : l.Runs → l.Stands interval start log now

theorem paces_of_meets {interval start : Nat} {log : List Scan} {m : Deed} {g : RefreshLoop}
    {now : Nat} {scan : Option Scan} (h : Paces interval start log w.directory.now l)
    (hl : w.directory.loops[place]? = some l) (hprompt : (Event.mk w m).isPrompt place = true)
    (hmeets : w.Meets place l m g now scan) :
    Paces interval start (log ++ scan.toList) now g := by
  obtain ⟨rfl, hscans, hstands⟩ := h
  cases hmeets with
  | passes millis =>
    rw [Option.toList_none, List.append_nil]
    exact ⟨rfl, hscans, fun hruns =>
      (hstands hruns).pass ((isPrompt_pass hl millis).mp hprompt hruns.cancelled)⟩
  | begins hgoes hrest hdue =>
    rw [Option.toList_none, List.append_nil]
    have hruns : l.Runs := ⟨hgoes, by simp [RefreshLoop.isOver, hrest]⟩
    exact ⟨rfl, hscans, fun _ => (hstands hruns).beginScan hrest hdue _⟩
  | ends hgoes hscan hdue succeeded =>
    have hruns : l.Runs := ⟨hgoes, by simp [RefreshLoop.isOver, hscan]⟩
    refine ⟨rfl, ?_, fun _ => (hstands hruns).endScan hscan succeeded⟩
    cases hstands hruns with
    | resting hrest _ => exact nomatch hrest.symm.trans hscan
    | scanning hscan' hbegan hpast _ _ _ =>
      cases hscan.symm.trans hscan'
      exact hscans.concat hbegan hpast
  | isCancelled =>
    rw [Option.toList_none, List.append_nil]
    exact ⟨rfl, hscans, fun hruns => nomatch hruns.cancelled⟩
  | stops hcancelled =>
    rw [Option.toList_none, List.append_nil]
    exact ⟨rfl, hscans, fun hruns => nomatch hruns.notOver⟩
  | stays hm =>
    rw [Option.toList_none, List.append_nil]
    exact ⟨rfl, hscans, hstands⟩

theorem paces_run {interval start : Nat} {log : List Scan}
    (hl : w.directory.loops[place]? = some l) (h : Paces interval start log w.directory.now l)
    {later : List Deed} (hprompt : w.IsPrompt place later) :
    ∃ g, (w.run later).directory.loops[place]? = some g ∧
      Paces interval start (log ++ scans place (w.history later))
        (w.run later).directory.now g := by
  refine run_keeps_log_of (P := fun e => e.isPrompt place = true)
    (I := fun log e => ∃ g, e.directory.loops[place]? = some g ∧
      Paces interval start log e.directory.now g) ?_ ⟨l, hl, h⟩ hprompt
  rintro log w m hm ⟨l, hl, h⟩
  obtain ⟨g, hg, hmeets⟩ := meets_act hl m
  exact ⟨g, hg, paces_of_meets h hl hm hmeets⟩

/-- Only a shutdown keeps a loop from running on. -/
theorem runs_of_meets {m : Deed} {g : RefreshLoop} {now : Nat} {scan : Option Scan}
    (hmeets : w.Meets place l m g now scan) (hm : m ≠ .shutdown) (hruns : l.Runs) : g.Runs := by
  cases hmeets with
  | passes millis => exact hruns
  | begins hgoes hrest hdue => exact ⟨hgoes, rfl⟩
  | ends hgoes hscan hdue succeeded => exact ⟨hgoes, rfl⟩
  | isCancelled => exact absurd rfl hm
  | stops hcancelled => exact nomatch hruns.cancelled.symm.trans hcancelled
  | stays _ => exact hruns

theorem runs_run (hl : w.directory.loops[place]? = some l) (hruns : l.Runs) {later : List Deed}
    (hlater : .shutdown ∉ later) :
    ∃ g, (w.run later).directory.loops[place]? = some g ∧ g.Runs := by
  induction later generalizing w l with
  | nil => exact ⟨l, hl, hruns⟩
  | cons m later ih =>
    obtain ⟨hm, hrest⟩ := not_or.mp (mt List.mem_cons.mpr hlater)
    obtain ⟨g, hg, hmeets⟩ := meets_act hl m
    exact ih hg (runs_of_meets hmeets (Ne.symm hm) hruns) hrest

/-! ## Generations -/

/-- The generation grows with each one that is returned. -/
theorem generation_act (w : Course) (m : Deed) :
    (w.act m).2.directory.snapshot.generation =
      w.directory.snapshot.generation + (Event.mk w m).generation?.toList.length := by
  unfold Event.generation? Event.answer
  rcases w.publication_cases m with ⟨-, hg, hs⟩ | ⟨sets, -, hg, hs⟩
  · rw [hg, hs]
    rfl
  · rw [hg, hs]
    rfl

theorem succeeded_scan?_tick (w : Course) (place : Nat) :
    ((Event.mk w (.tick place)).scan? place).toList.countP Scan.succeeded =
      (Event.mk w (.tick place)).generation?.toList.length := by
  unfold Event.generation? Event.answer
  rcases w.act_tick_cases place with
    hnone | ⟨l, hl, ⟨hcancelled, hgoes⟩ | ⟨hgoes, ⟨hrest, hdue⟩ | ⟨began, ends, hscan, hdue⟩⟩⟩
  · rw [scan?_of_answer (by rw [hnone]; nofun), hnone]
    rfl
  · have ha := act_tick_stops hl hcancelled hgoes
    rw [scan?_of_answer (by rw [ha]; nofun), ha]
    rfl
  · have ha := act_tick_begins hl hgoes hrest hdue
    rw [scan?_of_answer (by rw [ha]; nofun), ha]
    rfl
  · rw [scan?_tick hl hgoes hscan hdue, act_tick_ends hl hgoes hscan hdue]
    cases (w.directory.concludeRefresh (w.directory.now - began)).1 <;> rfl

/-- Where only the loop at this place publishes, each scan that succeeds gives one generation. -/
theorem generation_of_scan {m : Deed}
    (halone : (Event.mk w m).generation? ≠ none → ((Event.mk w m).scan? place).isSome = true) :
    (w.act m).2.directory.snapshot.generation = w.directory.snapshot.generation +
      ((Event.mk w m).scan? place).toList.countP Scan.succeeded := by
  rw [generation_act]
  by_cases hm : m = .tick place
  · subst hm
    rw [succeeded_scan?_tick]
  · rw [scan?_of_ne hm] at halone ⊢
    rw [not_not.mp (mt halone nofun)]
    rfl

theorem generation_run {later : List Deed}
    (halone : ∀ e ∈ w.history later, e.generation? ≠ none → (e.scan? place).isSome = true) :
    (w.run later).directory.snapshot.generation = w.directory.snapshot.generation +
      (scans place (w.history later)).countP Scan.succeeded := by
  have h : (w.run later).directory.snapshot.generation = w.directory.snapshot.generation +
      ([] ++ (w.history later).filterMap (Event.scan? place)).countP Scan.succeeded := by
    refine run_keeps_log_of (P := fun e => e.generation? ≠ none → (e.scan? place).isSome = true)
      (I := fun log e => e.directory.snapshot.generation =
        w.directory.snapshot.generation + log.countP Scan.succeeded) ?_ (Nat.add_zero _).symm halone
    intro log e m hm he
    rw [generation_of_scan hm, he, List.countP_append, Nat.add_assoc]
  exact h

/-! ## Any scans can come about -/

theorem isOk_concludeRefresh (d : Directory) (millis : Nat) :
    (d.concludeRefresh millis).1.isOk = d.store.failure.isNone := by
  unfold Directory.concludeRefresh Store.all
  cases d.store.failure <;> rfl

/-- From the moment that it is due, a scan takes what a call to the store takes. -/
theorem scan_of_due (hl : w.directory.loops[place]? = some l) (hgoes : l.cancelled = false)
    (hrest : l.stage = .resting) (hdue : l.deadline ≤ w.directory.now) {millis : Nat}
    {failure : Option String} (hlatency : w.directory.store.latency = millis)
    (hfailure : w.directory.store.failure = failure) :
    let deeds : List Deed := [.tick place, .pass millis, .tick place]
    w.IsPrompt place deeds ∧
      (∃ g, (w.run deeds).directory.loops[place]? = some g ∧ g.cancelled = false ∧
        g.stage = .resting) ∧
      scans place (w.history deeds) =
        [⟨w.directory.now, w.directory.now + millis, failure.isNone⟩] := by
  subst hlatency hfailure
  intro deeds
  let begun : Course := (w.act (.tick place)).2
  let late : Course := (begun.act (.pass w.directory.store.latency)).2
  let scanning : RefreshLoop := l.beginScan w.directory.now w.directory.store.latency
  have hbegins := act_tick_begins hl hgoes hrest hdue
  have hbegun : begun.directory.loops[place]? = some scanning := by
    change (w.act (.tick place)).2.directory.loops[place]? = _
    rw [hbegins]
    exact getElem?_set_of_getElem? hl scanning
  have hnow : begun.directory.now = w.directory.now := by
    change (w.act (.tick place)).2.directory.now = _
    rw [hbegins]
  have hfailure : late.directory.store.failure = w.directory.store.failure := by
    change (w.act (.tick place)).2.directory.store.failure = _
    rw [hbegins]
    rfl
  have hlate : late.directory.now = w.directory.now + w.directory.store.latency :=
    congrArg (· + _) hnow
  have hends := act_tick_ends (w := late) hbegun hgoes rfl (Nat.le_of_eq hlate.symm)
  refine ⟨?prompt, ?rests, ?scans⟩
  case prompt =>
    refine List.forall_mem_cons.mpr ⟨rfl, List.forall_mem_cons.mpr ⟨?_,
      List.forall_mem_cons.mpr ⟨rfl, List.forall_mem_nil _⟩⟩⟩
    refine (isPrompt_pass hbegun _).mpr fun _ due hwake => ?_
    obtain rfl : w.directory.now + w.directory.store.latency = due := Option.some.inj hwake
    omega
  case rests =>
    refine ⟨scanning.endScan, ?_, hgoes, rfl⟩
    change (late.act (.tick place)).2.directory.loops[place]? = _
    rw [hends]
    exact getElem?_set_of_getElem? hbegun scanning.endScan
  case scans =>
    have hfirst : (Event.mk w (.tick place)).scan? place = none :=
      scan?_of_answer (by rw [hbegins]; nofun)
    have hlast := scan?_tick (w := late) hbegun hgoes rfl (Nat.le_of_eq hlate.symm)
    rw [isOk_concludeRefresh, hfailure, hlate] at hlast
    unfold scans
    rw [filterMap_history_cons, filterMap_history_cons, filterMap_history_cons, hfirst,
      scan?_of_ne (m := .pass _) nofun]
    exact congrArg (fun scan : Option Scan => scan.toList ++ []) hlast

theorem scans_append (deeds later : List Deed) :
    scans place (w.history (deeds ++ later)) =
      scans place (w.history deeds) ++ scans place ((w.run deeds).history later) := by
  unfold scans
  rw [history_append, List.filterMap_append]

/-- The store is made ready for a scan while the loop still rests. -/
theorem scan_of_resting (hl : w.directory.loops[place]? = some l) (hgoes : l.cancelled = false)
    (hrest : l.stage = .resting) (millis : Nat) (failure : Option String) :
    ∃ deeds, w.IsPrompt place deeds ∧
      (∃ g, (w.run deeds).directory.loops[place]? = some g ∧ g.cancelled = false ∧
        g.stage = .resting) ∧
      ∃ began, scans place (w.history deeds) = [⟨began, began + millis, failure.isNone⟩] := by
  let changed : Course := (w.act (.changeStore w.directory.store.sets failure millis)).2
  let ready : Course := (changed.act (.pass (l.deadline - w.directory.now))).2
  have hdue : l.deadline ≤ ready.directory.now := by
    change _ ≤ w.directory.now + (l.deadline - w.directory.now)
    omega
  have hlatency : ready.directory.store.latency = millis := rfl
  have hfailure : ready.directory.store.failure = failure := rfl
  obtain ⟨hscan, hrests, hlog⟩ := scan_of_due (w := ready) hl hgoes hrest hdue hlatency hfailure
  refine ⟨.changeStore w.directory.store.sets failure millis ::
    .pass (l.deadline - w.directory.now) :: [.tick place, .pass millis, .tick place],
    ?_, hrests, ready.directory.now, hlog⟩
  refine List.forall_mem_cons.mpr ⟨rfl, List.forall_mem_cons.mpr ⟨?_, hscan⟩⟩
  refine (isPrompt_pass (w := changed) hl _).mpr fun _ due hwake => ?_
  unfold RefreshLoop.due? at hwake
  rw [hrest] at hwake
  obtain rfl : l.deadline = due := Option.some.inj hwake
  exact Nat.le_refl _

/-- Whatever they take and however they end, there is a course with such scans. -/
theorem exists_scans (hl : w.directory.loops[place]? = some l) (hgoes : l.cancelled = false)
    (hrest : l.stage = .resting) (plan : List (Nat × Option String)) :
    ∃ later, w.IsPrompt place later ∧
      (scans place (w.history later)).map (fun s => (s.ended - s.began, s.succeeded)) =
        plan.map fun p => (p.1, p.2.isNone) := by
  induction plan generalizing w l with
  | nil => exact ⟨[], List.forall_mem_nil _, rfl⟩
  | cons p plan ih =>
    obtain ⟨deeds, hdeeds, ⟨g, hg, hruns, hrests⟩, began, hlog⟩ :=
      scan_of_resting hl hgoes hrest p.1 p.2
    obtain ⟨later, hlater, hscans⟩ := ih hg hruns hrests
    refine ⟨deeds ++ later, isPrompt_append.mpr ⟨hdeeds, hlater⟩, ?_⟩
    rw [scans_append, hlog, List.map_append, hscans, List.map_cons, List.map_nil,
      Nat.add_sub_cancel_left]
    rfl

/-! ## Loops from their start -/

theorem act_startLoop (hheld : w.directory.isHeld = true)
    (hrunning : w.directory.isStopping = false) {interval : Nat} (hpos : 0 < interval) :
    w.act (.startLoop interval) = (.done, { w with directory := { w.directory with
      loops := w.directory.loops ++ [⟨interval, w.directory.now, .resting, false, hpos⟩] } }) := by
  have hl : (if w.directory.isStopping then (RefreshLoop.start interval w.directory.now).cancel
      else RefreshLoop.start interval w.directory.now) =
        ⟨interval, w.directory.now, .resting, false, hpos⟩ := by
    rw [hrunning]
    exact dif_pos hpos
  unfold act
  dsimp only
  rw [hl]
  exact if_pos hheld

/-- What the scans of a loop are after its start. -/
theorem scans_of_started (hheld : w.directory.isHeld = true)
    (hrunning : w.directory.isStopping = false) {interval : Nat} (hpos : 0 < interval)
    {later : List Deed}
    (hprompt : (w.act (.startLoop interval)).2.IsPrompt w.directory.loops.length later) :
    let start := w.directory.now
    let started := (w.act (.startLoop interval)).2
    let place := w.directory.loops.length
    let u := started.run later
    let log := scans place (started.history later)
    KeepPace interval start log ∧
      (.shutdown ∉ later → ∃ l, u.directory.loops[place]? = some l ∧
        l.Stands interval start log u.directory.now) ∧
      ((∀ e ∈ started.history later, e.generation? ≠ none → (e.scan? place).isSome = true) →
        u.directory.snapshot.generation =
          w.directory.snapshot.generation + log.countP Scan.succeeded) := by
  intro start started place u log
  have hstarted : started = { w with directory := { w.directory with
      loops := w.directory.loops ++ [⟨interval, start, .resting, false, hpos⟩] } } :=
    congrArg Prod.snd (act_startLoop hheld hrunning hpos)
  have hl : started.directory.loops[place]? = some ⟨interval, start, .resting, false, hpos⟩ := by
    rw [hstarted]
    exact List.getElem?_concat_length
  have hpaces :
      Paces interval start [] started.directory.now ⟨interval, start, .resting, false, hpos⟩ := by
    rw [hstarted]
    exact ⟨rfl, .nil, fun _ => .resting rfl (Nat.max_self start)⟩
  obtain ⟨l, hlater, hpace⟩ := paces_run hl hpaces hprompt
  refine ⟨hpace.scans, fun hgoes => ⟨l, hlater, ?_⟩, fun halone => ?_⟩
  · obtain ⟨g, hg, hruns⟩ := runs_run hl ⟨rfl, rfl⟩ hgoes
    obtain rfl : l = g := Option.some.inj (hlater.symm.trans hg)
    exact hpace.stands hruns
  · have hsame : started.directory.snapshot = w.directory.snapshot := by rw [hstarted]
    rw [generation_run halone, hsame]

/-- The scans of a loop, started while the service is not ending, in any course in which it does
everything at its time, as loops do in every session, whatever the scans take and whether they fail
or not. The first begins at the start of the loop. Each later one begins neither before the end of
the one before nor, but for the tolerance, before an interval has gone by since that began, and at
the latest when it is past both. So it goes on until a shutdown. If nobody else publishes, each scan
that succeeds gives one generation more. Scans of all lengths and outcomes can come about. -/
theorem scans_keep_pace (hheld : w.directory.isHeld = true)
    (hrunning : w.directory.isStopping = false) {interval : Nat} (hpos : 0 < interval) :
    let start := w.directory.now
    let started := (w.act (.startLoop interval)).2
    let place := w.directory.loops.length
    (∀ later, started.IsPrompt place later →
      let u := started.run later
      let log := scans place (started.history later)
      KeepPace interval start log ∧
        (.shutdown ∉ later → ∃ l, u.directory.loops[place]? = some l ∧
          l.Stands interval start log u.directory.now) ∧
        ((∀ e ∈ started.history later, e.generation? ≠ none → (e.scan? place).isSome = true) →
          u.directory.snapshot.generation =
            w.directory.snapshot.generation + log.countP Scan.succeeded)) ∧
      ∀ plan : List (Nat × Option String), ∃ later, started.IsPrompt place later ∧
        (scans place (started.history later)).map (fun s => (s.ended - s.began, s.succeeded)) =
          plan.map fun p => (p.1, p.2.isNone) := by
  intro start started place
  refine ⟨fun later hprompt => scans_of_started hheld hrunning hpos hprompt, ?_⟩
  have hl : started.directory.loops[place]? = some ⟨interval, start, .resting, false, hpos⟩ := by
    change (w.act (.startLoop interval)).2.directory.loops[place]? = _
    rw [act_startLoop hheld hrunning hpos]
    exact List.getElem?_concat_length
  exact exists_scans hl rfl rfl

/-- A scan lasts two and a half intervals, the next one begins at its end and fails, and the third
is on time again. -/
theorem scans_keep_pace_late :
    let w := new {} (.ofTables [] []) 1
    let started := (w.act (.startLoop 10)).2
    let place := w.directory.loops.length
    let later : List Deed :=
      [.changeStore [] none 25, .tick 0, .pass 25, .tick 0, .changeStore [] (some "down") 0,
        .tick 0, .tick 0, .changeStore [] none 3, .pass 10, .tick 0, .pass 3, .tick 0]
    w.directory.isHeld = true ∧ w.directory.isStopping = false ∧ started.IsPrompt place later ∧
      scans place (started.history later) = [⟨0, 25, true⟩, ⟨25, 25, false⟩, ⟨35, 38, true⟩] ∧
      KeepPace 10 w.directory.now (scans place (started.history later)) ∧
      (started.run later).directory.snapshot.generation =
        w.directory.snapshot.generation + 2 := by
  intro w started place
  have hpos : 0 < 10 := by decide
  have hgeneration (later : List Deed) (hprompt : started.IsPrompt place later)
      (halone : ∀ e ∈ started.history later,
        e.generation? ≠ none → (e.scan? place).isSome = true) :
      (started.run later).directory.snapshot.generation = w.directory.snapshot.generation +
        (scans place (started.history later)).countP Scan.succeeded :=
    ((scans_keep_pace (w := w) rfl rfl hpos).1 later hprompt).2.2 halone
  intro later
  have hprompt : started.IsPrompt place later := by
    unfold IsPrompt
    decide +kernel
  have hlog : scans place (started.history later) =
      [⟨0, 25, true⟩, ⟨25, 25, false⟩, ⟨35, 38, true⟩] := by decide +kernel
  have halone : ∀ e ∈ started.history later,
      e.generation? ≠ none → (e.scan? place).isSome = true := by decide +kernel
  refine ⟨rfl, rfl, hprompt, hlog, ((scans_keep_pace (w := w) rfl rfl hpos).1 later hprompt).1,
    (hgeneration later hprompt halone).trans ?_⟩
  rw [hlog]
  rfl

end Course

end Namebook
