import Mathlib.Logic.Function.Basic
import Namebook.Proofs.Course.Feeds
import Namebook.Proofs.Course.Subscription

/-!
# The snapshots as a cell that is watched

Publications change a cell, and whoever subscribes is a receiver of it, who knows the version that
it saw last. Only that much is kept here, and every question is put to the cell. The subscriptions
of a course get the same answers, and a producer that waits for a snapshot waits for the cell as
well.
-/

namespace Namebook

open Course (Event Deed)

/-- A cell of snapshots, and the versions that its receivers have seen. -/
structure Watch where
  cell : Cell Snapshot
  seen : String → Option Nat

namespace Watch

/-- Nothing was put into the cell, and nobody watches it. -/
def new : Watch := ⟨⟨Snapshot.empty, 0⟩, fun _ => none⟩

/-- A receiver has seen a version. -/
def see (v : Watch) (id : String) (seen : Option Nat) : Watch :=
  { v with seen := Function.update v.seen id seen }

@[simp] theorem seen_see_self (v : Watch) (id : String) (seen : Option Nat) :
    (v.see id seen).seen id = seen := Function.update_self ..

theorem seen_see_of_ne {id other : String} (h : other ≠ id) (v : Watch) (seen : Option Nat) :
    (v.see id seen).seen other = v.seen other := Function.update_of_ne h ..

theorem see_of_eq {v : Watch} {id : String} {seen : Option Nat} (h : v.seen id = seen) :
    v.see id seen = v := by
  unfold see
  rw [← h, Function.update_eq_self]

/-- A receiver puts a question, and has seen what comes of it. -/
def ask (v : Watch) (id : String) (question : Cell Snapshot → Nat → Poll Snapshot × Nat) : Watch :=
  v.see id ((v.seen id).map fun seen => (question v.cell seen).2)

/-- Whatever publishes sets changes the cell. -/
def put (v : Watch) (now : Time.Instant) (published : Option (List RecordSet)) : Watch :=
  match published with
  | none => v
  | some sets => { v with cell := v.cell.modify (·.commit now sets) }

/-- What an event is to the cell and its receivers. Who subscribes has seen the current version. -/
def heed (v : Watch) (e : Event) : Watch :=
  match e.deed with
  | .subscribe id =>
    if e.before.directory.isHeld then v.see id (some v.cell.version) else v
  | .next id => v.ask id fun c seen => c.next seen e.before.directory.isAlive
  | .whenReady id => v.ask id fun c _ => c.waitFor Snapshot.isReady e.before.directory.isAlive
  | _ => v.put e.before.directory.instant e.published?

end Watch

namespace Course

/-- The snapshot is in the cell, and everybody has seen of it what the directory says. -/
structure IsWatchedBy (w : Course) (v : Watch) : Prop where
  value : v.cell.value = w.directory.snapshot
  isNumbered : v.cell.IsNumbered
  seen : ∀ id, v.seen id = (w.directory.subscriptions.lookup id).map Subscription.seen
  past : ∀ id seen, v.seen id = some seen → seen ≤ v.cell.version
  feeds : w.HasSeenPast

namespace IsWatchedBy

variable {w : Course} {v : Watch} {id : String}

theorem version (h : w.IsWatchedBy v) : v.cell.version = w.directory.snapshot.generation :=
  h.isNumbered.trans (congrArg Snapshot.generation h.value)

theorem lookup (h : w.IsWatchedBy v) {seen : Nat} (hs : v.seen id = some seen) :
    w.directory.subscriptions.lookup id = some ⟨seen⟩ := by
  rw [h.seen id] at hs
  obtain ⟨s, hlookup, rfl⟩ := Option.map_eq_some_iff.mp hs
  exact hlookup

theorem see (h : w.IsWatchedBy v) (id : String) {s : Subscription} (hs : s.seen ≤ v.cell.version) :
    IsWatchedBy
      { w with directory := { w.directory with
        subscriptions := Table.insert id s w.directory.subscriptions } }
      (v.see id (some s.seen)) := by
  refine ⟨h.value, h.isNumbered, fun other => ?_, fun other seen hother => ?_, h.feeds⟩
  · by_cases ho : other = id
    · subst ho
      rw [Watch.seen_see_self, Table.lookup_insert_self, Option.map_some]
    · rw [Watch.seen_see_of_ne ho, Table.lookup_insert_of_ne ho]
      exact h.seen other
  · by_cases ho : other = id
    · subst ho
      rw [Watch.seen_see_self] at hother
      exact Option.some.inj hother ▸ hs
    · rw [Watch.seen_see_of_ne ho] at hother
      exact h.past other seen hother

/-- A question to a subscription is one to the cell if they go together at every version. -/
theorem ask (h : w.IsWatchedBy v)
    (question : Subscription → Snapshot → Bool → Poll Snapshot × Subscription)
    (ofCell : Cell Snapshot → Nat → Poll Snapshot × Nat)
    (hquestion : ∀ s : Subscription, s.seen ≤ v.cell.version →
      question s v.cell.value w.directory.isAlive =
        ((ofCell v.cell s.seen).1, ⟨(ofCell v.cell s.seen).2⟩))
    (hpast : ∀ seen ≤ v.cell.version, (ofCell v.cell seen).2 ≤ v.cell.version) :
    (w.ask (w.directory.poll id question)).2.IsWatchedBy (v.ask id ofCell) := by
  refine ask_cases (P := fun r => r.2.IsWatchedBy (v.ask id ofCell)) (fun hnone => ?unknown)
    fun s hs => ?known
  case unknown =>
    have hseen : v.seen id = none := by rw [h.seen, hnone, Option.map_none]
    have hsame : v.ask id ofCell = v := Watch.see_of_eq (by rw [hseen, Option.map_none])
    rw [hsame]
    exact h
  case known =>
    have hseen : v.seen id = some s.seen := by rw [h.seen, hs, Option.map_some]
    have hle := h.past id s.seen hseen
    have hsee : v.ask id ofCell = v.see id (some (ofCell v.cell s.seen).2) := by
      unfold Watch.ask
      rw [hseen, Option.map_some]
    rw [hsee, ← h.value, hquestion s hle]
    exact h.see id (hpast s.seen hle)

theorem subscribe (h : w.IsWatchedBy v) (id : String) :
    (w.act (.subscribe id)).2.IsWatchedBy (v.heed ⟨w, .subscribe id⟩) := by
  have hheed : v.heed ⟨w, .subscribe id⟩ =
      if w.directory.isHeld then v.see id (some v.cell.version) else v := rfl
  rw [hheed]
  by_cases hheld : w.directory.isHeld = true
  · have ha : w.act (.subscribe id) = (.done, { w with directory := w.directory.subscribe id }) :=
      if_pos hheld
    rw [ha, if_pos hheld, h.version]
    exact h.see id (Nat.le_of_eq h.version.symm)
  · have ha : w.act (.subscribe id) = (.impossible, w) := if_neg hheld
    rw [ha, if_neg hheld]
    exact h

theorem next (h : w.IsWatchedBy v) (id : String) :
    (w.act (.next id)).2.IsWatchedBy (v.heed ⟨w, .next id⟩) :=
  h.ask Subscription.next (fun c seen => c.next seen w.directory.isAlive)
    (fun _ hs => Subscription.next_eq h.isNumbered hs _) fun _ hs => v.cell.next_le hs _

theorem whenReady (h : w.IsWatchedBy v) (id : String) :
    (w.act (.whenReady id)).2.IsWatchedBy (v.heed ⟨w, .whenReady id⟩) :=
  h.ask Subscription.whenReady (fun c _ => c.waitFor Snapshot.isReady w.directory.isAlive)
    (fun _ hs => Subscription.whenReady_eq h.isNumbered hs _) fun _ _ => Nat.le_refl _

theorem act_of_other (h : w.IsWatchedBy v) {m : Deed} (hm : m.subscriber? = none) :
    (w.act m).2.IsWatchedBy (v.heed ⟨w, m⟩) := by
  have hheed : v.heed ⟨w, m⟩ = v.put w.directory.instant (Event.mk w m).published? := by
    cases m with
    | subscribe id => exact nomatch hm
    | next id => exact nomatch hm
    | whenReady id => exact nomatch hm
    | _ => rfl
  have hsame : (w.act m).2.directory.subscriptions = w.directory.subscriptions :=
    (w.touches_act m).subscriptions.resolve_right fun ⟨id, s, hid, _⟩ => nomatch hm.symm.trans hid
  have hseen (id : String) :
      v.seen id = ((w.act m).2.directory.subscriptions.lookup id).map Subscription.seen :=
    hsame ▸ h.seen id
  have hfeeds : (w.act m).2.HasSeenPast := fun p hp =>
    Nat.le_trans (seen_act_le h.feeds m p hp) (w.generation_le_act m)
  rw [hheed]
  rcases w.publication_cases m with ⟨hp, -, hs⟩ | ⟨sets, hp, -, hs⟩
  · rw [hp]
    exact ⟨h.value.trans hs.symm, h.isNumbered, hseen, h.past, hfeeds⟩
  · rw [hp]
    refine ⟨?_, Cell.isNumbered_modify_commit h.isNumbered _ sets, hseen,
      fun id seen hid => Nat.le_succ_of_le (h.past id seen hid), hfeeds⟩
    exact (congrArg (Snapshot.commit · w.directory.instant sets) h.value).trans hs.symm

theorem act (h : w.IsWatchedBy v) (m : Deed) : (w.act m).2.IsWatchedBy (v.heed ⟨w, m⟩) := by
  cases m with
  | subscribe id => exact h.subscribe id
  | next id => exact h.next id
  | whenReady id => exact h.whenReady id
  | _ => exact h.act_of_other rfl

theorem run (h : w.IsWatchedBy v) (deeds : List Deed) :
    (w.run deeds).IsWatchedBy ((w.history deeds).foldl Watch.heed v) := by
  induction deeds generalizing w v with
  | nil => exact h
  | cons m deeds ih => exact ih (h.act m)

/-- What the producer of a feed waits for is the cell, too: at first for a value that is ready, and
then for a change. -/
theorem step?_of_waiting (h : w.IsWatchedBy v) {f : Feed}
    (hf : w.directory.feeds.lookup id = some f) (hp : f.phase = .waiting) (ho : f.IsOpen) :
    f.step? w.directory.snapshot =
      f.heed (if f.seen = 0 then v.cell.waitFor Snapshot.isReady true
        else v.cell.next f.seen true).1 := by
  have hseen : f.seen ≤ v.cell.version := h.version ▸ h.feeds (id, f) (Table.mem_of_lookup hf)
  have hwaits : f.step? v.cell.value = _ := Feed.step?_waiting hp ho ⟨f.seen⟩ fun _ => rfl
  have hready := Subscription.whenReady_eq (s := ⟨f.seen⟩) h.isNumbered hseen true
  have hnext := Subscription.next_eq (s := ⟨f.seen⟩) h.isNumbered hseen true
  rw [← h.value, hwaits]
  by_cases hz : f.seen = 0
  · rw [if_pos hz, if_pos hz, hready]
  · rw [if_neg hz, if_neg hz, hnext]

end IsWatchedBy

/-- The subscriptions of a course are receivers of one cell, which counts the publications. Each of
them gets the answers of the cell, and what it has seen there is what its account says. So does the
producer of a feed that waits. -/
theorem watch_of_course (grouping : Grouping) (resolver : Dns.Resolver) (streamBuffer : Nat)
    (deeds : List Deed) :
    let start := new grouping resolver streamBuffer
    let w := start.run deeds
    let v := (start.history deeds).foldl Watch.heed Watch.new
    let alive := w.directory.isAlive
    v.cell.value = w.directory.snapshot ∧
      v.cell.version = (publications (start.history deeds)).length ∧
      (∀ id, v.seen id = (account id (start.history deeds)).map Account.seen) ∧
      (∀ id seen, v.seen id = some seen →
        (w.act (.next id)).1 = .polled (v.cell.next seen alive).1 ∧
          (w.act (.whenReady id)).1 = .polled (v.cell.waitFor Snapshot.isReady alive).1) ∧
      ∀ id f, w.directory.feeds.lookup id = some f → f.phase = .waiting → f.IsOpen →
        f.step? w.directory.snapshot =
          f.heed (if f.seen = 0 then v.cell.waitFor Snapshot.isReady true
            else v.cell.next f.seen true).1 := by
  intro start w v alive
  have hnew : start.IsWatchedBy Watch.new :=
    ⟨rfl, rfl, fun _ => rfl, nofun, List.forall_mem_nil _⟩
  have h : w.IsWatchedBy v := hnew.run deeds
  refine ⟨h.value, ?version, fun id => ?seen, fun id seen hs => ?answers, fun id f hf hp ho =>
    h.step?_of_waiting hf hp ho⟩
  case version =>
    have hmade : w.directory.snapshot.IsMadeOf (publications (start.history deeds)) :=
      isMadeOf_run_new grouping resolver streamBuffer deeds
    exact h.version.trans hmade.generation
  case seen =>
    have hnobody : start.Remembers id none := rfl
    have hremembers : w.Remembers id (account id (start.history deeds)) :=
      remembers_run hnobody deeds
    rw [h.seen id]
    cases ha : account id (start.history deeds) with
    | none =>
      rw [ha] at hremembers
      rw [show w.directory.subscriptions.lookup id = none from hremembers]
      rfl
    | some a =>
      rw [ha] at hremembers
      rw [Account.IsRight.lookup hremembers]
      rfl
  case answers =>
    have hlookup := h.lookup hs
    have hle := h.past id seen hs
    have hnext := Subscription.next_eq (s := ⟨seen⟩) h.isNumbered hle alive
    have hready := Subscription.whenReady_eq (s := ⟨seen⟩) h.isNumbered hle alive
    rw [h.value] at hnext hready
    constructor
    · change (w.ask (w.directory.poll id Subscription.next)).1 = _
      rw [answer_ask hlookup, hnext]
    · change (w.ask (w.directory.poll id Subscription.whenReady)).1 = _
      rw [answer_ask hlookup, hready]

end Course

end Namebook
