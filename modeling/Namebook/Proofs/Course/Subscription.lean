import Namebook.Proofs.Course.Ending
import Namebook.Proofs.Course.Snapshot
import Namebook.Proofs.Subscription

/-!
# Subscriptions in the course of a directory

Subscribers come at any time and ask at any time, between commits, refreshes and what else is done.
Each is given the latest snapshot whenever it has not seen it, and the next one is never one that it
has seen.
-/

namespace Namebook

namespace Course

/-- What a subscriber can tell: the generation at its start, and the snapshots given to it since. -/
structure Account where
  start : Nat
  given : List Snapshot

namespace Account

/-- The generation at the start, and then that of the last snapshot that was given. -/
def seen (a : Account) : Nat := (a.given.getLast?.map Snapshot.generation).getD a.start

/-- An answer is heard. -/
def hear (a : Account) : Answer → Account
  | .polled (.ready s) => { a with given := a.given ++ [s] }
  | _ => a

/-- The generation at the start, and those that came after it. -/
def generations (a : Account) : List Nat := a.start :: a.given.map Snapshot.generation

theorem seen_hear_ready (a : Account) (s : Snapshot) :
    (a.hear (.polled (.ready s))).seen = s.generation := by
  simp [hear, seen]

@[simp] theorem start_hear (a : Account) (answer : Answer) : (a.hear answer).start = a.start := by
  unfold hear
  split <;> rfl

theorem hear_idle (a : Account) (alive : Bool) :
    a.hear (.polled (Subscription.idle alive)) = a := by
  cases alive <;> rfl

theorem getLast?_generations (a : Account) : a.generations.getLast? = some a.seen := by
  unfold generations seen
  rw [List.getLast?_cons, List.getLast?_map]

theorem generations_hear_ready (a : Account) (s : Snapshot) :
    (a.hear (.polled (.ready s))).generations = a.generations ++ [s.generation] := by
  simp [hear, generations]

end Account

/-- What the subscriber `id` can tell after an event. -/
def Event.account (id : String) (a : Option Account) (e : Event) : Option Account :=
  match e.deed with
  | .subscribe i =>
    if i = id then
      match e.answer with
      | .done => some ⟨e.before.directory.snapshot.generation, []⟩
      | _ => a
    else a
  | .next i => if i = id then a.map (·.hear e.answer) else a
  | .whenReady i => if i = id then a.map (·.hear e.answer) else a
  | _ => a

/-- What it can tell after all these events, once it has subscribed. -/
def account (id : String) (events : List Event) : Option Account :=
  events.foldl (Event.account id) none

/-- The snapshot that was committed. -/
def Event.committed? (e : Event) : Option Snapshot :=
  e.published?.map fun _ => e.after.directory.snapshot

/-- The snapshots that were committed, from the first to the last. -/
def committed (events : List Event) : List Snapshot := events.filterMap Event.committed?

variable {w : Course} {id : String} {a : Option Account}

/-! ## What is remembered -/

/-- The account of a subscriber whose seen generation the directory remembers rightly. -/
structure Account.IsRight (a : Account) (w : Course) (id : String) : Prop where
  lookup : w.directory.subscriptions.lookup id = some ⟨a.seen⟩
  rising : a.generations.Pairwise (· ≤ ·)
  seen_le : a.seen ≤ w.directory.snapshot.generation

/-- The directory remembers those who have subscribed, and what they have seen. -/
def Remembers (w : Course) (id : String) : Option Account → Prop
  | none => w.directory.subscriptions.lookup id = none
  | some a => a.IsRight w id

theorem Account.le_seen {a : Account} (h : a.generations.Pairwise (· ≤ ·)) :
    ∀ g ∈ a.generations, g ≤ a.seen := by
  intro g hg
  obtain ⟨init, hi⟩ := List.getLast?_eq_some_iff.mp a.getLast?_generations
  rw [hi] at h hg
  rcases List.mem_append.mp hg with hinit | hlast
  · exact (List.pairwise_append.mp h).2.2 g hinit a.seen (List.mem_singleton_self _)
  · exact Nat.le_of_eq (List.mem_singleton.mp hlast)

theorem generation_le_act (w : Course) (m : Deed) :
    w.directory.snapshot.generation ≤ (w.act m).2.directory.snapshot.generation := by
  rcases w.publication_cases m with ⟨-, -, hs⟩ | ⟨sets, -, -, hs⟩
  · exact Nat.le_of_eq (congrArg Snapshot.generation hs.symm)
  · rw [hs]
    exact Nat.le_succ _

/-- Nobody else changes what is remembered of a subscriber. -/
theorem lookup_act_of_other {m : Deed} (h : m.subscriber? ≠ some id) :
    (w.act m).2.directory.subscriptions.lookup id =
      w.directory.subscriptions.lookup id := by
  rcases (w.touches_act m).subscriptions with hsame | ⟨i, s, hi, he⟩
  · rw [hsame]
  · rw [he]
    exact Table.lookup_insert_of_ne (fun hid => h (hi.trans (congrArg some hid.symm))) s _

theorem account_of_other {m : Deed} (h : m.subscriber? ≠ some id) :
    Event.account id a ⟨w, m⟩ = a := by
  have hne (i : String) (hi : some i ≠ some id) : i ≠ id := fun he => hi (congrArg some he)
  cases m with
  | subscribe i => exact if_neg (hne i h)
  | next i => exact if_neg (hne i h)
  | whenReady i => exact if_neg (hne i h)
  | _ => rfl

/-- The account of one who asked. -/
theorem isRight_ask {a : Account} (h : a.IsRight w id)
    {question : Subscription → Snapshot → Bool → Poll Snapshot × Subscription}
    (hq : Subscription.IsHonest question) :
    (a.hear (w.ask (w.directory.poll id question)).1).IsRight
      (w.ask (w.directory.poll id question)).2 id := by
  refine ask_cases (P := fun r => (a.hear r.1).IsRight r.2 id) ?unknown ?known
  case unknown =>
    intro hnone
    rw [h.lookup] at hnone
    exact nomatch hnone
  case known =>
    intro s hs
    obtain rfl := Option.some.inj (h.lookup.symm.trans hs)
    rcases hq ⟨a.seen⟩ w.directory.snapshot w.directory.isAlive with he | he
    · rw [he]
      refine ⟨?_, ?_, ?_⟩
      · rw [Account.seen_hear_ready]
        exact Table.lookup_insert_self id _ _
      · -- The generation that is seen now is not below any that was seen before.
        rw [Account.generations_hear_ready, List.pairwise_append]
        refine ⟨h.rising, List.pairwise_singleton _ _, fun g hg t ht => ?_⟩
        rw [List.mem_singleton.mp ht]
        exact Nat.le_trans (Account.le_seen h.rising g hg) h.seen_le
      · exact Nat.le_of_eq (Account.seen_hear_ready a _)
    · rw [he]
      dsimp only
      rw [Account.hear_idle]
      exact ⟨Table.lookup_insert_self id _ _, h.rising, h.seen_le⟩

theorem remembers_ask (h : w.Remembers id a)
    {question : Subscription → Snapshot → Bool → Poll Snapshot × Subscription}
    (hq : Subscription.IsHonest question) :
    (w.ask (w.directory.poll id question)).2.Remembers id
      (a.map (·.hear (w.ask (w.directory.poll id question)).1)) := by
  cases a with
  | none =>
    refine ask_cases (P := fun r => r.2.directory.subscriptions.lookup id = none) (fun _ => h) ?_
    intro s hs
    exact nomatch h.symm.trans hs
  | some a => exact isRight_ask h hq

theorem remembers_subscribe (h : w.Remembers id a) :
    (w.act (.subscribe id)).2.Remembers id (Event.account id a ⟨w, .subscribe id⟩) := by
  by_cases hheld : w.directory.isHeld = true
  · have ha : w.act (.subscribe id) = (.done, { w with directory := w.directory.subscribe id }) :=
      if_pos hheld
    have hacc : Event.account id a ⟨w, .subscribe id⟩ =
        some ⟨w.directory.snapshot.generation, []⟩ := by
      unfold Event.account Event.answer
      rw [ha]
      exact if_pos rfl
    rw [hacc, ha]
    exact ⟨Table.lookup_insert_self id _ _, List.pairwise_singleton _ _, Nat.le_refl _⟩
  · have ha : w.act (.subscribe id) = (.impossible, w) := if_neg hheld
    have hacc : Event.account id a ⟨w, .subscribe id⟩ = a := by
      unfold Event.account Event.answer
      rw [ha]
      exact if_pos rfl
    rw [hacc, ha]
    exact h

theorem remembers_act (h : w.Remembers id a) (m : Deed) :
    (w.act m).2.Remembers id (Event.account id a ⟨w, m⟩) := by
  by_cases hm : m.subscriber? = some id
  · cases m with
    | subscribe i =>
      obtain rfl := Option.some.inj hm
      exact remembers_subscribe h
    | next i =>
      obtain rfl := Option.some.inj hm
      have hacc : Event.account i a ⟨w, .next i⟩ = a.map (·.hear (w.act (.next i)).1) := if_pos rfl
      rw [hacc]
      exact remembers_ask h Subscription.isHonest_next
    | whenReady i =>
      obtain rfl := Option.some.inj hm
      have hacc : Event.account i a ⟨w, .whenReady i⟩ = a.map (·.hear (w.act (.whenReady i)).1) :=
        if_pos rfl
      rw [hacc]
      exact remembers_ask h Subscription.isHonest_whenReady
    | _ => exact nomatch hm
  · have hl := lookup_act_of_other (w := w) hm
    rw [account_of_other hm]
    cases a with
    | none => exact hl.trans h
    | some a => exact ⟨hl.trans h.lookup, h.rising, Nat.le_trans h.seen_le (w.generation_le_act m)⟩

theorem remembers_run (h : w.Remembers id a) (deeds : List Deed) :
    (w.run deeds).Remembers id ((w.history deeds).foldl (Event.account id) a) := by
  induction deeds generalizing w a with
  | nil => exact h
  | cons m deeds ih => exact ih (remembers_act h m)

/-! ## What was committed -/

/-- The commits up to a snapshot, each of the generation after the one before. -/
structure EndsIn (commits : List Snapshot) (s : Snapshot) : Prop where
  generations : commits.map Snapshot.generation = List.range' 1 s.generation
  latest : commits ≠ [] → commits.getLast? = some s

variable {commits : List Snapshot} {s : Snapshot}

theorem endsIn_act (h : EndsIn commits w.directory.snapshot) (m : Deed) :
    EndsIn (commits ++ (Event.mk w m).committed?.toList) (w.act m).2.directory.snapshot := by
  unfold Event.committed? Event.after
  rcases w.publication_cases m with ⟨hp, -, hs⟩ | ⟨sets, hp, -, hs⟩
  · rw [hp, Option.map_none, Option.toList_none, List.append_nil, hs]
    exact h
  · rw [hp, Option.map_some, Option.toList_some]
    dsimp only
    rw [hs]
    refine ⟨?_, fun _ => List.getLast?_concat⟩
    change _ = List.range' 1 (w.directory.snapshot.generation + 1)
    rw [List.map_append, h.generations, List.range'_1_concat, Nat.add_comm 1]
    rfl

theorem endsIn_run (h : EndsIn commits w.directory.snapshot) (deeds : List Deed) :
    EndsIn (commits ++ committed (w.history deeds)) (w.run deeds).directory.snapshot :=
  run_keeps_log (I := fun commits e => EndsIn commits e.directory.snapshot)
    (fun _ _ m h => endsIn_act h m) h deeds

theorem EndsIn.generation_le (h : EndsIn commits s) :
    ∀ t ∈ commits, t.generation ≤ s.generation := by
  intro t ht
  have hmem : t.generation ∈ List.range' 1 s.generation :=
    h.generations ▸ List.mem_map_of_mem ht
  have := List.mem_range'_1.mp hmem
  omega

theorem EndsIn.getLast?_of_pos (h : EndsIn commits s) (hpos : 0 < s.generation) :
    commits.getLast? = some s := by
  refine h.latest fun hnil => ?_
  have hlength := congrArg List.length h.generations
  rw [hnil, List.map_nil, List.length_nil, List.length_range'] at hlength
  omega

theorem EndsIn.exists_lt_iff (h : EndsIn commits s) {g : Nat} :
    (∃ t ∈ commits, g < t.generation) ↔ g < s.generation := by
  constructor
  · rintro ⟨t, ht, hlt⟩
    exact Nat.lt_of_lt_of_le hlt (h.generation_le t ht)
  · intro hlt
    exact ⟨s, List.mem_of_getLast? (h.getLast?_of_pos (Nat.zero_lt_of_lt hlt)), hlt⟩

/-! ## How one is answered -/

/-- The answer to one who waits: the latest snapshot exactly if one is due, and otherwise that one
may come or that none will. -/
structure Answer.Serves (answer : Answer) (due : Prop) (latest : Option Snapshot) (alive : Bool) :
    Prop where
  ready : (∃ s, answer = .polled (.ready s)) ↔ due
  latest : ∀ s, answer = .polled (.ready s) → latest = some s
  pending : answer = .polled .pending ↔ ¬due ∧ alive = true
  closed : answer = .polled .closed ↔ ¬due ∧ alive = false

theorem Answer.serves_ready {due : Prop} (hdue : due) {latest : Option Snapshot}
    (hlatest : latest = some s) (alive : Bool) :
    (Answer.polled (.ready s)).Serves due latest alive where
  ready := iff_of_true ⟨s, rfl⟩ hdue
  latest t ht := by
    cases ht
    exact hlatest
  pending := iff_of_false nofun fun h => h.1 hdue
  closed := iff_of_false nofun fun h => h.1 hdue

theorem Answer.serves_idle {due : Prop} (hdue : ¬due) (latest : Option Snapshot) (alive : Bool) :
    (Answer.polled (Subscription.idle alive)).Serves due latest alive := by
  cases alive with
  | false =>
    exact ⟨iff_of_false nofun hdue, nofun, iff_of_false nofun nofun,
      iff_of_true rfl ⟨hdue, rfl⟩⟩
  | true =>
    exact ⟨iff_of_false nofun hdue, nofun, iff_of_true rfl ⟨hdue, rfl⟩,
      iff_of_false nofun nofun⟩

theorem answer_ask {seen : Subscription} (h : w.directory.subscriptions.lookup id = some seen)
    (question : Subscription → Snapshot → Bool → Poll Snapshot × Subscription) :
    (w.ask (w.directory.poll id question)).1 =
      .polled (question seen w.directory.snapshot w.directory.isAlive).1 := by
  refine ask_cases (P := fun r => r.1 = _) ?unknown ?known
  case unknown =>
    intro hnone
    exact nomatch h.symm.trans hnone
  case known =>
    intro t ht
    obtain rfl := Option.some.inj (h.symm.trans ht)
    rfl

theorem answer_next {g : Nat} (h : w.directory.subscriptions.lookup id = some ⟨g⟩) :
    (w.act (.next id)).1 = .polled
      (if g < w.directory.snapshot.generation then .ready w.directory.snapshot
        else Subscription.idle w.directory.isAlive) := by
  change (w.ask (w.directory.poll id Subscription.next)).1 = _
  rw [answer_ask h]
  unfold Subscription.next
  split
  · rfl
  · rfl

theorem serves_next {b : Account} (h : b.IsRight w id) (hc : EndsIn commits w.directory.snapshot) :
    (w.act (.next id)).1.Serves (∃ t ∈ commits, b.seen < t.generation) commits.getLast?
      w.directory.isAlive := by
  rw [answer_next h.lookup, hc.exists_lt_iff]
  by_cases hlt : b.seen < w.directory.snapshot.generation
  · rw [if_pos hlt]
    exact Answer.serves_ready hlt (hc.getLast?_of_pos (Nat.zero_lt_of_lt hlt)) _
  · rw [if_neg hlt]
    exact Answer.serves_idle hlt _ _

theorem serves_whenReady {b : Account} (h : b.IsRight w id)
    (hc : EndsIn commits w.directory.snapshot) :
    (w.act (.whenReady id)).1.Serves (0 < w.directory.snapshot.generation) commits.getLast?
      w.directory.isAlive := by
  change (w.ask (w.directory.poll id Subscription.whenReady)).1.Serves _ _ _
  rw [answer_ask h.lookup]
  unfold Subscription.whenReady Snapshot.isReady
  by_cases hpos : 0 < w.directory.snapshot.generation
  · rw [if_pos (decide_eq_true hpos)]
    exact Answer.serves_ready hpos (hc.getLast?_of_pos hpos) _
  · rw [if_neg fun h => hpos (of_decide_eq_true h)]
    exact Answer.serves_idle hpos _ _

theorem lt_of_answer_next {b : Account} (h : b.IsRight w id)
    (hs : (w.act (.next id)).1 = .polled (.ready s)) : b.seen < s.generation := by
  rw [answer_next h.lookup] at hs
  split at hs
  · cases hs
    assumption
  · unfold Subscription.idle at hs
    split at hs
    · exact nomatch hs
    · exact nomatch hs

/-- Whoever has asked for the next snapshot has seen the current one. -/
theorem seen_hear_next {b : Account} (h : b.IsRight w id) :
    (b.hear (w.act (.next id)).1).seen = w.directory.snapshot.generation := by
  rw [answer_next h.lookup]
  split
  · exact b.seen_hear_ready _
  · rw [Account.hear_idle]
    exact Nat.le_antisymm h.seen_le (Nat.le_of_not_lt ‹_›)

theorem Account.exists_given {b : Account} (h : b.start < b.seen) :
    ∃ s ∈ b.given, s.generation = b.seen := by
  unfold seen at h ⊢
  cases hlast : b.given.getLast? with
  | none =>
    rw [hlast] at h
    exact absurd h (Nat.lt_irrefl _)
  | some s => exact ⟨s, List.mem_of_getLast? hlast, rfl⟩

/-! ## When it is over -/

theorem lookup_act_of_isOver (h : w.IsOver)
    (hl : w.directory.subscriptions.lookup id = some ⟨w.directory.snapshot.generation⟩) (m : Deed) :
    (w.act m).2.directory.subscriptions.lookup id =
      some ⟨(w.act m).2.directory.snapshot.generation⟩ := by
  let P (r : Answer × Course) : Prop :=
    r.2.directory.subscriptions.lookup id = some ⟨w.directory.snapshot.generation⟩
  have hask {question : Subscription → Snapshot → Bool → Poll Snapshot × Subscription}
      (hq : Subscription.IsHonest question) : P (w.ask (w.directory.poll id question)) := by
    refine ask_cases (fun _ => hl) fun t ht => ?_
    obtain rfl := Option.some.inj (hl.symm.trans ht)
    refine (Table.lookup_insert_self id _ _).trans (congrArg some ?_)
    rcases hq _ w.directory.snapshot w.directory.isAlive with he | he
    · rw [he]
    · rw [he]
  rw [(staysOver_act h m).2]
  by_cases hm : m.subscriber? = some id
  · cases m with
    | subscribe i =>
      exact holding_cases (P := P) hl fun hheld => absurd hheld (Bool.eq_false_iff.mp h.released)
    | next i =>
      obtain rfl := Option.some.inj hm
      exact hask Subscription.isHonest_next
    | whenReady i =>
      obtain rfl := Option.some.inj hm
      exact hask Subscription.isHonest_whenReady
    | _ => exact nomatch hm
  · exact (lookup_act_of_other hm).trans hl

theorem lookup_run_of_isOver (h : w.IsOver)
    (hl : w.directory.subscriptions.lookup id = some ⟨w.directory.snapshot.generation⟩)
    (deeds : List Deed) :
    (w.run deeds).directory.subscriptions.lookup id =
      some ⟨(w.run deeds).directory.snapshot.generation⟩ := by
  let I (e : Course) : Prop := e.IsOver ∧
    e.directory.subscriptions.lookup id = some ⟨e.directory.snapshot.generation⟩
  have hstep (e : Course) (m : Deed) (he : I e) : I (e.act m).2 :=
    ⟨(staysOver_act he.1 m).1, lookup_act_of_isOver he.1 he.2 m⟩
  have hrun : I (w.run deeds) := run_keeps hstep ⟨h, hl⟩ deeds
  exact hrun.2

theorem answer_next_of_isOver (h : w.IsOver)
    (hl : w.directory.subscriptions.lookup id = some ⟨w.directory.snapshot.generation⟩)
    (deeds : List Deed) : ((w.run deeds).act (.next id)).1 = .polled .closed := by
  rw [answer_next (lookup_run_of_isOver h hl deeds), if_neg (Nat.lt_irrefl _),
    isAlive_of_isOver (staysOver_run h deeds).1]
  rfl

/-- When nobody is left who could bring another snapshot, one who has asked for the next one gets no
more, whatever is done. -/
theorem closed_after_next {b : Account} (h : b.IsRight w id) (hcalls : w.IsHeldByCalls)
    (hdead : w.directory.isAlive = false) (later : List Deed) :
    (((w.act (.next id)).2.run later).act (.next id)).1 = .polled .closed := by
  -- The snapshot stays, so nothing is above what the first question left behind.
  obtain ⟨hover, hs⟩ := staysOver_act (isOver_of_isAlive hcalls hdead) (.next id)
  refine answer_next_of_isOver hover ?_ later
  rw [hs, ← seen_hear_next h]
  exact (isRight_ask h Subscription.isHonest_next).lookup

/-- What a subscriber can tell of a course of a new directory is remembered rightly. -/
theorem isRight_account {grouping : Grouping} {resolver : Dns.Resolver} {streamBuffer : Nat}
    {deeds : List Deed} {b : Account}
    (h : account id ((new grouping resolver streamBuffer).history deeds) = some b) :
    b.IsRight ((new grouping resolver streamBuffer).run deeds) id := by
  have hnew : (new grouping resolver streamBuffer).Remembers id none := rfl
  have hr := remembers_run hnew deeds
  change Remembers _ id (account id _) at hr
  rw [h] at hr
  exact hr

/-- How a subscriber is answered in any course of a new directory. One who asks for the next
snapshot gets the latest one exactly if there was a commit after what it has seen, and one who asks
whether the snapshot is ready gets it exactly if there was any; who gets nothing is told whether
something may still come. So the generations that are given never fall, the next one is always
above those before it, whatever is committed after the start has been met once the next one was
asked for, and what was committed before the end is given once. -/
theorem answers_of_course (grouping : Grouping) (resolver : Dns.Resolver) (streamBuffer : Nat)
    (deeds : List Deed) (id : String) (a : Account)
    (h : account id ((new grouping resolver streamBuffer).history deeds) = some a) :
    let w := (new grouping resolver streamBuffer).run deeds
    let commits := committed ((new grouping resolver streamBuffer).history deeds)
    let alive := w.directory.isAlive
    EndsIn commits w.directory.snapshot ∧
      (w.act (.next id)).1.Serves (∃ t ∈ commits, a.seen < t.generation) commits.getLast? alive ∧
      (w.act (.whenReady id)).1.Serves (0 < w.directory.snapshot.generation) commits.getLast?
        alive ∧
      a.generations.Pairwise (· ≤ ·) ∧
      (∀ s, (w.act (.next id)).1 = .polled (.ready s) → ∀ g ∈ a.generations, g < s.generation) ∧
      (∀ t ∈ commits, a.start < t.generation →
        ∃ s ∈ (a.hear (w.act (.next id)).1).given, t.generation ≤ s.generation) ∧
      (alive = false → ∀ later,
        (((w.act (.next id)).2.run later).act (.next id)).1 = .polled .closed) := by
  intro w commits alive
  let start := new grouping resolver streamBuffer
  have hright : a.IsRight w id := isRight_account h
  have hends : EndsIn commits w.directory.snapshot := by
    have hnew : EndsIn [] start.directory.snapshot := ⟨rfl, fun hne => absurd rfl hne⟩
    exact endsIn_run hnew deeds
  refine ⟨hends, serves_next hright hends, serves_whenReady hright hends, hright.rising, ?strict,
    ?met, ?closed⟩
  case strict =>
    intro s hs g hg
    exact Nat.lt_of_le_of_lt (Account.le_seen hright.rising g hg) (lt_of_answer_next hright hs)
  case met =>
    intro t ht hlt
    -- The current generation has been seen by now, and not at the start: so it was given.
    have hseen := seen_hear_next hright
    have hle : t.generation ≤ (a.hear (w.act (.next id)).1).seen :=
      hseen ▸ hends.generation_le t ht
    obtain ⟨s, hs, he⟩ := Account.exists_given (b := a.hear (w.act (.next id)).1)
      (by rw [Account.start_hear]; exact Nat.lt_of_lt_of_le hlt hle)
    exact ⟨s, hs, he ▸ hle⟩
  case closed =>
    have hcalls : w.IsHeldByCalls :=
      isHeldByCalls_run (w := start) (fun hne => absurd rfl hne) deeds
    exact fun hdead later => closed_after_next hright hcalls hdead later

/-- Two commits before the end are given as one, of which a second question gets nothing. -/
theorem answers_of_course_released :
    let start := new {} (.ofTables [] []) 1
    let deeds : List Deed := [.subscribe "a", .commit [], .commit [RecordSet.single "x"], .release]
    let w := start.run deeds
    account "a" (start.history deeds) = some ⟨0, []⟩ ∧
      (∃ s, (w.act (.next "a")).1 = .polled (.ready s)) ∧
      ∀ later, (((w.act (.next "a")).2.run later).act (.next "a")).1 = .polled .closed := by
  intro start deeds w
  obtain ⟨hends, hnext, -, -, -, -, hover⟩ :=
    answers_of_course {} (.ofTables [] []) 1 deeds "a" ⟨0, []⟩ rfl
  exact ⟨rfl, hnext.ready.mpr (hends.exists_lt_iff.mpr Nat.two_pos), hover rfl⟩

end Course

end Namebook
