import Namebook.Proofs.Course.Feeds
import Namebook.Proofs.Course.Subscription

/-!
# What users notice of a course

Those who use a directory notice what they ask for and how it is answered. They notice neither the
steps of loops and producers nor when these were taken. What a subscriber can tell, and what the
reader of a feed has in its hands, is known from what was noticed.
-/

namespace Namebook

namespace Course

inductive Sign where
  | published (generation : Nat)
  | refreshed (result : Except StoreFailure Nat)
  | listed (result : Except Refusal Page)
  | started (interval : Nat)
  | stopped
  /-- The generation is the one at the start. -/
  | subscribed (id : String) (generation : Nat)
  | polled (id : String) (answer : Poll Snapshot)
  | opened (id : String) (filters : Filters)
  | brought (id : String) (change : Change)
  | checked (result : CheckResult)

/-- What is noticed of an answer that tells of the store or of a check. -/
def Answer.sign? : Answer → Option Sign
  | published generation => some (.published generation)
  | refreshed result => some (.refreshed result)
  | listed result => some (.listed result)
  | checked result => some (.checked result)
  | _ => none

/-- What users notice of a deed that is answered so. A generation is current at its beginning. -/
def Deed.sign? (generation : Nat) (m : Deed) (answer : Answer) : Option Sign :=
  match m, answer with
  | .commit _, answer | .finish _, answer | .check .., answer => answer.sign?
  | .startLoop interval, .done => some (.started interval)
  | .shutdown, _ => some .stopped
  | .subscribe id, .done => some (.subscribed id generation)
  | .next id, .polled answer => some (.polled id answer)
  | .whenReady id, .polled answer => some (.polled id answer)
  | .openFeed id filters, .done => some (.opened id filters)
  | .take id, .took c => some (.brought id c)
  | _, _ => none

def Event.sign? (e : Event) : Option Sign :=
  e.deed.sign? e.before.directory.snapshot.generation e.answer

def signs (events : List Event) : List Sign := events.filterMap Event.sign?

variable {w : Course} {id : String}

/-! ## Answers -/

theorem sign?_produceIn (current : Snapshot) (f : Feed) : (produceIn current f).1.sign? = none := by
  unfold produceIn
  cases f.step? current <;> rfl

theorem sign?_takeFrom (f : Feed) : (takeFrom f).1.sign? = none := by
  unfold takeFrom
  split
  · cases f.take? with
    | some taken => rfl
    | none => dsimp only; split <;> rfl
  · rfl

/-- Such an answer is noticed, unless it is given to a loop. -/
theorem sign?_of_answer {m : Deed} (hm : ∀ place, m ≠ .tick place) {s : Sign}
    (h : (w.act m).1.sign? = some s) : (Event.mk w m).sign? = some s := by
  let P (r : Answer × Course) : Prop :=
    r.1.sign? = some s → m.sign? w.directory.snapshot.generation r.1 = some s
  have himpossible : P (.impossible, w) := fun h => nomatch h
  have hask (id : String)
      (question : Subscription → Snapshot → Bool → Poll Snapshot × Subscription) :
      P (w.ask (w.directory.poll id question)) :=
    ask_cases (fun _ => himpossible) fun _ _ h => nomatch h
  have hfeed {id : String} {happens : Feed → Answer × Feed × List Happening}
      (hf : ∀ f, (happens f).1.sign? = none) : P (w.inFeed id happens) :=
    inFeed_cases himpossible fun f _ h => nomatch (hf f).symm.trans h
  suffices hP : P (w.act m) from hP h
  cases m with
  | pass millis => exact fun h => nomatch h
  | changeStore sets failure latency => exact fun h => nomatch h
  | commit sets => exact holding_cases himpossible fun _ h => h
  | call errand => exact holding_cases himpossible fun _ h => nomatch h
  | finish place =>
    refine finish_cases (P := P) himpossible fun c _ => ?_
    unfold finishCall
    cases c.errand with
    | refresh => exact fun h => h
    | list filters size token => exact fun h => h
  | giveUp place => exact giveUp_cases (P := P) himpossible fun _ h => nomatch h
  | startLoop interval => exact holding_cases himpossible fun _ h => nomatch h
  | tick place => exact absurd rfl (hm place)
  | shutdown => exact fun h => nomatch h
  | release => exact release_cases (P := P) himpossible fun _ h => nomatch h
  | subscribe id => exact holding_cases himpossible fun _ h => nomatch h
  | next id => exact hask id _
  | whenReady id => exact hask id _
  | openFeed id filters =>
    exact holding_cases himpossible fun _ =>
      openFeed_cases (P := P) himpossible fun _ h => nomatch h
  | produce id => exact hfeed (sign?_produceIn w.directory.snapshot)
  | take id => exact hfeed sign?_takeFrom
  | cancelFeed id => exact hfeed fun _ => rfl
  | closeFeed id => exact hfeed fun _ => rfl
  | check name type targets => exact fun h => h

/-! ## Subscribers -/

/-- What the subscriber `id` can tell after a sign. -/
def Sign.account (id : String) (a : Option Account) : Sign → Option Account
  | subscribed i generation => if i = id then some ⟨generation, []⟩ else a
  | polled i answer => if i = id then a.map (·.hear (.polled answer)) else a
  | _ => a

theorem account_eq_elim (id : String) (a : Option Account) (e : Event) :
    Event.account id a e = e.sign?.elim a (Sign.account id a) := by
  have hdeaf {answer : Answer} (h : ∀ s, answer ≠ .polled (.ready s)) :
      a.map (·.hear answer) = a := by
    cases a with
    | none => rfl
    | some a =>
      rw [Option.map_some]
      unfold Account.hear
      split
      · exact absurd rfl (h _)
      · rfl
  unfold Event.account Event.sign? Deed.sign?
  generalize e.answer = answer
  cases e.deed with
  | subscribe i => cases answer <;> by_cases hi : i = id <;> simp [hi, Sign.account]
  | next i =>
    cases answer with
    | polled answer => rfl
    | _ => by_cases hi : i = id <;> simp [hi, hdeaf]
  | whenReady i =>
    cases answer with
    | polled answer => rfl
    | _ => by_cases hi : i = id <;> simp [hi, hdeaf]
  | _ => cases answer <;> rfl

/-- What a subscriber can tell is known from what was noticed. -/
theorem account_eq_foldl (id : String) (events : List Event) :
    account id events = (signs events).foldl (Sign.account id) none := by
  unfold account signs
  generalize (none : Option Account) = a
  induction events generalizing a with
  | nil => rfl
  | cons e events ih =>
    rw [List.foldl_cons, ih, account_eq_elim, List.filterMap_cons]
    cases e.sign? with
    | none => rfl
    | some s => rfl

/-! ## Readers of feeds -/

/-- What the reader of a feed was promised, and what it got since. -/
structure Receipt where
  filters : Filters
  got : List Change

/-- What the reader of the feed `id` has after a sign. -/
def Sign.receipt (id : String) (r : Option Receipt) : Sign → Option Receipt
  | opened i filters => if i = id then some ⟨filters, []⟩ else r
  | brought i c => if i = id then r.map fun p => { p with got := p.got ++ [c] } else r
  | _ => r

def receipt (id : String) (signs : List Sign) : Option Receipt := signs.foldl (Sign.receipt id) none

theorem sign?_ne_opened (answer : Answer) {filters : Filters} :
    answer.sign? ≠ some (.opened id filters) := by
  cases answer <;> exact nofun

theorem opens_iff {e : Event} {filters : Filters} :
    e.Opens id filters ↔ e.sign? = some (.opened id filters) := by
  unfold Event.sign? Deed.sign?
  constructor
  · rintro ⟨hm, ha⟩
    rw [hm, ha]
  · intro h
    split at h
    all_goals first
      | exact nomatch sign?_ne_opened _ h
      | cases h
    exact ⟨‹_›, ‹_›⟩

/-- The change that a sign brings to the reader of the feed `id`. -/
def Sign.brings? (id : String) : Sign → Option Change
  | brought i c => if i = id then some c else none
  | _ => none

theorem received?_eq_bind (id : String) (e : Event) :
    e.received? id = e.sign?.bind (Sign.brings? id) := by
  unfold Event.received? Event.heard? Event.sign? Deed.sign?
  generalize e.answer = answer
  cases e.deed with
  | take i => cases answer <;> by_cases hi : i = id <;> simp [hi, Answer.change?, Sign.brings?]
  | _ => cases answer <;> rfl

theorem received_eq_filterMap (id : String) (events : List Event) :
    received id events = (signs events).filterMap (Sign.brings? id) := by
  unfold received signs
  rw [List.filterMap_filterMap]
  exact List.filterMap_congr fun e _ => received?_eq_bind id e

/-- A receipt is renewed when a feed is opened, and otherwise grows by what is received. -/
theorem receipt_eq_of_event (id : String) (r : Option Receipt) (e : Event) :
    (∃ filters, e.Opens id filters ∧ e.sign?.elim r (Sign.receipt id r) = some ⟨filters, []⟩) ∨
      (∀ filters, ¬e.Opens id filters) ∧ e.sign?.elim r (Sign.receipt id r) =
        r.map fun p => { p with got := p.got ++ (e.received? id).toList } := by
  have hsame : r = r.map fun p => { p with got := p.got ++ [] } := by
    cases r <;> simp
  simp only [opens_iff]
  rw [received?_eq_bind]
  cases hs : e.sign? with
  | none => exact .inr ⟨nofun, hsame⟩
  | some s =>
    cases s with
    | opened i filters =>
      by_cases hi : i = id
      · subst hi
        exact .inl ⟨filters, rfl, if_pos rfl⟩
      · refine .inr ⟨fun g hg => hi ?_, ?_⟩
        · exact (Sign.opened.inj (Option.some.inj hg)).1
        · exact (if_neg hi).trans hsame
    | brought i c =>
      refine .inr ⟨nofun, ?_⟩
      by_cases hi : i = id <;> simp [Sign.receipt, Sign.brings?, hi]
    | _ => exact .inr ⟨nofun, hsame⟩

theorem foldl_signs_concat {α : Type} (notice : α → Sign → α) (start : α) (w : Course)
    (deeds : List Deed) (m : Deed) :
    (signs (w.history (deeds ++ [m]))).foldl notice start =
      (Event.mk (w.run deeds) m).sign?.elim ((signs (w.history deeds)).foldl notice start)
        (notice ((signs (w.history deeds)).foldl notice start)) := by
  unfold signs
  rw [history_append, List.filterMap_append, List.foldl_append]
  change List.foldl notice _ ([Event.mk (w.run deeds) m].filterMap Event.sign?) = _
  rw [List.filterMap_cons, List.filterMap_nil]
  cases (Event.mk (w.run deeds) m).sign? with
  | none => rfl
  | some s => rfl

/-- A receipt tells of a feed that was opened and in whose place no other was opened since, and of
all that was received of it. -/
theorem exists_opening {deeds : List Deed} {p : Receipt}
    (h : receipt id (signs (w.history deeds)) = some p) :
    ∃ earlier m later, deeds = earlier ++ m :: later ∧
      (Event.mk (w.run earlier) m).Opens id p.filters ∧
      (∀ e ∈ ((w.run earlier).act m).2.history later, ∀ filters, ¬e.Opens id filters) ∧
      p.got = received id (((w.run earlier).act m).2.history later) := by
  induction deeds using List.reverseRecOn generalizing p with
  | nil => exact nomatch h
  | append_singleton deeds m ih =>
    unfold receipt at h ih
    rw [foldl_signs_concat] at h
    rcases receipt_eq_of_event id _ (Event.mk (w.run deeds) m) with
      ⟨filters, hopens, he⟩ | ⟨hspares, he⟩
    · obtain rfl := Option.some.inj (he.symm.trans h)
      exact ⟨deeds, m, [], rfl, hopens, List.forall_mem_nil _, rfl⟩
    · rw [he] at h
      obtain ⟨q, hq, rfl⟩ := Option.map_eq_some_iff.mp h
      obtain ⟨earlier, n, later, hdeeds, hopens, hlater, hgot⟩ := ih hq
      have hrun : w.run deeds = ((w.run earlier).act n).2.run later := by
        rw [hdeeds]
        exact List.foldl_append
      have hhistory : ((w.run earlier).act n).2.history (later ++ [m]) =
          ((w.run earlier).act n).2.history later ++ [⟨w.run deeds, m⟩] := by
        rw [history_append, ← hrun]
        rfl
      refine ⟨earlier, n, later ++ [m], ?_, hopens, ?_, ?_⟩
      · rw [hdeeds, List.append_assoc, List.cons_append]
      · rw [hhistory]
        exact List.forall_mem_append.mpr ⟨hlater, List.forall_mem_singleton.mpr hspares⟩
      · unfold received at hgot ⊢
        rw [hhistory, List.filterMap_append, ← hgot, List.filterMap_cons, List.filterMap_nil]
        cases (Event.mk (w.run deeds) m).received? id <;> rfl

end Course

end Namebook
