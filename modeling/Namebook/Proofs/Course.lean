import Namebook.Directory.Followers
import Namebook.Directory.Service

/-!
# The course of a directory

A directory is used by many at once. Whatever is done to it, and whatever its loops and feeds do, is
a sequence of single deeds in any order. A call to the store takes two of them, its beginning and
its end, between which anything may happen; it can also be given up.
-/

namespace Namebook

namespace Course

/-- What the store is called for. -/
inductive Errand where
  | refresh
  | list (filters : Filters) (size : Nat) (token : String)

/-- A call to the store that has not ended. -/
structure Call where
  began : Nat
  errand : Errand

/-- Somebody is known by the text of the subscription or the feed, and calls and loops by their
places. -/
inductive Deed where
  /-- Milliseconds go by. -/
  | pass (millis : Nat)
  | changeStore (sets : List RecordSet) (failure : Option String) (latency : Nat)
  | commit (sets : List RecordSet)
  | call (errand : Errand)
  | finish (place : Nat)
  /-- Whoever made a call does not wait for its end. -/
  | giveUp (place : Nat)
  | startLoop (interval : Nat)
  /-- A loop does what is due. -/
  | tick (place : Nat)
  /-- Loops and feeds are cancelled. -/
  | shutdown
  /-- The snapshots are no longer held from outside. -/
  | release
  | subscribe (id : String)
  | next (id : String)
  | whenReady (id : String)
  | openFeed (id : String) (filters : Filters)
  /-- The producer of a feed takes a step. -/
  | produce (id : String)
  | take (id : String)
  | cancelFeed (id : String)
  | closeFeed (id : String)
  | check (name type : String) (targets : List String)

inductive Answer where
  /-- The deed is not possible now, and nothing happens. -/
  | impossible
  | done
  | published (generation : Nat)
  | refreshed (result : Except StoreFailure Nat)
  | listed (result : Except Refusal Page)
  | polled (answer : Poll Snapshot)
  | took (change : Change)
  /-- The end of a feed. -/
  | over
  | checked (result : CheckResult)

/-- The generation that is returned for a new snapshot. -/
def Answer.generation? : Answer → Option Nat
  | published generation => some generation
  | refreshed (.ok generation) => some generation
  | _ => none

end Course

structure Course where
  directory : Directory
  calls : List Course.Call

namespace Course

/-- A directory to which nothing was done. -/
def new (grouping : Grouping) (resolver : Dns.Resolver) (streamBuffer : Nat) : Course :=
  ⟨{ grouping, resolver, streamBuffer }, []⟩

/-- A deed that only changes the directory. -/
def does (w : Course) (d : Directory) : Answer × Course := (.done, { w with directory := d })

/-- What only somebody can do who holds the snapshots. -/
def holding (w : Course) (result : Answer × Course) : Answer × Course :=
  if w.directory.isHeld then result else (.impossible, w)

def finishCall (w : Course) (place : Nat) (c : Call) : Answer × Course :=
  let d := w.directory
  let calls := w.calls.eraseIdx place
  match c.errand with
  | .refresh =>
    let (result, d) := d.concludeRefresh (d.now - c.began)
    (.refreshed result, ⟨d, calls⟩)
  | .list filters size token =>
    let (records, d) := d.concludeList filters
    (.listed (records.map fun all => Page.of all size token), ⟨d, calls⟩)

/-- A call to the store ends, if there is one at this place. -/
def finish (w : Course) (place : Nat) : Answer × Course :=
  match w.calls[place]? with
  | none => (.impossible, w)
  | some c => w.finishCall place c

def giveUp (w : Course) (place : Nat) : Answer × Course :=
  if place < w.calls.length then (.done, { w with calls := w.calls.eraseIdx place })
  else (.impossible, w)

/-- The end of a scan shows how the refresh went, unless the loop was cancelled. -/
def tickLoop (w : Course) (place : Nat) (l : RefreshLoop) : Answer × Course :=
  let d := w.directory
  let answer := if l.cancelled then .done else match l.stage with
    | .scanning began _ => .refreshed (d.concludeRefresh (d.now - began)).1
    | _ => .done
  (answer, { w with
    directory := d.loopStep (d.loops.take place) l (d.loops.drop (place + 1)) })

/-- A loop does what is due, if there is one at this place that has something to do. -/
def tick (w : Course) (place : Nat) : Answer × Course :=
  match w.directory.loops[place]? with
  | none => (.impossible, w)
  | some l =>
    if l.wake?.any (· ≤ w.directory.now) then w.tickLoop place l else (.impossible, w)

/-- The snapshots are let go. A call that goes on holds them, too. -/
def release (w : Course) : Answer × Course :=
  if w.calls.isEmpty then w.does w.directory.release else (.impossible, w)

/-- Puts a question to a subscription. -/
def ask (w : Course) (result : Option (Poll Snapshot) × Directory) : Answer × Course :=
  match result with
  | (none, _) => (.impossible, w)
  | (some answer, d) => (.polled answer, { w with directory := d })

/-- What happens in a feed, and what is counted of it. -/
def inFeed (w : Course) (id : String) (happens : Feed → Answer × Feed × List Happening) :
    Answer × Course :=
  match w.directory.feeds.lookup id with
  | none => (.impossible, w)
  | some f =>
    let (answer, f, noted) := happens f
    (answer, { w with directory := (w.directory.putFeed id f).noteAll noted })

def produceIn (current : Snapshot) (f : Feed) : Answer × Feed × List Happening :=
  match f.step? current with
  | none => (.impossible, f, [])
  | some (f, noted) => (.done, f, noted)

def takeFrom (f : Feed) : Answer × Feed × List Happening :=
  if f.receiving then
    match f.take? with
    | some (c, f) => (.took c, f, [])
    | none => (if f.isOver then .over else .impossible, f, [])
  else (.impossible, f, [])

/-- A text can name another feed once the one that it named has finished. -/
def openFeed (w : Course) (id : String) (filters : Filters) : Answer × Course :=
  let d := w.directory
  let f := Feed.start filters d.streamBuffer
  if (d.feeds.lookup id).all Feed.isFinished then
    w.does ((d.putFeed id (if d.isStopping then f.cancel else f)).note .streamOpened)
  else (.impossible, w)

/-- What is answered to a deed, and what comes of it. -/
def act (w : Course) (m : Deed) : Answer × Course :=
  let d := w.directory
  match m with
  | .pass millis => w.does { d with now := d.now + millis }
  | .changeStore sets failure latency =>
    w.does (((d.setStore sets).failStore failure).delayStore latency)
  | .commit sets =>
    let e := d.commit sets
    w.holding (.published e.snapshot.generation, { w with directory := e })
  | .call errand =>
    w.holding (.done, ⟨{ d with store := d.store.called }, w.calls ++ [⟨d.now, errand⟩]⟩)
  | .finish place => w.finish place
  | .giveUp place => w.giveUp place
  | .startLoop interval =>
    let l := RefreshLoop.start interval d.now
    w.holding (w.does { d with loops := d.loops ++ [if d.isStopping then l.cancel else l] })
  | .tick place => w.tick place
  | .shutdown =>
    w.does { d with
      isStopping := true
      loops := d.loops.map RefreshLoop.cancel
      feeds := d.feeds.map fun (id, f) => (id, f.cancel) }
  | .release => w.release
  | .subscribe id => w.holding (w.does (d.subscribe id))
  | .next id => w.ask (d.next id)
  | .whenReady id => w.ask (d.whenReady id)
  | .openFeed id filters => w.holding (w.openFeed id filters)
  | .produce id => w.inFeed id (produceIn d.snapshot)
  | .take id => w.inFeed id takeFrom
  | .cancelFeed id => w.inFeed id fun f => (.done, f.cancel, [])
  | .closeFeed id => w.inFeed id fun f => (.done, f.leave, [])
  | .check name type targets =>
    let (result, d) := d.checkName name type targets
    (.checked result, { w with directory := d })

def run (w : Course) (deeds : List Deed) : Course := deeds.foldl (fun w m => (w.act m).2) w

/-- A deed at its time. -/
structure Event where
  before : Course
  deed : Deed

namespace Event

def answer (e : Event) : Answer := (e.before.act e.deed).1

def after (e : Event) : Course := (e.before.act e.deed).2

def generation? (e : Event) : Option Nat := e.answer.generation?

/-- The sets that were published: those of a commit, or those of the store when a refresh
succeeded. -/
def published? (e : Event) : Option (List RecordSet) :=
  match e.deed, e.answer with
  | .commit sets, .published _ => some sets
  | _, .refreshed (.ok _) => some e.before.directory.store.sets
  | _, _ => none

end Event

def history (w : Course) : List Deed → List Event
  | [] => []
  | m :: deeds => ⟨w, m⟩ :: history (w.act m).2 deeds

/-- Time does not go by what the loop at this place has to do, as long as it is not cancelled. -/
def Event.isPrompt (place : Nat) (e : Event) : Bool :=
  match e.deed with
  | .pass millis =>
    e.before.directory.loops[place]?.all fun l =>
      l.cancelled || l.due?.all fun due => millis ≤ due - e.before.directory.now
  | _ => true

/-- The loop at this place does everything at its time, among whatever else is done. -/
def IsPrompt (w : Course) (place : Nat) (deeds : List Deed) : Prop :=
  ∀ e ∈ w.history deeds, e.isPrompt place = true

end Course

end Namebook
