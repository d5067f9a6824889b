import Namebook.Directory.Time

/-!
Those who follow a directory: feeds, which bring the changes of a view, and subscriptions, which
are asked whether there is a new snapshot. Each is known by a text of its own.
-/

namespace Namebook.Directory

/-- Whether anybody still holds the snapshots, so that more of them may come. -/
def isAlive (d : Directory) : Bool :=
  d.isHeld || d.feeds.any (fun (_, f) => !f.isFinished) || d.loops.any fun l => !l.isOver

/-- Nobody but feeds and loops holds the snapshots any more. -/
def release (d : Directory) : Directory := { d with isHeld := false }

/-! Feeds. -/

def putFeed (d : Directory) (id : String) (f : Feed) : Directory :=
  { d with feeds := Table.insert id f d.feeds }

/-- The feed that a subscriber may read. -/
def feed? (d : Directory) (id : String) : Option Feed :=
  (d.feeds.lookup id).filter Feed.receiving

/-- The subscriber of a feed goes away. The answer says whether there was one. -/
def closeFeed (d : Directory) (id : String) : Bool × Directory :=
  match d.feed? id with
  | none => (false, d)
  | some f => (true, (d.putFeed id f.leave).settle)

/-- A feed in the place of an older one of that text, which has not begun to produce yet. -/
def addFeed (d : Directory) (id : String) (filters : Filters) : Directory :=
  let d := (d.closeFeed id).2
  let f := Feed.start filters d.streamBuffer
  (d.putFeed id (if d.isStopping then f.cancel else f)).note .streamOpened

/-- Opens a feed. It gives nothing while the service is ending. -/
def openFeed (d : Directory) (id : String) (filters : Filters) : Directory :=
  (d.addFeed id filters).settle

/-- Opens a feed that its subscriber leaves before anything is produced. -/
def touchFeed (d : Directory) (id : String) (filters : Filters) : Directory :=
  ((d.addFeed id filters).closeFeed id).2

/-- What is in the queue of a cancelled feed may still be read. -/
def cancelFeed (d : Directory) (id : String) : Directory :=
  match d.feeds.lookup id with
  | none => d
  | some f => (d.putFeed id f.cancel).settle

/-- Changes that were read from a feed, and whether its end was seen after them. -/
structure FeedReading where
  changes : List Change
  ended : Bool

/-- Reads until nothing is ready, or until there are as many changes as were asked for. -/
def readFeed (d : Directory) (id : String) (most : Option Nat) :
    Option FeedReading × Directory :=
  match d.feed? id with
  | none => (none, d)
  | some f =>
    let r := f.read d.snapshot (most.getD (f.outstanding d.snapshot).length)
    let isFull := most.any (· ≤ r.changes.length)
    (some ⟨r.changes, !isFull && r.feed.isOver⟩,
      ((d.putFeed id r.feed).noteAll r.happenings).settle)

/-! Subscriptions. -/

def subscribe (d : Directory) (id : String) : Directory :=
  { d with subscriptions := Table.insert id (Subscription.start d.snapshot) d.subscriptions }

/-- Asks a subscription, which may then remember something else. -/
def poll (d : Directory) (id : String)
    (ask : Subscription → Snapshot → Bool → Poll Snapshot × Subscription) :
    Option (Poll Snapshot) × Directory :=
  match d.subscriptions.lookup id with
  | none => (none, d)
  | some s =>
    let (answer, s) := ask s d.snapshot d.isAlive
    (some answer, { d with subscriptions := Table.insert id s d.subscriptions })

def next (d : Directory) (id : String) : Option (Poll Snapshot) × Directory :=
  d.poll id Subscription.next

def whenReady (d : Directory) (id : String) : Option (Poll Snapshot) × Directory :=
  d.poll id Subscription.whenReady

end Namebook.Directory
