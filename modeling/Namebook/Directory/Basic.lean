import Namebook.Catalogue
import Namebook.Check
import Namebook.Feed
import Namebook.Grouping
import Namebook.RefreshLoop
import Namebook.Store
import Namebook.Subscription

/-!
The whole service: a store, the snapshot made from it, loops that refresh the snapshot, and those
who follow it. Time is a number of milliseconds that only grows.
-/

namespace Namebook

structure Directory where
  now : Nat := 0
  grouping : Grouping := {}
  resolver : Dns.Resolver
  /-- How many changes the queue of a feed holds. -/
  streamBuffer : Nat
  store : Store := {}
  snapshot : Snapshot := Snapshot.empty
  metrics : Metrics := {}
  loops : List RefreshLoop := []
  feeds : List (String × Feed) := []
  subscriptions : List (String × Subscription) := []
  /-- Whether the snapshots are held from outside, and not by feeds and loops alone. -/
  isHeld : Bool := true
  /-- Whether the service was told to end. -/
  isStopping : Bool := false

namespace Directory

def instant (d : Directory) : Time.Instant := Time.Instant.ofMillis d.now

def note (d : Directory) (h : Happening) : Directory := { d with metrics := d.metrics.note h }

def noteAll (d : Directory) (hs : List Happening) : Directory :=
  { d with metrics := d.metrics.noteAll hs }

/-- Publishes sets as the next snapshot. -/
def commit (d : Directory) (sets : List RecordSet) : Directory :=
  { d with snapshot := d.snapshot.commit d.instant sets }

/-- The end of a call to the store that was to refresh the snapshot: its generation, or why there
is none. After a failure the snapshot stays. -/
def concludeRefresh (d : Directory) (millis : Nat) : Except StoreFailure Nat × Directory :=
  match d.store.all with
  | .error failure => (.error failure, d.note (.refreshFailed millis))
  | .ok sets =>
    let d := d.commit sets
    let generation := d.snapshot.generation
    (.ok generation, d.note (.refreshed millis d.snapshot.records.length generation))

/-- Lets every feed go on until it waits. -/
def settleFeeds (d : Directory) : Directory :=
  let settled := d.feeds.map fun (id, f) => (id, f.settle d.snapshot)
  { d with
    feeds := settled.map fun (id, f, _) => (id, f)
    metrics := d.metrics.noteAll (settled.flatMap fun (_, _, noted) => noted) }

end Directory

end Namebook
