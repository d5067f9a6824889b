import Namebook.Table

/-!
What the service counts about itself. Counts are exact numbers here; only their texts round.
-/

namespace Namebook

/-- What is worth counting. Durations are in milliseconds. -/
inductive Happening where
  | refreshed (millis records generation : Nat)
  | refreshFailed (millis : Nat)
  | streamOpened
  | streamClosed
  /-- An event was put into the queue of a stream. -/
  | streamEvent (kind : String)
  /-- A list was read, live or from the cache. -/
  | listed (consistency : String)
  | checked (status : String)
  deriving DecidableEq, Repr

/-- Counters are kept by label; for refreshes the label has their durations, newest first. -/
structure Metrics where
  refreshes : List (String × List Nat) := []
  records : Nat := 0
  generation : Nat := 0
  streams : Int := 0
  streamEvents : List (String × Nat) := []
  lists : List (String × Nat) := []
  checks : List (String × Nat) := []
  deriving DecidableEq, Repr

namespace Metrics

def success : String := "success"

def failure : String := "error"

def live : String := "live"

def cached : String := "cached"

/-- One more for a label. -/
def bump (label : String) (table : List (String × Nat)) : List (String × Nat) :=
  Table.change label 0 (· + 1) table

def observe (label : String) (millis : Nat) (table : List (String × List Nat)) :
    List (String × List Nat) :=
  Table.change label [] (millis :: ·) table

def note (m : Metrics) : Happening → Metrics
  | .refreshed millis records generation =>
    { m with refreshes := observe success millis m.refreshes, records, generation }
  | .refreshFailed millis => { m with refreshes := observe failure millis m.refreshes }
  | .streamOpened => { m with streams := m.streams + 1 }
  | .streamClosed => { m with streams := m.streams - 1 }
  | .streamEvent kind => { m with streamEvents := bump kind m.streamEvents }
  | .listed consistency => { m with lists := bump consistency m.lists }
  | .checked status => { m with checks := bump status m.checks }

def noteAll (m : Metrics) (happenings : List Happening) : Metrics := happenings.foldl note m

/-- The count of a label. -/
def countOf (label : String) (table : List (String × Nat)) : Nat := (table.lookup label).getD 0

end Metrics

end Namebook
