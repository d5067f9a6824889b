import Namebook.Decimal.Shortest
import Namebook.Metrics.Basic

/-!
The metrics as text: families sorted by name, each with its help, its kind and a line for each
series. Numbers are written as floating-point numbers of 64 bits.
-/

namespace Namebook.Metrics

inductive FamilyKind where
  | counter
  | gauge
  | histogram

def FamilyKind.word : FamilyKind → String
  | counter => "counter"
  | gauge => "gauge"
  | histogram => "histogram"

/-- One line: `suffix` follows the name of the family. -/
structure Sample where
  suffix : String := ""
  labels : List (String × String) := []
  value : String

structure Family where
  name : String
  help : String
  kind : FamilyKind
  samples : List Sample

def natFloat (n : Nat) : Float := n.toUInt64.toFloat

def natText (n : Nat) : String := Decimal.ofFloat (natFloat n)

def intText (n : Int) : String :=
  Decimal.ofFloat (if 0 ≤ n then natFloat n.toNat else -natFloat n.natAbs)

def millisFloat (millis : Nat) : Float :=
  natFloat (millis / 1000) + natFloat (millis % 1000 * 1000000) / 1000000000.0

/-- The sum of durations, newest first; the oldest is the first to be added. -/
def sumText (millis : List Nat) : String :=
  Decimal.ofFloat (millis.foldr (fun ms sum => sum + millisFloat ms) 0.0)

/-- The upper bounds of the buckets, in milliseconds. -/
def bucketBounds : List Nat := [10, 50, 100, 500, 1000, 2000, 5000, 10000, 30000]

def bucketSamples (label : String × String) (millis : List Nat) : List Sample :=
  let bucket := fun (bound : String) (count : Nat) =>
    { suffix := "_bucket", labels := [label, ("le", bound)], value := natText count : Sample }
  bucketBounds.map (fun bound =>
      bucket (Decimal.ofFloat (millisFloat bound)) (millis.countP (· ≤ bound))) ++
    [bucket "+Inf" millis.length,
      { suffix := "_sum", labels := [label], value := sumText millis },
      { suffix := "_count", labels := [label], value := natText millis.length }]

def counted (label : String) (table : List (String × Nat)) : List Sample :=
  table.map fun (value, n) => { labels := [(label, value)], value := natText n }

def single (value : String) : List Sample := [{ value }]

def families (m : Metrics) : List Family := [
  ⟨"list_requests_total", "Total number of FQDN list requests by consistency", .counter,
    counted "consistency" m.lists⟩,
  ⟨"refresh_duration_seconds", "Duration of snapshot refreshes in seconds by status", .histogram,
    m.refreshes.flatMap fun (status, millis) => bucketSamples ("status", status) millis⟩,
  ⟨"refreshes_total", "Total number of snapshot refreshes by status", .counter,
    counted "status" (m.refreshes.map fun (status, millis) => (status, millis.length))⟩,
  ⟨"snapshot_generation", "Generation of the current snapshot", .gauge,
    single (natText m.generation)⟩,
  ⟨"snapshot_records", "Number of FQDN records in the current snapshot", .gauge,
    single (natText m.records)⟩,
  ⟨"stream_events_total", "Total number of FQDN stream events by type", .counter,
    counted "event_type" m.streamEvents⟩,
  ⟨"streams_active", "Number of currently open FQDN stream subscribers", .gauge,
    single (intText m.streams)⟩,
  ⟨"sync_checks_total", "Total number of DNS sync checks by status", .counter,
    counted "status" m.checks⟩]

/-- What the names of all families begin with. -/
def namePrefix : String := "dnsportal_firestoned_io_"

def escapeLabel (c : Char) : List Char :=
  if c = '\\' then ['\\', '\\']
  else if c = '\n' then ['\\', 'n']
  else if c = '"' then ['\\', '"']
  else [c]

def labelText (label : String × String) : String :=
  label.1 ++ "=\"" ++ String.ofList (label.2.toList.flatMap escapeLabel) ++ "\""

/-- The name of a series, with its labels. -/
def seriesText (name : String) (s : Sample) : String :=
  namePrefix ++ name ++ s.suffix ++
    if s.labels.isEmpty then ""
    else "\x7b" ++ ",".intercalate (s.labels.map labelText) ++ "\x7d"

/-- A family without a series is left out. -/
def Family.render (f : Family) : String :=
  if f.samples.isEmpty then ""
  else
    "# HELP " ++ namePrefix ++ f.name ++ " " ++ f.help ++ "\n" ++
      "# TYPE " ++ namePrefix ++ f.name ++ " " ++ f.kind.word ++ "\n" ++
      String.join (f.samples.map fun s => seriesText f.name s ++ " " ++ s.value ++ "\n")

def render (m : Metrics) : String := String.join (m.families.map Family.render)

/-- Every series with its value. -/
def series (m : Metrics) : List (String × String) :=
  m.families.flatMap fun f => f.samples.map fun s => (seriesText f.name s, s.value)

end Namebook.Metrics
