import Namebook.Directory.Time
import Namebook.Page

/-!
What a directory answers. Lists come from the store as it is; when it fails they come from the last
snapshot, if there is one.
-/

namespace Namebook

/-- Why a request gets no answer. -/
inductive Refusal where
  /-- The store failed before there was a snapshot. -/
  | notReady (failure : StoreFailure)
  | notAReference (e : NotAReference)
  | unknownSource (raw : String)
  deriving DecidableEq, Repr

def Refusal.message : Refusal → String
  | notReady failure => "DNS records are not available yet: " ++ failure.message
  | notAReference e => e.message
  | unknownSource raw =>
    "Unknown FQDN source '" ++ raw ++ "': expected 'manual' or 'discovered'"

/-- Counts over a snapshot. -/
structure Summary where
  ready : Bool
  generation : Nat
  refreshed : Option Time.Instant
  totalRecords : Nat
  totalNames : Nat
  /-- How many names there are of each provenance; one without names is absent. -/
  bySource : List (Provenance × Nat)

/-- A name that is both manual and discovered counts as manual. -/
def Snapshot.summary (s : Snapshot) : Summary :=
  let names := Catalogue.ofList s.records
  { ready := s.isReady
    generation := s.generation
    refreshed := s.refreshed
    totalRecords := s.records.length
    totalNames := names.size
    bySource := names.byProvenance.map fun (p, rs) => (p, rs.length) }

def Summary.toJson (s : Summary) : Json :=
  .given [
    ("ready", some (.bool s.ready)),
    ("generation", some (.int s.generation)),
    ("refreshedAt", s.refreshed.map fun t => .text t.render),
    ("totalRecords", some (.int s.totalRecords)),
    ("totalNames", some (.int s.totalNames)),
    ("bySource", some (.record (s.bySource.map fun (p, n) => (p.word, .int n))))]

namespace Directory

/-- The list that a call to the store gives when it ends now. -/
def concludeList (d : Directory) (filters : Filters) :
    Except Refusal (List Record) × Directory :=
  match d.store.matching filters.selector with
  | .ok sets => (.ok (listing filters sets), d.note (.listed Metrics.live))
  | .error failure =>
    if d.snapshot.isReady then
      (.ok (listing filters d.snapshot.sets), d.note (.listed Metrics.cached))
    else (.error (.notReady failure), d)

def list (d : Directory) (filters : Filters) (size : Nat) (token : String) :
    Except Refusal Page × Directory :=
  let (records, e) := d.awaitStore.concludeList filters
  (records.map fun all => Page.of all size token, e.settle)

def resolveGroups (d : Directory) (labels : Option Grouping.Labels) (space : String) :
    List String :=
  d.grouping.resolve labels space

def parseReference (raw : String) : Except Refusal Reference :=
  (Reference.parse raw).mapError Refusal.notAReference

/-- Checks a name against live DNS. -/
def checkName (d : Directory) (name type : String) (targets : List String) :
    CheckResult × Directory :=
  let result := check d.resolver name type targets
  (result, d.note (.checked result.status.word))

end Directory

end Namebook
