import Namebook.Reference
import Namebook.Text.Normal
import Namebook.Time.Instant

/-!
What is known of one DNS name: where it comes from, what it should resolve to, the groups that
show it, and whether live DNS agrees. Name and record type together identify a record.
-/

namespace Namebook

inductive Provenance where
  /-- Declared by a person. -/
  | manual
  /-- Found in the cluster. -/
  | discovered
  deriving DecidableEq, Repr

inductive SyncStatus where
  /-- The name resolves to its targets. -/
  | sync
  /-- The name resolves to something else. -/
  | notSync
  /-- The name does not resolve. -/
  | notAvailable
  deriving DecidableEq, Repr

namespace Provenance

def word : Provenance → String
  | manual => "manual"
  | discovered => "discovered"

def ofWord? (s : String) : Option Provenance :=
  [manual, discovered].find? fun p => p.word == s

/-- The spelling that decides which provenance a text names. -/
def spelling (s : String) : String := String.ofList (Text.asciiLower (Text.trimChars s.toList))

/-- A text that names no provenance is given back in the spelling that was looked at. -/
def parse (s : String) : Except String Provenance :=
  match ofWord? (spelling s) with
  | some p => .ok p
  | none => .error (spelling s)

def shape : Json.Shape Provenance := Json.Shape.word ofWord?

end Provenance

namespace SyncStatus

def word : SyncStatus → String
  | sync => "sync"
  | notSync => "notsync"
  | notAvailable => "notavailable"

def ofWord? (s : String) : Option SyncStatus :=
  [sync, notSync, notAvailable].find? fun p => p.word == s

def shape : Json.Shape SyncStatus := Json.Shape.word ofWord?

end SyncStatus

/-- An empty `type` stands for a name that only has to exist. -/
structure Record where
  name : String
  provenance : Provenance
  description : String
  type : String
  targets : List String
  groups : List String
  origin : Option Reference
  status : SyncStatus
  seen : Time.Instant
  deriving DecidableEq, Repr

namespace Record

/-- A record of the name without any data. -/
def named (name : String) (provenance : Provenance) (seen : Time.Instant) : Record where
  name := Text.normalizeName name
  provenance
  description := ""
  type := ""
  targets := []
  groups := []
  origin := none
  status := .notAvailable
  seen

def withType (type : String) (r : Record) : Record := { r with type := Text.normalizeType type }

def withTargets (targets : List String) (r : Record) : Record := { r with targets }

def withDescription (description : String) (r : Record) : Record := { r with description }

def withStatus (status : SyncStatus) (r : Record) : Record := { r with status }

def withSeen (seen : Time.Instant) (r : Record) : Record := { r with seen }

/-- The reference to nothing leaves no origin. -/
def withOrigin (origin : Option Reference) (r : Record) : Record :=
  { r with origin := origin.filter fun o => !o.isZero }

/-- Appends a group that the record is not in yet, and tells whether it did. -/
def addGroup (r : Record) (group : String) : Record × Bool :=
  if r.groups.contains group then (r, false)
  else ({ r with groups := r.groups ++ [group] }, true)

def inGroup (r : Record) (group : String) : Record := (r.addGroup group).1

/-- Repeated groups count once, at their first place. -/
def withGroups (groups : List String) (r : Record) : Record :=
  groups.foldl inGroup { r with groups := [] }

/-- Name and type as one text. -/
def keyOf (name type : String) : String := name ++ "/" ++ type

def key (r : Record) : String := keyOf r.name r.type

def sameRecord (a b : Record) : Bool := a.name == b.name && a.type == b.type

/-- Whether the records differ in nothing but the time of their observation. -/
def contentEq (a b : Record) : Bool :=
  a.name == b.name && a.provenance == b.provenance && a.description == b.description &&
    a.type == b.type && a.status == b.status && a.groups == b.groups && a.targets == b.targets &&
    a.origin == b.origin

/-- By name, then type. -/
def le (a b : Record) : Bool :=
  a.name < b.name || (a.name == b.name && !(b.type < a.type))

def toJson (r : Record) : Json :=
  .given [
    ("name", some (.text r.name)),
    ("source", some (.text r.provenance.word)),
    ("description", some (.text r.description)),
    ("recordType", some (.text r.type)),
    ("targets", some (.texts r.targets)),
    ("groups", some (.texts r.groups)),
    ("originResource", r.origin.map Reference.toJson),
    ("syncStatus", some (.text r.status.word)),
    ("lastSeen", some (.text r.seen.render))]

end Record

end Namebook
