import Namebook.Record
import Namebook.RecordSet.Metadata

/-!
A record set is the object in which a producer publishes names for one portal. Its status lists the
names in groups.
-/

namespace Namebook

namespace RecordSet

/-- One name as its producer reports it. -/
structure Entry where
  name : String
  type : String := ""
  targets : List String := []
  description : String := ""
  provenance : Provenance := .discovered
  status : SyncStatus := .notAvailable
  seen : Option String := none
  origin : Option String := none
  deriving DecidableEq, Repr

structure Group where
  name : String
  entries : List Entry := []
  deriving DecidableEq, Repr

structure Status where
  groups : List Group := []
  observedGeneration : Option Int64 := none
  updated : Option String := none
  deriving DecidableEq

structure Spec where
  portal : Option String := none
  deriving DecidableEq, Repr

end RecordSet

structure RecordSet where
  metadata : RecordSet.Metadata
  spec : RecordSet.Spec
  status : Option RecordSet.Status

namespace RecordSet

def space (s : RecordSet) : Option String := s.metadata.space

/-- The name of the set, or what its name is to start with. -/
def name (s : RecordSet) : String := (s.metadata.name.or s.metadata.generateName).getD ""

/-- A set without a portal of its own belongs to the portal of its name. -/
def portal (s : RecordSet) : String := (s.spec.portal.bind Text.nonBlank?).getD s.name

def groups (s : RecordSet) : List Group :=
  match s.status with
  | some status => status.groups
  | none => []

end RecordSet

end Namebook
