import Namebook.RecordSet.Basic

/-!
Record sets as JSON. Fields with a default may be left out but not be null, and what is absent is
not written.
-/

namespace Namebook.RecordSet

open Json Json.Shape

/-- A field with a default. -/
def defaulted {σ α : Type} (name : String) (shape : Json.Shape α) (put : α → σ → σ) : Member σ where
  name
  trailing := true
  read v draft := return put (← shape v) draft

/-- A field that has to be given. -/
def needed {σ α : Type} (name : String) (shape : Json.Shape α) (put : α → σ → σ) : Member σ where
  name
  trailing := false
  read v draft := return put (← shape v) draft

/-- An entry whose name may still be missing. -/
structure EntryDraft where
  name : Option String := none
  rest : Entry := { name := "" }

def Entry.shape : Json.Shape Entry := fun v => do
  let draft ← members [
    needed "fqdn" text fun x d => { d with name := some x },
    defaulted "recordType" text fun x d => { d with rest := { d.rest with type := x } },
    defaulted "targets" (list text) fun x d => { d with rest := { d.rest with targets := x } },
    defaulted "description" text fun x d => { d with rest := { d.rest with description := x } },
    defaulted "source" Provenance.shape fun x d =>
      { d with rest := { d.rest with provenance := x } },
    defaulted "syncStatus" SyncStatus.shape fun x d =>
      { d with rest := { d.rest with status := x } },
    maybe "lastSeen" text fun x d => { d with rest := { d.rest with seen := x } },
    maybe "resourceRef" text fun x d => { d with rest := { d.rest with origin := x } }]
    ({} : EntryDraft) v
  return { draft.rest with name := ← required draft.name }

structure GroupDraft where
  name : Option String := none
  entries : List Entry := []

def Group.shape : Json.Shape Group := fun v => do
  let draft ← members [
    needed "name" text fun x d => { d with name := some x },
    defaulted "fqdns" (list Entry.shape) fun x d => { d with entries := x }]
    ({} : GroupDraft) v
  return { name := ← required draft.name, entries := draft.entries }

def Status.shape : Json.Shape Status := members [
    defaulted "groups" (list Group.shape) fun x s => { s with groups := x },
    maybe "observedGeneration" long fun x s => { s with observedGeneration := x },
    maybe "lastUpdateTime" text fun x s => { s with updated := x }] {}

def Spec.shape : Json.Shape Spec := members [
    maybe "portalRef" text fun x s => { s with portal := x }] {}

structure Draft where
  metadata : Option Metadata := none
  spec : Option Spec := none
  status : Option Status := none

/-- The status may be null or missing; in a list of the fields it has to be there. `deepest` is how
deep the fields of a manager may nest. -/
def shapeWithin (deepest : Option Nat) : Json.Shape RecordSet := fun v => do
  let draft ← members [
    needed "metadata" (Metadata.shape deepest) fun x d => { d with metadata := some x },
    needed "spec" Spec.shape fun x d => { d with spec := some x },
    { maybe "status" Status.shape fun x (d : Draft) => { d with status := x } with
      trailing := false }]
    ({} : Draft) v
  return ⟨← required draft.metadata, ← required draft.spec, draft.status⟩

def shape : Json.Shape RecordSet := shapeWithin none

def Entry.toJson (e : Entry) : Json :=
  .given [
    ("fqdn", some (.text e.name)),
    ("recordType", some (.text e.type)),
    ("targets", some (.texts e.targets)),
    ("description", some (.text e.description)),
    ("source", some (.text e.provenance.word)),
    ("syncStatus", some (.text e.status.word)),
    ("lastSeen", e.seen.map .text),
    ("resourceRef", e.origin.map .text)]

def Group.toJson (g : Group) : Json :=
  .record [("name", .text g.name), ("fqdns", .list (g.entries.map Entry.toJson))]

def groupsJson (groups : List Group) : Json := .list (groups.map Group.toJson)

def Status.toJson (s : Status) : Json :=
  .given [
    ("groups", some (groupsJson s.groups)),
    ("observedGeneration", s.observedGeneration.map longJson),
    ("lastUpdateTime", s.updated.map .text)]

def Spec.toJson (s : Spec) : Json := .given [("portalRef", s.portal.map .text)]

/-- The group and version of the cluster's interface that record sets belong to. -/
def apiGroup : String := "dnsportal.firestoned.io"

def apiVersion : String := "v1alpha1"

def groupVersion : String := apiGroup ++ "/" ++ apiVersion

def kind : String := "DNSRecordSet"

def toJson (s : RecordSet) : Json :=
  .given [
    ("apiVersion", some (.text groupVersion)),
    ("kind", some (.text kind)),
    ("metadata", some s.metadata.toJson),
    ("spec", some s.spec.toJson),
    ("status", s.status.map Status.toJson)]

end Namebook.RecordSet
