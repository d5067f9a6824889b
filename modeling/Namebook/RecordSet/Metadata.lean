import Namebook.Json.Shape
import Namebook.Time.Extended

/-!
What the cluster keeps about every object. Only name and namespace matter for the names of a set;
the rest is carried along.
-/

namespace Namebook.RecordSet

structure Owner where
  apiVersion : String
  blocksDeletion : Option Bool
  isController : Option Bool
  kind : String
  name : String
  uid : String

/-- A manager of some of the fields of an object. -/
structure Manager where
  apiVersion : Option String
  fieldsType : Option String
  fields : Option Json
  name : Option String
  operation : Option String
  subresource : Option String
  time : Option Time.Instant

structure Metadata where
  annotations : Option (List (String × String)) := none
  created : Option Time.Instant := none
  deletionGraceSeconds : Option Int64 := none
  deleted : Option Time.Instant := none
  finalizers : Option (List String) := none
  generateName : Option String := none
  generation : Option Int64 := none
  labels : Option (List (String × String)) := none
  managers : Option (List Manager) := none
  name : Option String := none
  space : Option String := none
  owners : Option (List Owner) := none
  resourceVersion : Option String := none
  selfLink : Option String := none
  uid : Option String := none

/-! Reading. Fields of an object may be repeated, and any of them may be null. -/

open Json Json.Shape

def instant : Json.Shape Time.Instant := fun v => do
  let s ← text v
  required (Time.Extended.parse? s)

def long : Json.Shape Int64 := fun v => return Int64.ofInt (← int64 v)

/-- A field that may be null. -/
def maybe {σ α : Type} (name : String) (shape : Json.Shape α) (put : Option α → σ → σ) :
    Member σ where
  name
  trailing := true
  read v draft := return put (← optional shape v) draft

def Owner.blank : Owner := ⟨"", none, none, "", "", ""⟩

/-- Absent texts are empty. -/
def Owner.shape : Json.Shape Owner := openMembers [
    maybe "apiVersion" text fun x o => { o with apiVersion := x.getD "" },
    maybe "blockOwnerDeletion" bool fun x o => { o with blocksDeletion := x },
    maybe "controller" bool fun x o => { o with isController := x },
    maybe "kind" text fun x o => { o with kind := x.getD "" },
    maybe "name" text fun x o => { o with name := x.getD "" },
    maybe "uid" text fun x o => { o with uid := x.getD "" }] Owner.blank

def Manager.blank : Manager := ⟨none, none, none, none, none, none, none⟩

/-- `deepest` is how deep the fields may nest. -/
def Manager.shape (deepest : Option Nat) : Json.Shape Manager := openMembers [
    maybe "apiVersion" text fun x m => { m with apiVersion := x },
    maybe "fieldsType" text fun x m => { m with fieldsType := x },
    maybe "fieldsV1" (anything deepest) fun x m => { m with fields := x },
    maybe "manager" text fun x m => { m with name := x },
    maybe "operation" text fun x m => { m with operation := x },
    maybe "subresource" text fun x m => { m with subresource := x },
    maybe "time" instant fun x m => { m with time := x }] Manager.blank

def Metadata.shape (deepest : Option Nat) : Json.Shape Metadata := openMembers [
    maybe "annotations" (map text) fun x m => { m with annotations := x },
    maybe "creationTimestamp" instant fun x m => { m with created := x },
    maybe "deletionGracePeriodSeconds" long fun x m => { m with deletionGraceSeconds := x },
    maybe "deletionTimestamp" instant fun x m => { m with deleted := x },
    maybe "finalizers" (list text) fun x m => { m with finalizers := x },
    maybe "generateName" text fun x m => { m with generateName := x },
    maybe "generation" long fun x m => { m with generation := x },
    maybe "labels" (map text) fun x m => { m with labels := x },
    maybe "managedFields" (list (Manager.shape deepest)) fun x m => { m with managers := x },
    maybe "name" text fun x m => { m with name := x },
    maybe "namespace" text fun x m => { m with space := x },
    maybe "ownerReferences" (list Owner.shape) fun x m => { m with owners := x },
    maybe "resourceVersion" text fun x m => { m with resourceVersion := x },
    maybe "selfLink" text fun x m => { m with selfLink := x },
    maybe "uid" text fun x m => { m with uid := x }] {}

/-! Writing. Absent fields are left out, and moments have no fraction of a second. -/

def instantJson (t : Time.Instant) : Json := .text (Time.Extended.render t)

def pairsJson (pairs : List (String × String)) : Json :=
  .record (pairs.map fun (key, value) => (key, .text value))

def longJson (n : Int64) : Json := .int n.toInt

def Owner.toJson (o : Owner) : Json :=
  .given [
    ("apiVersion", some (.text o.apiVersion)),
    ("blockOwnerDeletion", o.blocksDeletion.map .bool),
    ("controller", o.isController.map .bool),
    ("kind", some (.text o.kind)),
    ("name", some (.text o.name)),
    ("uid", some (.text o.uid))]

def Manager.toJson (m : Manager) : Json :=
  .given [
    ("apiVersion", m.apiVersion.map .text),
    ("fieldsType", m.fieldsType.map .text),
    ("fieldsV1", m.fields),
    ("manager", m.name.map .text),
    ("operation", m.operation.map .text),
    ("subresource", m.subresource.map .text),
    ("time", m.time.map instantJson)]

def Metadata.toJson (m : Metadata) : Json :=
  .given [
    ("annotations", m.annotations.map pairsJson),
    ("creationTimestamp", m.created.map instantJson),
    ("deletionGracePeriodSeconds", m.deletionGraceSeconds.map longJson),
    ("deletionTimestamp", m.deleted.map instantJson),
    ("finalizers", m.finalizers.map .texts),
    ("generateName", m.generateName.map .text),
    ("generation", m.generation.map longJson),
    ("labels", m.labels.map pairsJson),
    ("managedFields", m.managers.map fun ms => .list (ms.map Manager.toJson)),
    ("name", m.name.map .text),
    ("namespace", m.space.map .text),
    ("ownerReferences", m.owners.map fun os => .list (os.map Owner.toJson)),
    ("resourceVersion", m.resourceVersion.map .text),
    ("selfLink", m.selfLink.map .text),
    ("uid", m.uid.map .text)]

end Namebook.RecordSet
