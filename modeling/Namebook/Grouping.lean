import Namebook.Json.Shape
import Namebook.Listing

/-!
The groups of an object, from its labels and its namespace. The first rule that gives a group
decides, so there always is one.
-/

namespace Namebook

/-- `bySpace` maps namespaces to groups. -/
structure Grouping where
  defaultGroup : String := ""
  labelKey : Option String := none
  bySpace : List (String × String) := []
  deriving DecidableEq, Repr

namespace Grouping

abbrev Labels := List (String × String)

/-- The label in which an object lists its groups itself. -/
def groupsLabel : String := "dnsportal.firestoned.io/groups"

def nonEmpty? (s : String) : Option String := if s.isEmpty then none else some s

/-- The groups between commas that are not blank. -/
def listed (s : String) : List String :=
  (Text.pieces ',' s.toList).filterMap fun piece => Text.nonBlank? (String.ofList piece)

/-- The groups that an object lists itself. -/
def own (labels : Labels) : List String := ((labels.lookup groupsLabel).map listed).getD []

def byLabel? (g : Grouping) (labels : Labels) : Option String :=
  ((g.labelKey.bind nonEmpty?).bind fun key => labels.lookup key).bind nonEmpty?

def bySpace? (g : Grouping) (space : String) : Option String :=
  ((nonEmpty? space).bind fun space => g.bySpace.lookup space).bind nonEmpty?

/-- The group of an object that lists none: by label, namespace or default. -/
def assigned (g : Grouping) (labels : Labels) (space : String) : String :=
  ((g.byLabel? labels).or ((g.bySpace? space).or (nonEmpty? g.defaultGroup))).getD fallbackGroup

def resolve (g : Grouping) (labels : Option Labels) (space : String) : List String :=
  let labels := labels.getD []
  match own labels with
  | [] => [g.assigned labels space]
  | groups => groups

open Json Json.Shape

def shape : Json.Shape Grouping := members [
    ⟨"defaultGroup", true, fun v g => return { g with defaultGroup := ← text v }⟩,
    ⟨"labelKey", true, fun v g => return { g with labelKey := ← optional text v }⟩,
    ⟨"byNamespace", true, fun v g => return { g with bySpace := ← map text v }⟩] {}

def toJson (g : Grouping) : Json :=
  .record [
    ("defaultGroup", .text g.defaultGroup),
    ("labelKey", (g.labelKey.map .text).getD .null),
    ("byNamespace", .record (g.bySpace.map fun (space, group) => (space, .text group)))]

end Grouping

end Namebook
