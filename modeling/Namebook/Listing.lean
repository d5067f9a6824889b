import Namebook.Filter

/-!
The names of many record sets as one list: every sighting of a name is put into the record of its
key, and the records are sorted. The first sighting of a key gives its data, and each one its
group.
-/

namespace Namebook

/-- The group of what no rule and no producer gives a group. -/
def fallbackGroup : String := "Services"

/-- An entry together with the set and the group that it is in. -/
structure Sighting where
  space : Option String
  portal : String
  group : String
  entry : RecordSet.Entry

namespace Sighting

def name (x : Sighting) : String := Text.normalizeName x.entry.name

def type (x : Sighting) : String := Text.normalizeType x.entry.type

def key (x : Sighting) : String := Record.keyOf x.name x.type

/-- An origin that is no reference is dropped. -/
def origin (x : Sighting) : Option Reference := x.entry.origin.bind Reference.parse?

/-- A moment that cannot be read counts as the start of 1970. -/
def seen (x : Sighting) : Time.Instant :=
  (x.entry.seen.bind Time.Instant.parse?).getD Time.Instant.epoch

/-- The record of a name that was sighted once. -/
def record (x : Sighting) : Record :=
  Record.named x.entry.name x.entry.provenance x.seen
    |>.withType x.entry.type
    |>.withTargets x.entry.targets
    |>.withDescription x.entry.description
    |>.withGroups [x.group]
    |>.withStatus x.entry.status
    |>.withOrigin x.origin

end Sighting

/-- The name that a group is shown under. -/
def RecordSet.Group.shown (g : RecordSet.Group) : String :=
  (Text.nonBlank? g.name).getD fallbackGroup

/-- The sightings of one set; blank names are none. -/
def RecordSet.sightings (s : RecordSet) : List Sighting :=
  (s.groups.flatMap fun g => g.entries.map fun e => ⟨s.space, s.portal, g.shown, e⟩).filter
    fun x => !x.name.isEmpty

def Filters.admits (f : Filters) (x : Sighting) : Bool := f.admitsEntry x.name x.entry.provenance

/-- The sightings that the filters let through, in the order of the sets. -/
def sightings (f : Filters) (sets : List RecordSet) : List Sighting :=
  (sets.filter f.selector.matches).flatMap fun s => s.sightings.filter f.admits

/-- Puts a sighting into the record of its key, or starts that record. -/
def absorb (x : Sighting) : List Record → List Record
  | [] => [x.record]
  | r :: rs => if r.key = x.key then r.inGroup x.group :: rs else r :: absorb x rs

def gather (xs : List Sighting) : List Record := xs.foldl (fun rs x => absorb x rs) []

/-- One record for each key, by name and then type. -/
def listing (f : Filters) (sets : List RecordSet) : List Record :=
  (gather (sightings f sets)).mergeSort Record.le

end Namebook
