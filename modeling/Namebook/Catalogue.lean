import Namebook.Record

/-!
One record for each name, put together from records of several origins. Where a name is both
manual and discovered, the manual record counts and keeps what was discovered in DNS.
-/

namespace Namebook

/-- In the order of first arrival. -/
structure Catalogue where
  records : List Record
  deriving Repr

namespace Catalogue

def empty : Catalogue := ⟨[]⟩

/-- What two records of one name become. A manual record takes the place of a discovered one, and
takes over its targets and type; otherwise the older record stays and is seen as late as either. -/
def merge (existing incoming : Record) : Record :=
  if incoming.provenance = .manual ∧ existing.provenance = .discovered then
    (incoming.withTargets existing.targets).withType existing.type
  else existing.withSeen (Time.Instant.latest existing.seen incoming.seen)

def addTo (incoming : Record) : List Record → List Record
  | [] => [incoming]
  | r :: rs =>
    if r.name = incoming.name then merge r incoming :: rs else r :: addTo incoming rs

def add (c : Catalogue) (r : Record) : Catalogue := ⟨addTo r c.records⟩

def ofList (records : List Record) : Catalogue := records.foldl add empty

/-- The record stored under a normalized name. -/
def find? (c : Catalogue) (name : String) : Option Record := c.records.find? fun r => r.name == name

/-- The record of a name, however it is written. -/
def get? (c : Catalogue) (name : String) : Option Record := c.find? (Text.normalizeName name)

def size (c : Catalogue) : Nat := c.records.length

def isEmpty (c : Catalogue) : Bool := c.records.isEmpty

def nameLe (a b : Record) : Bool := !(b.name < a.name)

/-- By name. -/
def sorted (records : List Record) : List Record := records.mergeSort nameLe

def all (c : Catalogue) : List Record := sorted c.records

def ofProvenance (c : Catalogue) (p : Provenance) : List Record :=
  sorted (c.records.filter fun r => r.provenance == p)

/-- Manual before discovered; a provenance without records is absent. -/
def byProvenance (c : Catalogue) : List (Provenance × List Record) :=
  ([.manual, .discovered].map fun p => (p, c.ofProvenance p)).filter fun (_, rs) => !rs.isEmpty

end Catalogue

end Namebook
