import Namebook.RecordSet.Basic
import Namebook.Text.Split

/-!
Which names are asked for. Every filter that is given has to hold.
-/

namespace Namebook

/-- Narrows the record sets that are read at all. -/
structure Selector where
  space : Option String := none
  portal : Option String := none
  deriving DecidableEq, Repr

def Selector.matches (sel : Selector) (s : RecordSet) : Bool :=
  sel.space.all (fun space => s.space == some space) &&
    sel.portal.all fun portal => s.portal == portal

structure Filters where
  space : Option String := none
  portal : Option String := none
  provenance : Option Provenance := none
  /-- A part of the name. -/
  search : Option String := none
  deriving DecidableEq, Repr

namespace Filters

def unfiltered : Filters := {}

/-- Whether no filter is given; a blank search is a filter. -/
def isEmpty (f : Filters) : Bool :=
  f.space.isNone && f.portal.isNone && f.provenance.isNone && f.search.isNone

def selector (f : Filters) : Selector := ⟨f.space, f.portal⟩

/-- What names have to contain, once they are normalized. A blank search finds every name. -/
def needle? (f : Filters) : Option (List Char) :=
  (f.search.map fun s => (Text.normalizeName s).toList).filter fun needle => !needle.isEmpty

/-- Whether an entry passes whose normalized name is `name`. -/
def admitsEntry (f : Filters) (name : String) (provenance : Provenance) : Bool :=
  f.provenance.all (· == provenance) && f.needle?.all fun needle => Text.contains needle name.toList

end Filters

end Namebook
