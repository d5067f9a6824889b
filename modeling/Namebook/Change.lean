import Namebook.Record

/-!
What changed between two lists of records, as events that turn the one into the other. A later
observation alone is no change.
-/

namespace Namebook

inductive ChangeKind where
  | added
  | modified
  | deleted
  deriving DecidableEq, Repr

def ChangeKind.word : ChangeKind → String
  | added => "added"
  | modified => "modified"
  | deleted => "deleted"

structure Change where
  kind : ChangeKind
  /-- The record as it is now or, once deleted, as it last was. -/
  record : Record
  deriving DecidableEq, Repr

namespace Change

/-- The last of the records with a key. -/
def lastWith? (key : String) (records : List Record) : Option Record :=
  records.reverse.find? fun r => r.key == key

/-- What became of the records of one key, whose record is `now`. -/
def arrival? (previous : List Record) (now : Record) : Option Change :=
  match lastWith? now.key previous with
  | none => some ⟨.added, now⟩
  | some before => if before.contentEq now then none else some ⟨.modified, now⟩

def departure? (current : List Record) (before : Record) : Option Change :=
  if current.any fun r => r.key == before.key then none else some ⟨.deleted, before⟩

/-- First what is new or modified, in the present order, then what is gone, in the former one. -/
def between (previous current : List Record) : List Change :=
  current.filterMap (arrival? previous) ++ previous.filterMap (departure? current)

def arrivals (records : List Record) : List Change := records.map fun r => ⟨.added, r⟩

def toJson (c : Change) : Json :=
  .record [("type", .text c.kind.word), ("fqdn", c.record.toJson)]

end Change

end Namebook
