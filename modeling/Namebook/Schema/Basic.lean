import Namebook.Json
import Namebook.Table

/-!
Schemas of JSON values, as the cluster wants them: attributes in the order of their names.
-/

namespace Namebook

abbrev Schema := List (String × Json)

namespace Schema

def toJson (s : Schema) : Json := .record s

def set (name : String) (value : Json) (s : Schema) : Schema := Table.insert name value s

def text : Schema := [("type", .text "string")]

/-- An integer of 64 bits. -/
def integer : Schema := [("format", .text "int64"), ("type", .text "integer")]

def oneOf (words : List String) : Schema := text.set "enum" (.texts words)

def list (items : Schema) : Schema := [("items", items.toJson), ("type", .text "array")]

def object (properties : List (String × Schema)) : Schema :=
  [("properties", .record (properties.map fun (name, s) => (name, s.toJson))),
    ("type", .text "object")]

def described (note : String) (s : Schema) : Schema := s.set "description" (.text note)

def nullable (s : Schema) : Schema := s.set "nullable" (.bool true)

def defaulting (value : Json) (s : Schema) : Schema := s.set "default" value

def requiring (names : List String) (s : Schema) : Schema := s.set "required" (.texts names)

def titled (title : String) (s : Schema) : Schema := s.set "title" (.text title)

end Schema

end Namebook
