import Namebook.Json.Writer
import Namebook.Text.Blank
import Namebook.Text.Split

/-!
JSON values as YAML. Lists and objects are written line by line, a list no deeper than the name
that it belongs to; lines are never folded.
-/

namespace Namebook.Yaml

/-- Words that would be read as something else than a text. -/
def takenWords : List String :=
  ["", "~", "null", "Null", "NULL", "y", "Y", "yes", "Yes", "YES", "n", "N", "no", "No", "NO",
    "true", "True", "TRUE", "false", "False", "FALSE", "on", "On", "ON", "off", "Off", "OFF"]

def isIndicator (c : Char) : Bool := "#,[]\x7b\x7d&*!|>'\"%@\x60".toList.contains c

/-- Whether a character may begin a text without quotes; some may when no space follows. -/
def mayBegin (c : Char) (next : Option Char) : Bool :=
  if c = '-' ∨ c = '?' ∨ c = ':' then next.any fun d => d != ' '
  else !isIndicator c && !c.isDigit && c != '+' && c != '.' && !Text.isBlank c

/-- Whether a colon before a space, or a hash sign after one, would end the text. -/
def breaksOff : List Char → Bool
  | [':'] => true
  | ':' :: ' ' :: _ => true
  | ' ' :: '#' :: _ => true
  | _ :: cs => breaksOff cs
  | [] => false

/-- Whether a text can stand without quotes. -/
def isPlain (s : String) : Bool :=
  match s.toList with
  | [] => false
  | c :: cs =>
    !takenWords.contains s && mayBegin c cs.head? && !breaksOff (c :: cs) &&
      (c :: cs).getLast? != some ' '

def doubleQuote (c : Char) : List Char := if c = '\'' then ['\'', '\''] else [c]

def inQuotes (s : String) : String := "'" ++ String.ofList (s.toList.flatMap doubleQuote) ++ "'"

/-- A text on one line. -/
def textLine (s : String) : String := if isPlain s then s else inQuotes s

def indent (depth : Nat) : String := String.ofList (List.replicate depth ' ')

/-- A text on lines of its own, none of them indented when it is blank. -/
def block (depth : Nat) (s : String) : List String :=
  (Text.pieces '\n' s.toList).map fun line =>
    if line.isEmpty then "" else indent depth ++ String.ofList line

mutual

/-- The rest of the line on which a value begins, and the lines after it. `depth` is the
indentation of what the value belongs to. -/
def value (depth : Nat) : Json → String × List String
  | .text s =>
    if s.toList.contains '\n' then (" |-", block (depth + 2) s) else (" " ++ textLine s, [])
  | .list [] => (" []", [])
  | .list items => ("", listLines depth items)
  | .record [] => (" \x7b\x7d", [])
  | .record fields => ("", recordLines (depth + 2) fields)
  | v => (" " ++ v.render, [])

def recordLines (depth : Nat) : List (String × Json) → List String
  | [] => []
  | (name, v) :: fields =>
    let (first, rest) := value depth v
    (indent depth ++ textLine name ++ ":" ++ first) :: (rest ++ recordLines depth fields)

/-- The first line of an item begins with a hyphen. -/
def listLines (depth : Nat) : List Json → List String
  | [] => []
  | .record (field :: fields) :: items =>
    (match recordLines (depth + 2) (field :: fields) with
      | [] => []
      | line :: lines => (indent depth ++ "- " ++ (line.drop (depth + 2)).toString) :: lines) ++
      listLines depth items
  | v :: items =>
    let (first, rest) := value depth v
    (indent depth ++ "-" ++ first) :: (rest ++ listLines depth items)

end

/-- The lines of an object. -/
def render (v : Json) : String :=
  let lines := match v with
    | .record fields => recordLines 0 fields
    | v => [(value 0 v).1]
  String.join (lines.map (· ++ "\n"))

end Namebook.Yaml
