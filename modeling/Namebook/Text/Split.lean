/-!
Cutting a text at a separator. The pieces, joined again by it, are the text.
-/

namespace Namebook.Text

/-- Every separator ends a piece, so there is one piece more than there are separators. -/
def pieces (sep : Char) : List Char → List (List Char)
  | [] => [[]]
  | c :: cs =>
    if c = sep then [] :: pieces sep cs
    else match pieces sep cs with
      | [] => [[c]]
      | p :: ps => (c :: p) :: ps

/-- The texts before and after the first separator. -/
def cut? (sep : Char) : List Char → Option (List Char × List Char)
  | [] => none
  | c :: cs =>
    if c = sep then some ([], cs)
    else (cut? sep cs).map fun (before, after) => (c :: before, after)

def dropReturn (line : List Char) : List Char :=
  if line.getLast? = some '\r' then line.dropLast else line

/-- A line ends at a line feed, with the carriage return before it if there is one. An unfinished
last line counts when it is not empty and keeps its carriage return. -/
def lines (cs : List Char) : List (List Char) :=
  let ps := pieces '\n' cs
  ps.dropLast.map dropReturn ++ ps.getLast?.toList.filter fun line => !line.isEmpty

/-- Begins every line but the first with spaces. -/
def hang (width : Nat) (s : String) : String :=
  String.ofList (s.toList.flatMap fun c =>
    if c = '\n' then c :: List.replicate width ' ' else [c])

/-- Whether the needle occurs in the text as one contiguous run. -/
def contains (needle : List Char) : List Char → Bool
  | [] => needle.isEmpty
  | c :: cs => needle.isPrefixOf (c :: cs) || contains needle cs

end Namebook.Text
