/-!
White space is Unicode's `White_Space`. Texts are trimmed at it and cut into words by it.
-/

namespace Namebook.Text

def isBlank (c : Char) : Bool :=
  let n := c.toNat
  (9 ≤ n && n ≤ 13) || n == 0x20 || n == 0x85 || n == 0xA0 || n == 0x1680 ||
    (0x2000 ≤ n && n ≤ 0x200A) || n == 0x2028 || n == 0x2029 || n == 0x202F || n == 0x205F ||
    n == 0x3000

def trimStart (cs : List Char) : List Char := cs.dropWhile isBlank

def trimEnd (cs : List Char) : List Char := (cs.reverse.dropWhile isBlank).reverse

def trimChars (cs : List Char) : List Char := trimEnd (trimStart cs)

def trim (s : String) : String := String.ofList (trimChars s.toList)

/-- The trimmed text, if anything is left of it. -/
def nonBlank? (s : String) : Option String :=
  let t := trim s
  if t.isEmpty then none else some t

/-- `word` holds the run met so far, last character first. -/
def wordsFrom : List Char → List Char → List (List Char)
  | [], [] => []
  | [], word => [word.reverse]
  | c :: cs, word =>
    if isBlank c then
      match word with
      | [] => wordsFrom cs []
      | word => word.reverse :: wordsFrom cs []
    else wordsFrom cs (c :: word)

/-- The maximal runs of characters that are not blank. -/
def words (cs : List Char) : List (List Char) := wordsFrom cs []

end Namebook.Text
