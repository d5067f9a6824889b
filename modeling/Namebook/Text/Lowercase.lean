import Namebook.Text.Case.Lower
import Namebook.Text.Case.Cased
import Namebook.Text.Case.Ignorable

/-!
Full Unicode lower case. Only the capital sigma looks at its neighbours: at the end of a word it
becomes `ς`, elsewhere `σ`.
-/

namespace Namebook.Text

/-- The lower case of a character on its own. -/
def lowerChar (c : Char) : List Char :=
  if c.toNat = 0x130 then ['i', Char.ofNat 0x307] else [Char.ofNat (Case.lowerCode c.toNat)]

/-- Whether the first character that is not case-ignorable is cased. -/
def meetsCased (cs : List Char) : Bool :=
  match cs.dropWhile Case.isIgnorable with
  | [] => false
  | c :: _ => Case.isCased c

/-- A sigma ends its word when a cased character comes before it and none after it. -/
def lowerSigma (before after : List Char) : Char :=
  if meetsCased before && !meetsCased after then 'ς' else 'σ'

/-- `before` holds the characters already passed, nearest first. -/
def lowercaseFrom (before : List Char) : List Char → List Char
  | [] => []
  | c :: after =>
    (if c = 'Σ' then [lowerSigma before after] else lowerChar c) ++
      lowercaseFrom (c :: before) after

def lowercaseChars (cs : List Char) : List Char := lowercaseFrom [] cs

def lowercase (s : String) : String := String.ofList (lowercaseChars s.toList)

end Namebook.Text
